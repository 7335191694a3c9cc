import Tenancy.Proofs.Directory.Phases
import Tenancy.Proofs.Reports

/-!
# Deletions and where they fail

A deletion has two requests to make, and before the second it has to find the identity service. What
each of them came to can be read off its events, and these decide its result and its warnings
(`Deletes.ended`).
-/

namespace Tenancy.Directory

open Program

section Runs

variable {s : Session} {id : UserId} {es : Events} {r : Except Fault Unit}

theorem runs_perform_of_requests {service : Service} {method : Method} {url token : String}
    {body : Option Json} (h : Requests (performed service) method url token body es r) :
    (Action.perform service method url token body).run.Runs es r := by
  rw [Action.run_perform, Request.of?]
  cases h with
  | relative hurl =>
    rw [dif_neg hurl]
    exact .refl _
  | made hurl reply =>
    rw [dif_pos hurl]
    exact .ask (.refl _)

theorem runs_of_closes (h : Closes s id es r) : (closing s id).run.Runs es r := by
  apply (runs_run_bind_iff _ _).mpr
  cases h with
  | @unresolved f =>
    refine .inl ⟨f, runs_noting_error_iff.mpr ⟨_, rfl, runs_endpoint_iff.mpr rfl⟩, rfl⟩
  | @unclosed endpoint es f hclosing =>
    refine .inr ⟨[.asked .endpoint (.ok endpoint)], endpoint, _, rfl, ?_, ?_⟩
    · exact runs_noting_ok_iff.mpr (runs_endpoint_iff.mpr rfl)
    apply (runs_run_bind_iff _ _).mpr
    refine .inl ⟨f, runs_noting_error_iff.mpr ⟨es, rfl, ?_⟩, rfl⟩
    exact runs_perform_of_requests hclosing
  | @closed endpoint es hclosing =>
    refine .inr ⟨[.asked .endpoint (.ok endpoint)], endpoint, _, rfl, ?_, ?_⟩
    · exact runs_noting_ok_iff.mpr (runs_endpoint_iff.mpr rfl)
    apply (runs_run_bind_iff _ _).mpr
    refine .inr ⟨es, (), _, rfl, runs_noting_ok_iff.mpr ?_, runs_say_iff.mpr ⟨rfl, rfl⟩⟩
    exact runs_perform_of_requests hclosing

/-- A deletion may go in every one of these ways. -/
theorem runs_of_deletes (h : Deletes s id es r) : (delete s id).run.Runs es r := by
  rw [delete_eq, run_bind, run_deleteMember, bind_assoc]
  apply runs_bind_iff.mpr
  cases h with
  | @kept es f removal known =>
    refine ⟨es, .error f, [], by simp, runs_perform_of_requests removal, ?_⟩
    rw [afterRemoval, if_neg known]
    exact .refl _
  | @removed es es' r removal further =>
    exact ⟨es, .ok (), es', rfl, runs_perform_of_requests removal, runs_of_closes further⟩
  | @missing es es' f r removal unknown further =>
    refine ⟨es, .error f, _, rfl, runs_perform_of_requests removal, ?_⟩
    rw [afterRemoval, if_pos unknown]
    exact .note (runs_of_closes further)

end Runs

/-- A request to delete what is at a url that comes to nothing: it is invalid, or a fault answers
it. -/
inductive Fails (service : Service) (url : String) (es : Events) : Fault → Prop where
  | relative (relative : ¬ IsAbsolute url) :
      Fails service url es (.invalid s!"request url '{url}' must be absolute")
  | answered {r : Request} {f : Fault} (method : r.method = .delete) (at_url : r.url = url)
      (answered : performed service r (.error f) ∈ es) : Fails service url es f

/-- The platform does not know the user. -/
def Missing (s : Session) (id : UserId) (es : Events) : Prop :=
  ∃ f, Fails .platform (userUrl s id) es f ∧ f.RefusedWith unknownUserCode

/-- The platform has not removed the user, and not because it does not know it. -/
def Kept (s : Session) (id : UserId) (es : Events) (f : Fault) : Prop :=
  Fails .platform (userUrl s id) es f ∧ ¬ f.RefusedWith unknownUserCode

/-- What is noted where the identity service is not found for an account. -/
def endpointUnavailable (id : UserId) (f : Fault) : Note :=
  ⟨.warn, "identity endpoint unavailable after platform user was removed",
    [("user_id", id.text), ("error", f.message)]⟩

/-- What is noted where the identity service does not close an account. -/
def accountLeft (id : UserId) (f : Fault) : Note :=
  ⟨.warn, "identity account deletion failed after platform user was removed",
    [("user_id", id.text), ("error", f.message)]⟩

/-- The account stays behind the removal of the platform user, and it is noted: the identity service
is not found, or it does not close the account. -/
inductive Unfinished (id : UserId) (es : Events) : Fault → Note → Prop where
  | unresolved {f : Fault} (unresolved : .asked .endpoint (.error f) ∈ es) :
      Unfinished id es f (endpointUnavailable id f)
  | unclosed {endpoint : String} {f : Fault} (resolved : .asked .endpoint (.ok endpoint) ∈ es)
      (unclosed : Fails .identity (accountUrl endpoint id) es f) :
      Unfinished id es f (accountLeft id f)

/-- What is noted of a user that the platform does not know. -/
def alreadyAbsent (id : UserId) : Note :=
  ⟨.warn, "platform user already absent; deleting identity account", [("user_id", id.text)]⟩

/-- What is noted about the platform's answer to the first request. -/
def absence (id : UserId) : Except Fault Unit → Option Note
  | .ok () => none
  | .error f => if f.RefusedWith unknownUserCode then some (alreadyAbsent id) else none

theorem absence_eq_some_iff {id : UserId} {removal : Except Fault Unit} {n : Note} :
    absence id removal = some n ↔
      (∃ f, removal = .error f ∧ f.RefusedWith unknownUserCode) ∧ n = alreadyAbsent id := by
  rcases removal with f | _
  · by_cases hf : f.RefusedWith unknownUserCode
    · simp [absence, hf, eq_comm]
    · simp [absence, hf]
  · simp [absence]

/-- No request is performed at a service. -/
def Spared (service : Service) (es : Events) : Prop :=
  ∀ r reply, performed service r reply ∉ es

section Requests

variable {service : Service} {url token : String} {es before after : Events} {f : Fault}
  {r : Except Fault Unit}

/-- The one request that is made to a service decides. -/
theorem Requests.fails_iff (h : Requests (performed service) .delete url token none es r)
    (hbefore : Spared service before) (hafter : Spared service after) :
    Fails service url (before ++ es ++ after) f ↔ r = .error f := by
  cases h with
  | relative hurl =>
    constructor
    · intro hfails
      cases hfails with
      | relative => rfl
      | @answered r _ _ at_url => exact absurd (at_url ▸ r.absolute) hurl
    · rintro ⟨⟩
      exact .relative hurl
  | made hurl reply =>
    constructor
    · intro hfails
      cases hfails with
      | relative hrelative => exact absurd hurl hrelative
      | answered _ _ answered =>
        simp only [List.mem_append, hbefore _ _, hafter _ _, false_or, or_false,
          List.mem_singleton] at answered
        cases answered
        rfl
    · rintro rfl
      exact .answered (r := ⟨.delete, url, token, none, hurl⟩) rfl rfl (by simp)

theorem Requests.spared {other : Service}
    (h : Requests (performed service) .delete url token none es r) (hother : service ≠ other) :
    Spared other es := by
  intro r' reply' hmem
  cases h with
  | relative => cases hmem
  | made hurl reply =>
    rw [List.mem_singleton] at hmem
    cases hmem
    exact hother rfl

theorem Requests.endpoint_notMem
    (h : Requests (performed service) .delete url token none es r) (reply : Except Fault String) :
    .asked .endpoint reply ∉ es := by
  intro hmem
  cases h with
  | relative => cases hmem
  | made hurl reply => exact nomatch List.mem_singleton.mp hmem

end Requests

theorem Requests.reports_eq_nil {β : Type}
    {event : Request → Except Fault β → Event Question Question.Reply} {method : Method}
    {url token : String} {body : Option Json} {es : Events} {r : Except Fault β} {level : Level}
    (h : Requests event method url token body es r)
    (hevent : ∀ request reply, (event request reply).note? = none) :
    Event.reports level es = [] := by
  cases h with
  | relative => rfl
  | made hurl reply => simp [Event.reports, hevent]

/-- No request reports anything by itself. -/
theorem Requests.reports_performed {service : Service} {method : Method} {url token : String}
    {body : Option Json} {es : Events} {r : Except Fault Unit} {level : Level}
    (h : Requests (performed service) method url token body es r) :
    Event.reports level es = [] :=
  h.reports_eq_nil fun _ _ => rfl

/-- What there is before anybody looks for the identity service. -/
structure Early (es : Events) : Prop where
  spared : Spared .identity es
  unasked : ∀ reply, .asked .endpoint reply ∉ es

section Closing

variable {s : Session} {id : UserId} {before es : Events} {r : Except Fault Unit}

theorem Closes.spared (h : Closes s id es r) : Spared .platform es := by
  have hclosing : ∀ {endpoint : String} {es : Events} {n : Note} {r : Except Fault Unit},
      Requests (performed .identity) .delete (accountUrl endpoint id) s.token none es r →
        Spared .platform (.asked .endpoint (.ok endpoint) :: es ++ [.noted n]) := by
    intro endpoint es n r hrequests r' reply' hmem
    simp only [List.cons_append, List.mem_cons, List.mem_append] at hmem
    rcases hmem with hasked | hes | hnoted | hnil
    · cases hasked
    · have hspared : Spared .platform es := hrequests.spared (by decide)
      exact hspared r' reply' hes
    · cases hnoted
    · cases hnil
  cases h with
  | unresolved =>
    intro r' reply' hmem
    simp at hmem
  | unclosed closing => exact hclosing closing
  | closed closing => exact hclosing closing

/-- The answer to the only question for the identity service. -/
theorem Early.asked_iff {es : Events} {n : Note} {endpoint : String} {reply : Except Fault String}
    (hbefore : Early before) (hes : ∀ reply, .asked .endpoint reply ∉ es) :
    .asked .endpoint reply ∈ before ++ (.asked .endpoint (.ok endpoint) :: es ++ [.noted n]) ↔
      reply = .ok endpoint := by
  simp [hbefore.unasked, hes]

/-- Behind the question for the identity service its one request decides. -/
theorem Early.unfinished_iff {endpoint : String} {es : Events} {n n' : Note} {f : Fault}
    (hbefore : Early before)
    (closing : Requests (performed .identity) .delete (accountUrl endpoint id) s.token none es r) :
    Unfinished id (before ++ (.asked .endpoint (.ok endpoint) :: es ++ [.noted n])) f n' ↔
      r = .error f ∧ n' = accountLeft id f := by
  have hasked : ∀ reply, .asked .endpoint reply ∈
      before ++ (.asked .endpoint (.ok endpoint) :: es ++ [.noted n]) ↔ reply = .ok endpoint :=
    fun _ => hbefore.asked_iff closing.endpoint_notMem
  have hfails : Fails .identity (accountUrl endpoint id)
      (before ++ (.asked .endpoint (.ok endpoint) :: es ++ [.noted n])) f ↔ r = .error f := by
    have hfront : Spared .identity (before ++ [.asked .endpoint (.ok endpoint)]) := by
      intro r' reply' hmem
      simp [hbefore.spared r' reply'] at hmem
    have hback : Spared .identity [.noted n] := by
      intro r' reply' hmem
      simp at hmem
    simpa using closing.fails_iff (f := f) hfront hback
  constructor
  · rintro (⟨hunresolved⟩ | ⟨hresolved, hunclosed⟩)
    · cases (hasked _).mp hunresolved
    · cases (hasked _).mp hresolved
      exact ⟨hfails.mp hunclosed, rfl⟩
  · rintro ⟨hr, rfl⟩
    exact .unclosed ((hasked _).mpr rfl) (hfails.mpr hr)

/-- What is left unfinished is the result, and the only warning. -/
theorem Closes.unfinished (h : Closes s id es r) (hbefore : Early before) :
    ∃ rest : Option (Fault × Note),
      (∀ f n, Unfinished id (before ++ es) f n ↔ rest = some (f, n)) ∧
      (∀ f, r = .error f ↔ ∃ n, rest = some (f, n)) ∧
      Event.reports .warn es = rest.toList.map (·.2) := by
  cases h with
  | @unresolved f =>
    refine ⟨some (f, endpointUnavailable id f), fun f' n' => ?_, fun f' => ?_, rfl⟩
    · constructor
      · rintro (⟨hunresolved⟩ | ⟨hresolved, -⟩)
        · obtain rfl : f' = f := by simpa [hbefore.unasked] using hunresolved
          rfl
        · simp [hbefore.unasked] at hresolved
      · rintro ⟨⟩
        exact .unresolved (by simp)
    · simp [eq_comm]
  | @unclosed endpoint es f closing =>
    refine ⟨some (f, accountLeft id f), fun f' n' => ?_, fun f' => ?_, ?_⟩
    · rw [hbefore.unfinished_iff closing]
      constructor
      · rintro ⟨⟨⟩, rfl⟩
        rfl
      · rintro ⟨⟩
        exact ⟨rfl, rfl⟩
    · simp [eq_comm]
    · simp [closing.reports_performed, accountLeft]
  | @closed endpoint es closing =>
    refine ⟨none, fun f' n' => ?_, fun f' => ?_, ?_⟩
    · rw [hbefore.unfinished_iff closing]
      simp
    · simp
    · simp [closing.reports_performed]

end Closing

/-- How both requests of a deletion came out: `removal` is what the first one came to, and `rest`
what was left unfinished behind it, with the warning about it. -/
structure Ended (s : Session) (id : UserId) (es : Events) (r removal : Except Fault Unit)
    (rest : Option (Fault × Note)) : Prop where
  fails_iff : ∀ f, Fails .platform (userUrl s id) es f ↔ removal = .error f
  unfinished_iff : ∀ f n, Unfinished id es f n ↔ rest = some (f, n)
  result : ∀ f, r = .error f ↔
    removal = .error f ∧ ¬ f.RefusedWith unknownUserCode ∨ ∃ n, rest = some (f, n)
  kept : ∀ f, removal = .error f → ¬ f.RefusedWith unknownUserCode → rest = none
  warnings : Event.reports .warn es = (absence id removal).toList ++ rest.toList.map (·.2)

section Ending

variable {s : Session} {id : UserId} {es : Events} {r : Except Fault Unit}

/-- Behind a tolerated answer of the platform the second request decides. -/
theorem Closes.ended {before : Events} {removal : Except Fault Unit} (h : Closes s id es r)
    (hbefore : Early before)
    (hfails : ∀ f, Fails .platform (userUrl s id) (before ++ es) f ↔ removal = .error f)
    (htolerated : ∀ f, removal = .error f → f.RefusedWith unknownUserCode)
    (hnoted : Event.reports .warn before = (absence id removal).toList) :
    ∃ rest, Ended s id (before ++ es) r removal rest := by
  obtain ⟨rest, hrest, hresult, hwarnings⟩ := h.unfinished hbefore
  refine ⟨rest, hfails, hrest, ?_, ?_, ?_⟩
  · intro f
    rw [hresult]
    constructor
    · exact .inr
    · rintro (⟨hremoval, hknown⟩ | hrest)
      · exact absurd (htolerated f hremoval) hknown
      · exact hrest
  · intro f hremoval hknown
    exact absurd (htolerated f hremoval) hknown
  · rw [Event.reports_append, hnoted, hwarnings]

theorem Deletes.ended (h : Deletes s id es r) : ∃ removal rest, Ended s id es r removal rest := by
  have hnothing : Spared .platform [] := fun _ _ => List.not_mem_nil
  cases h with
  | @kept es f removal known =>
    have hearly : Early es := ⟨removal.spared (by decide), removal.endpoint_notMem⟩
    refine ⟨.error f, none, ?_, ?_, ?_, fun _ _ _ => rfl, ?_⟩
    · intro f'
      simpa using removal.fails_iff (f := f') hnothing hnothing
    · intro f' n'
      constructor
      · rintro (⟨hasked⟩ | ⟨hasked, -⟩)
        · exact absurd hasked (hearly.unasked _)
        · exact absurd hasked (hearly.unasked _)
      · rintro ⟨⟩
    · intro f'
      constructor
      · rintro ⟨⟩
        exact .inl ⟨rfl, known⟩
      · rintro (⟨hremoval, -⟩ | ⟨n, hrest⟩)
        · exact hremoval
        · cases hrest
    · simp [absence, known, removal.reports_performed]
  | @removed es es' r removal further =>
    refine ⟨.ok (), further.ended ⟨removal.spared (by decide), removal.endpoint_notMem⟩ ?_ nofun ?_⟩
    · intro f'
      simpa using removal.fails_iff (f := f') hnothing further.spared
    · exact removal.reports_performed
  | @missing es es' f r removal unknown further =>
    change ∃ removal rest, Ended s id (es ++ .noted (alreadyAbsent id) :: es') r removal rest
    have hspared : Spared .identity es := removal.spared (by decide)
    have hearly : Early (es ++ [.noted (alreadyAbsent id)]) := by
      refine ⟨fun r reply hmem => ?_, fun reply hmem => ?_⟩
      · simp [hspared r reply] at hmem
      · simp [removal.endpoint_notMem reply] at hmem
    have hafter : Spared .platform (.noted (alreadyAbsent id) :: es') := by
      intro r reply hmem
      simp [further.spared r reply] at hmem
    rw [List.append_cons]
    refine ⟨.error f, further.ended hearly ?_ ?_ ?_⟩
    · intro f'
      simpa using removal.fails_iff (f := f') hnothing hafter
    · rintro _ ⟨⟩
      exact unknown
    · simp [absence, unknown, removal.reports_performed, alreadyAbsent]

end Ending

end Tenancy.Directory
