import Tenancy.Proofs.Directory.Deletion
import Tenancy.Proofs.Directory.Population

/-!
# Deletions taken up again

A deletion that has failed is finished by deleting the user once more. What services do that answer
truthfully is `Truthful`, and `Faltering` if they may fail as well, without effect. Attempts that
fail leave the account in place and take away the platform user at most (`Partly`), from where an
attempt comes to its end exactly if nothing fails in it (`deletions_resume`).
-/

namespace Tenancy.Directory

open Program

namespace Change

/-- A service can take away only what is there. -/
def Possible : Change → Population → Prop
  | .openAccount, _ | .addMember _, _ => True
  | .removeMember id, w => id ∈ w.members
  | .closeAccount id, w => id ∈ w.accounts

end Change

/-- How services take a call that answer truthfully: they make the change that is asked for if they
can, and fail if they cannot. Of a user that it does not know the platform says so. -/
inductive Truthful (s : Session) : Population → (c : Call) → c.Reply → Population → Prop where
  | idle {w : Population} {c : Call} (reply : c.Reply) (idle : ∀ d, ¬ Asks s c d) :
      Truthful s w c reply w
  | carried {w w' : Population} {c : Call} {d : Change} {reply : c.Reply} (asks : Asks s c d)
      (possible : d.Possible w) (makes : d.Makes w w') (answered : c.fault? reply = none) :
      Truthful s w c reply w'
  | refused {w : Population} {c : Call} {d : Change} {reply : c.Reply} {f : Fault}
      (asks : Asks s c d) (impossible : ¬ d.Possible w) (failed : c.fault? reply = some f)
      (honest : ∀ id, d = .removeMember id → f.RefusedWith unknownUserCode) :
      Truthful s w c reply w

/-- How services take a call that may fail without effect. The platform says that it does not know a
user only if this is the case. -/
inductive Faltering (s : Session) : Population → (c : Call) → c.Reply → Population → Prop where
  | truthful {w w' : Population} {c : Call} {reply : c.Reply} (truthful : Truthful s w c reply w') :
      Faltering s w c reply w'
  | failed {w : Population} {c : Call} {d : Change} {reply : c.Reply} {f : Fault}
      (asks : Asks s c d) (failed : c.fault? reply = some f)
      (other : ∀ id, d = .removeMember id → ¬ f.RefusedWith unknownUserCode) :
      Faltering s w c reply w

/-- The population without a user. -/
def Population.without (w : Population) (id : String) : Population :=
  ⟨w.members \ {id}, w.accounts \ {id}⟩

/-- What is left by attempts to delete a user that have failed. -/
structure Partly (id : UserId) (w w' : Population) : Prop where
  accounts : w'.accounts = w.accounts
  members : w'.members = w.members ∨ w'.members = w.members \ {id.text}

theorem Partly.without {id : UserId} {w w' : Population} (h : Partly id w w') :
    w'.without id.text = w.without id.text := by
  rw [Population.without, Population.without, h.accounts]
  rcases h.members with hmembers | hmembers
  · rw [hmembers]
  · rw [hmembers, Set.sdiff_sdiff, Set.union_self]

theorem Partly.trans {id : UserId} {w w' w'' : Population} (h : Partly id w w')
    (h' : Partly id w' w'') : Partly id w w'' := by
  refine ⟨h'.accounts.trans h.accounts, ?_⟩
  rcases h'.members with hmembers | hmembers
  · rw [hmembers]
    exact h.members
  · rw [hmembers]
    exact .inr (congrArg Population.members h.without)

/-- Every answer to the question for the identity service leads to an account's address. -/
def Resolved (id : UserId) (es : Events) : Prop :=
  ∀ reply, .asked .endpoint reply ∈ es →
    ∃ endpoint, reply = .ok endpoint ∧ IsAbsolute (accountUrl endpoint id)

/-- Nothing fails in a deletion but what truthful services have to refuse. -/
structure Undisturbed (s : Session) (id : UserId) (w : Population) (es : Events)
    (w' : Population) : Prop where
  absolute : IsAbsolute (userUrl s id)
  resolved : Resolved id es
  truthful : Passes (Law.onQuestions (Truthful s)) w es w'

/-- Asking for the identity service and noting what has come of its answer change nothing. -/
theorem passes_resolved_iff {calls : Law Call Call.Reply Population} {w w' : Population}
    {es : Events} {reply : Except Fault String} {n : Note} :
    Passes calls.onQuestions w (.asked .endpoint reply :: es ++ [.noted n]) w' ↔
      Passes calls.onQuestions w es w' := by
  rw [Passes.append_iff]
  constructor
  · rintro ⟨w₁, hasked, hnoted⟩
    obtain rfl := Passes.nil_iff.mp (Passes.noted_iff.mp hnoted)
    obtain ⟨_, rfl, hes⟩ := Passes.asked_iff.mp hasked
    exact hes
  · intro hes
    exact ⟨w', .asked rfl hes, .noted (.nil w')⟩

section Requests

variable {s : Session} {service : Service} {url token : String} {d : Change} {w w' : Population}
  {es : Events} {r : Except Fault Unit}

theorem Truthful.of_asks {c : Call} {reply : c.Reply} (h : Truthful s w c reply w')
    (ha : Asks s c d) :
    c.fault? reply = none ∧ d.Possible w ∧ d.Makes w w' ∨
      ¬ d.Possible w ∧ w' = w ∧ ∃ f, c.fault? reply = some f ∧
        ∀ id, d = .removeMember id → f.RefusedWith unknownUserCode := by
  cases h with
  | idle _ idle => exact absurd ha (idle d)
  | carried asks possible makes answered =>
    obtain rfl := ha.unique asks
    exact .inl ⟨answered, possible, makes⟩
  | refused asks impossible failed honest =>
    obtain rfl := ha.unique asks
    exact .inr ⟨impossible, rfl, _, failed, honest⟩

theorem Faltering.of_asks {c : Call} {reply : c.Reply} (h : Faltering s w c reply w')
    (ha : Asks s c d) :
    Truthful s w c reply w' ∨ w' = w ∧ ∃ f, c.fault? reply = some f ∧
      ∀ id, d = .removeMember id → ¬ f.RefusedWith unknownUserCode := by
  cases h with
  | truthful truthful => exact .inl truthful
  | failed asks failed other =>
    obtain rfl := ha.unique asks
    exact .inr ⟨rfl, _, failed, other⟩

/-- What comes of a request that truthful services answer. -/
theorem Requests.truthful (h : Requests (performed service) .delete url token none es r)
    (hasks : ∀ hurl, Asks s ⟨service, .perform ⟨.delete, url, token, none, hurl⟩⟩ d)
    (hurl : IsAbsolute url) (hw : Passes (Law.onQuestions (Truthful s)) w es w') :
    r = .ok () ∧ d.Possible w ∧ d.Makes w w' ∨
      ¬ d.Possible w ∧ w' = w ∧ ∃ f, r = .error f ∧
        ∀ id, d = .removeMember id → f.RefusedWith unknownUserCode := by
  cases h with
  | relative hrelative => exact absurd hurl hrelative
  | made hurl reply =>
    obtain ⟨w₁, hcall, hrest⟩ := Passes.asked_iff.mp hw
    obtain rfl := Passes.nil_iff.mp hrest
    have hcall : Truthful s w ⟨service, .perform ⟨.delete, url, token, none, hurl⟩⟩ r w' := hcall
    rcases hcall.of_asks (hasks hurl) with ⟨hanswered, hmade⟩ | ⟨himpossible, hw, f, hf, hhonest⟩
    · left
      cases r with
      | ok => exact ⟨rfl, hmade⟩
      | error f => cases hanswered
    · exact .inr ⟨himpossible, hw, f, Query.fault?_perform.mp hf, hhonest⟩

/-- What services that may fail make of a request, truthful ones might make of it as well, or it
fails without effect. -/
theorem Requests.faltering (h : Requests (performed service) .delete url token none es r)
    (hasks : ∀ hurl, Asks s ⟨service, .perform ⟨.delete, url, token, none, hurl⟩⟩ d)
    (hw : Passes (Law.onQuestions (Faltering s)) w es w') :
    IsAbsolute url ∧ Passes (Law.onQuestions (Truthful s)) w es w' ∨
      w' = w ∧ ∃ f, r = .error f ∧
        ∀ id, d = .removeMember id → ¬ f.RefusedWith unknownUserCode := by
  cases h with
  | relative hrelative =>
    obtain rfl := Passes.nil_iff.mp hw
    exact .inr ⟨rfl, _, rfl, fun _ _ => id⟩
  | made hurl reply =>
    obtain ⟨w₁, hcall, hrest⟩ := Passes.asked_iff.mp hw
    obtain rfl := Passes.nil_iff.mp hrest
    have hcall : Faltering s w ⟨service, .perform ⟨.delete, url, token, none, hurl⟩⟩ r w' := hcall
    rcases hcall.of_asks (hasks hurl) with htruthful | ⟨hw, f, hf, hother⟩
    · exact .inl ⟨hurl, .asked htruthful (.nil _)⟩
    · exact .inr ⟨hw, f, Query.fault?_perform.mp hf, hother⟩

end Requests

section Attempt

variable {s : Session} {id : UserId} {w w' : Population} {es : Events} {r : Except Fault Unit}

/-- The change that the first request asks for. -/
theorem asks_removeMember (hurl : IsAbsolute (userUrl s id)) :
    Asks s ⟨.platform, .perform ⟨.delete, userUrl s id, s.token, none, hurl⟩⟩
      (.removeMember id.text) :=
  .removeMember id rfl rfl rfl rfl

/-- The change that the second request asks for. -/
theorem asks_closeAccount {endpoint : String} (hurl : IsAbsolute (accountUrl endpoint id)) :
    Asks s ⟨.identity, .perform ⟨.delete, accountUrl endpoint id, s.token, none, hurl⟩⟩
      (.closeAccount id.text) :=
  .closeAccount endpoint id rfl rfl rfl rfl

section Removal

variable (h : Requests (performed .platform) .delete (userUrl s id) s.token none es r)
include h

/-- Truthful services fail at the first request only where there is no user. -/
theorem removal_truthful (hurl : IsAbsolute (userUrl s id))
    (hw : Passes (Law.onQuestions (Truthful s)) w es w') :
    (∀ f, r = .error f → f.RefusedWith unknownUserCode) ∧
      w' = { w with members := w.members \ {id.text} } := by
  rcases h.truthful asks_removeMember hurl hw with ⟨rfl, -, hmakes⟩ | ⟨habsent, rfl, f, rfl, hf⟩
  · cases hmakes
    exact ⟨nofun, rfl⟩
  · refine ⟨?_, ?_⟩
    · rintro _ ⟨⟩
      exact hf id.text rfl
    · rw [Set.sdiff_singleton_eq_self habsent]

theorem removal_faltering (hw : Passes (Law.onQuestions (Faltering s)) w es w') :
    IsAbsolute (userUrl s id) ∧ Passes (Law.onQuestions (Truthful s)) w es w' ∨
      w' = w ∧ ∃ f, r = .error f ∧ ¬ f.RefusedWith unknownUserCode := by
  apply (h.faltering asks_removeMember hw).imp_right
  rintro ⟨hw, f, hf, hother⟩
  exact ⟨hw, f, hf, hother id.text rfl⟩

end Removal

/-- Of the account nothing is lost until the deletion comes to its end. -/
theorem Closes.faltering (h : Closes s id es r)
    (hw : Passes (Law.onQuestions (Faltering s)) w es w') :
    (r = .ok () → Resolved id es ∧ Passes (Law.onQuestions (Truthful s)) w es w' ∧
      w' = { w with accounts := w.accounts \ {id.text} }) ∧ ∀ f, r = .error f → w' = w := by
  cases h with
  | unresolved =>
    have hes : Passes (Law.onQuestions (Faltering s)) w [] w' := passes_resolved_iff.mp hw
    exact ⟨nofun, fun _ _ => Passes.nil_iff.mp hes⟩
  | unclosed closing =>
    have hes := passes_resolved_iff.mp hw
    refine ⟨nofun, fun _ _ => ?_⟩
    rcases closing.faltering asks_closeAccount hes with ⟨hurl, htruthful⟩ | ⟨hw, -⟩
    · rcases closing.truthful asks_closeAccount hurl htruthful with ⟨⟨⟩, -⟩ | ⟨-, hw, -⟩
      exact hw
    · exact hw
  | @closed endpoint es closing =>
    have hes := passes_resolved_iff.mp hw
    refine ⟨fun _ => ?_, nofun⟩
    rcases closing.faltering asks_closeAccount hes with ⟨hurl, htruthful⟩ | ⟨-, f, ⟨⟩, -⟩
    refine ⟨?_, passes_resolved_iff.mpr htruthful, ?_⟩
    · intro reply hreply
      obtain rfl : reply = .ok endpoint := by
        simpa [closing.endpoint_notMem reply] using hreply
      exact ⟨endpoint, rfl, hurl⟩
    · rcases closing.truthful asks_closeAccount hurl htruthful with ⟨-, -, hmakes⟩ | ⟨-, -, f, ⟨⟩, -⟩
      cases hmakes
      rfl

/-- Where there is an account nothing but a failure keeps a deletion from its end. -/
theorem Closes.truthful (h : Closes s id es r) (haccount : id.text ∈ w.accounts)
    (hresolved : Resolved id es) (hw : Passes (Law.onQuestions (Truthful s)) w es w') :
    r = .ok () := by
  cases h with
  | unresolved =>
    obtain ⟨endpoint, ⟨⟩, -⟩ := hresolved _ List.mem_cons_self
  | @unclosed endpoint es f closing =>
    obtain ⟨_, ⟨⟩, hurl⟩ := hresolved (.ok endpoint) (by simp)
    have hes := passes_resolved_iff.mp hw
    rcases closing.truthful asks_closeAccount hurl hes with ⟨⟨⟩, -⟩ | ⟨hclosed, -⟩
    exact absurd haccount hclosed
  | closed => rfl

theorem Undisturbed.of_append {before : Events} {w₁ : Population}
    (hurl : IsAbsolute (userUrl s id)) (hbefore : ∀ reply, .asked .endpoint reply ∉ before)
    (hremoved : Passes (Law.onQuestions (Truthful s)) w before w₁) (hresolved : Resolved id es)
    (hclosed : Passes (Law.onQuestions (Truthful s)) w₁ es w') :
    Undisturbed s id w (before ++ es) w' := by
  refine ⟨hurl, ?_, Passes.append_iff.mpr ⟨w₁, hremoved, hclosed⟩⟩
  intro reply hreply
  rcases List.mem_append.mp hreply with hfront | hback
  · exact absurd hfront (hbefore reply)
  · exact hresolved reply hback

/-- What an attempt comes to behind the removal of the platform user. -/
theorem Closes.behind {before : Events} (h : Closes s id es r)
    (hurl : IsAbsolute (userUrl s id)) (hbefore : ∀ reply, .asked .endpoint reply ∉ before)
    (htruthful : Passes (Law.onQuestions (Truthful s)) w before
      { w with members := w.members \ {id.text} })
    (hw : Passes (Law.onQuestions (Faltering s)) { w with members := w.members \ {id.text} } es w') :
    (r = .ok () → Undisturbed s id w (before ++ es) w' ∧ w' = w.without id.text) ∧
      ∀ f, r = .error f → Partly id w w' := by
  obtain ⟨hok, herror⟩ := h.faltering hw
  constructor
  · intro hr
    obtain ⟨hresolved, hclosed, hw'⟩ := hok hr
    exact ⟨.of_append hurl hbefore htruthful hresolved hclosed, hw'⟩
  · intro f hf
    rw [herror f hf]
    exact ⟨rfl, .inr rfl⟩

/-- An attempt that succeeds has met no failure and leaves nothing of the user; one that fails
leaves the account. -/
theorem Deletes.faltering (h : Deletes s id es r)
    (hw : Passes (Law.onQuestions (Faltering s)) w es w') :
    (r = .ok () → Undisturbed s id w es w' ∧ w' = w.without id.text) ∧
      ∀ f, r = .error f → Partly id w w' := by
  cases h with
  | kept removal known =>
    refine ⟨nofun, fun _ _ => ?_⟩
    rcases removal_faltering removal hw with ⟨hurl, htruthful⟩ | ⟨rfl, -⟩
    · exact absurd ((removal_truthful removal hurl htruthful).1 _ rfl) known
    · exact ⟨rfl, .inl rfl⟩
  | removed removal further =>
    obtain ⟨w₁, hremoval, hfurther⟩ := Passes.append_iff.mp hw
    rcases removal_faltering removal hremoval with ⟨hurl, htruthful⟩ | ⟨-, f, ⟨⟩, -⟩
    obtain ⟨-, rfl⟩ := removal_truthful removal hurl htruthful
    exact further.behind hurl removal.endpoint_notMem htruthful hfurther
  | @missing es es' f r removal unknown further =>
    obtain ⟨w₁, hremoval, hnoted⟩ := Passes.append_iff.mp hw
    rcases removal_faltering removal hremoval with ⟨hurl, htruthful⟩ | ⟨-, _, ⟨⟩, hknown⟩
    · obtain ⟨-, rfl⟩ := removal_truthful removal hurl htruthful
      rw [List.append_cons]
      apply further.behind hurl _ _ (Passes.noted_iff.mp hnoted)
      · intro reply hreply
        simp [removal.endpoint_notMem reply] at hreply
      · exact Passes.append_iff.mpr ⟨_, htruthful, .noted (.nil _)⟩
    · exact absurd unknown hknown

/-- Where there is an account nothing but a failure keeps an attempt from its end. -/
theorem Deletes.truthful (h : Deletes s id es r) (haccount : id.text ∈ w.accounts)
    (hw : Undisturbed s id w es w') : r = .ok () := by
  cases h with
  | kept removal known =>
    exact absurd ((removal_truthful removal hw.absolute hw.truthful).1 _ rfl) known
  | removed removal further =>
    obtain ⟨w₁, hremoval, hfurther⟩ := Passes.append_iff.mp hw.truthful
    obtain ⟨-, rfl⟩ := removal_truthful removal hw.absolute hremoval
    refine further.truthful ?_ ?_ hfurther
    · exact haccount
    · exact fun reply hreply => hw.resolved reply (List.mem_append_right _ hreply)
  | missing removal unknown further =>
    obtain ⟨w₁, hremoval, hnoted⟩ := Passes.append_iff.mp hw.truthful
    obtain ⟨-, rfl⟩ := removal_truthful removal hw.absolute hremoval
    refine further.truthful ?_ ?_ (Passes.noted_iff.mp hnoted)
    · exact haccount
    · exact fun reply hreply =>
        hw.resolved reply (List.mem_append_right _ (List.mem_cons_of_mem _ hreply))

end Attempt

/-- The results of attempts to delete a user, one after the other, and what they leave. -/
inductive Attempts (s : Session) (id : UserId) (w : Population) :
    List (Except Fault Unit) → Population → Prop where
  | nil : Attempts s id w [] w
  | snoc {past : List (Except Fault Unit)} {w₁ w₂ : Population} {es : Events}
      {r : Except Fault Unit} (before : Attempts s id w past w₁)
      (run : (delete s id).run.Runs es r)
      (world : Passes (Law.onQuestions (Faltering s)) w₁ es w₂) :
      Attempts s id w (past ++ [r]) w₂

section Attempts

variable {s : Session} {id : UserId} {w w₁ : Population} {past : List (Except Fault Unit)}

/-- However many attempts fail, they leave the account. -/
theorem Attempts.partly (h : Attempts s id w past w₁) (hfailed : .ok () ∉ past) :
    Partly id w w₁ := by
  induction h with
  | nil => exact ⟨rfl, .inl rfl⟩
  | @snoc past w₁ w₂ es r _ run world ih =>
    rw [List.mem_append, not_or, List.mem_singleton] at hfailed
    have hbefore := ih hfailed.1
    cases r with
    | ok => exact absurd rfl hfailed.2
    | error f => exact hbefore.trans (((deletes_of_runs run).faltering world).2 f rfl)

/-- Truthful services close an account that there is. -/
theorem exists_closes {endpoint : String} (hurl : IsAbsolute (accountUrl endpoint id)) :
    ∃ es, Closes s id es (.ok ()) ∧ .asked .endpoint (.ok endpoint) ∈ es ∧ Resolved id es ∧
      ∀ w : Population, id.text ∈ w.accounts → Passes (Law.onQuestions (Truthful s)) w es
        { w with accounts := w.accounts \ {id.text} } := by
  refine ⟨_, .closed (.made hurl (.ok ())), by simp, ?_, ?_⟩
  · intro reply hreply
    exact ⟨endpoint, by simpa using hreply, hurl⟩
  · intro w haccount
    apply passes_resolved_iff.mpr
    exact .asked (.carried (asks_closeAccount hurl) haccount .closeAccount rfl) (.nil _)

/-- Truthful services delete a user who has an account, also if the platform user is gone. -/
theorem exists_undisturbed {endpoint : String} (haccount : id.text ∈ w.accounts)
    (huser : IsAbsolute (userUrl s id)) (hurl : IsAbsolute (accountUrl endpoint id)) :
    ∃ es, (delete s id).run.Runs es (.ok ()) ∧ .asked .endpoint (.ok endpoint) ∈ es ∧
      Undisturbed s id w es (w.without id.text) := by
  obtain ⟨es, hcloses, hasked, hresolved, hclosed⟩ := exists_closes (s := s) hurl
  by_cases hmember : id.text ∈ w.members
  · refine ⟨_, runs_of_deletes (.removed (.made huser (.ok ())) hcloses), ?_, ?_⟩
    · exact List.mem_append_right _ hasked
    · have hclosed := hclosed ⟨w.members \ {id.text}, w.accounts⟩ haccount
      apply Undisturbed.of_append huser _ _ hresolved hclosed
      · simp
      · exact .asked (.carried (asks_removeMember huser) hmember .removeMember rfl) (.nil _)
  · have hunknown : (Fault.refused (.answered 404 (some unknownUserCode) "unknown")).RefusedWith
        unknownUserCode := rfl
    have hwithout : w.without id.text = { w with accounts := w.accounts \ {id.text} } := by
      rw [Population.without, Set.sdiff_singleton_eq_self hmember]
    refine ⟨_, runs_of_deletes (.missing (.made huser (.error _)) hunknown hcloses), ?_, ?_⟩
    · exact List.mem_append_right _ (List.mem_cons_of_mem _ hasked)
    · rw [List.append_cons, hwithout]
      apply Undisturbed.of_append huser _ _ hresolved (hclosed w haccount)
      · simp
      · exact .asked (.refused (asks_removeMember huser) hmember rfl fun _ _ => hunknown)
          (.noted (.nil _))

end Attempts

/-- As long as no attempt to delete a user has succeeded, the account is still there if it was there
at first. From there the next attempt succeeds exactly if nothing fails in it but the removal of a
platform user that is gone, and then neither service has anything left of the user; and such an
attempt is possible, whatever the others have achieved. -/
theorem deletions_resume {s : Session} {id : UserId} {w w₁ : Population}
    {past : List (Except Fault Unit)} (haccount : id.text ∈ w.accounts)
    (hpast : Attempts s id w past w₁) (hfailed : .ok () ∉ past) :
    id.text ∈ w₁.accounts ∧
      (∀ es r w₂, (delete s id).run.Runs es r →
        Passes (Law.onQuestions (Faltering s)) w₁ es w₂ →
          (r = .ok () ↔ Undisturbed s id w₁ es w₂) ∧ (r = .ok () → w₂ = w.without id.text)) ∧
      ∀ endpoint, IsAbsolute (userUrl s id) → IsAbsolute (accountUrl endpoint id) →
        ∃ es, (delete s id).run.Runs es (.ok ()) ∧ .asked .endpoint (.ok endpoint) ∈ es ∧
          Undisturbed s id w₁ es (w.without id.text) := by
  have hpartly := hpast.partly hfailed
  have hleft : id.text ∈ w₁.accounts := hpartly.accounts ▸ haccount
  refine ⟨hleft, ?_, ?_⟩
  · intro es r w₂ hrun hw
    have hdeletes := deletes_of_runs hrun
    obtain ⟨hok, -⟩ := hdeletes.faltering hw
    refine ⟨⟨fun hr => (hok hr).1, hdeletes.truthful hleft⟩, ?_⟩
    intro hr
    rw [(hok hr).2, hpartly.without]
  · intro endpoint huser hurl
    rw [← hpartly.without]
    exact exists_undisturbed hleft huser hurl

/-- A user is deleted while nobody says where the identity service is. -/
def interrupted : Events := [
  .asked (.call ⟨.platform, .perform ⟨.delete, "http://api/v2/users/u1", "t", none, by decide⟩⟩)
    (.ok ()),
  .asked .endpoint (.error (.internal "down")),
  .noted (endpointUnavailable ann (.internal "down"))]

def resumed : Events := [
  .asked (.call ⟨.platform, .perform ⟨.delete, "http://api/v2/users/u1", "t", none, by decide⟩⟩)
    (.error (.refused (.answered 404 (some "20003") "unknown"))),
  .noted (alreadyAbsent ann),
  .asked .endpoint (.ok "http://id"),
  .asked (.call ⟨.identity, .perform ⟨.delete, "http://id/Users/u1", "t", none, by decide⟩⟩) (.ok ()),
  .noted ⟨.info, "user deleted", [("user_id", "u1")]⟩]

theorem deletions_resume_interrupted :
    Attempts sampleSession ann ⟨{"u1"}, {"u1"}⟩ [.error (.internal "down")]
        ⟨{"u1"} \ {"u1"}, {"u1"}⟩ ∧
      .ok () ∉ [(.error (.internal "down") : Except Fault Unit)] ∧
      (delete sampleSession ann).run.Runs resumed (.ok ()) ∧
      Undisturbed sampleSession ann ⟨{"u1"} \ {"u1"}, {"u1"}⟩ resumed
        (Population.without ⟨{"u1"}, {"u1"}⟩ "u1") := by
  have hinterrupted : Attempts sampleSession ann ⟨{"u1"}, {"u1"}⟩ [.error (.internal "down")]
      ⟨{"u1"} \ {"u1"}, {"u1"}⟩ := by
    have hrun : (delete sampleSession ann).run.Runs interrupted (.error (.internal "down")) :=
      .ask (.ask (.note (.refl _)))
    apply Attempts.snoc .nil hrun
    apply Passes.asked
    · exact .truthful (.carried (.removeMember ann rfl rfl rfl rfl) rfl .removeMember rfl)
    · exact .asked rfl (.noted (.nil _))
  have hresumed : (delete sampleSession ann).run.Runs resumed (.ok ()) :=
    .ask (.note (.ask (.ask (.note (.refl _)))))
  have hworld : Passes (Law.onQuestions (Faltering sampleSession)) ⟨{"u1"} \ {"u1"}, {"u1"}⟩ resumed
      ⟨{"u1"} \ {"u1"}, {"u1"} \ {"u1"}⟩ := by
    apply Passes.asked
    · apply Faltering.truthful
      apply Truthful.refused (.removeMember ann rfl rfl rfl rfl) _ rfl
      · exact fun _ _ => rfl
      · simp [Change.Possible, ann]
    · apply Passes.noted
      apply Passes.asked rfl
      apply Passes.asked
      · apply Faltering.truthful
        exact .carried (.closeAccount "http://id" ann rfl rfl rfl rfl) rfl .closeAccount rfl
      · exact .noted (.nil _)
  have hfailed : .ok () ∉ [(.error (.internal "down") : Except Fault Unit)] := by
    simp
  have haccount : ann.text ∈ (Population.mk {"u1"} {"u1"}).accounts := rfl
  obtain ⟨-, hnext, -⟩ := deletions_resume haccount hinterrupted hfailed
  obtain ⟨hiff, hleft⟩ := hnext resumed (.ok ()) _ hresumed hworld
  refine ⟨hinterrupted, hfailed, hresumed, ?_⟩
  have hundisturbed := hiff.mp rfl
  rw [hleft rfl] at hundisturbed
  exact hundisturbed

end Tenancy.Directory
