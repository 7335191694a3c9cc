import Tenancy.Proofs.Directory.Confinement
import Tenancy.Proofs.Http.Sending

/-!
# Bad input

What an operation that fails for what it was given has changed over HTTP. Arguments are looked at
first, but an address only when it is the turn of its request, so bad input may leave one change
behind: an account without its platform user where only the identity service lies at an absolute
address, or a deletion that only the platform has carried out where only the platform does
(`HalfDone`). There is nothing else (`bad_input_changes_nothing_else`).
-/

namespace Tenancy

/-- What is behind a part that cannot be the beginning of a scheme makes no difference. -/
theorem isAbsolute_append_iff {front rest : String} {c : Char} (hmem : c ∈ front.toList)
    (hc : c ∉ "https://".toList) : IsAbsolute (front ++ rest) ↔ IsAbsolute front := by
  have hscheme : ∀ scheme : List Char, c ∉ scheme →
      (scheme <+: (front ++ rest).toList ↔ scheme <+: front.toList) := by
    intro scheme hnot
    rw [String.toList_append]
    constructor
    · intro h
      rcases List.prefix_or_prefix_of_prefix h (List.prefix_append front.toList rest.toList) with
          hfront | hfront
      · exact hfront
      · exact absurd (hfront.subset hmem) hnot
    · intro h
      exact h.trans (List.prefix_append _ _)
  have hsub : "http://".toList ⊆ "https://".toList := by decide
  exact or_congr (hscheme _ fun h => hc (hsub h)) (hscheme _ hc)

theorem UserId.not_ofInput_of_received {prelude text : String} {f : Fault}
    (h : received prelude text = .error f) : ¬ f.OfInput := by
  rcases received_cases prelude text with ⟨-, id, hid, -⟩ | ⟨-, why, hwhy⟩
  · cases h.symm.trans hid
  · cases h.symm.trans hwhy
    exact nofun

theorem Account.not_ofInput_of_createdId {username : String} {document : Json} {f : Fault}
    (h : createdId username document = .error f) : ¬ f.OfInput := by
  unfold createdId at h
  cases hdecode : createdShape.decode document with
  | error m =>
    simp only [hdecode, Json.usable_error, bind, Except.bind] at h
    cases h
    exact nofun
  | ok text =>
    simp only [hdecode, Json.usable_ok, bind, Except.bind] at h
    exact UserId.not_ofInput_of_received h

theorem Endpoint.not_ofInput_of_ofInfo {document : Json} {f : Fault}
    (h : ofInfo document = .error f) : ¬ f.OfInput := by
  unfold ofInfo at h
  cases hdecode : infoShape.decode document with
  | error m =>
    rw [hdecode] at h
    cases h
    exact nofun
  | ok advertised =>
    rw [hdecode] at h
    by_cases haddress : Text.baseAddress (advertised.getD "") = ""
    · simp only [Except.mapError, bind, Except.bind, haddress, if_true] at h
      cases h
      exact nofun
    · simp only [Except.mapError, bind, Except.bind, haddress, if_false] at h
      cases h

namespace Directory

open Program

/-- What bad input may leave half done, with the fault that it ends in and the message that has been
sent before. -/
inductive HalfDone (s : Session) :
    Endpoint.Source → Operation → Fault → Http.Message → Prop where
  | creation {endpoint username password : String} (account : IsAbsolute (accountsUrl endpoint))
      (member : ¬ IsAbsolute (usersUrl s)) :
      HalfDone s (.fixed (.ok endpoint)) (.create username password)
        (.invalid s!"request url '{usersUrl s}' must be absolute")
        ⟨.post, accountsUrl endpoint, Http.bearer s.token,
          some (Account.creation username password).text⟩
  | deletion {source : Endpoint.Source} {endpoint : String} {id : UserId}
      (found : source = .fixed (.ok endpoint) ∨ source = .discovered)
      (member : IsAbsolute (userUrl s id)) (account : ¬ IsAbsolute (accountUrl endpoint id)) :
      HalfDone s source (.delete id)
        (.invalid s!"request url '{accountUrl endpoint id}' must be absolute")
        ⟨.delete, userUrl s id, Http.bearer s.token, none⟩

def Question.request? : Question → Option Request
  | .call c => c.request?
  | .endpoint => none

/-- The requests of a run. -/
def requests (qs : Events) : List Request :=
  (Event.posed qs).filterMap Question.request?

@[simp] theorem requests_nil : requests [] = [] := rfl

@[simp] theorem requests_noted (n : Note) (qs : Events) :
    requests (.noted n :: qs) = requests qs := rfl

@[simp] theorem requests_endpoint (reply : Except Fault String) (qs : Events) :
    requests (.asked .endpoint reply :: qs) = requests qs := rfl

@[simp] theorem requests_append (qs qs' : Events) :
    requests (qs ++ qs') = requests qs ++ requests qs' := by
  simp [requests]

theorem requests_call (c : Call) (reply : c.Reply) (qs : Events) :
    requests (.asked (.call c) reply :: qs) = c.request?.toList ++ requests qs := by
  rw [requests, Event.posed_asked, List.filterMap_cons, Question.request?]
  cases c.request? <;> rfl

/-- Answers as they come over HTTP: no service says that what was given is wrong. -/
structure OverHttp (s : Session) (source : Endpoint.Source) (qs : Events) : Prop where
  performed : ∀ service r f, performed service r (.error f) ∈ qs → ¬ f.OfInput
  performedJson : ∀ service r f, performedJson service r (.error f) ∈ qs → ¬ f.OfInput
  unresolved : ∀ f, .asked .endpoint (.error f) ∈ qs → f.OfInput →
    ¬ IsAbsolute (Endpoint.infoUrl s)
  resolved : ∀ e, .asked .endpoint (.ok e) ∈ qs →
    source = .fixed (.ok e) ∨ source = .discovered ∧ IsAbsolute (Endpoint.infoUrl s)

section Expanding

variable {s : Session} {source : Endpoint.Source} {qs : Events}
  {cs : List (Event Call Call.Reply)} {es : List (Event Http.Message fun _ => Http.Reply)}

theorem requests_of_expands (h : Event.Expands (Answers s source) qs cs) :
    (Event.posed cs).filterMap Call.request? = requests qs := by
  have hresolves : ∀ {first : List (Event Call Call.Reply)} {reply : Except Fault String},
      Resolves s source first reply → (Event.posed first).filterMap Call.request? = [] := by
    intro first reply hfirst
    cases hfirst <;> rfl
  induction h with
  | nil => rfl
  | noted _ ih => exact ih
  | @asked q reply first cs qs hfirst _ ih =>
    rw [Event.posed_append, List.filterMap_append, ih]
    cases q with
    | call c =>
      obtain rfl : first = [.asked c reply] := hfirst
      rw [requests_call]
      cases hc : c.request? <;> simp [hc]
    | endpoint => rw [hresolves hfirst, requests_endpoint, List.nil_append]

theorem overHttp_of_expands (hsource : ∀ f, source ≠ .fixed (.error f))
    (hcs : Event.Expands (Answers s source) qs cs) (hes : Event.Expands Http.Exchanged cs es) :
    OverHttp s source qs := by
  have hexchanged : ∀ {c : Call} {reply : c.Reply}, .asked c reply ∈ cs →
      ∃ first, Http.Exchanged c first reply := by
    intro c reply h
    obtain ⟨first, hfirst, -⟩ := hes.settled h
    exact ⟨first, hfirst⟩
  have hcall : ∀ {c : Call} {reply : c.Reply}, .asked (.call c) reply ∈ qs →
      ∃ first, Http.Exchanged c first reply := by
    intro c reply h
    obtain ⟨first, hfirst, hmem⟩ := hcs.settled h
    obtain rfl : first = [.asked c reply] := hfirst
    exact hexchanged (hmem _ List.mem_cons_self)
  refine ⟨?performed, ?performedJson, ?unresolved, ?resolved⟩
  case performed =>
    intro service r f h
    obtain ⟨first, hsent⟩ := hcall h
    exact hsent.blameless f rfl
  case performedJson =>
    intro service r f h
    obtain ⟨first, hsent⟩ := hcall h
    exact hsent.blameless f rfl
  case unresolved =>
    intro f h hinput
    obtain ⟨first, hfirst, hmem⟩ := hcs.settled h
    generalize hreply : (Except.error f : Except Fault String) = reply at hfirst
    cases hfirst with
    | fixed => exact absurd (congrArg _ hreply.symm) (hsource f)
    | unanswered =>
      cases hreply
      obtain ⟨_, hlooked⟩ := hexchanged (hmem _ List.mem_cons_self)
      exact hlooked.relative f rfl hinput
    | unadvertised hinfo =>
      cases hreply
      exact absurd hinput (Endpoint.not_ofInput_of_ofInfo hinfo)
    | discovered => cases hreply
  case resolved =>
    intro e h
    obtain ⟨first, hfirst, hmem⟩ := hcs.settled h
    generalize hreply : (Except.ok e : Except Fault String) = reply at hfirst
    cases hfirst with
    | fixed => exact .inl rfl
    | unanswered | unadvertised => cases hreply
    | discovered =>
      obtain ⟨_, hlooked⟩ := hexchanged (hmem _ List.mem_cons_self)
      exact .inr ⟨rfl, hlooked.absolute _ rfl⟩

end Expanding

section Blame

variable {s : Session} {source : Endpoint.Source} {es : Events} {f : Fault}

theorem OverHttp.of_subset {es' : Events} (h : OverHttp s source es') (hsub : es ⊆ es') :
    OverHttp s source es where
  performed := fun service r f hmem => h.performed service r f (hsub hmem)
  performedJson := fun service r f hmem => h.performedJson service r f (hsub hmem)
  unresolved := fun f hmem => h.unresolved f (hsub hmem)
  resolved := fun e hmem => h.resolved e (hsub hmem)

section Requests

variable {β : Type} {event : Request → Except Fault β → Event Question Question.Reply}
  {method : Method} {url token : String} {body : Option Json}

/-- A request is the only one to blame for a fault of what was given. -/
theorem Requests.of_ofInput (h : Requests event method url token body es (.error f))
    (hevent : ∀ r, event r (.error f) ∈ es → ¬ f.OfInput) (hinput : f.OfInput) :
    es = [] ∧ ¬ IsAbsolute url ∧ f = .invalid s!"request url '{url}' must be absolute" := by
  cases h with
  | relative hurl => exact ⟨rfl, hurl, rfl⟩
  | made hurl => exact absurd hinput (hevent _ List.mem_cons_self)

theorem Requests.made_of_ok {x : β} (h : Requests event method url token body es (.ok x)) :
    ∃ hurl : IsAbsolute url, es = [event ⟨method, url, token, body, hurl⟩ (.ok x)] := by
  cases h with
  | made hurl => exact ⟨hurl, rfl⟩

theorem Requests.made_of_refusedWith {code : String}
    (h : Requests event method url token body es (.error f)) (hcode : f.RefusedWith code) :
    ∃ hurl : IsAbsolute url, es = [event ⟨method, url, token, body, hurl⟩ (.error f)] := by
  cases h with
  | relative => exact hcode.elim
  | made hurl => exact ⟨hurl, rfl⟩

end Requests

/-- All addresses of the platform are absolute, or none of them is. -/
theorem isAbsolute_iff_of_under {url : String} (h : Under (s.endpoint ++ "/v2/") url) :
    IsAbsolute url ↔ IsAbsolute (s.endpoint ++ "/v2/") := by
  obtain ⟨rest, rfl⟩ := h
  exact isAbsolute_append_iff (c := 'v') (by simp) (by decide)

theorem isAbsolute_infoUrl_iff :
    IsAbsolute (Endpoint.infoUrl s) ↔ IsAbsolute (s.endpoint ++ "/v2/") :=
  isAbsolute_iff_of_under (Under.append ⟨"info", rfl⟩ s.endpoint)

theorem isAbsolute_usersUrl_iff :
    IsAbsolute (usersUrl s) ↔ IsAbsolute (s.endpoint ++ "/v2/") :=
  isAbsolute_iff_of_under (Under.append ⟨"users", rfl⟩ s.endpoint)

theorem isAbsolute_userUrl_iff (id : UserId) :
    IsAbsolute (userUrl s id) ↔ IsAbsolute (s.endpoint ++ "/v2/") :=
  isAbsolute_iff_of_under (Makes.platform (@Makes.removeMember s "" id) rfl)

theorem isAbsolute_grantUrl_iff (g : Grant) :
    IsAbsolute (grantUrl s g) ↔ IsAbsolute (s.endpoint ++ "/v2/") :=
  isAbsolute_iff_of_under ((under_path g).append s.endpoint)

/-- What is sent by an operation that fails for what it was given: nothing, or half of it. -/
def Leaves (s : Session) (source : Endpoint.Source) (o : Operation) (f : Fault) (es : Events) :
    Prop :=
  requests es = [] ∨
    ∃ m, (requests es).map Http.Message.of = [m] ∧ HalfDone s source o f m

theorem Finds.requests_eq_nil {username : String} {r : Except Fault Record}
    (h : Finds s username es r) : requests es = [] := by
  cases h <;> rfl

theorem Gathers.requests_eq_nil {path : String} {r : Except Fault (List Record)}
    (h : Gathers s path es r) : requests es = [] := by
  cases h <;> rfl

theorem Creates.leaves {username password : String}
    (h : Creates s username password es (.error f)) (hover : OverHttp s source es)
    (hinput : f.OfInput) : Leaves s source (.create username password) f es := by
  cases h with
  | blank | unprotected | unresolved => exact .inl rfl
  | @unopened endpoint es f named secret opening =>
    have hopening := opening.of_ofInput
      (fun r hmem => hover.performedJson _ r f (List.mem_cons_of_mem _ hmem)) hinput
    exact .inl (by simp [hopening.1])
  | @unread endpoint es document f named secret opening created =>
    exact absurd hinput (Account.not_ofInput_of_createdId created)
  | @unlinked endpoint es es' document id f named secret opening created linking =>
    obtain ⟨haccount, rfl⟩ := opening.made_of_ok
    obtain ⟨rfl, hmember, rfl⟩ := linking.of_ofInput
      (fun r hmem => hover.performed .platform r f (by simp [hmem])) hinput
    rcases hover.resolved endpoint (by simp) with rfl | ⟨-, hinfo⟩
    · exact .inr ⟨_, rfl, .creation haccount hmember⟩
    · exact absurd (isAbsolute_usersUrl_iff.mpr (isAbsolute_infoUrl_iff.mp hinfo)) hmember

/-- Once the platform has been reached, only the address of the identity service can be wrong. -/
theorem Closes.of_ofInput {id : UserId} (h : Closes s id es (.error f))
    (hover : OverHttp s source es) (hmember : IsAbsolute (userUrl s id)) (hinput : f.OfInput) :
    requests es = [] ∧ HalfDone s source (.delete id) f
      ⟨.delete, userUrl s id, Http.bearer s.token, none⟩ := by
  cases h with
  | unresolved =>
    have hinfo := hover.unresolved f List.mem_cons_self hinput
    exact absurd (isAbsolute_infoUrl_iff.mpr ((isAbsolute_userUrl_iff id).mp hmember)) hinfo
  | @unclosed endpoint es f closing =>
    obtain ⟨rfl, haccount, rfl⟩ := closing.of_ofInput
      (fun r hmem => hover.performed .identity r f (by simp [hmem])) hinput
    have hfound := hover.resolved endpoint List.mem_cons_self
    exact ⟨rfl, .deletion (hfound.imp_right And.left) hmember haccount⟩

theorem Deletes.leaves {id : UserId} (h : Deletes s id es (.error f))
    (hover : OverHttp s source es) (hinput : f.OfInput) : Leaves s source (.delete id) f es := by
  cases h with
  | kept removal =>
    obtain ⟨rfl, -, -⟩ := removal.of_ofInput (fun r => hover.performed _ r f) hinput
    exact .inl rfl
  | @removed es es' r removal further =>
    obtain ⟨hmember, rfl⟩ := removal.made_of_ok
    obtain ⟨hrequests, hhalf⟩ :=
      further.of_ofInput (hover.of_subset (List.subset_append_right _ _)) hmember hinput
    refine .inr ⟨_, ?_, hhalf⟩
    rw [requests_append, hrequests]
    rfl
  | @missing es es' f' r removal unknown further =>
    obtain ⟨hmember, rfl⟩ := removal.made_of_refusedWith unknown
    obtain ⟨hrequests, hhalf⟩ :=
      further.of_ofInput (hover.of_subset fun e he => by simp [he]) hmember hinput
    refine .inr ⟨_, ?_, hhalf⟩
    rw [requests_append, requests_noted, hrequests]
    rfl

/-- Edits all go to one place, so the first of them is invalid or none is. -/
theorem Edits.of_ofInput {report : Note} {edits : List Edit}
    (h : Edits s report edits es (.error f)) (hover : OverHttp s source es) (hinput : f.OfInput) :
    es = [] ∧ ¬ IsAbsolute (s.endpoint ++ "/v2/") := by
  generalize hr : (Except.error f : Except Fault Unit) = r at h
  induction h with
  | finished => cases hr
  | @stopped e rest es f' edit =>
    cases hr
    obtain ⟨hes, hurl, -⟩ := edit.of_ofInput (fun r => hover.performed _ r f) hinput
    exact ⟨hes, fun habsolute => hurl ((isAbsolute_grantUrl_iff e.grant).mpr habsolute)⟩
  | @made e rest es es' r edit further ih =>
    obtain ⟨hurl, -⟩ := edit.made_of_ok
    obtain ⟨-, hrelative⟩ := ih (hover.of_subset (List.subset_append_right _ _)) hr
    exact absurd ((isAbsolute_grantUrl_iff e.grant).mp hurl) hrelative

theorem Operation.leaves_of_takes {o : Operation} (h : o.Takes s es (.error f))
    (hover : OverHttp s source es) (hinput : f.OfInput) : Leaves s source o f es := by
  cases o with
  | find username => exact .inl (Finds.requests_eq_nil h)
  | holders q =>
    rcases h.holders_cases with ⟨path, -, hgathers⟩ | ⟨f, -, rfl, -⟩
    · exact .inl hgathers.requests_eq_nil
    · exact .inl rfl
  | create username password => exact Creates.leaves h hover hinput
  | delete id => exact Deletes.leaves h hover hinput
  | change c =>
    obtain ⟨rfl, -⟩ := Edits.of_ofInput h hover hinput
    exact .inl rfl
  | changeByName n =>
    rcases h.changeByName_cases with ⟨c, -, hedits⟩ | ⟨f, -, rfl, -⟩
    · obtain ⟨rfl, -⟩ := hedits.of_ofInput hover hinput
      exact .inl rfl
    · exact .inl rfl

end Blame

/-- When an operation fails over HTTP for what it was given, an argument, the name of a role or an
address, then nothing has been changed, except that a creation may have opened the account and a
deletion may have removed the platform user, and this only where one of the two services lies at an
absolute address and the other does not. (Before an operation can be asked for, an address that is
configured has been found valid.) -/
theorem bad_input_changes_nothing_else (s : Session) (o : Operation) (source : Endpoint.Source)
    (hsource : ∀ f, source ≠ .fixed (.error f)) (limit : Nat)
    (es : List (Event Http.Message fun _ => Http.Reply)) (f : Fault)
    (hruns : (Http.exchanges limit ((o.action s).calling s source)).Runs es (some (.error f)))
    (hinput : f.OfInput) :
    Http.changes es = [] ∨ ∃ m, Http.changes es = [m] ∧ HalfDone s source o f m := by
  obtain ⟨cs, hcalling, hanswered⟩ := expands_of_runs_throughSome hruns
  have hexchanged : Event.Expands Http.Exchanged cs es :=
    hanswered.mono fun c first reply => Http.exchanged_of_runs
  obtain ⟨qs, hqs, hexpands⟩ := expands_of_runs_calling hcalling
  have hsublist := Http.changes_sublist_of_expands hexchanged
  rw [requests_of_expands hexpands] at hsublist
  rcases Operation.leaves_of_takes (Operation.takes_of_runs hqs)
      (overHttp_of_expands hsource hexpands hexchanged) hinput with hnone | ⟨m, hone, hhalf⟩
  · rw [hnone] at hsublist
    exact .inl (List.sublist_nil.mp hsublist)
  · rw [hone, List.sublist_singleton] at hsublist
    exact hsublist.imp_right fun hchanges => ⟨m, hchanges, hhalf⟩

/-- A session whose platform has an address without a scheme. -/
def schemelessSession : Session :=
  { sampleSession with endpoint := "api", endpoint_ne := by decide }

/-- The account is opened, and then there is no platform to go to. -/
def halfCreated : List (Event Http.Message fun _ => Http.Reply) × Option (Except Fault UserId) :=
  (Http.exchanges 1 (((Operation.create "ann" "pw").action schemelessSession).calling
    schemelessSession (.fixed (.ok "http://id")))).play fun m =>
      Http.serving [("http://id/Users", "\x7b\"id\":\"u2\"\x7d")] m.url

theorem bad_input_changes_nothing_else_halfCreated :
    (∀ f, Endpoint.Source.fixed (.ok "http://id") ≠ .fixed (.error f)) ∧
      halfCreated.2 = some (.error (.invalid "request url 'api/v2/users' must be absolute")) ∧
      (Fault.invalid "request url 'api/v2/users' must be absolute").OfInput ∧
      (Http.changes halfCreated.1).map (·.url) = ["http://id/Users"] ∧
      (Http.changes halfCreated.1 = [] ∨ ∃ m, Http.changes halfCreated.1 = [m] ∧
        HalfDone schemelessSession (.fixed (.ok "http://id")) (.create "ann" "pw")
          (.invalid "request url 'api/v2/users' must be absolute") m) := by
  have hsource : ∀ f, Endpoint.Source.fixed (.ok "http://id") ≠ .fixed (.error f) := nofun
  have hresult : halfCreated.2 =
      some (.error (.invalid "request url 'api/v2/users' must be absolute")) := by decide +kernel
  have hruns : (Http.exchanges 1 (((Operation.create "ann" "pw").action schemelessSession).calling
      schemelessSession (.fixed (.ok "http://id")))).Runs halfCreated.1 halfCreated.2 :=
    runs_play _ _
  rw [hresult] at hruns
  exact ⟨hsource, hresult, .invalid _, by decide +kernel,
    bad_input_changes_nothing_else _ _ _ hsource 1 _ _ hruns (.invalid _)⟩

/-- The platform user is removed, and then there is no identity service to go to. -/
def halfDeleted : List (Event Http.Message fun _ => Http.Reply) × Option (Except Fault Unit) :=
  (Http.exchanges 1 (((Operation.delete bob).action sampleSession).calling sampleSession
    (.fixed (Endpoint.configured? "id")))).play fun _ => .answer 204 ⟨[], true⟩

/-- Bad input does change something: an identity service that is configured without a scheme is only
found out once the platform user is gone. -/
theorem bad_input_may_leave_deletion :
    (Http.exchanges 1 (((Operation.delete bob).action sampleSession).calling sampleSession
        (.fixed (Endpoint.configured? "id")))).Runs halfDeleted.1
      (some (.error (.invalid "request url 'id/Users/u3' must be absolute"))) ∧
      Endpoint.configured? "id" = .ok "id" ∧
      (Fault.invalid "request url 'id/Users/u3' must be absolute").OfInput ∧
      Http.changes halfDeleted.1 = [⟨.delete, "http://api/v2/users/u3", "Bearer t", none⟩] := by
  have hresult : halfDeleted.2 =
      some (.error (.invalid "request url 'id/Users/u3' must be absolute")) := by decide +kernel
  have hruns : (Http.exchanges 1 (((Operation.delete bob).action sampleSession).calling
      sampleSession (.fixed (Endpoint.configured? "id")))).Runs halfDeleted.1 halfDeleted.2 :=
    runs_play _ _
  rw [hresult] at hruns
  exact ⟨hruns, by decide +kernel, .invalid _, by decide +kernel⟩

end Directory

end Tenancy
