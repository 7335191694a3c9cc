import Tenancy.Proofs.Directory.Operation
import Tenancy.Proofs.Hidden

/-!
# Operations in lockstep

An operation runs in lockstep with itself in another session of the same endpoint: only the tokens
of the calls differ. So does the creation of a user with another password.
-/

namespace Tenancy.Directory

open Program

/-- Questions that are the same apart from what is hidden. -/
inductive Question.SameBut (x : Hidden) : Pairing Question Question.Reply where
  | call {c c' : Call} {same : c.Reply → c'.Reply → Prop} (h : Call.SameBut x c c' same) :
      SameBut x (.call c) (.call c') same
  | endpoint : SameBut x .endpoint .endpoint Eq

/-- Actions that ask the same apart from what is hidden, and come to the same. -/
abbrev Action.SameBut (x : Hidden) (a a' : Action α) : Prop :=
  Lockstep (Question.SameBut x) Eq a.run a'.run

namespace Action

variable {x : Hidden} {α β : Type}

theorem sameBut_say (n : Note) : (say n).SameBut x (say n) :=
  .note (.done rfl)

theorem sameBut_endpoint : endpoint.SameBut x endpoint := by
  rw [SameBut, run_endpoint]
  refine .ask .endpoint ?_
  rintro reply _ rfl
  exact .done rfl

theorem lockstep_call {c c' : Call} {same : c.Reply → c'.Reply → Prop}
    (h : Call.SameBut x c c' same) :
    Lockstep (Question.SameBut x) same (ask (.call c) done) (ask (.call c') done) :=
  .ask (.call h) fun _ _ hsame => .done hsame

theorem sameBut_get {service : Service} {url token token' : String}
    (htoken : x.token token token') :
    (get service url token).SameBut x (get service url token') := by
  have hcall : Call.SameBut x ⟨service, .get url token⟩ ⟨service, .get url token'⟩ Eq := .get htoken
  exact lockstep_call hcall

theorem sameBut_list {service : Service} {base token token' path : String}
    {entry : Json → Except Fault α} (htoken : x.token token token') :
    (list service base token path entry).SameBut x (list service base token' path entry) := by
  rw [SameBut, run_list, run_list]
  refine .ask (.call (.list htoken)) ?_
  rintro reply _ rfl
  exact .done rfl

theorem sameBut_perform {service : Service} {method : Method} {url token token' : String}
    {body body' : Option Json} (htoken : x.token token token')
    (hbody : x.body service method body body') :
    (perform service method url token body).SameBut x
      (perform service method url token' body') := by
  rw [SameBut, run_perform, run_perform]
  by_cases hurl : IsAbsolute url
  · simp only [Request.of?, hurl, dite_true]
    have hrequest : (⟨method, url, token, body, hurl⟩ : Request).SameBut x service
        ⟨method, url, token', body', hurl⟩ := ⟨rfl, rfl, htoken, hbody⟩
    have hcall := Call.SameBut.perform hrequest
    exact lockstep_call hcall
  · simp only [Request.of?, hurl, dite_false]
    exact .done rfl

theorem sameBut_performJson {service : Service} {method : Method} {url token token' : String}
    {body body' : Option Json} (htoken : x.token token token')
    (hbody : x.body service method body body') :
    (performJson service method url token body).SameBut x
      (performJson service method url token' body') := by
  rw [SameBut, run_performJson, run_performJson]
  by_cases hurl : IsAbsolute url
  · simp only [Request.of?, hurl, dite_true]
    have hrequest : (⟨method, url, token, body, hurl⟩ : Request).SameBut x service
        ⟨method, url, token', body', hurl⟩ := ⟨rfl, rfl, htoken, hbody⟩
    have hcall := Call.SameBut.performJson hrequest
    exact lockstep_call hcall
  · simp only [Request.of?, hurl, dite_false]
    exact .done rfl

theorem SameBut.noting {a a' : Action α} (h : a.SameBut x a') (n : Fault → Note) :
    (a.noting n).SameBut x (a'.noting n) := by
  rw [SameBut, run_noting, run_noting]
  refine h.bind ?_
  rintro (f | v) _ rfl
  · exact .note (.done rfl)
  · exact .done rfl

end Action

section Operations

open Directory.Action

/-- Two sessions of one endpoint, whose tokens are hidden. -/
structure SameSession (x : Hidden) (s t : Session) : Prop where
  endpoint : s.endpoint = t.endpoint
  token : x.token s.token t.token
  body : ∀ service method b, x.body service method b b

variable {x : Hidden} {s t : Session}

theorem sameBut_records (h : SameSession x s t) (members : List Member) (url : String) :
    (records s members url).SameBut x (records t members url) := by
  apply Lockstep.then (sameBut_get h.token)
  intro document
  exact Lockstep.then (lockstep_lift _) fun accounts => .done rfl

theorem sameBut_find (h : SameSession x s t) (username : String) :
    (find s username).SameBut x (find t username) := by
  apply Lockstep.then (lockstep_lift _)
  intro name
  apply Lockstep.then sameBut_endpoint
  intro endpoint
  apply Lockstep.then (sameBut_records h _ _)
  intro found
  cases found with
  | nil => exact .done rfl
  | cons r rest => exact .done rfl

theorem sameBut_holders (h : SameSession x s t) (path : String) :
    (holders s path).SameBut x (holders t path) := by
  have hlist : (Action.list .platform s.endpoint s.token path Member.ofJson).SameBut x
      (Action.list .platform t.endpoint t.token path Member.ofJson) := by
    rw [h.endpoint]
    exact sameBut_list h.token
  apply Lockstep.then hlist
  intro members
  by_cases hnone : members.isEmpty
  · simp only [hnone, if_true]
    exact .note (.done rfl)
  · simp only [hnone]
    apply Lockstep.then sameBut_endpoint
    intro endpoint
    exact .note (sameBut_records h _ _)

theorem sameBut_holderQuery (h : SameSession x s t) (q : HolderQuery) :
    (q.action s).SameBut x (q.action t) := by
  cases q with
  | organization | space => exact sameBut_holders h _
  | organizationByName | spaceByName =>
    exact Lockstep.then (lockstep_lift _) fun segment => sameBut_holders h _

/-- A new account may have a different password, where passwords are hidden. -/
theorem sameBut_create (h : SameSession x s t) (username : String) {password password' : String}
    (hgiven : password = "" ↔ password' = "")
    (hpassword : ∀ name, x.body .identity .post (some (Account.creation name password))
      (some (Account.creation name password'))) :
    (create s username password).SameBut x (create t username password') := by
  have husers : usersUrl s = usersUrl t := by rw [usersUrl, usersUrl, h.endpoint]
  apply Lockstep.then (lockstep_lift _)
  intro name
  by_cases hp : password = ""
  · simp only [hp, hgiven.mp hp, if_true]
    exact .done rfl
  · have hp' : password' ≠ "" := fun hnone => hp (hgiven.mpr hnone)
    simp only [hp, hp', if_false]
    apply Lockstep.then sameBut_endpoint
    intro endpoint
    apply Lockstep.then (sameBut_performJson h.token (hpassword _))
    intro document
    apply Lockstep.then (SameBut.noting (lockstep_lift _) _)
    intro id
    rw [husers]
    apply Lockstep.then ((sameBut_perform h.token (h.body _ _ _)).noting _)
    intro _
    exact .note (.done rfl)

theorem sameBut_deleteMember (h : SameSession x s t) (id : UserId) :
    (deleteMember s id).SameBut x (deleteMember t id) := by
  have huser : userUrl s id = userUrl t id := by
    rw [userUrl, userUrl, usersUrl, usersUrl, h.endpoint]
  rw [SameBut, run_deleteMember, run_deleteMember, huser]
  refine (sameBut_perform h.token (h.body _ _ _)).bind ?_
  rintro (f | _) _ rfl
  · rw [afterRemoval]
    split
    · exact .note (.done rfl)
    · exact .done rfl
  · exact .done rfl

theorem sameBut_delete (h : SameSession x s t) (id : UserId) :
    (delete s id).SameBut x (delete t id) := by
  apply Lockstep.then (sameBut_deleteMember h id)
  intro _
  apply Lockstep.then (sameBut_endpoint.noting _)
  intro endpoint
  apply Lockstep.then ((sameBut_perform h.token (h.body _ _ _)).noting _)
  intro _
  exact .note (.done rfl)

theorem sameBut_editing (h : SameSession x s t) (report : Note) (edits : List Edit) :
    (editing s report edits).SameBut x (editing t report edits) := by
  induction edits with
  | nil => exact sameBut_say report
  | cons e rest ih =>
    have hurl : grantUrl s e.grant = grantUrl t e.grant := by rw [grantUrl, grantUrl, h.endpoint]
    have hedit : (e.perform s).SameBut x (e.perform t) := by
      rw [Edit.perform, Edit.perform, hurl]
      exact sameBut_perform h.token (h.body _ _ _)
    exact Lockstep.then hedit fun _ => ih

theorem sameBut_change (h : SameSession x s t) (c : RoleChange) :
    (c.action s).SameBut x (c.action t) := by
  rw [RoleChange.action_eq_editing, RoleChange.action_eq_editing]
  exact sameBut_editing h _ _

theorem sameBut_operation (h : SameSession x s t) (o : Operation) :
    (o.action s).SameBut x (o.action t) := by
  cases o with
  | find username => exact sameBut_find h username
  | holders q => exact sameBut_holderQuery h q
  | create username password => exact sameBut_create h username Iff.rfl fun _ => h.body _ _ _
  | delete id => exact sameBut_delete h id
  | change c => exact sameBut_change h c
  | changeByName n =>
    simp only [Operation.action, NamedRoleChange.action_eq]
    exact Lockstep.then (lockstep_lift _) (sameBut_change h)

end Operations

section Calling

variable {x : Hidden} {s t : Session} {α : Type}

theorem lockstep_resolve (h : SameSession x s t) (source : Endpoint.Source) :
    Lockstep (Call.SameBut x) Eq (source.resolve s).run (source.resolve t).run := by
  cases source with
  | fixed answer => exact .done rfl
  | discovered =>
    change Lockstep _ _ (Endpoint.discover s).run (Endpoint.discover t).run
    have hurl : Endpoint.infoUrl s = Endpoint.infoUrl t := by
      rw [Endpoint.infoUrl, Endpoint.infoUrl, h.endpoint]
    rw [Endpoint.run_discover, Endpoint.run_discover, hurl]
    refine .ask (.get h.token) ?_
    rintro (f | document) _ rfl
    · exact .done rfl
    · dsimp only
      cases Endpoint.ofInfo document with
      | error f => exact .done rfl
      | ok address => exact .note (.done rfl)

/-- However the address of the identity service is found, the calls go together too. -/
theorem lockstep_calling (h : SameSession x s t) (source : Endpoint.Source) {a a' : Action α}
    (ha : a.SameBut x a') :
    Lockstep (Call.SameBut x) Eq (a.calling s source).run (a'.calling t source).run := by
  refine Lockstep.through ha ?_
  rintro _ _ _ (hc | -)
  · exact .ask hc fun reply reply' hsame => .done hsame
  · exact lockstep_resolve h source

/-- Carries operations out one after the other, whatever fails, and gives all results. -/
def carryOut (s : Session) (source : Endpoint.Source) :
    List Operation → Program Call Call.Reply (List ((o : Operation) × Except Fault o.Result))
  | [] => pure []
  | o :: rest => do
    let r ← ((o.action s).calling s source).run
    let rs ← carryOut s source rest
    pure (⟨o, r⟩ :: rs)

theorem lockstep_carryOut (h : SameSession x s t) (source : Endpoint.Source)
    (os : List Operation) :
    Lockstep (Call.SameBut x) Eq (carryOut s source os) (carryOut t source os) := by
  induction os with
  | nil => exact .done rfl
  | cons o rest ih =>
    refine (lockstep_calling h source (sameBut_operation h o)).bind ?_
    rintro r _ rfl
    refine ih.bind ?_
    rintro rs _ rfl
    exact .done rfl

end Calling

end Tenancy.Directory
