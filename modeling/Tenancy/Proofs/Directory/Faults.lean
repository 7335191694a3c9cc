import Tenancy.Proofs.Directory.Operation
import Tenancy.Proofs.Stopping

/-!
# Faults of operations

Every operation stops at the first fault that it meets and fails with it, whichever side brought it
about. The one exception is the platform's answer to a deletion that it knows no such user.
-/

namespace Tenancy.Directory

open Program

/-- The fault that a question is answered with. -/
def Question.fault? : (q : Question) → q.Reply → Option Fault
  | .call c, reply => c.fault? reply
  | .endpoint, .error f => some f
  | .endpoint, .ok _ => none

theorem Question.fault?_endpoint {reply : Except Fault String} {f : Fault} :
    endpoint.fault? reply = some f ↔ reply = .error f := by
  cases reply <;> simp [fault?]

/-- The faults that an operation goes on after: the platform does not know a user to delete. -/
def Tolerates (s : Session) (o : Operation) (c : Call) (f : Fault) : Prop :=
  ∃ id r, o = .delete id ∧ c = ⟨.platform, .perform r⟩ ∧ r.method = .delete ∧ r.url = userUrl s id ∧
    f.RefusedWith unknownUserCode

/-- Faults of calls, as faults of questions. -/
def OnCall (tolerated : Call → Fault → Prop) (q : Question) (f : Fault) : Prop :=
  ∃ c, q = .call c ∧ tolerated c f

/-- Calls on the platform. -/
def Question.OnPlatform (q : Question) : Prop :=
  ∃ c, q = .call c ∧ c.service = .platform

/-- An action that stops at the first fault that is not tolerated, and fails with it. -/
abbrev Action.Stops (tolerated : Question → Fault → Prop) (a : Action α) : Prop :=
  a.run.StopsAt Question.fault? tolerated FailsWith

namespace Action

variable {tolerated : Question → Fault → Prop} {α β : Type}

/-- One question, and a result that shows its fault. -/
theorem stopsAt_ask (q : Question) (result : q.Reply → Except Fault α)
    (h : ∀ reply f, q.fault? reply = some f → result reply = .error f) :
    (ask q fun reply => done (result reply)).StopsAt Question.fault? tolerated FailsWith :=
  fun reply => ⟨trivial, fun f hf => .inr (h reply f hf)⟩

theorem stops_lift (e : Except Fault α) : Stops tolerated (liftM e) := trivial

theorem stops_pure (x : α) : Stops tolerated (pure x) := trivial

theorem stops_say (n : Note) : Stops tolerated (say n) := trivial

theorem stops_endpoint : endpoint.Stops tolerated :=
  stopsAt_ask .endpoint id fun _ _ => Question.fault?_endpoint.mp

theorem stops_get (service : Service) (url token : String) :
    (get service url token).Stops tolerated :=
  stopsAt_ask (.call ⟨service, .get url token⟩) id fun _ _ => Query.fault?_get.mp

theorem stops_perform (service : Service) (method : Method) (url token : String)
    (body : Option Json) : (perform service method url token body).Stops tolerated := by
  rw [Stops, run_perform]
  cases Request.of? method url token body with
  | error f => trivial
  | ok r => exact stopsAt_ask (.call ⟨service, .perform r⟩) id fun _ _ => Query.fault?_perform.mp

theorem stops_performJson (service : Service) (method : Method) (url token : String)
    (body : Option Json) : (performJson service method url token body).Stops tolerated := by
  rw [Stops, run_performJson]
  cases Request.of? method url token body with
  | error f => trivial
  | ok r =>
    exact stopsAt_ask (.call ⟨service, .performJson r⟩) id fun _ _ => Query.fault?_performJson.mp

/-- A listing that fails has no entries. -/
theorem stops_list (service : Service) (base token path : String) (entry : Json → Except Fault α) :
    (list service base token path entry).Stops tolerated := by
  rw [Stops, run_list]
  refine stopsAt_ask (.call ⟨service, .list base token path (.taking entry)⟩) _ ?_
  intro l f hf
  have hfault : (Query.list base token path (.taking entry)).fault? l = some f := hf
  have hending : l.ending = .error f := Query.fault?_list.mp hfault
  rw [Listing.entries, hending]
  rfl

/-- Requests are made as they are told. -/
theorem asks_perform (service : Service) (method : Method) (url token : String)
    (body : Option Json) :
    (perform service method url token body).run.Asks fun q =>
      ∃ r, q = .call ⟨service, .perform r⟩ ∧ r.method = method ∧ r.url = url := by
  rw [run_perform]
  by_cases hurl : IsAbsolute url
  · simp only [Request.of?, hurl, dite_true]
    exact ⟨⟨_, rfl, rfl, rfl⟩, fun _ => trivial⟩
  · simp only [Request.of?, hurl, dite_false]
    trivial

/-- A fault that is noted is passed on. -/
theorem stops_noting {a : Action α} (h : a.Stops tolerated) (n : Fault → Note) :
    (a.noting n).Stops tolerated := by
  rw [Stops, run_noting]
  refine StopsAt.bind h (Asks.all _) (fun _ _ => id) (fun r => ?_) ?_
  · cases r <;> trivial
  · rintro f _ rfl
    exact .inr rfl

end Action

section Operations

open Directory.Action

variable {s : Session} {tolerated : Question → Fault → Prop}

theorem stops_records (members : List Member) (url : String) :
    (records s members url).Stops tolerated := by
  apply StopsAt.then (stops_get _ _ _)
  intro document
  apply StopsAt.then (stops_lift _)
  intro accounts
  exact stops_pure _

theorem stops_find (username : String) : (find s username).Stops tolerated := by
  apply StopsAt.then (stops_lift _)
  intro name
  apply StopsAt.then stops_endpoint
  intro endpoint
  apply StopsAt.then (stops_records _ _)
  intro found
  cases found <;> trivial

theorem stops_holders (path : String) : (holders s path).Stops tolerated := by
  apply StopsAt.then (stops_list _ _ _ _ _)
  intro members
  by_cases h : members.isEmpty
  · simp only [h, if_true]
    trivial
  · simp only [h]
    apply StopsAt.then stops_endpoint
    intro endpoint
    exact stops_records _ _

theorem stops_create (username password : String) :
    (create s username password).Stops tolerated := by
  apply StopsAt.then (stops_lift _)
  intro name
  by_cases hp : password = ""
  · simp only [hp, if_true]
    trivial
  · simp only [hp, if_false]
    apply StopsAt.then stops_endpoint
    intro endpoint
    apply StopsAt.then (stops_performJson _ _ _ _ _)
    intro document
    apply StopsAt.then (stops_noting (stops_lift _) _)
    intro id
    apply StopsAt.then (stops_noting (stops_perform _ _ _ _ _) _)
    intro _
    apply StopsAt.then (stops_say _)
    intro _
    exact stops_pure id

theorem stops_editing (report : Note) (edits : List Edit) :
    (editing s report edits).Stops tolerated := by
  induction edits with
  | nil => exact stops_say report
  | cons e rest ih => exact StopsAt.then (stops_perform _ _ _ _ _) fun _ => ih

theorem stops_change (c : RoleChange) : (c.action s).Stops tolerated := by
  rw [RoleChange.action_eq_editing]
  exact stops_editing _ _

theorem stops_holderQuery (q : HolderQuery) : (q.action s).Stops tolerated := by
  cases q with
  | organization | space => exact stops_holders _
  | organizationByName | spaceByName =>
    exact StopsAt.then (stops_lift _) fun segment => stops_holders _

theorem stops_changeByName (n : NamedRoleChange) : (n.action s).Stops tolerated := by
  rw [NamedRoleChange.action_eq]
  exact StopsAt.then (stops_lift _) stops_change

/-- The fault of an unknown user is not passed on, every other one is. -/
theorem stops_deleteMember (id : UserId) :
    (deleteMember s id).Stops (OnCall (Tolerates s (.delete id))) := by
  rw [Stops, run_deleteMember]
  refine StopsAt.bind (stops_perform _ _ _ _ _) (asks_perform _ _ _ _ _) (fun _ _ h => h)
    (fun r => ?_) ?_
  · rcases r with f | _
    · by_cases hf : f.RefusedWith unknownUserCode
      · simp only [afterRemoval, hf, if_true]
        trivial
      · simp only [afterRemoval, hf, if_false]
        trivial
    · trivial
  · rintro f _ rfl
    by_cases hf : f.RefusedWith unknownUserCode
    · refine .inl ?_
      rintro _ ⟨r, rfl, method, url⟩
      exact ⟨_, rfl, id, r, rfl, rfl, method, url, hf⟩
    · refine .inr ?_
      simp only [afterRemoval, hf, if_false]
      rfl

theorem stops_delete (id : UserId) :
    (delete s id).Stops (OnCall (Tolerates s (.delete id))) := by
  apply StopsAt.then (stops_deleteMember id)
  intro _
  apply StopsAt.then (stops_noting stops_endpoint _)
  intro endpoint
  apply StopsAt.then (stops_noting (stops_perform _ _ _ _ _) _)
  intro _
  exact stops_say _

theorem stops_operation (o : Operation) : (o.action s).Stops (OnCall (Tolerates s o)) := by
  cases o with
  | find username => exact stops_find username
  | holders q => exact stops_holderQuery q
  | create username password => exact stops_create username password
  | delete id => exact stops_delete id
  | change c => exact stops_change c
  | changeByName n => exact stops_changeByName n

end Operations

section Deferring

open Directory.Action

variable {s : Session} {α : Type}

/-- Until the address of the identity service is known only the platform is called, and nobody asks
for the address twice. -/
abbrev Action.Defers (a : Action α) : Prop :=
  a.run.Defers Question.OnPlatform .endpoint (· ≠ .endpoint)

theorem defers_endpoint_then {k : String → Action α}
    (hk : ∀ x, (k x).run.Asks (· ≠ .endpoint)) : (endpoint >>= k).Defers := by
  rw [Action.Defers, run_bind, run_endpoint]
  refine .inr ⟨rfl, fun reply => ?_⟩
  rcases reply with f | x
  · trivial
  · exact hk x

theorem defers_noting_endpoint_then {k : String → Action α} (n : Fault → Note)
    (hk : ∀ x, (k x).run.Asks (· ≠ .endpoint)) : (endpoint.noting n >>= k).Defers := by
  rw [Action.Defers, run_bind, run_noting, run_endpoint]
  refine .inr ⟨rfl, fun reply => ?_⟩
  rcases reply with f | x
  · trivial
  · exact hk x

theorem asks_lift {allowed : Question → Prop} (e : Except Fault α) :
    (liftM e : Action α).run.Asks allowed := trivial

theorem asks_pure {allowed : Question → Prop} (x : α) : (pure x : Action α).run.Asks allowed :=
  trivial

theorem asks_say {allowed : Question → Prop} (n : Note) : (Action.say n).run.Asks allowed :=
  trivial

theorem asks_noting {allowed : Question → Prop} {a : Action α} (h : a.run.Asks allowed)
    (n : Fault → Note) : (a.noting n).run.Asks allowed := by
  rw [run_noting]
  refine h.bind fun r => ?_
  cases r <;> trivial

theorem asks_perform_call (service : Service) (method : Method) (url token : String)
    (body : Option Json) :
    (perform service method url token body).run.Asks (· ≠ .endpoint) := by
  refine (asks_perform service method url token body).mono ?_
  rintro _ ⟨r, rfl, -⟩
  exact nofun

theorem asks_performJson_call (service : Service) (method : Method) (url token : String)
    (body : Option Json) :
    (performJson service method url token body).run.Asks (· ≠ .endpoint) := by
  rw [run_performJson]
  cases Request.of? method url token body with
  | error f => trivial
  | ok r => exact ⟨nofun, fun _ => trivial⟩

theorem asks_perform_platform (method : Method) (url token : String) (body : Option Json) :
    (perform .platform method url token body).run.Asks Question.OnPlatform := by
  refine (asks_perform .platform method url token body).mono ?_
  rintro _ ⟨r, rfl, -⟩
  exact ⟨_, rfl, rfl⟩

theorem asks_records (members : List Member) (url : String) :
    (records s members url).run.Asks (· ≠ .endpoint) := by
  rw [run_records]
  refine ⟨nofun, fun reply => ?_⟩
  rcases reply with f | v <;> trivial

theorem defers_find (username : String) : (find s username).Defers := by
  apply Defers.then (asks_lift _)
  intro name
  apply defers_endpoint_then
  intro endpoint
  apply Asks.then (asks_records _ _)
  intro found
  cases found <;> trivial

theorem defers_holders (path : String) : (holders s path).Defers := by
  have hlist : (list .platform s.endpoint s.token path Member.ofJson).run.Asks
      Question.OnPlatform := by
    rw [run_list]
    exact ⟨⟨_, rfl, rfl⟩, fun _ => trivial⟩
  apply Defers.then hlist
  intro members
  by_cases h : members.isEmpty
  · simp only [h, if_true]
    trivial
  · simp only [h]
    exact defers_endpoint_then fun endpoint => asks_records _ _

theorem defers_create (username password : String) : (create s username password).Defers := by
  apply Defers.then (asks_lift _)
  intro name
  by_cases hp : password = ""
  · simp only [hp, if_true]
    trivial
  · simp only [hp, if_false]
    apply defers_endpoint_then
    intro endpoint
    apply Asks.then (asks_performJson_call _ _ _ _ _)
    intro document
    apply Asks.then (asks_noting (asks_lift _) _)
    intro id
    apply Asks.then (asks_noting (asks_perform_call _ _ _ _ _) _)
    intro _
    apply Asks.then (asks_say _)
    intro _
    exact asks_pure id

theorem defers_delete (id : UserId) : (delete s id).Defers := by
  have hmember : (deleteMember s id).run.Asks Question.OnPlatform := by
    rw [run_deleteMember]
    refine Asks.bind (asks_perform_platform _ _ _ _) fun r => ?_
    rcases r with f | _
    · rw [afterRemoval]
      split <;> trivial
    · trivial
  apply Defers.then hmember
  intro _
  apply defers_noting_endpoint_then _
  intro endpoint
  apply Asks.then (asks_noting (asks_perform_call _ _ _ _ _) _)
  intro _
  exact asks_say _

theorem defers_change (c : RoleChange) : (c.action s).Defers := by
  have hedits : ∀ edits, (editing s c.report edits).run.Asks Question.OnPlatform := by
    intro edits
    induction edits with
    | nil => trivial
    | cons e rest ih => exact Asks.then (asks_perform_platform _ _ _ _) fun _ => ih
  rw [RoleChange.action_eq_editing]
  exact (hedits _).defers

theorem defers_operation (o : Operation) : (o.action s).Defers := by
  cases o with
  | find username => exact defers_find username
  | holders q =>
    cases q with
    | organization | space => exact defers_holders _
    | organizationByName | spaceByName => exact Defers.then (asks_lift _) fun _ => defers_holders _
  | create username password => exact defers_create username password
  | delete id => exact defers_delete id
  | change c => exact defers_change c
  | changeByName n =>
    rw [Operation.action, NamedRoleChange.action_eq]
    exact Defers.then (asks_lift _) defers_change

end Deferring

/-- How faults come through a run of an operation, whoever answers. -/
structure StopsAtFaults (s : Session) (o : Operation) (es : List (Event Question Question.Reply))
    (r : Except Fault o.Result) : Prop where
  /-- A question that meets a fault is the last one, and the fault is the result. -/
  last : Event.StopAt Question.fault? (OnCall (Tolerates s o)) FailsWith es r
  /-- Without an address for it the identity service is not called. -/
  unresolved : ∀ before f after, es = before ++ .asked .endpoint (.error f) :: after →
    (∀ q ∈ Event.posed before, q.OnPlatform) ∧ Event.posed after = [] ∧ r = .error f
  succeeded : ∀ x, r = .ok x → ∀ q reply f, .asked q reply ∈ es → q.fault? reply = some f →
    OnCall (Tolerates s o) q f

/-- The calls that are made once it is known how the address is found stop at faults just so. -/
theorem stopsAt_calling {s : Session} {source : Endpoint.Source} {tolerated : Call → Fault → Prop}
    {α : Type} {a : Action α} (h : a.Stops (OnCall tolerated)) :
    (a.calling s source).run.StopsAt Call.fault? tolerated FailsWith := by
  refine StopsAt.through h ?_ ?_
  · rintro (c | _)
    · exact fun reply => ⟨trivial, fun f hf => .inr hf⟩
    · cases source with
      | fixed answer => trivial
      | discovered =>
        change (Endpoint.discover s).run.StopsAt _ _ _
        rw [Endpoint.run_discover]
        rintro (e | document)
        · refine ⟨trivial, fun f hf => .inr ?_⟩
          exact hf
        · refine ⟨?_, nofun⟩
          cases h : Endpoint.ofInfo document <;> simp only [h] <;> trivial
  · rintro (c | _)
    · refine ⟨?_, fun _ => trivial⟩
      rintro f ⟨c', hc, hf⟩
      cases hc
      exact hf
    · refine (Asks.all _).mono fun k _ => ?_
      rintro f ⟨c, hc, -⟩
      cases hc

/-- Every operation stops at the first fault that any side brings about and fails with it, apart
from the platform's answer that it does not know the user to delete. -/
theorem operations_stop_at_faults (s : Session) (o : Operation) :
    (∀ es r, (o.action s).run.Runs es r → StopsAtFaults s o es r) ∧
      ∀ source es r, ((o.action s).calling s source).run.Runs es r →
        Event.StopAt Call.fault? (Tolerates s o) FailsWith es r ∧
          ∀ x, r = .ok x → ∀ c reply f, .asked c reply ∈ es → c.fault? reply = some f →
            Tolerates s o c f := by
  refine ⟨?_, ?_⟩
  · intro es r h
    have hlast := (stops_operation o).runs h
    refine ⟨hlast, ?_, ?_⟩
    · intro before f after hes
      refine ⟨(defers_operation o).runs (by simp) h hes, ?_⟩
      refine (hlast before .endpoint _ after f hes rfl).resolve_left ?_
      rintro ⟨c, hc, -⟩
      cases hc
    · rintro x rfl q reply f hq hf
      exact hlast.tolerated_of_ok hq hf
  · intro source es r h
    have hlast := (stopsAt_calling (stops_operation o)).runs h
    refine ⟨hlast, ?_⟩
    rintro x rfl c reply f hc hf
    exact hlast.tolerated_of_ok hc hf

def down : Fault := .refused (.unanswered "down")

/-- A deletion that the platform has nothing to do for and that the identity service fails. -/
def unclosed : List (Event Question Question.Reply) := [
  .asked (.call ⟨.platform, .perform ⟨.delete, "http://api/v2/users/u3", "t", none, by decide⟩⟩)
    (.error (.refused (.answered 404 (some "20003") "unknown"))),
  .noted ⟨.warn, "platform user already absent; deleting identity account", [("user_id", "u3")]⟩,
  .asked .endpoint (.ok "http://id"),
  .asked (.call ⟨.identity, .perform ⟨.delete, "http://id/Users/u3", "t", none, by decide⟩⟩)
    (.error down),
  .noted ⟨.warn, "identity account deletion failed after platform user was removed",
    [("user_id", "u3"), ("error", "remote error: transport failure: down")]⟩]

/-- A deletion that does not find the identity service. -/
def undiscovered : List (Event Call Call.Reply) := [
  .asked ⟨.platform, .perform ⟨.delete, "http://api/v2/users/u3", "t", none, by decide⟩⟩ (.ok ()),
  .asked ⟨.platform, .get "http://api/v2/info" "t"⟩ (.error down),
  .noted ⟨.warn, "identity endpoint unavailable after platform user was removed",
    [("user_id", "u3"), ("error", "remote error: transport failure: down")]⟩]

theorem operations_stop_at_faults_deletions :
    ((Operation.delete bob).action sampleSession).run.Runs unclosed (.error down) ∧
      StopsAtFaults sampleSession (.delete bob) unclosed (.error down) ∧
      (((Operation.delete bob).action sampleSession).calling sampleSession .discovered).run.Runs
        undiscovered (.error down) ∧
      Event.StopAt Call.fault? (Tolerates sampleSession (.delete bob)) FailsWith undiscovered
        (Except.error (α := Unit) down) := by
  have hunclosed : ((Operation.delete bob).action sampleSession).run.Runs unclosed
      (.error down) := .ask (.note (.ask (.ask (.note (.refl _)))))
  have hundiscovered : (((Operation.delete bob).action sampleSession).calling sampleSession
      .discovered).run.Runs undiscovered (.error down) := .ask (.ask (.note (.refl _)))
  obtain ⟨hrun, hcalling⟩ := operations_stop_at_faults sampleSession (.delete bob)
  exact ⟨hunclosed, hrun _ _ hunclosed, hundiscovered, (hcalling _ _ _ hundiscovered).1⟩

end Tenancy.Directory
