import Tenancy.Proofs.Directory.Phases
import Tenancy.Proofs.Http.Complaint
import Tenancy.Proofs.Http.Sending
import Tenancy.Proofs.Reports

/-!
# Actions over HTTP

The exchanges of an action come about question by question (`expands_of_runs_exchanges`). What is
noted about them is noted for debugging only, and a request that can be sent comes to what the reply
to its one message says (`Reply.outcome`).
-/

namespace Tenancy

namespace Http

open Program

section Notes

variable {label token url : String} {r : Request}

/-- Notes for debugging. -/
abbrev ForDebugging (n : Note) : Prop :=
  n.level = .debug

theorem notes_lift {α : Type} {e : Except Fault α} :
    (liftM e : Exchanging α).run.Notes ForDebugging := trivial

theorem notes_send : (send label r).run.Notes ForDebugging := by
  rw [run_send]
  refine ⟨rfl, ?_⟩
  cases (Message.of r).address with
  | error o => trivial
  | ok a =>
    intro reply
    cases reply with
    | unreachable => trivial
    | dropped => trivial
    | answer status body =>
      rw [conclude]
      split
      · trivial
      · exact ⟨rfl, trivial⟩

theorem notes_sendForJson : (sendForJson label r).run.Notes ForDebugging := by
  apply Notes.then notes_send
  intro body
  exact notes_lift

theorem notes_perform : (perform label r).run.Notes ForDebugging := by
  apply Notes.then notes_send
  intro body
  exact notes_lift

theorem notes_get : (get label url token).run.Notes ForDebugging := by
  apply Notes.then notes_lift
  intro request
  exact notes_sendForJson

theorem notes_getPage : (getPage label token url).run.Notes ForDebugging := by
  apply Notes.then notes_get
  intro document
  exact notes_lift

theorem notes_listFrom (base : String) (visit : Visitor) (limit : Nat) (seen : List Json) :
    (listFrom label base token visit limit seen url).Notes ForDebugging := by
  induction limit generalizing seen url with
  | zero => trivial
  | succ limit ih =>
    rw [listFrom_succ]
    apply notes_getPage.bind
    intro page
    cases page with
    | error f => trivial
    | ok page =>
      rw [listOn]
      rcases visit.walk seen page.values with ⟨seen', _ | ending⟩
      · dsimp only
        cases page.nextUrl base with
        | none => trivial
        | some next =>
          dsimp only
          split
          · trivial
          · exact ih seen'
      · trivial

theorem notes_some {α : Type} {p : Program Message (fun _ => Reply) α} (h : p.Notes ForDebugging) :
    (some <$> p).Notes ForDebugging := by
  rw [← bind_pure_comp]
  apply h.bind
  intro a
  trivial

theorem notes_answer (limit : Nat) (c : Call) : (answer limit c).Notes ForDebugging := by
  obtain ⟨service, ⟨base, token, path, visit⟩ | ⟨url, token⟩ | r | r⟩ := c
  · exact notes_listFrom base visit limit []
  · exact notes_some notes_get
  · exact notes_some notes_perform
  · exact notes_some notes_sendForJson

end Notes

/-- What a request comes to that is performed without a look at the answer. -/
def Reply.outcome (label : String) (m : Message) (a : Address) : Reply → Except Fault Unit
  | .answer status body =>
    if isSuccess status then .ok () else .error (.refused (refusal status body.text))
  | .unreachable | .dropped => .error (failed label m (unsent a))

theorem outcome_of_runs_perform {label : String} {r : Request} {a : Address}
    {es : List (Event Message fun _ => Reply)} {x : Except Fault Unit}
    (haddress : (Message.of r).address = .ok a) (h : (perform label r).run.Runs es x) :
    ∃ reply : Reply, Event.questions es = [⟨Message.of r, reply⟩] ∧
      x = reply.outcome label (Message.of r) a := by
  obtain ⟨y, hsend, rfl⟩ := runs_run_bind_lift_iff (g := fun _ => .ok ()).mp h
  rw [run_send, haddress] at hsend
  obtain ⟨_, rfl, hask⟩ := runs_note_iff.mp hsend
  obtain ⟨reply, rest, rfl, hconclude⟩ := runs_ask_iff.mp hask
  refine ⟨reply, ?_⟩
  cases reply with
  | unreachable =>
    obtain ⟨rfl, rfl⟩ := runs_done_iff.mp hconclude
    exact ⟨rfl, rfl⟩
  | dropped =>
    obtain ⟨rfl, rfl⟩ := runs_done_iff.mp hconclude
    exact ⟨rfl, rfl⟩
  | answer status body =>
    rw [conclude] at hconclude
    rw [Reply.outcome]
    split at hconclude
    · next hsuccess =>
      obtain ⟨rfl, rfl⟩ := runs_done_iff.mp hconclude
      exact ⟨rfl, by rw [if_pos hsuccess]; rfl⟩
    · next hsuccess =>
      obtain ⟨_, rfl, hdone⟩ := runs_note_iff.mp hconclude
      obtain ⟨rfl, rfl⟩ := runs_done_iff.mp hdone
      exact ⟨rfl, by rw [if_neg hsuccess]; rfl⟩

end Http

namespace Directory

open Program

/-- The exchanges by which a question is answered over HTTP. -/
def Question.exchanges (s : Session) (source : Endpoint.Source) (limit : Nat) :
    (q : Question) → Program Http.Message (fun _ => Http.Reply) (Option q.Reply)
  | .call c => Http.answer limit c
  | .endpoint => Http.exchanges limit (source.resolve s)

section Exchanging

variable {s : Session} {source : Endpoint.Source} {limit : Nat} {α : Type} {a : Action α}
  {es : List (Event Http.Message fun _ => Http.Reply)}

theorem exchanges_calling :
    Http.exchanges limit (a.calling s source) =
      a.run.throughSome (Question.exchanges s source limit) := by
  refine (throughSome_through _ _ _).trans (congrArg a.run.throughSome (funext fun q => ?_))
  cases q with
  | call c => exact throughSome_question _ c
  | endpoint => rfl

/-- How questions are answered over HTTP. -/
abbrev Exchanged (s : Session) (source : Endpoint.Source) (limit : Nat) (q : Question)
    (es : List (Event Http.Message fun _ => Http.Reply)) (reply : q.Reply) : Prop :=
  (q.exchanges s source limit).Runs es (some reply)

theorem expands_of_runs_exchanges {r : Except Fault α}
    (h : (Http.exchanges limit (a.calling s source)).Runs es (some r)) :
    ∃ qs, a.run.Runs qs r ∧ Event.Expands (Exchanged s source limit) qs es := by
  rw [exchanges_calling] at h
  exact expands_of_runs_throughSome h

theorem notes_exchanges (q : Question) :
    (q.exchanges s source limit).Notes Http.ForDebugging := by
  cases q with
  | call c => exact Http.notes_answer limit c
  | endpoint =>
    apply Notes.throughSome _ (Http.notes_answer limit)
    cases source with
    | fixed answer => trivial
    | discovered =>
      rw [Endpoint.Source.resolve, Endpoint.run_discover]
      rintro (f | document)
      · trivial
      · dsimp only
        cases Endpoint.ofInfo document with
        | error f => trivial
        | ok address => exact ⟨rfl, trivial⟩

/-- What is noted for others than those who debug is noted by the action. -/
theorem reports_of_expands {level : Level} {qs : Events}
    (h : Event.Expands (Exchanged s source limit) qs es) (hlevel : .debug ≠ level) :
    Event.reports level es = Event.reports level qs := by
  apply h.reports_eq
  intro q first reply hfirst
  exact (notes_exchanges q).reports_eq_nil hlevel hfirst

end Exchanging

end Directory

end Tenancy
