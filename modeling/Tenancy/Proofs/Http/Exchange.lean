import Tenancy.Http.Exchange
import Tenancy.Proofs.Run

/-!
# Single exchanges

What comes of one request: at most one message is sent, and the result is what its answer says.
-/

namespace Tenancy.Http

open Program

variable {α β : Type}

theorem mapError_eq_ok_iff {ε ε' : Type} {x : Except ε α} {f : ε → ε'} {v : α} :
    x.mapError f = .ok v ↔ x = .ok v := by
  constructor
  · intro h
    cases x with
    | error e => cases h
    | ok w => exact congrArg _ (Except.ok.inj h)
  · rintro rfl
    rfl

instance (m : Message) : Decidable (CanSend m) :=
  decidable_of_iff (m.address.isOk = true) <| by
    rw [canSend_iff]
    cases m.address <;> simp [Except.isOk, Except.toBool]

/-- A body that came whole and says a value; a blank one says null. -/
def Body.Says (b : Body) (v : Json) : Prop :=
  b.whole = true ∧ if b.bytes.all isSpace then v = .null else Json.read b.bytes = .ok v

theorem Body.value_eq_ok_iff {label url : String} {b : Body} {v : Json} :
    b.value label url = .ok v ↔ b.Says v := by
  unfold Body.value Body.Says
  by_cases hw : b.whole = true
  · by_cases hb : b.bytes.all isSpace = true
    · simp [hw, hb, eq_comm]
    · simp [hw, hb, mapError_eq_ok_iff]
  · simp [hw]

/-- A successful answer with its body. -/
def Reply.Brings (reply : Reply) (b : Body) : Prop :=
  ∃ status, reply = .answer status b ∧ isSuccess status = true

@[simp] theorem Reply.brings_answer {status : Nat} {b b' : Body} :
    (answer status b).Brings b' ↔ isSuccess status = true ∧ b = b' := by
  constructor
  · rintro ⟨_, ⟨rfl⟩, hs⟩
    exact ⟨hs, rfl⟩
  · rintro ⟨hs, rfl⟩
    exact ⟨status, rfl, hs⟩

@[simp] theorem Reply.not_brings_unreachable {b : Body} : ¬ unreachable.Brings b := by
  simp [Brings]

@[simp] theorem Reply.not_brings_dropped {b : Body} : ¬ dropped.Brings b := by
  simp [Brings]

/-- A successful answer whose body says a value. -/
def Reply.Says (reply : Reply) (v : Json) : Prop :=
  ∃ b, reply.Brings b ∧ b.Says v

/-- What a program makes of the answer to a message. -/
def conclude (label : String) (m : Message) (a : Address) :
    Reply → Program Message (fun _ => Reply) (Except Fault Body)
  | .unreachable | .dropped => done (.error (failed label m (unsent a)))
  | .answer status body =>
    if isSuccess status then done (.ok body)
    else
      note ⟨.debug, "request rejected", [("service", label), ("status", toString status),
          ("code", (refusal status body.text).code.getD "-")]⟩
        (done (.error (.refused (refusal status body.text))))

theorem run_send (label : String) (r : Request) :
    (send label r).run =
      note ⟨.debug, "sending request", [("service", label), ("method", r.method.name),
          ("url", r.url)]⟩
        (match (Message.of r).address with
          | .error o => done (.error (failed label (Message.of r) o.reason))
          | .ok a => ask (Message.of r) (conclude label (Message.of r) a)) := by
  unfold send
  refine congrArg (note _) ?_
  change (liftM ((Message.of r).address.mapError _) >>= _ : Exchanging Body).run = _
  rw [run_bind, run_lift]
  cases (Message.of r).address with
  | error o => rfl
  | ok a =>
    refine congrArg (ask (Message.of r)) ?_
    funext reply
    cases reply with
    | unreachable => rfl
    | dropped => rfl
    | answer status body =>
      change (if isSuccess status then (pure body : Exchanging Body) else _).run = _
      rw [conclude]
      split <;> rfl

/-- The course of one request: either its message cannot be sent, or it is sent once, and then the
result is what the answer brings. -/
def Settles (can : Prop) (m : Message) (brings : Reply → α → Prop)
    (es : List (Event Message fun _ => Reply)) (x : Except Fault α) : Prop :=
  (¬ can ∧ Event.questions es = [] ∧ ∃ f, x = .error f) ∨
    can ∧ ∃ reply, Event.questions es = [⟨m, reply⟩] ∧ ∀ a, x = .ok a ↔ brings reply a

/-- A result that is looked at more closely is still that of the same course. -/
theorem Settles.bind {can : Prop} {m : Message} {brings : Reply → α → Prop}
    {es : List (Event Message fun _ => Reply)} {x : Except Fault α} (g : α → Except Fault β)
    (h : Settles can m brings es x) :
    Settles can m (fun reply b => ∃ a, brings reply a ∧ g a = .ok b) es (x >>= g) := by
  rcases h with ⟨hcan, hes, f, rfl⟩ | ⟨hcan, reply, hes, hx⟩
  · exact .inl ⟨hcan, hes, f, rfl⟩
  · refine .inr ⟨hcan, reply, hes, fun b => ?_⟩
    simp only [← hx]
    cases x with
    | error f => simp [Bind.bind, Except.bind]
    | ok a => simp [Bind.bind, Except.bind]

theorem Settles.congr {can : Prop} {m : Message} {brings brings' : Reply → α → Prop}
    {es : List (Event Message fun _ => Reply)} {x : Except Fault α}
    (h : Settles can m brings es x) (hb : ∀ reply a, brings reply a ↔ brings' reply a) :
    Settles can m brings' es x := by
  obtain rfl : brings = brings' := by
    funext reply a
    exact propext (hb reply a)
  exact h

theorem settles_send {label : String} {r : Request} {es : List (Event Message fun _ => Reply)}
    {x : Except Fault Body} (h : (send label r).run.Runs es x) :
    Settles (CanSend (Message.of r)) (Message.of r) Reply.Brings es x := by
  rw [run_send, runs_note_iff] at h
  obtain ⟨rest, rfl, h⟩ := h
  rw [canSend_iff]
  cases ha : (Message.of r).address with
  | error o =>
    simp only [ha, runs_done_iff] at h
    obtain ⟨rfl, rfl⟩ := h
    exact .inl ⟨by simp, rfl, _, rfl⟩
  | ok a =>
    simp only [ha, runs_ask_iff] at h
    obtain ⟨reply, rest, rfl, h⟩ := h
    refine .inr ⟨⟨a, rfl⟩, reply, ?_⟩
    cases reply with
    | unreachable =>
      obtain ⟨rfl, rfl⟩ := runs_done_iff.mp h
      exact ⟨rfl, by simp⟩
    | dropped =>
      obtain ⟨rfl, rfl⟩ := runs_done_iff.mp h
      exact ⟨rfl, by simp⟩
    | answer status body =>
      rw [conclude] at h
      split at h
      · next hs =>
        obtain ⟨rfl, rfl⟩ := runs_done_iff.mp h
        exact ⟨rfl, by simp [hs]⟩
      · next hs =>
        obtain ⟨rest, rfl, hdone⟩ := runs_note_iff.mp h
        obtain ⟨rfl, rfl⟩ := runs_done_iff.mp hdone
        exact ⟨rfl, by simp [hs]⟩

theorem settles_sendForJson {label : String} {r : Request}
    {es : List (Event Message fun _ => Reply)} {x : Except Fault Json}
    (h : (sendForJson label r).run.Runs es x) :
    Settles (CanSend (Message.of r)) (Message.of r) Reply.Says es x := by
  obtain ⟨y, hy, rfl⟩ := runs_run_bind_lift_iff.mp h
  refine ((settles_send hy).bind _).congr fun reply v => ?_
  simp only [Body.value_eq_ok_iff, Reply.Says]

end Tenancy.Http
