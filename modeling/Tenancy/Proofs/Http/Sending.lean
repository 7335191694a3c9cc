import Tenancy.Proofs.Call
import Tenancy.Proofs.Expansion
import Tenancy.Proofs.Http.Paging
import Tenancy.Proofs.Stopping

/-!
# Calls over HTTP

What is sent for a call and which faults it is answered with. Looks and listings change nothing, and
a request is sent once at most. That something is wrong with what was given, no server says: a call
is refused for that only where its address is not absolute (`exchanged_of_runs`).
-/

namespace Tenancy

/-- Faults of what is given: an argument or an address that is not valid, or a role that there is
not. -/
inductive Fault.OfInput : Fault → Prop where
  | invalid (why : String) : OfInput (.invalid why)
  | unknownRole (why : String) : OfInput (.unknownRole why)

namespace Http

open Program

/-- The messages by which something may be changed. -/
def changes (es : List (Event Message fun _ => Reply)) : List Message :=
  (Event.posed es).filter (·.method ≠ .get)

@[simp] theorem changes_nil : changes [] = [] := rfl

@[simp] theorem changes_append (es es' : List (Event Message fun _ => Reply)) :
    changes (es ++ es') = changes es ++ changes es' := by
  simp [changes]

theorem changes_eq_nil {es : List (Event Message fun _ => Reply)}
    (h : ∀ m ∈ Event.posed es, m.method = .get) : changes es = [] := by
  refine List.filter_eq_nil_iff.mpr fun m hm => ?_
  simp [h m hm]

/-- A request that is sent once at most, and that is not to blame for what comes of it. -/
structure Sent {α : Type} (r : Request) (es : List (Event Message fun _ => Reply))
    (x : Except Fault α) : Prop where
  posed : Event.posed es <+: [Message.of r]
  blameless : ∀ f, x = .error f → ¬ f.OfInput

section Sending

variable {α β : Type} {label url token : String} {r : Request}
  {es : List (Event Message fun _ => Reply)}

theorem Sent.bind {x : Except Fault α} {g : α → Except Fault β} (h : Sent r es x)
    (hg : ∀ a f, g a = .error f → ¬ f.OfInput) : Sent r es (x >>= g) where
  posed := h.posed
  blameless := by
    intro f hf
    cases x with
    | error f' =>
      cases hf
      exact h.blameless f rfl
    | ok a => exact hg a f hf

theorem sent_of_runs_send {x : Except Fault Body} (h : (send label r).run.Runs es x) :
    Sent r es x := by
  rw [run_send, runs_note_iff] at h
  obtain ⟨rest, rfl, hsend⟩ := h
  cases haddress : (Message.of r).address with
  | error o =>
    rw [haddress] at hsend
    obtain ⟨rfl, rfl⟩ := runs_done_iff.mp hsend
    have hnothing : [] <+: [Message.of r] := List.nil_prefix
    exact ⟨hnothing, by rintro f ⟨⟩ ⟨⟩⟩
  | ok a =>
    rw [haddress] at hsend
    obtain ⟨reply, rest, rfl, hconclude⟩ := runs_ask_iff.mp hsend
    cases reply with
    | unreachable | dropped =>
      obtain ⟨rfl, rfl⟩ := runs_done_iff.mp hconclude
      exact ⟨List.prefix_rfl, by rintro f ⟨⟩ ⟨⟩⟩
    | answer status body =>
      rw [conclude] at hconclude
      split at hconclude
      · obtain ⟨rfl, rfl⟩ := runs_done_iff.mp hconclude
        exact ⟨List.prefix_rfl, by rintro f ⟨⟩⟩
      · obtain ⟨rest, rfl, hdone⟩ := runs_note_iff.mp hconclude
        obtain ⟨rfl, rfl⟩ := runs_done_iff.mp hdone
        exact ⟨List.prefix_rfl, by rintro f ⟨⟩ ⟨⟩⟩

theorem Body.not_ofInput_of_value {b : Body} {f : Fault} (h : b.value label url = .error f) :
    ¬ f.OfInput := by
  unfold Body.value at h
  split at h
  · cases h
    exact nofun
  · split at h
    · cases h
    · cases hread : Json.read b.bytes <;> rw [hread] at h <;> cases h
      exact nofun

theorem sent_of_runs_sendForJson {x : Except Fault Json}
    (h : (sendForJson label r).run.Runs es x) : Sent r es x := by
  obtain ⟨y, hy, rfl⟩ := runs_run_bind_lift_iff.mp h
  exact (sent_of_runs_send hy).bind fun b f => Body.not_ofInput_of_value

theorem sent_of_runs_perform {x : Except Fault Unit}
    (h : (perform label r).run.Runs es x) : Sent r es x := by
  obtain ⟨y, hy, rfl⟩ := runs_run_bind_lift_iff (g := fun _ => .ok ()).mp h
  exact (sent_of_runs_send hy).bind nofun

/-- An answer to a look comes from an absolute address, and only another one is to blame. -/
structure Looked (url : String) (es : List (Event Message fun _ => Reply)) (x : Except Fault α) :
    Prop where
  changes : changes es = []
  relative : ∀ f, x = .error f → f.OfInput → ¬ IsAbsolute url
  absolute : ∀ a, x = .ok a → IsAbsolute url

theorem looked_of_runs_get {x : Except Fault Json} (h : (get label url token).run.Runs es x) :
    Looked url es x := by
  rw [get, run_bind, run_lift] at h
  by_cases hurl : IsAbsolute url
  · simp only [Request.of?, hurl, dite_true] at h
    have hsent := sent_of_runs_sendForJson h
    refine ⟨changes_eq_nil fun m hm => ?_, fun f hf hinput => absurd hinput (hsent.blameless f hf),
      fun _ _ => hurl⟩
    rw [List.mem_singleton.mp (hsent.posed.subset hm)]
    rfl
  · simp only [Request.of?, hurl, dite_false] at h
    obtain ⟨rfl, rfl⟩ := runs_done_iff.mp h
    exact ⟨rfl, fun _ _ _ => hurl, by rintro a ⟨⟩⟩

theorem asks_send (label : String) (r : Request) :
    (send label r).run.Asks (· = Message.of r) := by
  rw [run_send]
  cases (Message.of r).address with
  | error o => trivial
  | ok a =>
    refine ⟨rfl, fun reply => ?_⟩
    cases reply with
    | unreachable | dropped => trivial
    | answer status body =>
      rw [conclude]
      split <;> trivial

theorem asks_getPage (label token url : String) :
    (getPage label token url).run.Asks (·.method = .get) := by
  have hget : (get label url token).run.Asks (·.method = .get) := by
    rw [get, run_bind, run_lift]
    by_cases hurl : IsAbsolute url
    · simp only [Request.of?, hurl, dite_true]
      refine Asks.then ((asks_send label _).mono ?_) fun body => ?_
      · rintro _ rfl
        rfl
      · trivial
    · simp only [Request.of?, hurl, dite_false]
      trivial
  exact Asks.then hget fun document => trivial

/-- Pages are only looked at. -/
theorem asks_listFrom (base : String) (visit : Visitor) (limit : Nat) (seen : List Json) :
    (listFrom label base token visit limit seen url).Asks (·.method = .get) := by
  induction limit generalizing seen url with
  | zero => trivial
  | succ limit ih =>
    rw [listFrom_succ]
    refine (asks_getPage label token url).bind fun page => ?_
    cases page with
    | error f => trivial
    | ok page =>
      rw [listOn]
      rcases visit.walk seen page.values with ⟨seen', _ | ending⟩
      · dsimp only
        cases page.nextUrl base with
        | none => trivial
        | some next =>
          dsimp only
          split
          · trivial
          · exact ih seen'
      · trivial

end Sending

/-- How a call goes over HTTP. -/
def Exchanged : (c : Call) → List (Event Message fun _ => Reply) → c.Reply → Prop
  | ⟨_, .list ..⟩, es, _ => changes es = []
  | ⟨_, .get url _⟩, es, x => Looked url es x
  | ⟨_, .perform r⟩, es, x => Sent r es x
  | ⟨_, .performJson r⟩, es, x => Sent r es x

section Exchanging

variable {limit : Nat} {es : List (Event Message fun _ => Reply)}

theorem runs_some_map {α : Type} {p : Program Message (fun _ => Reply) α} {x : α}
    (h : (some <$> p).Runs es (some x)) : p.Runs es x := by
  obtain ⟨y, hp, ⟨⟩⟩ := runs_map_iff.mp h
  exact hp

theorem exchanged_of_runs {c : Call} {reply : c.Reply}
    (h : (answer limit c).Runs es (some reply)) : Exchanged c es reply := by
  obtain ⟨service, ⟨base, token, path, visit⟩ | ⟨url, token⟩ | r | r⟩ := c
  · exact changes_eq_nil ((asks_listFrom base visit limit []).runs h)
  · exact looked_of_runs_get (runs_some_map h)
  · exact sent_of_runs_perform (runs_some_map h)
  · exact sent_of_runs_sendForJson (runs_some_map h)

theorem Exchanged.changes_sublist {c : Call} {reply : c.Reply} (h : Exchanged c es reply) :
    (changes es).Sublist (c.request?.toList.map Message.of) := by
  have hsent : ∀ {α : Type} {r : Request} {x : Except Fault α}, Sent r es x →
      (changes es).Sublist [Message.of r] := fun h => List.filter_sublist.trans h.posed.sublist
  obtain ⟨service, ⟨base, token, path, visit⟩ | ⟨url, token⟩ | r | r⟩ := c
  · have hchanges : changes es = [] := h
    simp [hchanges]
  · have hlooked : Looked url es reply := h
    simp [hlooked.changes]
  · exact hsent h
  · exact hsent h

/-- What is changed in a run has been asked for by its calls, in the same order. -/
theorem changes_sublist_of_expands {cs : List (Event Call Call.Reply)}
    (h : Event.Expands Exchanged cs es) :
    (changes es).Sublist (((Event.posed cs).filterMap Call.request?).map Message.of) := by
  induction h with
  | nil => exact .slnil
  | noted _ ih => exact ih
  | @asked c reply first es cs hfirst _ ih =>
    rw [changes_append, Event.posed_asked, List.filterMap_eq_flatMap_toList, List.flatMap_cons,
      ← List.filterMap_eq_flatMap_toList, List.map_append]
    exact hfirst.changes_sublist.append ih

end Exchanging

end Http

end Tenancy
