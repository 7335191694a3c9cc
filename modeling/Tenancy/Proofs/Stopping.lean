import Tenancy.Proofs.Run

/-!
# Stopping at faults

A program stops at faults if it asks nothing more once a question has met one, and its result shows
just that fault. This, what a program may ask and what it defers are read off its steps, and hold of
all its runs.
-/

namespace Tenancy

/-- Nothing is asked behind a question that has met a fault, and the result shows it; some faults
may be tolerated. -/
def Event.StopAt {ι : Type} {ρ : ι → Type} {α : Type} (fault? : (q : ι) → ρ q → Option Fault)
    (tolerated : ι → Fault → Prop) (shows : Fault → α → Prop) (es : List (Event ι ρ)) (a : α) :
    Prop :=
  ∀ before q reply after f, es = before ++ .asked q reply :: after → fault? q reply = some f →
    tolerated q f ∨ posed after = [] ∧ shows f a

/-- How a result of something that may fail shows a fault. -/
abbrev FailsWith {α : Type} (f : Fault) (r : Except Fault α) : Prop :=
  r = .error f

/-- Where something has succeeded, every fault was tolerated. -/
theorem Event.StopAt.tolerated_of_ok {ι : Type} {ρ : ι → Type} {α : Type}
    {fault? : (q : ι) → ρ q → Option Fault} {tolerated : ι → Fault → Prop} {es : List (Event ι ρ)}
    {x : α} {q : ι} {reply : ρ q} {f : Fault}
    (h : Event.StopAt fault? tolerated FailsWith es (.ok x)) (hq : .asked q reply ∈ es)
    (hf : fault? q reply = some f) : tolerated q f := by
  obtain ⟨before, after, hes⟩ := List.append_of_mem hq
  rcases h before q reply after f hes hf with htolerated | ⟨-, hfails⟩
  · exact htolerated
  · cases hfails

namespace Program

variable {ι κ : Type} {ρ : ι → Type} {τ : κ → Type} {α β : Type}

/-- Whatever is answered, all questions are of some kind. -/
def Asks (allowed : ι → Prop) : Program ι ρ α → Prop
  | done _ => True
  | note _ next => next.Asks allowed
  | ask q next => allowed q ∧ ∀ reply, (next reply).Asks allowed

/-- Asks nothing more, and has a result of some kind. -/
def Ends (post : α → Prop) : Program ι ρ α → Prop
  | done a => post a
  | note _ next => next.Ends post
  | ask _ _ => False

/-- Whatever is answered, it ends where a question meets a fault that is not tolerated. -/
def StopsAt (fault? : (q : ι) → ρ q → Option Fault) (tolerated : ι → Fault → Prop)
    (shows : Fault → α → Prop) : Program ι ρ α → Prop
  | done _ => True
  | note _ next => next.StopsAt fault? tolerated shows
  | ask q next => ∀ reply, (next reply).StopsAt fault? tolerated shows ∧
      ∀ f, fault? q reply = some f → tolerated q f ∨ (next reply).Ends (shows f)

/-- Some questions come only after the gate, which is asked once if at all. -/
def Defers (early : ι → Prop) (gate : ι) (late : ι → Prop) : Program ι ρ α → Prop
  | done _ => True
  | note _ next => next.Defers early gate late
  | ask q next => (early q ∧ ∀ reply, (next reply).Defers early gate late) ∨
      q = gate ∧ ∀ reply, (next reply).Asks late

section Runs

variable {allowed early late : ι → Prop} {gate : ι} {fault? : (q : ι) → ρ q → Option Fault}
  {tolerated : ι → Fault → Prop} {shows : Fault → α → Prop} {es : List (Event ι ρ)}
  {p : Program ι ρ α} {a : α}

theorem Asks.runs (h : p.Asks allowed) (hp : p.Runs es a) : ∀ q ∈ Event.posed es, allowed q := by
  induction p generalizing es with
  | done a' =>
    obtain ⟨rfl, -⟩ := runs_done_iff.mp hp
    simp
  | note n next ih =>
    obtain ⟨rest, rfl, hrest⟩ := runs_note_iff.mp hp
    have hnext := ih h hrest
    exact hnext
  | ask q next ih =>
    obtain ⟨reply, rest, rfl, hrest⟩ := runs_ask_iff.mp hp
    have hnext := ih reply (h.2 reply) hrest
    simpa using ⟨h.1, hnext⟩

theorem Ends.runs {post : α → Prop} (h : p.Ends post) (hp : p.Runs es a) :
    Event.posed es = [] ∧ post a := by
  induction p generalizing es with
  | done a' =>
    obtain ⟨rfl, rfl⟩ := runs_done_iff.mp hp
    exact ⟨rfl, h⟩
  | note n next ih =>
    obtain ⟨rest, rfl, hrest⟩ := runs_note_iff.mp hp
    have hnext := ih h hrest
    exact hnext
  | ask q next => exact h.elim

theorem StopsAt.runs (h : p.StopsAt fault? tolerated shows) (hp : p.Runs es a) :
    Event.StopAt fault? tolerated shows es a := by
  intro before q reply after f hes hf
  induction p generalizing es before with
  | done a' =>
    obtain ⟨rfl, -⟩ := runs_done_iff.mp hp
    simp at hes
  | note n next ih =>
    obtain ⟨rest, rfl, hrest⟩ := runs_note_iff.mp hp
    rcases List.cons_eq_append_iff.mp hes with ⟨-, hq⟩ | ⟨before', -, hsplit⟩
    · cases hq
    · exact ih h hrest before' hsplit
  | ask q' next ih =>
    obtain ⟨reply', rest, rfl, hrest⟩ := runs_ask_iff.mp hp
    rcases List.cons_eq_append_iff.mp hes with ⟨-, hq⟩ | ⟨before', -, hsplit⟩
    · cases hq
      exact ((h reply).2 f hf).imp_right fun hends => hends.runs hrest
    · exact ih reply' (h reply').1 hrest before' hsplit

/-- In front of the gate only early questions have been asked. -/
theorem Defers.runs (h : p.Defers early gate late) (hlate : ¬ late gate) (hp : p.Runs es a)
    {before after : List (Event ι ρ)} {reply : ρ gate}
    (hes : es = before ++ .asked gate reply :: after) : ∀ q ∈ Event.posed before, early q := by
  induction p generalizing es before with
  | done a' =>
    obtain ⟨rfl, -⟩ := runs_done_iff.mp hp
    simp at hes
  | note n next ih =>
    obtain ⟨rest, rfl, hrest⟩ := runs_note_iff.mp hp
    rcases List.cons_eq_append_iff.mp hes with ⟨-, hq⟩ | ⟨before', rfl, hsplit⟩
    · cases hq
    · have hnext := ih h hrest hsplit
      exact hnext
  | ask q next ih =>
    obtain ⟨reply', rest, rfl, hrest⟩ := runs_ask_iff.mp hp
    rcases List.cons_eq_append_iff.mp hes with ⟨rfl, -⟩ | ⟨before', rfl, hsplit⟩
    · simp
    · rcases h with ⟨hq, hnext⟩ | ⟨-, hnext⟩
      · have hrest' := ih reply' (hnext reply') hrest hsplit
        simpa using ⟨hq, hrest'⟩
      · have hgate : gate ∈ Event.posed rest := by simp [hsplit]
        exact absurd ((hnext reply').runs hrest gate hgate) hlate

end Runs

section Rules

variable {allowed early late : ι → Prop} {gate : ι} {fault? : (q : ι) → ρ q → Option Fault}
  {tolerated : ι → Fault → Prop} {shows : Fault → α → Prop} {p : Program ι ρ α}

theorem Asks.mono {allowed' : ι → Prop} (h : p.Asks allowed) (himp : ∀ q, allowed q → allowed' q) :
    p.Asks allowed' := by
  induction p with
  | done a => trivial
  | note n next ih => exact ih h
  | ask q next ih => exact ⟨himp q h.1, fun reply => ih reply (h.2 reply)⟩

theorem Asks.all (p : Program ι ρ α) : p.Asks fun _ => True := by
  induction p with
  | done a => trivial
  | note n next ih => exact ih
  | ask q next ih => exact ⟨trivial, ih⟩

theorem Asks.bind {g : α → Program ι ρ β} (h : p.Asks allowed) (hg : ∀ a, (g a).Asks allowed) :
    (p >>= g).Asks allowed := by
  induction p with
  | done a => exact hg a
  | note n next ih => exact ih h
  | ask q next ih => exact ⟨h.1, fun reply => ih reply (h.2 reply)⟩

theorem Ends.exists {post : α → Prop} (h : p.Ends post) : ∃ a, post a ∧ p.Ends (· = a) := by
  induction p with
  | done a => exact ⟨a, h, rfl⟩
  | note n next ih => exact ih h
  | ask q next => exact h.elim

theorem Ends.bind {post : α → Prop} {post' : β → Prop} {g : α → Program ι ρ β} (h : p.Ends post)
    (hg : ∀ a, post a → (g a).Ends post') : (p >>= g).Ends post' := by
  induction p with
  | done a => exact hg a h
  | note n next ih => exact ih h
  | ask q next => exact h.elim

/-- What the first program shows of a fault, the second has to show as well, without more questions;
unless the fault is tolerated of all that the first may ask. -/
theorem StopsAt.bind {tolerated' : ι → Fault → Prop} {shows' : Fault → β → Prop}
    {g : α → Program ι ρ β} (h : p.StopsAt fault? tolerated' shows) (hp : p.Asks allowed)
    (hmono : ∀ q f, tolerated' q f → tolerated q f)
    (hg : ∀ a, (g a).StopsAt fault? tolerated shows')
    (hshows : ∀ f a, shows f a → (∀ q, allowed q → tolerated q f) ∨ (g a).Ends (shows' f)) :
    (p >>= g).StopsAt fault? tolerated shows' := by
  induction p with
  | done a => exact hg a
  | note n next ih => exact ih h hp
  | ask q next ih =>
    intro reply
    refine ⟨ih reply (h reply).1 (hp.2 reply), fun f hf => ?_⟩
    rcases (h reply).2 f hf with htolerated | hends
    · exact .inl (hmono q f htolerated)
    · obtain ⟨a, ha, hends⟩ := hends.exists
      rcases hshows f a ha with htolerated | hrest
      · exact .inl (htolerated q hp.1)
      · exact .inr (hends.bind fun a' haa' => haa' ▸ hrest)

theorem Asks.defers (h : p.Asks early) : p.Defers early gate late := by
  induction p with
  | done a => trivial
  | note n next ih => exact ih h
  | ask q next ih => exact .inl ⟨h.1, fun reply => ih reply (h.2 reply)⟩

theorem Defers.bind {g : α → Program ι ρ β} (h : p.Asks early)
    (hg : ∀ a, (g a).Defers early gate late) : (p >>= g).Defers early gate late := by
  induction p with
  | done a => exact hg a
  | note n next ih => exact ih h
  | ask q next ih => exact .inl ⟨h.1, fun reply => ih reply (h.2 reply)⟩

theorem Ends.through {post : α → Prop} {answer : (q : ι) → Program κ τ (ρ q)} (h : p.Ends post) :
    (p.through answer).Ends post := by
  induction p with
  | done a => exact h
  | note n next ih => exact ih h
  | ask q next => exact h.elim

/-- A program stops at faults if it does so where its questions are asked as they are, and each of
them is answered by a program that shows what it meets. -/
theorem StopsAt.through {met? : (k : κ) → τ k → Option Fault} {tolerated' : κ → Fault → Prop}
    {answer : (q : ι) → Program κ τ (ρ q)} (h : p.StopsAt fault? tolerated shows)
    (hanswer : ∀ q, (answer q).StopsAt met? (fun _ _ => False)
      fun f reply => fault? q reply = some f)
    (htolerated : ∀ q, (answer q).Asks fun k => ∀ f, tolerated q f → tolerated' k f) :
    (p.through answer).StopsAt met? tolerated' shows := by
  induction p with
  | done a => trivial
  | note n next ih => exact ih h
  | ask q next ih =>
    refine StopsAt.bind (hanswer q) (htolerated q) (fun _ _ => False.elim)
      (fun reply => ih reply (h reply).1) ?_
    intro f reply hf
    rcases (h reply).2 f hf with hq | hends
    · exact .inl fun k hk => hk f hq
    · exact .inr hends.through

end Rules

section Failing

variable {allowed early late : ι → Prop} {gate : ι} {fault? : (q : ι) → ρ q → Option Fault}
  {tolerated : ι → Fault → Prop} {a : ExceptT Fault (Program ι ρ) α}
  {k : α → ExceptT Fault (Program ι ρ) β}

theorem Asks.then (ha : a.run.Asks allowed) (hk : ∀ x, (k x).run.Asks allowed) :
    (a >>= k).run.Asks allowed := by
  rw [run_bind]
  refine ha.bind fun r => ?_
  cases r with
  | ok x => exact hk x
  | error f => trivial

theorem Defers.then (ha : a.run.Asks early) (hk : ∀ x, (k x).run.Defers early gate late) :
    (a >>= k).run.Defers early gate late := by
  rw [run_bind]
  refine Defers.bind ha fun r => ?_
  cases r with
  | ok x => exact hk x
  | error f => trivial

theorem StopsAt.then (ha : a.run.StopsAt fault? tolerated FailsWith)
    (hk : ∀ x, (k x).run.StopsAt fault? tolerated FailsWith) :
    (a >>= k).run.StopsAt fault? tolerated FailsWith := by
  rw [run_bind]
  refine StopsAt.bind ha (Asks.all _) (fun _ _ => id) (fun r => ?_) ?_
  · cases r with
    | ok x => exact hk x
    | error f => trivial
  · rintro f _ rfl
    exact .inr rfl

end Failing

end Program

end Tenancy
