import Mathlib.Data.List.Forall2
import Tenancy.Proofs.Run

/-!
# Programs in lockstep

Two programs run in lockstep if they note the same and ask questions that go together, and go on in
lockstep whenever the answers go together too. A side that answers such questions alike cannot tell
the two apart: the results go together, and so does all that happens.
-/

namespace Tenancy

/-- Which questions go together, and which answers of theirs. -/
abbrev Pairing (ι : Type) (ρ : ι → Type) := (q q' : ι) → (ρ q → ρ q' → Prop) → Prop

/-- Which events go together: a note goes with itself only. -/
inductive Event.Paired {ι : Type} {ρ : ι → Type} (pairs : Pairing ι ρ) :
    Event ι ρ → Event ι ρ → Prop where
  | noted (n : Note) : Paired pairs (.noted n) (.noted n)
  | asked {q q' : ι} {same : ρ q → ρ q' → Prop} {reply : ρ q} {reply' : ρ q'}
      (questions : pairs q q' same) (replies : same reply reply') :
      Paired pairs (.asked q reply) (.asked q' reply')

namespace Program

variable {ι κ : Type} {ρ : ι → Type} {τ : κ → Type} {σ α α' β β' : Type}

inductive Lockstep (pairs : Pairing ι ρ) (post : α → α' → Prop) :
    Program ι ρ α → Program ι ρ α' → Prop where
  | done {a : α} {a' : α'} (h : post a a') : Lockstep pairs post (done a) (done a')
  | note {n : Note} {p : Program ι ρ α} {p' : Program ι ρ α'} (h : Lockstep pairs post p p') :
      Lockstep pairs post (note n p) (note n p')
  | ask {q q' : ι} {same : ρ q → ρ q' → Prop} {next : ρ q → Program ι ρ α}
      {next' : ρ q' → Program ι ρ α'} (h : pairs q q' same)
      (hnext : ∀ reply reply', same reply reply' →
        Lockstep pairs post (next reply) (next' reply')) :
      Lockstep pairs post (ask q next) (ask q' next')

/-- The events, the result and the last state of a run with a side that changes its state. -/
def playIn (answer : (q : ι) → StateM σ (ρ q)) : Program ι ρ α → σ → List (Event ι ρ) × α × σ
  | done a, w => ([], a, w)
  | note n next, w =>
    let (es, a, w') := next.playIn answer w
    (.noted n :: es, a, w')
  | ask q next, w =>
    let (reply, w₁) := answer q w
    let (es, a, w') := (next reply).playIn answer w₁
    (.asked q reply :: es, a, w')

/-- A side that answers questions alike that go together. What it has seen may differ, as long as
that makes no difference to later answers: `alike` says which states come to the same. -/
def Blind (pairs : Pairing ι ρ) (answer : (q : ι) → StateM σ (ρ q)) (alike : σ → σ → Prop) : Prop :=
  ∀ q q' same w w', pairs q q' same → alike w w' →
    same (answer q w).1 (answer q' w').1 ∧ alike (answer q w).2 (answer q' w').2

/-- No side to which the `unseen` makes no difference tells two programs apart: they come to the
same, and what happens is the same up to what is `hidden`. -/
def LookAlike (hidden unseen : Pairing ι ρ) (p p' : Program ι ρ α) : Prop :=
  ∀ (σ : Type) (answer : (q : ι) → StateM σ (ρ q)) (alike : σ → σ → Prop),
    Blind unseen answer alike → ∀ w w', alike w w' →
      (p.playIn answer w).2.1 = (p'.playIn answer w').2.1 ∧
        List.Forall₂ (Event.Paired hidden) (p.playIn answer w).1 (p'.playIn answer w').1 ∧
          alike (p.playIn answer w).2.2 (p'.playIn answer w').2.2

section Rules

variable {pairs : Pairing ι ρ} {post : α → α' → Prop} {p : Program ι ρ α} {p' : Program ι ρ α'}

theorem Lockstep.bind {post' : β → β' → Prop} {f : α → Program ι ρ β} {f' : α' → Program ι ρ β'}
    (h : Lockstep pairs post p p')
    (hf : ∀ a a', post a a' → Lockstep pairs post' (f a) (f' a')) :
    Lockstep pairs post' (p >>= f) (p' >>= f') := by
  induction h with
  | done h => exact hf _ _ h
  | note _ ih => exact .note ih
  | ask h _ ih => exact .ask h ih

theorem Lockstep.mono {pairs' : Pairing ι ρ} {post' : α → α' → Prop}
    (h : Lockstep pairs post p p') (hpairs : ∀ q q' same, pairs q q' same → pairs' q q' same)
    (hpost : ∀ a a', post a a' → post' a a') : Lockstep pairs' post' p p' := by
  induction h with
  | done h => exact .done (hpost _ _ h)
  | note _ ih => exact .note ih
  | ask h _ ih => exact .ask (hpairs _ _ _ h) ih

/-- Programs stay in lockstep where programs in lockstep answer their questions. -/
theorem Lockstep.through {pairs' : Pairing κ τ} {answer answer' : (q : ι) → Program κ τ (ρ q)}
    (h : Lockstep pairs post p p')
    (hanswer : ∀ q q' same, pairs q q' same → Lockstep pairs' same (answer q) (answer' q')) :
    Lockstep pairs' post (p.through answer) (p'.through answer') := by
  induction h with
  | done h => exact .done h
  | note _ ih => exact .note ih
  | ask h _ ih => exact (hanswer _ _ _ h).bind ih

@[simp] theorem throughSome_done (answer : (q : ι) → Program κ τ (Option (ρ q))) (a : α) :
    (done a : Program ι ρ α).throughSome answer = done (some a) := rfl

theorem throughSome_note (answer : (q : ι) → Program κ τ (Option (ρ q))) (n : Note)
    (next : Program ι ρ α) :
    (note n next).throughSome answer = note n (next.throughSome answer) := rfl

theorem throughSome_ask (answer : (q : ι) → Program κ τ (Option (ρ q))) (q : ι)
    (next : ρ q → Program ι ρ α) :
    (ask q next).throughSome answer = answer q >>= fun
      | some reply => (next reply).throughSome answer
      | none => done none := by
  change (answer q >>= _ : Program κ τ (Option α)) = _
  refine congrArg _ (funext fun reply => ?_)
  cases reply <;> rfl

theorem Lockstep.throughSome {pairs' : Pairing κ τ}
    {answer : (q : ι) → Program κ τ (Option (ρ q))} (h : Lockstep pairs post p p')
    (hanswer : ∀ q q' same, pairs q q' same →
      Lockstep pairs' (Option.Rel same) (answer q) (answer q')) :
    Lockstep pairs' (Option.Rel post) (p.throughSome answer) (p'.throughSome answer) := by
  induction h with
  | done h => exact .done (.some h)
  | note _ ih => exact .note ih
  | ask h _ ih =>
    rw [throughSome_ask, throughSome_ask]
    refine (hanswer _ _ _ h).bind ?_
    rintro _ _ (hsame | -)
    · exact ih _ _ hsame
    · exact .done .none

/-- A blind side cannot tell programs in lockstep apart. -/
theorem Lockstep.playIn {answer : (q : ι) → StateM σ (ρ q)} {alike : σ → σ → Prop}
    (h : Lockstep pairs post p p') (hblind : Blind pairs answer alike) {w w' : σ}
    (hw : alike w w') :
    List.Forall₂ (Event.Paired pairs) (p.playIn answer w).1 (p'.playIn answer w').1 ∧
      post (p.playIn answer w).2.1 (p'.playIn answer w').2.1 ∧
      alike (p.playIn answer w).2.2 (p'.playIn answer w').2.2 := by
  induction h generalizing w w' with
  | done h => exact ⟨.nil, h, hw⟩
  | note _ ih =>
    obtain ⟨hes, hpost, hlast⟩ := ih hw
    exact ⟨.cons (.noted _) hes, hpost, hlast⟩
  | ask h _ ih =>
    obtain ⟨hsame, hw₁⟩ := hblind _ _ _ _ _ h hw
    obtain ⟨hes, hpost, hlast⟩ := ih _ _ hsame hw₁
    exact ⟨.cons (.asked h hsame) hes, hpost, hlast⟩

theorem Lockstep.lookAlike {unseen : Pairing ι ρ} {p p' : Program ι ρ α}
    (h : Lockstep pairs Eq p p')
    (hunseen : ∀ q q' same, pairs q q' same → unseen q q' same) :
    LookAlike pairs unseen p p' := by
  intro σ answer alike hblind w w' hw
  have hpairs : Blind pairs answer alike :=
    fun q q' same v v' hq => hblind q q' same v v' (hunseen q q' same hq)
  obtain ⟨hevents, hresult, hlast⟩ := h.playIn hpairs hw
  exact ⟨hresult, hevents, hlast⟩

end Rules

section Failing

variable {pairs : Pairing ι ρ} {a a' : ExceptT Fault (Program ι ρ) α}
  {k k' : α → ExceptT Fault (Program ι ρ) β}

theorem lockstep_lift (e : Except Fault α) :
    Lockstep pairs Eq (liftM e : ExceptT Fault (Program ι ρ) α).run
      (liftM e : ExceptT Fault (Program ι ρ) α).run :=
  .done rfl

theorem Lockstep.then (ha : Lockstep pairs Eq a.run a'.run)
    (hk : ∀ x, Lockstep pairs Eq (k x).run (k' x).run) :
    Lockstep pairs Eq (a >>= k).run (a' >>= k').run := by
  rw [run_bind, run_bind]
  refine ha.bind ?_
  rintro (f | x) _ rfl
  · exact .done rfl
  · exact hk x

end Failing

end Program

end Tenancy
