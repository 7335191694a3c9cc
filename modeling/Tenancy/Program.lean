import Tenancy.Note

/-!
# Programs

A program notes things and asks questions until it is done; how it goes on depends on the answers.
It does not say who answers: a program runs in every monad that can note and answer, in particular
as a program that asks other questions.
-/

namespace Tenancy

/-- Questions are taken from `ι`, and `q` is answered by an element of `ρ q`. -/
inductive Program (ι : Type) (ρ : ι → Type) (α : Type) where
  | done (a : α)
  | note (n : Note) (next : Program ι ρ α)
  | ask (q : ι) (next : ρ q → Program ι ρ α)

namespace Program

variable {ι : Type} {ρ : ι → Type} {α β γ : Type}

def bind : Program ι ρ α → (α → Program ι ρ β) → Program ι ρ β
  | done a, f => f a
  | note n next, f => note n (next.bind f)
  | ask q next, f => ask q fun r => (next r).bind f

instance : Monad (Program ι ρ) where
  pure := done
  bind := bind

@[simp] theorem done_bind (a : α) (f : α → Program ι ρ β) : (done a >>= f) = f a := rfl

@[simp] theorem pure_eq_done (a : α) : (pure a : Program ι ρ α) = done a := rfl

@[simp] theorem note_bind (n : Note) (p : Program ι ρ α) (f : α → Program ι ρ β) :
    (note n p >>= f) = note n (p >>= f) := rfl

@[simp] theorem ask_bind (q : ι) (p : ρ q → Program ι ρ α) (f : α → Program ι ρ β) :
    (ask q p >>= f) = ask q fun r => p r >>= f := rfl

theorem bind_done (p : Program ι ρ α) : p >>= done = p := by
  induction p with
  | done a => rfl
  | note n next ih => simp [ih]
  | ask q next ih => simp [ih]

theorem bind_bind (p : Program ι ρ α) (f : α → Program ι ρ β) (g : β → Program ι ρ γ) :
    p >>= f >>= g = p >>= fun a => f a >>= g := by
  induction p with
  | done a => rfl
  | note n next ih => simp [ih]
  | ask q next ih => simp [ih]

instance : LawfulMonad (Program ι ρ) :=
  LawfulMonad.mk' _
    (fun p => bind_done p)
    (fun _ _ => rfl)
    (fun p f g => bind_bind p f g)

/-- Asks one question and gives the answer back. -/
def question (q : ι) : Program ι ρ (ρ q) :=
  ask q done

def say (n : Note) : Program ι ρ Unit :=
  note n (done ())

/-- Runs a program where `answer` answers its questions and `log` takes its notes. -/
def runIn {m : Type → Type} [Monad m] (log : Note → m Unit) (answer : (q : ι) → m (ρ q)) :
    Program ι ρ α → m α
  | done a => pure a
  | note n next => log n >>= fun _ => next.runIn log answer
  | ask q next => answer q >>= fun r => (next r).runIn log answer

@[simp] theorem runIn_done {m : Type → Type} [Monad m] (log : Note → m Unit)
    (answer : (q : ι) → m (ρ q)) (a : α) : (done a).runIn log answer = pure a := rfl

theorem runIn_bind {m : Type → Type} [Monad m] [LawfulMonad m] (log : Note → m Unit)
    (answer : (q : ι) → m (ρ q)) (p : Program ι ρ α) (f : α → Program ι ρ β) :
    (p >>= f).runIn log answer = p.runIn log answer >>= fun a => (f a).runIn log answer := by
  induction p with
  | done a => simp
  | note n next ih => simp [runIn, ih]
  | ask q next ih => simp [runIn, ih]

/-- Answers the questions by programs that ask other ones; the notes stay. -/
def through {κ : Type} {σ : κ → Type} (answer : (q : ι) → Program κ σ (ρ q)) (p : Program ι ρ α) :
    Program κ σ α :=
  p.runIn say answer

/-- Answers the questions by programs that may give up. -/
def throughSome {κ : Type} {σ : κ → Type} (answer : (q : ι) → Program κ σ (Option (ρ q)))
    (p : Program ι ρ α) : Program κ σ (Option α) :=
  (p.runIn (m := OptionT (Program κ σ)) (fun n => OptionT.lift (say n)) answer).run

end Program

end Tenancy
