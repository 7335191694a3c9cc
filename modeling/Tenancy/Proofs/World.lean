import Tenancy.Proofs.Run

/-!
# Programs in a world

Questions are answered by a world that changes meanwhile. A law says which answers and changes are
possible, and `Always` what a program keeps in every world of that law, whatever it is answered.
-/

namespace Tenancy

/-- Which answer a question may get in a world, and which world there is afterwards. -/
abbrev Law (ι : Type) (ρ : ι → Type) (σ : Type) := σ → (q : ι) → ρ q → σ → Prop

namespace Program

variable {ι κ : Type} {ρ : ι → Type} {τ : κ → Type} {σ α β : Type}

/-- Events that take one world to another; a note changes nothing. -/
inductive Passes (law : Law ι ρ σ) : σ → List (Event ι ρ) → σ → Prop where
  | nil (w : σ) : Passes law w [] w
  | noted {n : Note} {es : List (Event ι ρ)} {w w' : σ} :
      Passes law w es w' → Passes law w (.noted n :: es) w'
  | asked {q : ι} {reply : ρ q} {es : List (Event ι ρ)} {w w₁ w' : σ} :
      law w q reply w₁ → Passes law w₁ es w' → Passes law w (.asked q reply :: es) w'

namespace Passes

variable {law law' : Law ι ρ σ} {w w' : σ} {es es' : List (Event ι ρ)}

@[simp] theorem nil_iff : Passes law w [] w' ↔ w' = w := by
  constructor
  · intro h
    cases h
    rfl
  · rintro rfl
    exact .nil _

@[simp] theorem noted_iff {n : Note} : Passes law w (.noted n :: es) w' ↔ Passes law w es w' := by
  constructor
  · intro h
    cases h with
    | noted h => exact h
  · exact .noted

theorem asked_iff {q : ι} {reply : ρ q} :
    Passes law w (.asked q reply :: es) w' ↔ ∃ w₁, law w q reply w₁ ∧ Passes law w₁ es w' := by
  constructor
  · intro h
    cases h with
    | asked hq h => exact ⟨_, hq, h⟩
  · rintro ⟨w₁, hq, h⟩
    exact .asked hq h

theorem append_iff :
    Passes law w (es ++ es') w' ↔ ∃ w₁, Passes law w es w₁ ∧ Passes law w₁ es' w' := by
  induction es generalizing w with
  | nil => simp
  | cons e es ih =>
    cases e with
    | noted n => simp [ih]
    | asked q reply =>
      simp only [List.cons_append, asked_iff, ih]
      constructor
      · rintro ⟨w₁, hq, w₂, hes, hes'⟩
        exact ⟨w₂, ⟨w₁, hq, hes⟩, hes'⟩
      · rintro ⟨w₂, ⟨w₁, hq, hes⟩, hes'⟩
        exact ⟨w₁, hq, w₂, hes, hes'⟩

end Passes

/-- Whatever is answered, `inv` holds after every question and `post` at the end. -/
def Always (law : Law ι ρ σ) (inv : σ → Prop) (post : α → σ → Prop) : Program ι ρ α → σ → Prop
  | done a, w => post a w
  | note _ next, w => next.Always law inv post w
  | ask q next, w =>
    ∀ reply w', law w q reply w' → inv w' ∧ (next reply).Always law inv post w'

section Rules

variable {law : Law ι ρ σ} {inv : σ → Prop} {post : α → σ → Prop} {w w' : σ}

@[simp] theorem always_done (a : α) : (done a).Always law inv post w ↔ post a w := Iff.rfl

@[simp] theorem always_note (n : Note) (next : Program ι ρ α) :
    (note n next).Always law inv post w ↔ next.Always law inv post w := Iff.rfl

@[simp] theorem always_ask (q : ι) (next : ρ q → Program ι ρ α) :
    (ask q next).Always law inv post w ↔
      ∀ reply w', law w q reply w' → inv w' ∧ (next reply).Always law inv post w' := Iff.rfl

theorem Always.mono {post' : α → σ → Prop} {p : Program ι ρ α}
    (hpost : ∀ a w, post a w → post' a w) (h : p.Always law inv post w) :
    p.Always law inv post' w := by
  induction p generalizing w with
  | done a => exact hpost a w h
  | note n next ih => exact ih h
  | ask q next ih =>
    intro reply w' hw
    exact ⟨(h reply w' hw).1, ih reply (h reply w' hw).2⟩

theorem always_bind_iff {p : Program ι ρ β} {f : β → Program ι ρ α} :
    (p >>= f).Always law inv post w ↔
      p.Always law inv (fun b w => (f b).Always law inv post w) w := by
  induction p generalizing w with
  | done b => exact Iff.rfl
  | note n next ih => exact ih
  | ask q next ih =>
    exact forall₃_congr fun reply w' _ => and_congr_right fun _ => ih reply

/-- What always holds of a program holds of what is left of it, in the world it has come to. -/
theorem Always.leads {p left : Program ι ρ α} {es : List (Event ι ρ)}
    (h : p.Always law inv post w) (hp : p.Leads es left) (hw : Passes law w es w') :
    left.Always law inv post w' := by
  induction hp generalizing w with
  | refl p =>
    cases hw
    exact h
  | note _ ih =>
    cases hw with
    | noted hw => exact ih h hw
  | ask _ ih =>
    cases hw with
    | asked hq hw => exact ih (h _ _ hq).2 hw

theorem Always.inv_of_leads {p left : Program ι ρ α} {es : List (Event ι ρ)}
    (h : p.Always law inv post w) (hinv : inv w) (hp : p.Leads es left)
    (hw : Passes law w es w') : inv w' := by
  induction hp generalizing w with
  | refl p =>
    cases hw
    exact hinv
  | note _ ih =>
    cases hw with
    | noted hw => exact ih h hinv hw
  | ask _ ih =>
    cases hw with
    | asked hq hw => exact ih (h _ _ hq).2 (h _ _ hq).1 hw

/-- Questions answered by other programs: the answers and changes that these bring about together
have to be possible under the law of the questions. -/
theorem Always.through {law' : Law κ τ σ} {answer : (q : ι) → Program κ τ (ρ q)}
    (hanswer : ∀ q w, inv w → (∀ reply w', law w q reply w' → inv w') →
      (answer q).Always law' inv (law w q) w)
    {p : Program ι ρ α} (hinv : inv w) (h : p.Always law inv post w) :
    (p.through answer).Always law' inv post w := by
  induction p generalizing w with
  | done a => exact h
  | note n next ih => exact ih hinv h
  | ask q next ih =>
    refine always_bind_iff.mpr ((hanswer q w hinv fun reply w' hw => (h reply w' hw).1).mono ?_)
    intro reply w' hw
    exact ih reply (h reply w' hw).1 (h reply w' hw).2

end Rules

end Program

end Tenancy
