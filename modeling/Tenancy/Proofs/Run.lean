import Tenancy.Fault
import Tenancy.Program

/-!
# Runs

What happens while a program runs, whoever answers it: its notes and its questions with their
answers, in order. A run may be followed up to any point, where some of the program is left.
-/

namespace Tenancy

/-- Something that happens in a run. -/
inductive Event (ι : Type) (ρ : ι → Type) where
  | noted (n : Note)
  | asked (q : ι) (reply : ρ q)

namespace Event

variable {ι : Type} {ρ : ι → Type}

def question? : Event ι ρ → Option ((q : ι) × ρ q)
  | noted _ => none
  | asked q reply => some ⟨q, reply⟩

/-- The questions of a run with their answers. -/
def questions (es : List (Event ι ρ)) : List ((q : ι) × ρ q) :=
  es.filterMap question?

@[simp] theorem questions_nil : questions ([] : List (Event ι ρ)) = [] := rfl

@[simp] theorem questions_noted (n : Note) (es : List (Event ι ρ)) :
    questions (noted n :: es) = questions es := rfl

@[simp] theorem questions_asked (q : ι) (reply : ρ q) (es : List (Event ι ρ)) :
    questions (asked q reply :: es) = ⟨q, reply⟩ :: questions es := rfl

@[simp] theorem questions_append (es es' : List (Event ι ρ)) :
    questions (es ++ es') = questions es ++ questions es' := by
  simp [questions]

theorem mem_questions_iff {q : ι} {reply : ρ q} {es : List (Event ι ρ)} :
    ⟨q, reply⟩ ∈ questions es ↔ .asked q reply ∈ es := by
  induction es with
  | nil => simp
  | cons e es ih =>
    cases e with
    | noted n => simp [ih]
    | asked q' reply' => simp [ih]

/-- The questions of a run without their answers. -/
def posed (es : List (Event ι ρ)) : List ι :=
  (questions es).map (·.1)

@[simp] theorem posed_nil : posed ([] : List (Event ι ρ)) = [] := rfl

@[simp] theorem posed_noted (n : Note) (es : List (Event ι ρ)) :
    posed (noted n :: es) = posed es := rfl

@[simp] theorem posed_asked (q : ι) (reply : ρ q) (es : List (Event ι ρ)) :
    posed (asked q reply :: es) = q :: posed es := rfl

@[simp] theorem posed_append (es es' : List (Event ι ρ)) :
    posed (es ++ es') = posed es ++ posed es' := by
  simp [posed]

theorem mem_posed_of_asked {q : ι} {reply : ρ q} {es : List (Event ι ρ)}
    (h : .asked q reply ∈ es) : q ∈ posed es :=
  List.mem_map.mpr ⟨⟨q, reply⟩, mem_questions_iff.mpr h, rfl⟩

end Event

namespace Program

variable {ι : Type} {ρ : ι → Type} {α β : Type}

/-- What is left of a program after some events. -/
inductive Leads : Program ι ρ α → List (Event ι ρ) → Program ι ρ α → Prop where
  | refl (p : Program ι ρ α) : Leads p [] p
  | note {n : Note} {next left : Program ι ρ α} {es : List (Event ι ρ)} :
      Leads next es left → Leads (note n next) (.noted n :: es) left
  | ask {q : ι} {next : ρ q → Program ι ρ α} {reply : ρ q} {left : Program ι ρ α}
      {es : List (Event ι ρ)} :
      Leads (next reply) es left → Leads (ask q next) (.asked q reply :: es) left

/-- A run to the end, with its result. -/
def Runs (p : Program ι ρ α) (es : List (Event ι ρ)) (a : α) : Prop :=
  p.Leads es (done a)

theorem leads_done_iff {a : α} {es : List (Event ι ρ)} {left : Program ι ρ α} :
    (done a).Leads es left ↔ es = [] ∧ left = done a := by
  constructor
  · intro h
    cases h
    exact ⟨rfl, rfl⟩
  · rintro ⟨rfl, rfl⟩
    exact .refl _

theorem Leads.trans {p p' p'' : Program ι ρ α} {es es' : List (Event ι ρ)} (h : p.Leads es p')
    (h' : p'.Leads es' p'') : p.Leads (es ++ es') p'' := by
  induction h with
  | refl => exact h'
  | note _ ih => exact .note (ih h')
  | ask _ ih => exact .ask (ih h')

theorem Leads.bind {p p' : Program ι ρ α} {es : List (Event ι ρ)} (h : p.Leads es p')
    (f : α → Program ι ρ β) : (p >>= f).Leads es (p' >>= f) := by
  induction h with
  | refl => exact .refl _
  | note _ ih => exact .note ih
  | ask _ ih => exact .ask ih

/-- A run of two programs, one after the other, ends in the first or gets into the second. -/
theorem leads_bind_iff {p : Program ι ρ α} {f : α → Program ι ρ β} {es : List (Event ι ρ)}
    {left : Program ι ρ β} :
    (p >>= f).Leads es left ↔
      (∃ p', p.Leads es p' ∧ left = p' >>= f) ∨
        ∃ first a rest, es = first ++ rest ∧ p.Runs first a ∧ (f a).Leads rest left := by
  constructor
  · intro h
    induction p generalizing es with
    | done a => exact .inr ⟨[], a, es, rfl, .refl _, h⟩
    | note n next ih =>
      rw [note_bind] at h
      cases h with
      | refl => exact .inl ⟨_, .refl _, rfl⟩
      | note h =>
        rcases ih h with ⟨p', hp, rfl⟩ | ⟨first, a, rest, rfl, hp, hf⟩
        · exact .inl ⟨p', .note hp, rfl⟩
        · exact .inr ⟨_ :: first, a, rest, rfl, .note hp, hf⟩
    | ask q next ih =>
      rw [ask_bind] at h
      cases h with
      | refl => exact .inl ⟨_, .refl _, rfl⟩
      | ask h =>
        rcases ih _ h with ⟨p', hp, rfl⟩ | ⟨first, a, rest, rfl, hp, hf⟩
        · exact .inl ⟨p', .ask hp, rfl⟩
        · exact .inr ⟨_ :: first, a, rest, rfl, .ask hp, hf⟩
  · rintro (⟨p', hp, rfl⟩ | ⟨first, a, rest, rfl, hp, hf⟩)
    · exact hp.bind f
    · exact (Leads.bind hp f).trans hf

@[simp] theorem runs_done_iff {a b : α} {es : List (Event ι ρ)} :
    (done a).Runs es b ↔ es = [] ∧ b = a := by
  simp [Runs, leads_done_iff]

@[simp] theorem runs_note_iff {n : Note} {next : Program ι ρ α} {es : List (Event ι ρ)} {a : α} :
    (note n next).Runs es a ↔ ∃ rest, es = .noted n :: rest ∧ next.Runs rest a := by
  constructor
  · intro h
    cases h with
    | note h => exact ⟨_, rfl, h⟩
  · rintro ⟨rest, rfl, h⟩
    exact .note h

@[simp] theorem runs_ask_iff {q : ι} {next : ρ q → Program ι ρ α} {es : List (Event ι ρ)} {a : α} :
    (ask q next).Runs es a ↔
      ∃ reply rest, es = .asked q reply :: rest ∧ (next reply).Runs rest a := by
  constructor
  · intro h
    cases h with
    | ask h => exact ⟨_, _, rfl, h⟩
  · rintro ⟨reply, rest, rfl, h⟩
    exact .ask h

theorem runs_bind_iff {p : Program ι ρ α} {f : α → Program ι ρ β} {es : List (Event ι ρ)} {b : β} :
    (p >>= f).Runs es b ↔
      ∃ first a rest, es = first ++ rest ∧ p.Runs first a ∧ (f a).Runs rest b := by
  refine leads_bind_iff.trans (or_iff_right_of_imp ?_)
  rintro ⟨p', hp, hb⟩
  cases p' with
  | done a => exact ⟨es, a, [], by simp, hp, hb ▸ .refl _⟩
  | note n next => cases hb
  | ask q next => cases hb

theorem runs_map_iff {p : Program ι ρ α} {g : α → β} {es : List (Event ι ρ)} {b : β} :
    (g <$> p).Runs es b ↔ ∃ a, p.Runs es a ∧ b = g a := by
  rw [← bind_pure_comp, runs_bind_iff]
  constructor
  · rintro ⟨first, a, rest, rfl, hp, hdone⟩
    obtain ⟨rfl, rfl⟩ := runs_done_iff.mp hdone
    exact ⟨a, by simpa using hp, rfl⟩
  · rintro ⟨a, hp, rfl⟩
    exact ⟨es, a, [], by simp, hp, .refl _⟩

/-- The events and the result of a run in which every question has its answer. -/
def play (answer : (q : ι) → ρ q) : Program ι ρ α → List (Event ι ρ) × α
  | done a => ([], a)
  | note n next => (.noted n :: (next.play answer).1, (next.play answer).2)
  | ask q next =>
    (.asked q (answer q) :: ((next (answer q)).play answer).1, ((next (answer q)).play answer).2)

theorem play_bind (answer : (q : ι) → ρ q) (p : Program ι ρ α) (f : α → Program ι ρ β) :
    (p >>= f).play answer =
      ((p.play answer).1 ++ ((f (p.play answer).2).play answer).1,
        ((f (p.play answer).2).play answer).2) := by
  induction p with
  | done a => rfl
  | note n next ih => simp [play, ih]
  | ask q next ih => simp [play, ih]

theorem runs_play (answer : (q : ι) → ρ q) (p : Program ι ρ α) :
    p.Runs (p.play answer).1 (p.play answer).2 := by
  induction p with
  | done a => exact .refl _
  | note n next ih => exact .note ih
  | ask q next ih => exact .ask (ih _)

/-- Every question of such a run has its answer. -/
theorem eq_of_mem_questions_play {answer : (q : ι) → ρ q} {p : Program ι ρ α} {x : (q : ι) × ρ q}
    (h : x ∈ Event.questions (p.play answer).1) : x.2 = answer x.1 := by
  induction p with
  | done a => simp [play] at h
  | note n next ih => exact ih (by simpa [play] using h)
  | ask q next ih =>
    simp only [play, Event.questions_asked, List.mem_cons] at h
    rcases h with rfl | h
    · rfl
    · exact ih _ h

theorem asked_mem_play {answer : (q : ι) → ρ q} {p : Program ι ρ α} {q : ι}
    (h : q ∈ Event.posed (p.play answer).1) : .asked q (answer q) ∈ (p.play answer).1 := by
  obtain ⟨⟨q, reply⟩, hmem, rfl⟩ := List.mem_map.mp h
  obtain rfl : reply = answer q := eq_of_mem_questions_play hmem
  exact Event.mem_questions_iff.mp hmem

section Failing

variable (a : ExceptT Fault (Program ι ρ) α) (f : α → ExceptT Fault (Program ι ρ) β)

@[simp] theorem run_lift (e : Except Fault α) :
    (liftM e : ExceptT Fault (Program ι ρ) α).run = done e := rfl

@[simp] theorem run_throw (e : Fault) :
    (throw e : ExceptT Fault (Program ι ρ) α).run = done (.error e) := rfl

theorem runs_run_lift_iff {e r : Except Fault α} {es : List (Event ι ρ)} :
    (liftM e : ExceptT Fault (Program ι ρ) α).run.Runs es r ↔ es = [] ∧ r = e := by
  rw [run_lift, runs_done_iff]

theorem runs_run_say_iff {n : Note} {r : Except Fault Unit} {es : List (Event ι ρ)} :
    (ExceptT.lift (say n) : ExceptT Fault (Program ι ρ) Unit).run.Runs es r ↔
      es = [.noted n] ∧ r = .ok () := by
  refine runs_note_iff.trans ⟨?_, ?_⟩
  · rintro ⟨rest, rfl, hrest⟩
    obtain ⟨rfl, rfl⟩ := runs_done_iff.mp hrest
    exact ⟨rfl, rfl⟩
  · rintro ⟨rfl, rfl⟩
    exact ⟨[], rfl, .refl _⟩

/-- A failing program goes on only if it has not failed. -/
theorem run_bind :
    (a >>= f).run = a.run >>= fun
      | .ok x => (f x).run
      | .error e => done (.error e) := by
  rw [ExceptT.run_bind]
  congr 1
  funext r
  cases r <;> rfl

theorem runs_run_bind_iff {es : List (Event ι ρ)} {r : Except Fault β} :
    (a >>= f).run.Runs es r ↔
      (∃ e, a.run.Runs es (.error e) ∧ r = .error e) ∨
        ∃ first x rest, es = first ++ rest ∧ a.run.Runs first (.ok x) ∧ (f x).run.Runs rest r := by
  rw [run_bind, runs_bind_iff]
  constructor
  · rintro ⟨first, x | x, rest, rfl, ha, hf⟩
    · obtain ⟨rfl, rfl⟩ := runs_done_iff.mp hf
      exact .inl ⟨x, by simpa using ha, rfl⟩
    · exact .inr ⟨first, x, rest, rfl, ha, hf⟩
  · rintro (⟨e, ha, rfl⟩ | ⟨first, x, rest, rfl, ha, hf⟩)
    · exact ⟨es, .error e, [], by simp, ha, .refl _⟩
    · exact ⟨first, .ok x, rest, rfl, ha, hf⟩

/-- A failing program whose result is only looked at. -/
theorem runs_run_bind_lift_iff {a : ExceptT Fault (Program ι ρ) α} {g : α → Except Fault β}
    {es : List (Event ι ρ)} {r : Except Fault β} :
    (a >>= fun x => liftM (g x)).run.Runs es r ↔ ∃ y, a.run.Runs es y ∧ r = y >>= g := by
  rw [runs_run_bind_iff]
  constructor
  · rintro (⟨e, ha, rfl⟩ | ⟨first, x, rest, rfl, ha, hg⟩)
    · exact ⟨.error e, ha, rfl⟩
    · obtain ⟨rfl, rfl⟩ := runs_done_iff.mp hg
      exact ⟨.ok x, by simpa using ha, rfl⟩
  · rintro ⟨e | x, ha, rfl⟩
    · exact .inl ⟨e, ha, rfl⟩
    · exact .inr ⟨es, x, [], by simp, ha, .refl _⟩

theorem runs_run_bind_ok_iff {es : List (Event ι ρ)} {b : β} :
    (a >>= f).run.Runs es (.ok b) ↔
      ∃ first x rest, es = first ++ rest ∧ a.run.Runs first (.ok x) ∧
        (f x).run.Runs rest (.ok b) := by
  rw [runs_run_bind_iff]
  exact or_iff_right (by simp)

theorem runs_run_map_ok_iff {g : α → β} {es : List (Event ι ρ)} {b : β} :
    (g <$> a).run.Runs es (.ok b) ↔ ∃ x, a.run.Runs es (.ok x) ∧ b = g x := by
  rw [ExceptT.run_map, runs_map_iff]
  constructor
  · rintro ⟨e | x, ha, hb⟩
    · cases hb
    · exact ⟨x, ha, Except.ok.inj hb⟩
  · rintro ⟨x, ha, rfl⟩
    exact ⟨.ok x, ha, rfl⟩

end Failing

end Program

end Tenancy
