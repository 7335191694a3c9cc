import Tenancy.Proofs.Lockstep
import Tenancy.Proofs.Stopping

/-!
# Expansions of runs

A program whose questions are answered by other programs runs just as it does by itself, with a run
of the answering program in the place of each question.
-/

namespace Tenancy

variable {ι κ : Type} {ρ : ι → Type} {τ : κ → Type} {α : Type}

/-- Events with others in the place of each question: `settles` says which ones bring about which
answer. -/
inductive Event.Expands (settles : (q : ι) → List (Event κ τ) → ρ q → Prop) :
    List (Event ι ρ) → List (Event κ τ) → Prop where
  | nil : Expands settles [] []
  | noted {n : Note} {qs : List (Event ι ρ)} {es : List (Event κ τ)} :
      Expands settles qs es → Expands settles (.noted n :: qs) (.noted n :: es)
  | asked {q : ι} {reply : ρ q} {first es : List (Event κ τ)} {qs : List (Event ι ρ)} :
      settles q first reply → Expands settles qs es →
        Expands settles (.asked q reply :: qs) (first ++ es)

namespace Event.Expands

variable {settles : (q : ι) → List (Event κ τ) → ρ q → Prop} {qs : List (Event ι ρ)}
  {es : List (Event κ τ)}

theorem mono {settles' : (q : ι) → List (Event κ τ) → ρ q → Prop} (h : Expands settles qs es)
    (himp : ∀ q first reply, settles q first reply → settles' q first reply) :
    Expands settles' qs es := by
  induction h with
  | nil => exact .nil
  | noted _ ih => exact .noted ih
  | asked hsettles _ ih => exact .asked (himp _ _ _ hsettles) ih

/-- Every answer has been brought about by some of the events. -/
theorem settled (h : Expands settles qs es) {q : ι} {reply : ρ q} (hq : .asked q reply ∈ qs) :
    ∃ first, settles q first reply ∧ ∀ e ∈ first, e ∈ es := by
  induction h with
  | nil => simp at hq
  | noted _ ih =>
    obtain ⟨first, hfirst, hmem⟩ := ih (by simpa using hq)
    exact ⟨first, hfirst, fun e he => List.mem_cons_of_mem _ (hmem e he)⟩
  | @asked q' reply' first' es qs hsettles _ ih =>
    rcases List.mem_cons.mp hq with heq | hq
    · cases heq
      exact ⟨first', hsettles, fun e he => List.mem_append_left _ he⟩
    · obtain ⟨first, hfirst, hmem⟩ := ih hq
      exact ⟨first, hfirst, fun e he => List.mem_append_right _ (hmem e he)⟩

/-- Every answer has been brought about in the place of a question. -/
theorem asked_of_mem (h : Expands settles qs es) {k : κ} {answer : τ k}
    (hmem : .asked k answer ∈ es) :
    ∃ q reply first, .asked q reply ∈ qs ∧ settles q first reply ∧ .asked k answer ∈ first := by
  induction h with
  | nil => exact nomatch hmem
  | noted _ ih =>
    obtain ⟨q, reply, first, hq, hfirst⟩ := ih (by simpa using hmem)
    exact ⟨q, reply, first, List.mem_cons_of_mem _ hq, hfirst⟩
  | @asked q' reply' first' es qs hsettles _ ih =>
    rcases List.mem_append.mp hmem with hfirst | hmem
    · exact ⟨q', reply', first', List.mem_cons_self, hsettles, hfirst⟩
    · obtain ⟨q, reply, first, hq, hfirst⟩ := ih hmem
      exact ⟨q, reply, first, List.mem_cons_of_mem _ hq, hfirst⟩

@[simp] theorem nil_iff : Expands settles [] es ↔ es = [] := by
  constructor
  · intro h
    cases h
    rfl
  · rintro rfl
    exact .nil

theorem noted_iff {n : Note} :
    Expands settles (.noted n :: qs) es ↔ ∃ rest, es = .noted n :: rest ∧ Expands settles qs rest := by
  constructor
  · intro h
    cases h with
    | noted h => exact ⟨_, rfl, h⟩
  · rintro ⟨rest, rfl, h⟩
    exact .noted h

theorem asked_iff {q : ι} {reply : ρ q} :
    Expands settles (.asked q reply :: qs) es ↔
      ∃ first rest, es = first ++ rest ∧ settles q first reply ∧ Expands settles qs rest := by
  constructor
  · intro h
    cases h with
    | asked hfirst h => exact ⟨_, _, rfl, hfirst, h⟩
  · rintro ⟨first, rest, rfl, hfirst, h⟩
    exact .asked hfirst h

theorem append_iff {qs' : List (Event ι ρ)} :
    Expands settles (qs ++ qs') es ↔
      ∃ front back, es = front ++ back ∧ Expands settles qs front ∧ Expands settles qs' back := by
  induction qs generalizing es with
  | nil => simp
  | cons e qs ih =>
    cases e with
    | noted n =>
      simp only [List.cons_append, noted_iff, ih]
      constructor
      · rintro ⟨_, rfl, front, back, rfl, hfront, hback⟩
        exact ⟨_, back, rfl, ⟨front, rfl, hfront⟩, hback⟩
      · rintro ⟨_, back, rfl, ⟨front, rfl, hfront⟩, hback⟩
        exact ⟨_, rfl, front, back, rfl, hfront, hback⟩
    | asked q reply =>
      simp only [List.cons_append, asked_iff, ih]
      constructor
      · rintro ⟨first, _, rfl, hfirst, front, back, rfl, hfront, hback⟩
        exact ⟨first ++ front, back, by simp, ⟨first, front, rfl, hfirst, hfront⟩, hback⟩
      · rintro ⟨_, back, rfl, ⟨first, front, rfl, hfirst, hfront⟩, hback⟩
        exact ⟨first, front ++ back, by simp, hfirst, front, back, rfl, hfront, hback⟩

/-- A note that comes last comes last. -/
theorem getLast?_eq_noted {n : Note} (h : Expands settles qs es)
    (hlast : qs.getLast? = some (.noted n)) : es.getLast? = some (.noted n) := by
  obtain ⟨front, rfl⟩ := List.getLast?_eq_some_iff.mp hlast
  induction front generalizing es with
  | nil =>
    obtain ⟨rest, rfl, hrest⟩ := noted_iff.mp h
    rw [nil_iff.mp hrest]
    rfl
  | cons e front ih =>
    cases e with
    | noted m =>
      obtain ⟨rest, rfl, hrest⟩ := noted_iff.mp h
      obtain ⟨before, rfl⟩ := List.getLast?_eq_some_iff.mp (ih hrest (by simp))
      exact List.getLast?_eq_some_iff.mpr ⟨.noted m :: before, rfl⟩
    | asked q reply =>
      obtain ⟨first, rest, rfl, -, hrest⟩ := asked_iff.mp h
      obtain ⟨before, rfl⟩ := List.getLast?_eq_some_iff.mp (ih hrest (by simp))
      exact List.getLast?_eq_some_iff.mpr ⟨first ++ before, by simp⟩

end Event.Expands

namespace Program

theorem expands_of_runs_through {answer : (q : ι) → Program κ τ (ρ q)} {p : Program ι ρ α}
    {es : List (Event κ τ)} {a : α} (h : (p.through answer).Runs es a) :
    ∃ qs, p.Runs qs a ∧ Event.Expands (fun q => (answer q).Runs) qs es := by
  induction p generalizing es with
  | done a' =>
    obtain ⟨rfl, rfl⟩ := runs_done_iff.mp h
    exact ⟨[], .refl _, .nil⟩
  | note n next ih =>
    obtain ⟨rest, rfl, hrest⟩ := runs_note_iff.mp h
    obtain ⟨qs, hqs, hexpands⟩ := ih hrest
    exact ⟨.noted n :: qs, .note hqs, .noted hexpands⟩
  | ask q next ih =>
    obtain ⟨first, reply, rest, rfl, hfirst, hrest⟩ := runs_bind_iff.mp h
    obtain ⟨qs, hqs, hexpands⟩ := ih reply hrest
    exact ⟨.asked q reply :: qs, .ask hqs, .asked hfirst hexpands⟩

/-- Where nothing is given up every question has been answered. -/
theorem expands_of_runs_throughSome {answer : (q : ι) → Program κ τ (Option (ρ q))}
    {p : Program ι ρ α} {es : List (Event κ τ)} {a : α}
    (h : (p.throughSome answer).Runs es (some a)) :
    ∃ qs, p.Runs qs a ∧
      Event.Expands (fun q first reply => (answer q).Runs first (some reply)) qs es := by
  induction p generalizing es with
  | done a' =>
    obtain ⟨rfl, ha⟩ := runs_done_iff.mp h
    cases ha
    exact ⟨[], .refl _, .nil⟩
  | note n next ih =>
    rw [throughSome_note] at h
    obtain ⟨rest, rfl, hrest⟩ := runs_note_iff.mp h
    obtain ⟨qs, hqs, hexpands⟩ := ih hrest
    exact ⟨.noted n :: qs, .note hqs, .noted hexpands⟩
  | ask q next ih =>
    rw [throughSome_ask] at h
    obtain ⟨first, reply, rest, rfl, hfirst, hrest⟩ := runs_bind_iff.mp h
    cases reply with
    | none => exact nomatch (runs_done_iff.mp hrest).2
    | some reply =>
      obtain ⟨qs, hqs, hexpands⟩ := ih reply hrest
      exact ⟨.asked q reply :: qs, .ask hqs, .asked hfirst hexpands⟩

theorem throughSome_bind {β : Type} (answer : (q : ι) → Program κ τ (Option (ρ q)))
    (p : Program ι ρ α) (f : α → Program ι ρ β) :
    (p >>= f).throughSome answer = p.throughSome answer >>= fun
      | some a => (f a).throughSome answer
      | none => done none := by
  induction p with
  | done a => rfl
  | note n next ih => rw [note_bind, throughSome_note, throughSome_note, ih, note_bind]
  | ask q next ih =>
    rw [ask_bind, throughSome_ask, throughSome_ask, bind_assoc]
    refine congrArg _ (funext fun reply => ?_)
    cases reply with
    | none => rfl
    | some reply => exact ih reply

/-- Programs that answer questions may have theirs answered first. -/
theorem throughSome_through {μ : Type} {υ : μ → Type} (answer : (q : ι) → Program κ τ (ρ q))
    (answer' : (k : κ) → Program μ υ (Option (τ k))) (p : Program ι ρ α) :
    (p.through answer).throughSome answer' = p.throughSome fun q => (answer q).throughSome answer' := by
  induction p with
  | done a => rfl
  | note n next ih =>
    change note n ((next.through answer).throughSome answer') = _
    rw [ih, throughSome_note]
  | ask q next ih =>
    change (answer q >>= fun reply => (next reply).through answer).throughSome answer' = _
    rw [throughSome_bind, throughSome_ask]
    refine congrArg _ (funext fun reply => ?_)
    cases reply with
    | none => rfl
    | some reply => exact ih reply

theorem throughSome_question (answer : (q : ι) → Program κ τ (Option (ρ q))) (q : ι) :
    (question q).throughSome answer = answer q := by
  refine (throughSome_ask answer q done).trans ?_
  refine Eq.trans (congrArg _ (funext fun reply => ?_)) (bind_done (answer q))
  cases reply <;> rfl

/-- Nothing is given up where no question that may come up is. -/
theorem not_runs_none {answer : (q : ι) → Program κ τ (Option (ρ q))} {allowed : ι → Prop}
    {p : Program ι ρ α} {es : List (Event κ τ)} (hp : p.Asks allowed)
    (hanswer : ∀ q, allowed q → ∀ first, ¬ (answer q).Runs first none) :
    ¬ (p.throughSome answer).Runs es none := by
  induction p generalizing es with
  | done a => exact fun h => nomatch (runs_done_iff.mp h).2
  | note n next ih =>
    rw [throughSome_note, runs_note_iff]
    rintro ⟨rest, -, hrest⟩
    exact ih hp hrest
  | ask q next ih =>
    rw [throughSome_ask, runs_bind_iff]
    rintro ⟨first, reply, rest, -, hfirst, hrest⟩
    cases reply with
    | none => exact hanswer q hp.1 first hfirst
    | some reply => exact ih reply (hp.2 reply) hrest

/-- Where every inner question has its answer, an event stands for itself or for those by which a
question is answered. -/
def inlined (answer : (q : ι) → Program κ τ (ρ q)) (inner : (k : κ) → τ k) :
    Event ι ρ → List (Event κ τ)
  | .noted n => [.noted n]
  | .asked q _ => ((answer q).play inner).1

theorem play_through (answer : (q : ι) → Program κ τ (ρ q)) (inner : (k : κ) → τ k)
    (p : Program ι ρ α) :
    (p.through answer).play inner =
      ((p.play fun q => ((answer q).play inner).2).1.flatMap (inlined answer inner),
        (p.play fun q => ((answer q).play inner).2).2) := by
  induction p with
  | done a => rfl
  | note n next ih =>
    change (note n (next.through answer)).play inner = _
    simp [play, ih, inlined]
  | ask q next ih =>
    change (answer q >>= fun reply => (next reply).through answer).play inner = _
    rw [play_bind, ih]
    rfl

end Program

end Tenancy
