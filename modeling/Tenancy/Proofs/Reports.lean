import Tenancy.Proofs.Expansion

/-!
# Reports

What is noted in a run, level by level. Where questions are answered by programs that note nothing
at a level, a run reports at that level just what it reports by itself (`Expands.reports_eq`).
-/

namespace Tenancy

variable {ι κ : Type} {ρ : ι → Type} {τ : κ → Type} {α β : Type}

namespace Event

def note? : Event ι ρ → Option Note
  | noted n => some n
  | asked .. => none

/-- The notes of a run at a level, in order. -/
def reports (level : Level) (es : List (Event ι ρ)) : List Note :=
  (es.filterMap note?).filter (·.level = level)

section Reports

variable {level : Level} {n : Note} {es es' : List (Event ι ρ)}

@[simp] theorem reports_nil : reports level ([] : List (Event ι ρ)) = [] := rfl

@[simp] theorem reports_asked (q : ι) (reply : ρ q) :
    reports level (asked q reply :: es) = reports level es := rfl

@[simp] theorem reports_noted :
    reports level (noted n :: es) =
      if n.level = level then n :: reports level es else reports level es := by
  simp [reports, note?, List.filter_cons]

@[simp] theorem reports_append : reports level (es ++ es') = reports level es ++ reports level es' := by
  simp [reports]

theorem mem_reports_iff : n ∈ reports level es ↔ .noted n ∈ es ∧ n.level = level := by
  have hnote : ∀ e : Event ι ρ, e.note? = some n ↔ e = .noted n := by
    intro e
    cases e <;> simp [note?]
  simp [reports, List.mem_filterMap, hnote]

end Reports

namespace Expands

variable {settles : (q : ι) → List (Event κ τ) → ρ q → Prop} {qs qs' : List (Event ι ρ)}
  {es : List (Event κ τ)}

theorem reports_eq {level : Level} (h : Expands settles qs es)
    (hsettles : ∀ q first reply, settles q first reply → reports level first = []) :
    reports level es = reports level qs := by
  induction h with
  | nil => rfl
  | noted _ ih => rw [reports_noted, reports_noted, ih]
  | asked hfirst _ ih => rw [reports_append, hsettles _ _ _ hfirst, ih, reports_asked, List.nil_append]

end Expands

end Event

namespace Program

/-- Whatever is answered, all notes are of some kind. -/
def Notes (allowed : Note → Prop) : Program ι ρ α → Prop
  | done _ => True
  | note n next => allowed n ∧ next.Notes allowed
  | ask _ next => ∀ reply, (next reply).Notes allowed

section Noting

variable {allowed : Note → Prop} {p : Program ι ρ α} {es : List (Event ι ρ)} {a : α}

theorem Notes.runs (h : p.Notes allowed) (hp : p.Runs es a) {n : Note} (hn : .noted n ∈ es) :
    allowed n := by
  induction p generalizing es with
  | done a' =>
    obtain ⟨rfl, -⟩ := runs_done_iff.mp hp
    exact nomatch hn
  | note m next ih =>
    obtain ⟨rest, rfl, hrest⟩ := runs_note_iff.mp hp
    rcases List.mem_cons.mp hn with heq | hn
    · cases heq
      exact h.1
    · exact ih h.2 hrest hn
  | ask q next ih =>
    obtain ⟨reply, rest, rfl, hrest⟩ := runs_ask_iff.mp hp
    apply ih reply (h reply) hrest
    exact (List.mem_cons.mp hn).resolve_left nofun

/-- A program that notes at one level reports nothing at another. -/
theorem Notes.reports_eq_nil {level level' : Level} (h : p.Notes (·.level = level))
    (hlevel : level ≠ level') (hp : p.Runs es a) : Event.reports level' es = [] := by
  apply List.eq_nil_iff_forall_not_mem.mpr
  intro n hn
  obtain ⟨hmem, hnote⟩ := Event.mem_reports_iff.mp hn
  exact hlevel ((h.runs hp hmem).symm.trans hnote)

theorem Notes.bind {f : α → Program ι ρ β} (h : p.Notes allowed)
    (hf : ∀ a, (f a).Notes allowed) : (p >>= f).Notes allowed := by
  induction p with
  | done a => exact hf a
  | note n next ih => exact ⟨h.1, ih h.2⟩
  | ask q next ih => exact fun reply => ih reply (h reply)

theorem Notes.then {a : ExceptT Fault (Program ι ρ) α} {k : α → ExceptT Fault (Program ι ρ) β}
    (ha : a.run.Notes allowed) (hk : ∀ x, (k x).run.Notes allowed) :
    (a >>= k).run.Notes allowed := by
  rw [run_bind]
  apply ha.bind
  intro r
  cases r with
  | ok x => exact hk x
  | error f => trivial

theorem Notes.throughSome {answer : (q : ι) → Program κ τ (Option (ρ q))} (h : p.Notes allowed)
    (hanswer : ∀ q, (answer q).Notes allowed) : (p.throughSome answer).Notes allowed := by
  induction p with
  | done a => trivial
  | note n next ih => exact ⟨h.1, ih h.2⟩
  | ask q next ih =>
    rw [throughSome_ask]
    apply (hanswer q).bind
    intro reply
    cases reply with
    | none => trivial
    | some reply => exact ih reply (h reply)

end Noting

end Program

end Tenancy
