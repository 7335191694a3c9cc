import Mathlib.Data.List.TakeWhile
import Tenancy.Text.Blank
import Tenancy.Text.Cut

/-!
# Parts of a text

A text with a separator in it has one part in front and one behind. Which ones is fixed as soon as
the separator stands nowhere in the front, or nowhere behind. Parts are cut where they stand,
whatever else is in the text.
-/

namespace Tenancy.Text

variable {α : Type} {sep : α} {a b x y : List α}

/-- The first separator is the same however the text came about. -/
theorem eq_of_first_separator (ha : sep ∉ a) (hb : sep ∉ b)
    (h : a ++ sep :: x = b ++ sep :: y) : a = b ∧ x = y := by
  induction a generalizing b with
  | nil =>
    cases b with
    | nil => exact ⟨rfl, (List.cons.inj h).2⟩
    | cons d b =>
      have hd : sep = d := (List.cons.inj h).1
      exact absurd (hd ▸ List.mem_cons_self) hb
  | cons c a ih =>
    cases b with
    | nil =>
      have hc : c = sep := (List.cons.inj h).1
      exact absurd (hc ▸ List.mem_cons_self) ha
    | cons d b =>
      obtain ⟨rfl, hrest⟩ := List.cons.inj h
      have ha' : sep ∉ a := fun hmem => ha (List.mem_cons_of_mem _ hmem)
      have hb' : sep ∉ b := fun hmem => hb (List.mem_cons_of_mem _ hmem)
      obtain ⟨rfl, hxy⟩ := ih ha' hb' hrest
      exact ⟨rfl, hxy⟩

/-- So is the last one. -/
theorem eq_of_last_separator (hx : sep ∉ x) (hy : sep ∉ y)
    (h : a ++ sep :: x = b ++ sep :: y) : a = b ∧ x = y := by
  have hreverse : x.reverse ++ sep :: a.reverse = y.reverse ++ sep :: b.reverse := by
    simpa using congrArg List.reverse h
  obtain ⟨hxy, hab⟩ := eq_of_first_separator (by simpa using hx) (by simpa using hy) hreverse
  exact ⟨List.reverse_inj.mp hab, List.reverse_inj.mp hxy⟩

theorem trim_eq_empty_iff {s : String} : trim s = "" ↔ ∀ c ∈ s.toList, isBlank c := by
  rw [← String.toList_inj, toList_trim, dropEnd, String.toList_empty, List.reverse_eq_nil_iff,
    List.dropWhile_eq_nil_iff]
  constructor
  · intro h c hc
    rw [← List.takeWhile_append_dropWhile (p := isBlank) (l := s.toList)] at hc
    rcases List.mem_append.mp hc with hfront | hrest
    · exact List.mem_takeWhile_imp hfront
    · exact h c (List.mem_reverse.mpr hrest)
  · intro h c hc
    exact h c ((List.dropWhile_suffix _).subset (List.mem_reverse.mp hc))

section Cutting

variable {c : Char} {p : Char → Bool} {cs ds : List Char}

theorem cutFirst_of_notMem (h : c ∉ cs) : cutFirst c cs = (cs, none) := by
  have hother : ∀ d ∈ cs, decide (d ≠ c) = true := by
    intro d hd
    simpa using fun hdc : d = c => h (hdc ▸ hd)
  rw [cutFirst, List.takeWhile_eq_self_iff.mpr hother, List.dropWhile_eq_nil_iff.mpr hother]
  rfl

theorem snd_cutFirst_eq_none_iff : (cutFirst c cs).2 = none ↔ c ∉ cs := by
  constructor
  · intro h hmem
    cases hdrop : cs.dropWhile (· ≠ c) with
    | nil => simpa using List.dropWhile_eq_nil_iff.mp hdrop c hmem
    | cons d rest =>
      rw [cutFirst, hdrop] at h
      cases h
  · intro h
    rw [cutFirst_of_notMem h]

theorem notMem_fst_cutFirst : c ∉ (cutFirst c cs).1 := by
  intro h
  simpa using List.mem_takeWhile_imp h

/-- A part without the character stays in front. -/
theorem cutFirst_append (h : c ∉ cs) :
    cutFirst c (cs ++ ds) = (cs ++ (cutFirst c ds).1, (cutFirst c ds).2) := by
  have hother : ∀ d ∈ cs, decide (d ≠ c) = true := by
    intro d hd
    simpa using fun hdc : d = c => h (hdc ▸ hd)
  simp only [cutFirst, List.takeWhile_append_of_pos hother, List.dropWhile_append_of_pos hother]

theorem cutFirst_cons_self : cutFirst c (c :: cs) = ([], some cs) := by
  simp [cutFirst]

/-- What ends a part ends it wherever it stands. -/
theorem takeWhile_append_cons (hc : p c = false) :
    (cs ++ c :: ds).takeWhile p = cs.takeWhile p := by
  induction cs with
  | nil => simp [hc]
  | cons d rest ih => cases hd : p d <;> simp [hd, ih]

theorem dropWhile_append_cons (hc : p c = false) :
    (cs ++ c :: ds).dropWhile p = cs.dropWhile p ++ c :: ds := by
  induction cs with
  | nil => simp [hc]
  | cons d rest ih => cases hd : p d <;> simp [hd, ih]

theorem cutAt_ne_nil : cutAt p cs ≠ [] := by
  intro h
  simpa [h] using length_cutAt p cs

theorem cutAt_of_notMem (h : ∀ c ∈ cs, p c = false) : cutAt p cs = [cs] := by
  induction cs with
  | nil => rfl
  | cons c rest ih =>
    have hrest := ih fun d hd => h d (List.mem_cons_of_mem c hd)
    simp [cutAt, h c List.mem_cons_self, hrest]

theorem cutAt_beq_of_notMem (h : c ∉ cs) : cutAt (· == c) cs = [cs] := by
  refine cutAt_of_notMem fun d hd => beq_eq_false_iff_ne.mpr fun hdc => ?_
  exact h (hdc ▸ hd)

/-- A text is cut at each place on its own. -/
theorem cutAt_append_cons (hc : p c = true) :
    cutAt p (cs ++ c :: ds) = cutAt p cs ++ cutAt p ds := by
  induction cs with
  | nil => simp [cutAt, hc]
  | cons d rest ih =>
    cases hd : p d with
    | true => simp [cutAt, hd, ih]
    | false =>
      rw [List.cons_append, cutAt, cutAt, hd, ih]
      cases hrest : cutAt p rest with
      | nil => exact absurd hrest cutAt_ne_nil
      | cons part parts => rfl

end Cutting

end Tenancy.Text
