import Mathlib.Data.List.DropRight
import Tenancy.Proofs.Text.Parts

/-!
# Trimming

What cleaning leaves of a text. Between the blanks around a text stands one text only, which
trimming leaves (`trims_iff`). Taking slashes off the end may bring a blank to the end, and then
cleaning a text once more gives another one (`baseAddress_baseAddress_iff`), or none
(`baseAddress_baseAddress_eq_empty_iff`).
-/

namespace Tenancy.Text

variable {s t : String} {p : Char → Bool} {cs back : List Char}

/-- A text is what stands between the blanks around another one. -/
structure Trims (s t : String) : Prop where
  between : ∃ front back, s.toList = front ++ t.toList ++ back ∧ ∀ c ∈ front ++ back, isBlank c
  head : ∀ c, t.toList.head? = some c → isBlank c = false
  last : ∀ c, t.toList.getLast? = some c → isBlank c = false

theorem dropEnd_eq_self_iff :
    dropEnd p cs = cs ↔ ∀ c, cs.getLast? = some c → p c = false := by
  refine List.rdropWhile_eq_self_iff.trans ?_
  constructor
  · intro h c hc
    obtain ⟨front, rfl⟩ := List.getLast?_eq_some_iff.mp hc
    simpa using h (by simp)
  · intro h hne
    simpa using h _ (List.getLast?_eq_some_getLast hne)

theorem dropWhile_eq_self_iff :
    cs.dropWhile p = cs ↔ ∀ c, cs.head? = some c → p c = false := by
  cases cs with
  | nil => simp
  | cons c rest =>
    cases hc : p c with
    | false => simp [hc]
    | true =>
      have hshort := (List.dropWhile_suffix p (l := rest)).length_le
      have hne : rest.dropWhile p ≠ c :: rest := by
        intro heq
        rw [heq, List.length_cons] at hshort
        omega
      simp [hc, hne]

theorem getLast?_dropEnd (c : Char) (h : (dropEnd p cs).getLast? = some c) : p c = false :=
  dropEnd_eq_self_iff.mp (dropEnd_dropEnd p cs) c h

theorem exists_dropped (p : Char → Bool) (cs : List Char) :
    ∃ back, cs = dropEnd p cs ++ back ∧ ∀ c ∈ back, p c :=
  ⟨cs.rtakeWhile p, (List.rdropWhile_append_rtakeWhile (p := p) (l := cs)).symm,
    fun _ hc => List.mem_rtakeWhile_imp hc⟩

theorem dropEnd_append (h : ∀ c ∈ back, p c) : dropEnd p (cs ++ back) = dropEnd p cs := by
  have hback : ∀ c ∈ back.reverse, p c := by simpa using h
  simp [dropEnd, List.dropWhile_append_of_pos hback]

theorem trims_trim (s : String) : Trims s (trim s) where
  between := by
    obtain ⟨back, hback, hblank⟩ := exists_dropped isBlank (s.toList.dropWhile isBlank)
    refine ⟨s.toList.takeWhile isBlank, back, ?_, ?_⟩
    · rw [toList_trim, List.append_assoc, ← hback, List.takeWhile_append_dropWhile]
    · intro c hc
      exact (List.mem_append.mp hc).elim List.mem_takeWhile_imp (hblank c)
  head := by
    rw [toList_trim]
    exact dropWhile_eq_self_iff.mp (dropWhile_dropEnd_dropWhile isBlank s.toList)
  last := by
    rw [toList_trim]
    exact getLast?_dropEnd

theorem Trims.eq_trim (h : Trims s t) : trim s = t := by
  obtain ⟨front, back, hs, hblank⟩ := h.between
  have hfront : ∀ c ∈ front, isBlank c := fun c hc => hblank c (List.mem_append_left _ hc)
  have hback : ∀ c ∈ back, isBlank c := fun c hc => hblank c (List.mem_append_right _ hc)
  rw [← String.toList_inj, toList_trim, hs, List.append_assoc, List.dropWhile_append_of_pos hfront]
  cases ht : t.toList with
  | nil => simp [List.dropWhile_eq_nil_iff.mpr hback]
  | cons c rest =>
    have hc : isBlank c = false := h.head c (by simp [ht])
    rw [List.cons_append, List.dropWhile_cons_of_neg (by simp [hc]), ← List.cons_append,
      dropEnd_append hback, ← ht, dropEnd_eq_self_iff.mpr h.last]

/-- Of a text trimming leaves what stands between the blanks around it. -/
theorem trims_iff : Trims s t ↔ trim s = t :=
  ⟨Trims.eq_trim, fun h => h ▸ trims_trim s⟩

theorem trim_eq_self_iff (h : ∀ c, s.toList.head? = some c → isBlank c = false) :
    trim s = s ↔ ∀ c, s.toList.getLast? = some c → isBlank c = false := by
  rw [← trims_iff]
  exact ⟨fun ht => ht.last, fun hlast => ⟨⟨[], [], by simp, by simp⟩, h, hlast⟩⟩

/-- A text is another one, which ends with no slash, and slashes behind it. -/
structure Strips (s t : String) : Prop where
  between : ∃ slashes, s.toList = t.toList ++ slashes ∧ ∀ c ∈ slashes, c = '/'
  last : ∀ c, t.toList.getLast? = some c → c ≠ '/'

theorem strips_iff : Strips s t ↔ dropSlashes s = t := by
  constructor
  · rintro ⟨⟨slashes, hs, hslashes⟩, hlast⟩
    rw [← String.toList_inj, toList_dropSlashes, hs, dropEnd_append (by simpa using hslashes),
      dropEnd_eq_self_iff.mpr (by simpa using hlast)]
  · rintro rfl
    obtain ⟨slashes, hs, hslashes⟩ := exists_dropped (· == '/') s.toList
    refine ⟨⟨slashes, by rwa [toList_dropSlashes], by simpa using hslashes⟩, fun c hc => ?_⟩
    rw [toList_dropSlashes] at hc
    simpa using getLast?_dropEnd c hc

/-- The slashes at the end of a text, or its end where there are none, stand behind a blank. -/
def EndsLoose (s : String) : Prop :=
  ∃ front c slashes, s.toList = front ++ c :: slashes ∧ isBlank c ∧ ∀ d ∈ slashes, d = '/'

theorem endsLoose_iff :
    EndsLoose s ↔ ∃ c, (dropSlashes s).toList.getLast? = some c ∧ isBlank c := by
  rw [toList_dropSlashes]
  constructor
  · rintro ⟨front, c, slashes, hs, hc, hslashes⟩
    have hslash : (c == '/') = false := by
      rw [beq_eq_false_iff_ne]
      rintro rfl
      exact absurd hc (by decide)
    refine ⟨c, ?_, hc⟩
    rw [hs, List.append_cons, dropEnd_append (by simpa using hslashes),
      dropEnd_eq_self_iff.mpr (by simpa using hslash), List.getLast?_concat]
  · rintro ⟨c, hlast, hc⟩
    obtain ⟨front, hfront⟩ := List.getLast?_eq_some_iff.mp hlast
    obtain ⟨slashes, hs, hslashes⟩ := exists_dropped (· == '/') s.toList
    refine ⟨front, c, slashes, ?_, hc, by simpa using hslashes⟩
    rw [hs, hfront, List.append_assoc, List.singleton_append]

instance (s : String) : Decidable (EndsLoose s) :=
  decidable_of_iff ((dropSlashes s).toList.getLast?.any isBlank = true)
    (by rw [endsLoose_iff, Option.any_eq_true])

theorem dropSlashes_eq_empty_iff : dropSlashes s = "" ↔ ∀ c ∈ s.toList, c = '/' := by
  rw [← String.toList_inj, toList_dropSlashes, String.toList_empty]
  exact List.rdropWhile_eq_nil_iff.trans (by simp)

theorem head_baseAddress (c : Char) (h : (baseAddress s).toList.head? = some c) :
    isBlank c = false := by
  refine (trims_trim s).head c ?_
  rw [baseAddress, toList_dropSlashes] at h
  obtain ⟨back, hback⟩ := dropEnd_isPrefix (· == '/') (trim s).toList
  rw [← hback, List.head?_append, h]
  rfl

/-- Cleaning a text once more changes nothing, unless the slashes taken off its end stood behind a
blank. -/
theorem baseAddress_baseAddress_iff :
    baseAddress (baseAddress s) = baseAddress s ↔ ¬ EndsLoose (trim s) := by
  have hsolid : trim (baseAddress s) = baseAddress s ↔ ¬ EndsLoose (trim s) := by
    rw [trim_eq_self_iff head_baseAddress, endsLoose_iff, baseAddress]
    simp
  rw [← hsolid]
  constructor
  · intro h
    obtain ⟨front, back, hs, -⟩ := (trims_trim (baseAddress s)).between
    have hshort := (dropEnd_isPrefix (· == '/') (trim (baseAddress s)).toList).length_le
    rw [← toList_dropSlashes, ← baseAddress, h, hs] at hshort
    simp only [List.length_append] at hshort
    have hfront : front = [] := List.length_eq_zero_iff.mp (by omega)
    have hback : back = [] := List.length_eq_zero_iff.mp (by omega)
    rw [← String.toList_inj, hs, hfront, hback, List.nil_append, List.append_nil]
  · intro h
    rw [baseAddress, h, baseAddress, ← String.toList_inj]
    simp

/-- Slashes, blanks behind them, and slashes behind those, as many of each as there are. -/
def IsHollow (s : String) : Prop :=
  ∃ front blanks back, s.toList = front ++ blanks ++ back ∧ (∀ c ∈ front ++ back, c = '/') ∧
    ∀ c ∈ blanks, isBlank c

theorem not_endsLoose_of_slashes (h : ∀ c ∈ s.toList, c = '/') : ¬ EndsLoose s := by
  rintro ⟨front, c, slashes, hs, hc, -⟩
  obtain rfl : c = '/' := h c (by simp [hs])
  exact absurd hc (by decide)

theorem IsHollow.endsLoose (h : IsHollow s) (hne : ∃ c ∈ s.toList, c ≠ '/') : EndsLoose s := by
  obtain ⟨front, blanks, back, hs, hslash, hblank⟩ := h
  cases List.eq_nil_or_concat blanks with
  | inl hnil =>
    obtain ⟨c, hc, hother⟩ := hne
    exact absurd (hslash c (by simpa [hs, hnil] using hc)) hother
  | inr hconcat =>
    obtain ⟨blanks, c, rfl⟩ := hconcat
    exact ⟨front ++ blanks, c, back, by simp [hs], hblank c (by simp),
      fun d hd => hslash d (List.mem_append_right _ hd)⟩

theorem IsHollow.baseAddress_dropSlashes (h : IsHollow s) : baseAddress (dropSlashes s) = "" := by
  obtain ⟨front, blanks, back, hs, hslash, hblank⟩ := h
  have hfront : ∀ c ∈ front, c = '/' := fun c hc => hslash c (List.mem_append_left _ hc)
  have hback : ∀ c ∈ back, c = '/' := fun c hc => hslash c (List.mem_append_right _ hc)
  have hsolid : ∀ c ∈ front, isBlank c = false := fun c hc => hfront c hc ▸ isBlank_slash
  rw [baseAddress, dropSlashes_eq_empty_iff]
  cases List.eq_nil_or_concat blanks with
  | inl hnil =>
    have hall : ∀ c ∈ s.toList, c = '/' := by simpa [hs, hnil] using hslash
    rw [dropSlashes_eq_empty_iff.mpr hall]
    simp
  | inr hconcat =>
    -- The blanks keep the slashes in front of them from being taken off.
    obtain ⟨blanks, c, rfl⟩ := hconcat
    have hstrips : Strips s (.ofList (front ++ (blanks ++ [c]))) := by
      refine ⟨⟨back, by simpa using hs, hback⟩, fun d hd => ?_⟩
      obtain rfl : c = d := by simpa [← List.append_assoc] using hd
      rintro rfl
      exact absurd (hblank '/' (by simp)) (by decide)
    have htrims : Trims (.ofList (front ++ (blanks ++ [c]))) (.ofList front) := by
      refine ⟨⟨[], blanks ++ [c], by simp, by simpa using hblank⟩, fun d hd => ?_, fun d hd => ?_⟩
      · exact hsolid d (List.mem_of_head? (by simpa using hd))
      · exact hsolid d (List.mem_of_getLast? (by simpa using hd))
    rw [strips_iff.mp hstrips, trims_iff.mp htrims]
    simpa using hfront

/-- Nothing is left of a text cleaned twice if it is blanks among slashes. -/
theorem baseAddress_baseAddress_eq_empty_iff :
    baseAddress (baseAddress s) = "" ↔ IsHollow (trim s) := by
  refine ⟨fun h => ?_, IsHollow.baseAddress_dropSlashes⟩
  obtain ⟨⟨slashes, hs, hslashes⟩, -⟩ := strips_iff.mpr (rfl : dropSlashes (trim s) = _)
  have hrest := dropSlashes_eq_empty_iff.mp h
  obtain ⟨front, back, ht, hblank⟩ := (trims_trim (baseAddress s)).between
  cases front with
  | nil =>
    refine ⟨(trim (baseAddress s)).toList, back, slashes, ?_, ?_, by simpa using hblank⟩
    · rw [hs, ← baseAddress, ht, List.nil_append]
    · intro c hc
      exact (List.mem_append.mp hc).elim (hrest c) (hslashes c)
  | cons c front =>
    have hc := head_baseAddress c (by rw [ht]; rfl)
    rw [hblank c (by simp)] at hc
    cases hc

end Tenancy.Text
