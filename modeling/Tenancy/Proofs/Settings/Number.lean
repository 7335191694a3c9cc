import Tenancy.Proofs.Json.Scalars
import Tenancy.Settings

/-!
# Numbers in settings

A number is read as it is written, with leading zeros or without: no digit too many makes it another
number (`readNumber_eq_ok_iff`). What keeps a text from being read is found from the left, so digits
that are too many in front count before what stands behind them (`readNumber_eq_error_iff`).
-/

namespace Tenancy.Settings

section Digits

/-- Decimal digits and nothing else. -/
def AllDigits (cs : List Char) : Prop :=
  ∀ c ∈ cs, c.isDigit = true

instance (cs : List Char) : Decidable (AllDigits cs) :=
  decidable_of_iff (cs.all Char.isDigit = true) List.all_eq_true

variable {c : Char} {cs : List Char} {bound n k : Nat}

@[simp] theorem allDigits_nil : AllDigits [] := by
  simp [AllDigits]

@[simp] theorem allDigits_cons : AllDigits (c :: cs) ↔ c.isDigit = true ∧ AllDigits cs := by
  simp [AllDigits]

theorem readDigits_cons (hc : c.isDigit = true) :
    readDigits bound n (c :: cs) =
      if 10 * n + (c.toNat - '0'.toNat) < bound then
        readDigits bound (10 * n + (c.toNat - '0'.toNat)) cs
      else .error .tooLarge := by
  rw [readDigits, if_pos hc, Nat.mul_comm]
  rfl

/-- Digits are read exactly if all of them together are in bounds. -/
theorem readDigits_eq_ok_iff (hn : n < bound) :
    readDigits bound n cs = .ok k ↔
      AllDigits cs ∧ Nat.ofDigitChars 10 cs n = k ∧ k < bound := by
  induction cs generalizing n with
  | nil =>
    simp only [readDigits, Except.ok.injEq, allDigits_nil, Nat.ofDigitChars_nil, true_and]
    exact ⟨fun h => ⟨h, h ▸ hn⟩, fun h => h.1⟩
  | cons c cs ih =>
    by_cases hc : c.isDigit = true
    · rw [readDigits_cons hc, allDigits_cons, Nat.ofDigitChars_cons]
      by_cases hnext : 10 * n + (c.toNat - '0'.toNat) < bound
      · rw [if_pos hnext, ih hnext]
        simp [hc]
      · -- What the digits behind write is no less.
        have hle := Json.le_ofDigitChars cs (10 * n + (c.toNat - '0'.toNat))
        simp only [if_neg hnext, reduceCtorEq, false_iff]
        rintro ⟨-, rfl, hk⟩
        omega
    · simp [readDigits, hc]

/-- Some digits in front are out of bounds behind a number. -/
def Overflows (bound n : Nat) (cs : List Char) : Prop :=
  ∃ front, front <+: cs ∧ AllDigits front ∧ bound ≤ Nat.ofDigitChars 10 front n

theorem overflows_of_le (h : bound ≤ n) : Overflows bound n cs :=
  ⟨[], List.nil_prefix, allDigits_nil, by rwa [Nat.ofDigitChars_nil]⟩

theorem overflows_cons_iff (hn : n < bound) :
    Overflows bound n (c :: cs) ↔
      c.isDigit = true ∧ Overflows bound (10 * n + (c.toNat - '0'.toNat)) cs := by
  constructor
  · rintro ⟨front, hfront, hdigits, hbound⟩
    cases front with
    | nil =>
      rw [Nat.ofDigitChars_nil] at hbound
      omega
    | cons d front =>
      obtain ⟨rfl, hrest⟩ := List.cons_prefix_cons.mp hfront
      obtain ⟨hc, hdigits⟩ := allDigits_cons.mp hdigits
      rw [Nat.ofDigitChars_cons] at hbound
      exact ⟨hc, front, hrest, hdigits, hbound⟩
  · rintro ⟨hc, front, hfront, hdigits, hbound⟩
    exact ⟨c :: front, List.cons_prefix_cons.mpr ⟨rfl, hfront⟩, allDigits_cons.mpr ⟨hc, hdigits⟩,
      by rwa [Nat.ofDigitChars_cons]⟩

/-- Reading ends early exactly once digits are out of bounds, whatever stands behind them. -/
theorem readDigits_eq_tooLarge_iff (hn : n < bound) :
    readDigits bound n cs = .error .tooLarge ↔ Overflows bound n cs := by
  induction cs generalizing n with
  | nil => simp [readDigits, Overflows, hn]
  | cons c cs ih =>
    rw [overflows_cons_iff hn]
    by_cases hc : c.isDigit = true
    · rw [readDigits_cons hc]
      by_cases hnext : 10 * n + (c.toNat - '0'.toNat) < bound
      · rw [if_pos hnext, ih hnext]
        exact (and_iff_right hc).symm
      · rw [if_neg hnext]
        exact iff_of_true rfl ⟨hc, overflows_of_le (Nat.not_lt.mp hnext)⟩
    · simp [readDigits, hc]

theorem readDigits_ne_empty : readDigits bound n cs ≠ .error .empty := by
  fun_induction readDigits bound n cs <;> simp_all

end Digits

section Numbers

/-- One or more digits write a number, with or without a plus sign in front. -/
def Writes (cs : List Char) (n : Nat) : Prop :=
  ∃ digits, (cs = digits ∨ cs = '+' :: digits) ∧ digits ≠ [] ∧ AllDigits digits ∧
    Nat.ofDigitChars 10 digits 0 = n

/-- What keeps a text from writing a number that 64 bits hold. A number too large in front is found
before anything behind it. -/
def Spoils (cs : List Char) : NumberDefect → Prop
  | .empty => cs = []
  | .tooLarge => ∃ front n, front <+: cs ∧ Writes front n ∧ numberBound ≤ n
  | .badDigit =>
    cs ≠ [] ∧ (∀ n, ¬ Writes cs n) ∧ ∀ front n, front <+: cs → Writes front n → n < numberBound

/-- A text without a plus sign in front. -/
def unsigned : List Char → List Char
  | '+' :: digits => digits
  | digits => digits

variable {cs front : List Char} {n : Nat}

theorem unsigned_of_ne (h : cs.head? ≠ some '+') : unsigned cs = cs := by
  unfold unsigned
  split
  · simp at h
  · rfl

theorem writes_iff :
    Writes cs n ↔
      unsigned cs ≠ [] ∧ AllDigits (unsigned cs) ∧ Nat.ofDigitChars 10 (unsigned cs) 0 = n := by
  constructor
  · rintro ⟨digits, rfl | rfl, hne, hdigits, hvalue⟩
    · have hplus : cs.head? ≠ some '+' := by
        intro hhead
        exact absurd (hdigits _ (List.mem_of_head? hhead)) (by decide)
      rw [unsigned_of_ne hplus]
      exact ⟨hne, hdigits, hvalue⟩
    · exact ⟨hne, hdigits, hvalue⟩
  · rintro ⟨hne, hdigits, hvalue⟩
    refine ⟨unsigned cs, ?_, hne, hdigits, hvalue⟩
    unfold unsigned
    split <;> simp

theorem readNumber_eq (hne : cs ≠ []) :
    readNumber cs =
      if unsigned cs = [] then .error .badDigit else readDigits numberBound 0 (unsigned cs) := by
  unfold readNumber
  split
  case h_1 => contradiction
  case h_2 => rfl
  case h_3 digits hdigits => exact (if_neg fun hnil => hdigits hnil).symm
  case h_4 hplus =>
    have hhead : cs.head? ≠ some '+' := by
      intro h
      obtain ⟨digits, rfl⟩ := List.head?_eq_some_iff.mp h
      exact hplus digits rfl
    rw [unsigned_of_ne hhead, if_neg hne]

/-- Exactly the numbers that 64 bits hold are read, each as itself. -/
theorem readNumber_eq_ok_iff : readNumber cs = .ok n ↔ Writes cs n ∧ n < numberBound := by
  rw [writes_iff]
  by_cases hne : cs = []
  · simp [hne, readNumber, unsigned]
  by_cases hrest : unsigned cs = []
  · simp [readNumber_eq hne, hrest]
  · rw [readNumber_eq hne, if_neg hrest, readDigits_eq_ok_iff (by decide)]
    simp [hrest, and_assoc]

theorem unsigned_prefix (h : front <+: cs) : unsigned front <+: unsigned cs := by
  obtain ⟨rest, rfl⟩ := h
  cases front with
  | nil => exact List.nil_prefix
  | cons c front =>
    by_cases hc : c = '+'
    · subst hc
      exact List.prefix_append front rest
    · rw [unsigned_of_ne (by simpa using hc), unsigned_of_ne (by simpa using hc)]
      exact List.prefix_append _ rest

theorem exists_signed (h : front <+: unsigned cs) :
    ∃ signed, signed <+: cs ∧ (signed = front ∨ signed = '+' :: front) := by
  unfold unsigned at h
  split at h
  · exact ⟨'+' :: front, by simpa using h, .inr rfl⟩
  · exact ⟨front, h, .inl rfl⟩

theorem readNumber_eq_tooLarge_iff :
    readNumber cs = .error .tooLarge ↔ Spoils cs .tooLarge := by
  have hdigits :
      Spoils cs .tooLarge ↔ readDigits numberBound 0 (unsigned cs) = .error .tooLarge := by
    rw [readDigits_eq_tooLarge_iff (by decide)]
    constructor
    · rintro ⟨front, n, hfront, hwrites, hn⟩
      obtain ⟨-, hdigits, rfl⟩ := writes_iff.mp hwrites
      exact ⟨unsigned front, unsigned_prefix hfront, hdigits, hn⟩
    · rintro ⟨front, hfront, hdigits, hn⟩
      obtain ⟨signed, hsigned, hfront⟩ := exists_signed hfront
      refine ⟨signed, _, hsigned, ⟨front, hfront, ?_, hdigits, rfl⟩, hn⟩
      rintro rfl
      exact absurd hn (by decide)
  rw [hdigits]
  by_cases hne : cs = []
  · simp [hne, readNumber, unsigned, readDigits]
  by_cases hrest : unsigned cs = []
  · simp [readNumber_eq hne, hrest, readDigits]
  · rw [readNumber_eq hne, if_neg hrest]

theorem readNumber_eq_empty_iff : readNumber cs = .error .empty ↔ cs = [] := by
  constructor
  · intro h
    by_contra hne
    rw [readNumber_eq hne] at h
    split at h
    · simp at h
    · exact readDigits_ne_empty h
  · rintro rfl
    rfl

theorem readNumber_eq_error_iff (d : NumberDefect) : readNumber cs = .error d ↔ Spoils cs d := by
  cases d with
  | empty => exact readNumber_eq_empty_iff
  | tooLarge => exact readNumber_eq_tooLarge_iff
  | badDigit =>
    constructor
    · intro h
      have hfits : ∀ front n, front <+: cs → Writes front n → n < numberBound := by
        intro front n hfront hwrites
        by_contra hn
        have hlarge := readNumber_eq_tooLarge_iff.mpr ⟨front, n, hfront, hwrites, Nat.not_lt.mp hn⟩
        rw [h] at hlarge
        cases hlarge
      refine ⟨fun hnil => ?_, fun n hwrites => ?_, hfits⟩
      · rw [readNumber_eq_empty_iff.mpr hnil] at h
        cases h
      · rw [readNumber_eq_ok_iff.mpr ⟨hwrites, hfits cs n List.prefix_rfl hwrites⟩] at h
        cases h
    · rintro ⟨hne, hwrites, hfits⟩
      cases h : readNumber cs with
      | ok n => exact absurd (readNumber_eq_ok_iff.mp h).1 (hwrites n)
      | error d =>
        cases d with
        | empty => exact absurd (readNumber_eq_empty_iff.mp h) hne
        | badDigit => rfl
        | tooLarge =>
          obtain ⟨front, n, hfront, hn, hlarge⟩ := readNumber_eq_tooLarge_iff.mp h
          exact absurd (hfits front n hfront hn) (Nat.not_lt.mpr hlarge)

end Numbers

end Tenancy.Settings
