import Tenancy.Proofs.Json.Number
import Tenancy.Proofs.Json.Strings

/-!
# Reading scalars

What is read for null, for a string that spells a text and for an integer of 64 bits. The gap in
front of a value makes no difference.
-/

namespace Tenancy.Json

theorem readAll_gap_append {g bs : Bytes} (h : IsGap g) (depth : Nat) :
    readAll depth (g ++ bs) = readAll depth bs := by
  have hvalue : readValue depth (g ++ bs) = readValue depth bs := by
    cases depth <;> rw [readValue, readValue, skipGap_append h]
  rw [readAll, readAll, hvalue]

theorem readAll_null (depth : Nat) : readAll depth [0x6E, 0x75, 0x6C, 0x6C] = .ok .null := by
  cases depth <;> rfl

theorem readAll_quoted {content : Bytes} {cs : List Char} (h : Spells content cs) (depth : Nat) :
    readAll depth (quoted content) = .ok (.string (.ofList cs)) := by
  have hgap : skipGap (quoted content) = 0x22 :: (content ++ [quote]) := skipGap_cons (by decide)
  have hvalue : readValue depth (quoted content) = .ok (.string (.ofList cs), []) := by
    cases depth <;>
      (rw [readValue, hgap]
       simp only [readString_spelled h []]
       rfl)
  rw [readAll, hvalue]
  rfl

section Integers

/-- The byte of a digit. -/
def digitByte (c : Char) : UInt8 :=
  UInt8.ofNat c.toNat

theorem toNat_of_isDigit {c : Char} (h : c.isDigit = true) : 48 ≤ c.toNat ∧ c.toNat ≤ 57 := by
  simpa [Char.isDigit, UInt32.le_iff_toNat_le] using h

theorem toNat_digitByte {c : Char} (h : c.isDigit = true) : (digitByte c).toNat = c.toNat :=
  Text.Utf8.toNat_ofNat_of_lt (by have := toNat_of_isDigit h; omega)

theorem digitByte_of_isDigit {c : Char} (h : c.isDigit = true) :
    isDigit (digitByte c) = true ∧ digitValue (digitByte c) = c.toNat - '0'.toNat := by
  obtain ⟨hlow, hhigh⟩ := toNat_of_isDigit h
  constructor
  · simp only [isDigit, Bool.and_eq_true, decide_eq_true_eq, UInt8.le_iff_toNat_le,
      toNat_digitByte h]
    exact ⟨hlow, hhigh⟩
  · rw [digitValue, toNat_digitByte h]
    rfl

theorem le_ofDigitChars (cs : List Char) (n : Nat) : n ≤ Nat.ofDigitChars 10 cs n := by
  induction cs generalizing n with
  | nil => exact Nat.le_refl n
  | cons c cs ih =>
    calc n ≤ 10 * n + (c.toNat - '0'.toNat) := by omega
      _ ≤ Nat.ofDigitChars 10 cs (10 * n + (c.toNat - '0'.toNat)) := ih _

theorem takeDigits_digits {cs : List Char} (h : ∀ c ∈ cs, c.isDigit = true) {bound n : Nat}
    (hbound : Nat.ofDigitChars 10 cs n < bound) (count : Nat) :
    takeDigits bound n count (cs.map digitByte) =
      (Nat.ofDigitChars 10 cs n, count + cs.length, []) := by
  induction cs generalizing n count with
  | nil => rfl
  | cons c cs ih =>
    obtain ⟨hdigit, hvalue⟩ := digitByte_of_isDigit (h c List.mem_cons_self)
    have hnext : n * 10 + digitValue (digitByte c) = 10 * n + (c.toNat - '0'.toNat) := by
      rw [hvalue, Nat.mul_comm]
    have hless : n * 10 + digitValue (digitByte c) < bound := by
      rw [hnext]
      exact Nat.lt_of_le_of_lt (le_ofDigitChars cs _) hbound
    rw [List.map_cons, takeDigits, if_pos ⟨hdigit, hless⟩, hnext,
      ih (fun d hd => h d (List.mem_cons_of_mem c hd)) hbound]
    simp [Nat.ofDigitChars]
    omega

/-- No digits stand behind a zero in front. -/
theorem toDigits_zero_cons {k : Nat} {cs : List Char} (h : Nat.toDigits 10 k = '0' :: cs) :
    cs = [] := by
  induction k using Nat.strongRecOn generalizing cs with
  | ind k ih =>
    by_cases hk : k < 10
    · rw [Nat.toDigits_of_lt_base hk] at h
      exact (List.cons.inj h).2.symm
    · rw [Nat.toDigits_of_base_le (by decide) (by omega)] at h
      cases hfront : Nat.toDigits 10 (k / 10) with
      | nil => exact absurd hfront Nat.toDigits_ne_nil
      | cons c front =>
        rw [hfront, List.cons_append, List.cons.injEq] at h
        obtain ⟨rfl, -⟩ := h
        obtain rfl := ih (k / 10) (by omega) hfront
        have hzero := Nat.ofDigitChars_toDigits (b := 10) (n := k / 10) (by decide) (by decide)
        rw [hfront] at hzero
        have : k / 10 = 0 := hzero.symm
        omega

theorem readNumber_digits {k : Nat} (h : k < wordBound) (negative : Bool) :
    readNumber negative ((Nat.toDigits 10 k).map digitByte) = integral negative k [] := by
  have hdigits : ∀ c ∈ Nat.toDigits 10 k, c.isDigit = true := fun c hc =>
    Nat.isDigit_of_mem_toDigits (by decide) (by decide) hc
  have hvalue := Nat.ofDigitChars_toDigits (b := 10) (n := k) (by decide) (by decide)
  cases hk : Nat.toDigits 10 k with
  | nil => exact absurd hk Nat.toDigits_ne_nil
  | cons c cs =>
    rw [hk] at hdigits hvalue
    obtain ⟨hdigit, hfirst⟩ := digitByte_of_isDigit (hdigits c List.mem_cons_self)
    have hlone : ¬ (digitByte c = 0x30 ∧ isDigit ((cs.map digitByte).headD 0) = true) := by
      intro ⟨hc, hnext⟩
      have hchar : c = '0' := by
        rw [← Char.toNat_inj, ← toNat_digitByte (hdigits c List.mem_cons_self), hc]
        rfl
      obtain rfl := toDigits_zero_cons (hchar ▸ hk)
      cases hnext
    have hall : Nat.ofDigitChars 10 cs (digitValue (digitByte c)) = k := by
      rw [hfirst, ← hvalue]
      simp [Nat.ofDigitChars]
    have hbound : Nat.ofDigitChars 10 cs (digitValue (digitByte c)) < wordBound := hall.symm ▸ h
    have htake :=
      takeDigits_digits (fun d hd => hdigits d (List.mem_cons_of_mem c hd)) hbound 1
    rw [List.map_cons, readNumber, if_neg hlone, if_pos hdigit, htake, hall]
    rfl

theorem text_integer (n : Int) : (Number.integer n).text = toString n := by
  cases n with
  | ofNat k => exact Number.text_natural k
  | negSucc k =>
    have hsign : Int.negSucc k < 0 := Int.negSucc_lt_zero k
    have htext : toString (Int.negSucc k) = "-" ++ (k + 1).repr := rfl
    rw [Number.text, Number.chars, if_pos hsign, htext, ← String.toList_inj]
    simp

theorem encode_repr (k : Nat) : Text.Utf8.encode k.repr = (Nat.toDigits 10 k).map digitByte := by
  have hdigits : ∀ c ∈ Nat.toDigits 10 k, String.utf8EncodeChar c = [digitByte c] := by
    intro c hc
    have hdigit := toNat_of_isDigit (Nat.isDigit_of_mem_toDigits (by decide) (by decide) hc)
    exact Text.Utf8.encodeChar_of_lt (by omega)
  rw [Text.Utf8.encode, Nat.toList_repr, List.flatMap_congr hdigits, List.map_eq_flatMap]

theorem readValue_natural {k : Nat} (h : k < wordBound) (depth : Nat) :
    readValue depth ((Nat.toDigits 10 k).map digitByte) = .ok (.number (.integer k), []) := by
  have hread : readNumber false ((Nat.toDigits 10 k).map digitByte) = .ok (.integer k, []) :=
    readNumber_digits h false
  cases hk : Nat.toDigits 10 k with
  | nil => exact absurd hk Nat.toDigits_ne_nil
  | cons c cs =>
    rw [hk] at hread
    have hmem : c ∈ Nat.toDigits 10 k := hk ▸ List.mem_cons_self
    have hfirst : isDigit (digitByte c) = true :=
      (digitByte_of_isDigit (Nat.isDigit_of_mem_toDigits (by decide) (by decide) hmem)).1
    rw [List.map_cons] at hread ⊢
    have hgap : skipGap (digitByte c :: cs.map digitByte) = digitByte c :: cs.map digitByte :=
      skipGap_cons (not_isGap_of_isDigit hfirst)
    generalize digitByte c = b at hfirst hread hgap
    cases depth <;>
      (rw [readValue, hgap]
       dsimp only
       split <;> first | cases hfirst | skip
       rw [if_pos hfirst, hread]
       rfl)

theorem readValue_negative {k : Nat} (hpos : 0 < k) (hlow : leastInteger ≤ -(k : Int))
    (depth : Nat) : readValue depth (0x2D :: (Nat.toDigits 10 k).map digitByte) =
      .ok (.number (.integer (-k)), []) := by
  have hbound : k < wordBound := by
    simp only [leastInteger, wordBound] at hlow ⊢
    omega
  have hread : readNumber true ((Nat.toDigits 10 k).map digitByte) = .ok (.integer (-k), []) := by
    rw [readNumber_digits hbound, integral, if_pos rfl, if_pos ⟨hpos, hlow⟩]
  have hgap : skipGap (0x2D :: (Nat.toDigits 10 k).map digitByte) =
      0x2D :: (Nat.toDigits 10 k).map digitByte := skipGap_cons (by decide)
  cases depth <;>
    (rw [readValue, hgap]
     simp only [hread]
     rfl)

theorem readAll_integer {n : Int} (hlow : leastInteger ≤ n) (hhigh : n < wordBound) (depth : Nat) :
    readAll depth (Text.Utf8.encode (toString n)) = .ok (.number (.integer n)) := by
  cases n with
  | ofNat k =>
    have htext : toString (Int.ofNat k) = k.repr := rfl
    rw [readAll, htext, encode_repr, readValue_natural (Int.ofNat_lt.mp hhigh)]
    rfl
  | negSucc k =>
    have htext : toString (Int.negSucc k) = "-" ++ (k + 1).repr := rfl
    have hbytes : Text.Utf8.encode (toString (Int.negSucc k)) =
        0x2D :: (Nat.toDigits 10 (k + 1)).map digitByte := by
      rw [htext, Text.Utf8.encode_append, encode_repr]
      rfl
    rw [readAll, hbytes, readValue_negative (Nat.succ_pos k) hlow]
    rfl

end Integers

end Tenancy.Json
