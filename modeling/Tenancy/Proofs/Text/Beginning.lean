import Mathlib.Data.List.Forall2
import Tenancy.Proofs.Text.Utf8

/-!
# Beginnings of texts

A text may begin with a name in any mixture of cases, and its first bytes may hold a text or not.
They hold none if there are too few of them or a character goes on behind them
(`upTo?_eq_none_iff`). As the cases of a letter take equally many bytes, whether a text begins with
a name can be seen from as many bytes as the name has (`beginsWith_iff_upTo?`).
-/

namespace Tenancy.Text

open Utf8

variable {c d : Char} {s t name : String} {n : Nat}

/-- One and the same character, or an ASCII letter in its two cases, which are 32 apart. -/
def SameLetter (c d : Char) : Prop :=
  c = d ∨ c.isAlpha ∧ d.isAlpha ∧ (c.toNat = d.toNat + 32 ∨ d.toNat = c.toNat + 32)

/-- Texts that are the same but for the case of ASCII letters. -/
def SameButCase (s t : String) : Prop :=
  List.Forall₂ SameLetter s.toList t.toList

/-- A text begins with a name, in any mixture of cases. -/
def BeginsWith (name s : String) : Prop :=
  ∃ front back, s = front ++ back ∧ SameButCase front name

theorem isUpper_iff : c.isUpper ↔ 65 ≤ c.toNat ∧ c.toNat ≤ 90 := by
  change decide (65 ≤ c.val ∧ c.val ≤ 90) = true ↔ _
  simp [UInt32.le_iff_toNat_le]

theorem isLower_iff : c.isLower ↔ 97 ≤ c.toNat ∧ c.toNat ≤ 122 := by
  change (decide (97 ≤ c.val) && decide (c.val ≤ 122)) = true ↔ _
  simp [UInt32.le_iff_toNat_le]

theorem isAlpha_iff :
    c.isAlpha ↔ 65 ≤ c.toNat ∧ c.toNat ≤ 90 ∨ 97 ≤ c.toNat ∧ c.toNat ≤ 122 := by
  change (c.isUpper || c.isLower) = true ↔ _
  rw [Bool.or_eq_true, isUpper_iff, isLower_iff]

theorem toNat_toLower (c : Char) :
    c.toLower.toNat = if 65 ≤ c.toNat ∧ c.toNat ≤ 90 then c.toNat + 32 else c.toNat := by
  have hupper : c.val ≥ 'A'.val ∧ c.val ≤ 'Z'.val ↔ 65 ≤ c.toNat ∧ c.toNat ≤ 90 := by
    rw [ge_iff_le, UInt32.le_iff_toNat_le, UInt32.le_iff_toNat_le]
    rfl
  unfold Char.toLower
  split
  case isTrue h =>
    have hrange := hupper.mp h
    have hsum : (c.val + ('a'.val - 'A'.val)).toNat = (c.toNat + 32) % 2 ^ 32 :=
      UInt32.toNat_add ..
    rw [if_pos hrange]
    exact hsum.trans (Nat.mod_eq_of_lt (by omega))
  case isFalse h =>
    rw [if_neg (mt hupper.mpr h)]

theorem sameLetter_iff : SameLetter c d ↔ c.toLower = d.toLower := by
  rw [SameLetter, ← Char.toNat_inj, ← Char.toNat_inj, toNat_toLower, toNat_toLower, isAlpha_iff,
    isAlpha_iff]
  split <;> split <;> omega

theorem sameButCase_iff :
    SameButCase s t ↔ s.toList.map Char.toLower = t.toList.map Char.toLower := by
  have hletters : SameLetter = fun c d => c.toLower = d.toLower := by
    funext c d
    exact propext sameLetter_iff
  rw [SameButCase, hletters, ← List.forall₂_eq_eq_eq, List.forall₂_map_left_iff,
    List.forall₂_map_right_iff]

theorem beginsWith_iff_take :
    BeginsWith name s ↔
      (s.toList.take name.toList.length).map Char.toLower = name.toList.map Char.toLower := by
  constructor
  · rintro ⟨front, back, rfl, hfront⟩
    rw [String.toList_append, List.take_left' hfront.length_eq]
    exact sameButCase_iff.mp hfront
  · intro h
    refine ⟨.ofList (s.toList.take name.toList.length), .ofList (s.toList.drop name.toList.length),
      ?_, ?_⟩
    · rw [← String.ofList_append, List.take_append_drop, String.ofList_toList]
    · rwa [sameButCase_iff, String.toList_ofList]

/-- The cases of a letter take one byte each. -/
theorem SameLetter.utf8Size_eq (h : SameLetter c d) : c.utf8Size = d.utf8Size := by
  have hone : ∀ e : Char, e.isAlpha → e.utf8Size = 1 := by
    intro e he
    have hrange := isAlpha_iff.mp he
    rw [Char.utf8Size_eq_one_iff, UInt32.le_iff_toNat_le]
    change e.toNat ≤ 127
    omega
  rcases h with rfl | ⟨hc, hd, -⟩
  · rfl
  · rw [hone c hc, hone d hd]

theorem SameButCase.length_encode_eq (h : SameButCase s t) :
    (encode s).length = (encode t).length := by
  unfold SameButCase at h
  rw [encode, encode]
  generalize s.toList = cs at h
  generalize t.toList = ds at h
  induction h with
  | nil => rfl
  | cons hletter _ ih =>
    simp only [List.flatMap_cons, List.length_append, String.length_utf8EncodeChar, ih,
      hletter.utf8Size_eq]

/-- The text that the first `n` bytes of a text hold, if there are so many and they hold one. -/
def upTo? (n : Nat) (s : String) : Option String :=
  if n ≤ (encode s).length then decode? ((encode s).take n) else none

/-- A character begins within the first `n` bytes of a text and goes on behind them. -/
def Straddles (n : Nat) (s : String) : Prop :=
  ∃ front c back, s = front ++ String.singleton c ++ back ∧
    (encode front).length < n ∧ n < (encode front).length + c.utf8Size

theorem upTo?_eq_some_iff :
    upTo? n s = some t ↔ ∃ back, s = t ++ back ∧ (encode t).length = n := by
  constructor
  · intro h
    rw [upTo?] at h
    split at h
    case isTrue hn =>
      have htake : (encode s).take n = encode t := decode?_eq_some_iff.mp h
      obtain ⟨back, hs⟩ := exists_append_of_encode_isPrefix (htake ▸ List.take_prefix n (encode s))
      refine ⟨back, hs, ?_⟩
      rw [← htake, List.length_take, Nat.min_eq_left hn]
    case isFalse => cases h
  · rintro ⟨back, rfl, rfl⟩
    have hlength : (encode t).length ≤ (encode (t ++ back)).length := by
      rw [encode_append, List.length_append]
      exact Nat.le_add_right _ _
    rw [upTo?, if_pos hlength, encode_append, List.take_left, decode?_encode]

theorem length_encode_ofList_cons (c : Char) (cs : List Char) :
    (encode (.ofList (c :: cs))).length = c.utf8Size + (encode (.ofList cs)).length := by
  simp [encode]

/-- Among the bytes of a text one place is between two characters or within one. -/
theorem exists_cut (cs : List Char) (h : n ≤ (encode (.ofList cs)).length) :
    (∃ front back, cs = front ++ back ∧ (encode (.ofList front)).length = n) ∨
      ∃ front c back, cs = front ++ c :: back ∧ (encode (.ofList front)).length < n ∧
        n < (encode (.ofList front)).length + c.utf8Size := by
  induction cs generalizing n with
  | nil => exact .inl ⟨[], [], rfl, (Nat.le_zero.mp h).symm⟩
  | cons c cs ih =>
    rw [length_encode_ofList_cons] at h
    by_cases hzero : n = 0
    · exact .inl ⟨[], c :: cs, rfl, hzero.symm⟩
    by_cases hwithin : n < c.utf8Size
    · exact .inr ⟨[], c, cs, rfl, Nat.pos_of_ne_zero hzero, by simpa using hwithin⟩
    -- The character ends in front of the place, which is looked for among the others.
    rcases ih (n := n - c.utf8Size) (by omega) with
      ⟨front, back, rfl, hlength⟩ | ⟨front, d, back, rfl, hbefore, hbehind⟩
    · refine .inl ⟨c :: front, back, rfl, ?_⟩
      rw [length_encode_ofList_cons]
      omega
    · refine .inr ⟨c :: front, d, back, rfl, ?_, ?_⟩ <;> rw [length_encode_ofList_cons] <;> omega

theorem Straddles.upTo?_eq_none (h : Straddles n s) : upTo? n s = none := by
  obtain ⟨front, c, back, rfl, hbefore, hbehind⟩ := h
  refine Option.eq_none_iff_forall_ne_some.mpr fun t ht => ?_
  obtain ⟨rest, hs, hlength⟩ := upTo?_eq_some_iff.mp ht
  have hchars : t.toList ++ rest.toList = front.toList ++ c :: back.toList := by
    rw [← String.toList_append, ← hs]
    simp
  -- What is held ends within the front, or behind the character.
  rcases List.append_eq_append_iff.mp hchars with ⟨more, hfront, -⟩ | ⟨more, ht', hmore⟩
  · have hshort : (encode t).length ≤ (encode front).length := by
      simp [encode, hfront]
    omega
  · cases more with
    | nil =>
      have heq : t = front := by
        rw [← String.toList_inj, ht', List.append_nil]
      rw [heq] at hlength
      omega
    | cons d more =>
      obtain ⟨rfl, -⟩ := List.cons.inj hmore
      have hlong : (encode front).length + c.utf8Size ≤ (encode t).length := by
        simp only [encode, ht', List.flatMap_append, List.flatMap_cons, List.length_append,
          String.length_utf8EncodeChar]
        omega
      omega

/-- The first bytes hold no text where there are too few of them or a character straddles their
end. -/
theorem upTo?_eq_none_iff : upTo? n s = none ↔ (encode s).length < n ∨ Straddles n s := by
  constructor
  · intro h
    by_cases hshort : (encode s).length < n
    · exact .inl hshort
    right
    have hn : n ≤ (encode (.ofList s.toList)).length := by
      rw [String.ofList_toList]
      exact Nat.not_lt.mp hshort
    rcases exists_cut s.toList hn with
      ⟨front, back, hs, hlength⟩ | ⟨front, c, back, hs, hbefore, hbehind⟩
    · have hsome : upTo? n s = some (.ofList front) :=
        upTo?_eq_some_iff.mpr ⟨.ofList back, by simp [← String.toList_inj, hs], hlength⟩
      rw [h] at hsome
      cases hsome
    · exact ⟨.ofList front, c, .ofList back, by simp [← String.toList_inj, hs], hbefore, hbehind⟩
  · rintro (hshort | hstraddles)
    · rw [upTo?, if_neg (Nat.not_le.mpr hshort)]
    · exact hstraddles.upTo?_eq_none

/-- What a text begins with is held by as many of its bytes as the name has. -/
theorem beginsWith_iff_upTo? :
    BeginsWith name s ↔
      ∃ front, upTo? (encode name).length s = some front ∧ SameButCase front name := by
  constructor
  · rintro ⟨front, back, rfl, hfront⟩
    exact ⟨front, upTo?_eq_some_iff.mpr ⟨back, rfl, hfront.length_encode_eq⟩, hfront⟩
  · rintro ⟨front, hupTo, hfront⟩
    obtain ⟨back, rfl, -⟩ := upTo?_eq_some_iff.mp hupTo
    exact ⟨front, back, rfl, hfront⟩

end Tenancy.Text
