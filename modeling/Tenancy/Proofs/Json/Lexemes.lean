import Mathlib.Data.List.DropRight
import Tenancy.Proofs.Json.Grammar

/-!
# Following lexemes to their ends

Gaps, words, numbers and strings are followed to their ends wherever they stand, and what is
followed is one of them. A number ends where it does not go on (`Ends`).
-/

namespace Tenancy.Json

section Gaps

variable {g bs : Bytes} {b : UInt8}

theorem isGap_nil : IsGap [] := by
  simp [IsGap]

theorem IsGap.append {g' : Bytes} (h : IsGap g) (h' : IsGap g') : IsGap (g ++ g') := by
  intro b hb
  rcases List.mem_append.mp hb with hb | hb
  · exact h b hb
  · exact h' b hb

@[simp] theorem skipGap_append (h : IsGap g) : skipGap (g ++ bs) = skipGap bs :=
  List.dropWhile_append_of_pos h

theorem skipGap_of_gap (h : IsGap g) : skipGap g = [] :=
  List.dropWhile_eq_nil_iff.mpr h

theorem skipGap_cons (h : isGap b = false) : skipGap (b :: bs) = b :: bs :=
  List.dropWhile_cons_of_neg (by simp [h])

theorem exists_gap (bs : Bytes) : ∃ g, IsGap g ∧ bs = g ++ skipGap bs :=
  ⟨bs.takeWhile isGap, fun _ => List.mem_takeWhile_imp, List.takeWhile_append_dropWhile.symm⟩

theorem skipGap_skipGap : skipGap (skipGap bs) = skipGap bs :=
  List.dropWhile_idempotent _ _

end Gaps

section Numbers

/-- The text that follows a number does not go on with it. -/
def Ends (bs : Bytes) : Prop :=
  ∀ b ∈ bs.head?, isDigit b = false ∧ b ≠ 0x2E ∧ b ≠ 0x65 ∧ b ≠ 0x45

variable {g bs rest : Bytes} {b : UInt8}

theorem ends_cons (h : isDigit b = false ∧ b ≠ 0x2E ∧ b ≠ 0x65 ∧ b ≠ 0x45) : Ends (b :: rest) := by
  intro c hc
  obtain rfl := Option.some.inj hc
  exact h

theorem Ends.gap_append (hrest : Ends rest) (h : IsGap g) : Ends (g ++ rest) := by
  cases g with
  | nil => exact hrest
  | cons b g =>
    have hb := h b List.mem_cons_self
    refine ends_cons ?_
    simp only [isGap, Bool.or_eq_true, beq_iff_eq] at hb
    rcases hb with ((rfl | rfl) | rfl) | rfl <;> decide

theorem not_isGap_of_isDigit (h : isDigit b = true) : isGap b = false := by
  cases hgap : isGap b with
  | false => rfl
  | true =>
    simp only [isGap, Bool.or_eq_true, beq_iff_eq] at hgap
    rcases hgap with ((rfl | rfl) | rfl) | rfl <;> cases h

theorem dropWhile_isDigit (h : AllDigits bs) (hrest : ∀ b ∈ rest.head?, isDigit b = false) :
    (bs ++ rest).dropWhile isDigit = rest := by
  rw [List.dropWhile_append_of_pos h]
  cases rest with
  | nil => rfl
  | cons b rest => exact List.dropWhile_cons_of_neg (by simp [hrest b rfl])

theorem skipDigits_append (first : isDigit b = true) (more : AllDigits bs)
    (hrest : ∀ b ∈ rest.head?, isDigit b = false) : skipDigits (b :: (bs ++ rest)) = some rest := by
  rw [skipDigits, if_pos first, dropWhile_isDigit more hrest]

theorem skipExponent_of_ends (hrest : Ends rest) : skipExponent rest = some rest := by
  unfold skipExponent
  split
  · exact absurd rfl (hrest _ rfl).2.2.1
  · exact absurd rfl (hrest _ rfl).2.2.2
  · rfl

theorem skipExponent_letter {e : UInt8} (letter : e = 0x65 ∨ e = 0x45) (rest : Bytes) :
    skipExponent (e :: rest) =
      match rest with
      | 0x2B :: rest | 0x2D :: rest => skipDigits rest
      | _ => skipDigits rest := by
  rcases letter with rfl | rfl <;> rfl

/-- The digits of an exponent behind its sign. -/
theorem skipExponent_cons {e : UInt8} {sign : Bytes} (letter : e = 0x65 ∨ e = 0x45)
    (signed : sign = [] ∨ sign = [0x2B] ∨ sign = [0x2D]) (first : isDigit b = true) :
    skipExponent (e :: (sign ++ b :: rest)) = skipDigits (b :: rest) := by
  have hunsigned : b ≠ 0x2B ∧ b ≠ 0x2D := by
    constructor <;> (rintro rfl; cases first)
  rw [skipExponent_letter letter]
  rcases signed with rfl | rfl | rfl
  · rw [List.nil_append]
    split
    · next heq => exact absurd (List.cons.inj heq).1 hunsigned.1
    · next heq => exact absurd (List.cons.inj heq).1 hunsigned.2
    · rfl
  · rfl
  · rfl

theorem skipExponent_append (h : IsExponent bs) (hrest : Ends rest) :
    skipExponent (bs ++ rest) = some rest := by
  cases h with
  | absent => exact skipExponent_of_ends hrest
  | @present e b sign digits letter signed first more =>
    have hassoc : e :: (sign ++ b :: digits) ++ rest = e :: (sign ++ b :: (digits ++ rest)) := by
      simp
    rw [hassoc, skipExponent_cons letter signed first]
    exact skipDigits_append first more fun b hb => (hrest b hb).1

theorem head_exponent (h : IsExponent bs) (hrest : Ends rest) :
    ∀ b ∈ (bs ++ rest).head?, isDigit b = false ∧ b ≠ 0x2E := by
  intro b hb
  cases h with
  | absent => exact ⟨(hrest b hb).1, (hrest b hb).2.1⟩
  | present letter =>
    obtain rfl := Option.some.inj hb
    rcases letter with rfl | rfl <;> decide

theorem head_fraction (h : IsFraction bs) (hrest : ∀ b ∈ rest.head?, isDigit b = false) :
    ∀ b ∈ (bs ++ rest).head?, isDigit b = false := by
  intro b hb
  cases h with
  | absent => exact hrest b hb
  | present =>
    obtain rfl := Option.some.inj hb
    decide

/-- Reads the digits in front of the point. -/
theorem skipNumber_whole (h : IsWhole bs) : (∀ b ∈ rest.head?, isDigit b = false) →
    skipNumber (bs ++ rest) =
      match rest with
      | 0x2E :: rest => skipDigits rest >>= skipExponent
      | _ => skipExponent rest := by
  intro hrest
  cases h with
  | zero =>
    have hhead : isDigit (rest.headD 0) = false := by
      cases rest with
      | nil => decide
      | cons b rest => exact hrest b rfl
    rw [List.singleton_append, skipNumber, if_pos rfl, hhead]
    rfl
  | @digits b digits first nonzero more =>
    rw [List.cons_append, skipNumber, if_neg nonzero, skipDigits_append first more hrest]
    rfl

theorem skipNumber_append (h : IsMagnitude bs) (hrest : Ends rest) :
    skipNumber (bs ++ rest) = some rest := by
  cases h with
  | @of whole fraction exponent whole_is fraction_is exponent_is =>
    have hexponent := head_exponent exponent_is hrest
    have hfraction := head_fraction fraction_is fun b hb => (hexponent b hb).1
    rw [List.append_assoc, List.append_assoc, skipNumber_whole whole_is hfraction]
    cases fraction_is with
    | absent =>
      rw [List.nil_append]
      split
      · next heq => exact absurd rfl (hexponent 0x2E (by rw [heq]; rfl)).2
      · exact skipExponent_append exponent_is hrest
    | @present b digits first more =>
      have hdigits : skipDigits (b :: (digits ++ (exponent ++ rest))) = some (exponent ++ rest) :=
        skipDigits_append first more fun b hb => (hexponent b hb).1
      change skipDigits (b :: (digits ++ (exponent ++ rest))) >>= skipExponent = some rest
      rw [hdigits]
      exact skipExponent_append exponent_is hrest

theorem IsMagnitude.exists_digit (h : IsMagnitude bs) :
    ∃ b rest, bs = b :: rest ∧ isDigit b = true := by
  cases h with
  | of whole_is =>
    cases whole_is with
    | zero => exact ⟨0x30, _, rfl, by decide⟩
    | digits first => exact ⟨_, _, rfl, first⟩

theorem digits_of_skipDigits (h : skipDigits bs = some rest) :
    ∃ b ds, isDigit b = true ∧ AllDigits ds ∧ bs = b :: (ds ++ rest) := by
  cases bs with
  | nil => cases h
  | cons b tail =>
    rw [skipDigits, Option.ite_none_right_eq_some] at h
    obtain ⟨hb, hrest⟩ := h
    refine ⟨b, tail.takeWhile isDigit, hb, fun _ => List.mem_takeWhile_imp, ?_⟩
    rw [← Option.some.inj hrest, List.takeWhile_append_dropWhile]

theorem exponent_of_skipExponent (h : skipExponent bs = some rest) :
    ∃ x, IsExponent x ∧ bs = x ++ rest := by
  cases bs with
  | nil =>
    cases h
    exact ⟨[], .absent, rfl⟩
  | cons e tail =>
    by_cases letter : e = 0x65 ∨ e = 0x45
    · rw [skipExponent_letter letter] at h
      split at h
      · obtain ⟨b, ds, first, more, rfl⟩ := digits_of_skipDigits h
        exact ⟨_, .present letter (.inr (.inl rfl)) first more, by simp⟩
      · obtain ⟨b, ds, first, more, rfl⟩ := digits_of_skipDigits h
        exact ⟨_, .present letter (.inr (.inr rfl)) first more, by simp⟩
      · obtain ⟨b, ds, first, more, rfl⟩ := digits_of_skipDigits h
        exact ⟨_, .present letter (.inl rfl) first more, by simp⟩
    · have hrest : skipExponent (e :: tail) = some (e :: tail) := by
        unfold skipExponent
        split
        · next heq => exact absurd (.inl (List.cons.inj heq).1) letter
        · next heq => exact absurd (.inr (List.cons.inj heq).1) letter
        · rfl
      cases hrest.symm.trans h
      exact ⟨[], .absent, rfl⟩

/-- What is followed behind the digits in front of the point. -/
theorem magnitude_of_whole {whole behind : Bytes} (whole_is : IsWhole whole) :
    (match behind with
      | 0x2E :: rest => skipDigits rest >>= skipExponent
      | _ => skipExponent behind) = some rest →
      ∃ n, IsMagnitude n ∧ whole ++ behind = n ++ rest := by
  intro h
  split at h
  · rw [Option.bind_eq_bind, Option.bind_eq_some_iff] at h
    obtain ⟨behind', hdigits, hexponent⟩ := h
    obtain ⟨c, ds, first, more, rfl⟩ := digits_of_skipDigits hdigits
    obtain ⟨x, exponent_is, rfl⟩ := exponent_of_skipExponent hexponent
    exact ⟨_, .of whole_is (.present first more) exponent_is, by simp⟩
  · obtain ⟨x, exponent_is, rfl⟩ := exponent_of_skipExponent h
    exact ⟨_, .of whole_is .absent exponent_is, by simp⟩

theorem magnitude_of_skipNumber (h : skipNumber bs = some rest) :
    ∃ n, IsMagnitude n ∧ bs = n ++ rest := by
  cases bs with
  | nil => cases h
  | cons b tail =>
    rw [skipNumber] at h
    split at h
    · next hzero =>
      split at h
      · cases h
      · subst hzero
        exact magnitude_of_whole .zero h
    · next hnonzero =>
      rw [Option.bind_eq_bind, Option.bind_eq_some_iff] at h
      obtain ⟨behind, hdigits, hbehind⟩ := h
      obtain ⟨c, ds, first, more, heq⟩ := digits_of_skipDigits hdigits
      cases heq
      exact magnitude_of_whole (.digits first hnonzero more) hbehind

end Numbers

section Strings

variable {content bs rest : Bytes}

theorem shortEscape_of_mem {e : UInt8} {c : Char} (h : (e, c) ∈ shortEscapes) :
    ∃ b, shortEscape e = some b ∧ String.utf8EncodeChar c = [b] ∧ e ≠ 0x75 := by
  simp only [shortEscapes, List.mem_cons, Prod.mk.injEq, List.not_mem_nil, or_false] at h
  rcases h with ⟨rfl, rfl⟩ | ⟨rfl, rfl⟩ | ⟨rfl, rfl⟩ | ⟨rfl, rfl⟩ | ⟨rfl, rfl⟩ | ⟨rfl, rfl⟩ |
    ⟨rfl, rfl⟩ | ⟨rfl, rfl⟩ <;> exact ⟨_, rfl, rfl, by decide⟩

theorem skipString_append (h : IsContent content) :
    skipString (content ++ quote :: rest) = some rest := by
  induction h with
  | nil =>
    rw [List.nil_append, skipString.eq_def]
    simp only [if_true]
  | plain printable unquoted unescaped _ ih =>
    rw [List.cons_append, skipString.eq_def]
    simp only [unquoted, unescaped, UInt8.not_lt.mpr printable, if_false, ih]
  | short known _ ih =>
    obtain ⟨b, hescape, -, hnumber⟩ := shortEscape_of_mem known
    rw [List.cons_append, List.cons_append, skipString.eq_def]
    simp only [show backslash ≠ quote by decide, hnumber, hescape, Option.isSome_some, if_false,
      if_true, ih]
  | @numbered a b c d more digits _ ih =>
    have hskip : skipHex (a :: b :: c :: d :: (more ++ quote :: rest)) =
        some (more ++ quote :: rest) :=
      if_pos (List.all_eq_true.mpr digits)
    simp only [List.cons_append]
    rw [skipString.eq_def]
    simp only [show backslash ≠ quote by decide, if_false, if_true]
    split
    · next heq => cases hskip.symm.trans heq
    · next heq =>
      cases hskip.symm.trans heq
      exact ih

theorem shortEscapes_of_isSome {e : UInt8} (h : (shortEscape e).isSome = true) :
    ∃ c, (e, c) ∈ shortEscapes := by
  unfold shortEscape at h
  split at h
  · exact ⟨'"', by decide⟩
  · exact ⟨'\\', by decide⟩
  · exact ⟨'/', by decide⟩
  · exact ⟨'\x08', by decide⟩
  · exact ⟨'\x0c', by decide⟩
  · exact ⟨'\n', by decide⟩
  · exact ⟨'\r', by decide⟩
  · exact ⟨'\t', by decide⟩
  · cases h

theorem hex_of_skipHex (h : skipHex bs = some rest) :
    ∃ a b c d, IsHex [a, b, c, d] ∧ bs = a :: b :: c :: d :: rest := by
  unfold skipHex at h
  split at h
  · rw [Option.ite_none_right_eq_some] at h
    obtain ⟨hall, heq⟩ := h
    cases heq
    exact ⟨_, _, _, _, List.all_eq_true.mp hall, rfl⟩
  · cases h

theorem content_of_skipString (h : skipString bs = some rest) :
    ∃ content, IsContent content ∧ bs = content ++ quote :: rest := by
  fun_induction skipString bs with
  | case1 => cases h
  | case2 =>
    cases h
    exact ⟨[], .nil, rfl⟩
  | case3 => cases h
  | case4 => cases h
  | case5 tail tail' hhex _ _ ih =>
    obtain ⟨content, hcontent, rfl⟩ := ih h
    obtain ⟨a, b, c, d, digits, rfl⟩ := hex_of_skipHex hhex
    exact ⟨_, .numbered digits hcontent, rfl⟩
  | case6 e tail _ hshort _ ih =>
    obtain ⟨content, hcontent, rfl⟩ := ih h
    obtain ⟨c, known⟩ := shortEscapes_of_isSome hshort
    exact ⟨_, .short known hcontent, rfl⟩
  | case7 => cases h
  | case8 => cases h
  | case9 b tail unquoted unescaped hcontrol ih =>
    obtain ⟨content, hcontent, rfl⟩ := ih h
    exact ⟨_, .plain (UInt8.not_lt.mp hcontrol) unquoted unescaped hcontent, rfl⟩

end Strings

section Words

variable {bs rest : Bytes}

theorem readWord_append (word rest : Bytes) : readWord word (word ++ rest) = .ok rest := by
  induction word with
  | nil => rfl
  | cons w word ih => rw [List.cons_append, readWord, if_pos rfl, ih]

theorem eq_append_of_readWord {word : Bytes} (h : readWord word bs = .ok rest) :
    bs = word ++ rest := by
  induction word generalizing bs with
  | nil => exact Except.ok.inj h
  | cons w word ih =>
    cases bs with
    | nil => cases h
    | cons b tail =>
      rw [readWord] at h
      split at h
      · next hb => rw [hb, ih h, List.cons_append]
      · cases h

theorem eq_ok_of_toOption {ε α : Type} {x : Except ε α} {a : α} (h : x.toOption = some a) :
    x = .ok a := by
  cases x with
  | error e => cases h
  | ok b => exact congrArg Except.ok (Option.some.inj h)

theorem eq_append_of_word {word : Bytes} (h : (readWord word bs).toOption = some rest) :
    bs = word ++ rest :=
  eq_append_of_readWord (eq_ok_of_toOption h)

end Words

end Tenancy.Json
