import Tenancy.Address.Escape
import Tenancy.Proofs.Text.Utf8

/-!
# Reading form-encoded texts

A plus sign is a space, a percent sign and two digits are a byte, and the bytes are a text in UTF-8.
Every text is read back from its form, and the form of a text holds few characters.
-/

namespace Tenancy.Text.FormEncoding

def plusToSpace (cs : List Char) : List Char :=
  cs.map fun c => if c = '+' then ' ' else c

@[simp] theorem plusToSpace_append (cs ds : List Char) :
    plusToSpace (cs ++ ds) = plusToSpace cs ++ plusToSpace ds :=
  List.map_append

/-- The text that a form stands for, if its bytes are one. -/
def decode? (s : String) : Option String :=
  Utf8.decode? (Address.bytes (plusToSpace s.toList))

/-- A character that may stand in a form. -/
def IsFormChar (c : Char) : Prop :=
  c.isAlphanum = true ∨ c ∈ "*-._+%".toList

instance (c : Char) : Decidable (IsFormChar c) :=
  inferInstanceAs (Decidable (_ ∨ _))

section Digits

variable {n : Nat}

theorem digit?_hexDigit (h : n < 16) : Address.digit? (hexDigit n) = some n := by
  have hall : ∀ k : Fin 16, Address.digit? (hexDigit k) = some k.val := by decide
  exact hall ⟨n, h⟩

theorem hexDigit_ne_plus (h : n < 16) : hexDigit n ≠ '+' := by
  have hall : ∀ k : Fin 16, hexDigit k ≠ '+' := by decide
  exact hall ⟨n, h⟩

theorem isAlphanum_hexDigit (h : n < 16) : (hexDigit n).isAlphanum = true := by
  have hall : ∀ k : Fin 16, (hexDigit k).isAlphanum = true := by decide
  exact hall ⟨n, h⟩

end Digits

theorem mem_plain_or_alphanum {c : Char} (h : isPlain c = true) :
    c.isAlphanum = true ∨ c ∈ ['*', '-', '.', '_'] := by
  simpa [isPlain, or_assoc] using h

theorem plain_ne {c d : Char} (h : isPlain c = true) (hd : isPlain d = false) : c ≠ d := by
  rintro rfl
  simp [h] at hd

section Bytes

variable (rest : List Char)

theorem bytes_encodeByte (b : UInt8) :
    Address.bytes (plusToSpace (encodeByte b) ++ rest) = b :: Address.bytes rest := by
  have hb : b.toNat < 256 := b.toNat_lt
  have hhi : b.toNat / 16 < 16 := by omega
  have hlo : b.toNat % 16 < 16 := by omega
  have hform : plusToSpace (encodeByte b) =
      ['%', hexDigit (b.toNat / 16), hexDigit (b.toNat % 16)] := by
    simp [plusToSpace, encodeByte, hexDigit_ne_plus hhi, hexDigit_ne_plus hlo]
  have hvalue : b.toNat / 16 * 16 + b.toNat % 16 = b.toNat := by omega
  rw [hform]
  simp only [List.cons_append, List.nil_append, Address.bytes, digit?_hexDigit hhi,
    digit?_hexDigit hlo, hvalue, UInt8.ofNat_toNat]

theorem bytes_flatMap_encodeByte (bs : List UInt8) :
    Address.bytes (plusToSpace (bs.flatMap encodeByte) ++ rest) = bs ++ Address.bytes rest := by
  induction bs with
  | nil => rfl
  | cons b bs ih =>
    rw [List.flatMap_cons, plusToSpace_append, List.append_assoc, bytes_encodeByte, ih,
      List.cons_append]

theorem bytes_cons {c : Char} (h : c ≠ '%') :
    Address.bytes (c :: rest) = String.utf8EncodeChar c ++ Address.bytes rest := by
  rw [Address.bytes]
  intro a b r hc
  exact absurd hc h

/-- What is written for a character stands for the bytes of that character. -/
theorem bytes_encodeChar (c : Char) :
    Address.bytes (plusToSpace (encodeChar c) ++ rest) =
      String.utf8EncodeChar c ++ Address.bytes rest := by
  unfold encodeChar
  split
  · next hplain =>
    have hplus : c ≠ '+' := plain_ne hplain (by decide)
    have hpercent : c ≠ '%' := plain_ne hplain (by decide)
    simpa [plusToSpace, hplus] using bytes_cons rest hpercent
  · split
    · next hspace =>
      subst hspace
      exact bytes_cons rest (by decide)
    · exact bytes_flatMap_encodeByte rest _

end Bytes

theorem bytes_encode (cs : List Char) :
    Address.bytes (plusToSpace (cs.flatMap encodeChar)) = cs.flatMap String.utf8EncodeChar := by
  induction cs with
  | nil => rfl
  | cons c cs ih =>
    rw [List.flatMap_cons, plusToSpace_append, bytes_encodeChar, ih, List.flatMap_cons]

theorem decode?_encode (s : String) : decode? (encode s) = some s := by
  rw [decode?, encode, String.toList_ofList, bytes_encode, Utf8.decode?_flatMap_encodeChar,
    String.ofList_toList]

theorem encode_injective {s t : String} (h : encode s = encode t) : s = t := by
  have hdecoded := congrArg decode? h
  rw [decode?_encode, decode?_encode] at hdecoded
  exact Option.some.inj hdecoded

theorem isFormChar_of_mem_encodeByte {b : UInt8} {c : Char} (h : c ∈ encodeByte b) :
    IsFormChar c := by
  have hb : b.toNat < 256 := b.toNat_lt
  simp only [encodeByte, List.mem_cons, List.not_mem_nil, or_false] at h
  rcases h with rfl | rfl | rfl
  · exact .inr (by decide)
  · exact .inl (isAlphanum_hexDigit (by omega))
  · exact .inl (isAlphanum_hexDigit (by omega))

theorem isFormChar_of_mem_encodeChar {c d : Char} (h : d ∈ encodeChar c) : IsFormChar d := by
  unfold encodeChar at h
  split at h
  · next hplain =>
    obtain rfl := List.mem_singleton.mp h
    rcases mem_plain_or_alphanum hplain with halnum | hmark
    · exact .inl halnum
    · exact .inr (List.mem_append_left ['+', '%'] hmark)
  · split at h
    · obtain rfl := List.mem_singleton.mp h
      exact .inr (by decide)
    · obtain ⟨b, -, hd⟩ := List.mem_flatMap.mp h
      exact isFormChar_of_mem_encodeByte hd

theorem isFormChar_of_mem_encode {s : String} {c : Char} (h : c ∈ (encode s).toList) :
    IsFormChar c := by
  rw [encode, String.toList_ofList, List.mem_flatMap] at h
  obtain ⟨d, -, hc⟩ := h
  exact isFormChar_of_mem_encodeChar hc

end Tenancy.Text.FormEncoding
