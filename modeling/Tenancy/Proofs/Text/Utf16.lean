import Tenancy.Proofs.Text.Utf8
import Tenancy.Text.Utf16

/-!
# Reading marked texts back

A text written in units of two bytes is read as that text, in either order of the bytes. In front of
a body a byte order mark decides between that and UTF-8, so that each of the forms in which a body
can hold a text (`Carries`) is read as the text (`decodeBody_of_carries`).
-/

namespace Tenancy.Text

namespace Utf16

def ByteOrder.bytes : ByteOrder → Nat → List UInt8
  | highFirst, n => [UInt8.ofNat (n / 256), UInt8.ofNat (n % 256)]
  | lowFirst, n => [UInt8.ofNat (n % 256), UInt8.ofNat (n / 256)]

def ByteOrder.mark : ByteOrder → List UInt8
  | highFirst => [0xFE, 0xFF]
  | lowFirst => [0xFF, 0xFE]

def encodeChar (order : ByteOrder) (c : Char) : List UInt8 :=
  if c.toNat < 0x10000 then order.bytes c.toNat
  else order.bytes (0xD800 + (c.toNat - 0x10000) / 0x400) ++
    order.bytes (0xDC00 + (c.toNat - 0x10000) % 0x400)

def encode (order : ByteOrder) (s : String) : List UInt8 :=
  s.toList.flatMap (encodeChar order)

theorem bytes_eq (order : ByteOrder) {n : Nat} (h : n < 0x10000) :
    ∃ a b, order.bytes n = [a, b] ∧ order.unit a b = n := by
  have hhigh : (UInt8.ofNat (n / 256)).toNat = n / 256 := Utf8.toNat_ofNat_of_lt (by omega)
  have hlow : (UInt8.ofNat (n % 256)).toNat = n % 256 := Utf8.toNat_ofNat_of_lt (by omega)
  cases order with
  | highFirst | lowFirst =>
    refine ⟨_, _, rfl, ?_⟩
    rw [ByteOrder.unit, hhigh, hlow]
    omega

section Units

variable {order : ByteOrder} {n : Nat} (rest : List UInt8)

/-- A unit that is neither a leading nor a trailing one is a character of its own. -/
theorem scalars_single (h : n < 0x10000) (hlead : ¬ IsLead n) (htrail : ¬ IsTrail n) :
    scalars order none (order.bytes n ++ rest) = some (Char.ofNat n) :: scalars order none rest := by
  obtain ⟨a, b, hbytes, hunit⟩ := bytes_eq order h
  rw [hbytes, List.cons_append, List.cons_append, List.nil_append, scalars, hunit, if_neg hlead,
    if_neg htrail]

theorem scalars_lead (h : IsLead n) :
    scalars order none (order.bytes n ++ rest) = scalars order (some n) rest := by
  obtain ⟨a, b, hbytes, hunit⟩ := bytes_eq order (Nat.lt_trans h.2 (by decide))
  rw [hbytes, List.cons_append, List.cons_append, List.nil_append, scalars, hunit, if_pos h]

theorem scalars_trail (lead : Nat) (h : IsTrail n) :
    scalars order (some lead) (order.bytes n ++ rest) =
      some (paired lead n) :: scalars order none rest := by
  obtain ⟨a, b, hbytes, hunit⟩ := bytes_eq order (Nat.lt_trans h.2 (by decide))
  rw [hbytes, List.cons_append, List.cons_append, List.nil_append, scalars, hunit, if_pos h]

theorem scalars_encodeChar (order : ByteOrder) (c : Char) (rest : List UInt8) :
    scalars order none (encodeChar order c ++ rest) = some c :: scalars order none rest := by
  have hc : Char.ofNat c.toNat = c := Char.ofNat_toNat c
  have hvalid : c.toNat < 0xD800 ∨ 0xDFFF < c.toNat ∧ c.toNat < 0x110000 := c.valid
  rw [encodeChar]
  by_cases hplane : c.toNat < 0x10000
  · have hlead : ¬ IsLead c.toNat := by
      unfold IsLead
      omega
    have htrail : ¬ IsTrail c.toNat := by
      unfold IsTrail
      omega
    rw [if_pos hplane, scalars_single rest hplane hlead htrail, hc]
  · have hlead : IsLead (0xD800 + (c.toNat - 0x10000) / 0x400) := by
      unfold IsLead
      omega
    have htrail : IsTrail (0xDC00 + (c.toNat - 0x10000) % 0x400) := by
      unfold IsTrail
      omega
    have hvalue : 0x10000 + (0xD800 + (c.toNat - 0x10000) / 0x400 - 0xD800) * 0x400 +
        (0xDC00 + (c.toNat - 0x10000) % 0x400 - 0xDC00) = c.toNat := by omega
    have hpaired : paired (0xD800 + (c.toNat - 0x10000) / 0x400)
        (0xDC00 + (c.toNat - 0x10000) % 0x400) = c := by
      rw [paired, hvalue, hc]
    rw [if_neg hplane, List.append_assoc, scalars_lead _ hlead, scalars_trail _ _ htrail, hpaired]

end Units

theorem scalars_flatMap_encodeChar (order : ByteOrder) (cs : List Char) :
    scalars order none (cs.flatMap (encodeChar order)) = cs.map some := by
  induction cs with
  | nil => rfl
  | cons c cs ih => rw [List.flatMap_cons, scalars_encodeChar, ih, List.map_cons]

theorem decodeLossy_encode (order : ByteOrder) (s : String) :
    decodeLossy order (encode order s) = s := by
  simp [decodeLossy, encode, scalars_flatMap_encodeChar, Function.comp_def]

/-- A trailing unit alone, a leading one before another unit, and what is left over at the end are
one malformed part each. -/
example : decodeLossy .highFirst [0xD8, 0x3D, 0xDE, 0x00] = "😀" ∧
    decodeLossy .highFirst [0xDE, 0x00, 0xD8, 0x3D, 0x00, 0x41, 0xD8, 0x3D, 0x41] =
      "\uFFFD\uFFFDA\uFFFD" := by
  decide +kernel

end Utf16

/-- The forms in which a body can hold a text. Without a mark in front the text itself must not
begin with one. -/
inductive Carries (s : String) : List UInt8 → Prop where
  | plain (unmarked : ¬ ['\uFEFF'] <+: s.toList) : Carries s (Utf8.encode s)
  | marked : Carries s (0xEF :: 0xBB :: 0xBF :: Utf8.encode s)
  | units (order : Utf16.ByteOrder) : Carries s (order.mark ++ Utf16.encode order s)

theorem decodeBody_plain {s : String} (h : ¬ ['\uFEFF'] <+: s.toList) :
    decodeBody (Utf8.encode s) = s := by
  unfold decodeBody
  split
  · next rest heq =>
    have hfront : Utf8.encode "\uFEFF" <+: Utf8.encode s := ⟨rest, heq.symm⟩
    obtain ⟨back, rfl⟩ := Utf8.exists_append_of_encode_isPrefix hfront
    exact absurd (by simp) h
  · next heq => exact absurd heq (Utf8.encode_ne_cons (by decide) _ _)
  · next heq => exact absurd heq (Utf8.encode_ne_cons (by decide) _ _)
  · exact Utf8.decodeLossy_encode s

theorem decodeBody_of_carries {s : String} {bytes : List UInt8} (h : Carries s bytes) :
    decodeBody bytes = s := by
  cases h with
  | plain unmarked => exact decodeBody_plain unmarked
  | marked => exact Utf8.decodeLossy_encode s
  | units order =>
    cases order with
    | highFirst => exact Utf16.decodeLossy_encode .highFirst s
    | lowFirst => exact Utf16.decodeLossy_encode .lowFirst s

end Tenancy.Text
