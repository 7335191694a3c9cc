import Tenancy.Text.Utf8

/-!
# UTF-16 and byte order marks

Texts as units of two bytes. A character beyond the first plane takes a leading and a trailing unit;
one without the other is malformed, and so is a byte that is left over. A byte order mark in front
tells in which form a text is; without one it is UTF-8.
-/

namespace Tenancy.Text

namespace Utf16

/-- Which byte of a unit comes first. -/
inductive ByteOrder where
  | highFirst
  | lowFirst

def ByteOrder.unit : ByteOrder → UInt8 → UInt8 → Nat
  | highFirst, a, b => a.toNat * 256 + b.toNat
  | lowFirst, a, b => b.toNat * 256 + a.toNat

def IsLead (unit : Nat) : Prop := 0xD800 ≤ unit ∧ unit < 0xDC00

def IsTrail (unit : Nat) : Prop := 0xDC00 ≤ unit ∧ unit < 0xE000

instance (unit : Nat) : Decidable (IsLead unit) := inferInstanceAs (Decidable (_ ∧ _))

instance (unit : Nat) : Decidable (IsTrail unit) := inferInstanceAs (Decidable (_ ∧ _))

def paired (lead trail : Nat) : Char :=
  .ofNat (0x10000 + (lead - 0xD800) * 0x400 + (trail - 0xDC00))

/-- The characters of a byte string, `none` for each malformed part, while a leading unit may be
waiting for its trailing one. A unit that comes in place of that is read on its own; at the end a
waiting unit and a byte that is left over are one malformed part. -/
def scalars (order : ByteOrder) : Option Nat → List UInt8 → List (Option Char)
  | none, [] => []
  | some _, [] => [none]
  | _, [_] => [none]
  | none, a :: b :: rest =>
    if IsLead (order.unit a b) then scalars order (order.unit a b) rest
    else if IsTrail (order.unit a b) then none :: scalars order none rest
    else some (.ofNat (order.unit a b)) :: scalars order none rest
  | some lead, a :: b :: rest =>
    if IsTrail (order.unit a b) then
      some (paired lead (order.unit a b)) :: scalars order none rest
    else if IsLead (order.unit a b) then none :: scalars order (order.unit a b) rest
    else none :: some (.ofNat (order.unit a b)) :: scalars order none rest

def decodeLossy (order : ByteOrder) (bytes : List UInt8) : String :=
  .ofList ((scalars order none bytes).map (·.getD '\uFFFD'))

end Utf16

/-- Decodes leniently in the form that a byte order mark tells. The mark is no part of the text. -/
def decodeBody (bytes : List UInt8) : String :=
  match bytes with
  | 0xEF :: 0xBB :: 0xBF :: rest => Utf8.decodeLossy rest
  | 0xFE :: 0xFF :: rest => Utf16.decodeLossy .highFirst rest
  | 0xFF :: 0xFE :: rest => Utf16.decodeLossy .lowFirst rest
  | _ => Utf8.decodeLossy bytes

end Tenancy.Text
