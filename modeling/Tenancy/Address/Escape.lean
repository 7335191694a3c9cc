import Tenancy.Address.Digits
import Tenancy.Text.FormEncoding
import Tenancy.Text.Utf8

/-!
# Bytes by number

A percent sign and two digits stand for the byte of that number. So are written the characters that
cannot stand in their place.
-/

namespace Tenancy.Address

/-- Whether a character has to be written by number, besides the ones in `others`. -/
def isUnsafe (others : List Char) (c : Char) : Bool :=
  c.toNat ≤ 0x20 || 0x7F ≤ c.toNat || others.contains c

def escape (others : List Char) (cs : List Char) : List Char :=
  cs.flatMap fun c =>
    if isUnsafe others c then
      (String.utf8EncodeChar c).flatMap Text.FormEncoding.encodeByte
    else [c]

/-- The bytes that a text stands for; a percent sign without digits stands for itself. -/
def bytes : List Char → List UInt8
  | '%' :: a :: b :: rest =>
    match digit? a, digit? b with
    | some m, some n => UInt8.ofNat (m * 16 + n) :: bytes rest
    | _, _ => 0x25 :: bytes (a :: b :: rest)
  | c :: rest => String.utf8EncodeChar c ++ bytes rest
  | [] => []

/-- The text that is meant, if its bytes are one. -/
def unescape? (cs : List Char) : Option (List Char) :=
  (Text.Utf8.decode? (bytes cs)).map String.toList

end Tenancy.Address
