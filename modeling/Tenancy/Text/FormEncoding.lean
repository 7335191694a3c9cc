/-!
# Form encoding

The form in which a text stands as a query parameter: letters, digits and `*-._` as they are, a
space as a plus sign, every other byte by its number.
-/

namespace Tenancy.Text.FormEncoding

def isPlain (c : Char) : Bool :=
  c.isAlphanum || c == '*' || c == '-' || c == '.' || c == '_'

def hexDigit (n : Nat) : Char :=
  Char.ofNat (if n < 10 then 0x30 + n else 0x37 + n)

def encodeByte (b : UInt8) : List Char :=
  ['%', hexDigit (b.toNat / 16), hexDigit (b.toNat % 16)]

def encodeChar (c : Char) : List Char :=
  if isPlain c then [c]
  else if c = ' ' then ['+']
  else (String.utf8EncodeChar c).flatMap encodeByte

def encode (s : String) : String :=
  .ofList (s.toList.flatMap encodeChar)

@[simp] theorem encode_empty : encode "" = "" := rfl

@[simp] theorem encode_append (s t : String) : encode (s ++ t) = encode s ++ encode t := by
  simp [encode]

end Tenancy.Text.FormEncoding
