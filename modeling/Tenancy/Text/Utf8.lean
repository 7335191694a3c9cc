/-!
# UTF-8

Texts as bytes and back. A malformed sequence is cut where no valid continuation follows: strict
decoding refuses it, lenient decoding puts one replacement character in its place.
-/

namespace Tenancy.Text.Utf8

def encode (s : String) : List UInt8 :=
  s.toList.flatMap String.utf8EncodeChar

@[simp] theorem encode_empty : encode "" = [] := rfl

@[simp] theorem encode_append (s t : String) : encode (s ++ t) = encode s ++ encode t := by
  simp [encode]

/-- Payload of a first byte, and the range in which each further byte has to lie. -/
def lead (b : UInt8) : Option (Nat × List (UInt8 × UInt8)) :=
  let more : UInt8 × UInt8 := (0x80, 0xBF)
  let n := b.toNat
  if b < 0x80 then some (n, [])
  else if b < 0xC2 then none
  else if b < 0xE0 then some (n % 32, [more])
  else if b == 0xE0 then some (n % 16, [(0xA0, 0xBF), more])
  else if b == 0xED then some (n % 16, [(0x80, 0x9F), more])
  else if b < 0xF0 then some (n % 16, [more, more])
  else if b == 0xF0 then some (n % 8, [(0x90, 0xBF), more, more])
  else if b < 0xF4 then some (n % 8, [more, more, more])
  else if b == 0xF4 then some (n % 8, [(0x80, 0x8F), more, more])
  else none

/-- Reads the further bytes as far as they lie in their ranges. -/
def continuation (n : Nat) : List (UInt8 × UInt8) → List UInt8 → Option Nat × List UInt8
  | [], rest => (some n, rest)
  | _ :: _, [] => (none, [])
  | (lo, hi) :: more, b :: rest =>
    if lo ≤ b ∧ b ≤ hi then continuation (n * 64 + b.toNat % 64) more rest else (none, b :: rest)

theorem length_continuation (n : Nat) (rs : List (UInt8 × UInt8)) (bs : List UInt8) :
    (continuation n rs bs).2.length ≤ bs.length := by
  fun_induction continuation n rs bs <;> grind

/-- The characters of a byte string, `none` for each malformed sequence. -/
def scalars : List UInt8 → List (Option Char)
  | [] => []
  | b :: rest =>
    match lead b with
    | none => none :: scalars rest
    | some (n, ranges) =>
      ((continuation n ranges rest).1.map Char.ofNat) :: scalars (continuation n ranges rest).2
termination_by bs => bs.length
decreasing_by
  · simp
  · have := length_continuation n ranges rest
    simp; omega

def decode? (bytes : List UInt8) : Option String :=
  ((scalars bytes).mapM id).map String.ofList

def decodeLossy (bytes : List UInt8) : String :=
  .ofList ((scalars bytes).map (·.getD '\uFFFD'))

end Tenancy.Text.Utf8
