import Tenancy.Json.Basic
import Tenancy.Json.Flaw

/-!
# Reading JSON numbers

Digits are taken into a significand of 64 bits; what does not fit is dropped. An integer that fits
stays one, all else is the nearest binary number that scaling the significand gives.
-/

namespace Tenancy.Json

def isDigit (b : UInt8) : Bool :=
  0x30 ≤ b && b ≤ 0x39

def digitValue (b : UInt8) : Nat :=
  b.toNat - 0x30

/-- Takes digits while the number stays below `bound`; also counts those taken. -/
def takeDigits (bound : Nat) (n count : Nat) : Bytes → Nat × Nat × Bytes
  | [] => (n, count, [])
  | b :: rest =>
    if isDigit b ∧ n * 10 + digitValue b < bound then
      takeDigits bound (n * 10 + digitValue b) (count + 1) rest
    else (n, count, b :: rest)

/-- Drops digits and counts them. -/
def dropDigits (bs : Bytes) : Nat × Bytes :=
  ((bs.takeWhile isDigit).length, bs.dropWhile isDigit)

/-- A number before its exponent: `significand · 10 ^ exponent`. -/
structure Mantissa where
  significand : Nat
  exponent : Int

/-- The first number that 64 bits do not hold. -/
def wordBound : Nat := 0x10000000000000000

/-- The first exponent that is not taken. -/
def exponentBound : Nat := 0x80000000

def real (negative : Bool) (m : Mantissa) (rest : Bytes) : Except Halt (Number × Bytes) :=
  match Decimal.Binary.ofDecimal m.significand m.exponent with
  | some x => .ok (.real negative x.shortest, rest)
  | none => halt .numberTooLarge rest

/-- Reads an exponent from behind its letter. An exponent beyond its bound leaves zero, unless it
asks for a number too large. -/
def readExponent (negative : Bool) (m : Mantissa) (bs : Bytes) : Except Halt (Number × Bytes) :=
  let (down, bs) : Bool × Bytes :=
    match bs with
    | 0x2B :: rest => (false, rest)
    | 0x2D :: rest => (true, rest)
    | _ => (false, bs)
  match bs with
  | [] => halt .textEndsInValue []
  | b :: rest =>
    if isDigit b then
      let (e, _, rest) := takeDigits exponentBound (digitValue b) 1 rest
      if isDigit (rest.headD 0) then
        if m.significand ≠ 0 ∧ ¬ down then haltAt .numberTooLarge rest
        else .ok (.real negative ⟨0, 0⟩, (dropDigits rest).2)
      else real negative ⟨m.significand, if down then m.exponent - e else m.exponent + e⟩ rest
    else halt .badNumber rest

def readScale (negative : Bool) (m : Mantissa) (bs : Bytes) : Except Halt (Number × Bytes) :=
  match bs with
  | 0x65 :: rest | 0x45 :: rest => readExponent negative m rest
  | _ => real negative m bs

/-- Reads a fraction from behind its point. -/
def readFraction (negative : Bool) (m : Mantissa) (bs : Bytes) : Except Halt (Number × Bytes) :=
  match bs with
  | [] => halt .textEndsInValue []
  | b :: _ =>
    if isDigit b then
      let (n, count, rest) := takeDigits wordBound m.significand 0 bs
      readScale negative ⟨n, m.exponent - count⟩ (dropDigits rest).2
    else haltAt .badNumber bs

/-- An integer, or the binary number nearest to it where it has none: zero keeps its sign. -/
def integral (negative : Bool) (n : Nat) (rest : Bytes) : Except Halt (Number × Bytes) :=
  if negative then
    if 0 < n ∧ leastInteger ≤ -(n : Int) then .ok (.integer (-n), rest)
    else real true ⟨n, 0⟩ rest
  else .ok (.integer n, rest)

/-- Reads a number from behind its sign. -/
def readNumber (negative : Bool) (bs : Bytes) : Except Halt (Number × Bytes) :=
  match bs with
  | [] => halt .textEndsInValue []
  | b :: rest =>
    if b = 0x30 ∧ isDigit (rest.headD 0) then haltAt .badNumber rest
    else if isDigit b then
      let (n, _, rest) := takeDigits wordBound (digitValue b) 1 rest
      let (dropped, rest) := dropDigits rest
      match rest with
      | 0x2E :: rest => readFraction negative ⟨n, dropped⟩ rest
      | 0x65 :: rest | 0x45 :: rest => readExponent negative ⟨n, dropped⟩ rest
      | _ => if dropped = 0 then integral negative n rest else real negative ⟨n, dropped⟩ rest
    else halt .badNumber rest

end Tenancy.Json
