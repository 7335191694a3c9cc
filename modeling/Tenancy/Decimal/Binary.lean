/-!
# Binary floating point numbers

The non-negative numbers of 53 significant bits, kept exactly as a mantissa and a power of two.
Every operation is the exact one followed by rounding to the nearest, of two to the even mantissa.
-/

namespace Tenancy.Decimal

/-- Stands for `mantissa · 2 ^ exponent`. -/
structure Binary where
  mantissa : Nat
  exponent : Int
deriving DecidableEq, Repr

def roundHalfEven (num den : Nat) : Nat :=
  let q := num / den
  let r := num % den
  if den < 2 * r ∨ (2 * r = den ∧ q % 2 = 1) then q + 1 else q

theorem roundHalfEven_exact (q den : Nat) (h : 0 < den) : roundHalfEven (q * den) den = q := by
  have hq : q * den / den = q := Nat.mul_div_cancel q h
  have hr : q * den % den = 0 := Nat.mul_mod_left q den
  unfold roundHalfEven
  dsimp only
  rw [hq, hr, if_neg (by omega)]

/-- `num / den · 2 ^ e` as a ratio of natural numbers. -/
def scaleRatio (num den : Nat) (e : Int) : Nat × Nat :=
  (num * Nat.pow 2 e.toNat, den * Nat.pow 2 (-e).toNat)

namespace Binary

def leastExponent : Int := -1074

def greatestExponent : Int := 971

def precision : Nat := 53

/-- The least mantissa of full precision. -/
def leastMantissa : Nat := Nat.pow 2 (precision - 1)

def zero : Binary := ⟨0, leastExponent⟩

/-- The exponent at which a positive ratio has 53 bits before the point, or the least one. -/
def exponentOf (num den : Nat) : Int :=
  let e : Int := (Nat.log2 num : Int) - Nat.log2 den - (precision - 1 : Nat)
  let (a, b) := scaleRatio num den (-e)
  max leastExponent (if a / b < leastMantissa then e - 1 else e)

/-- The number nearest to a ratio; none where that lies beyond the greatest number. -/
def ofRatio (num den : Nat) : Option Binary :=
  if num = 0 then some zero
  else
    let e := exponentOf num den
    let (a, b) := scaleRatio num den (-e)
    let m := roundHalfEven a b
    let (m, e) := if m = 2 * leastMantissa then (leastMantissa, e + 1) else (m, e)
    if greatestExponent < e then none else some ⟨m, e⟩

def ofNat (n : Nat) : Option Binary :=
  ofRatio n 1

def mul (x y : Binary) : Option Binary :=
  let (a, b) := scaleRatio (x.mantissa * y.mantissa) 1 (x.exponent + y.exponent)
  ofRatio a b

def div (x y : Binary) : Option Binary :=
  let (a, b) := scaleRatio x.mantissa y.mantissa (x.exponent - y.exponent)
  ofRatio a b

/-- The greatest power of ten below the greatest number. -/
def greatestTen : Nat := 308

def tenPower (n : Nat) : Option Binary :=
  ofNat (Nat.pow 10 n)

/-- Multiplies by a power of ten, or divides by one, which rounds once more. -/
def shiftTen (x : Binary) (e : Int) : Option Binary :=
  tenPower e.natAbs >>= if 0 ≤ e then x.mul else x.div

/-- Scales by a power of ten of any size in at most `steps` divisions by the greatest one. -/
def scaleTen (steps : Nat) (x : Binary) (e : Int) : Option Binary :=
  if x.mantissa = 0 then some x
  else if e.natAbs ≤ greatestTen then x.shiftTen e
  else if 0 ≤ e then none
  else
    match steps with
    | 0 => some zero
    | steps + 1 =>
      x.shiftTen (-greatestTen) >>= fun y => scaleTen steps y (e + greatestTen)

/-- Reads `significand · 10 ^ e`. Two divisions take any significand of 64 bits to zero. -/
def ofDecimal (significand : Nat) (e : Int) : Option Binary :=
  ofNat significand >>= fun x => scaleTen 2 x e

end Binary

end Tenancy.Decimal
