import Tenancy.Decimal.Binary

/-!
# Shortest decimals

The decimal with the fewest digits among those that read back as a given binary number, and of
these the nearest. Each number of digits is one grid of decimals, and only the two grid points next
to the number can read back when any does.
-/

namespace Tenancy.Decimal

/-- Stands for `digits · 10 ^ exponent`. -/
structure Short where
  digits : Nat
  exponent : Int
deriving DecidableEq, Repr

/-- Takes the zeros off the end of the digits; `fuel` bounds their number. -/
def Short.stripZeros (fuel : Nat) (d : Short) : Short :=
  match fuel with
  | 0 => d
  | fuel + 1 =>
    if d.digits ≠ 0 ∧ d.digits % 10 = 0 then stripZeros fuel ⟨d.digits / 10, d.exponent + 1⟩
    else d

namespace Binary

/-- Half the gap below, the number and half the gap above, as multiples of `2 ^ (exponent - 2)`. -/
def window (x : Binary) : Nat × Nat × Nat :=
  let m := 4 * x.mantissa
  let below := if x.mantissa = leastMantissa ∧ leastExponent < x.exponent then 1 else 2
  (m - below, m, m + 2)

/-- The factors that compare multiples of `2 ^ (exponent - 2)` with multiples of `10 ^ k`. -/
def gridFactors (x : Binary) (k : Int) : Nat × Nat :=
  let (a, b) := scaleRatio 1 1 (x.exponent - 2)
  (a * Nat.pow 10 (-k).toNat, b * Nat.pow 10 k.toNat)

/-- The ends of the window read back exactly when the mantissa is even. -/
def readsBack (x : Binary) (k : Int) (c : Nat) : Bool :=
  let (low, _, high) := x.window
  let (a, b) := x.gridFactors k
  if x.mantissa % 2 = 0 then low * a ≤ c * b && c * b ≤ high * a
  else low * a < c * b && c * b < high * a

/-- The nearest multiple of `10 ^ k` that reads back. -/
def onGrid (x : Binary) (k : Int) : Option Short :=
  let (_, m, _) := x.window
  let (a, b) := x.gridFactors k
  let c := m * a / b
  match x.readsBack k c, x.readsBack k (c + 1) with
  | true, true => some ⟨roundHalfEven (m * a) b, k⟩
  | true, false => some ⟨c, k⟩
  | false, true => some ⟨c + 1, k⟩
  | false, false => none

/-- The exponent of the leading decimal digit. -/
def leadingTen (x : Binary) : Int :=
  let guess : Int := (Nat.log2 x.mantissa + x.exponent) * 30103 / 100000
  let reaches (k : Int) : Bool :=
    let (a, b) := x.gridFactors k
    b ≤ x.window.2.1 * a
  if reaches (guess + 1) then guess + 1 else if reaches guess then guess else guess - 1

def shortest (x : Binary) : Short :=
  if x.mantissa = 0 then ⟨0, 0⟩
  else
    let top := x.leadingTen
    let grids := (List.range 17).map fun (n : Nat) => top - (n : Int)
    match grids.findSome? x.onGrid with
    | some d => d.stripZeros 18
    | none => ⟨0, 0⟩

end Binary

end Tenancy.Decimal
