import Tenancy.Decimal.Shortest

/-!
# Written decimals

A decimal as text: positional with at least one digit behind the point while the leading digit lies
in a range of places, scientific outside it.
-/

namespace Tenancy.Decimal

structure Layout where
  leastPlain : Int
  greatestPlain : Int

def zeros (n : Nat) : List Char :=
  List.replicate n '0'

def pointed (whole fraction : List Char) : List Char :=
  whole ++ '.' :: (if fraction.isEmpty then ['0'] else fraction)

/-- Digits whose first one stands at the place `10 ^ lead`. -/
def positional (digits : List Char) (lead : Int) : List Char :=
  if lead < 0 then pointed ['0'] (zeros ((-lead).toNat - 1) ++ digits)
  else
    let whole := lead.toNat + 1
    pointed (digits.take whole ++ zeros (whole - digits.length)) (digits.drop whole)

def scientific (digits : List Char) (lead : Int) : List Char :=
  let mark := if lead < 0 then ['e', '-'] else ['e', '+']
  let fraction := digits.drop 1
  digits.take 1 ++ (if fraction.isEmpty then [] else '.' :: fraction) ++ mark ++
    Nat.toDigits 10 lead.natAbs

def Short.write (layout : Layout) (d : Short) : List Char :=
  let digits := Nat.toDigits 10 d.digits
  let lead := d.exponent + (digits.length - 1 : Nat)
  if layout.leastPlain ≤ lead ∧ lead ≤ layout.greatestPlain then positional digits lead
  else scientific digits lead

end Tenancy.Decimal
