import Tenancy.Address.Digits

/-!
# Addresses of four bytes

They are written as up to four numbers with dots between. The last number fills all bytes that the
others leave, and each may be decimal, octal behind a zero or hexadecimal behind `0x`.
-/

namespace Tenancy.Address

structure Inet4 where
  first : UInt8
  second : UInt8
  third : UInt8
  fourth : UInt8
deriving DecidableEq

namespace Inet4

def part? : List Char → Option Nat
  | [] => none
  | '0' :: 'x' :: cs => number? 16 cs
  | '0' :: c :: cs => number? 8 (c :: cs)
  | cs => number? 10 cs

/-- Whether the parts between the dots are those of such an address, as their last one tells. -/
def isMeant (parts : List (List Char)) : Bool :=
  parts.getLast?.any fun cs => (!cs.isEmpty && cs.all Char.isDigit) || (part? cs).isSome

def ofNat (n : Nat) : Inet4 :=
  ⟨.ofNat (n / 16777216), .ofNat (n / 65536), .ofNat (n / 256), .ofNat n⟩

/-- Reads the parts between the dots. -/
def of? (parts : List (List Char)) : Option Inet4 := do
  let numbers ← parts.mapM part?
  let last ← numbers.getLast?
  let front := numbers.dropLast
  let room := Nat.pow 256 (4 - front.length)
  if front.length < 4 ∧ (∀ n ∈ front, n < 256) ∧ last < room then
    some (ofNat (front.foldl (fun n b => n * 256 + b) 0 * room + last))
  else none

def text (a : Inet4) : String :=
  s!"{a.first}.{a.second}.{a.third}.{a.fourth}"

end Inet4

end Tenancy.Address
