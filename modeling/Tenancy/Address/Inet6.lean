import Tenancy.Address.Digits
import Tenancy.Text.Cut

/-!
# Addresses of eight groups

Eight numbers of sixteen bits, in hexadecimal with colons between. Two colons stand for one run of
zeros, and the last two groups may be four decimal bytes. They are shown with the longest run of
zeros left out.
-/

namespace Tenancy.Address

structure Inet6 where
  groups : List Nat
  length_groups : groups.length = 8

namespace Inet6

def group? (cs : List Char) : Option Nat :=
  if cs ≠ [] ∧ cs.length ≤ 4 then number? 16 cs else none

/-- A decimal byte without zeros in front. -/
def byte? (cs : List Char) : Option Nat :=
  if cs ≠ [] ∧ (cs.head? = some '0' → cs.length = 1) then (number? 10 cs).filter (· < 256)
  else none

/-- The two groups that four bytes make. -/
def bytes? (cs : List Char) : Option (List Nat) :=
  (Text.cutAt (· == '.') cs).mapM byte? >>= fun
    | [a, b, c, d] => some [a * 256 + b, c * 256 + d]
    | _ => none

/-- Reads groups, the last of which may be four bytes. -/
def groups? : List (List Char) → Option (List Nat)
  | [] => some []
  | [cs] => if cs.contains '.' then bytes? cs else (group? cs).map ([·])
  | cs :: rest => do
    let n ← group? cs
    let ns ← groups? rest
    pure (n :: ns)

/-- The groups of a text, none if it is empty. -/
def pieces (cs : List Char) : List (List Char) :=
  if cs = [] then [] else Text.cutAt (· == ':') cs

/-- The parts before and behind the first two colons in a row. -/
def cutGap : List Char → Option (List Char × List Char)
  | ':' :: ':' :: rest => some ([], rest)
  | [] => none
  | c :: rest => (cutGap rest).map fun p => (c :: p.1, p.2)

def ofGroups? (groups : List Nat) : Option Inet6 :=
  if h : groups.length = 8 then some ⟨groups, h⟩ else none

def of? (cs : List Char) : Option Inet6 :=
  match cutGap cs with
  | none => groups? (pieces cs) >>= ofGroups?
  | some (front, back) => do
    let front ← (pieces front).mapM group?
    let back ← groups? (pieces back)
    if front.length + back.length < 8 then
      ofGroups? (front ++ List.replicate (8 - front.length - back.length) 0 ++ back)
    else none

/-- Where the longest run of zeros begins and how long it is; the first one of several. -/
def longestGap (groups : List Nat) : Nat × Nat :=
  (List.range groups.length).foldl (fun best i =>
    let length := ((groups.drop i).takeWhile (· == 0)).length
    if best.2 < length then (i, length) else best) (0, 0)

def groupsText (groups : List Nat) : String :=
  ":".intercalate (groups.map fun n => .ofList (Nat.toDigits 16 n))

def text (a : Inet6) : String :=
  let (start, length) := longestGap a.groups
  if length < 2 then groupsText a.groups
  else groupsText (a.groups.take start) ++ "::" ++ groupsText (a.groups.drop (start + length))

end Inet6

end Tenancy.Address
