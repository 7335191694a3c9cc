import Tenancy.Decimal.Notation

/-!
# JSON values

Numbers are integers of at most 64 bits or decimals in their shortest form. The members of an object
stand in the order of their names, one for each name.
-/

namespace Tenancy

inductive Json.Number where
  | integer (n : Int)
  | real (negative : Bool) (size : Decimal.Short)
deriving DecidableEq, Repr

inductive Json where
  | null
  | bool (b : Bool)
  | number (n : Json.Number)
  | string (s : String)
  | array (items : List Json)
  | object (members : List (String × Json))
deriving Repr, Inhabited

namespace Json

/-- The least integer of 64 bits with a sign. -/
def leastInteger : Int := -0x8000000000000000

/-- Sets one member, in its place in the order of names. -/
def setMember (name : String) (value : Json) : List (String × Json) → List (String × Json)
  | [] => [(name, value)]
  | m :: rest =>
    if name < m.1 then (name, value) :: m :: rest
    else if name = m.1 then (name, value) :: rest
    else m :: setMember name value rest

/-- Of members with equal names the last one counts. -/
def ofMembers (members : List (String × Json)) : Json :=
  .object (members.foldl (fun all m => setMember m.1 m.2 all) [])

def ofNat (n : Nat) : Json :=
  .number (.integer n)

theorem setMember_ne_nil (name : String) (value : Json) (ms : List (String × Json)) :
    setMember name value ms ≠ [] := by
  cases ms with
  | nil => simp [setMember]
  | cons m rest => simp only [setMember]; split <;> (try split) <;> simp

theorem mem_setMember {name : String} {value : Json} {ms : List (String × Json)}
    {m : String × Json} (h : m ∈ setMember name value ms) : m = (name, value) ∨ m ∈ ms := by
  induction ms with
  | nil => simpa [setMember] using h
  | cons k rest ih => grind [setMember]

/-- The member of a name. -/
def get? (name : String) : Json → Option Json
  | .object members => members.lookup name
  | _ => none

def Number.layout : Decimal.Layout := ⟨-5, 15⟩

def Number.chars : Number → List Char
  | .integer n => (if n < 0 then ['-'] else []) ++ Nat.toDigits 10 n.natAbs
  | .real negative d => (if negative then ['-'] else []) ++ d.write layout

def Number.text (n : Number) : String :=
  .ofList n.chars

end Json

end Tenancy
