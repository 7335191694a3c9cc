import Tenancy.Json.Printer

/-!
# Records in JSON

How a record is taken from a value: from an object by the names of its fields, in the order in which
the members stand, or from an array by their places. A field may have several spellings.
-/

namespace Tenancy.Json

inductive Mismatch where
  | missing (field : String)
  | repeated (field : String)
  | wrongKind (found : Json) (wanted : String)
  | wrongLength (found : Nat) (wanted : String)

def Mismatch.message : Mismatch → String
  | missing field => "missing field `" ++ field ++ "`"
  | repeated field => "duplicate field `" ++ field ++ "`"
  | wrongKind found wanted => "invalid type: " ++ found.described ++ ", expected " ++ wanted
  | wrongLength found wanted => "invalid length " ++ toString found ++ ", expected " ++ wanted

/-- A way to take a part of a record from a value. -/
abbrev Decoder (α : Type) := Json → Except Mismatch α

def asString : Decoder String
  | .string s => .ok s
  | v => .error (.wrongKind v "a string")

def asBool : Decoder Bool
  | .bool b => .ok b
  | v => .error (.wrongKind v "a boolean")

def asList (item : Decoder α) : Decoder (List α)
  | .array items => items.mapM item
  | v => .error (.wrongKind v "a sequence")

/-- Takes null for nothing. -/
def asOption (content : Decoder α) : Decoder (Option α)
  | .null => .ok none
  | v => (content v).map some

def asJson : Decoder Json := .ok

/-- A field of a record that is being filled; `required` means that an array has to hold it. -/
structure Field (σ : Type) where
  name : String
  others : List String
  required : Bool
  filled : σ → Bool
  fill : Json → σ → Except Mismatch σ

namespace Field

def spellings (f : Field σ) : List String :=
  f.name :: f.others

/-- The only field of a record. -/
def single (name : String) (others : List String) (required : Bool) (content : Decoder α) :
    Field (Option α) where
  name := name
  others := others
  required := required
  filled := Option.isSome
  fill v _ := (content v).map some

/-- A field of the first of two parts. -/
def inFst (f : Field σ) : Field (σ × τ) where
  name := f.name
  others := f.others
  required := f.required
  filled r := f.filled r.1
  fill v r := (f.fill v r.1).map fun part => (part, r.2)

/-- A field of the second of two parts. -/
def inSnd (f : Field τ) : Field (σ × τ) where
  name := f.name
  others := f.others
  required := f.required
  filled r := f.filled r.2
  fill v r := (f.fill v r.2).map fun part => (r.1, part)

end Field

/-- A kind of record: its fields in order, the empty one, and what a filled one stands for. -/
structure Shape (σ α : Type) where
  title : String
  fields : List (Field σ)
  empty : σ
  finish : σ → Except Mismatch α

namespace Shape

def field? (shape : Shape σ α) (name : String) : Option (Field σ) :=
  shape.fields.find? fun f => f.spellings.contains name

/-- Fills the field that a member names; an unknown name is passed over. -/
def fillMember (shape : Shape σ α) (record : σ) (m : String × Json) : Except Mismatch σ :=
  match shape.field? m.1 with
  | none => .ok record
  | some f => if f.filled record then .error (.repeated f.name) else f.fill m.2 record

def sized (shape : Shape σ α) : String :=
  let n := shape.fields.length
  "struct " ++ shape.title ++ " with " ++ toString n ++ (if n = 1 then " element" else " elements")

/-- Fills the fields by place, `place` being that of the first one; those left without an item must
not be required. -/
def fillItems (shape : Shape σ α) (place : Nat) (record : σ) :
    List (Field σ) → List Json → Except Mismatch (σ × List Json)
  | [], items => .ok (record, items)
  | f :: fields, [] =>
    if f.required then .error (.wrongLength place shape.sized)
    else fillItems shape (place + 1) record fields []
  | f :: fields, v :: items => do
    let record ← f.fill v record
    fillItems shape (place + 1) record fields items

def ofMembers (shape : Shape σ α) (members : List (String × Json)) : Except Mismatch α :=
  members.foldlM shape.fillMember shape.empty >>= shape.finish

def ofItems (shape : Shape σ α) (items : List Json) : Except Mismatch α := do
  let (record, left) ← shape.fillItems 0 shape.empty shape.fields items
  let whole ← shape.finish record
  if left.isEmpty then pure whole
  else throw (.wrongLength items.length "fewer elements in array")

def decode (shape : Shape σ α) : Decoder α
  | .object members => shape.ofMembers members
  | .array items => shape.ofItems items
  | v => .error (.wrongKind v ("struct " ++ shape.title))

end Shape

def require (field : String) : Option α → Except Mismatch α
  | some a => .ok a
  | none => .error (.missing field)

end Tenancy.Json
