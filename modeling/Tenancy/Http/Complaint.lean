import Tenancy.Fault
import Tenancy.Json.Outline
import Tenancy.Text.Blank

/-!
# Complaints

What a service says when it refuses a request: a code and descriptions in one of two dialects, or a
text of its own. A body that is no complaint says nothing but its text.
-/

namespace Tenancy.Http

structure Complaint where
  code : Option Json
  description : Option String
  errorCode : Option String
  error : Option String
  errorDescription : Option String

namespace Complaint

def none : Complaint := ⟨.none, .none, .none, .none, .none⟩

/-- Reads a part of a body, which lies one level deep. -/
def value? (part : Json.Bytes) : Option (Option Json) :=
  match Json.readAll (Json.greatestDepth - 1) part with
  | .ok .null => some .none
  | .ok v => some (some v)
  | .error _ => .none

def text? (part : Json.Bytes) : Option (Option String) :=
  value? part >>= fun
    | some (.string s) => some (some s)
    | some _ => .none
    | .none => some .none

/-- The part of a name, which must not be there twice. -/
def part (name : String) (parts : List (String × Json.Bytes)) : Option (Option Json.Bytes) :=
  match parts.filter (·.1 = name) with
  | [] => some .none
  | [p] => some (some p.2)
  | _ => .none

/-- What a part says, if it is there. -/
def said (name : String) (content : Json.Bytes → Option (Option α))
    (parts : List (String × Json.Bytes)) : Option (Option α) :=
  part name parts >>= fun
    | some p => content p
    | .none => some .none

def ofMembers (parts : List (String × Json.Bytes)) : Option Complaint := do
  let code ← said "code" value? parts
  let description ← said "description" text? parts
  let errorCode ← said "error_code" text? parts
  let error ← said "error" text? parts
  let errorDescription ← said "error_description" text? parts
  pure { code, description, errorCode, error, errorDescription }

def ofItems : List Json.Bytes → Option Complaint
  | [code, description, errorCode, error, errorDescription] => do
    let code ← value? code
    let description ← text? description
    let errorCode ← text? errorCode
    let error ← text? error
    let errorDescription ← text? errorDescription
    pure { code, description, errorCode, error, errorDescription }
  | _ => .none

def ofOutline : Json.Outline → Option Complaint
  | .members parts => ofMembers parts
  | .items parts => ofItems parts

def read (body : String) : Complaint :=
  (Json.Outline.read (Text.Utf8.encode body) >>= ofOutline).getD none

/-- A number or a text is a code of its own, all else leaves it to the error. -/
def codeText (c : Complaint) : Option String :=
  match c.code with
  | some (.number n) => some n.text
  | some (.string s) => some s
  | _ => c.error

def message (c : Complaint) : Option String :=
  c.description <|> c.errorDescription <|> c.errorCode <|> c.error

end Complaint

/-- The refusal that an answer outside the successful ones stands for. -/
def refusal (status : Nat) (body : String) : Refusal :=
  let c := Complaint.read body
  let plain := Text.trim body
  .answered status c.codeText (c.message.getD (if plain = "" then s!"HTTP {status}" else plain))

end Tenancy.Http
