import Tenancy.Text.Quoted

/-!
# Faults

Why an operation failed: an argument or a setting is invalid, something is absent, a role is
unknown, a service refused a request or was not reached, or an answer could not be used.
-/

namespace Tenancy

/-- What a service answered to a request it did not carry out. A refusal without a status never
came to an answer. -/
structure Refusal where
  status : Option Nat
  code : Option String
  message : String
deriving DecidableEq, Repr

namespace Refusal

def answered (status : Nat) (code : Option String) (message : String) : Refusal :=
  ⟨some status, code, message⟩

def unanswered (message : String) : Refusal :=
  ⟨none, none, message⟩

def HasCode (r : Refusal) (code : String) : Prop :=
  r.code = some code

instance (r : Refusal) (code : String) : Decidable (r.HasCode code) :=
  inferInstanceAs (Decidable (r.code = some code))

def describe (r : Refusal) : String :=
  match r.status, r.code with
  | some status, some code => s!"status {status}, code {code}: {r.message}"
  | some status, none => s!"status {status}: {r.message}"
  | none, _ => s!"transport failure: {r.message}"

def shown (r : Refusal) : String :=
  let status := Text.quotedOption toString r.status
  let code := Text.quotedOption Text.quoted r.code
  let message := Text.quoted r.message
  "RemoteFault \x7b " ++ s!"status: {status}, code: {code}, message: {message}" ++ " \x7d"

end Refusal

inductive Fault where
  | invalid (why : String)
  | absent (what : String)
  | unknownRole (why : String)
  | refused (r : Refusal)
  | internal (why : String)
deriving DecidableEq, Repr

namespace Fault

def message : Fault → String
  | invalid why => s!"validation error: {why}"
  | absent what => s!"not found: {what}"
  | unknownRole why => s!"invalid role: {why}"
  | refused r => s!"remote error: {r.describe}"
  | internal why => s!"internal error: {why}"

def shown : Fault → String
  | invalid why => s!"Validation({Text.quoted why})"
  | absent what => s!"NotFound({Text.quoted what})"
  | unknownRole why => s!"InvalidRole({Text.quoted why})"
  | refused r => s!"Remote({r.shown})"
  | internal why => s!"Internal({Text.quoted why})"

/-- Whether a service refused the request with the given code. -/
def RefusedWith (code : String) : Fault → Prop
  | refused r => r.HasCode code
  | _ => False

instance (code : String) : (f : Fault) → Decidable (f.RefusedWith code)
  | refused r => inferInstanceAs (Decidable (r.HasCode code))
  | invalid _ | absent _ | unknownRole _ | internal _ => inferInstanceAs (Decidable False)

@[simp] theorem refusedWith_refused (code : String) (r : Refusal) :
    (refused r).RefusedWith code ↔ r.code = some code := Iff.rfl

end Fault

end Tenancy
