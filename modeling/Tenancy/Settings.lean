import Tenancy.Fault
import Tenancy.Text.Blank

/-!
# Settings

What the environment says: where the platform is, with which token to reach it, where the identity
service is, and how long to wait for an answer.
-/

namespace Tenancy

/-- Named texts; of equal names the first one counts. -/
abbrev Environment := List (String × String)

structure Settings where
  endpoint : String
  token : String
  identityEndpoint : Option String
  timeout : Nat
deriving DecidableEq, Repr

namespace Settings

def endpointName : String := "ROSTER_API_ENDPOINT"

def tokenName : String := "ROSTER_ACCESS_TOKEN"

def identityName : String := "ROSTER_IDENTITY_ENDPOINT"

def timeoutName : String := "ROSTER_HTTP_TIMEOUT_SECS"

def defaultTimeout : Nat := 15

/-- What keeps a text from being a number. -/
inductive NumberDefect where
  | empty
  | badDigit
  | tooLarge
deriving DecidableEq, Repr

def NumberDefect.message : NumberDefect → String
  | empty => "cannot parse integer from empty string"
  | badDigit => "invalid digit found in string"
  | tooLarge => "number too large to fit in target type"

/-- The first number that 64 bits do not hold. -/
def numberBound : Nat := 0x10000000000000000

/-- Reads decimal digits from the left, each of which has to fit. -/
def readDigits (bound n : Nat) : List Char → Except NumberDefect Nat
  | [] => .ok n
  | c :: rest =>
    if c.isDigit then
      let n := n * 10 + (c.toNat - 0x30)
      if n < bound then readDigits bound n rest else .error .tooLarge
    else .error .badDigit

/-- Reads a number of 64 bits, perhaps with a plus sign. -/
def readNumber (s : List Char) : Except NumberDefect Nat :=
  match s with
  | [] => .error .empty
  | ['+'] => .error .badDigit
  | '+' :: digits => readDigits numberBound 0 digits
  | digits => readDigits numberBound 0 digits

def required (env : Environment) (name : String) : Except Fault String :=
  match (env.lookup name).map Text.trim with
  | some s => if s = "" then .error (.invalid s!"{name} is required") else .ok s
  | none => .error (.invalid s!"{name} is required")

def readTimeout (env : Environment) : Except Fault Nat :=
  match env.lookup timeoutName with
  | none => .ok defaultTimeout
  | some raw =>
    match readNumber (Text.trim raw).toList with
    | .ok n =>
      if n = 0 then .error (.invalid s!"{timeoutName} must be greater than zero") else .ok n
    | .error d => .error (.invalid s!"invalid {timeoutName} value '{raw}': {d.message}")

def load (env : Environment) : Except Fault Settings := do
  let endpoint ← required env endpointName
  let token ← required env tokenName
  let identity := (env.lookup identityName).map Text.baseAddress
  let timeout ← readTimeout env
  pure {
    endpoint := Text.dropSlashes endpoint
    token
    identityEndpoint := identity.filter (· ≠ "")
    timeout }

/-- The settings in a file, one on each line; what stands behind a number sign in front of a line is
no setting. -/
def ofLines (text : String) : Environment :=
  (text.splitOn "\n").filterMap fun line =>
    let cs := (Text.trim line).toList
    let name := Text.trim (.ofList (cs.takeWhile (· ≠ '=')))
    if cs.contains '=' ∧ cs.head? ≠ some '#' then
      some (name, Text.trim (.ofList ((cs.dropWhile (· ≠ '=')).drop 1)))
    else none

end Settings

end Tenancy
