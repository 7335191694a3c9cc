import Tenancy.Address.Basic
import Tenancy.Http.Complaint
import Tenancy.Http.Token
import Tenancy.Request
import Tenancy.Program
import Tenancy.Text.Utf16

/-!
# Exchanges

One request over HTTP and what comes of it. Every request is sent once; an answer outside the
successful ones is a refusal.
-/

namespace Tenancy.Http

structure Message where
  method : Method
  url : String
  authorization : String
  body : Option String
deriving DecidableEq

def mediaType : String := "application/json"

def Message.contentType (m : Message) : Option String :=
  m.body.map fun _ => mediaType

structure Body where
  bytes : List UInt8
  whole : Bool

/-- What comes back for one request. An answer is a status and a body and carries no headers:
redirections, which a client follows of its own, and character sets that headers name are outside
the model. -/
inductive Reply where
  | unreachable
  | dropped
  | answer (status : Nat) (body : Body)

def isSuccess (status : Nat) : Bool :=
  200 ≤ status && status < 300

abbrev Exchanging (α : Type) := ExceptT Fault (Program Message fun _ => Reply) α

def Message.of (r : Request) : Message :=
  ⟨r.method, r.url, bearer r.token, r.body.map Json.text⟩

/-- What keeps a message from being sent. -/
inductive Obstacle where
  /-- The address or the token is none. -/
  | unbuilt
  /-- A request cannot name the address. -/
  | unwritable (address : Address)

def Obstacle.reason : Obstacle → String
  | unbuilt => "builder error"
  | unwritable a => s!"builder error for url ({a.text})"

/-- Where a message goes. -/
def Message.address (m : Message) : Except Obstacle Address :=
  match Address.of? m.url with
  | none => .error .unbuilt
  | some a =>
    if ¬ isHeaderValue m.authorization then .error .unbuilt
    else if ¬ a.IsWritable then .error (.unwritable a)
    else .ok a

/-- The url names an address that a request can name, and the token is a header value. -/
def CanSend (m : Message) : Prop :=
  ∃ a, Address.of? m.url = some a ∧ isHeaderValue m.authorization ∧ a.IsWritable

theorem canSend_iff (m : Message) : CanSend m ↔ ∃ a, m.address = .ok a := by
  unfold CanSend Message.address
  cases h : Address.of? m.url with
  | none => simp
  | some a =>
    by_cases ht : isHeaderValue m.authorization <;> by_cases hw : a.IsWritable <;> simp_all

/-- A body that was cut short says so. -/
def Body.text (b : Body) : String :=
  if b.whole then Text.decodeBody b.bytes else "<body unavailable>"

def failed (label : String) (m : Message) (why : String) : Fault :=
  .refused (.unanswered s!"{label} {m.method.name} {m.url} failed: {why}")

def unsent (a : Address) : String :=
  s!"error sending request for url ({a.text})"

/-- Sends a request and gives the body of a successful answer. -/
def send (label : String) (r : Request) : Exchanging Body := do
  let m := Message.of r
  ExceptT.lift (Program.say ⟨.debug, "sending request",
    [("service", label), ("method", m.method.name), ("url", m.url)]⟩)
  let address ← (m.address.mapError fun o => failed label m o.reason : Except Fault Address)
  match ← ExceptT.lift (Program.question m) with
  | .unreachable | .dropped => throw (failed label m (unsent address))
  | .answer status body =>
    if isSuccess status then pure body
    else
      let r := refusal status body.text
      ExceptT.lift (Program.say ⟨.debug, "request rejected",
        [("service", label), ("status", toString status), ("code", r.code.getD "-")]⟩)
      throw (.refused r)

def isSpace (b : UInt8) : Bool :=
  Json.isGap b || b == 0x0C

/-- The value that a body holds; an empty one holds null. -/
def Body.value (label url : String) (b : Body) : Except Fault Json :=
  if ¬ b.whole then
    .error (.refused (.unanswered
      s!"failed to read {label} response body: error decoding response body for url ({url})"))
  else if b.bytes.all isSpace then .ok .null
  else (Json.read b.bytes).mapError fun d =>
    .internal s!"failed to parse {label} response body: {d.message}"

/-- Sends a request and reads the answer. -/
def sendForJson (label : String) (r : Request) : Exchanging Json := do
  let body ← send label r
  body.value label (Address.shown r.url)

end Tenancy.Http
