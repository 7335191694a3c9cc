import Tenancy.Gateway
import Tenancy.Json.Record
import Tenancy.Session

/-!
# The address of the identity service

It is configured, or else the platform's information document names it. Either way the text is
cleaned and must not be empty.
-/

namespace Tenancy.Endpoint

def configured? (s : String) : Except Fault String :=
  let address := Text.baseAddress s
  if address = "" then .error (.invalid "identity endpoint must not be empty") else .ok address

def infoShape : Json.Shape (Option (Option String)) (Option String) where
  title := "PlatformInfo"
  fields := [.single "token_endpoint" [] true (Json.asOption Json.asString)]
  empty := none
  finish := fun advertised => .ok (advertised.getD none)

/-- The address that an information document names. -/
def ofInfo (document : Json) : Except Fault String := do
  let advertised ← (infoShape.decode document).mapError fun m =>
    .internal s!"failed to decode platform info document: {m.message}"
  let address := Text.baseAddress (advertised.getD "")
  if address = "" then
    throw (.internal "platform info document does not advertise a token endpoint")
  pure address

def infoUrl (s : Session) : String :=
  s.endpoint ++ "/v2/info"

def discover (s : Session) : Calling String := do
  let document ← Calling.get .platform (infoUrl s) s.token
  let address ← ofInfo document
  Calling.say ⟨.debug, "discovered identity endpoint", [("identity_endpoint", address)]⟩
  pure address

/-- How the address is found: the answer is there already, or the platform is asked. -/
inductive Source where
  | fixed (answer : Except Fault String)
  | discovered

def Source.resolve (s : Session) : Source → Calling String
  | fixed answer => answer
  | discovered => discover s

end Tenancy.Endpoint
