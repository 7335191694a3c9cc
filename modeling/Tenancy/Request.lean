import Tenancy.Fault
import Tenancy.Json.Printer

/-!
# Requests

What is asked of a service: a method, an absolute address, the token it is asked with and perhaps a
body.
-/

namespace Tenancy

inductive Method where
  | get
  | post
  | put
  | delete
deriving DecidableEq, Repr

namespace Method

def name : Method → String
  | get => "GET"
  | post => "POST"
  | put => "PUT"
  | delete => "DELETE"

def shown : Method → String
  | get => "Get"
  | post => "Post"
  | put => "Put"
  | delete => "Delete"

end Method

/-- An address with its scheme in front. -/
def IsAbsolute (url : String) : Prop :=
  "http://".toList <+: url.toList ∨ "https://".toList <+: url.toList

instance (url : String) : Decidable (IsAbsolute url) :=
  inferInstanceAs (Decidable ("http://".toList <+: url.toList ∨ "https://".toList <+: url.toList))

structure Request where
  method : Method
  url : String
  token : String
  body : Option Json
  absolute : IsAbsolute url

namespace Request

def of? (method : Method) (url token : String) (body : Option Json) : Except Fault Request :=
  if h : IsAbsolute url then .ok ⟨method, url, token, body, h⟩
  else .error (.invalid s!"request url '{url}' must be absolute")

/-- The token is never shown. -/
def shown (r : Request) : String :=
  let method := r.method.shown
  let url := Text.quoted r.url
  let token := Text.quoted "<redacted>"
  let body := Text.quotedOption Json.shown r.body
  "GatewayRequest \x7b " ++
    s!"method: {method}, url: {url}, access_token: {token}, body: {body}" ++ " \x7d"

end Request

end Tenancy
