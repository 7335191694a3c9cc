import Tenancy.Http.Paging
import Tenancy.Script.Route

/-!
# A scripted server

One server that stands in for every host, or for none. Without a route it knows nothing.
-/

namespace Tenancy.Script

inductive Conduct where
  | whole
  | close
  | truncate
deriving DecidableEq

structure Response where
  status : Nat
  bytes : List UInt8
  conduct : Conduct

def Response.unknown : Response := ⟨404, [], .whole⟩

def Response.reply (r : Response) : Http.Reply :=
  match r.conduct with
  | .whole => .answer r.status ⟨r.bytes, true⟩
  | .close => .dropped
  | .truncate => .answer r.status ⟨r.bytes, false⟩

/-- Header values arrive without the blanks around them. -/
def headerText (s : String) : String :=
  let isGap (c : Char) : Bool := c == ' ' || c == '\t'
  .ofList (Text.dropEnd isGap (s.toList.dropWhile isGap))

def isPlainHttp (url : String) : Bool :=
  "http://".toList.isPrefixOf url.toList

/-- Answers a message if the server listens and the address is one of its own. -/
def serve (listening : Bool) (m : Http.Message) : StateM (Stage Response Http.Message) Http.Reply :=
  if listening && isPlainHttp m.url then do
    let call := { m with authorization := headerText m.authorization }
    let r ← Stage.receive "" m.method.name m.url call
    pure (r.getD .unknown).reply
  else pure .unreachable

/-- Plays a program of exchanges. -/
def playHttp (listening : Bool) (p : Program Http.Message (fun _ => Http.Reply) α) :
    StateM (Stage Response Http.Message) α :=
  p.runIn Stage.log (serve listening)

end Tenancy.Script
