import Tenancy.Gateway
import Tenancy.Script.Route

/-!
# Scripted services

Both services played from one list of routes: a reply is a fault, pages of values or one document.
-/

namespace Tenancy.Script

structure Answer where
  fault : Option Fault
  pages : List (List Json)
  document : Option Json

/-- A call as it is written down. -/
structure Received where
  service : String
  method : String
  url : String
  token : String
  body : Option Json

def listMethod : String := "LIST"

def Received.of (c : Call) : Received :=
  match c.query with
  | .list base token path _ => ⟨c.service.name, listMethod, base ++ path, token, none⟩
  | .get url token => ⟨c.service.name, Method.get.name, url, token, none⟩
  | .perform r | .performJson r => ⟨c.service.name, r.method.name, r.url, r.token, r.body⟩

/-- What a route's answer is to a query; some queries are answered without a route. -/
def Answer.to (a : Option Answer) : (q : Query) → q.Reply
  | .list _ _ _ visit =>
    match a >>= (·.fault) with
    | some f => ⟨[], .error f⟩
    | none => .of visit (a.elim [] (·.pages.flatten)) (.ok ())
  | .get url _ =>
    match a >>= (·.fault), a >>= (·.document) with
    | some f, _ => .error f
    | none, some v => .ok v
    | none, none => .error (.refused (.answered 404 none s!"no document at {url}"))
  | .perform _ =>
    match a >>= (·.fault) with
    | some f => .error f
    | none => .ok ()
  | .performJson r =>
    match a >>= (·.fault), a >>= (·.document) with
    | some f, _ => .error f
    | none, some v => .ok v
    | none, none => .error (.internal s!"no json response at {r.url}")

def answer (c : Call) : StateM (Stage Answer Received) c.Reply := do
  let r := Received.of c
  let a ← Stage.receive r.service r.method r.url r
  pure (Answer.to a c.query)

/-- Plays a run. -/
def play (c : Calling α) : StateM (Stage Answer Received) (Except Fault α) :=
  c.run.runIn Stage.log answer

end Tenancy.Script
