import Tenancy.Program
import Tenancy.Request

/-!
# Calls on services

The four things a service is called for: to list a collection, to get a document, and to perform a
request with or without looking at the answer. A listing hands its values to a visitor, which may
end it.
-/

namespace Tenancy

inductive Service where
  | platform
  | identity
deriving DecidableEq, Repr

def Service.name : Service → String
  | platform => "platform"
  | identity => "identity"

/-- Says of a value, given those visited before it, whether to go on. -/
abbrev Visitor := List Json → Json → Except Fault Bool

namespace Visitor

/-- Visits values in order, `seen` being those visited before. Gives all values visited and, if the
visitor ended the visit, how. -/
def walk (visit : Visitor) (seen : List Json) : List Json → List Json × Option (Except Fault Unit)
  | [] => (seen, none)
  | v :: rest =>
    match visit seen v with
    | .ok true => walk visit (seen ++ [v]) rest
    | .ok false => (seen ++ [v], some (.ok ()))
    | .error f => (seen ++ [v], some (.error f))

@[simp] theorem walk_nil (visit : Visitor) (seen : List Json) :
    visit.walk seen [] = (seen, none) := rfl

theorem walk_append (visit : Visitor) (seen xs ys : List Json) :
    visit.walk seen (xs ++ ys) =
      match visit.walk seen xs with
      | (seen', none) => visit.walk seen' ys
      | ended => ended := by
  induction xs generalizing seen with
  | nil => rfl
  | cons v rest ih =>
    simp only [List.cons_append, walk]
    cases h : visit seen v with
    | error f => rfl
    | ok more =>
      cases more with
      | false => rfl
      | true => exact ih _

end Visitor

/-- The values a listing visited and how it ended. -/
structure Listing where
  visited : List Json
  ending : Except Fault Unit

/-- Visits values that are all there; what ends the visit otherwise is given. -/
def Listing.of (visit : Visitor) (values : List Json) (ending : Except Fault Unit) : Listing :=
  let (seen, early) := visit.walk [] values
  ⟨seen, early.getD ending⟩

inductive Query where
  | list (base token path : String) (visit : Visitor)
  | get (url token : String)
  | perform (r : Request)
  | performJson (r : Request)

@[reducible] def Query.Reply : Query → Type
  | list .. => Listing
  | get .. => Except Fault Json
  | perform _ => Except Fault Unit
  | performJson _ => Except Fault Json

structure Call where
  service : Service
  query : Query

@[reducible] def Call.Reply (c : Call) : Type :=
  c.query.Reply

/-- A run that calls services and may fail. -/
abbrev Calling (α : Type) := ExceptT Fault (Program Call Call.Reply) α

namespace Calling

def call (service : Service) (q : Query) : Program Call Call.Reply q.Reply :=
  Program.question (ρ := Call.Reply) ⟨service, q⟩

def say (n : Note) : Calling Unit :=
  ExceptT.lift (Program.say n)

def get (service : Service) (url token : String) : Calling Json :=
  ExceptT.mk (call service (.get url token))

def perform (service : Service) (method : Method) (url token : String) (body : Option Json) :
    Calling Unit := do
  let r ← Request.of? method url token body
  ExceptT.mk (call service (.perform r))

def performJson (service : Service) (method : Method) (url token : String) (body : Option Json) :
    Calling Json := do
  let r ← Request.of? method url token body
  ExceptT.mk (call service (.performJson r))

/-- Takes an entry from each value that is visited; the visitor fails at one that has none. -/
def list (service : Service) (base token path : String) (entry : Json → Except Fault α) :
    Calling (List α) := do
  let visit : Visitor := fun _ v => (entry v).map fun _ => true
  let listing ← ExceptT.lift (call service (.list base token path visit))
  listing.ending
  pure (listing.visited.filterMap fun v => (entry v).toOption)

end Calling

end Tenancy
