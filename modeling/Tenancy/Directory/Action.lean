import Tenancy.Endpoint

/-!
# Actions

An action calls the two services and asks for the address of the identity service when it needs it.
It ends at the first fault that it does not handle.
-/

namespace Tenancy.Directory

inductive Question where
  | call (c : Call)
  | endpoint

@[reducible] def Question.Reply : Question → Type
  | call c => c.Reply
  | endpoint => Except Fault String

abbrev Action (α : Type) := ExceptT Fault (Program Question Question.Reply) α

namespace Action

def say (n : Note) : Action Unit :=
  ExceptT.lift (Program.say n)

def endpoint : Action String :=
  ExceptT.mk (Program.question (ρ := Question.Reply) .endpoint)

def ofCalling (c : Calling α) : Action α :=
  ExceptT.mk (c.run.through fun q => Program.question (ρ := Question.Reply) (.call q))

def get (service : Service) (url token : String) : Action Json :=
  ofCalling (.get service url token)

def perform (service : Service) (method : Method) (url token : String) (body : Option Json) :
    Action Unit :=
  ofCalling (.perform service method url token body)

def performJson (service : Service) (method : Method) (url token : String) (body : Option Json) :
    Action Json :=
  ofCalling (.performJson service method url token body)

def list (service : Service) (base token path : String) (entry : Json → Except Fault α) :
    Action (List α) :=
  ofCalling (.list service base token path entry)

/-- The outcome, faults included. -/
def outcome (a : Action α) : Action (Except Fault α) :=
  ExceptT.lift a.run

/-- Notes a fault and fails with it. -/
def noting (a : Action α) (n : Fault → Note) : Action α := do
  match ← a.outcome with
  | .ok x => pure x
  | .error f =>
    say (n f)
    throw f

/-- The calls of an action once it is known how the address is found. -/
def calling (s : Session) (source : Endpoint.Source) (a : Action α) : Calling α :=
  ExceptT.mk (a.run.through fun
    | .call c => Program.question c
    | .endpoint => (source.resolve s).run)

end Action

end Tenancy.Directory
