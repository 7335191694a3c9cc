import Tenancy.Note

/-!
# Scripted routes

A scripted side answers from a list of routes. The first route that fits a call and has uses left is
taken, and taking it uses it up once.
-/

namespace Tenancy.Script

/-- What is left out fits every call, and a route without a number of uses never runs out. -/
structure Route (β : Type) where
  service : Option String
  method : Option String
  url : Option String
  uses : Option Nat
  reply : β

namespace Route

variable {β : Type}

def Fits (service method url : String) (r : Route β) : Prop :=
  r.uses ≠ some 0 ∧ r.service.getD service = service ∧ r.method.getD method = method ∧
    r.url.getD url = url

instance (service method url : String) (r : Route β) : Decidable (r.Fits service method url) :=
  inferInstanceAs (Decidable (_ ∧ _ ∧ _ ∧ _))

def used (r : Route β) : Route β :=
  { r with uses := r.uses.map (· - 1) }

/-- The reply of the route taken, and the routes afterwards. -/
def take (service method url : String) : List (Route β) → Option β × List (Route β)
  | [] => (none, [])
  | r :: rest =>
    if r.Fits service method url then (some r.reply, r.used :: rest)
    else ((take service method url rest).1, r :: (take service method url rest).2)

@[simp] theorem length_take (service method url : String) (routes : List (Route β)) :
    (take service method url routes).2.length = routes.length := by
  induction routes with
  | nil => rfl
  | cons r rest ih => simp only [take]; split <;> simp [ih]

end Route

/-- A scripted side with what it has received and what has been noted, the last ones first. -/
structure Stage (β κ : Type) where
  routes : List (Route β)
  calls : List κ
  notes : List Note

namespace Stage

variable {β κ : Type}

def log (n : Note) : StateM (Stage β κ) Unit :=
  modify fun s => { s with notes := n :: s.notes }

/-- Writes a call down and takes its route. -/
def receive (service method url : String) (call : κ) : StateM (Stage β κ) (Option β) :=
  modifyGet fun s =>
    let (reply, routes) := Route.take service method url s.routes
    (reply, { s with routes, calls := call :: s.calls })

/-- The stage before anything is received. -/
def cleared (s : Stage β κ) : Stage β κ :=
  { s with calls := [], notes := [] }

end Stage

end Tenancy.Script
