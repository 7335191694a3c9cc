import Tenancy.Gateway

/-!
# Calls and their answers

What is asked with a call apart from looks and listings, and what an answer says whichever call it
is for: a fault, or a document.
-/

namespace Tenancy

/-- The request that a call performs. -/
def Call.request? (c : Call) : Option Request :=
  match c.query with
  | .perform r | .performJson r => some r
  | .list .. | .get .. => none

def Query.fault? : (q : Query) → q.Reply → Option Fault
  | .list .., l => match l.ending with
    | .ok () => none
    | .error f => some f
  | .get .., .ok _ | .perform _, .ok _ | .performJson _, .ok _ => none
  | .get .., .error f | .perform _, .error f | .performJson _, .error f => some f

section Faults

variable {url token base path : String} {visit : Visitor} {r : Request} {f : Fault}

@[simp] theorem Query.fault?_list {l : Listing} :
    (list base token path visit).fault? l = some f ↔ l.ending = .error f := by
  rcases l with ⟨visited, _ | _⟩ <;> simp [fault?]

@[simp] theorem Query.fault?_get {reply : Except Fault Json} :
    (get url token).fault? reply = some f ↔ reply = .error f := by
  cases reply <;> simp [fault?]

@[simp] theorem Query.fault?_perform {reply : Except Fault Unit} :
    (perform r).fault? reply = some f ↔ reply = .error f := by
  cases reply <;> simp [fault?]

@[simp] theorem Query.fault?_performJson {reply : Except Fault Json} :
    (performJson r).fault? reply = some f ↔ reply = .error f := by
  cases reply <;> simp [fault?]

end Faults

/-- The fault that a call is answered with. -/
def Call.fault? (c : Call) : c.Reply → Option Fault :=
  c.query.fault?

def Query.document? : (q : Query) → q.Reply → Option Json
  | .get .., .ok v | .performJson _, .ok v => some v
  | _, _ => none

/-- The document that a call is answered with. -/
def Call.document? (c : Call) : c.Reply → Option Json :=
  c.query.document?

end Tenancy
