import Tenancy.Fault
import Tenancy.Text.Blank

/-!
# Identifiers

What names a user, an organization or a space: a trimmed text that is not empty and holds no slash,
so it is one segment of a path.
-/

namespace Tenancy

namespace Identifier

inductive Kind where
  | user
  | organization
  | space
deriving DecidableEq, Repr

def Kind.label : Kind → String
  | user => "user id"
  | organization => "organization id"
  | space => "space id"

end Identifier

structure Identifier (kind : Identifier.Kind) where
  text : String
  trim_text : Text.trim text = text
  text_ne : text ≠ ""
  slash_notMem : '/' ∉ text.toList

abbrev UserId := Identifier .user

abbrev OrganizationId := Identifier .organization

abbrev SpaceId := Identifier .space

namespace Identifier

variable {kind : Kind}

@[ext] theorem ext {a b : Identifier kind} (h : a.text = b.text) : a = b := by
  cases a; cases b; cases h; rfl

instance : DecidableEq (Identifier kind) := fun a b =>
  if h : a.text = b.text then isTrue (ext h) else isFalse fun e => h (e ▸ rfl)

instance : ToString (Identifier kind) := ⟨text⟩

/-- What keeps a text from being an identifier. -/
inductive Defect where
  | empty
  | slash
deriving DecidableEq, Repr

def Defect.message (kind : Kind) (s : String) : Defect → String
  | empty => s!"{kind.label} must not be empty"
  | slash => s!"{kind.label} '{Text.trim s}' must not contain '/'"

def check (kind : Kind) (s : String) : Except Defect (Identifier kind) :=
  let t := Text.trim s
  if he : t = "" then .error .empty
  else if hs : '/' ∈ t.toList then .error .slash
  else .ok ⟨t, Text.trim_trim s, he, hs⟩

def of? (kind : Kind) (s : String) : Except Fault (Identifier kind) :=
  (check kind s).mapError fun d => .invalid (d.message kind s)

theorem check_text (a : Identifier kind) : check kind a.text = .ok a := by
  have h1 := a.trim_text
  simp [check, h1, a.text_ne, a.slash_notMem]

theorem text_of_check {s : String} {a : Identifier kind} (h : check kind s = .ok a) :
    a.text = Text.trim s := by
  unfold check at h
  dsimp only at h
  split at h
  · simp at h
  · split at h
    · simp at h
    · simp only [Except.ok.injEq] at h; rw [← h]

/-- The order of identifiers is that of their characters. -/
def sort (ids : List (Identifier kind)) : List (Identifier kind) :=
  ids.mergeSort fun a b => decide (a.text ≤ b.text)

end Identifier

end Tenancy
