import Tenancy.Address.Escape
import Tenancy.Text.Cut

/-!
# Logins

The name and the password that may stand in front of a host.
-/

namespace Tenancy.Address

structure Login where
  name : List Char
  password : Option (List Char)

namespace Login

def escape : List Char → List Char :=
  Address.escape
    ['"', '#', '/', ':', ';', '<', '=', '>', '?', '@', '[', '\\', ']', '^', '\x60', '\x7b', '|',
      '\x7d']

/-- Reads what stands in front of the last at sign. An empty password is none. -/
def read (cs : List Char) : Login :=
  let (name, password) := Text.cutFirst ':' cs
  ⟨escape name, (password.filter (· ≠ [])).map escape⟩

def IsEmpty (l : Login) : Prop :=
  l.name = [] ∧ l.password = none

instance (l : Login) : Decidable l.IsEmpty :=
  inferInstanceAs (Decidable (_ ∧ _))

/-- Whether the login can be read, so that it is taken out of the address: the name has to be a
text, and if it is empty, the password too. -/
def IsReadable (l : Login) : Prop :=
  match unescape? l.name with
  | none => False
  | some name => name ≠ [] ∨ l.password.any fun p => (unescape? p).isSome

instance (l : Login) : Decidable l.IsReadable := by
  unfold IsReadable; split <;> infer_instance

def text (l : Login) : List Char :=
  l.name ++ l.password.elim [] (':' :: ·) ++ ['@']

end Login

end Tenancy.Address
