import Tenancy.Text.Character.Folding
import Tenancy.Text.Composed

/-!
# Folded texts

The form in which names are told apart: every character replaced by what it stands for, and the
whole composed.
-/

namespace Tenancy.Text

/-- The folded form, if every character may be in a name. -/
def fold? (cs : List Char) : Option (List Char) :=
  (cs.mapM folded?).map fun parts => composed parts.flatten

end Tenancy.Text
