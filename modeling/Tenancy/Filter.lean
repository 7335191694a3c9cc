import Tenancy.Identifier
import Tenancy.Text.FormEncoding

/-!
# Filters

What the identity service is asked for: accounts of one username, or of any of some ids. Values
stand in quotes, with quotes and backslashes in them escaped.
-/

namespace Tenancy

structure Filter where
  text : String
deriving DecidableEq, Repr

namespace Filter

def escapeChar : Char → List Char
  | '\\' => ['\\', '\\']
  | '"' => ['\\', '"']
  | c => [c]

def quoted (s : String) : String :=
  .ofList ('"' :: s.toList.flatMap escapeChar ++ ['"'])

def username (name : String) : Filter :=
  ⟨"userName Eq " ++ quoted name⟩

def none : Filter := ⟨""⟩

def IsNone (f : Filter) : Prop := f.text = ""

instance (f : Filter) : Decidable f.IsNone := inferInstanceAs (Decidable (f.text = ""))

def clause (id : UserId) : String :=
  "Id eq " ++ quoted id.text

def add (f : Filter) (id : UserId) : Filter :=
  ⟨if f.IsNone then clause id else f.text ++ " or " ++ clause id⟩

def ofIds (ids : List UserId) : Filter :=
  ids.foldl add none

def encoded (f : Filter) : String :=
  Text.FormEncoding.encode f.text

def query : String := "/Users?attributes=id,userName&filter="

/-- Where the accounts are found under the address of the identity service. -/
def url (f : Filter) (endpoint : String) : String :=
  endpoint ++ query ++ f.encoded

end Filter

end Tenancy
