/-!
# Tokens

A token goes with every request, behind the name of its scheme, and has to be a header value.
-/

namespace Tenancy.Http

/-- The characters of a header value are printing ones, blanks and tabs. -/
def isHeaderChar (c : Char) : Bool :=
  (0x20 ≤ c.toNat && c.toNat ≠ 0x7F) || c == '\t'

def isHeaderValue (s : String) : Bool :=
  s.toList.all isHeaderChar

def scheme : String := "Bearer "

/-- Whether a token names its scheme already, in any mixture of cases. -/
def HasScheme (token : String) : Prop :=
  (token.toList.take scheme.toList.length).map Char.toLower = scheme.toList.map Char.toLower

instance (token : String) : Decidable (HasScheme token) :=
  inferInstanceAs (Decidable (_ = _))

/-- The token with its scheme. -/
def bearer (token : String) : String :=
  if HasScheme token then token else scheme ++ token

end Tenancy.Http
