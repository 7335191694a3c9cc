/-!
# Notes

What an operation reports while it runs: a message with named texts.
-/

namespace Tenancy

inductive Level where
  | debug
  | info
  | warn
deriving DecidableEq, Repr

def Level.name : Level → String
  | debug => "DEBUG"
  | info => "INFO"
  | warn => "WARN"

structure Note where
  level : Level
  message : String
  fields : List (String × String)
deriving DecidableEq, Repr

end Tenancy
