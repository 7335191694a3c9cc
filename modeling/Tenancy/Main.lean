import Tenancy.CommandLine.Run

/-!
# The program

Reads the environment and a settings file, carries the command out and prints. No network is linked
in, so every host is unreachable.
-/

namespace Tenancy.CommandLine

def settingsFile : String := ".env"

/-- More pages than any collection has. -/
def pageLimit : Nat := 0x100000000

def readEnvironment : IO Environment := do
  let names := [Settings.endpointName, Settings.tokenName, Settings.identityName,
    Settings.timeoutName]
  let env ← names.filterMapM fun name => do
    let value ← IO.getEnv name
    pure (value.map fun v => (name, v))
  let file ← try IO.FS.readFile settingsFile catch _ => pure ""
  pure (env ++ Settings.ofLines file)

def logNote (n : Note) : IO Unit :=
  match n.level with
  | .debug => pure ()
  | level =>
    let fields := n.fields.map fun f => f.1 ++ "=" ++ f.2
    IO.eprintln (" ".intercalate (level.name :: n.message :: fields))

end Tenancy.CommandLine

open Tenancy CommandLine in
def main (words : List String) : IO UInt32 := do
  let env ← readEnvironment
  let outcome ← (run pageLimit env words).runIn logNote fun _ => pure .unreachable
  match outcome with
  | none => return 1
  | some o =>
    IO.print o.output
    if let some f := o.fault then IO.eprintln (errorLine f)
    if let some u := o.usage then
      if ¬ u.isRequest then
        IO.eprintln s!"error: {u.name}"
        IO.eprint helpText
    return o.exit.toUInt32
