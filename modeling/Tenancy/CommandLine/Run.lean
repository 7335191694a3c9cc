import Tenancy.CommandLine.Usage
import Tenancy.Http.Paging
import Tenancy.Settings

/-!
# Runs of the program

From the words and the environment to the text printed and the exit status.
-/

namespace Tenancy.CommandLine

structure Outcome where
  exit : Nat
  output : String
  fault : Option Fault
  usage : Option Usage

def Outcome.ofUsage (u : Usage) : Outcome where
  exit := if u.isRequest then 0 else 2
  output := match u with
    | .help => helpText
    | .version => versionText
    | _ => ""
  fault := none
  usage := some u

def Outcome.ofResult : Except Fault String → Outcome
  | .ok output => ⟨0, output, none, none⟩
  | .error f => ⟨1, "", some f, none⟩

/-- What is said of a fault. -/
def errorLine (f : Fault) : String :=
  "Error: " ++ f.shown

def source (settings : Settings) : Except Fault Endpoint.Source :=
  match settings.identityEndpoint with
  | some address => (Endpoint.configured? address).map fun a => .fixed (.ok a)
  | none => .ok .discovered

/-- Carries out a command with the settings of the environment. -/
def perform (env : Environment) (c : Command) : Calling String := do
  let settings ← Settings.load env
  let session ← Session.open? settings.endpoint settings.token
  let source ← source settings
  Calling.say ⟨.info, "roster started",
    [("command", c.name), ("api_endpoint", session.endpoint)]⟩
  let output ← (c.action session).calling session source
  Calling.say ⟨.info, "done", []⟩
  pure output

/-- A run of the program; none where a listing of more than `limit` pages was given up. -/
def run (limit : Nat) (env : Environment) (words : List String) :
    Program Http.Message (fun _ => Http.Reply) (Option Outcome) :=
  match parse words with
  | .error u => pure (some (.ofUsage u))
  | .ok c => Option.map Outcome.ofResult <$> Http.exchanges limit (perform env c)

end Tenancy.CommandLine
