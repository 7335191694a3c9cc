import Tenancy.CommandLine.Command

/-!
# Usage

How a command is read from the words of a command line. Words are read from the left; one that
starts with a dash is an option until two dashes alone end the options. A value is checked when the
word behind it is taken.
-/

namespace Tenancy

/-- Why words are no command. -/
inductive Usage where
  | commandMissing
  | commandUnknown
  | argumentMissing
  | argumentUnknown
  | valueInvalid
  | valueSuperfluous
  | help
  | version
deriving DecidableEq, Repr

namespace Usage

def name : Usage → String
  | commandMissing => "DisplayHelpOnMissingArgumentOrSubcommand"
  | commandUnknown => "InvalidSubcommand"
  | argumentMissing => "MissingRequiredArgument"
  | argumentUnknown => "UnknownArgument"
  | valueInvalid => "ValueValidation"
  | valueSuperfluous => "TooManyValues"
  | help => "DisplayHelp"
  | version => "DisplayVersion"

/-- Whether words asked for what the program says of itself. -/
def isRequest (u : Usage) : Bool :=
  u = help || u = version

end Usage

inductive Parameter where
  | text (label : String)
  | identifier (kind : Identifier.Kind)
deriving DecidableEq, Repr

def Parameter.accepts (s : String) : Parameter → Bool
  | text _ => true
  | identifier kind => (Identifier.check kind s).toOption.isSome

/-- How a command is called, what it is for and how its values make it. -/
structure Usage.Form where
  name : String
  purpose : String
  parameters : List Parameter
  command? : List String → Option Command

namespace CommandLine

open Parameter in
def forms : List Usage.Form :=
  let user := identifier .user
  let organization := identifier .organization
  let space := identifier .space
  let userId (s : String) := (Identifier.check .user s).toOption
  let organizationId (s : String) := (Identifier.check .organization s).toOption
  let spaceId (s : String) := (Identifier.check .space s).toOption
  [{ name := "find-user", purpose := "Look up a user by username"
     parameters := [text "USERNAME"]
     command? := fun | [username] => some (.findUser username) | _ => none },
   { name := "org-users", purpose := "List the users holding an organization role"
     parameters := [organization, text "ROLE"]
     command? := fun
       | [target, role] => do pure (.organizationUsers (← organizationId target) role)
       | _ => none },
   { name := "space-users", purpose := "List the users holding a space role"
     parameters := [space, text "ROLE"]
     command? := fun
       | [target, role] => do pure (.spaceUsers (← spaceId target) role)
       | _ => none },
   { name := "create-user"
     purpose := "Create an identity account and register it on the platform"
     parameters := [text "USERNAME", text "PASSWORD"]
     command? := fun | [username, password] => some (.createUser username password) | _ => none },
   { name := "delete-user"
     purpose := "Delete a user from the platform and the identity service"
     parameters := [user]
     command? := fun | [u] => do pure (.deleteUser (← userId u)) | _ => none },
   { name := "set-org-role", purpose := "Grant an organization role"
     parameters := [user, organization, text "ROLE"]
     command? := fun
       | [u, target, role] => do
         pure (.setOrganizationRole (← userId u) (← organizationId target) role)
       | _ => none },
   { name := "unset-org-role", purpose := "Revoke an organization role"
     parameters := [user, organization, text "ROLE"]
     command? := fun
       | [u, target, role] => do
         pure (.unsetOrganizationRole (← userId u) (← organizationId target) role)
       | _ => none },
   { name := "set-space-role"
     purpose := "Grant a space role, adding organization membership first"
     parameters := [user, space, organization, text "ROLE"]
     command? := fun
       | [u, target, owner, role] => do
         pure (.setSpaceRole (← userId u) (← spaceId target) (← organizationId owner) role)
       | _ => none },
   { name := "unset-space-role", purpose := "Revoke a space role"
     parameters := [user, space, text "ROLE"]
     command? := fun
       | [u, target, role] => do pure (.unsetSpaceRole (← userId u) (← spaceId target) role)
       | _ => none }]

def form? (name : String) : Option Usage.Form :=
  forms.find? (·.name = name)

def helpCommand : String := "help"

inductive Word where
  | optionsEnd
  | long (name : String) (hasValue : Bool)
  | short (flag : Char)
  | value

def Word.of (s : String) : Word :=
  match s.toList with
  | ['-', '-'] => optionsEnd
  | '-' :: '-' :: rest => long (.ofList (rest.takeWhile (· ≠ '='))) (rest.contains '=')
  | '-' :: flag :: _ => short flag
  | _ => value

/-- Checks a value whose parameter is known. -/
def checkValue : Option (Parameter × String) → Except Usage Unit
  | some (p, s) => if p.accepts s then .ok () else .error .valueInvalid
  | none => .ok ()

/-- Reads the values behind a command; `last` is the one not checked yet. -/
def readValues (parameters : List Parameter) (last : Option (Parameter × String))
    (optionsOver : Bool) (values : List String) : List String → Except Usage (List String)
  | [] => do
    checkValue last
    if parameters.isEmpty then pure values else throw .argumentMissing
  | s :: rest =>
    match optionsOver, Word.of s with
    | false, .optionsEnd => readValues parameters last true values rest
    | false, .long "help" false | false, .short 'h' => do
      checkValue last
      throw .help
    | false, .long "help" true => .error .valueSuperfluous
    | false, .long .. | false, .short _ => .error .argumentUnknown
    | _, _ =>
      match parameters with
      | [] => .error .argumentUnknown
      | p :: parameters => do
        checkValue last
        readValues parameters (some (p, s)) optionsOver (values ++ [s]) rest

/-- Reads the words behind the command that asks for help. -/
def readHelp : List String → Usage
  | [] => .help
  | [name] => if name = helpCommand ∨ (form? name).isSome then .help else .commandUnknown
  | _ => .commandUnknown

def parse (words : List String) : Except Usage Command :=
  match words with
  | [] => .error .commandMissing
  | s :: rest =>
    match Word.of s with
    | .optionsEnd =>
      match rest with
      | [] => .error .commandMissing
      | name :: _ =>
        .error (if name = helpCommand ∨ (form? name).isSome then .argumentUnknown
          else .commandUnknown)
    | .long "help" false | .short 'h' => .error .help
    | .long "version" false | .short 'V' => .error .version
    | .long "help" true | .long "version" true => .error .valueSuperfluous
    | .long .. | .short _ => .error .argumentUnknown
    | .value =>
      if s = helpCommand then .error (readHelp rest)
      else
        match form? s with
        | none => .error .commandUnknown
        | some form => do
          let values ← readValues form.parameters none false [] rest
          match form.command? values with
          | some c => pure c
          | none => throw .valueInvalid

def programName : String := "roster"

def versionText : String := programName ++ " 0.1.0\n"

def column (width : Nat) (s : String) : String :=
  s.pushn ' ' (width - s.length)

def helpText : String :=
  let about := "Manage platform users and their organization and space roles"
  let helpPurpose := "Print this message or the help of the given subcommand(s)"
  let purposes := forms.map (fun f => (f.name, f.purpose)) ++ [(helpCommand, helpPurpose)]
  Report.lines ([about, "", s!"Usage: {programName} <COMMAND>", "", "Commands:"] ++
    purposes.map (fun p => "  " ++ column 18 p.1 ++ p.2) ++
    ["", "Options:", "  -h, --help     Print help", "  -V, --version  Print version"])

end CommandLine

end Tenancy
