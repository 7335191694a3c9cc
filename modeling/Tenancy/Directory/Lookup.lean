import Tenancy.Directory.Action
import Tenancy.Directory.Document
import Tenancy.Filter
import Tenancy.Role

/-!
# Looking users up

One user by username, or all holders of a role. The platform lists the holders' ids, then one query
to the identity service gives the usernames.
-/

namespace Tenancy.Directory

/-- Queries the identity service and joins its accounts with members known already. -/
def records (s : Session) (members : List Member) (url : String) : Action (List Record) := do
  let document ← Action.get .identity url s.token
  let accounts ← Account.listOfJson document
  pure (Record.join members accounts)

/-- The user of a username. Whether it is an administrator is not asked. -/
def find (s : Session) (username : String) : Action Record := do
  let name ← Phrase.of? username
  let endpoint ← Action.endpoint
  let found ← records s [] ((Filter.username name.text).url endpoint)
  match found with
  | r :: _ => pure r
  | [] => throw (.absent s!"user {name.text} not found")

/-- The users listed in a role's collection. -/
def holders (s : Session) (path : String) : Action (List Record) := do
  let members ← Action.list .platform s.endpoint s.token path Member.ofJson
  if members.isEmpty then
    Action.say ⟨.debug, "role collection has no members", [("path", path)]⟩
    return []
  let endpoint ← Action.endpoint
  let url := (Filter.ofIds (members.map (·.id))).url endpoint
  Action.say ⟨.debug, "resolving usernames for role members",
    [("path", path), ("member_count", toString members.length)]⟩
  records s members url

def organizationHolders (s : Session) (target : OrganizationId) (role : OrganizationRole) :
    Action (List Record) :=
  holders s (Scope.organization.collection target.text role.segment)

def spaceHolders (s : Session) (target : SpaceId) (role : SpaceRole) : Action (List Record) :=
  holders s (Scope.space.collection target.text role.segment)

/-- The holders of a role given by its name in a scope. -/
def namedHolders (s : Session) (scope : Scope) (id role : String) : Action (List Record) := do
  let segment ← scope.roleSegment role
  holders s (scope.collection id segment)

def organizationHoldersByName (s : Session) (target : OrganizationId) (role : String) :
    Action (List Record) :=
  namedHolders s .organization target.text role

def spaceHoldersByName (s : Session) (target : SpaceId) (role : String) : Action (List Record) :=
  namedHolders s .space target.text role

end Tenancy.Directory
