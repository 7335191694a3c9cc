import Tenancy.Directory.Granting
import Tenancy.Directory.Lifecycle
import Tenancy.Directory.Lookup
import Tenancy.Report

/-!
# Commands

What the program can be told to do, and the action that does it and gives the text to print.
-/

namespace Tenancy

inductive Command where
  | findUser (username : String)
  | organizationUsers (target : OrganizationId) (role : String)
  | spaceUsers (target : SpaceId) (role : String)
  | createUser (username password : String)
  | deleteUser (user : UserId)
  | setOrganizationRole (user : UserId) (target : OrganizationId) (role : String)
  | unsetOrganizationRole (user : UserId) (target : OrganizationId) (role : String)
  | setSpaceRole (user : UserId) (target : SpaceId) (owner : OrganizationId) (role : String)
  | unsetSpaceRole (user : UserId) (target : SpaceId) (role : String)

namespace Command

def name : Command → String
  | findUser _ => "find-user"
  | organizationUsers .. => "org-users"
  | spaceUsers .. => "space-users"
  | createUser .. => "create-user"
  | deleteUser _ => "delete-user"
  | setOrganizationRole .. => "set-org-role"
  | unsetOrganizationRole .. => "unset-org-role"
  | setSpaceRole .. => "set-space-role"
  | unsetSpaceRole .. => "unset-space-role"

def arguments : Command → List String
  | findUser username => [username]
  | organizationUsers target role => [target.text, role]
  | spaceUsers target role => [target.text, role]
  | createUser username password => [username, password]
  | deleteUser user => [user.text]
  | setOrganizationRole user target role => [user.text, target.text, role]
  | unsetOrganizationRole user target role => [user.text, target.text, role]
  | setSpaceRole user target owner role => [user.text, target.text, owner.text, role]
  | unsetSpaceRole user target role => [user.text, target.text, role]

open Directory in
/-- Carries a command out and gives the text to print. -/
def action (s : Session) : Command → Action String
  | findUser username => do
    let r ← find s username
    pure (Report.users [r])
  | organizationUsers target role => Report.users <$> organizationHoldersByName s target role
  | spaceUsers target role => Report.users <$> spaceHoldersByName s target role
  | createUser username password => do
    let id ← create s username password
    pure (Report.lines [id.text])
  | deleteUser user => do
    delete s user
    pure ""
  | setOrganizationRole user target role => do
    grantOrganizationRoleByName s user target role
    pure ""
  | unsetOrganizationRole user target role => do
    revokeOrganizationRoleByName s user target role
    pure ""
  | setSpaceRole user target owner role => do
    grantSpaceRoleByName s user target owner role
    pure ""
  | unsetSpaceRole user target role => do
    revokeSpaceRoleByName s user target role
    pure ""

end Command

end Tenancy
