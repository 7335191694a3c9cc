import Tenancy.Directory.Action
import Tenancy.Role

/-!
# Granting and revoking roles

Granting a role also makes the user a member of the organization: after a role in it, before a role
in one of its spaces. Revoking a role touches nothing else.
-/

namespace Tenancy.Directory

def grantUrl (s : Session) (g : Grant) : String :=
  s.endpoint ++ g.path

def put (s : Session) (g : Grant) : Action Unit :=
  Action.perform .platform .put (grantUrl s g) s.token none

def remove (s : Session) (g : Grant) : Action Unit :=
  Action.perform .platform .delete (grantUrl s g) s.token none

def grantOrganizationRole (s : Session) (user : UserId) (target : OrganizationId)
    (role : OrganizationRole) : Action Unit := do
  put s (.organization user target role)
  put s (.membership user target)
  Action.say ⟨.info, "organization role granted",
    [("user_id", user.text), ("org_id", target.text), ("role", role.name)]⟩

def revokeOrganizationRole (s : Session) (user : UserId) (target : OrganizationId)
    (role : OrganizationRole) : Action Unit := do
  remove s (.organization user target role)
  Action.say ⟨.info, "organization role revoked",
    [("user_id", user.text), ("org_id", target.text), ("role", role.name)]⟩

def grantSpaceRole (s : Session) (user : UserId) (target : SpaceId) (owner : OrganizationId)
    (role : SpaceRole) : Action Unit := do
  put s (.membership user owner)
  put s (.space user target role)
  Action.say ⟨.info, "space role granted",
    [("user_id", user.text), ("space_id", target.text), ("org_id", owner.text),
      ("role", role.name)]⟩

def revokeSpaceRole (s : Session) (user : UserId) (target : SpaceId) (role : SpaceRole) :
    Action Unit := do
  remove s (.space user target role)
  Action.say ⟨.info, "space role revoked",
    [("user_id", user.text), ("space_id", target.text), ("role", role.name)]⟩

def grantOrganizationRoleByName (s : Session) (user : UserId) (target : OrganizationId)
    (role : String) : Action Unit := do
  grantOrganizationRole s user target (← OrganizationRole.ofName? role)

def revokeOrganizationRoleByName (s : Session) (user : UserId) (target : OrganizationId)
    (role : String) : Action Unit := do
  revokeOrganizationRole s user target (← OrganizationRole.ofName? role)

def grantSpaceRoleByName (s : Session) (user : UserId) (target : SpaceId)
    (owner : OrganizationId) (role : String) : Action Unit := do
  grantSpaceRole s user target owner (← SpaceRole.ofName? role)

def revokeSpaceRoleByName (s : Session) (user : UserId) (target : SpaceId) (role : String) :
    Action Unit := do
  revokeSpaceRole s user target (← SpaceRole.ofName? role)

end Tenancy.Directory
