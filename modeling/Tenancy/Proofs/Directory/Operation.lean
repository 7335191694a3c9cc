import Tenancy.Directory.Lifecycle
import Tenancy.Proofs.Directory.Holders
import Tenancy.Proofs.Directory.Membership

/-!
# Operations

All that a directory can be asked to do.
-/

namespace Tenancy.Directory

open Program

/-- What is left of a deletion once the platform has answered. -/
def afterRemoval (id : UserId) :
    Except Fault Unit → Program Question Question.Reply (Except Fault Unit)
  | .ok () => done (.ok ())
  | .error f =>
    if f.RefusedWith unknownUserCode then
      note ⟨.warn, "platform user already absent; deleting identity account",
        [("user_id", id.text)]⟩ (done (.ok ()))
    else done (.error f)

theorem run_deleteMember (s : Session) (id : UserId) :
    (deleteMember s id).run =
      (Action.perform .platform .delete (userUrl s id) s.token none).run >>= afterRemoval id := by
  rw [deleteMember, run_bind, Action.run_outcome, bind_assoc]
  refine congrArg _ (funext fun r => ?_)
  rcases r with f | _
  · change (if f.RefusedWith unknownUserCode then Action.say _ else throw f : Action Unit).run = _
    rw [afterRemoval]
    split <;> rfl
  · rfl

/-- A change of a role that is given by its name. -/
inductive NamedRoleChange where
  | grantOrganizationRole (user : UserId) (target : OrganizationId) (role : String)
  | revokeOrganizationRole (user : UserId) (target : OrganizationId) (role : String)
  | grantSpaceRole (user : UserId) (target : SpaceId) (owner : OrganizationId) (role : String)
  | revokeSpaceRole (user : UserId) (target : SpaceId) (role : String)
deriving DecidableEq

namespace NamedRoleChange

def action (s : Session) : NamedRoleChange → Action Unit
  | grantOrganizationRole user target role => grantOrganizationRoleByName s user target role
  | revokeOrganizationRole user target role => revokeOrganizationRoleByName s user target role
  | grantSpaceRole user target owner role => grantSpaceRoleByName s user target owner role
  | revokeSpaceRole user target role => revokeSpaceRoleByName s user target role

/-- The role change that is meant; the name of the role has to be a valid one. -/
def roleChange : NamedRoleChange → Except Fault RoleChange
  | grantOrganizationRole user target role =>
    (OrganizationRole.ofName? role).map (.grantOrganizationRole user target)
  | revokeOrganizationRole user target role =>
    (OrganizationRole.ofName? role).map (.revokeOrganizationRole user target)
  | grantSpaceRole user target owner role =>
    (SpaceRole.ofName? role).map (.grantSpaceRole user target owner)
  | revokeSpaceRole user target role => (SpaceRole.ofName? role).map (.revokeSpaceRole user target)

theorem action_eq (s : Session) (n : NamedRoleChange) :
    n.action s = (liftM n.roleChange >>= fun c => c.action s : Action Unit) := by
  cases n with
  | grantOrganizationRole user target role | revokeOrganizationRole user target role =>
    simp only [action, roleChange, grantOrganizationRoleByName, revokeOrganizationRoleByName]
    cases OrganizationRole.ofName? role <;> rfl
  | grantSpaceRole user target owner role | revokeSpaceRole user target role =>
    simp only [action, roleChange, grantSpaceRoleByName, revokeSpaceRoleByName]
    cases SpaceRole.ofName? role <;> rfl

end NamedRoleChange

inductive Operation where
  | find (username : String)
  | holders (q : HolderQuery)
  | create (username password : String)
  | delete (id : UserId)
  | change (c : RoleChange)
  | changeByName (n : NamedRoleChange)

namespace Operation

/-- What an operation gives back. -/
@[reducible] def Result : Operation → Type
  | find _ => Record
  | holders _ => List Record
  | create .. => UserId
  | delete _ | change _ | changeByName _ => Unit

def action (s : Session) : (o : Operation) → Action o.Result
  | find username => Directory.find s username
  | holders q => q.action s
  | create username password => Directory.create s username password
  | delete id => Directory.delete s id
  | change c => c.action s
  | changeByName n => n.action s

end Operation

end Tenancy.Directory
