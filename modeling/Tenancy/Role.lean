import Tenancy.Identifier

/-!
# Roles

The roles a user may hold in an organization or in a space, their names and the segment under which
each collection of role holders lies.
-/

namespace Tenancy

inductive Scope where
  | organization
  | space
deriving DecidableEq, Repr

def Scope.segment : Scope → String
  | organization => "organizations"
  | space => "spaces"

/-- Where the holders of a role in one organization or space are listed. -/
def Scope.collection (scope : Scope) (id segment : String) : String :=
  "/v2/" ++ scope.segment ++ "/" ++ id ++ "/" ++ segment

inductive OrganizationRole where
  | user
  | manager
  | billingManager
  | auditor
deriving DecidableEq, Repr

namespace OrganizationRole

def all : List OrganizationRole := [user, manager, billingManager, auditor]

theorem mem_all (r : OrganizationRole) : r ∈ all := by cases r <;> decide

def name : OrganizationRole → String
  | user => "org-user"
  | manager => "org-manager"
  | billingManager => "billing-manager"
  | auditor => "org-auditor"

def segment : OrganizationRole → String
  | user => "users"
  | manager => "managers"
  | billingManager => "billing_managers"
  | auditor => "auditors"

def ofName? (s : String) : Except Fault OrganizationRole :=
  match s with
  | "org-user" | "OrgUser" => .ok user
  | "org-manager" | "OrgManager" => .ok manager
  | "billing-manager" | "BillingManager" => .ok billingManager
  | "org-auditor" | "OrgAuditor" => .ok auditor
  | _ => .error (.unknownRole s!"'{s}' is not an organization role")

@[simp] theorem ofName?_name (r : OrganizationRole) : ofName? r.name = .ok r := by
  cases r <;> rfl

end OrganizationRole

inductive SpaceRole where
  | manager
  | developer
  | auditor
deriving DecidableEq, Repr

namespace SpaceRole

def all : List SpaceRole := [manager, developer, auditor]

theorem mem_all (r : SpaceRole) : r ∈ all := by cases r <;> decide

def name : SpaceRole → String
  | manager => "space-manager"
  | developer => "space-developer"
  | auditor => "space-auditor"

def segment : SpaceRole → String
  | manager => "managers"
  | developer => "developers"
  | auditor => "auditors"

def ofName? (s : String) : Except Fault SpaceRole :=
  match s with
  | "space-manager" | "SpaceManager" => .ok manager
  | "space-developer" | "SpaceDeveloper" => .ok developer
  | "space-auditor" | "SpaceAuditor" => .ok auditor
  | _ => .error (.unknownRole s!"'{s}' is not a space role")

@[simp] theorem ofName?_name (r : SpaceRole) : ofName? r.name = .ok r := by
  cases r <;> rfl

end SpaceRole

/-- The segment that a role's name stands for in a scope. -/
def Scope.roleSegment (scope : Scope) (role : String) : Except Fault String :=
  match scope with
  | organization => (OrganizationRole.ofName? role).map (·.segment)
  | space => (SpaceRole.ofName? role).map (·.segment)

/-- A role that a user holds. -/
inductive Grant where
  | organization (user : UserId) (target : OrganizationId) (role : OrganizationRole)
  | space (user : UserId) (target : SpaceId) (role : SpaceRole)
deriving DecidableEq

namespace Grant

/-- Every holder of a role in an organization is also its user. -/
def membership (user : UserId) (target : OrganizationId) : Grant :=
  organization user target .user

def user : Grant → UserId
  | organization user .. => user
  | space user .. => user

def roleName : Grant → String
  | organization _ _ role => role.name
  | space _ _ role => role.name

def collection : Grant → String
  | organization _ target role => Scope.organization.collection target.text role.segment
  | space _ target role => Scope.space.collection target.text role.segment

def path (g : Grant) : String :=
  g.collection ++ "/" ++ g.user.text

end Grant

end Tenancy
