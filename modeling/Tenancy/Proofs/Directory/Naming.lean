import Tenancy.Proofs.Directory.Operation

/-!
# Roles by name

Wherever a role is given it may be named instead. A name comes to the role that it stands for, in
one scope at most, and what stands for none is refused before anything is done
(`names_stand_for_roles`).
-/

namespace Tenancy

namespace Scope

/-- The roles that there are in a scope. -/
@[reducible] def Role : Scope → Type
  | organization => OrganizationRole
  | space => SpaceRole

def roleName : (scope : Scope) → scope.Role → String
  | organization => OrganizationRole.name
  | space => SpaceRole.name

def role? : (scope : Scope) → String → Except Fault scope.Role
  | organization => OrganizationRole.ofName?
  | space => SpaceRole.ofName?

/-- The texts that stand for a role, its name first. -/
def spellings : (scope : Scope) → scope.Role → List String
  | organization, .user => ["org-user", "OrgUser"]
  | organization, .manager => ["org-manager", "OrgManager"]
  | organization, .billingManager => ["billing-manager", "BillingManager"]
  | organization, .auditor => ["org-auditor", "OrgAuditor"]
  | space, .manager => ["space-manager", "SpaceManager"]
  | space, .developer => ["space-developer", "SpaceDeveloper"]
  | space, .auditor => ["space-auditor", "SpaceAuditor"]

theorem role?_cases (scope : Scope) (text : String) :
    (∃ role, text ∈ scope.spellings role ∧ scope.role? text = .ok role) ∨
      ∃ why, scope.role? text = .error (.unknownRole why) := by
  cases scope with
  | organization =>
    simp only [role?]
    unfold OrganizationRole.ofName?
    split
    case h_9 => exact .inr ⟨_, rfl⟩
    all_goals exact .inl ⟨_, by simp [spellings], rfl⟩
  | space =>
    simp only [role?]
    unfold SpaceRole.ofName?
    split
    case h_7 => exact .inr ⟨_, rfl⟩
    all_goals exact .inl ⟨_, by simp [spellings], rfl⟩

theorem role?_eq_ok_iff {scope : Scope} {text : String} {role : scope.Role} :
    scope.role? text = .ok role ↔ text ∈ scope.spellings role := by
  constructor
  · intro h
    obtain ⟨role', hmem, h'⟩ | ⟨why, h'⟩ := scope.role?_cases text
    · cases h.symm.trans h'
      exact hmem
    · cases h.symm.trans h'
  · intro h
    cases scope <;> cases role <;> rcases List.mem_pair.mp h with rfl | rfl <;> rfl

theorem roleName_mem_spellings (scope : Scope) (role : scope.Role) :
    scope.roleName role ∈ scope.spellings role := by
  cases scope <;> cases role <;> exact List.mem_cons_self

theorem disjoint_spellings (role : OrganizationRole) (role' : SpaceRole) :
    (organization.spellings role).Disjoint (space.spellings role') := by
  cases role <;> cases role' <;> simp [spellings]

/-- A text stands for roles of one scope only. -/
theorem eq_of_mem_spellings {scope scope' : Scope} {text : String} {role : scope.Role}
    {role' : scope'.Role} (h : text ∈ scope.spellings role) (h' : text ∈ scope'.spellings role') :
    scope = scope' := by
  cases scope <;> cases scope'
  case organization.space => exact (disjoint_spellings role role' h h').elim
  case space.organization => exact (disjoint_spellings role' role h' h).elim
  all_goals rfl

end Scope

namespace Directory

open Program

/-- What a role of a scope is given for. -/
inductive RoleUse : Scope → Type where
  | organizationHolders (target : OrganizationId) : RoleUse .organization
  | grantOrganizationRole (user : UserId) (target : OrganizationId) : RoleUse .organization
  | revokeOrganizationRole (user : UserId) (target : OrganizationId) : RoleUse .organization
  | spaceHolders (target : SpaceId) : RoleUse .space
  | grantSpaceRole (user : UserId) (target : SpaceId) (owner : OrganizationId) : RoleUse .space
  | revokeSpaceRole (user : UserId) (target : SpaceId) : RoleUse .space

namespace RoleUse

variable {scope : Scope}

@[reducible] def Result : RoleUse scope → Type
  | organizationHolders _ | spaceHolders _ => List Record
  | grantOrganizationRole .. | revokeOrganizationRole .. | grantSpaceRole .. | revokeSpaceRole .. =>
    Unit

def action (s : Session) : {scope : Scope} → (u : RoleUse scope) → scope.Role → Action u.Result
  | _, organizationHolders target, role => Directory.organizationHolders s target role
  | _, grantOrganizationRole user target, role =>
    Directory.grantOrganizationRole s user target role
  | _, revokeOrganizationRole user target, role =>
    Directory.revokeOrganizationRole s user target role
  | _, spaceHolders target, role => Directory.spaceHolders s target role
  | _, grantSpaceRole user target owner, role => Directory.grantSpaceRole s user target owner role
  | _, revokeSpaceRole user target, role => Directory.revokeSpaceRole s user target role

/-- The same with the role named. -/
def actionByName (s : Session) (u : RoleUse scope) (role : String) : Action u.Result :=
  match u with
  | organizationHolders target => organizationHoldersByName s target role
  | grantOrganizationRole user target => grantOrganizationRoleByName s user target role
  | revokeOrganizationRole user target => revokeOrganizationRoleByName s user target role
  | spaceHolders target => spaceHoldersByName s target role
  | grantSpaceRole user target owner => grantSpaceRoleByName s user target owner role
  | revokeSpaceRole user target => revokeSpaceRoleByName s user target role

/-- Look-ups read the name as a segment of a path, changes read it as a role: it comes to the
same. -/
theorem actionByName_eq (s : Session) (u : RoleUse scope) (text : String) :
    u.actionByName s text = (liftM (scope.role? text) >>= u.action s : Action u.Result) := by
  cases u with
  | organizationHolders target =>
    rw [actionByName, organizationHoldersByName, namedHolders, Scope.roleSegment, Scope.role?]
    cases OrganizationRole.ofName? text <;> rfl
  | spaceHolders target =>
    rw [actionByName, spaceHoldersByName, namedHolders, Scope.roleSegment, Scope.role?]
    cases SpaceRole.ofName? text <;> rfl
  | grantOrganizationRole | revokeOrganizationRole | grantSpaceRole | revokeSpaceRole => rfl

end RoleUse

/-- Whatever a role is given for, its name does as well: nobody who answers can tell the two apart,
by the result, the questions or the notes. A text that stands for no role of the scope is refused,
and nothing is asked or noted. No text stands for roles of both scopes, and the name of each role
stands for that role. -/
theorem names_stand_for_roles (s : Session) (text : String) :
    (∀ (scope : Scope) (u : RoleUse scope),
      (∀ role, scope.role? text = .ok role → u.actionByName s text = u.action s role) ∧
        ((∀ role, scope.role? text ≠ .ok role) →
          ∃ why, ∀ es r, (u.actionByName s text).run.Runs es r ↔
            es = [] ∧ r = .error (.unknownRole why))) ∧
      (∀ (scope scope' : Scope) (role : scope.Role) (role' : scope'.Role),
        scope.role? text = .ok role → scope'.role? text = .ok role' → scope = scope') ∧
      ∀ (scope : Scope) (role : scope.Role), scope.role? (scope.roleName role) = .ok role := by
  refine ⟨fun scope u => ⟨?named, ?refused⟩, ?apart, ?canonical⟩
  case named =>
    intro role h
    rw [u.actionByName_eq, h]
    rfl
  case refused =>
    intro hnone
    obtain ⟨role, -, h⟩ | ⟨why, h⟩ := scope.role?_cases text
    · exact absurd h (hnone role)
    · refine ⟨why, fun es r => ?_⟩
      rw [u.actionByName_eq, h, run_bind, run_lift, done_bind, runs_done_iff]
  case apart =>
    intro scope scope' role role' h h'
    exact Scope.eq_of_mem_spellings (Scope.role?_eq_ok_iff.mp h) (Scope.role?_eq_ok_iff.mp h')
  case canonical =>
    intro scope role
    exact Scope.role?_eq_ok_iff.mpr (scope.roleName_mem_spellings role)

def lab : SpaceId := ⟨"s2", by decide, by decide, by decide⟩

/-- The other name of a role of organizations, which no space knows. -/
theorem names_stand_for_roles_orgManager :
    Scope.organization.role? "OrgManager" = .ok .manager ∧
      grantOrganizationRoleByName sampleSession ann acme "OrgManager" =
        grantOrganizationRole sampleSession ann acme .manager ∧
      organizationHoldersByName sampleSession acme "OrgManager" =
        organizationHolders sampleSession acme .manager ∧
      ∃ why, ∀ es r, (revokeSpaceRoleByName sampleSession ann lab "OrgManager").run.Runs es r ↔
        es = [] ∧ r = .error (.unknownRole why) := by
  have hrole : Scope.organization.role? "OrgManager" = .ok .manager := rfl
  obtain ⟨huses, hapart, -⟩ := names_stand_for_roles sampleSession "OrgManager"
  refine ⟨hrole, ?_, ?_, ?_⟩
  · exact (huses .organization (.grantOrganizationRole ann acme)).1 .manager hrole
  · exact (huses .organization (.organizationHolders acme)).1 .manager hrole
  · refine (huses .space (.revokeSpaceRole ann lab)).2 fun role hspace => ?_
    cases hapart .organization .space .manager role hrole hspace

end Directory

end Tenancy
