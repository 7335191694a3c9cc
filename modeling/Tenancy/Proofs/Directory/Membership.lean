import Mathlib.Data.List.Induction
import Tenancy.Proofs.Directory.Relations

/-!
# Role changes and membership

Role changes refine a store of grants: one that succeeds does exactly what it means, one that fails
stops after its first edits, and no grant that it does not name is touched. Whoever holds a role in
an organization is its member (`Backed`), except where membership was revoked under another role or
could not be added to a new one (`Strands`).
-/

namespace Tenancy.Directory

open Program

/-- A change of the role that a user holds. -/
inductive RoleChange where
  | grantOrganizationRole (user : UserId) (target : OrganizationId) (role : OrganizationRole)
  | revokeOrganizationRole (user : UserId) (target : OrganizationId) (role : OrganizationRole)
  | grantSpaceRole (user : UserId) (target : SpaceId) (owner : OrganizationId) (role : SpaceRole)
  | revokeSpaceRole (user : UserId) (target : SpaceId) (role : SpaceRole)
deriving DecidableEq

namespace RoleChange

def action (s : Session) : RoleChange → Action Unit
  | grantOrganizationRole user target role => Directory.grantOrganizationRole s user target role
  | revokeOrganizationRole user target role => Directory.revokeOrganizationRole s user target role
  | grantSpaceRole user target owner role => Directory.grantSpaceRole s user target owner role
  | revokeSpaceRole user target role => Directory.revokeSpaceRole s user target role

/-- What becomes of the grants that are held. -/
def meaning (S : Set Grant) : RoleChange → Set Grant
  | grantOrganizationRole user target role =>
    S ∪ {.organization user target role, .membership user target}
  | revokeOrganizationRole user target role => S \ {.organization user target role}
  | grantSpaceRole user target owner role =>
    S ∪ {.membership user owner, .space user target role}
  | revokeSpaceRole user target role => S \ {.space user target role}

/-- The edits by which a role change is made, in order. -/
def edits : RoleChange → List Edit
  | grantOrganizationRole user target role =>
    [.add (.organization user target role), .add (.membership user target)]
  | revokeOrganizationRole user target role => [.drop (.organization user target role)]
  | grantSpaceRole user target owner role =>
    [.add (.membership user owner), .add (.space user target role)]
  | revokeSpaceRole user target role => [.drop (.space user target role)]

def report : RoleChange → Note
  | grantOrganizationRole user target role => ⟨.info, "organization role granted",
      [("user_id", user.text), ("org_id", target.text), ("role", role.name)]⟩
  | revokeOrganizationRole user target role => ⟨.info, "organization role revoked",
      [("user_id", user.text), ("org_id", target.text), ("role", role.name)]⟩
  | grantSpaceRole user target owner role => ⟨.info, "space role granted",
      [("user_id", user.text), ("space_id", target.text), ("org_id", owner.text),
        ("role", role.name)]⟩
  | revokeSpaceRole user target role => ⟨.info, "space role revoked",
      [("user_id", user.text), ("space_id", target.text), ("role", role.name)]⟩

theorem action_eq_editing (s : Session) (c : RoleChange) :
    c.action s = editing s c.report c.edits := by
  cases c <;> rfl

theorem foldl_on_edits (c : RoleChange) (S : Set Grant) :
    c.edits.foldl Edit.on S = c.meaning S := by
  cases c with
  | revokeOrganizationRole | revokeSpaceRole => rfl
  | grantOrganizationRole | grantSpaceRole =>
    ext g
    simp only [edits, meaning, List.foldl_cons, List.foldl_nil, Edit.on, Set.mem_insert_iff,
      Set.mem_union, Set.mem_singleton_iff]
    tauto

end RoleChange

/-- A role change with what happened while it was made and what came of it. -/
structure Course where
  change : RoleChange
  events : List (Event Question Question.Reply)
  outcome : Except Fault Unit

/-- The events are a run of the role change, whoever answered. -/
def Course.IsRun (s : Session) (x : Course) : Prop :=
  (x.change.action s).run.Runs x.events x.outcome

theorem Course.IsRun.carries {s : Session} {x : Course} (h : x.IsRun s) (R : Set String) :
    ∃ carried, Carries s R x.change.edits x.events x.outcome carried := by
  rw [IsRun, RoleChange.action_eq_editing] at h
  exact carries_editing h

/-- A course does to the relation paths what its role change means. -/
structure Refines (s : Session) (R : Set String) (x : Course) : Prop where
  /-- A role in a space is put only where the user is a member of the organization. -/
  guarded : ∀ user target owner role, x.change = .grantSpaceRole user target owner role →
    ∀ before c reply after, x.events = before ++ .asked (.call c) reply :: after →
      ∀ r, c.request? = some r → r.method = .put →
        r.url = grantUrl s (.space user target role) →
          (Grant.membership user owner).path ∈ replay s before R
  succeeded : x.outcome = .ok () →
    replay s x.events R = x.change.edits.foldl Edit.onPaths R ∧
      held (replay s x.events R) = x.change.meaning (held R)
  failed : x.outcome ≠ .ok () → ∃ carried, carried <+: x.change.edits ∧
    carried ≠ x.change.edits ∧ replay s x.events R = carried.foldl Edit.onPaths R
  untouched : ∀ g, (∀ e ∈ x.change.edits, e.grant ≠ g) →
    (g ∈ held (replay s x.events R) ↔ g ∈ held R)

/-- Whoever holds a role in an organization is its member. -/
def Backed (S : Set Grant) (user : UserId) (target : OrganizationId) : Prop :=
  ∀ role, .organization user target role ∈ S → .membership user target ∈ S

/-- A course that leaves a user a role in an organization without membership: `S` are the grants
held before and `S'` those held afterwards. -/
inductive Strands (S S' : Set Grant) (x : Course) (user : UserId) (target : OrganizationId) :
    Prop where
  /-- Membership is revoked under another role. -/
  | revoked {role : OrganizationRole} (change : x.change = .revokeOrganizationRole user target .user)
      (done : x.outcome = .ok ()) (another : role ≠ .user)
      (held : .organization user target role ∈ S)
  /-- A role is granted where there is no membership, and then membership is not. -/
  | interrupted {role : OrganizationRole}
      (change : x.change = .grantOrganizationRole user target role) (failed : x.outcome ≠ .ok ())
      (another : role ≠ .user) (granted : .organization user target role ∈ S')
      (missing : .membership user target ∉ S)

/-- The last of two is only reached behind the first. -/
theorem eq_pair_of_prefix {α : Type} {a b : α} {l : List α} (h : l <+: [a, b]) (hne : b ≠ a)
    (hb : b ∈ l) : l = [a, b] := by
  rcases List.prefix_cons_iff.mp h with rfl | ⟨rest, rfl, hrest⟩
  · exact absurd hb List.not_mem_nil
  · rcases List.prefix_cons_iff.mp hrest with rfl | ⟨none, rfl, hnone⟩
    · exact absurd (List.mem_singleton.mp hb) hne
    · rw [List.prefix_nil.mp hnone]

section Edits

variable {c : RoleChange} {user : UserId} {target : OrganizationId}

/-- Only the revocation of the role of a user revokes membership. -/
theorem RoleChange.eq_of_drop_membership_mem (h : .drop (.membership user target) ∈ c.edits) :
    c = .revokeOrganizationRole user target .user := by
  cases c <;> simp_all [edits, Grant.membership]

/-- Roles other than membership are granted by their own change only. -/
theorem RoleChange.eq_of_add_organization_mem {role : OrganizationRole} (another : role ≠ .user)
    (h : .add (.organization user target role) ∈ c.edits) :
    c = .grantOrganizationRole user target role := by
  cases c <;> simp_all [edits, Grant.membership]

end Edits

section Courses

variable {s : Session} {R : Set String} {x : Course}

theorem Carries.held_replay {edits carried : List Edit}
    {es : List (Event Question Question.Reply)} {r : Except Fault Unit}
    (h : Carries s R edits es r carried) :
    held (replay s es R) = carried.foldl Edit.on (held R) := by
  rw [h.left, held_foldl_onPaths]

theorem Course.IsRun.refines (h : x.IsRun s) : Refines s R x := by
  obtain ⟨carried, hcarried⟩ := h.carries R
  refine ⟨?guarded, ?succeeded, ?failed, ?untouched⟩
  case guarded =>
    intro user target owner role hchange before c reply after hes r hr method url
    obtain ⟨done, e, rest, hedits, ⟨r', hc, -, url'⟩, hbefore⟩ := hcarried.asked _ _ _ _ hes
    cases hc
    obtain rfl : r' = r := Option.some.inj hr
    have hgrant : e.grant = .space user target role := by
      refine Grant.path_injective ?_
      rw [url', grantUrl, grantUrl, String.append_right_inj] at url
      exact url
    rw [hchange, RoleChange.edits] at hedits
    rcases List.cons_eq_append_iff.mp hedits with ⟨rfl, he⟩ | ⟨done, rfl, hrest⟩
    · cases he
      cases hgrant
    · rcases List.cons_eq_append_iff.mp hrest with ⟨rfl, -⟩ | ⟨done, rfl, hnone⟩
      · rw [hbefore]
        exact Set.mem_insert _ _
      · simp at hnone
  case succeeded =>
    intro hok
    obtain rfl := hcarried.complete.mp hok
    exact ⟨hcarried.left, hcarried.held_replay.trans (x.change.foldl_on_edits _)⟩
  case failed =>
    intro hfailed
    exact ⟨carried, hcarried.first, fun hall => hfailed (hcarried.complete.mpr hall),
      hcarried.left⟩
  case untouched =>
    intro g hg
    rw [hcarried.held_replay]
    exact mem_foldl_on_iff_of_ne _ fun e he => hg e (hcarried.first.subset he)

variable {user : UserId} {target : OrganizationId}

/-- A course that strands a user breaks the rule. -/
theorem Strands.not_backed (h : x.IsRun s)
    (hx : Strands (held R) (held (replay s x.events R)) x user target) :
    ¬ Backed (held (replay s x.events R)) user target := by
  intro hbacked
  have hrefines : Refines s R x := h.refines
  cases hx with
  | @revoked role change done another held =>
    obtain ⟨-, hmeaning⟩ := hrefines.succeeded done
    rw [change] at hmeaning
    rw [hmeaning] at hbacked
    have hkept := hbacked role ⟨held, fun hrole => another (by cases hrole; rfl)⟩
    exact hkept.2 rfl
  | @interrupted role change failed another granted missing =>
    have hmember := hbacked role granted
    obtain ⟨carried, hcarried⟩ := h.carries R
    have hedits : x.change.edits =
        [.add (.organization user target role), .add (.membership user target)] := by
      rw [change, RoleChange.edits]
    rw [hcarried.held_replay] at hmember
    have hadded : .add (.membership user target) ∈ carried :=
      add_mem_of_mem_foldl_on missing hmember
    have hall : carried = x.change.edits := by
      rw [hedits]
      refine eq_pair_of_prefix (hedits ▸ hcarried.first) ?_ hadded
      intro h
      cases h
      exact another rfl
    exact failed (hcarried.complete.mpr hall)

/-- A user who holds a role without membership has been stranded, if not before. -/
theorem strands_of_not_backed (h : x.IsRun s) (hbefore : Backed (held R) user target)
    (hafter : ¬ Backed (held (replay s x.events R)) user target) :
    Strands (held R) (held (replay s x.events R)) x user target := by
  obtain ⟨role, hrole, hmember⟩ : ∃ role,
      .organization user target role ∈ held (replay s x.events R) ∧
        .membership user target ∉ held (replay s x.events R) := by
    simpa [Backed] using hafter
  have another : role ≠ .user := by
    rintro rfl
    exact hmember hrole
  obtain ⟨carried, hcarried⟩ := h.carries R
  by_cases hwas : .membership user target ∈ held R
  · have hdrop : .drop (.membership user target) ∈ carried :=
      drop_mem_of_notMem_foldl_on hwas (hcarried.held_replay ▸ hmember)
    have hchange : x.change = .revokeOrganizationRole user target .user :=
      RoleChange.eq_of_drop_membership_mem (hcarried.first.subset hdrop)
    have hdone : x.outcome = .ok () := by
      refine hcarried.complete.mpr ?_
      have hfirst := hcarried.first
      rw [hchange, RoleChange.edits] at hfirst ⊢
      rcases List.prefix_cons_iff.mp hfirst with rfl | ⟨rest, rfl, hrest⟩
      · exact absurd hdrop List.not_mem_nil
      · rw [List.prefix_nil.mp hrest]
    by_cases hheld : .organization user target role ∈ held R
    · exact .revoked hchange hdone another hheld
    · have hadd : .add (.organization user target role) ∈ carried :=
        add_mem_of_mem_foldl_on hheld (hcarried.held_replay ▸ hrole)
      have hmem := hcarried.first.subset hadd
      simp [hchange, RoleChange.edits] at hmem
  · have hheld : .organization user target role ∉ held R := fun hheld => hwas (hbefore role hheld)
    have hadd : .add (.organization user target role) ∈ carried :=
      add_mem_of_mem_foldl_on hheld (hcarried.held_replay ▸ hrole)
    have hchange : x.change = .grantOrganizationRole user target role :=
      RoleChange.eq_of_add_organization_mem another (hcarried.first.subset hadd)
    refine .interrupted hchange ?_ another hrole hwas
    intro hok
    have hmeaning := (h.refines (R := R)).succeeded hok
    rw [hchange] at hmeaning
    rw [hmeaning.2] at hmember
    exact hmember (.inr (.inr rfl))

theorem backed_iff_not_strands (h : x.IsRun s) (hbefore : Backed (held R) user target) :
    Backed (held (replay s x.events R)) user target ↔
      ¬ Strands (held R) (held (replay s x.events R)) x user target := by
  constructor
  · intro hafter hstrands
    exact hstrands.not_backed h hafter
  · intro hnot
    by_contra hafter
    exact hnot (strands_of_not_backed h hbefore hafter)

end Courses

/-- The relation paths of the platform after courses, one after the other. -/
def ensuing (s : Session) (past : List Course) (R : Set String) : Set String :=
  replay s (past.flatMap (·.events)) R

theorem ensuing_append_singleton (s : Session) (past : List Course) (x : Course) (R : Set String) :
    ensuing s (past ++ [x]) R = replay s x.events (ensuing s past R) := by
  simp [ensuing, replay_append]

/-- Whatever fails, every role change of a history does what it means from the relations there are
when its turn comes. Roles in an organization stay backed by membership through all courses that
strand nobody, and through no other. -/
theorem role_changes_refine (s : Session) (R : Set String) {past : List Course}
    (hpast : ∀ x ∈ past, x.IsRun s) :
    (∀ before x after, past = before ++ x :: after →
        Refines s (ensuing s before R) x ∧
          ∀ user target, Backed (held (ensuing s before R)) user target →
            (Backed (held (ensuing s (before ++ [x]) R)) user target ↔
              ¬ Strands (held (ensuing s before R)) (held (ensuing s (before ++ [x]) R)) x user
                target)) ∧
      ∀ user target, Backed (held R) user target →
        (∀ before x after, past = before ++ x :: after →
          ¬ Strands (held (ensuing s before R)) (held (ensuing s (before ++ [x]) R)) x user
            target) →
        Backed (held (ensuing s past R)) user target := by
  refine ⟨?_, ?_⟩
  · intro before x after hsplit
    have hx : x.IsRun s := hpast x (by simp [hsplit])
    refine ⟨hx.refines, fun user target hbefore => ?_⟩
    rw [ensuing_append_singleton]
    exact backed_iff_not_strands hx hbefore
  · intro user target hR hnone
    induction past using List.reverseRecOn with
    | nil => exact hR
    | append_singleton past x ih =>
      have hbefore : Backed (held (ensuing s past R)) user target := by
        refine ih (fun y hy => hpast y (List.mem_append_left _ hy)) ?_
        intro before y after hsplit
        refine hnone before y (after ++ [x]) ?_
        rw [hsplit, List.append_assoc, List.cons_append]
      have hx : x.IsRun s := hpast x (by simp)
      have hnot := hnone past x [] rfl
      rw [ensuing_append_singleton] at hnot ⊢
      exact (backed_iff_not_strands hx hbefore).mpr hnot

def ann : UserId := ⟨"u1", by decide, by decide, by decide⟩

def bob : UserId := ⟨"u3", by decide, by decide, by decide⟩

def acme : OrganizationId := ⟨"o2", by decide, by decide, by decide⟩

/-- Membership fails behind a granted role, and a role in a space brings it after all. -/
def mending : List Course := [
  { change := .grantOrganizationRole ann acme .manager
    events := [
      .asked (.call ⟨.platform, .perform
        ⟨.put, "http://api/v2/organizations/o2/managers/u1", "t", none, by decide⟩⟩) (.ok ()),
      .asked (.call ⟨.platform, .perform
        ⟨.put, "http://api/v2/organizations/o2/users/u1", "t", none, by decide⟩⟩)
        (.error (.internal "down"))]
    outcome := .error (.internal "down") },
  { change := .grantSpaceRole ann ⟨"s1", by decide, by decide, by decide⟩ acme .developer
    events := [
      .asked (.call ⟨.platform, .perform
        ⟨.put, "http://api/v2/organizations/o2/users/u1", "t", none, by decide⟩⟩) (.ok ()),
      .asked (.call ⟨.platform, .perform
        ⟨.put, "http://api/v2/spaces/s1/developers/u1", "t", none, by decide⟩⟩) (.ok ()),
      .noted ⟨.info, "space role granted",
        [("user_id", "u1"), ("space_id", "s1"), ("org_id", "o2"), ("role", "space-developer")]⟩]
    outcome := .ok () }]

theorem role_changes_refine_mending :
    (∀ x ∈ mending, x.IsRun sampleSession) ∧
      (∀ before x after, mending = before ++ x :: after →
        Refines sampleSession (ensuing sampleSession before ∅) x) ∧
      Backed (held ∅) bob acme ∧
      Backed (held (ensuing sampleSession mending ∅)) bob acme := by
  have hpast : ∀ x ∈ mending, x.IsRun sampleSession := by
    simp only [mending, List.forall_mem_cons, List.not_mem_nil, false_implies, implies_true,
      and_true]
    exact ⟨.ask (.ask (.refl _)), .ask (.ask (.note (.refl _)))⟩
  obtain ⟨hrefines, hbacked⟩ := role_changes_refine sampleSession ∅ hpast
  have hnobody : Backed (held ∅) bob acme := fun _ h => h.elim
  refine ⟨hpast, fun before x after hsplit => (hrefines before x after hsplit).1, hnobody, ?_⟩
  have hothers : ∀ x ∈ mending, ∀ role,
      x.change ≠ .revokeOrganizationRole bob acme role ∧
        x.change ≠ .grantOrganizationRole bob acme role := by
    simp [mending, ann, bob]
  refine hbacked bob acme hnobody fun before x after hsplit hstrands => ?_
  have hx : x ∈ mending := by simp [hsplit]
  cases hstrands with
  | revoked change => exact (hothers x hx _).1 change
  | interrupted change => exact (hothers x hx _).2 change

end Tenancy.Directory
