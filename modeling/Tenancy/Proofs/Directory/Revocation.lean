import Tenancy.Proofs.Directory.Membership

/-!
# Revocations and membership

A revocation takes away the relation of its own grant, and only once it has succeeded. Membership is
a role in an organization too, so a revocation may be one of membership: it is exactly where the
role is that of a user (`revocation_membership`).
-/

namespace Tenancy.Directory

open Program

/-- Who is a member of which organization where the platform has some relation paths. -/
def members (R : Set String) : Set (UserId × OrganizationId) :=
  {m | (Grant.membership m.1 m.2).path ∈ R}

/-- A membership has the path of a role in an organization only where it is that role. -/
theorem membership_path_eq_iff {m : UserId × OrganizationId} {user : UserId}
    {target : OrganizationId} {role : OrganizationRole} :
    (Grant.membership m.1 m.2).path = (Grant.organization user target role).path ↔
      role = .user ∧ m = (user, target) := by
  constructor
  · intro h
    cases Grant.path_injective h
    exact ⟨rfl, rfl⟩
  · rintro ⟨rfl, rfl⟩
    rfl

section Revocations

variable {s : Session} {R : Set String} {user : UserId} {target : OrganizationId}
  {role : OrganizationRole} {es : List (Event Question Question.Reply)} {r : Except Fault Unit}

/-- What a revocation leaves, however it goes. -/
theorem replay_of_revocation (h : (revokeOrganizationRole s user target role).run.Runs es r) :
    replay s es R =
      {path | path ∈ R ∧ (r = .ok () → path ≠ (Grant.organization user target role).path)} := by
  obtain ⟨carried, hcarried⟩ : ∃ carried,
      Carries s R [.drop (.organization user target role)] es r carried :=
    Course.IsRun.carries (x := ⟨.revokeOrganizationRole user target role, es, r⟩) h R
  rw [hcarried.left]
  by_cases hok : r = .ok ()
  · rw [hcarried.complete.mp hok]
    ext path
    simp [Edit.onPaths, hok]
  · have hnone : carried = [] := by
      rcases List.prefix_cons_iff.mp hcarried.first with hnil | ⟨rest, hcons, hrest⟩
      · exact hnil
      · rw [List.prefix_nil.mp hrest] at hcons
        exact absurd (hcarried.complete.mpr hcons) hok
    ext path
    simp [hnone, hok]

theorem members_of_revocation (h : (revokeOrganizationRole s user target role).run.Runs es r) :
    members (replay s es R) =
      {m | m ∈ members R ∧ ¬ (role = .user ∧ r = .ok () ∧ m = (user, target))} := by
  ext m
  have hpath : (Grant.membership m.1 m.2).path = (Grant.organization user target role).path ↔
      role = .user ∧ m = (user, target) := membership_path_eq_iff
  rw [replay_of_revocation h]
  simp only [members, Set.mem_ofPred_eq, ne_eq, hpath]
  tauto

end Revocations

/-- A revocation leaves every membership as it was, unless it succeeds in revoking the role of a
user from one who has it. Then it takes away this one membership. -/
theorem revocation_membership (s : Session) (R : Set String) (user : UserId)
    (target : OrganizationId) (role : OrganizationRole)
    {es : List (Event Question Question.Reply)} {r : Except Fault Unit}
    (h : (revokeOrganizationRole s user target role).run.Runs es r) :
    members (replay s es R) =
        {m | m ∈ members R ∧ ¬ (role = .user ∧ r = .ok () ∧ m = (user, target))} ∧
      (members (replay s es R) = members R ↔
        ¬ (role = .user ∧ r = .ok () ∧ (user, target) ∈ members R)) := by
  have hmembers := members_of_revocation (R := R) h
  refine ⟨hmembers, ?_⟩
  constructor
  · rintro hsame ⟨hrole, hok, hmember⟩
    rw [← hsame, hmembers] at hmember
    exact hmember.2 ⟨hrole, hok, rfl⟩
  · intro hkept
    rw [hmembers]
    ext m
    refine and_iff_left_of_imp fun hm => ?_
    rintro ⟨hrole, hok, rfl⟩
    exact hkept ⟨hrole, hok, hm⟩

/-- The events of a revocation that the platform carries out. -/
def revoking (role : OrganizationRole) (url : String) (h : IsAbsolute url) :
    List (Event Question Question.Reply) := [
  .asked (.call ⟨.platform, .perform ⟨.delete, url, "t", none, h⟩⟩) (.ok ()),
  .noted ⟨.info, "organization role revoked",
    [("user_id", "u3"), ("org_id", "o2"), ("role", role.name)]⟩]

/-- An auditor who is one no longer is still a member. -/
theorem revocation_membership_auditor :
    (bob, acme) ∈ members (replay sampleSession
      (revoking .auditor "http://api/v2/organizations/o2/auditors/u3" (by decide))
      {"/v2/organizations/o2/users/u3", "/v2/organizations/o2/auditors/u3"}) := by
  have hrun : (revokeOrganizationRole sampleSession bob acme .auditor).run.Runs
      (revoking .auditor "http://api/v2/organizations/o2/auditors/u3" (by decide)) (.ok ()) :=
    .ask (.note (.refl _))
  have hmember : (bob, acme) ∈ members
      {"/v2/organizations/o2/users/u3", "/v2/organizations/o2/auditors/u3"} := .inl rfl
  rw [(revocation_membership sampleSession _ bob acme .auditor hrun).2.mpr (by simp)]
  exact hmember

/-- A user whose role of a user is revoked is no member any more. -/
theorem not_every_revocation_keeps_membership :
    ¬ ∀ (s : Session) (R : Set String) (user : UserId) (target : OrganizationId)
      (role : OrganizationRole) (es : List (Event Question Question.Reply)) (r : Except Fault Unit),
      (revokeOrganizationRole s user target role).run.Runs es r →
        members (replay s es R) = members R := by
  intro hall
  have hrun : (revokeOrganizationRole sampleSession bob acme .user).run.Runs
      (revoking .user "http://api/v2/organizations/o2/users/u3" (by decide)) (.ok ()) :=
    .ask (.note (.refl _))
  have hsame := hall sampleSession {"/v2/organizations/o2/users/u3"} bob acme .user _ _ hrun
  have hmember : (bob, acme) ∈ members {"/v2/organizations/o2/users/u3"} := rfl
  rw [← hsame, members_of_revocation hrun] at hmember
  exact hmember.2 ⟨rfl, rfl, rfl⟩

end Tenancy.Directory
