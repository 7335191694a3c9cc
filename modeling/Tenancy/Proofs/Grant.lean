import Tenancy.Proofs.Text.Parts
import Tenancy.Role

/-!
# Paths of grants

Which grant a path is that of. Scopes share segments (both have managers and auditors), but a path
names its scope in front, and none of its other parts holds a slash.
-/

namespace Tenancy

theorem OrganizationRole.segment_injective {r r' : OrganizationRole}
    (h : r.segment = r'.segment) : r = r' := by
  cases r <;> cases r' <;> first | rfl | exact absurd h (by decide)

theorem SpaceRole.segment_injective {r r' : SpaceRole} (h : r.segment = r'.segment) : r = r' := by
  cases r <;> cases r' <;> first | rfl | exact absurd h (by decide)

theorem OrganizationRole.slash_notMem_segment (r : OrganizationRole) : '/' ∉ r.segment.toList := by
  cases r <;> decide

theorem SpaceRole.slash_notMem_segment (r : SpaceRole) : '/' ∉ r.segment.toList := by
  cases r <;> decide

theorem Scope.slash_notMem_segment (scope : Scope) : '/' ∉ scope.segment.toList := by
  cases scope <;> decide

theorem Scope.segment_injective {scope scope' : Scope} (h : scope.segment = scope'.segment) :
    scope = scope' := by
  cases scope <;> cases scope' <;> first | rfl | exact absurd h (by decide)

/-- A collection under a scope is told by its scope, its id and its segment. -/
theorem Scope.collection_injective {scope scope' : Scope} {id id' segment segment' : String}
    (hid : '/' ∉ id.toList) (hid' : '/' ∉ id'.toList)
    (h : scope.collection id segment = scope'.collection id' segment') :
    scope = scope' ∧ id = id' ∧ segment = segment' := by
  have hparts : scope.segment.toList ++ '/' :: (id.toList ++ '/' :: segment.toList) =
      scope'.segment.toList ++ '/' :: (id'.toList ++ '/' :: segment'.toList) := by
    have hl := congrArg String.toList h
    simpa [collection] using hl
  obtain ⟨hscope, hrest⟩ := Text.eq_of_first_separator scope.slash_notMem_segment
    scope'.slash_notMem_segment hparts
  obtain ⟨hids, hsegments⟩ := Text.eq_of_first_separator hid hid' hrest
  exact ⟨segment_injective (String.toList_inj.mp hscope), String.toList_inj.mp hids,
    String.toList_inj.mp hsegments⟩

namespace Grant

theorem parts_eq_of_path_eq {g g' : Grant} (h : g.path = g'.path) :
    g.collection = g'.collection ∧ g.user = g'.user := by
  have hparts : g.collection.toList ++ '/' :: g.user.text.toList =
      g'.collection.toList ++ '/' :: g'.user.text.toList := by
    simpa [path] using congrArg String.toList h
  obtain ⟨hcollection, huser⟩ := Text.eq_of_last_separator g.user.slash_notMem
    g'.user.slash_notMem hparts
  exact ⟨String.toList_inj.mp hcollection, Identifier.ext (String.toList_inj.mp huser)⟩

/-- Different grants have different paths. -/
theorem path_injective {g g' : Grant} (h : g.path = g'.path) : g = g' := by
  obtain ⟨hcollection, huser⟩ := parts_eq_of_path_eq h
  cases g with
  | organization user target role =>
    cases g' with
    | organization user' target' role' =>
      obtain ⟨-, htarget, hrole⟩ := Scope.collection_injective target.slash_notMem
        target'.slash_notMem hcollection
      obtain rfl : user = user' := huser
      rw [Identifier.ext htarget, OrganizationRole.segment_injective hrole]
    | space user' target' role' =>
      obtain ⟨hscope, -⟩ := Scope.collection_injective target.slash_notMem
        target'.slash_notMem hcollection
      exact absurd hscope (by decide)
  | space user target role =>
    cases g' with
    | organization user' target' role' =>
      obtain ⟨hscope, -⟩ := Scope.collection_injective target.slash_notMem
        target'.slash_notMem hcollection
      exact absurd hscope (by decide)
    | space user' target' role' =>
      obtain ⟨-, htarget, hrole⟩ := Scope.collection_injective target.slash_notMem
        target'.slash_notMem hcollection
      obtain rfl : user = user' := huser
      rw [Identifier.ext htarget, SpaceRole.segment_injective hrole]

end Grant

end Tenancy
