import Mathlib.Data.List.Induction
import Tenancy.Filter

/-!
# Filters of ids

The text of a filter for some ids: one clause for each of them, in their order.
-/

namespace Tenancy.Filter

theorem clause_ne_empty (id : UserId) : clause id ≠ "" := by
  simp [clause]

theorem text_add_ne_empty (f : Filter) (id : UserId) : (f.add id).text ≠ "" := by
  unfold add
  split
  · exact clause_ne_empty id
  · simp

theorem ofIds_append_singleton (ids : List UserId) (id : UserId) :
    ofIds (ids ++ [id]) = (ofIds ids).add id := by
  simp [ofIds]

@[simp] theorem isNone_ofIds_iff {ids : List UserId} : (ofIds ids).IsNone ↔ ids = [] := by
  rcases ids.eq_nil_or_concat with rfl | ⟨before, id, rfl⟩
  · exact iff_of_true rfl rfl
  · rw [List.concat_eq_append, ofIds_append_singleton]
    exact iff_of_false (text_add_ne_empty _ id) (by simp)

theorem text_ofIds (ids : List UserId) :
    (ofIds ids).text = " or ".intercalate (ids.map clause) := by
  induction ids using List.reverseRecOn with
  | nil => simp [ofIds, none]
  | append_singleton ids id ih =>
    rw [ofIds_append_singleton, add]
    by_cases h : ids = []
    · simp [h]
    · have hids : ids.map clause ≠ [] := by simpa using h
      rw [List.map_append, String.intercalate_append_of_ne_nil hids (by simp), ← ih]
      simp [h]

end Tenancy.Filter
