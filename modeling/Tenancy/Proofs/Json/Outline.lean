import Mathlib.Data.List.Forall2
import Tenancy.Proofs.Json.Skipping
import Tenancy.Proofs.Json.Strings

/-!
# Outlines

The outline of an object has its members as they are, with the gaps that stand in front of the
values (`read_object`), and what has an outline is a text (`isText_of_read`).
-/

namespace Tenancy.Json

/-- The members of an object with their names read. -/
def Named (ms : List (Bytes × Bytes)) (named : List (String × Bytes)) : Prop :=
  List.Forall₂ (fun m p => Spells m.1 p.1.toList ∧ p.2 = m.2) ms named

theorem Derives.bare {v : Bytes} (h : Derives .value v) : Derives (.element v) v := by
  simpa using Derives.element isGap_nil h isGap_nil

theorem isObject_of_members {ms : List (Bytes × Bytes)} {inner : Bytes}
    (h : Derives (.members ms) inner) : IsObject ms (0x7B :: inner) := by
  simpa using IsObject.members isGap_nil h isGap_nil

/-- A value that is cut with the gap in front of it. -/
def CutFrom (p q : String × Bytes) : Prop :=
  q.1 = p.1 ∧ ∃ g, IsGap g ∧ q.2 = g ++ p.2

section Cutting

variable {bs g g' e v part content inner tail rest : Bytes} {name : String} {fuel : Nat}
  {ms : List (Bytes × Bytes)} {named : List (String × Bytes)}

theorem cutValue_append (h : Derives (.element v) e) (rest : Bytes) (hrest : Ends rest) :
    ∃ g g', IsGap g ∧ IsGap g' ∧ cutValue (e ++ rest) = some (g ++ v, g' ++ rest) := by
  obtain ⟨g, g', before, behind, rfl, hskip⟩ := h.followed
  refine ⟨g, g', before, behind, ?_⟩
  have hvalue := hskip ((g ++ (v ++ g') ++ rest).length + 1) rest (by simp; omega) hrest
  have htake : (g ++ (v ++ g') ++ rest).take
      ((g ++ (v ++ g') ++ rest).length - (g' ++ rest).length) = g ++ v := by
    have hassoc : g ++ (v ++ g') ++ rest = (g ++ v) ++ (g' ++ rest) := by simp
    rw [hassoc, List.length_append, Nat.add_sub_cancel, List.take_left]
  rw [cutValue, hvalue]
  simp only [Option.bind_eq_bind, Option.bind_some, htake]
  rfl

namespace Outline

theorem cutMembers_succ (fuel : Nat) (before : IsGap g) (spelled : Spells content name.toList)
    (behind : IsGap g') (h : cutValue tail = some (part, rest)) :
    cutMembers (fuel + 1) (g ++ quote :: (content ++ quote :: (g' ++ 0x3A :: tail))) =
      match skipGap rest with
      | 0x7D :: rest => if (skipGap rest).isEmpty then some [(name, part)] else none
      | 0x2C :: rest => ((name, part) :: ·) <$> cutMembers fuel rest
      | _ => none := by
  have hname : readString (content ++ quote :: (g' ++ 0x3A :: tail)) =
      .ok (name, g' ++ 0x3A :: tail) := by
    rw [readString_spelled spelled, String.ofList_toList]
  have hcolon : skipGap (g' ++ 0x3A :: tail) = 0x3A :: tail := by
    rw [skipGap_append behind, skipGap_cons (by decide)]
  have hquote : skipGap (g ++ quote :: (content ++ quote :: (g' ++ 0x3A :: tail))) =
      0x22 :: (content ++ quote :: (g' ++ 0x3A :: tail)) := by
    rw [skipGap_append before, skipGap_cons (by decide)]
    rfl
  have hstep := cutMembers.eq_def (fuel + 1)
    (g ++ quote :: (content ++ quote :: (g' ++ 0x3A :: tail)))
  simp only [hquote, hname, Except.toOption, Option.bind_eq_bind, Option.bind_some, hcolon, h]
    at hstep
  exact hstep

theorem cutMembers_append (h : Derives (.members ms) inner) (hnamed : Named ms named)
    (fuel : Nat) (hfuel : inner.length ≤ fuel) (hgap : IsGap g) :
    ∃ parts, List.Forall₂ CutFrom named parts ∧ cutMembers fuel (inner ++ g) = some parts := by
  induction hnamed generalizing inner fuel with
  | nil => cases h
  | @cons m p ms named hmember hrest ih =>
    obtain ⟨content, v⟩ := m
    obtain ⟨name, v'⟩ := p
    obtain ⟨spelled, hv⟩ := hmember
    obtain rfl : v' = v := hv
    cases h with
    | @lastMember g₁ _ g₂ _ e before _ behind element =>
      cases hrest
      obtain ⟨fuel, rfl⟩ := exists_fuel hfuel (by simp)
      obtain ⟨g₃, g₄, hg₃, hg₄, hvalue⟩ :=
        cutValue_append element (0x7D :: g) (ends_cons (by decide))
      refine ⟨[(name, g₃ ++ v')], .cons ⟨rfl, g₃, hg₃, rfl⟩ .nil, ?_⟩
      have hcut := cutMembers_succ fuel before spelled behind hvalue
      rw [skipGap_append hg₄, skipGap_cons (by decide)] at hcut
      simpa [skipGap_of_gap hgap] using hcut
    | @member g₁ _ g₂ _ e more _ before _ behind element members =>
      obtain ⟨fuel, rfl⟩ := exists_fuel hfuel (by simp)
      obtain ⟨g₃, g₄, hg₃, hg₄, hvalue⟩ :=
        cutValue_append element (0x2C :: (more ++ g)) (ends_cons (by decide))
      obtain ⟨parts, hparts, hmore⟩ := ih members fuel (by simp at hfuel; omega)
      refine ⟨(name, g₃ ++ v') :: parts, .cons ⟨rfl, g₃, hg₃, rfl⟩ hparts, ?_⟩
      have hcut := cutMembers_succ fuel before spelled behind hvalue
      rw [skipGap_append hg₄, skipGap_cons (by decide)] at hcut
      simpa [hmore] using hcut

/-- The gap in front of the first member can be left out. -/
theorem skipGap_members (h : Derives (.members ms) inner) : ∃ g inner', IsGap g ∧
    Derives (.members ms) inner' ∧ inner = g ++ inner' ∧
      ∀ rest, skipGap (inner ++ rest) = inner' ++ rest ∧ (inner' ++ rest).head? = some quote := by
  cases h with
  | lastMember before name behind element =>
    refine ⟨_, _, before, .lastMember isGap_nil name behind element, rfl, fun rest => ⟨?_, rfl⟩⟩
    rw [List.append_assoc, skipGap_append before]
    exact skipGap_cons (by decide)
  | member before name behind element members =>
    refine ⟨_, _, before, .member isGap_nil name behind element members, rfl,
      fun rest => ⟨?_, rfl⟩⟩
    rw [List.append_assoc, skipGap_append before]
    exact skipGap_cons (by decide)

/-- The members of an object are cut behind its brace. -/
theorem read_members (before : IsGap g) (inside : Derives (.members ms) inner) (g' : Bytes) :
    ∃ inner', Derives (.members ms) inner' ∧ read (g ++ 0x7B :: (inner ++ g')) =
      (cutMembers (inner' ++ g').length (inner' ++ g')).map members := by
  obtain ⟨g₀, inner', -, inside', rfl, hskip⟩ := skipGap_members inside
  have hbrace : skipGap (g ++ 0x7B :: (g₀ ++ inner' ++ g')) = 0x7B :: (g₀ ++ inner' ++ g') := by
    rw [skipGap_append before, skipGap_cons (by decide)]
  refine ⟨inner', inside', ?_⟩
  rw [read, hbrace]
  simp only [(hskip g').1]
  split
  · next heq =>
    have hhead := (hskip g').2
    rw [heq] at hhead
    cases hhead
  · rfl

theorem read_object {text : Bytes} (h : IsObject ms text) (hnamed : Named ms named) :
    ∃ parts, List.Forall₂ CutFrom named parts ∧ read text = some (.members parts) := by
  cases h with
  | @empty g g' g'' before within behind =>
    cases hnamed
    have hbrace : skipGap (g ++ 0x7B :: (g' ++ 0x7D :: g'')) = 0x7B :: (g' ++ 0x7D :: g'') := by
      rw [skipGap_append before, skipGap_cons (by decide)]
    have hend : skipGap (g' ++ 0x7D :: g'') = 0x7D :: g'' := by
      rw [skipGap_append within, skipGap_cons (by decide)]
    refine ⟨[], .nil, ?_⟩
    simp [read, hbrace, hend, skipGap_of_gap behind]
  | @members g inner g' _ before inside behind =>
    obtain ⟨inner', inside', hread⟩ := read_members before inside g'
    obtain ⟨parts, hparts, hcut⟩ :=
      cutMembers_append inside' hnamed (inner' ++ g').length (by simp) behind
    exact ⟨parts, hparts, by rw [hread, hcut]; rfl⟩

end Outline

end Cutting

section Reading

variable {bs part rest : Bytes} {fuel : Nat}

theorem exists_element_of_cutValue (h : cutValue bs = some (part, rest)) :
    ∃ v e, Derives (.element v) e ∧ bs = e ++ skipGap rest := by
  obtain ⟨rest', hskip, heq⟩ := Option.bind_eq_some_iff.mp h
  cases heq
  exact exists_element (followsParts _) hskip

/-- A row of items or members may stand behind a gap. -/
theorem Derives.gap_append {p : Part} {g : Bytes} (h : Derives p bs) (hp : p ≠ .value)
    (gap : IsGap g) : Derives p (g ++ bs) := by
  have helement : ∀ {v e : Bytes}, Derives (.element v) e → Derives (.element v) (g ++ e) := by
    intro v e h
    cases h with
    | element before value behind =>
      rw [← List.append_assoc]
      exact .element (gap.append before) value behind
  cases h with
  | element before value behind => exact helement (.element before value behind)
  | lastItem item =>
    rw [← List.append_assoc]
    exact .lastItem (helement item)
  | item item more =>
    rw [← List.append_assoc]
    exact .item (helement item) more
  | lastMember before name behind value =>
    rw [← List.append_assoc]
    exact .lastMember (gap.append before) name behind value
  | member before name behind value more =>
    rw [← List.append_assoc]
    exact .member (gap.append before) name behind value more
  | _ => exact absurd rfl hp

theorem isGap_of_isEmpty (h : (skipGap bs).isEmpty = true) : IsGap bs :=
  List.dropWhile_eq_nil_iff.mp (List.isEmpty_iff.mp h)

namespace Outline

theorem items_of_cutItems {parts : List Bytes} (h : cutItems fuel bs = some parts) :
    ∃ vs inner g, Derives (.items vs) inner ∧ IsGap g ∧ bs = inner ++ g := by
  induction fuel generalizing bs parts with
  | zero => cases h
  | succ fuel ih =>
    rw [cutItems] at h
    obtain ⟨⟨part, rest⟩, hvalue, hend⟩ := Option.bind_eq_some_iff.mp h
    obtain ⟨v, e, element, rfl⟩ := exists_element_of_cutValue hvalue
    dsimp only at hend
    split at hend
    · next tail heq =>
      rw [Option.ite_none_right_eq_some] at hend
      exact ⟨_, _, tail, .lastItem element, isGap_of_isEmpty hend.1, by simp [heq]⟩
    · next tail heq =>
      obtain ⟨parts', hcut, -⟩ := Option.map_eq_some_iff.mp hend
      obtain ⟨vs, inner, g, items, gap, rfl⟩ := ih hcut
      exact ⟨_, _, g, .item element items, gap, by simp [heq]⟩
    · cases hend

theorem members_of_cutMembers {parts : List (String × Bytes)}
    (h : cutMembers fuel bs = some parts) :
    ∃ ms inner g, Derives (.members ms) inner ∧ IsGap g ∧ bs = inner ++ g := by
  induction fuel generalizing bs parts with
  | zero => cases h
  | succ fuel ih =>
    obtain ⟨g₁, before, hbs⟩ := exists_gap bs
    rw [cutMembers] at h
    split at h
    · next tail heq =>
      obtain ⟨⟨name, named⟩, hname, hcolon⟩ := Option.bind_eq_some_iff.mp h
      obtain ⟨content, content_is, rfl⟩ := content_of_readString (eq_ok_of_toOption hname)
      obtain ⟨g₂, behind, hnamed⟩ := exists_gap named
      dsimp only at hcolon
      split at hcolon
      · next tail' heq' =>
        obtain ⟨⟨part, rest⟩, hvalue, hend⟩ := Option.bind_eq_some_iff.mp hcolon
        obtain ⟨v, e, element, rfl⟩ := exists_element_of_cutValue hvalue
        rw [hbs, heq, hnamed, heq']
        dsimp only at hend
        split at hend
        · next tail'' heq'' =>
          rw [Option.ite_none_right_eq_some] at hend
          exact ⟨_, _, tail'', .lastMember before content_is behind element,
            isGap_of_isEmpty hend.1, by simp [heq'', quote]⟩
        · next tail'' heq'' =>
          obtain ⟨parts', hcut, -⟩ := Option.map_eq_some_iff.mp hend
          obtain ⟨ms, inner, g, members, gap, rfl⟩ := ih hcut
          exact ⟨_, _, g, .member before content_is behind element members, gap,
            by simp [heq'', quote]⟩
        · cases hend
      · cases hcolon
    · cases h

/-- What has an outline is a JSON text. -/
theorem isText_of_read {text : Bytes} {o : Outline} (h : read text = some o) : IsText text := by
  obtain ⟨g, before, htext⟩ := exists_gap text
  have htexts : ∀ {v g' : Bytes}, Derives .value v → IsGap g' → skipGap text = v ++ g' →
      IsText text := by
    intro v g' value behind heq
    exact ⟨v, by rw [htext, heq]; exact .element before value behind⟩
  unfold read at h
  split at h
  · next tail heq =>
    obtain ⟨g', within, htail⟩ := exists_gap tail
    split at h
    · next tail' heq' =>
      rw [Option.ite_none_right_eq_some] at h
      exact htexts (.emptyObject within) (isGap_of_isEmpty h.1) (by rw [heq, htail, heq']; simp)
    · obtain ⟨parts, hcut, -⟩ := Option.map_eq_some_iff.mp h
      obtain ⟨ms, inner, g'', members, behind, hinner⟩ := members_of_cutMembers hcut
      exact htexts (.object (members.gap_append nofun within)) behind
        (by rw [heq, htail, hinner]; simp)
  · next tail heq =>
    obtain ⟨g', within, htail⟩ := exists_gap tail
    split at h
    · next tail' heq' =>
      rw [Option.ite_none_right_eq_some] at h
      exact htexts (.emptyArray within) (isGap_of_isEmpty h.1) (by rw [heq, htail, heq']; simp)
    · obtain ⟨parts, hcut, -⟩ := Option.map_eq_some_iff.mp h
      obtain ⟨vs, inner, g'', items, behind, hinner⟩ := items_of_cutItems hcut
      exact htexts (.array (items.gap_append nofun within)) behind
        (by rw [heq, htail, hinner]; simp)
  · cases h

end Outline

end Reading

end Tenancy.Json
