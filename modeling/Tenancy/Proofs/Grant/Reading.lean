import Tenancy.Proofs.Grant

/-!
# Reading grants off their paths

A path is cut at its slashes into six parts, and two of them are free texts. The grant is read back
from these parts and from no others (`Grant.ofParts?_eq_some_iff`), so a path tells its grant, and
without its last part it is the path of the collection (`paths_identify_grants`).
-/

namespace Tenancy

namespace Text

/-- The parts of a path between its slashes. -/
def parts (path : String) : List String :=
  (cutAt (· == '/') path.toList).map .ofList

theorem parts_of_notMem {s : String} (h : '/' ∉ s.toList) : parts s = [s] := by
  rw [parts, cutAt_beq_of_notMem h, List.map_singleton, String.ofList_toList]

theorem parts_append (s t : String) : parts (s ++ "/" ++ t) = parts s ++ parts t := by
  have hchars : (s ++ "/" ++ t).toList = s.toList ++ '/' :: t.toList := by simp
  rw [parts, hchars, cutAt_append_cons (by decide), List.map_append]
  rfl

theorem parts_intercalate {s : String} {ss : List String} (h : ∀ t ∈ s :: ss, '/' ∉ t.toList) :
    parts ("/".intercalate (s :: ss)) = s :: ss := by
  induction ss generalizing s with
  | nil => exact parts_of_notMem (h s (List.mem_singleton_self s))
  | cons t ss ih =>
    rw [String.intercalate_cons_cons, parts_append, parts_of_notMem (h s List.mem_cons_self),
      ih fun u hu => h u (List.mem_cons_of_mem _ hu), List.singleton_append]

end Text

/-- The identifier that is written in this way. -/
def Identifier.ofText? (kind : Identifier.Kind) (s : String) : Option (Identifier kind) :=
  (Identifier.check kind s).toOption.filter (·.text = s)

theorem Identifier.ofText?_eq_some_iff {kind : Identifier.Kind} {s : String}
    {a : Identifier kind} : ofText? kind s = some a ↔ a.text = s := by
  constructor
  · intro h
    simpa using (Option.filter_eq_some_iff.mp h).2
  · rintro rfl
    simp [ofText?, check_text, Except.toOption]

def Scope.ofSegment? (s : String) : Option Scope :=
  [organization, space].find? (·.segment = s)

def OrganizationRole.ofSegment? (s : String) : Option OrganizationRole :=
  all.find? (·.segment = s)

def SpaceRole.ofSegment? (s : String) : Option SpaceRole :=
  all.find? (·.segment = s)

theorem Scope.ofSegment?_eq_some_iff {s : String} {scope : Scope} :
    ofSegment? s = some scope ↔ scope.segment = s := by
  constructor
  · intro h
    simpa using List.find?_some h
  · rintro rfl
    cases scope <;> decide

theorem OrganizationRole.ofSegment?_eq_some_iff {s : String} {role : OrganizationRole} :
    ofSegment? s = some role ↔ role.segment = s := by
  constructor
  · intro h
    simpa using List.find?_some h
  · rintro rfl
    cases role <;> decide

theorem SpaceRole.ofSegment?_eq_some_iff {s : String} {role : SpaceRole} :
    ofSegment? s = some role ↔ role.segment = s := by
  constructor
  · intro h
    simpa using List.find?_some h
  · rintro rfl
    cases role <;> decide

namespace Grant

def scope : Grant → Scope
  | organization .. => .organization
  | space .. => .space

/-- The id of the organization or the space. -/
def target : Grant → String
  | organization _ target _ => target.text
  | space _ target _ => target.text

def role : Grant → OrganizationRole ⊕ SpaceRole
  | organization _ _ role => .inl role
  | space _ _ role => .inr role

def roleSegment (g : Grant) : String :=
  g.role.elim (·.segment) (·.segment)

/-- The grant whose path has these parts. -/
def ofParts? : List String → Option Grant
  | ["", "v2", scope, target, segment, user] => do
    let user ← Identifier.ofText? .user user
    match ← Scope.ofSegment? scope with
    | .organization =>
      let target ← Identifier.ofText? .organization target
      let role ← OrganizationRole.ofSegment? segment
      pure (organization user target role)
    | .space =>
      let target ← Identifier.ofText? .space target
      let role ← SpaceRole.ofSegment? segment
      pure (space user target role)
  | _ => none

section Paths

variable (g : Grant)

theorem slash_notMem_target : '/' ∉ g.target.toList := by
  cases g with
  | organization _ target _ => exact target.slash_notMem
  | space _ target _ => exact target.slash_notMem

theorem slash_notMem_roleSegment : '/' ∉ g.roleSegment.toList := by
  cases g with
  | organization _ _ role => exact role.slash_notMem_segment
  | space _ _ role => exact role.slash_notMem_segment

theorem collection_eq : g.collection = g.scope.collection g.target g.roleSegment := by
  cases g <;> rfl

theorem collection_eq_intercalate :
    g.collection = "/".intercalate ["", "v2", g.scope.segment, g.target, g.roleSegment] := by
  have hfront : "" ++ "/" ++ ("v2" ++ "/") = "/v2/" := rfl
  simp only [collection_eq, Scope.collection, String.intercalate_cons_cons,
    String.intercalate_singleton, ← hfront, String.append_assoc]

theorem parts_collection :
    Text.parts g.collection = ["", "v2", g.scope.segment, g.target, g.roleSegment] := by
  rw [collection_eq_intercalate, Text.parts_intercalate]
  simp [g.scope.slash_notMem_segment, g.slash_notMem_target, g.slash_notMem_roleSegment]

theorem parts_path : Text.parts g.path =
    ["", "v2", g.scope.segment, g.target, g.roleSegment, g.user.text] := by
  rw [path, Text.parts_append, parts_collection, Text.parts_of_notMem g.user.slash_notMem]
  rfl

/-- A grant is read from the parts of its path, and from no others. -/
theorem ofParts?_eq_some_iff {g : Grant} {ps : List String} :
    ofParts? ps = some g ↔ ps = Text.parts g.path := by
  rw [parts_path]
  constructor
  · intro h
    unfold ofParts? at h
    split at h
    · simp only [Option.bind_eq_bind, Option.bind_eq_some_iff, Identifier.ofText?_eq_some_iff,
        Scope.ofSegment?_eq_some_iff] at h
      obtain ⟨user, rfl, scope, rfl, h⟩ := h
      cases scope with
      | organization =>
        simp only [Option.bind_eq_some_iff, Identifier.ofText?_eq_some_iff,
          OrganizationRole.ofSegment?_eq_some_iff] at h
        obtain ⟨target, rfl, role, rfl, hg⟩ := h
        cases hg
        rfl
      | space =>
        simp only [Option.bind_eq_some_iff, Identifier.ofText?_eq_some_iff,
          SpaceRole.ofSegment?_eq_some_iff] at h
        obtain ⟨target, rfl, role, rfl, hg⟩ := h
        cases hg
        rfl
    · cases h
  · rintro rfl
    have hid {kind : Identifier.Kind} (a : Identifier kind) :
        Identifier.ofText? kind a.text = some a := Identifier.ofText?_eq_some_iff.mpr rfl
    have hscope (scope : Scope) : Scope.ofSegment? scope.segment = some scope :=
      Scope.ofSegment?_eq_some_iff.mpr rfl
    cases g with
    | organization user target role =>
      have hrole : OrganizationRole.ofSegment? role.segment = some role :=
        OrganizationRole.ofSegment?_eq_some_iff.mpr rfl
      simp [ofParts?, Grant.scope, Grant.target, Grant.user, roleSegment, Grant.role, hid, hscope,
        hrole]
    | space user target role =>
      have hrole : SpaceRole.ofSegment? role.segment = some role :=
        SpaceRole.ofSegment?_eq_some_iff.mpr rfl
      simp [ofParts?, Grant.scope, Grant.target, Grant.user, roleSegment, Grant.role, hid, hscope,
        hrole]

/-- A collection is told by the kind of its grants, the id of their target and their role. -/
theorem collection_eq_iff {g g' : Grant} : g.collection = g'.collection ↔
    g.scope = g'.scope ∧ g.target = g'.target ∧ g.role = g'.role := by
  constructor
  · intro h
    rw [collection_eq, collection_eq] at h
    obtain ⟨hscope, htarget, hsegment⟩ :=
      Scope.collection_injective g.slash_notMem_target g'.slash_notMem_target h
    refine ⟨hscope, htarget, ?_⟩
    -- The kinds of grants share segments, so the role is told by the segment and the scope.
    cases g <;> cases g'
    case organization.organization =>
      exact congrArg Sum.inl (OrganizationRole.segment_injective hsegment)
    case space.space =>
      exact congrArg Sum.inr (SpaceRole.segment_injective hsegment)
    all_goals cases hscope
  · rintro ⟨hscope, htarget, hrole⟩
    rw [collection_eq, collection_eq, roleSegment, roleSegment, hscope, htarget, hrole]

/-- Without its last part a path is that of the collection. -/
theorem intercalate_dropLast_parts :
    "/".intercalate (Text.parts g.path).dropLast = g.collection := by
  rw [parts_path, collection_eq_intercalate]
  rfl

end Paths

/-- Paths identify grants: two grants have the same path only if they are the same, the six parts
of a path tell the grant, its collection and with it the kind, the target and the role, and no path
of an organization is one of a space. -/
theorem paths_identify_grants (g g' : Grant) :
    (g.path = g'.path ↔ g = g') ∧
    Text.parts g.path = ["", "v2", g.scope.segment, g.target, g.roleSegment, g.user.text] ∧
    (∀ ps, ofParts? ps = some g ↔ ps = Text.parts g.path) ∧
    "/".intercalate (Text.parts g.path).dropLast = g.collection ∧
    (g.collection = g'.collection ↔
      g.scope = g'.scope ∧ g.target = g'.target ∧ g.role = g'.role) ∧
    (g.scope ≠ g'.scope → g.path ≠ g'.path ∧ g.collection ≠ g'.collection) ∧
    g.path ≠ g'.collection := by
  refine ⟨⟨path_injective, congrArg path⟩, g.parts_path, fun _ => ofParts?_eq_some_iff,
    g.intercalate_dropLast_parts, collection_eq_iff, fun hscope => ⟨?_, ?_⟩, ?_⟩
  · intro h
    exact hscope (congrArg scope (path_injective h))
  · intro h
    exact hscope (collection_eq_iff.mp h).1
  -- A path has six parts, a collection five.
  · intro h
    simpa [parts_path, parts_collection] using congrArg (fun path => (Text.parts path).length) h

end Grant

end Tenancy
