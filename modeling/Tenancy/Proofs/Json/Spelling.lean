import Mathlib.Data.List.Perm.Basic
import Tenancy.Proofs.Json.Fields

/-!
# Spellings of documents

A field may be given under any of its names, and members that name no field stand for nothing. So
documents that differ in these, or in the order of members, are the same to a decoder. Where two
members name one field the document is refused.
-/

namespace Tenancy.Json

/-- The fields of a record by their names, with what a value of each has in common with another. -/
abbrev Likeness := List (List String × (Json → Json → Prop))

/-- A member for another: of the same field under any of its names, or the same that names none. -/
inductive MemberAlike (fields : Likeness) : String × Json → String × Json → Prop where
  | known {f} (hf : f ∈ fields) {name name' : String} (named : name ∈ f.1) (named' : name' ∈ f.1)
    {v v' : Json} (alike : f.2 v v') : MemberAlike fields (name, v) (name', v')
  | unknown {m} (other : ∀ f ∈ fields, m.1 ∉ f.1) : MemberAlike fields m m

/-- Items for others, each in the place of its field; those that have no place are the same. -/
inductive ItemsAlike : Likeness → List Json → List Json → Prop where
  | none {fields} : ItemsAlike fields [] []
  | left {items} : ItemsAlike [] items items
  | item {f fields v v' items items'} (alike : f.2 v v') (rest : ItemsAlike fields items items') :
    ItemsAlike (f :: fields) (v :: items) (v' :: items')

/-- A record for another: its fields under any of their names, in any order, and among any members
that name no field. -/
inductive RecordAlike (fields : Likeness) : Json → Json → Prop where
  | object {members renamed added members' : List (String × Json)}
    (renames : List.Forall₂ (MemberAlike fields) members renamed)
    (unknown : ∀ m ∈ added, ∀ f ∈ fields, m.1 ∉ f.1)
    (order : members'.Perm (renamed ++ added)) :
    RecordAlike fields (.object members) (.object members')
  | array {items items' : List Json} (inPlace : ItemsAlike fields items items') :
    RecordAlike fields (.array items) (.array items')
  | same (v : Json) : RecordAlike fields v v

/-- A list for another, item by item. -/
inductive ListAlike (R : Json → Json → Prop) : Json → Json → Prop where
  | array {items items' : List Json} (itemwise : List.Forall₂ R items items') :
    ListAlike R (.array items) (.array items')
  | same (v : Json) : ListAlike R v v

/-- A record two of whose members name one field, or one of whose fields is such a record. -/
inductive RecordAmbiguous (fields : List (List String × (Json → Prop))) : Json → Prop where
  | twice {f} (hf : f ∈ fields) {m m' : String × Json} (named : m.1 ∈ f.1) (named' : m'.1 ∈ f.1)
    {members : List (String × Json)} (both : [m, m'].Sublist members) :
    RecordAmbiguous fields (.object members)
  | member {f} (hf : f ∈ fields) {m : String × Json} (named : m.1 ∈ f.1) (within : f.2 m.2)
    {members : List (String × Json)} (hm : m ∈ members) : RecordAmbiguous fields (.object members)
  | item {f} {place : Nat} (hf : fields[place]? = some f) {v : Json} (within : f.2 v)
    {items : List Json} (hv : items[place]? = some v) : RecordAmbiguous fields (.array items)

/-- A list that has such a record among its items. -/
inductive ListAmbiguous (P : Json → Prop) : Json → Prop where
  | item {v : Json} (within : P v) {items : List Json} (hv : v ∈ items) :
    ListAmbiguous P (.array items)

section Agreeing

variable {α β γ ε : Type} {R R' : Json → Json → Prop} {names names' : List String}
  {required required' : Bool} {means : Json → α → Prop} {means' : Json → β → Prop} {v v' : Json}

theorem toOption_eq_iff {x y : Except ε α} :
    x.toOption = y.toOption ↔ ∀ a, x = .ok a ↔ y = .ok a := by
  cases x <;> cases y <;> simp [Except.toOption, eq_comm]

/-- The values under the names of a field go for each other. -/
theorem under_alike {fields : Likeness} {f} (hf : f ∈ fields)
    (apart : ∀ g ∈ fields, ∀ name ∈ g.1, name ∈ f.1 → g = f) {members renamed}
    (renames : List.Forall₂ (MemberAlike fields) members renamed) :
    List.Forall₂ f.2 (under f.1 members) (under f.1 renamed) := by
  induction renames with
  | nil => exact .nil
  | cons hm _ ih =>
    cases hm with
    | @known g hg name name' named named' v v' alike =>
      by_cases hname : name ∈ f.1
      · obtain rfl := apart g hg name named hname
        rw [under_cons_of_mem named, under_cons_of_mem named']
        exact .cons alike ih
      · have hname' : name' ∉ f.1 := by
          intro h
          obtain rfl := apart g hg name' named' h
          exact hname named
        rwa [under_cons_of_not_mem hname, under_cons_of_not_mem hname']
    | unknown other => rwa [under_cons_of_not_mem (other f hf), under_cons_of_not_mem (other f hf)]

/-- An object for another has for each field what the other has, in some order. -/
theorem exists_under_alike {fields : Likeness} {f} (hf : f ∈ fields)
    (apart : ∀ g ∈ fields, ∀ name ∈ g.1, name ∈ f.1 → g = f) {members renamed added members'}
    (renames : List.Forall₂ (MemberAlike fields) members renamed)
    (unknown : ∀ m ∈ added, ∀ f ∈ fields, m.1 ∉ f.1) (order : members'.Perm (renamed ++ added)) :
    ∃ values, List.Forall₂ f.2 (under f.1 members) values ∧
      (under f.1 members').Perm values := by
  refine ⟨under f.1 renamed, under_alike hf apart renames, ?_⟩
  have hadded : under f.1 added = [] := under_eq_nil fun m hm => unknown m hm f hf
  have happend : under f.1 (renamed ++ added) = under f.1 renamed := by
    rw [under, List.filter_append, List.map_append, ← under, ← under, hadded, List.append_nil]
  rw [← happend]
  exact (order.filter _).map _

/-- One value at most stands for a field, so their order makes no difference. -/
theorem Holds.congr (hR : ∀ v v', R v v' → ∀ a, means v a ↔ means v' a) {vs ws vs' : List Json}
    (alike : List.Forall₂ R vs ws) (order : vs'.Perm ws) (given : Option α) :
    Holds means vs given ↔ Holds means vs' given := by
  constructor
  · intro held
    cases held with
    | absent =>
      cases alike
      rw [List.perm_nil.mp order]
      exact .absent
    | present meant =>
      cases alike with
      | cons h rest =>
        cases rest
        rw [List.perm_singleton.mp order]
        exact .present ((hR _ _ h _).mp meant)
  · intro held
    cases held with
    | absent =>
      obtain rfl := List.nil_perm.mp order
      cases alike
      exact .absent
    | present meant =>
      obtain rfl := List.singleton_perm.mp order
      cases alike with
      | cons h rest =>
        cases rest
        exact .present ((hR _ _ h _).mpr meant)

/-- Documents alike give the same for a record of one field. -/
theorem Gives.congr (hR : ∀ v v', R v v' → ∀ a, means v a ↔ means v' a)
    (alike : RecordAlike [(names, R)] v v') (given : Option α) :
    Gives names required means v given ↔ Gives names required means v' given := by
  cases alike with
  | same => rfl
  | object renames unknown order =>
    have apart : ∀ g ∈ [(names, R)], ∀ name ∈ g.1, name ∈ names → g = (names, R) :=
      fun g hg _ _ _ => List.mem_singleton.mp hg
    obtain ⟨values, halike, horder⟩ :=
      exists_under_alike List.mem_cons_self apart renames unknown order
    have held := Holds.congr hR halike horder given
    exact ⟨fun | .object h => .object (held.mp h), fun | .object h => .object (held.mpr h)⟩
  | array inPlace =>
    constructor
    · rintro (_ | optional | meant)
      · cases inPlace
        exact .noItem optional
      · cases inPlace with
        | item alike rest => cases rest <;> exact .item ((hR _ _ alike _).mp meant)
    · rintro (_ | optional | meant)
      · cases inPlace
        exact .noItem optional
      · cases inPlace with
        | item alike rest => cases rest <;> exact .item ((hR _ _ alike _).mpr meant)

/-- Documents alike give the same for a record of two fields. -/
theorem GivesBoth.congr (hR : ∀ v v', R v v' → ∀ a, means v a ↔ means v' a)
    (hR' : ∀ v v', R' v v' → ∀ b, means' v b ↔ means' v' b)
    (apart : ∀ name ∈ names, name ∉ names') (alike : RecordAlike [(names, R), (names', R')] v v')
    (given : Option α × Option β) :
    GivesBoth names required means names' required' means' v given ↔
      GivesBoth names required means names' required' means' v' given := by
  cases alike with
  | same => rfl
  | object renames unknown order =>
    have hfirst : ∀ g ∈ [(names, R), (names', R')], ∀ name ∈ g.1, name ∈ names →
        g = (names, R) := by
      rintro g hg name hname hnames
      rcases List.mem_pair.mp hg with rfl | rfl
      · rfl
      · exact absurd hname (apart name hnames)
    have hsecond : ∀ g ∈ [(names, R), (names', R')], ∀ name ∈ g.1, name ∈ names' →
        g = (names', R') := by
      rintro g hg name hname hnames
      rcases List.mem_pair.mp hg with rfl | rfl
      · exact absurd hnames (apart name hname)
      · rfl
    obtain ⟨values, halike, horder⟩ :=
      exists_under_alike (List.mem_pair.mpr (.inl rfl)) hfirst renames unknown order
    obtain ⟨values', halike', horder'⟩ :=
      exists_under_alike (List.mem_pair.mpr (.inr rfl)) hsecond renames unknown order
    have held := Holds.congr hR halike horder given.1
    have held' := Holds.congr hR' halike' horder' given.2
    exact ⟨fun | .object h h' => .object (held.mp h) (held'.mp h'),
      fun | .object h h' => .object (held.mpr h) (held'.mpr h')⟩
  | array inPlace =>
    constructor
    · rintro (_ | ⟨optional, optional'⟩ | ⟨meant, optional'⟩ | ⟨meant, meant'⟩)
      · cases inPlace
        exact .noItem optional optional'
      · cases inPlace with
        | item alike rest =>
          cases rest
          exact .oneItem ((hR _ _ alike _).mp meant) optional'
      · obtain _ | _ | ⟨alike, _ | _ | ⟨alike', rest⟩⟩ := inPlace
        cases rest <;> exact .items ((hR _ _ alike _).mp meant) ((hR' _ _ alike' _).mp meant')
    · rintro (_ | ⟨optional, optional'⟩ | ⟨meant, optional'⟩ | ⟨meant, meant'⟩)
      · cases inPlace
        exact .noItem optional optional'
      · cases inPlace with
        | item alike rest =>
          cases rest
          exact .oneItem ((hR _ _ alike _).mpr meant) optional'
      · obtain _ | _ | ⟨alike, _ | _ | ⟨alike', rest⟩⟩ := inPlace
        cases rest <;> exact .items ((hR _ _ alike _).mpr meant) ((hR' _ _ alike' _).mpr meant')

end Agreeing

section Ambiguity

variable {α β : Type} {P P' : Json → Prop} {names names' : List String} {required required' : Bool}
  {means : Json → α → Prop} {means' : Json → β → Prop} {v : Json}

theorem mem_under {m : String × Json} {members : List (String × Json)} (named : m.1 ∈ names)
    (hm : m ∈ members) : m.2 ∈ under names members :=
  List.mem_map.mpr ⟨m, List.mem_filter.mpr ⟨hm, by simpa using named⟩, rfl⟩

/-- Nothing stands for a field that two members name. -/
theorem Holds.not_twice {m m' : String × Json} (named : m.1 ∈ names) (named' : m'.1 ∈ names)
    {members : List (String × Json)} (both : [m, m'].Sublist members) (given : Option α) :
    ¬ Holds means (under names members) given := by
  have htwo : [m, m'].filter (fun m => names.contains m.1) = [m, m'] :=
    List.filter_eq_self.mpr (by simpa using ⟨named, named'⟩)
  have hlength : 2 ≤ (under names members).length := by
    have hsub := (both.filter fun m => names.contains m.1).length_le
    rw [htwo] at hsub
    rwa [under, List.length_map]
  intro held
  generalize under names members = values at held hlength
  cases held <;> simp at hlength

/-- Nothing stands for a field that one member of no meaning names. -/
theorem Holds.not_within (hP : ∀ v, P v → ∀ a, ¬ means v a) {m : String × Json}
    (named : m.1 ∈ names) (within : P m.2) {members : List (String × Json)} (hm : m ∈ members)
    (given : Option α) : ¬ Holds means (under names members) given := by
  have hmem := mem_under named hm
  intro held
  generalize under names members = values at held hmem
  cases held with
  | absent => cases hmem
  | present meant =>
    obtain rfl := List.mem_singleton.mp hmem
    exact hP _ within _ meant

/-- Nothing is given for a record of one field by a document that is ambiguous. -/
theorem Gives.not_ambiguous (hP : ∀ v, P v → ∀ a, ¬ means v a)
    (ambiguous : RecordAmbiguous [(names, P)] v) (given : Option α) :
    ¬ Gives names required means v given := by
  intro gives
  cases ambiguous with
  | twice hf named named' both =>
    obtain rfl := List.mem_singleton.mp hf
    cases gives with
    | object held => exact Holds.not_twice named named' both given held
  | member hf named within hm =>
    obtain rfl := List.mem_singleton.mp hf
    cases gives with
    | object held => exact Holds.not_within hP named within hm given held
  | @item f place hf v within items hv =>
    rcases place with _ | _ | _ <;> cases hf
    cases gives with
    | noItem => cases hv
    | item meant =>
      cases hv
      exact hP _ within _ meant

/-- Nothing is given for a record of two fields by a document that is ambiguous. -/
theorem GivesBoth.not_ambiguous (hP : ∀ v, P v → ∀ a, ¬ means v a)
    (hP' : ∀ v, P' v → ∀ b, ¬ means' v b) (ambiguous : RecordAmbiguous [(names, P), (names', P')] v)
    (given : Option α × Option β) :
    ¬ GivesBoth names required means names' required' means' v given := by
  intro gives
  cases ambiguous with
  | twice hf named named' both =>
    cases gives with
    | object first second =>
      rcases List.mem_pair.mp hf with rfl | rfl
      · exact Holds.not_twice named named' both _ first
      · exact Holds.not_twice named named' both _ second
  | member hf named within hm =>
    cases gives with
    | object first second =>
      rcases List.mem_pair.mp hf with rfl | rfl
      · exact Holds.not_within hP named within hm _ first
      · exact Holds.not_within hP' named within hm _ second
  | @item f place hf v within items hv =>
    rcases place with _ | _ | _ <;> cases hf
    · cases gives with
      | noItem => cases hv
      | oneItem meant =>
        cases hv
        exact hP _ within _ meant
      | items meant meant' =>
        cases hv
        exact hP _ within _ meant
    · cases gives with
      | noItem => cases hv
      | oneItem => cases hv
      | items meant meant' =>
        cases hv
        exact hP' _ within _ meant'

end Ambiguity

/-- A decoder that goes by what is in a document and not by how it is spelled: documents alike are
the same to it, and one that is ambiguous is refused. -/
structure IgnoresSpelling {α : Type} (alike : Json → Json → Prop) (ambiguous : Json → Prop)
    (decode : Decoder α) : Prop where
  same : ∀ {v v' : Json}, alike v v' → (decode v).toOption = (decode v').toOption
  refused : ∀ {v : Json}, ambiguous v → ∃ why, decode v = .error why

namespace IgnoresSpelling

variable {α β γ : Type} {R R' : Json → Json → Prop} {P P' : Json → Prop} {content : Decoder α}
  {content' : Decoder β} {name name' : String} {others others' : List String}
  {required required' : Bool}

theorem ok_iff (h : IgnoresSpelling R P content) (v v' : Json) (alike : R v v') (a : α) :
    content v = .ok a ↔ content v' = .ok a :=
  toOption_eq_iff.mp (h.same alike) a

theorem not_ok (h : IgnoresSpelling R P content) (v : Json) (ambiguous : P v) (a : α) :
    ¬ content v = .ok a := by
  obtain ⟨why, hwhy⟩ := h.refused ambiguous
  simp [hwhy]

theorem of_ok_iff (same : ∀ v v', R v v' → ∀ a, content v = .ok a ↔ content v' = .ok a)
    (refused : ∀ v, P v → ∀ a, ¬ content v = .ok a) : IgnoresSpelling R P content where
  same alike := toOption_eq_iff.mpr (same _ _ alike)
  refused {v} ambiguous := by
    cases hv : content v with
    | error why => exact ⟨why, rfl⟩
    | ok a => exact absurd hv (refused v ambiguous a)

/-- What is no record has one spelling only. -/
theorem leaf (content : Decoder α) : IgnoresSpelling Eq (fun _ => False) content where
  same := congrArg fun v => (content v).toOption
  refused := False.elim

theorem list (h : IgnoresSpelling R P content) :
    IgnoresSpelling (ListAlike R) (ListAmbiguous P) (asList content) := by
  refine of_ok_iff (fun v v' alike as => ?_) fun v ambiguous as hv => ?_
  · cases alike with
    | same => rfl
    | @array items items' itemwise =>
      have htaken : items.mapM content = .ok as ↔ items'.mapM content = .ok as := by
        rw [mapM_eq_ok_iff, mapM_eq_ok_iff]
        induction itemwise generalizing as with
        | nil => rfl
        | cons alike _ ih => simp only [List.forall₂_cons_left_iff, ih, h.ok_iff _ _ alike]
      exact htaken
  · cases ambiguous with
    | item within hmem =>
      obtain ⟨_, ⟨rfl⟩, htaken⟩ := asList_eq_ok_iff.mp hv
      obtain ⟨a, -, ha⟩ := exists_of_mem htaken hmem
      exact h.not_ok _ within _ ha

theorem single {shape : Shape (Option α) γ}
    (hfields : shape.fields = [.single name others required content]) (hempty : shape.empty = none)
    (h : IgnoresSpelling R P content) :
    IgnoresSpelling (RecordAlike [(name :: others, R)]) (RecordAmbiguous [(name :: others, P)])
      shape.decode := by
  have hdecode (v : Json) (c : γ) := shape.decode_single_iff (v := v) (c := c) hfields hempty
    fun _ _ => Iff.rfl
  refine of_ok_iff (fun v v' alike c => ?_) fun v ambiguous c hv => ?_
  · simp only [hdecode, Gives.congr h.ok_iff alike]
  · obtain ⟨given, gives, -⟩ := (hdecode v c).mp hv
    exact Gives.not_ambiguous h.not_ok ambiguous given gives

theorem pair {shape : Shape (Option α × Option β) γ}
    (hfields : shape.fields = [(Field.single name others required content).inFst,
      (Field.single name' others' required' content').inSnd])
    (hempty : shape.empty = (none, none)) (apart : ∀ n ∈ name :: others, n ∉ name' :: others')
    (h : IgnoresSpelling R P content) (h' : IgnoresSpelling R' P' content') :
    IgnoresSpelling (RecordAlike [(name :: others, R), (name' :: others', R')])
      (RecordAmbiguous [(name :: others, P), (name' :: others', P')]) shape.decode := by
  have hdecode (v : Json) (c : γ) := shape.decode_pair_iff (v := v) (c := c) hfields hempty apart
    (fun _ _ => Iff.rfl) fun _ _ => Iff.rfl
  refine of_ok_iff (fun v v' alike c => ?_) fun v ambiguous c hv => ?_
  · simp only [hdecode, GivesBoth.congr h.ok_iff h'.ok_iff apart alike]
  · obtain ⟨given, gives, -⟩ := (hdecode v c).mp hv
    exact GivesBoth.not_ambiguous h.not_ok h'.not_ok ambiguous given gives

end IgnoresSpelling

end Tenancy.Json
