import Mathlib.Data.List.Forall2
import Tenancy.Json.Record

/-!
# Fields of documents

What a document has to hold for a record to be taken from it. Under the names of each field there is
one value at most; members of other names make no difference, nor does the order. Records of one
field and records of two are read off by this (`decode_single_iff`, `decode_pair_iff`).
-/

namespace Tenancy.Json

/-- The values of the members that have one of some names, in order. -/
def under (names : List String) (members : List (String × Json)) : List Json :=
  (members.filter fun m => names.contains m.1).map (·.2)

@[simp] theorem under_nil (names : List String) : under names [] = [] := rfl

theorem under_cons_of_mem {names : List String} {m : String × Json} (hm : m.1 ∈ names)
    (members : List (String × Json)) : under names (m :: members) = m.2 :: under names members := by
  simp [under, hm]

theorem under_cons_of_not_mem {names : List String} {m : String × Json} (hm : m.1 ∉ names)
    (members : List (String × Json)) : under names (m :: members) = under names members := by
  simp [under, hm]

theorem under_eq_nil {names : List String} {members : List (String × Json)}
    (h : ∀ m ∈ members, m.1 ∉ names) : under names members = [] := by
  have hnone : members.filter (fun m => names.contains m.1) = [] :=
    List.filter_eq_nil_iff.mpr (by simpa using h)
  rw [under, hnone, List.map_nil]

section Holding

variable {α β : Type}

/-- What stands for a field: no value and nothing, or its one value and what that means. -/
inductive Holds (means : Json → α → Prop) : List Json → Option α → Prop where
  | absent : Holds means [] none
  | present {v : Json} {a : α} (meant : means v a) : Holds means [v] (some a)

/-- What a document gives for a record of one field: by its members, or by its only item. -/
inductive Gives (names : List String) (required : Bool) (means : Json → α → Prop) :
    Json → Option α → Prop where
  | object {members : List (String × Json)} {given : Option α}
    (held : Holds means (under names members) given) :
    Gives names required means (.object members) given
  | noItem (optional : required = false) : Gives names required means (.array []) none
  | item {v : Json} {a : α} (meant : means v a) : Gives names required means (.array [v]) (some a)

/-- What a document gives for a record of two fields: by its members, or by its items in their
order. -/
inductive GivesBoth (names : List String) (required : Bool) (means : Json → α → Prop)
    (names' : List String) (required' : Bool) (means' : Json → β → Prop) :
    Json → Option α × Option β → Prop where
  | object {members : List (String × Json)} {given : Option α} {given' : Option β}
    (first : Holds means (under names members) given)
    (second : Holds means' (under names' members) given') :
    GivesBoth names required means names' required' means' (.object members) (given, given')
  | noItem (optional : required = false) (optional' : required' = false) :
    GivesBoth names required means names' required' means' (.array []) (none, none)
  | oneItem {v : Json} {a : α} (meant : means v a) (optional' : required' = false) :
    GivesBoth names required means names' required' means' (.array [v]) (some a, none)
  | items {v v' : Json} {a : α} {b : β} (meant : means v a) (meant' : means' v' b) :
    GivesBoth names required means names' required' means' (.array [v, v']) (some a, some b)

end Holding

section Filling

variable {α β σ τ ε : Type} {f : Field σ} {g : Field τ} {shape : Shape σ α} {record next : σ}
  {place : Nat} {fields : List (Field σ)} {v : Json} {items : List Json}

theorem bind_eq_ok_iff {x : Except ε α} {k : α → Except ε β} {b : β} :
    x >>= k = .ok b ↔ ∃ a, x = .ok a ∧ k a = .ok b := by
  cases x <;> simp [Bind.bind, Except.bind]

theorem bind_eq_error_iff {x : Except ε α} {k : α → Except ε β} {e : ε} :
    x >>= k = .error e ↔ x = .error e ∨ ∃ a, x = .ok a ∧ k a = .error e := by
  cases x <;> simp [Bind.bind, Except.bind]

theorem map_eq_ok_iff {x : Except ε α} {k : α → β} {b : β} :
    x.map k = .ok b ↔ ∃ a, x = .ok a ∧ b = k a := by
  cases x <;> simp [Except.map, eq_comm]

theorem mapM_eq_ok_iff {k : α → Except ε β} {as : List α} {bs : List β} :
    as.mapM k = .ok bs ↔ List.Forall₂ (fun a b => k a = .ok b) as bs := by
  induction as generalizing bs with
  | nil => simp [Pure.pure, Except.pure, eq_comm]
  | cons a as ih =>
    simp only [List.mapM_cons, bind_eq_ok_iff, ih, List.forall₂_cons_left_iff]
    constructor
    · rintro ⟨b, hb, bs, hbs, ⟨⟩⟩
      exact ⟨b, bs, hb, hbs, rfl⟩
    · rintro ⟨b, bs, hb, hbs, rfl⟩
      exact ⟨b, hb, bs, hbs, rfl⟩

theorem exists_of_mem {R : α → β → Prop} {as : List α} {bs : List β} (h : List.Forall₂ R as bs)
    {a : α} (ha : a ∈ as) : ∃ b ∈ bs, R a b := by
  induction h with
  | nil => cases ha
  | @cons a' b as bs hR _ ih =>
    rcases List.mem_cons.mp ha with rfl | ha
    · exact ⟨b, List.mem_cons_self, hR⟩
    · obtain ⟨b, hb, hR⟩ := ih ha
      exact ⟨b, List.mem_cons_of_mem _ hb, hR⟩

theorem asString_eq_ok_iff {s : String} : asString v = .ok s ↔ v = .string s := by
  cases v <;> simp [asString]

/-- A list is taken item by item. -/
theorem asList_eq_ok_iff {item : Decoder α} {as : List α} :
    asList item v = .ok as ↔
      ∃ items, v = .array items ∧ List.Forall₂ (fun v a => item v = .ok a) items as := by
  cases v <;> simp [asList, mapM_eq_ok_iff]

theorem Field.fill_single_eq_ok_iff {name : String} {others : List String} {required : Bool}
    {content : Decoder α} {given given' : Option α} :
    (Field.single name others required content).fill v given = .ok given' ↔
      ∃ a, content v = .ok a ∧ given' = some a := map_eq_ok_iff

theorem Field.fill_inFst_eq_ok_iff {x x' : σ} {y y' : τ} :
    f.inFst.fill v (x, y) = .ok (x', y') ↔ f.fill v x = .ok x' ∧ y' = y := by
  simp only [inFst, map_eq_ok_iff, Prod.mk.injEq]
  grind

theorem Field.fill_inSnd_eq_ok_iff {x x' : σ} {y y' : τ} :
    g.inSnd.fill v (x, y) = .ok (x', y') ↔ g.fill v y = .ok y' ∧ x' = x := by
  simp only [inSnd, map_eq_ok_iff, Prod.mk.injEq]
  grind

/-- Items make a record if all of them have a place in it. -/
theorem Shape.ofItems_eq_ok_iff {a : α} :
    shape.ofItems items = .ok a ↔
      ∃ record, shape.fillItems 0 shape.empty shape.fields items = .ok (record, []) ∧
        shape.finish record = .ok a := by
  simp only [ofItems, bind_eq_ok_iff]
  constructor
  · rintro ⟨⟨record, left⟩, hfill, whole, hfinish, hend⟩
    cases left with
    | nil =>
      cases hend
      exact ⟨record, hfill, hfinish⟩
    | cons v rest => cases hend
  · rintro ⟨record, hfill, hfinish⟩
    exact ⟨(record, []), hfill, a, hfinish, rfl⟩

theorem Shape.fillItems_none_eq_ok_iff {left : List Json} :
    shape.fillItems place record [] items = .ok (next, left) ↔ next = record ∧ left = items := by
  rw [fillItems, Except.ok.injEq, Prod.mk.injEq, eq_comm, eq_comm (a := items)]

theorem Shape.fillItems_nil_eq_ok_iff {left : List Json} :
    shape.fillItems place record fields [] = .ok (next, left) ↔
      (∀ f ∈ fields, f.required = false) ∧ next = record ∧ left = [] := by
  induction fields generalizing place with
  | nil => simp [fillItems_none_eq_ok_iff]
  | cons f fields ih =>
    rw [fillItems]
    cases hf : f.required <;> simp [ih, hf]

theorem Shape.fillItems_cons_eq_ok_iff {out : σ × List Json} :
    shape.fillItems place record (f :: fields) (v :: items) = .ok out ↔
      ∃ next, f.fill v record = .ok next ∧
        shape.fillItems (place + 1) next fields items = .ok out :=
  bind_eq_ok_iff

end Filling

section Members

variable {α σ τ : Type} {f : Field σ} {g : Field τ} {x x' : σ} {y y' : τ}

/-- What a field makes of a member: it is filled by one that names it and passes others over. -/
def Field.put (f : Field σ) (x : σ) (m : String × Json) : Except Mismatch σ :=
  if m.1 ∈ f.spellings then
    if f.filled x then .error (.repeated f.name) else f.fill m.2 x
  else .ok x

/-- A record of one field is filled as the field is. -/
theorem Shape.fillMember_one {shape : Shape σ α} (hfields : shape.fields = [f]) :
    shape.fillMember = f.put := by
  funext x m
  rw [fillMember, field?, hfields, List.find?_singleton, Field.put]
  by_cases hm : m.1 ∈ f.spellings <;> simp [hm]

/-- A member fills the one part of a record or the other, or neither. -/
theorem Shape.fillMember_two {shape : Shape (σ × τ) α} (hfields : shape.fields = [f.inFst, g.inSnd])
    (apart : ∀ name ∈ f.spellings, name ∉ g.spellings) (m : String × Json) :
    shape.fillMember (x, y) m = .ok (x', y') ↔ f.put x m = .ok x' ∧ g.put y m = .ok y' := by
  have hfst : (f.inFst : Field (σ × τ)).spellings = f.spellings := rfl
  have hsnd : (g.inSnd : Field (σ × τ)).spellings = g.spellings := rfl
  rw [fillMember, field?, hfields, Field.put, Field.put]
  by_cases hf : m.1 ∈ f.spellings
  · have hg : m.1 ∉ g.spellings := apart m.1 hf
    have hfilled : f.inFst.filled (x, y) = f.filled x := rfl
    rw [List.find?_cons_of_pos (by simpa [hfst] using hf)]
    cases hx : f.filled x <;>
      simp [hf, hg, hfilled, hx, Field.fill_inFst_eq_ok_iff, eq_comm (a := y)]
  · by_cases hg : m.1 ∈ g.spellings
    · have hfilled : g.inSnd.filled (x, y) = g.filled y := rfl
      rw [List.find?_cons_of_neg (by simpa [hfst] using hf),
        List.find?_cons_of_pos (by simpa [hsnd] using hg)]
      cases hy : g.filled y <;>
        simp [hf, hg, hfilled, hy, Field.fill_inSnd_eq_ok_iff, eq_comm (a := x), and_comm]
    · simp [hfst, hsnd, hf, hg]

/-- Members fill a record of two parts as they fill each part. -/
theorem Shape.foldlM_fillMember_two {shape : Shape (σ × τ) α}
    (hfields : shape.fields = [f.inFst, g.inSnd])
    (apart : ∀ name ∈ f.spellings, name ∉ g.spellings) (members : List (String × Json)) :
    members.foldlM shape.fillMember (x, y) = .ok (x', y') ↔
      members.foldlM f.put x = .ok x' ∧ members.foldlM g.put y = .ok y' := by
  induction members generalizing x y with
  | nil => simp [Pure.pure, Except.pure]
  | cons m members ih =>
    simp only [List.foldlM_cons, bind_eq_ok_iff]
    constructor
    · rintro ⟨⟨x₁, y₁⟩, hm, hrest⟩
      obtain ⟨hx, hy⟩ := (fillMember_two hfields apart m).mp hm
      obtain ⟨hxs, hys⟩ := ih.mp hrest
      exact ⟨⟨x₁, hx, hxs⟩, y₁, hy, hys⟩
    · rintro ⟨⟨x₁, hx, hxs⟩, y₁, hy, hys⟩
      exact ⟨(x₁, y₁), (fillMember_two hfields apart m).mpr ⟨hx, hy⟩, ih.mpr ⟨hxs, hys⟩⟩

end Members

section Decoding

variable {α β γ : Type} {name name' : String} {others others' : List String}
  {required required' : Bool} {content : Decoder α} {content' : Decoder β}
  {means : Json → α → Prop} {means' : Json → β → Prop}

/-- Once a field is filled no further member may name it. -/
theorem Field.foldlM_put_some_iff {a : α} {given : Option α} (members : List (String × Json)) :
    members.foldlM (Field.single name others required content).put (some a) = .ok given ↔
      under (name :: others) members = [] ∧ given = some a := by
  induction members with
  | nil => simp [Pure.pure, Except.pure, eq_comm]
  | cons m members ih =>
    rw [List.foldlM_cons, put]
    by_cases hm : m.1 ∈ name :: others
    · have hput : m.1 ∈ (Field.single name others required content).spellings := hm
      have hfilled : (Field.single name others required content).filled (some a) = true := rfl
      rw [if_pos hput, if_pos hfilled, under_cons_of_mem hm]
      simp [Bind.bind, Except.bind]
    · have hput : m.1 ∉ (Field.single name others required content).spellings := hm
      rw [if_neg hput, under_cons_of_not_mem hm]
      exact ih

/-- Members fill an empty field with what they hold under its names. -/
theorem Field.foldlM_put_none_iff (hmeans : ∀ v a, content v = .ok a ↔ means v a) {given : Option α}
    (members : List (String × Json)) :
    members.foldlM (Field.single name others required content).put none = .ok given ↔
      Holds means (under (name :: others) members) given := by
  induction members with
  | nil =>
    constructor
    · rintro ⟨⟩
      exact .absent
    · rintro ⟨⟩
      rfl
  | cons m members ih =>
    rw [List.foldlM_cons, put]
    by_cases hm : m.1 ∈ name :: others
    · have hput : m.1 ∈ (Field.single name others required content).spellings := hm
      rw [if_pos hput, if_neg (by simp [single]), bind_eq_ok_iff, under_cons_of_mem hm]
      constructor
      · rintro ⟨x, hx, hrest⟩
        obtain ⟨a, ha, rfl⟩ := fill_single_eq_ok_iff.mp hx
        obtain ⟨hnone, rfl⟩ := (foldlM_put_some_iff members).mp hrest
        rw [hnone]
        exact .present ((hmeans _ _).mp ha)
      · intro held
        generalize hnone : under (name :: others) members = rest at held
        cases held with
        | @present _ a meant =>
          exact ⟨some a, fill_single_eq_ok_iff.mpr ⟨a, (hmeans _ _).mpr meant, rfl⟩,
            (foldlM_put_some_iff members).mpr ⟨hnone, rfl⟩⟩
    · have hput : m.1 ∉ (Field.single name others required content).spellings := hm
      rw [if_neg hput, under_cons_of_not_mem hm]
      exact ih

/-- A record of one field is taken from what a document gives under its names. -/
theorem Shape.decode_single_iff {shape : Shape (Option α) γ} {v : Json} {c : γ}
    (hfields : shape.fields = [.single name others required content]) (hempty : shape.empty = none)
    (hmeans : ∀ v a, content v = .ok a ↔ means v a) :
    shape.decode v = .ok c ↔
      ∃ given, Gives (name :: others) required means v given ∧ shape.finish given = .ok c := by
  constructor
  · intro h
    cases v with
    | object members =>
      obtain ⟨given, hfill, hfinish⟩ := bind_eq_ok_iff.mp h
      rw [fillMember_one hfields, hempty] at hfill
      exact ⟨given, .object ((Field.foldlM_put_none_iff hmeans members).mp hfill), hfinish⟩
    | array items =>
      obtain ⟨given, hfill, hfinish⟩ := ofItems_eq_ok_iff.mp h
      rw [hfields, hempty] at hfill
      cases items with
      | nil =>
        obtain ⟨optional, rfl, -⟩ := fillItems_nil_eq_ok_iff.mp hfill
        exact ⟨none, .noItem (optional _ List.mem_cons_self), hfinish⟩
      | cons v items =>
        obtain ⟨_, hv, hrest⟩ := fillItems_cons_eq_ok_iff.mp hfill
        obtain ⟨a, ha, rfl⟩ := Field.fill_single_eq_ok_iff.mp hv
        obtain ⟨rfl, rfl⟩ := fillItems_none_eq_ok_iff.mp hrest
        exact ⟨some a, .item ((hmeans v a).mp ha), hfinish⟩
    | null | bool | number | string => cases h
  · rintro ⟨given, gives, hfinish⟩
    cases gives with
    | object held =>
      refine bind_eq_ok_iff.mpr ⟨given, ?_, hfinish⟩
      rw [fillMember_one hfields, hempty]
      exact (Field.foldlM_put_none_iff hmeans _).mpr held
    | noItem optional =>
      refine ofItems_eq_ok_iff.mpr ⟨none, ?_, hfinish⟩
      rw [hfields, hempty, fillItems_nil_eq_ok_iff]
      exact ⟨List.forall_mem_singleton.mpr optional, rfl, rfl⟩
    | @item v a meant =>
      refine ofItems_eq_ok_iff.mpr ⟨some a, ?_, hfinish⟩
      rw [hfields, hempty, fillItems_cons_eq_ok_iff]
      exact ⟨_, Field.fill_single_eq_ok_iff.mpr ⟨a, (hmeans v a).mpr meant, rfl⟩,
        fillItems_none_eq_ok_iff.mpr ⟨rfl, rfl⟩⟩

/-- A record of two fields is taken from what a document gives under the names of both. -/
theorem Shape.decode_pair_iff {shape : Shape (Option α × Option β) γ} {v : Json} {c : γ}
    (hfields : shape.fields = [(Field.single name others required content).inFst,
      (Field.single name' others' required' content').inSnd])
    (hempty : shape.empty = (none, none)) (apart : ∀ n ∈ name :: others, n ∉ name' :: others')
    (hmeans : ∀ v a, content v = .ok a ↔ means v a)
    (hmeans' : ∀ v b, content' v = .ok b ↔ means' v b) :
    shape.decode v = .ok c ↔
      ∃ given,
        GivesBoth (name :: others) required means (name' :: others') required' means' v given ∧
          shape.finish given = .ok c := by
  constructor
  · intro h
    cases v with
    | object members =>
      obtain ⟨⟨given, given'⟩, hfill, hfinish⟩ := bind_eq_ok_iff.mp h
      rw [hempty, foldlM_fillMember_two hfields apart, Field.foldlM_put_none_iff hmeans,
        Field.foldlM_put_none_iff hmeans'] at hfill
      exact ⟨_, .object hfill.1 hfill.2, hfinish⟩
    | array items =>
      obtain ⟨given, hfill, hfinish⟩ := ofItems_eq_ok_iff.mp h
      rw [hfields, hempty] at hfill
      cases items with
      | nil =>
        obtain ⟨optional, rfl, -⟩ := fillItems_nil_eq_ok_iff.mp hfill
        obtain ⟨hfirst, hsecond⟩ := List.forall_mem_cons.mp optional
        exact ⟨_, .noItem hfirst (hsecond _ List.mem_cons_self), hfinish⟩
      | cons v items =>
        obtain ⟨⟨_, _⟩, hv, hrest⟩ := fillItems_cons_eq_ok_iff.mp hfill
        obtain ⟨hpart, rfl⟩ := Field.fill_inFst_eq_ok_iff.mp hv
        obtain ⟨a, ha, rfl⟩ := Field.fill_single_eq_ok_iff.mp hpart
        cases items with
        | nil =>
          obtain ⟨optional, rfl, -⟩ := fillItems_nil_eq_ok_iff.mp hrest
          exact ⟨_, .oneItem ((hmeans v a).mp ha) (optional _ List.mem_cons_self), hfinish⟩
        | cons v' items =>
          obtain ⟨⟨_, _⟩, hv', hend⟩ := fillItems_cons_eq_ok_iff.mp hrest
          obtain ⟨hpart', rfl⟩ := Field.fill_inSnd_eq_ok_iff.mp hv'
          obtain ⟨b, hb, rfl⟩ := Field.fill_single_eq_ok_iff.mp hpart'
          obtain ⟨rfl, rfl⟩ := fillItems_none_eq_ok_iff.mp hend
          exact ⟨_, .items ((hmeans v a).mp ha) ((hmeans' v' b).mp hb), hfinish⟩
    | null | bool | number | string => cases h
  · rintro ⟨given, gives, hfinish⟩
    cases gives with
    | object first second =>
      refine bind_eq_ok_iff.mpr ⟨_, ?_, hfinish⟩
      rw [hempty, foldlM_fillMember_two hfields apart, Field.foldlM_put_none_iff hmeans,
        Field.foldlM_put_none_iff hmeans']
      exact ⟨first, second⟩
    | noItem optional optional' =>
      refine ofItems_eq_ok_iff.mpr ⟨_, ?_, hfinish⟩
      rw [hfields, hempty, fillItems_nil_eq_ok_iff]
      exact ⟨List.forall_mem_cons.mpr ⟨optional, List.forall_mem_singleton.mpr optional'⟩, rfl, rfl⟩
    | @oneItem v a meant optional' =>
      have hfirst : (Field.single name others required content).fill v none = .ok (some a) :=
        Field.fill_single_eq_ok_iff.mpr ⟨a, (hmeans v a).mpr meant, rfl⟩
      refine ofItems_eq_ok_iff.mpr ⟨_, ?_, hfinish⟩
      rw [hfields, hempty, fillItems_cons_eq_ok_iff]
      refine ⟨_, Field.fill_inFst_eq_ok_iff.mpr ⟨hfirst, rfl⟩, ?_⟩
      exact fillItems_nil_eq_ok_iff.mpr ⟨List.forall_mem_singleton.mpr optional', rfl, rfl⟩
    | @items v v' a b meant meant' =>
      have hfirst : (Field.single name others required content).fill v none = .ok (some a) :=
        Field.fill_single_eq_ok_iff.mpr ⟨a, (hmeans v a).mpr meant, rfl⟩
      have hsecond : (Field.single name' others' required' content').fill v' none = .ok (some b) :=
        Field.fill_single_eq_ok_iff.mpr ⟨b, (hmeans' v' b).mpr meant', rfl⟩
      refine ofItems_eq_ok_iff.mpr ⟨_, ?_, hfinish⟩
      rw [hfields, hempty, fillItems_cons_eq_ok_iff]
      refine ⟨_, Field.fill_inFst_eq_ok_iff.mpr ⟨hfirst, rfl⟩, ?_⟩
      rw [fillItems_cons_eq_ok_iff]
      exact ⟨_, Field.fill_inSnd_eq_ok_iff.mpr ⟨hsecond, rfl⟩,
        fillItems_none_eq_ok_iff.mpr ⟨rfl, rfl⟩⟩

end Decoding

end Tenancy.Json
