import Tenancy.Http.Complaint
import Tenancy.Proofs.Json.Number

/-!
# What complaints say

A body is a complaint if each field that it knows is absent or there once and of its kind
(`Decodes`); other members do not matter. Its code is that of an unknown user as a number or as a
text, or in the other dialect as the error of a complaint without a code (`OfUnknownUser`).
-/

namespace Tenancy.Http.Complaint

/-- What an object says in a field: nothing if there is none, and else what the only one says. -/
inductive Holds {α : Type} (name : String) (content : Json.Bytes → Option (Option α))
    (parts : List (String × Json.Bytes)) : Option α → Prop where
  | absent (absent : ∀ p ∈ parts, p.1 ≠ name) : Holds name content parts .none
  | once {before after : List (String × Json.Bytes)} {part : Json.Bytes} {x : Option α}
      (found : parts = before ++ (name, part) :: after)
      (only : ∀ p ∈ before ++ after, p.1 ≠ name) (told : content part = some x) :
      Holds name content parts x

/-- How a complaint stands in a body: by names or by places. -/
inductive Decodes : Json.Outline → Complaint → Prop where
  | members {parts : List (String × Json.Bytes)} {c : Complaint}
      (code : Holds "code" value? parts c.code)
      (description : Holds "description" text? parts c.description)
      (errorCode : Holds "error_code" text? parts c.errorCode)
      (error : Holds "error" text? parts c.error)
      (errorDescription : Holds "error_description" text? parts c.errorDescription) :
      Decodes (.members parts) c
  | items {code description errorCode error errorDescription : Json.Bytes} {c : Complaint}
      (code_told : value? code = some c.code)
      (description_told : text? description = some c.description)
      (errorCode_told : text? errorCode = some c.errorCode)
      (error_told : text? error = some c.error)
      (errorDescription_told : text? errorDescription = some c.errorDescription) :
      Decodes (.items [code, description, errorCode, error, errorDescription]) c

section Fields

variable {name : String} {parts : List (String × Json.Bytes)}

theorem part_eq_none_iff : part name parts = some .none ↔ ∀ p ∈ parts, p.1 ≠ name := by
  unfold part
  split
  · next h => simpa using h
  · next p h =>
    have hmem : p ∈ parts.filter (·.1 = name) := by simp [h]
    simp only [List.mem_filter, decide_eq_true_eq] at hmem
    simp only [Option.some.injEq, reduceCtorEq, false_iff]
    exact fun hall => hall p hmem.1 hmem.2
  · next hnil hone =>
    simp only [reduceCtorEq, false_iff]
    intro hall
    apply hnil
    simpa using hall

theorem part_eq_some_iff {p : Json.Bytes} :
    part name parts = some (some p) ↔ ∃ before after, parts = before ++ (name, p) :: after ∧
      ∀ p ∈ before ++ after, p.1 ≠ name := by
  have hfilter : parts.filter (·.1 = name) = [(name, p)] ↔ ∃ before after,
      parts = before ++ (name, p) :: after ∧ ∀ p ∈ before ++ after, p.1 ≠ name := by
    simp only [List.filter_eq_cons_iff, List.filter_eq_nil_iff, decide_eq_true_eq, List.mem_append,
      or_imp, forall_and, true_and]
  rw [← hfilter]
  unfold part
  split
  · next h => simp [h]
  · next q h =>
    have hmem : q ∈ parts.filter (·.1 = name) := by simp [h]
    simp only [List.mem_filter, decide_eq_true_eq] at hmem
    obtain ⟨-, rfl⟩ := hmem
    simp [h, Prod.ext_iff]
  · next hnil hone =>
    simp only [reduceCtorEq, false_iff]
    exact hone _

theorem said_eq_some_iff {α : Type} {content : Json.Bytes → Option (Option α)} {x : Option α} :
    said name content parts = some x ↔ Holds name content parts x := by
  unfold said
  constructor
  · intro h
    obtain ⟨_ | p, hpart, hsays⟩ := Option.bind_eq_some_iff.mp h
    · cases hsays
      exact .absent (part_eq_none_iff.mp hpart)
    · obtain ⟨before, after, hfound, honly⟩ := part_eq_some_iff.mp hpart
      exact .once hfound honly hsays
  · intro h
    cases h with
    | absent habsent => rw [part_eq_none_iff.mpr habsent]; rfl
    | once found only told =>
      rw [part_eq_some_iff.mpr ⟨_, _, found, only⟩]
      exact told

end Fields

theorem ofMembers_eq_some_iff {parts : List (String × Json.Bytes)} {c : Complaint} :
    ofMembers parts = some c ↔ Decodes (.members parts) c := by
  unfold ofMembers
  constructor
  · intro h
    simp only [Option.bind_eq_bind, Option.bind_eq_some_iff, said_eq_some_iff] at h
    obtain ⟨code, hcode, description, hdescription, errorCode, herrorCode, error, herror,
      errorDescription, herrorDescription, hc⟩ := h
    cases hc
    exact .members hcode hdescription herrorCode herror herrorDescription
  · intro h
    cases h with
    | members code description errorCode error errorDescription =>
      simp only [said_eq_some_iff.mpr code, said_eq_some_iff.mpr description,
        said_eq_some_iff.mpr errorCode, said_eq_some_iff.mpr error,
        said_eq_some_iff.mpr errorDescription]
      rfl

theorem ofItems_eq_some_iff {parts : List Json.Bytes} {c : Complaint} :
    ofItems parts = some c ↔ Decodes (.items parts) c := by
  constructor
  · intro h
    unfold ofItems at h
    split at h
    · simp only [Option.bind_eq_bind, Option.bind_eq_some_iff] at h
      obtain ⟨code, hcode, description, hdescription, errorCode, herrorCode, error, herror,
        errorDescription, herrorDescription, hc⟩ := h
      cases hc
      exact .items hcode hdescription herrorCode herror herrorDescription
    · cases h
  · intro h
    cases h with
    | items code description errorCode error errorDescription =>
      simp only [ofItems, code, description, errorCode, error, errorDescription]
      rfl

theorem ofOutline_eq_some_iff {o : Json.Outline} {c : Complaint} :
    ofOutline o = some c ↔ Decodes o c := by
  cases o with
  | members parts => exact ofMembers_eq_some_iff
  | items parts => exact ofItems_eq_some_iff

/-- A body that stands for a complaint. -/
def IsRead (body : String) (c : Complaint) : Prop :=
  ∃ o, Json.Outline.read (Text.Utf8.encode body) = some o ∧ Decodes o c

/-- A body that is no complaint says nothing. -/
theorem read_cases (body : String) :
    IsRead body (read body) ∨ (∀ c, ¬ IsRead body c) ∧ read body = none := by
  have hread : ∀ c, IsRead body c ↔
      (Json.Outline.read (Text.Utf8.encode body) >>= ofOutline) = some c := by
    intro c
    simp only [IsRead, Option.bind_eq_bind, Option.bind_eq_some_iff, ofOutline_eq_some_iff]
  simp only [hread, read]
  cases Json.Outline.read (Text.Utf8.encode body) >>= ofOutline with
  | none => exact .inr ⟨nofun, rfl⟩
  | some c => exact .inl rfl

theorem read_eq_of_isRead {body : String} {c : Complaint} (h : IsRead body c) : read body = c := by
  obtain ⟨o, houtline, hdecodes⟩ := h
  rw [read, houtline]
  exact congrArg (Option.getD · none) (ofOutline_eq_some_iff.mpr hdecodes)

/-- Values that can be a code. -/
inductive IsCode : Json → Prop where
  | number (n : Json.Number) : IsCode (.number n)
  | string (s : String) : IsCode (.string s)

/-- A complaint that the user is not known. -/
inductive OfUnknownUser (c : Complaint) : Prop where
  | number (code : c.code = some (.number (.integer 20003)))
  | text (code : c.code = some (.string "20003"))
  | error (uncoded : ∀ v, c.code = some v → ¬ IsCode v) (error : c.error = some "20003")

theorem codeText_eq_iff {c : Complaint} : c.codeText = some "20003" ↔ c.OfUnknownUser := by
  constructor
  · intro h
    unfold codeText at h
    split at h
    · next n hcode =>
      have hn : n = .integer 20003 := Json.Number.text_eq_repr_iff (k := 20003).mp (Option.some.inj h)
      exact .number (hn ▸ hcode)
    · next s hcode => exact .text (Option.some.inj h ▸ hcode)
    · next hnumber hstring =>
      apply OfUnknownUser.error _ h
      rintro v hcode (n | s)
      · exact hnumber n hcode
      · exact hstring s hcode
  · intro h
    unfold codeText
    cases h with
    | number code =>
      rw [code]
      exact congrArg some (Json.Number.text_eq_repr_iff (k := 20003).mpr rfl)
    | text code => rw [code]
    | error uncoded error =>
      split
      · next n hcode => exact absurd (.number n) (uncoded _ hcode)
      · next s hcode => exact absurd (.string s) (uncoded _ hcode)
      · exact error

theorem not_ofUnknownUser_none : ¬ none.OfUnknownUser := by
  rintro (h | h | ⟨-, h⟩) <;> cases h

/-- The code of a refusal is that of an unknown user just if the body is such a complaint. -/
theorem code_refusal_eq_iff {status : Nat} {body : String} :
    (refusal status body).code = some "20003" ↔ ∃ c, IsRead body c ∧ c.OfUnknownUser := by
  have hcode : (refusal status body).code = (read body).codeText := rfl
  rw [hcode, codeText_eq_iff]
  constructor
  · intro h
    rcases read_cases body with hread | ⟨-, hnone⟩
    · exact ⟨_, hread, h⟩
    · rw [hnone] at h
      exact absurd h not_ofUnknownUser_none
  · rintro ⟨c, hread, h⟩
    rw [read_eq_of_isRead hread]
    exact h

end Tenancy.Http.Complaint
