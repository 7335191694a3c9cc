import Tenancy.Proofs.Http.Meaning
import Tenancy.Proofs.Json.Readings

/-!
# Codes that survive

A refusal carries the code of an object only if nothing else in it is in the way: all names and all
descriptions have to be texts that can be read, and an integer has to fit in 64 bits
(`code_survives_iff`). One description of another kind is enough to lose the code.
-/

namespace Tenancy.Http.Complaint

/-- Values that are codes: an integer stands for its digits, a string for what it spells. Zero with a
sign is written like a real number. -/
inductive Denotes : Json.Bytes → String → Prop where
  | integer (n : Int) : Denotes (Text.Utf8.encode (toString n)) (toString n)
  | negativeZero : Denotes (Text.Utf8.encode "-0") "-0.0"
  | string {content : Json.Bytes} {s : String} (spelled : Json.Spells content s.toList) :
      Denotes (Json.quoted content) s

/-- The fields that describe a refusal. -/
def descriptions : List String :=
  ["description", "error_code", "error", "error_description"]

/-- One member has this name, and this value. -/
def HasOnce (ms : List (Json.Bytes × Json.Bytes)) (name : String) (v : Json.Bytes) : Prop :=
  ∃ before content after, ms = before ++ (content, v) :: after ∧
    Json.Spells content name.toList ∧ ∀ m ∈ before ++ after, ¬ Json.Spells m.1 name.toList

/-- Nothing in an object is in the way of its code. -/
structure Survives (ms : List (Json.Bytes × Json.Bytes)) (code : Json.Bytes) : Prop where
  fits : ∀ n : Int, code = Text.Utf8.encode (toString n) →
    Json.leastInteger ≤ n ∧ n < Json.wordBound
  told : ∃ named, Json.Named ms named ∧ ∀ name ∈ descriptions, ∃ x, Tells name SaysText named x

section Members

variable {ms : List (Json.Bytes × Json.Bytes)} {named parts : List (String × Json.Bytes)}
  {name : String} {g v inner text : Json.Bytes} {x : Option String}

/-- Whatever is named is a member. -/
theorem exists_member_of_named (hnamed : Json.Named ms named) {p : String × Json.Bytes}
    (hp : p ∈ named) : ∃ m ∈ ms, Json.Spells m.1 p.1.toList ∧ p.2 = m.2 := by
  induction hnamed with
  | nil => cases hp
  | @cons m _ _ _ hmember _ ih =>
    rcases List.mem_cons.mp hp with rfl | hp
    · exact ⟨m, List.mem_cons_self, hmember⟩
    · obtain ⟨m', hm', hmember'⟩ := ih hp
      exact ⟨m', List.mem_cons_of_mem _ hm', hmember'⟩

theorem value_of_mem_members (h : Json.Derives (.members ms) inner) :
    ∀ m ∈ ms, Json.Derives .value m.2 := by
  have hvalue : ∀ {v e : Json.Bytes}, Json.Derives (.element v) e → Json.Derives .value v := by
    intro v e element
    cases element with
    | element _ value _ => exact value
  induction ms generalizing inner with
  | nil => exact nofun
  | cons m ms ih =>
    cases h with
    | lastMember _ _ _ element => exact List.forall_mem_singleton.mpr (hvalue element)
    | member _ _ _ element members => exact List.forall_mem_cons.mpr ⟨hvalue element, ih members⟩

theorem value_of_mem_object (h : Json.IsObject ms text) (hnamed : Json.Named ms named) :
    ∀ p ∈ named, Json.Derives .value p.2 := by
  have hvalues : ∀ m ∈ ms, Json.Derives .value m.2 := by
    cases h with
    | empty => exact nofun
    | members _ inside _ => exact value_of_mem_members inside
  intro p hp
  obtain ⟨m, hm, -, hvalue⟩ := exists_member_of_named hnamed hp
  exact hvalue ▸ hvalues m hm

theorem filter_eq_nil_of_named (hnamed : Json.Named ms named)
    (h : ∀ m ∈ ms, ¬ Json.Spells m.1 name.toList) : named.filter (·.1 = name) = [] := by
  refine List.filter_eq_nil_iff.mpr fun p hp hname => ?_
  obtain ⟨m, hm, spelled, -⟩ := exists_member_of_named hnamed hp
  exact h m hm (of_decide_eq_true hname ▸ spelled)

theorem filter_of_hasOnce (h : HasOnce ms name v) (hnamed : Json.Named ms named) :
    named.filter (·.1 = name) = [(name, v)] := by
  obtain ⟨before, content, after, rfl, spelled, others⟩ := h
  induction before generalizing named with
  | nil =>
    cases hnamed with
    | @cons _ p _ rest hmember hrest =>
      obtain ⟨name', v'⟩ := p
      obtain ⟨spelled', rfl⟩ := hmember
      obtain rfl : name' = name := String.toList_inj.mp (spelled'.unique spelled)
      rw [List.filter_cons_of_pos (by simp), filter_eq_nil_of_named hrest others]
  | cons m before ih =>
    cases hnamed with
    | @cons _ p _ rest hmember hrest =>
      have hname : p.1 ≠ name := fun hp => others m List.mem_cons_self (hp ▸ hmember.1)
      rw [List.filter_cons_of_neg (by simpa using hname)]
      exact ih hrest fun m hm => others m (List.mem_cons_of_mem _ hm)

theorem saysText_of_text? (value : Json.Derives .value v) (gap : Json.IsGap g)
    (h : text? (g ++ v) = some x) : SaysText v x := by
  rw [text?, value?_gap_append gap, value?] at h
  cases hread : Json.readAll (Json.greatestDepth - 1) v with
  | error e =>
    rw [hread] at h
    cases h
  | ok j =>
    rw [hread] at h
    cases j with
    | null =>
      cases h
      rw [Json.null_of_readAll value hread]
      exact .null
    | string s =>
      cases h
      obtain ⟨content, spelled, rfl⟩ := Json.spelled_of_readAll value hread
      exact .string spelled
    | _ => cases h

/-- A text that an object is read to hold is one that it tells. -/
theorem tells_of_holds_text (values : ∀ p ∈ named, Json.Derives .value p.2)
    (hparts : List.Forall₂ Json.CutFrom named parts) (h : Holds name text? parts x) :
    Tells name SaysText named x := by
  have hcut := filter_cut hparts name
  rw [← said_eq_some_iff, said, part] at h
  generalize hfilter : parts.filter (·.1 = name) = cut at h hcut
  rcases cut with - | ⟨q, - | ⟨q', cut⟩⟩
  · cases h
    exact .absent (List.forall₂_nil_right_iff.mp hcut)
  · obtain ⟨p, rest, ⟨hname, g, gap, hq⟩, hrest, hnamed⟩ := List.forall₂_cons_right_iff.mp hcut
    obtain rfl := List.forall₂_nil_right_iff.mp hrest
    have hp : p ∈ named.filter (·.1 = name) := by simp [hnamed]
    simp only [List.mem_filter, decide_eq_true_eq] at hp
    obtain ⟨name', v'⟩ := p
    obtain ⟨hmem, rfl⟩ := hp
    have htext : text? (g ++ v') = some x := hq ▸ h
    exact .once hnamed (saysText_of_text? (values _ hmem) gap htext)
  · cases h

/-- A field that is there once holds what its value is read as. -/
theorem told_of_holds {α : Type} {content : Json.Bytes → Option (Option α)} {y : Option α}
    (hfound : named.filter (·.1 = name) = [(name, v)])
    (hparts : List.Forall₂ Json.CutFrom named parts) (h : Holds name content parts y) :
    ∃ g, Json.IsGap g ∧ content (g ++ v) = some y := by
  have hcut := filter_cut hparts name
  rw [hfound] at hcut
  obtain ⟨⟨name', w⟩, rest, ⟨-, g, gap, rfl⟩, hrest, hcut⟩ := List.forall₂_cons_left_iff.mp hcut
  obtain rfl := List.forall₂_nil_left_iff.mp hrest
  rw [← said_eq_some_iff, said, part, hcut] at h
  exact ⟨g, gap, h⟩

/-- An integer is the code of a complaint only if it fits in 64 bits. -/
theorem range_of_codeText {c : Complaint} {n : Int}
    (hvalue : value? (Text.Utf8.encode (toString n)) = some c.code)
    (hcode : c.codeText = some (toString n)) :
    Json.leastInteger ≤ n ∧ n < Json.wordBound := by
  rw [value?] at hvalue
  cases hread : Json.readAll (Json.greatestDepth - 1) (Text.Utf8.encode (toString n)) with
  | error e =>
    rw [hread] at hvalue
    cases hvalue
  | ok j =>
    obtain ⟨m, rfl, hrange⟩ := Json.number_of_readAll hread
    rw [hread] at hvalue
    rw [codeText, ← Option.some.inj hvalue] at hcode
    exact hrange (Option.some.inj hcode)

/-- Zero with a sign is not how an integer is written. -/
theorem toString_ne_negativeZero (n : Int) : toString n ≠ "-0" := by
  intro h
  cases n with
  | ofNat k =>
    have hsign : '-' ∈ Nat.toDigits 10 k := by
      rw [← Nat.toList_repr, show k.repr = "-0" from h]
      decide
    exact absurd (Nat.isDigit_of_mem_toDigits (by decide) (by decide) hsign) (by decide)
  | negSucc k =>
    have htext : "-" ++ (k + 1).repr = "-0" := h
    have hdigits : Nat.toDigits 10 (k + 1) = ['0'] := by
      rw [← Nat.toList_repr]
      simpa [← String.toList_inj] using htext
    have hread := congrArg (Nat.ofDigitChars 10 · 0) hdigits
    simp only [Nat.ofDigitChars_toDigits (b := 10) (by decide) (by decide)] at hread
    cases hread

theorem saysCode_negativeZero : SaysCode (Text.Utf8.encode "-0") (some "-0.0") := by
  have htext : (Json.Number.real true ⟨0, 0⟩).text = "-0.0" := by decide
  rw [← htext]
  exact .number rfl

/-- A string is no integer. -/
theorem quoted_ne_encode_toString (content : Json.Bytes) (n : Int) :
    Json.quoted content ≠ Text.Utf8.encode (toString n) := by
  intro h
  obtain ⟨b, tail, hn, hb⟩ := Json.encode_toString_cons n
  rw [hn] at h
  obtain rfl : Json.quote = b := (List.cons.inj h).1
  exact absurd hb (by decide)

end Members

section Bodies

variable {body code : String} {ms : List (Json.Bytes × Json.Bytes)} {v : Json.Bytes}

theorem code_of_survives (status : Nat) (hobject : Json.IsObject ms (Text.Utf8.encode body))
    (honce : HasOnce ms "code" v) (hcode : Denotes v code) (h : Survives ms v) :
    (refusal status body).code = some code := by
  obtain ⟨named, hnamed, told⟩ := h.told
  have hsays : SaysCode v (some code) := by
    cases hcode with
    | integer n => exact .integer (h.fits n rfl).1 (h.fits n rfl).2
    | negativeZero => exact saysCode_negativeZero
    | string spelled => exact .string spelled
  obtain ⟨description, hdescription⟩ := told "description" (by decide)
  obtain ⟨errorCode, herrorCode⟩ := told "error_code" (by decide)
  obtain ⟨error, herror⟩ := told "error" (by decide)
  obtain ⟨errorDescription, herrorDescription⟩ := told "error_description" (by decide)
  have hmeans : Means named ⟨some code, description, errorCode, error, errorDescription⟩ :=
    { code := .once (filter_of_hasOnce honce hnamed) hsays
      description := hdescription
      errorCode := herrorCode
      error := herror
      errorDescription := herrorDescription }
  rw [refusal_of_means status ⟨ms, hobject, hnamed⟩ hmeans]
  rfl

theorem survives_of_code {status : Nat} (hobject : Json.IsObject ms (Text.Utf8.encode body))
    (honce : HasOnce ms "code" v) (hcode : Denotes v code)
    (h : (refusal status body).code = some code) : Survives ms v := by
  have htext : (read body).codeText = some code := h
  rcases read_cases body with ⟨o, houtline, hdecodes⟩ | ⟨-, hnone⟩
  · obtain ⟨named, hnamed⟩ := Json.Outline.named_of_read hobject houtline
    obtain ⟨parts, hparts, hmembers⟩ := Json.Outline.read_object hobject hnamed
    cases houtline.symm.trans hmembers
    cases hdecodes with
    | members hheld description errorCode error errorDescription =>
      have htells {name : String} {x : Option String} (hholds : Holds name text? parts x) :
          ∃ x, Tells name SaysText named x :=
        ⟨x, tells_of_holds_text (value_of_mem_object hobject hnamed) hparts hholds⟩
      refine ⟨?_, named, hnamed, ?_⟩
      · rintro n rfl
        obtain ⟨g, gap, hvalue⟩ :=
          told_of_holds (filter_of_hasOnce honce hnamed) hparts hheld
        rw [value?_gap_append gap] at hvalue
        refine range_of_codeText hvalue ?_
        generalize hn : Text.Utf8.encode (toString n) = w at hcode
        cases hcode with
        | integer m => rw [Text.Utf8.encode_injective hn, htext]
        | negativeZero =>
          exact absurd (Text.Utf8.encode_injective hn) (toString_ne_negativeZero n)
        | string => exact absurd hn.symm (quoted_ne_encode_toString _ n)
      · simp only [descriptions, List.forall_mem_cons, List.not_mem_nil, false_implies,
          implies_true, and_true]
        exact ⟨htells description, htells errorCode, htells error, htells errorDescription⟩
  · rw [hnone] at htext
    cases htext

end Bodies

/-- The refusal that an object makes carries the code of it just if nothing else in the object is
in the way: its names are texts, each description is absent, null or a text, and is not repeated,
and an integer fits in 64 bits. -/
theorem code_survives_iff (status : Nat) (body : String) {ms : List (Json.Bytes × Json.Bytes)}
    {v : Json.Bytes} {code : String} (hobject : Json.IsObject ms (Text.Utf8.encode body))
    (honce : HasOnce ms "code" v) (hcode : Denotes v code) :
    (refusal status body).code = some code ↔ Survives ms v :=
  ⟨survives_of_code hobject honce hcode, code_of_survives status hobject honce hcode⟩

/-- The members of an object with a code and a description. -/
def coded (description : Json.Bytes) : List (Json.Bytes × Json.Bytes) :=
  [(Text.Utf8.encode "code", Text.Utf8.encode (toString 20003)),
    (Text.Utf8.encode "description", description)]

theorem named_coded (description : Json.Bytes) :
    Json.Named (coded description)
      [("code", Text.Utf8.encode (toString 20003)), ("description", description)] :=
  .cons ⟨Json.spells_encode (by simp), rfl⟩ (.cons ⟨Json.spells_encode (by simp), rfl⟩ .nil)

theorem hasOnce_coded (description : Json.Bytes) :
    HasOnce (coded description) "code" (Text.Utf8.encode (toString 20003)) := by
  refine ⟨[], _, _, rfl, Json.spells_encode (by simp), ?_⟩
  intro m hm spelled
  obtain rfl := List.mem_singleton.mp hm
  have hname := spelled.unique (Json.spells_encode (s := "description") (by simp))
  exact absurd hname (by decide)

theorem isObject_coded {description : Json.Bytes} (value : Json.Derives .value description) :
    Json.IsObject (coded description)
      (Text.Utf8.encode "\x7b\"code\":20003,\"description\":" ++ (description ++ [0x7D])) := by
  have code := Json.spells_encode (s := "code") (by simp)
  have name := Json.spells_encode (s := "description") (by simp)
  have number : Json.Derives .value (Text.Utf8.encode (toString 20003)) :=
    Json.value_of_skipNumber rfl
  exact Json.isObject_of_members (.member Json.isGap_nil code.isContent Json.isGap_nil number.bare
    (.lastMember Json.isGap_nil name.isContent Json.isGap_nil value.bare))

/-- The code is there beside a description that is null. -/
theorem code_survives_iff_null :
    (refusal 404 "\x7b\"code\":20003,\"description\":null\x7d").code = some "20003" := by
  have hobject : Json.IsObject (coded [0x6E, 0x75, 0x6C, 0x6C])
      (Text.Utf8.encode "\x7b\"code\":20003,\"description\":null\x7d") :=
    isObject_coded .null
  refine (code_survives_iff 404 _ hobject (hasOnce_coded _) (.integer 20003)).mpr ⟨?_, ?_⟩
  · intro n hn
    have htext : toString n = toString (20003 : Int) := (Text.Utf8.encode_injective hn).symm
    have hn := Json.Number.text_eq_toString_iff.mp ((Json.text_integer n).trans htext)
    cases hn
    decide
  · refine ⟨_, named_coded _, ?_⟩
    simp only [descriptions, List.forall_mem_cons, List.not_mem_nil, false_implies, implies_true,
      and_true]
    exact ⟨⟨_, .once rfl .null⟩, ⟨_, .absent rfl⟩, ⟨_, .absent rfl⟩, ⟨_, .absent rfl⟩⟩

/-- The code is lost beside a description that is a number. -/
theorem code_lost_to_description :
    Json.IsObject (coded (Text.Utf8.encode (toString 5)))
        (Text.Utf8.encode "\x7b\"code\":20003,\"description\":5\x7d") ∧
      HasOnce (coded (Text.Utf8.encode (toString 5))) "code" (Text.Utf8.encode (toString 20003)) ∧
      refusal 404 "\x7b\"code\":20003,\"description\":5\x7d" =
        .answered 404 .none "\x7b\"code\":20003,\"description\":5\x7d" :=
  ⟨isObject_coded (Json.value_of_skipNumber rfl), hasOnce_coded _, by decide +kernel⟩

end Tenancy.Http.Complaint
