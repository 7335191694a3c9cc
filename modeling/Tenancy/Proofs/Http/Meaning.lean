import Tenancy.Proofs.Http.Complaint
import Tenancy.Proofs.Json.Outline
import Tenancy.Proofs.Json.Scalars
import Tenancy.Proofs.Text.Parts

/-!
# What bodies mean

The meaning of the body of a refusal as the grammar of JSON has it: what an object says in the five
fields of the two dialects, whatever else stands in it and in whatever order (`Means`). A refusal
says just this, and of a body that is no JSON text it says the text (`refusal_tells`).
-/

namespace Tenancy.Http.Complaint

open Json (isGap_nil isObject_of_members spells_encode)

/-- What a value says where a text is expected: null nothing, a string what it spells. -/
inductive SaysText : Json.Bytes → Option String → Prop where
  | null : SaysText [0x6E, 0x75, 0x6C, 0x6C] .none
  | string {content : Json.Bytes} {s : String} (spelled : Json.Spells content s.toList) :
      SaysText (Json.quoted content) (some s)

/-- The code that a value is: the digits of an integer of 64 bits, the text of any other number and
what a string spells. A value of another kind is none, but must be one that can be read. -/
inductive SaysCode : Json.Bytes → Option String → Prop where
  | integer {n : Int} (low : Json.leastInteger ≤ n) (high : n < Json.wordBound) :
      SaysCode (Text.Utf8.encode (toString n)) (some (toString n))
  | number {v : Json.Bytes} {n : Json.Number} (read : value? v = some (some (.number n))) :
      SaysCode v (some n.text)
  | string {content : Json.Bytes} {s : String} (spelled : Json.Spells content s.toList) :
      SaysCode (Json.quoted content) (some s)
  | other {v : Json.Bytes} {x : Option Json} (read : value? v = some x)
      (no_code : ∀ y, x = some y → ¬ IsCode y) : SaysCode v .none

/-- What the members of an object say in a field, which is not there twice. -/
inductive Tells (name : String) (Says : Json.Bytes → Option String → Prop)
    (named : List (String × Json.Bytes)) : Option String → Prop where
  | absent (absent : named.filter (·.1 = name) = []) : Tells name Says named .none
  | once {v : Json.Bytes} {x : Option String} (found : named.filter (·.1 = name) = [(name, v)])
      (said : Says v x) : Tells name Says named x

/-- What an object says in the fields of both dialects. -/
structure Meaning where
  code : Option String
  description : Option String
  errorCode : Option String
  error : Option String
  errorDescription : Option String

/-- The first text that is there. -/
def Meaning.text (m : Meaning) : Option String :=
  m.description <|> m.errorDescription <|> m.errorCode <|> m.error

structure Means (named : List (String × Json.Bytes)) (m : Meaning) : Prop where
  code : Tells "code" SaysCode named m.code
  description : Tells "description" SaysText named m.description
  errorCode : Tells "error_code" SaysText named m.errorCode
  error : Tells "error" SaysText named m.error
  errorDescription : Tells "error_description" SaysText named m.errorDescription

/-- A body that is an object with these members. -/
def HasMembers (body : String) (named : List (String × Json.Bytes)) : Prop :=
  ∃ ms, Json.IsObject ms (Text.Utf8.encode body) ∧ Json.Named ms named

def fields : List String :=
  ["code", "description", "error_code", "error", "error_description"]

/-- Members that differ in their order and in those that are no fields. -/
def SameFields (named named' : List (String × Json.Bytes)) : Prop :=
  (named.filter (·.1 ∈ fields)).Perm (named'.filter (·.1 ∈ fields))

section Values

variable {g v : Json.Bytes} {x : Option String}

theorem value?_gap_append (gap : Json.IsGap g) (v : Json.Bytes) : value? (g ++ v) = value? v := by
  rw [value?, value?, Json.readAll_gap_append gap]

theorem value?_null : value? [0x6E, 0x75, 0x6C, 0x6C] = some .none := by
  rw [value?, Json.readAll_null]

theorem value?_quoted {content : Json.Bytes} {s : String} (spelled : Json.Spells content s.toList) :
    value? (Json.quoted content) = some (some (.string s)) := by
  rw [value?, Json.readAll_quoted spelled, String.ofList_toList]

theorem text?_of_saysText (gap : Json.IsGap g) (h : SaysText v x) : text? (g ++ v) = some x := by
  rw [text?, value?_gap_append gap]
  cases h with
  | null => rw [value?_null]; rfl
  | string spelled => rw [value?_quoted spelled]; rfl

/-- The code of a value on its own, without the error to fall back on. -/
def ownCode : Option Json → Option String
  | some (.number n) => some n.text
  | some (.string s) => some s
  | _ => .none

theorem codeText_eq (c : Complaint) : c.codeText = (ownCode c.code <|> c.error) := by
  obtain ⟨_ | v, _, _, _, _⟩ := c
  · rfl
  · cases v <;> rfl

theorem ownCode_eq_none {y : Option Json} (h : ∀ v, y = some v → ¬ IsCode v) :
    ownCode y = .none := by
  unfold ownCode
  split
  · next n => exact absurd (.number n) (h _ rfl)
  · next s => exact absurd (.string s) (h _ rfl)
  · rfl

theorem ownCode_of_saysCode (gap : Json.IsGap g) (h : SaysCode v x) :
    ∃ y, value? (g ++ v) = some y ∧ ownCode y = x := by
  rw [value?_gap_append gap]
  cases h with
  | @integer n low high =>
    refine ⟨some (.number (.integer n)), ?_, congrArg some (Json.text_integer n)⟩
    rw [value?, Json.readAll_integer low high]
  | number read => exact ⟨_, read, rfl⟩
  | string spelled => exact ⟨_, value?_quoted spelled, rfl⟩
  | other read no_code => exact ⟨_, read, ownCode_eq_none no_code⟩

end Values

section Fields

variable {name : String} {Says : Json.Bytes → Option String → Prop}
  {named named' parts : List (String × Json.Bytes)} {x : Option String}

/-- The parts of a field are cut where its members stand. -/
theorem filter_cut (h : List.Forall₂ Json.CutFrom named parts) (name : String) :
    List.Forall₂ Json.CutFrom (named.filter (·.1 = name)) (parts.filter (·.1 = name)) :=
  List.rel_filter (fun p q (hcut : Json.CutFrom p q) => by simp [hcut.1]) h

/-- A field is read as it is told, if its values are read as they say, also behind a gap. -/
theorem holds_of_tells {α : Type} {content : Json.Bytes → Option (Option α)}
    {view : Option α → Option String} (hnone : view .none = .none)
    (hcontent : ∀ {g v x}, Json.IsGap g → Says v x → ∃ y, content (g ++ v) = some y ∧ view y = x)
    (h : Tells name Says named x) (hparts : List.Forall₂ Json.CutFrom named parts) :
    ∃ y, Holds name content parts y ∧ view y = x := by
  have hcut := filter_cut hparts name
  simp only [← said_eq_some_iff, said, part]
  cases h with
  | absent absent =>
    rw [absent, List.forall₂_nil_left_iff] at hcut
    exact ⟨.none, by rw [hcut]; rfl, hnone⟩
  | once found told =>
    rw [found, List.forall₂_cons_left_iff] at hcut
    obtain ⟨⟨name', w⟩, rest, ⟨-, g, gap, rfl⟩, hrest, hcut⟩ := hcut
    rw [List.forall₂_nil_left_iff] at hrest
    obtain ⟨y, hread, hview⟩ := hcontent gap told
    exact ⟨y, by rw [hcut, hrest]; exact hread, hview⟩

theorem holds_of_tells_text (h : Tells name SaysText named x)
    (hparts : List.Forall₂ Json.CutFrom named parts) : Holds name text? parts x := by
  have hnone : id (.none : Option String) = .none := rfl
  obtain ⟨y, hholds, rfl⟩ := holds_of_tells hnone
    (fun gap said => ⟨_, text?_of_saysText gap said, rfl⟩) h hparts
  exact hholds

theorem filter_fields (hname : name ∈ fields) (named : List (String × Json.Bytes)) :
    (named.filter (·.1 ∈ fields)).filter (·.1 = name) = named.filter (·.1 = name) := by
  rw [List.filter_filter]
  apply List.filter_congr
  intro p _
  by_cases hp : p.1 = name
  · simp [hp, hname]
  · simp [hp]

/-- Neither the order of the members nor those that are no fields make a difference. -/
theorem tells_of_sameFields (hname : name ∈ fields) (hsame : SameFields named named')
    (h : Tells name Says named x) : Tells name Says named' x := by
  have hperm : (named.filter (·.1 = name)).Perm (named'.filter (·.1 = name)) := by
    rw [← filter_fields hname named, ← filter_fields hname named']
    exact hsame.filter _
  cases h with
  | absent absent =>
    rw [absent] at hperm
    exact .absent hperm.symm.eq_nil
  | once found said =>
    rw [found] at hperm
    exact .once (List.perm_singleton.mp hperm.symm) said

theorem means_of_sameFields {m : Meaning} (hsame : SameFields named named') (h : Means named m) :
    Means named' m where
  code := tells_of_sameFields (by decide) hsame h.code
  description := tells_of_sameFields (by decide) hsame h.description
  errorCode := tells_of_sameFields (by decide) hsame h.errorCode
  error := tells_of_sameFields (by decide) hsame h.error
  errorDescription := tells_of_sameFields (by decide) hsame h.errorDescription

end Fields

section Bodies

variable {body : String} {named : List (String × Json.Bytes)} {m : Meaning}

theorem read_of_means (hbody : HasMembers body named) (h : Means named m) :
    ∃ code, ownCode code = m.code ∧
      read body = ⟨code, m.description, m.errorCode, m.error, m.errorDescription⟩ := by
  obtain ⟨ms, hobject, hnamed⟩ := hbody
  obtain ⟨parts, hparts, houtline⟩ := Json.Outline.read_object hobject hnamed
  obtain ⟨code, hcode, hown⟩ := holds_of_tells rfl ownCode_of_saysCode h.code hparts
  have hread : IsRead body ⟨code, m.description, m.errorCode, m.error, m.errorDescription⟩ :=
    ⟨_, houtline, .members hcode (holds_of_tells_text h.description hparts)
      (holds_of_tells_text h.errorCode hparts) (holds_of_tells_text h.error hparts)
      (holds_of_tells_text h.errorDescription hparts)⟩
  exact ⟨code, hown, read_eq_of_isRead hread⟩

theorem read_of_not_isText (h : ¬ Json.IsText (Text.Utf8.encode body)) : read body = none := by
  rcases read_cases body with ⟨o, houtline, -⟩ | ⟨-, hnone⟩
  · exact absurd (Json.Outline.isText_of_read houtline) h
  · exact hnone

theorem brace_mem_of_isObject {ms : List (Json.Bytes × Json.Bytes)}
    (h : Json.IsObject ms (Text.Utf8.encode body)) : '\x7b' ∈ body.toList := by
  have hbyte : 0x7B ∈ Text.Utf8.encode body := by
    generalize Text.Utf8.encode body = bs at h
    cases h <;> simp
  obtain ⟨c, hc, hbyte⟩ := List.mem_flatMap.mp hbyte
  by_cases hascii : c.toNat < 0x80
  · rw [Text.Utf8.encodeChar_of_lt hascii, List.mem_singleton] at hbyte
    have hnat : c.toNat = 0x7B := by
      rw [← Text.Utf8.toNat_ofNat_of_lt (n := c.toNat) (by omega), ← hbyte]
      rfl
    rwa [Char.toNat_inj.mp (show c.toNat = '\x7b'.toNat from hnat)] at hc
  · exact absurd (Text.Utf8.le_of_mem_encodeChar (by omega) hbyte) (by decide)

/-- An object is not blank. -/
theorem trim_ne_empty (h : HasMembers body named) : Text.trim body ≠ "" := by
  obtain ⟨ms, hobject, -⟩ := h
  intro hempty
  have hblank := Text.trim_eq_empty_iff.mp hempty _ (brace_mem_of_isObject hobject)
  exact absurd hblank (by decide)

theorem refusal_of_means (status : Nat) (hbody : HasMembers body named) (h : Means named m) :
    refusal status body =
      .answered status (m.code <|> m.error) (m.text.getD (Text.trim body)) := by
  obtain ⟨code, hown, hread⟩ := read_of_means hbody h
  rw [refusal, hread, codeText_eq, hown]
  simp only [if_neg (trim_ne_empty hbody)]
  rfl

end Bodies

/-- A refusal says what its body means: its own code or else its error, and its first text or else
the body as it is. Members in another order or beside the fields change neither code nor text, and
a body that is no JSON text has no code and is the text. -/
theorem refusal_tells (status : Nat) (body : String) :
    (∀ (named : List (String × Json.Bytes)) (m : Meaning), HasMembers body named → Means named m →
      refusal status body =
        .answered status (m.code <|> m.error) (m.text.getD (Text.trim body)) ∧
      ∀ (body' : String) (named' : List (String × Json.Bytes)), HasMembers body' named' →
        SameFields named named' →
        (refusal status body').code = (refusal status body).code ∧
        (m.text.isSome → refusal status body' = refusal status body)) ∧
    (¬ Json.IsText (Text.Utf8.encode body) →
      refusal status body =
        .answered status .none
          (if Text.trim body = "" then s!"HTTP {status}" else Text.trim body)) := by
  constructor
  · intro named m hbody hmeans
    have hrefusal := refusal_of_means status hbody hmeans
    refine ⟨hrefusal, ?_⟩
    intro body' named' hbody' hsame
    have hrefusal' := refusal_of_means status hbody' (means_of_sameFields hsame hmeans)
    refine ⟨by rw [hrefusal, hrefusal']; rfl, ?_⟩
    intro htext
    obtain ⟨text, htext⟩ := Option.isSome_iff_exists.mp htext
    rw [hrefusal, hrefusal', htext]
    rfl
  · intro htext
    rw [refusal, read_of_not_isText htext]
    rfl

/-- Seven with the error `x`, and the same with its members in another order and one more. -/
theorem refusal_tells_seven :
    refusal 400 "\x7b\"code\":7,\"error\":\"x\"\x7d" = .answered 400 (some "7") "x" ∧
      refusal 400 "\x7b\"error\":\"x\",\"y\":[],\"code\":7\x7d" = .answered 400 (some "7") "x" ∧
      refusal 502 " oops " = .answered 502 .none "oops" := by
  have whole : Json.IsWhole [0x37] := .digits rfl (by decide) (by simp [Json.AllDigits])
  have seven : Json.Derives .value [0x37] := .number (.of whole .absent .absent)
  have code := spells_encode (s := "code") (by simp)
  have error := spells_encode (s := "error") (by simp)
  have x := spells_encode (s := "x") (by simp)
  have y := spells_encode (s := "y") (by simp)
  have hbody : HasMembers "\x7b\"code\":7,\"error\":\"x\"\x7d"
      [("code", [0x37]), ("error", Json.quoted (Text.Utf8.encode "x"))] :=
    ⟨_, isObject_of_members (.member isGap_nil code.isContent isGap_nil seven.bare
        (.lastMember isGap_nil error.isContent isGap_nil (Json.Derives.string x.isContent).bare)),
      .cons ⟨code, rfl⟩ (.cons ⟨error, rfl⟩ .nil)⟩
  have hbody' : HasMembers "\x7b\"error\":\"x\",\"y\":[],\"code\":7\x7d"
      [("error", Json.quoted (Text.Utf8.encode "x")), ("y", [0x5B, 0x5D]), ("code", [0x37])] :=
    ⟨_, isObject_of_members (.member isGap_nil error.isContent isGap_nil
        (Json.Derives.string x.isContent).bare
        (.member isGap_nil y.isContent isGap_nil (Json.Derives.emptyArray isGap_nil).bare
          (.lastMember isGap_nil code.isContent isGap_nil seven.bare))),
      .cons ⟨error, rfl⟩ (.cons ⟨y, rfl⟩ (.cons ⟨code, rfl⟩ .nil))⟩
  have hmeans : Means [("code", [0x37]), ("error", Json.quoted (Text.Utf8.encode "x"))]
      ⟨some "7", .none, .none, some "x", .none⟩ :=
    { code := .once rfl (.integer (n := 7) (by decide) (by decide))
      description := .absent rfl
      errorCode := .absent rfl
      error := .once rfl (.string x)
      errorDescription := .absent rfl }
  have htells := (refusal_tells 400 "\x7b\"code\":7,\"error\":\"x\"\x7d").1 _ _ hbody hmeans
  have hsame := (htells.2 _ _ hbody' (List.Perm.swap _ _ [])).2 rfl
  have hplain := (refusal_tells 502 " oops ").2 (Json.not_isText_of_skipValue (by decide))
  exact ⟨htells.1, hsame.trans htells.1, hplain⟩

/-- An integer beyond 64 bits loses its digits, and half a surrogate pair the whole body, even in
the name of a member that is no field. -/
theorem refusal_misses_members :
    (Json.IsObject [(Text.Utf8.encode "code", Text.Utf8.encode "18446744073709551616")]
        (Text.Utf8.encode "\x7b\"code\":18446744073709551616\x7d") ∧
      refusal 400 "\x7b\"code\":18446744073709551616\x7d" =
        .answered 400 (some "1.8446744073709552e+19") "\x7b\"code\":18446744073709551616\x7d") ∧
    (Json.IsObject [(Text.Utf8.encode "\\ud800", [0x5B, 0x5D]),
          (Text.Utf8.encode "error", Json.quoted (Text.Utf8.encode "x"))]
        (Text.Utf8.encode "\x7b\"\\ud800\":[],\"error\":\"x\"\x7d") ∧
      refusal 400 "\x7b\"\\ud800\":[],\"error\":\"x\"\x7d" =
        .answered 400 .none "\x7b\"\\ud800\":[],\"error\":\"x\"\x7d") ∧
    (Json.IsObject [(Text.Utf8.encode "error", Json.quoted (Text.Utf8.encode "\\ud800")),
          (Text.Utf8.encode "description", Json.quoted (Text.Utf8.encode "x"))]
        (Text.Utf8.encode "\x7b\"error\":\"\\ud800\",\"description\":\"x\"\x7d") ∧
      refusal 400 "\x7b\"error\":\"\\ud800\",\"description\":\"x\"\x7d" =
        .answered 400 .none "\x7b\"error\":\"\\ud800\",\"description\":\"x\"\x7d") := by
  have hdigits : Json.skipNumber (Text.Utf8.encode "18446744073709551616") = some [] := rfl
  obtain ⟨n, magnitude, hn⟩ := Json.magnitude_of_skipNumber hdigits
  rw [List.append_nil] at hn
  have big : Json.Derives .value (Text.Utf8.encode "18446744073709551616") :=
    hn ▸ .number magnitude
  have lone : Json.IsContent [0x5C, 0x75, 0x64, 0x38, 0x30, 0x30] :=
    .numbered (by simp [Json.IsHex, Json.hexValue]) .nil
  have code := spells_encode (s := "code") (by simp)
  have error := spells_encode (s := "error") (by simp)
  have description := spells_encode (s := "description") (by simp)
  have x := spells_encode (s := "x") (by simp)
  refine ⟨⟨?_, by decide +kernel⟩, ⟨?_, by decide +kernel⟩, ?_, by decide +kernel⟩
  · exact isObject_of_members (.lastMember isGap_nil code.isContent isGap_nil big.bare)
  · exact isObject_of_members (.member isGap_nil lone isGap_nil
      (Json.Derives.emptyArray isGap_nil).bare
      (.lastMember isGap_nil error.isContent isGap_nil (Json.Derives.string x.isContent).bare))
  · exact isObject_of_members (.member isGap_nil error.isContent isGap_nil
      (Json.Derives.string lone).bare
      (.lastMember isGap_nil description.isContent isGap_nil
        (Json.Derives.string x.isContent).bare))

end Tenancy.Http.Complaint
