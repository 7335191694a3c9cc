import Tenancy.Json.Printer
import Tenancy.Json.Reader
import Tenancy.Proofs.Json.Skipping
import Tenancy.Proofs.Json.Strings

/-!
# Written values read back

What is written for a value is a JSON text, and reading it gives the value back (`read_text`).
Whatever a string holds comes through its escapes.
-/

namespace Tenancy.Json

/-- The bytes of some characters. -/
def utf8 (cs : List Char) : Bytes :=
  cs.flatMap String.utf8EncodeChar

@[simp] theorem utf8_append (cs ds : List Char) : utf8 (cs ++ ds) = utf8 cs ++ utf8 ds :=
  List.flatMap_append

theorem encode_text (v : Json) : Text.Utf8.encode v.text = utf8 v.chars := by
  simp [Text.Utf8.encode, text, utf8]

section Escapes

variable {content : Bytes} {cs : List Char}

theorem hexValue_hexDigit : ∀ n < 16, ∃ d, String.utf8EncodeChar (hexDigit n) = [d] ∧
    hexValue d = some n := by
  have hdigits : ∀ n < 16, String.utf8EncodeChar (hexDigit n) =
      [UInt8.ofNat (hexDigit n).toNat] ∧ hexValue (UInt8.ofNat (hexDigit n).toNat) = some n := by
    decide
  exact fun n hn => ⟨_, hdigits n hn⟩

/-- A control character is written by its number. -/
theorem spells_numbered {c : Char} (hc : c.toNat < 0x20) (more : Spells content cs) :
    Spells (utf8 ['\\', 'u', '0', '0', hexDigit (c.toNat / 16), hexDigit (c.toNat % 16)] ++ content)
      (c :: cs) := by
  obtain ⟨d, hd, third⟩ := hexValue_hexDigit (c.toNat / 16) (by omega)
  obtain ⟨d', hd', fourth⟩ := hexValue_hexDigit (c.toNat % 16) (by omega)
  have hbytes : utf8 ['\\', 'u', '0', '0', hexDigit (c.toNat / 16), hexDigit (c.toNat % 16)] =
      backslash :: 0x75 :: [0x30, 0x30, d, d'] := by
    simp only [utf8, List.flatMap_cons, List.flatMap_nil, hd, hd']
    rfl
  have number : Numbers [0x30, 0x30, d, d'] c.toNat := by
    have hfour := Numbers.four (show hexValue 0x30 = some 0 from rfl)
      (show hexValue 0x30 = some 0 from rfl) third fourth
    rwa [show ((0 * 16 + 0) * 16 + c.toNat / 16) * 16 + c.toNat % 16 = c.toNat by omega] at hfour
  have single : isLeadingSurrogate c.toNat = false ∧ isTrailingSurrogate c.toNat = false := by
    simp only [isLeadingSurrogate, isTrailingSurrogate, Bool.and_eq_false_iff,
      decide_eq_false_iff_not]
    omega
  have hspells := Spells.numbered number single more
  rw [Char.ofNat_toNat] at hspells
  rw [hbytes]
  exact hspells

theorem spells_escapeChar (c : Char) (more : Spells content cs) :
    Spells (utf8 (escapeChar c) ++ content) (c :: cs) := by
  unfold escapeChar
  split
  · exact .short (e := 0x22) (by decide) more
  · exact .short (e := 0x5C) (by decide) more
  · exact .short (e := 0x62) (by decide) more
  · exact .short (e := 0x66) (by decide) more
  · exact .short (e := 0x6E) (by decide) more
  · exact .short (e := 0x72) (by decide) more
  · exact .short (e := 0x74) (by decide) more
  · next unquoted unescaped _ _ _ _ _ =>
    split
    · next hcontrol => exact spells_numbered hcontrol more
    · next hprintable =>
      have hplain := Spells.plain (Nat.not_lt.mp hprintable) unquoted unescaped more
      simpa [utf8] using hplain

theorem spells_escaped (cs : List Char) : Spells (utf8 (cs.flatMap escapeChar)) cs := by
  induction cs with
  | nil => exact .nil
  | cons c cs ih =>
    rw [List.flatMap_cons, utf8_append]
    exact spells_escapeChar c ih

theorem utf8_stringChars (s : String) :
    utf8 (stringChars s) = quoted (utf8 (s.toList.flatMap escapeChar)) := by
  rw [stringChars, utf8_append]
  rfl

end Escapes

section Members

/-- A member whose name comes behind those of some members is set behind them. -/
theorem setMember_append {members : List (String × Json)} {m : String × Json}
    (h : ∀ m' ∈ members, m'.1 < m.1) : setMember m.1 m.2 members = members ++ [m] := by
  induction members with
  | nil => rfl
  | cons m' members ih =>
    have hless := h m' List.mem_cons_self
    have hrest := ih fun m'' hm'' => h m'' (List.mem_cons_of_mem m' hm'')
    have hne : m.1 ≠ m'.1 := fun heq => String.lt_irrefl _ (heq ▸ hless)
    rw [setMember, if_neg (String.lt_asymm hless), if_neg hne, hrest]
    rfl

/-- Members in the order of their names are set one behind the other. -/
theorem ofMembers_of_sorted {members : List (String × Json)}
    (h : members.Pairwise fun m m' => m.1 < m'.1) : ofMembers members = .object members := by
  suffices hfold : ∀ more before : List (String × Json),
      (before ++ more).Pairwise (fun m m' => m.1 < m'.1) →
      more.foldl (fun all m => setMember m.1 m.2 all) before = before ++ more from
    congrArg object (hfold members [] h)
  intro more
  induction more with
  | nil => simp
  | cons m more ih =>
    intro before hsorted
    have hset := setMember_append fun m' hm' =>
      (List.pairwise_append.mp hsorted).2.2 m' hm' m List.mem_cons_self
    rw [List.foldl_cons, hset, ih _ (by simpa using hsorted), List.append_assoc]
    rfl

end Members

/-- A value that is written in a way to be read back: it has no numbers, it is no deeper than
allowed, and its members stand in the order of their names. -/
inductive IsPlain : Nat → Json → Prop where
  | null {depth : Nat} : IsPlain depth .null
  | bool {depth : Nat} (b : Bool) : IsPlain depth (.bool b)
  | string {depth : Nat} (s : String) : IsPlain depth (.string s)
  | array {depth : Nat} {items : List Json} (each : ∀ v ∈ items, IsPlain depth v) :
      IsPlain (depth + 1) (.array items)
  | object {depth : Nat} {members : List (String × Json)}
      (sorted : members.Pairwise fun m m' => m.1 < m'.1)
      (each : ∀ m ∈ members, IsPlain depth m.2) : IsPlain (depth + 1) (.object members)

/-- Bytes that are a value, and that are read as it whatever follows. -/
structure Writes (depth : Nat) (v : Json) (bs : Bytes) : Prop where
  value : Derives .value bs
  read : ∀ rest, readValue depth (bs ++ rest) = .ok (v, rest)

/-- The same of the items of an array. -/
structure WritesItems (depth : Nat) (items : List Json) (bs : Bytes) : Prop where
  first : ∃ b tail, bs = b :: tail ∧ isGap b = false ∧ b ≠ 0x5D
  derived : ∃ vs, Derives (.items vs) bs
  read : ∀ fuel before rest, bs.length ≤ fuel →
    readItems (readValue depth) fuel before (bs ++ rest) = .ok (before.reverse ++ items, rest)

/-- The same of the members of an object behind the first quote. -/
structure WritesMembers (depth : Nat) (members : List (String × Json)) (bs : Bytes) : Prop where
  derived : ∃ ms, Derives (.members ms) (quote :: bs)
  read : ∀ fuel before rest, bs.length ≤ fuel →
    readMembers (readValue depth) fuel before (bs ++ rest) = .ok (before.reverse ++ members, rest)

section Parts

variable {depth : Nat} {v : Json} {bs bs' rest : Bytes} {items : List Json}

theorem Writes.element (h : Writes depth v bs) : Derives (.element bs) bs := by
  simpa using Derives.element isGap_nil h.value isGap_nil

theorem writes_null : Writes depth .null (utf8 (chars .null)) where
  value := .null
  read rest := by cases depth <;> rfl

theorem writes_bool (b : Bool) : Writes depth (.bool b) (utf8 (chars (.bool b))) := by
  cases b with
  | true => exact ⟨.yes, fun rest => by cases depth <;> rfl⟩
  | false => exact ⟨.no, fun rest => by cases depth <;> rfl⟩

theorem writes_string (s : String) : Writes depth (.string s) (utf8 (chars (.string s))) := by
  have spelled := spells_escaped s.toList
  have hbytes : utf8 (chars (.string s)) = quoted (utf8 (s.toList.flatMap escapeChar)) :=
    utf8_stringChars s
  rw [hbytes]
  refine ⟨.string spelled.isContent, fun rest => ?_⟩
  have hgap : skipGap (quoted (utf8 (s.toList.flatMap escapeChar)) ++ rest) =
      0x22 :: (utf8 (s.toList.flatMap escapeChar) ++ quote :: rest) := by
    simp only [quoted, List.cons_append, List.append_assoc, List.nil_append]
    exact skipGap_cons (by decide)
  cases depth <;>
    (rw [readValue, hgap]
     simp only [readString_spelled spelled rest, String.ofList_toList]
     rfl)

theorem readItems_last {item : Bytes → Except Halt (Json × Bytes)}
    (h : item bs = .ok (v, 0x5D :: rest)) (fuel : Nat) (before : List Json) :
    readItems item (fuel + 1) before bs = .ok ((v :: before).reverse, rest) := by
  rw [readItems, h]
  rfl

theorem readItems_next {item : Bytes → Except Halt (Json × Bytes)} {b : UInt8} {tail : Bytes}
    (h : item bs = .ok (v, 0x2C :: b :: tail)) (hgap : isGap b = false) (hb : b ≠ 0x5D) (fuel : Nat)
    (before : List Json) :
    readItems item (fuel + 1) before bs = readItems item fuel (v :: before) (b :: tail) := by
  have hcomma : skipGap (0x2C :: b :: tail) = 0x2C :: b :: tail := skipGap_cons (by decide)
  rw [readItems, h]
  simp only [Bind.bind, Except.bind, hcomma, skipGap_cons hgap]
  split
  · next heq => cases heq
  · next heq => exact absurd (List.cons.inj heq).1 hb
  · rfl

theorem writesItems_last (h : Writes depth v bs) : WritesItems depth [v] (bs ++ [0x5D]) where
  first := by
    obtain ⟨b, tail, rfl, hgap, hb⟩ := h.value.exists_first
    exact ⟨b, tail ++ [0x5D], rfl, hgap, hb⟩
  derived := ⟨_, .lastItem h.element⟩
  read fuel before rest hfuel := by
    obtain ⟨fuel, rfl⟩ := exists_fuel hfuel (by simp)
    rw [List.append_assoc, List.singleton_append, readItems_last (h.read _), List.reverse_cons]

theorem writesItems_cons (h : Writes depth v bs) (more : WritesItems depth items bs') :
    WritesItems depth (v :: items) (bs ++ 0x2C :: bs') where
  first := by
    obtain ⟨b, tail, rfl, hgap, hb⟩ := h.value.exists_first
    exact ⟨b, _, rfl, hgap, hb⟩
  derived := by
    obtain ⟨vs, derived⟩ := more.derived
    exact ⟨_, .item h.element derived⟩
  read fuel before rest hfuel := by
    obtain ⟨fuel, rfl⟩ := exists_fuel hfuel (by simp)
    obtain ⟨b, tail, hfirst, hgap, hb⟩ := more.first
    have hmore := more.read fuel (v :: before) rest (by simp at hfuel; omega)
    rw [hfirst, List.cons_append] at hmore
    rw [List.append_assoc, hfirst, List.cons_append, List.cons_append,
      readItems_next (h.read _) hgap hb, hmore, List.reverse_cons, List.append_assoc]
    rfl

/-- Some items and the closing bracket. -/
theorem writesItems_itemChars (each : ∀ v ∈ items, Writes depth v (utf8 v.chars))
    (hne : items ≠ []) : WritesItems depth items (utf8 (itemChars items)) := by
  induction items with
  | nil => exact absurd rfl hne
  | cons v items ih =>
    have hv := each v List.mem_cons_self
    cases items with
    | nil =>
      rw [itemChars, utf8_append]
      exact writesItems_last hv
    | cons w items =>
      have hmore := ih (fun w hw => each w (List.mem_cons_of_mem v hw)) (by simp)
      rw [itemChars, utf8_append]
      · exact writesItems_cons hv hmore
      · simp

theorem readMember_named {item : Bytes → Except Halt (Json × Bytes)} {content tail : Bytes}
    {name : String} (spelled : Spells content name.toList) (h : item tail = .ok (v, rest)) :
    readMember item (content ++ quote :: 0x3A :: tail) = .ok ((name, v), rest) := by
  rw [readMember, readString_spelled spelled]
  have hcolon : skipGap (0x3A :: tail) = 0x3A :: tail := skipGap_cons (by decide)
  simp only [Bind.bind, Except.bind, hcolon, h, String.ofList_toList]
  rfl

theorem readMembers_last {item : Bytes → Except Halt (Json × Bytes)} {m : String × Json}
    (h : readMember item bs = .ok (m, 0x7D :: rest)) (fuel : Nat) (before : List (String × Json)) :
    readMembers item (fuel + 1) before bs = .ok ((m :: before).reverse, rest) := by
  rw [readMembers, h]
  rfl

theorem readMembers_next {item : Bytes → Except Halt (Json × Bytes)} {m : String × Json}
    (h : readMember item bs = .ok (m, 0x2C :: quote :: rest)) (fuel : Nat)
    (before : List (String × Json)) :
    readMembers item (fuel + 1) before bs = readMembers item fuel (m :: before) rest := by
  rw [readMembers, h]
  rfl

variable {name : String} {content : Bytes} {members : List (String × Json)}

theorem writesMembers_last (spelled : Spells content name.toList) (h : Writes depth v bs) :
    WritesMembers depth [(name, v)] (content ++ quote :: 0x3A :: (bs ++ [0x7D])) where
  derived := ⟨_, .lastMember isGap_nil spelled.isContent isGap_nil h.element⟩
  read fuel before rest hfuel := by
    obtain ⟨fuel, rfl⟩ := exists_fuel hfuel (by simp)
    have hvalue : readValue depth (bs ++ 0x7D :: rest) = .ok (v, 0x7D :: rest) := h.read _
    have hbytes : content ++ quote :: 0x3A :: (bs ++ [0x7D]) ++ rest =
        content ++ quote :: 0x3A :: (bs ++ 0x7D :: rest) := by simp
    rw [hbytes, readMembers_last (readMember_named spelled hvalue), List.reverse_cons]

theorem writesMembers_cons (spelled : Spells content name.toList) (h : Writes depth v bs)
    (more : WritesMembers depth members bs') :
    WritesMembers depth ((name, v) :: members)
      (content ++ quote :: 0x3A :: (bs ++ 0x2C :: quote :: bs')) where
  derived := by
    obtain ⟨ms, derived⟩ := more.derived
    exact ⟨_, .member isGap_nil spelled.isContent isGap_nil h.element derived⟩
  read fuel before rest hfuel := by
    obtain ⟨fuel, rfl⟩ := exists_fuel hfuel (by simp)
    have hvalue : readValue depth (bs ++ 0x2C :: quote :: (bs' ++ rest)) =
        .ok (v, 0x2C :: quote :: (bs' ++ rest)) := h.read _
    have hbytes : content ++ quote :: 0x3A :: (bs ++ 0x2C :: quote :: bs') ++ rest =
        content ++ quote :: 0x3A :: (bs ++ 0x2C :: quote :: (bs' ++ rest)) := by simp
    rw [hbytes, readMembers_next (readMember_named spelled hvalue),
      more.read fuel _ rest (by simp at hfuel; omega), List.reverse_cons, List.append_assoc]
    rfl

theorem utf8_member (name : String) (v : Json) (cs : List Char) :
    utf8 (stringChars name ++ ':' :: chars v ++ cs) =
      quote :: (utf8 (name.toList.flatMap escapeChar) ++
        quote :: 0x3A :: (utf8 v.chars ++ utf8 cs)) := by
  have hcolon : utf8 (':' :: chars v) = 0x3A :: utf8 v.chars := rfl
  rw [utf8_append, utf8_append, utf8_stringChars, hcolon]
  simp [quoted]

/-- Some members and the closing brace. -/
theorem exists_writesMembers (each : ∀ m ∈ members, Writes depth m.2 (utf8 m.2.chars))
    (hne : members ≠ []) :
    ∃ bs, utf8 (memberChars members) = quote :: bs ∧ WritesMembers depth members bs := by
  induction members with
  | nil => exact absurd rfl hne
  | cons m members ih =>
    obtain ⟨name, v⟩ := m
    have hv := each (name, v) List.mem_cons_self
    have spelled := spells_escaped name.toList
    cases members with
    | nil => exact ⟨_, utf8_member name v _, writesMembers_last spelled hv⟩
    | cons m' members =>
      obtain ⟨bs, hbs, hmore⟩ :=
        ih (fun m hm => each m (List.mem_cons_of_mem (name, v) hm)) (by simp)
      refine ⟨_, ?_, writesMembers_cons spelled hv hmore⟩
      have hcomma : utf8 (',' :: memberChars (m' :: members)) = 0x2C :: quote :: bs :=
        congrArg (0x2C :: ·) hbs
      rw [memberChars, utf8_member, hcomma]
      simp

theorem writes_array (each : ∀ v ∈ items, Writes depth v (utf8 v.chars)) :
    Writes (depth + 1) (.array items) (utf8 (chars (.array items))) := by
  have hbytes : utf8 (chars (.array items)) = 0x5B :: utf8 (itemChars items) := rfl
  have hread (tail : Bytes) :
      readValue (depth + 1) (0x5B :: tail) = readArray (readValue depth) tail := by
    rw [readValue, skipGap_cons (by decide)]
    rfl
  by_cases hne : items = []
  · subst hne
    exact ⟨.emptyArray isGap_nil, fun rest => hread _⟩
  · have hitems := writesItems_itemChars each hne
    obtain ⟨b, tail, hfirst, hgap, hb⟩ := hitems.first
    rw [hbytes]
    refine ⟨.array hitems.derived.choose_spec, fun rest => ?_⟩
    have hall := hitems.read (utf8 (itemChars items) ++ rest).length [] rest (by simp)
    rw [hfirst, List.cons_append] at hall
    rw [hfirst, List.cons_append, List.cons_append, hread, readArray, skipGap_cons hgap]
    split
    · next heq => cases heq
    · next heq => exact absurd (List.cons.inj heq).1 hb
    · rw [hall]
      rfl

theorem writes_object (sorted : members.Pairwise fun m m' => m.1 < m'.1)
    (each : ∀ m ∈ members, Writes depth m.2 (utf8 m.2.chars)) :
    Writes (depth + 1) (.object members) (utf8 (chars (.object members))) := by
  have hbytes : utf8 (chars (.object members)) = 0x7B :: utf8 (memberChars members) := rfl
  have hread (tail : Bytes) :
      readValue (depth + 1) (0x7B :: tail) = readObject (readValue depth) tail := by
    rw [readValue, skipGap_cons (by decide)]
    rfl
  by_cases hne : members = []
  · subst hne
    exact ⟨.emptyObject isGap_nil, fun rest => hread _⟩
  · obtain ⟨bs, hfirst, hmembers⟩ := exists_writesMembers each hne
    rw [hbytes, hfirst]
    refine ⟨.object hmembers.derived.choose_spec, fun rest => ?_⟩
    have hall := hmembers.read (bs ++ rest).length [] rest (by simp)
    have hquote : skipGap (quote :: (bs ++ rest)) = 0x22 :: (bs ++ rest) :=
      skipGap_cons (by decide)
    rw [List.cons_append, List.cons_append, hread, readObject, hquote]
    simp only [hall, List.reverse_nil, List.nil_append]
    simp [Bind.bind, Except.bind, Pure.pure, Except.pure, ofMembers_of_sorted sorted]

end Parts

theorem IsPlain.writes {depth : Nat} {v : Json} (h : IsPlain depth v) :
    Writes depth v (utf8 v.chars) := by
  induction h with
  | null => exact writes_null
  | bool b => exact writes_bool b
  | string s => exact writes_string s
  | array _ ih => exact writes_array ih
  | object sorted _ ih => exact writes_object sorted ih

/-- The text of such a value is a JSON text, and it is read as the value. -/
theorem read_text {v : Json} (h : IsPlain greatestDepth v) :
    IsText (Text.Utf8.encode v.text) ∧ read (Text.Utf8.encode v.text) = .ok v := by
  have hread := h.writes.read []
  rw [encode_text]
  rw [List.append_nil] at hread
  exact ⟨⟨_, h.writes.element⟩, by rw [read, readAll, hread]; rfl⟩

end Tenancy.Json
