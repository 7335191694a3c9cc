import Mathlib.Tactic.SplitIfs
import Tenancy.Proofs.Json.Outline
import Tenancy.Proofs.Json.Scalars

/-!
# What readings stand for

A string is read only if it spells the text that it is read as (`readString_eq_ok_iff`), and a value
is read as null, as a text or as an integer only if it is one.
-/

namespace Tenancy.Json

section Strings

variable {bs out content rest escape : Bytes} {c : Char} {cs : List Char} {n : Nat} {s : String}

/-- An escape without its backslash that stands for a character wherever it is. -/
def Stands (escape : Bytes) (c : Char) : Prop :=
  ∀ content cs, Spells content cs → Spells (backslash :: (escape ++ content)) (c :: cs)

/-- What content comes to, byte by byte and escape by escape. -/
inductive Renders : Bytes → Bytes → Prop where
  | nil : Renders [] []
  | plain {b : UInt8} {content out : Bytes} (printable : 0x20 ≤ b) (unquoted : b ≠ quote)
      (unescaped : b ≠ backslash) (more : Renders content out) : Renders (b :: content) (b :: out)
  | escape {escape content out : Bytes} {c : Char} (stands : Stands escape c)
      (more : Renders content out) :
      Renders (backslash :: (escape ++ content)) (String.utf8EncodeChar c ++ out)

theorem numbers_of_readHex (h : readHex bs = .ok (n, rest)) :
    ∃ digits, Numbers digits n ∧ bs = digits ++ rest := by
  unfold readHex at h
  split at h
  · split at h
    · next ha hb hc hd =>
      cases h
      exact ⟨_, .four ha hb hc hd, rfl⟩
    · cases h
  · cases h

theorem stands_of_readPair (number : Numbers escape n) (leading : isLeadingSurrogate n = true)
    (h : readPair n bs = .ok (out, rest)) :
    ∃ escape' c, bs = escape' ++ rest ∧ out = String.utf8EncodeChar c ∧
      Stands (0x75 :: (escape ++ escape')) c := by
  unfold readPair at h
  split at h
  · obtain ⟨⟨m, tail⟩, hhex, hend⟩ := exists_of_bind h
    obtain ⟨digits, number', rfl⟩ := numbers_of_readHex hhex
    dsimp only at hend
    split at hend
    · next trailing =>
      obtain ⟨rfl, rfl⟩ := Prod.mk.inj (Except.ok.inj hend)
      refine ⟨backslash :: 0x75 :: digits, _, rfl, rfl, fun content cs more => ?_⟩
      simpa using Spells.paired number number' leading trailing more
    · cases hend
  all_goals cases h

theorem stands_of_readEscape (h : readEscape bs = .ok (out, rest)) :
    ∃ escape c, bs = escape ++ rest ∧ out = String.utf8EncodeChar c ∧ Stands escape c := by
  unfold readEscape at h
  split at h
  · cases h
  · obtain ⟨⟨n, tail⟩, hhex, hend⟩ := exists_of_bind h
    obtain ⟨digits, number, rfl⟩ := numbers_of_readHex hhex
    dsimp only at hend
    split at hend
    · cases hend
    next untrailing =>
    split at hend
    · next leading =>
      obtain ⟨escape', c, rfl, hout, stands⟩ := stands_of_readPair number leading hend
      exact ⟨_, c, by simp, hout, stands⟩
    · next unleading =>
      cases hend
      refine ⟨0x75 :: digits, _, rfl, rfl, fun content cs more => ?_⟩
      have single : isLeadingSurrogate n = false ∧ isTrailingSurrogate n = false :=
        ⟨Bool.eq_false_iff.mpr unleading, Bool.eq_false_iff.mpr untrailing⟩
      simpa using Spells.numbered number single more
  · next e tail _ =>
    split at h
    · next b hshort =>
      cases h
      obtain ⟨c, known⟩ := shortEscapes_of_isSome (e := e) (by rw [hshort]; rfl)
      obtain ⟨b', hshort', hbyte, -⟩ := shortEscape_of_mem known
      cases hshort.symm.trans hshort'
      exact ⟨[e], c, rfl, hbyte.symm, fun content cs more => .short known more⟩
    · cases h

theorem renders_of_readContent {read : Bytes} (h : readContent read bs = .ok (out, rest)) :
    ∃ content out' behind, Renders content out' ∧ out = read.reverse ++ out' ∧
      rest = quote :: behind ∧ bs = content ++ rest := by
  fun_induction readContent read bs with
  | case1 => cases h
  | case2 read tail =>
    cases h
    exact ⟨[], [], tail, .nil, by simp, rfl, rfl⟩
  | case3 => cases h
  | case4 read tail out' tail' hescape _ _ ih =>
    obtain ⟨content, more, behind, renders, rfl, hrest, rfl⟩ := ih h
    obtain ⟨escape, c, rfl, rfl, stands⟩ := stands_of_readEscape hescape
    exact ⟨_, _, behind, .escape stands renders, by simp, hrest, by simp⟩
  | case5 => cases h
  | case6 read b tail unquoted unescaped hcontrol ih =>
    obtain ⟨content, more, behind, renders, rfl, hrest, rfl⟩ := ih h
    exact ⟨_, _, behind, .plain (UInt8.not_lt.mp hcontrol) unquoted unescaped renders, by simp,
      hrest, rfl⟩

/-- Bytes that go on with a character stand for themselves: no escape comes to them. -/
theorem Renders.of_tails {ks : Bytes} (hks : ∀ k ∈ ks, Text.Utf8.IsTail k)
    (h : Renders content (ks ++ out)) : ∃ content', content = ks ++ content' ∧
      Renders content' out := by
  induction ks generalizing content with
  | nil => exact ⟨content, rfl, h⟩
  | cons k ks ih =>
    rw [List.cons_append] at h
    generalize hwhole : k :: (ks ++ out) = whole at h
    cases h with
    | nil => cases hwhole
    | plain _ _ _ more =>
      cases hwhole
      obtain ⟨content', rfl, renders⟩ := ih (fun k hk => hks k (List.mem_cons_of_mem _ hk)) more
      exact ⟨content', rfl, renders⟩
    | @escape _ _ _ c _ _ =>
      obtain ⟨b, ks', hc, hb, -⟩ := Text.Utf8.encodeChar_cons c
      rw [hc, List.cons_append] at hwhole
      exact absurd ((List.cons.inj hwhole).1 ▸ hks k List.mem_cons_self) hb

/-- A character stands for itself if its first byte does. -/
theorem plain_of_encodeChar {b : UInt8} {ks : Bytes} (h : String.utf8EncodeChar c = b :: ks)
    (printable : 0x20 ≤ b) (unquoted : b ≠ quote) (unescaped : b ≠ backslash) :
    ' ' ≤ c ∧ c ≠ '"' ∧ c ≠ '\\' := by
  by_cases hc : c.toNat < 0x80
  · rw [Text.Utf8.encodeChar_of_lt hc] at h
    obtain rfl := (List.cons.inj h).1
    refine ⟨?_, ?_, ?_⟩
    · have hprintable := UInt8.le_iff_toNat_le.mp printable
      rw [Text.Utf8.toNat_ofNat_of_lt (by omega)] at hprintable
      exact hprintable
    · rintro rfl
      exact unquoted rfl
    · rintro rfl
      exact unescaped rfl
  · refine ⟨?_, ?_, ?_⟩
    · have hle : ' '.toNat ≤ c.toNat := by
        have : ' '.toNat = 0x20 := rfl
        omega
      exact hle
    · rintro rfl
      exact hc (by decide)
    · rintro rfl
      exact hc (by decide)

theorem Renders.spells (h : Renders content out)
    (hout : Text.Utf8.scalars out = cs.map some) : Spells content cs := by
  induction cs generalizing content out with
  | nil =>
    cases h with
    | nil => exact .nil
    | plain =>
      rw [Text.Utf8.scalars] at hout
      split at hout <;> cases hout
    | escape =>
      rw [Text.Utf8.scalars_encodeChar] at hout
      cases hout
  | cons c cs ih =>
    cases h with
    | nil =>
      rw [Text.Utf8.scalars] at hout
      cases hout
    | @plain b content out printable unquoted unescaped more =>
      obtain ⟨rest, hbytes, hrest⟩ := Text.Utf8.exists_of_scalars_cons hout
      obtain ⟨b', ks, hc, -, hks⟩ := Text.Utf8.encodeChar_cons c
      rw [hc, List.cons_append] at hbytes
      obtain ⟨rfl, rfl⟩ := List.cons.inj hbytes
      obtain ⟨content', rfl, renders⟩ := Renders.of_tails hks more
      obtain ⟨printable, unquoted, unescaped⟩ :=
        plain_of_encodeChar hc printable unquoted unescaped
      have hspells := Spells.plain printable unquoted unescaped (ih renders hrest)
      rwa [hc] at hspells
    | @escape _ _ _ c' stands more =>
      rw [Text.Utf8.scalars_encodeChar] at hout
      obtain ⟨hc, hrest⟩ := List.cons.inj hout
      cases hc
      exact stands _ _ (ih more hrest)

theorem readString_eq_ok_iff :
    readString bs = .ok (s, rest) ↔ ∃ content, Spells content s.toList ∧
      bs = content ++ quote :: rest := by
  constructor
  · intro h
    obtain ⟨⟨out, behind⟩, hcontent, hend⟩ := exists_of_bind h
    obtain ⟨content, _, tail, renders, rfl, rfl, rfl⟩ := renders_of_readContent hcontent
    dsimp only at hend
    split at hend
    · next hdecode =>
      cases hend
      exact ⟨content, renders.spells (Text.Utf8.scalars_of_decode? hdecode), rfl⟩
    · cases hend
  · rintro ⟨content, spelled, rfl⟩
    rw [readString_spelled spelled, String.ofList_toList]

/-- Content ends at the first quote that is not escaped. -/
theorem content_unique {content' rest' : Bytes} (h : IsContent content) (h' : IsContent content')
    (heq : content ++ quote :: rest = content' ++ quote :: rest') :
    content = content' ∧ rest = rest' := by
  have hrest : rest = rest' := by
    have hskip : skipString (content ++ quote :: rest) = some rest := skipString_append h
    rw [heq, skipString_append h'] at hskip
    exact (Option.some.inj hskip).symm
  rw [hrest] at heq
  exact ⟨List.append_cancel_right heq, hrest⟩

theorem Spells.unique {cs' : List Char} (h : Spells content cs) (h' : Spells content cs') :
    cs = cs' := by
  have hread := readString_spelled h []
  rw [readString_spelled h' []] at hread
  simpa [String.ofList_inj] using hread.symm

end Strings

namespace Outline

variable {inner text g tail content : Bytes} {ms : List (Bytes × Bytes)} {fuel : Nat}

/-- A name that is cut spells a text. -/
theorem spelled_of_cutMembers {parts : List (String × Bytes)} (before : IsGap g)
    (name : IsContent content)
    (h : cutMembers (fuel + 1) (g ++ quote :: (content ++ quote :: tail)) = some parts) :
    ∃ s : String, Spells content s.toList := by
  have hquote : skipGap (g ++ quote :: (content ++ quote :: tail)) =
      0x22 :: (content ++ quote :: tail) := by
    rw [skipGap_append before, skipGap_cons (by decide)]
    rfl
  rw [cutMembers, hquote] at h
  obtain ⟨⟨s, rest⟩, hname, -⟩ := Option.bind_eq_some_iff.mp h
  obtain ⟨content', spelled, heq⟩ := readString_eq_ok_iff.mp (eq_ok_of_toOption hname)
  obtain ⟨rfl, -⟩ := content_unique name spelled.isContent heq
  exact ⟨s, spelled⟩

/-- So do all names. -/
theorem named_of_cutMembers (h : Derives (.members ms) inner) {parts : List (String × Bytes)}
    (hcut : cutMembers fuel (inner ++ g) = some parts) : ∃ named, Named ms named := by
  induction ms generalizing inner fuel parts with
  | nil => cases h
  | cons m ms ih =>
    cases fuel with
    | zero => cases hcut
    | succ fuel =>
      cases h with
      | lastMember before name behind element =>
        rw [List.append_assoc, List.cons_append, List.append_assoc, List.cons_append] at hcut
        obtain ⟨s, spelled⟩ := spelled_of_cutMembers before name hcut
        exact ⟨[(s, _)], .cons ⟨spelled, rfl⟩ .nil⟩
      | @member g₁ content g₂ v e more _ before name behind element members =>
        have hinner : g₁ ++ quote :: (content ++ quote :: (g₂ ++ 0x3A :: (e ++ 0x2C :: more))) ++ g =
            g₁ ++ quote :: (content ++ quote :: (g₂ ++ 0x3A :: (e ++ 0x2C :: (more ++ g)))) := by
          simp
        rw [hinner] at hcut
        obtain ⟨s, spelled⟩ := spelled_of_cutMembers before name hcut
        obtain ⟨g₃, g₄, -, hg₄, hvalue⟩ :=
          cutValue_append element (0x2C :: (more ++ g)) (ends_cons (by decide))
        rw [cutMembers_succ fuel before spelled behind hvalue, skipGap_append hg₄,
          skipGap_cons (by decide)] at hcut
        obtain ⟨parts', hcut, -⟩ := Option.map_eq_some_iff.mp hcut
        obtain ⟨named, hnamed⟩ := ih members hcut
        exact ⟨(s, v) :: named, .cons ⟨spelled, rfl⟩ hnamed⟩

/-- The names of an object that has an outline spell texts. -/
theorem named_of_read {o : Outline} (h : IsObject ms text) (hread : read text = some o) :
    ∃ named, Named ms named := by
  cases h with
  | empty => exact ⟨[], .nil⟩
  | members before inside behind =>
    obtain ⟨inner', inside', hmembers⟩ := read_members before inside _
    rw [hmembers] at hread
    obtain ⟨parts, hcut, -⟩ := Option.map_eq_some_iff.mp hread
    exact named_of_cutMembers inside' hcut

end Outline

/-- What is followed as a number to its end is a number. -/
theorem value_of_skipNumber {bs : Bytes} (h : skipNumber bs = some []) : Derives .value bs := by
  obtain ⟨n, magnitude, rfl⟩ := magnitude_of_skipNumber h
  rw [List.append_nil]
  exact .number magnitude

section Values

variable {bs tail rest : Bytes} {b : UInt8} {depth : Nat} {j : Json}

/-- How a value is read by its first byte. -/
inductive ReadBy (b : UInt8) (tail : Bytes) : Json → Bytes → Prop where
  | null {rest : Bytes} (first : b = 0x6E) : ReadBy b tail .null rest
  | bool {x : Bool} {rest : Bytes} (first : b = 0x74 ∨ b = 0x66) : ReadBy b tail (.bool x) rest
  | negative {n : Number} {rest : Bytes} (first : b = 0x2D)
    (reads : readNumber true tail = .ok (n, rest)) : ReadBy b tail (.number n) rest
  | natural {n : Number} {rest : Bytes} (first : isDigit b = true)
    (reads : readNumber false (b :: tail) = .ok (n, rest)) : ReadBy b tail (.number n) rest
  | string {s : String} {rest : Bytes} (first : b = quote)
    (reads : readString tail = .ok (s, rest)) : ReadBy b tail (.string s) rest
  | array {items : List Json} {rest : Bytes} (first : b = 0x5B) : ReadBy b tail (.array items) rest
  | object {members : List (String × Json)} {rest : Bytes} (first : b = 0x7B) :
    ReadBy b tail (.object members) rest

theorem array_of_readArray {item : Bytes → Except Halt (Json × Bytes)}
    (h : readArray item bs = .ok (j, rest)) : ∃ items, j = .array items := by
  unfold readArray at h
  split at h
  · cases h
  · cases h
    exact ⟨_, rfl⟩
  · obtain ⟨⟨items, tail⟩, -, hend⟩ := exists_of_bind h
    cases hend
    exact ⟨_, rfl⟩

theorem object_of_readObject {item : Bytes → Except Halt (Json × Bytes)}
    (h : readObject item bs = .ok (j, rest)) : ∃ members, j = .object members := by
  unfold readObject at h
  split at h
  · cases h
  · cases h
    exact ⟨_, rfl⟩
  · obtain ⟨⟨members, tail⟩, -, hend⟩ := exists_of_bind h
    cases hend
    exact ⟨_, rfl⟩
  · cases h

theorem readBy_of_readValue (hbs : skipGap bs = b :: tail)
    (h : readValue depth bs = .ok (j, rest)) : ReadBy b tail j rest := by
  rw [readValue.eq_def, hbs] at h
  dsimp only at h
  split at h
  · obtain ⟨rest', -, hend⟩ := exists_of_bind h
    cases hend
    exact .null rfl
  · obtain ⟨rest', -, hend⟩ := exists_of_bind h
    cases hend
    exact .bool (.inl rfl)
  · obtain ⟨rest', -, hend⟩ := exists_of_bind h
    cases hend
    exact .bool (.inr rfl)
  · obtain ⟨⟨n, rest'⟩, hread, hend⟩ := exists_of_bind h
    cases hend
    exact .negative rfl hread
  · obtain ⟨⟨s, rest'⟩, hread, hend⟩ := exists_of_bind h
    cases hend
    exact .string rfl hread
  · split at h
    · cases h
    · obtain ⟨items, rfl⟩ := array_of_readArray h
      exact .array rfl
  · split at h
    · cases h
    · obtain ⟨members, rfl⟩ := object_of_readObject h
      exact .object rfl
  · split at h
    · next hdigit =>
      obtain ⟨⟨n, rest'⟩, hread, hend⟩ := exists_of_bind h
      cases hend
      exact .natural hdigit hread
    · cases h

theorem readBy_of_readAll (hbs : skipGap bs = b :: tail) (h : readAll depth bs = .ok j) :
    ∃ rest, IsGap rest ∧ ReadBy b tail j rest := by
  obtain ⟨⟨v, rest⟩, hvalue, hend⟩ := exists_of_bind h
  dsimp only at hend
  split at hend
  · next hgap =>
    cases hend
    exact ⟨rest, List.dropWhile_eq_nil_iff.mp hgap, readBy_of_readValue hbs hvalue⟩
  · cases hend

/-- A number without a sign begins with a digit. -/
theorem ne_of_magnitude {v : Bytes} (magnitude : IsMagnitude v) (hv : b :: tail = v)
    {c : UInt8} (hc : isDigit c = false) : b ≠ c := by
  obtain ⟨b', tail', rfl, hdigit⟩ := magnitude.exists_digit
  obtain rfl := (List.cons.inj hv).1
  rintro rfl
  rw [hc] at hdigit
  cases hdigit

theorem null_of_readAll {v : Bytes} (value : Derives .value v)
    (h : readAll depth v = .ok .null) : v = [0x6E, 0x75, 0x6C, 0x6C] := by
  obtain ⟨b, tail, rfl, hgap, -⟩ := value.exists_first
  obtain ⟨rest, -, hby⟩ := readBy_of_readAll (skipGap_cons hgap) h
  cases hby with
  | null first =>
    generalize hv : b :: tail = v at value
    cases value with
    | null => rfl
    | number magnitude => exact absurd first (ne_of_magnitude magnitude hv (by decide))
    | _ => exact absurd ((List.cons.inj hv).1.symm.trans first) (by decide)

theorem spelled_of_readAll {v : Bytes} {s : String} (value : Derives .value v)
    (h : readAll depth v = .ok (.string s)) :
    ∃ content, Spells content s.toList ∧ v = quoted content := by
  obtain ⟨b, tail, rfl, hgap, -⟩ := value.exists_first
  obtain ⟨rest, -, hby⟩ := readBy_of_readAll (skipGap_cons hgap) h
  cases hby with
  | string first reads =>
    generalize hv : b :: tail = v at value
    cases value with
    | @string content content_is =>
      obtain ⟨-, rfl⟩ := List.cons.inj hv
      obtain ⟨content', spelled, heq⟩ := readString_eq_ok_iff.mp reads
      obtain ⟨rfl, -⟩ := content_unique content_is spelled.isContent heq
      exact ⟨content, spelled, rfl⟩
    | number magnitude => exact absurd first (ne_of_magnitude magnitude hv (by decide))
    | _ => exact absurd ((List.cons.inj hv).1.symm.trans first) (by decide)

end Values

section Integers

variable {bs rest : Bytes} {n : Number} {m : Mantissa} {negative : Bool} {k : Int}

/-- Numbers that are no integers of 64 bits. -/
def Number.IsReal (n : Number) : Prop :=
  ∃ negative d, n = .real negative d

theorem isReal_of_real (h : real negative m bs = .ok (n, rest)) : n.IsReal := by
  unfold real at h
  split at h
  · cases h
    exact ⟨_, _, rfl⟩
  · cases h

theorem isReal_of_readExponent (h : readExponent negative m bs = .ok (n, rest)) : n.IsReal := by
  unfold readExponent at h
  dsimp only at h
  split at h
  · cases h
  · split_ifs at h
    all_goals first
      | exact isReal_of_real h
      | cases h; exact ⟨_, _, rfl⟩
      | cases h

theorem isReal_of_readFraction (h : readFraction negative m bs = .ok (n, rest)) : n.IsReal := by
  unfold readFraction at h
  split at h
  · cases h
  · split at h
    · dsimp only [readScale] at h
      split at h
      · exact isReal_of_readExponent h
      · exact isReal_of_readExponent h
      · exact isReal_of_real h
    · cases h

theorem takeDigits_lt {bound i : Nat} (h : i < bound) (count : Nat) (bs : Bytes) :
    (takeDigits bound i count bs).1 < bound := by
  induction bs generalizing i count with
  | nil => exact h
  | cons b bs ih =>
    rw [takeDigits]
    split
    · next hnext => exact ih hnext.2 (count + 1)
    · exact h

theorem range_of_integral {i : Nat} (hi : i < wordBound)
    (h : integral negative i bs = .ok (.integer k, rest)) : leastInteger ≤ k ∧ k < wordBound := by
  have hleast : leastInteger < 0 := by decide
  unfold integral at h
  split at h
  · split at h
    · next hlow =>
      cases h
      exact ⟨hlow.2, by omega⟩
    · obtain ⟨_, _, hreal⟩ := isReal_of_real h
      cases hreal
  · cases h
    exact ⟨by omega, by omega⟩

/-- What is read as an integer fits in 64 bits. -/
theorem range_of_readNumber (h : readNumber negative bs = .ok (.integer k, rest)) :
    leastInteger ≤ k ∧ k < wordBound := by
  unfold readNumber at h
  split at h
  · cases h
  · next b tail =>
    split at h
    · cases h
    split at h
    · next hdigit =>
      have hfirst : digitValue b < wordBound := by
        have := b.toNat_lt
        simp only [digitValue, wordBound]
        omega
      have hall := takeDigits_lt hfirst 1 tail
      dsimp only at h
      split at h
      · obtain ⟨_, _, hreal⟩ := isReal_of_readFraction h
        cases hreal
      · obtain ⟨_, _, hreal⟩ := isReal_of_readExponent h
        cases hreal
      · obtain ⟨_, _, hreal⟩ := isReal_of_readExponent h
        cases hreal
      · split at h
        · exact range_of_integral hall h
        · obtain ⟨_, _, hreal⟩ := isReal_of_real h
          cases hreal
    · cases h

theorem Number.text_eq_toString_iff : n.text = toString k ↔ n = .integer k := by
  constructor
  · intro h
    cases k with
    | ofNat i => exact Number.text_eq_repr_iff.mp h
    | negSucc i =>
      have hchars : n.chars = '-' :: Nat.toDigits 10 (i + 1) := by
        have hlist := congrArg String.toList h
        have htext : toString (Int.negSucc i) = "-" ++ (i + 1).repr := rfl
        simpa [Number.text, htext] using hlist
      have hdigits : ∀ c ∈ n.chars, c = '-' ∨ c.isDigit = true := by
        rw [hchars]
        simp only [List.mem_cons]
        exact fun c hc => hc.imp_right (Nat.isDigit_of_mem_toDigits (by decide) (by decide))
      cases n with
      | integer m =>
        by_cases hm : m < 0
        · rw [Number.chars, if_pos hm, List.singleton_append] at hchars
          have hread := congrArg (Nat.ofDigitChars 10 · 0) (List.cons.inj hchars).2
          simp only [Nat.ofDigitChars_toDigits (b := 10) (by decide) (by decide)] at hread
          rw [show m = Int.negSucc i by omega]
        · rw [Number.chars, if_neg hm, List.nil_append] at hchars
          have hsign : '-' ∈ Nat.toDigits 10 m.natAbs := hchars ▸ List.mem_cons_self
          exact absurd (Nat.isDigit_of_mem_toDigits (by decide) (by decide) hsign) (by decide)
      | real sign d =>
        have hmem : ∀ c ∈ d.write Number.layout, c ∈ (Number.real sign d).chars :=
          fun c hc => List.mem_append_right _ hc
        rcases d.mark_mem_write Number.layout with hpoint | hexponent
        · exact absurd (hdigits _ (hmem _ hpoint)) (by decide)
        · exact absurd (hdigits _ (hmem _ hexponent)) (by decide)
  · rintro rfl
    exact text_integer k

/-- An integer begins with a digit or with its sign. -/
theorem encode_toString_cons (k : Int) : ∃ b tail, Text.Utf8.encode (toString k) = b :: tail ∧
    (isDigit b = true ∨ b = 0x2D) := by
  cases k with
  | ofNat i =>
    have htext : toString (Int.ofNat i) = i.repr := rfl
    rw [htext, encode_repr]
    cases hi : Nat.toDigits 10 i with
    | nil => exact absurd hi Nat.toDigits_ne_nil
    | cons c cs =>
      have hmem : c ∈ Nat.toDigits 10 i := hi ▸ List.mem_cons_self
      have hdigit := Nat.isDigit_of_mem_toDigits (by decide) (by decide) hmem
      exact ⟨_, _, rfl, .inl (digitByte_of_isDigit hdigit).1⟩
  | negSucc i =>
    have htext : toString (Int.negSucc i) = "-" ++ (i + 1).repr := rfl
    rw [htext, Text.Utf8.encode_append]
    exact ⟨0x2D, _, rfl, .inr rfl⟩

/-- An integer is read as a number, and keeps its text only if it fits in 64 bits. -/
theorem number_of_readAll {depth : Nat} {j : Json}
    (h : readAll depth (Text.Utf8.encode (toString k)) = .ok j) :
    ∃ n, j = .number n ∧ (n.text = toString k → leastInteger ≤ k ∧ k < wordBound) := by
  obtain ⟨b, tail, hk, hb⟩ := encode_toString_cons k
  rw [hk] at h
  have hgap : isGap b = false := by
    rcases hb with hdigit | rfl
    · exact not_isGap_of_isDigit hdigit
    · decide
  have hother : ∀ c : UInt8, b = c → isDigit c = false → c ≠ 0x2D → False := by
    rintro c rfl hdigit hsign
    simp_all
  obtain ⟨rest, -, hby⟩ := readBy_of_readAll (skipGap_cons hgap) h
  cases hby with
  | negative _ reads | natural _ reads =>
    refine ⟨_, rfl, fun htext => ?_⟩
    rw [Number.text_eq_toString_iff.mp htext] at reads
    exact range_of_readNumber reads
  | bool first => rcases first with first | first <;> exact (hother _ first rfl (by decide)).elim
  | null first | string first | array first | object first =>
    exact (hother _ first rfl (by decide)).elim

end Integers

end Tenancy.Json
