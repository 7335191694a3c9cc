import Tenancy.Proofs.Json.Lexemes
import Tenancy.Proofs.Text.Utf8

/-!
# Reading strings

Content that spells a text is read as that text (`readString_spelled`), and what is read is the
content of a string (`content_of_readString`).
-/

namespace Tenancy.Json

section Spelled

variable {bs digits content rest : Bytes} {cs : List Char} {c : Char} {n : Nat}

theorem readHex_append (h : Numbers digits n) (rest : Bytes) :
    readHex (digits ++ rest) = .ok (n, rest) := by
  cases h with
  | four first second third fourth => simp [readHex, first, second, third, fourth]

/-- A character that stands for itself does so in each of its bytes. -/
theorem plain_of_mem_encodeChar (printable : ' ' ≤ c) (unquoted : c ≠ '"') (unescaped : c ≠ '\\')
    {b : UInt8} (hb : b ∈ String.utf8EncodeChar c) : 0x20 ≤ b ∧ b ≠ quote ∧ b ≠ backslash := by
  by_cases hc : c.toNat < 0x80
  · rw [Text.Utf8.encodeChar_of_lt hc, List.mem_singleton] at hb
    have hbyte : b.toNat = c.toNat := by
      rw [hb]
      exact Text.Utf8.toNat_ofNat_of_lt (by omega)
    have hchar : ∀ d : Char, c ≠ d → c.toNat ≠ d.toNat :=
      fun d hne heq => hne (Char.toNat_inj.mp heq)
    refine ⟨UInt8.le_iff_toNat_le.mpr (hbyte ▸ printable), ?_, ?_⟩
    · intro hquote
      exact hchar '"' unquoted (by rw [← hbyte, hquote]; rfl)
    · intro hbackslash
      exact hchar '\\' unescaped (by rw [← hbyte, hbackslash]; rfl)
  · have hb := Text.Utf8.le_of_mem_encodeChar (Nat.not_lt.mp hc) hb
    refine ⟨UInt8.le_trans (by decide) hb, ?_, ?_⟩
    · rintro rfl
      exact absurd hb (by decide)
    · rintro rfl
      exact absurd hb (by decide)

theorem isContent_plain_append (h : ∀ b ∈ bs, 0x20 ≤ b ∧ b ≠ quote ∧ b ≠ backslash)
    (more : IsContent content) : IsContent (bs ++ content) := by
  induction bs with
  | nil => exact more
  | cons b bs ih =>
    obtain ⟨printable, unquoted, unescaped⟩ := h b List.mem_cons_self
    exact .plain printable unquoted unescaped (ih fun b hb => h b (List.mem_cons_of_mem _ hb))

theorem Numbers.isHex (h : Numbers digits n) :
    ∃ a b c d, digits = [a, b, c, d] ∧ IsHex [a, b, c, d] := by
  cases h with
  | four first second third fourth => exact ⟨_, _, _, _, rfl, by simp [IsHex, *]⟩

/-- What stands for characters can stand between quotes. -/
theorem Spells.isContent (h : Spells content cs) : IsContent content := by
  induction h with
  | nil => exact .nil
  | plain printable unquoted unescaped _ ih =>
    exact isContent_plain_append
      (fun _ hb => plain_of_mem_encodeChar printable unquoted unescaped hb) ih
  | short known _ ih => exact .short known ih
  | numbered number _ _ ih =>
    obtain ⟨a, b, c, d, rfl, hex⟩ := number.isHex
    exact .numbered hex ih
  | paired number number' _ _ _ ih =>
    obtain ⟨a, b, c, d, rfl, hex⟩ := number.isHex
    obtain ⟨a', b', c', d', rfl, hex'⟩ := number'.isHex
    exact .numbered hex (.numbered hex' ih)

/-- Characters that need no escape stand for themselves. -/
theorem spells_encode {s : String} (h : ∀ c ∈ s.toList, ' ' ≤ c ∧ c ≠ '"' ∧ c ≠ '\\') :
    Spells (Text.Utf8.encode s) s.toList := by
  rw [Text.Utf8.encode]
  generalize s.toList = cs at h
  induction cs with
  | nil => exact .nil
  | cons c cs ih =>
    obtain ⟨printable, unquoted, unescaped⟩ := h c List.mem_cons_self
    exact .plain printable unquoted unescaped (ih fun c hc => h c (List.mem_cons_of_mem _ hc))

theorem readContent_plain (h : ∀ b ∈ bs, 0x20 ≤ b ∧ b ≠ quote ∧ b ≠ backslash) (read rest : Bytes) :
    readContent read (bs ++ rest) = readContent (bs.reverse ++ read) rest := by
  induction bs generalizing read with
  | nil => rfl
  | cons b bs ih =>
    obtain ⟨printable, unquoted, unescaped⟩ := h b List.mem_cons_self
    rw [List.cons_append, readContent.eq_def]
    simp only [unquoted, unescaped, UInt8.not_lt.mpr printable, if_false]
    rw [ih fun b hb => h b (List.mem_cons_of_mem _ hb)]
    simp

theorem readContent_escape {escape out : Bytes} (h : readEscape (escape ++ rest) = .ok (out, rest))
    (read : Bytes) :
    readContent read (backslash :: (escape ++ rest)) = readContent (out.reverse ++ read) rest := by
  rw [readContent.eq_def]
  simp only [show backslash ≠ quote by decide, if_false, if_true]
  split
  · next heq => cases h.symm.trans heq
  · next heq =>
    cases h.symm.trans heq
    rfl

theorem readEscape_number (number : Numbers digits n)
    (single : isLeadingSurrogate n = false ∧ isTrailingSurrogate n = false) (rest : Bytes) :
    readEscape (0x75 :: digits ++ rest) = .ok (codePoint n, rest) := by
  rw [List.cons_append, readEscape, readHex_append number]
  simp [single, Bind.bind, Except.bind, Pure.pure, Except.pure]

theorem not_isTrailingSurrogate (h : isLeadingSurrogate n = true) :
    isTrailingSurrogate n = false := by
  simp only [isLeadingSurrogate, Bool.and_eq_true, decide_eq_true_eq] at h
  simp only [isTrailingSurrogate, Bool.and_eq_false_iff, decide_eq_false_iff_not]
  omega

theorem readEscape_pair {digits' : Bytes} {m : Nat} (number : Numbers digits n)
    (number' : Numbers digits' m) (leading : isLeadingSurrogate n = true)
    (trailing : isTrailingSurrogate m = true) (rest : Bytes) :
    readEscape (0x75 :: digits ++ backslash :: 0x75 :: digits' ++ rest) =
      .ok (codePoint (0x10000 + (n - 0xD800) * 0x400 + (m - 0xDC00)), rest) := by
  have hpair : readPair n (backslash :: 0x75 :: (digits' ++ rest)) =
      .ok (codePoint (0x10000 + (n - 0xD800) * 0x400 + (m - 0xDC00)), rest) := by
    rw [backslash, readPair, readHex_append number']
    simp [trailing, Bind.bind, Except.bind, Pure.pure, Except.pure]
  have hassoc : 0x75 :: digits ++ backslash :: 0x75 :: digits' ++ rest =
      0x75 :: (digits ++ backslash :: 0x75 :: (digits' ++ rest)) := by simp
  rw [hassoc, readEscape, readHex_append number]
  simp [leading, not_isTrailingSurrogate leading, hpair, Bind.bind, Except.bind]

theorem readContent_spelled (h : Spells content cs) (read rest : Bytes) :
    readContent read (content ++ quote :: rest) =
      .ok (read.reverse ++ cs.flatMap String.utf8EncodeChar, quote :: rest) := by
  induction h generalizing read with
  | nil =>
    rw [List.nil_append, readContent.eq_def]
    simp
  | @plain c content cs printable unquoted unescaped _ ih =>
    rw [List.append_assoc,
      readContent_plain fun b => plain_of_mem_encodeChar printable unquoted unescaped, ih]
    simp
  | @short e c content cs known _ ih =>
    obtain ⟨b, hshort, hbyte, hnumber⟩ := shortEscape_of_mem known
    have hescape : readEscape ([e] ++ (content ++ quote :: rest)) =
        .ok ([b], content ++ quote :: rest) := by
      rw [List.singleton_append, readEscape]
      · simp [hshort, Pure.pure, Except.pure]
      · exact hnumber
    have hread := readContent_escape hescape read
    rw [ih] at hread
    simpa [hbyte] using hread
  | @numbered digits content n cs number single _ ih =>
    have hescape := readEscape_number number single (content ++ quote :: rest)
    have hread := readContent_escape hescape read
    rw [ih] at hread
    simpa [codePoint] using hread
  | @paired digits digits' content n m cs number number' leading trailing _ ih =>
    have hescape :=
      readEscape_pair number number' leading trailing (content ++ quote :: rest)
    have hread := readContent_escape hescape read
    rw [ih] at hread
    simpa [codePoint] using hread

theorem readString_spelled (h : Spells content cs) (rest : Bytes) :
    readString (content ++ quote :: rest) = .ok (.ofList cs, rest) := by
  rw [readString, readContent_spelled h]
  simp [Text.Utf8.decode?_flatMap_encodeChar, Bind.bind, Except.bind, Pure.pure, Except.pure]

end Spelled

section Content

variable {bs out rest : Bytes} {n : Nat}

theorem exists_of_bind {ε α β : Type} {x : Except ε α} {f : α → Except ε β} {y : β}
    (h : x >>= f = .ok y) : ∃ a, x = .ok a ∧ f a = .ok y := by
  cases x with
  | error e => cases h
  | ok a => exact ⟨a, rfl, h⟩

theorem hex_of_readHex (h : readHex bs = .ok (n, rest)) :
    ∃ a b c d, IsHex [a, b, c, d] ∧ bs = a :: b :: c :: d :: rest := by
  unfold readHex at h
  split at h
  · next a b c d tail =>
    split at h
    · next ha hb hc hd =>
      cases h
      exact ⟨a, b, c, d, by simp [IsHex, ha, hb, hc, hd], rfl⟩
    · cases h
  · cases h

theorem content_of_readPair (h : readPair n bs = .ok (out, rest)) :
    ∃ a b c d, IsHex [a, b, c, d] ∧ bs = backslash :: 0x75 :: a :: b :: c :: d :: rest := by
  unfold readPair at h
  split at h
  · obtain ⟨⟨m, tail⟩, hhex, hend⟩ := exists_of_bind h
    obtain ⟨a, b, c, d, digits, rfl⟩ := hex_of_readHex hhex
    dsimp only at hend
    split at hend
    · obtain ⟨-, rfl⟩ := Prod.mk.inj (Except.ok.inj hend)
      exact ⟨a, b, c, d, digits, rfl⟩
    · cases hend
  all_goals cases h

/-- What is read behind a backslash may stand there. -/
theorem content_of_readEscape (h : readEscape bs = .ok (out, rest)) :
    ∃ escape, bs = escape ++ rest ∧
      ∀ content, IsContent content → IsContent (backslash :: (escape ++ content)) := by
  unfold readEscape at h
  split at h
  · cases h
  · obtain ⟨⟨n, tail⟩, hhex, hend⟩ := exists_of_bind h
    obtain ⟨a, b, c, d, digits, rfl⟩ := hex_of_readHex hhex
    dsimp only at hend
    split at hend
    · cases hend
    split at hend
    · obtain ⟨a', b', c', d', digits', rfl⟩ := content_of_readPair hend
      exact ⟨[0x75, a, b, c, d, backslash, 0x75, a', b', c', d'], rfl,
        fun content hcontent => .numbered digits (.numbered digits' hcontent)⟩
    · cases hend
      exact ⟨[0x75, a, b, c, d], rfl, fun content hcontent => .numbered digits hcontent⟩
  · next e tail _ =>
    split at h
    · next hshort =>
      cases h
      obtain ⟨c, known⟩ := shortEscapes_of_isSome (e := e) (by rw [hshort]; rfl)
      exact ⟨[e], rfl, fun content hcontent => .short known hcontent⟩
    · cases h

theorem content_of_readContent {read : Bytes} (h : readContent read bs = .ok (out, rest)) :
    ∃ content behind, IsContent content ∧ rest = quote :: behind ∧ bs = content ++ rest := by
  fun_induction readContent read bs with
  | case1 => cases h
  | case2 read tail =>
    cases h
    exact ⟨[], tail, .nil, rfl, rfl⟩
  | case3 => cases h
  | case4 read tail out' tail' hescape _ _ ih =>
    obtain ⟨content, behind, hcontent, hrest, rfl⟩ := ih h
    obtain ⟨escape, rfl, hmore⟩ := content_of_readEscape hescape
    exact ⟨_, behind, hmore content hcontent, hrest, by simp⟩
  | case5 => cases h
  | case6 read b tail unquoted unescaped hcontrol ih =>
    obtain ⟨content, behind, hcontent, hrest, rfl⟩ := ih h
    exact ⟨_, behind, .plain (UInt8.not_lt.mp hcontrol) unquoted unescaped hcontent, hrest, rfl⟩

theorem content_of_readString {name : String} (h : readString bs = .ok (name, rest)) :
    ∃ content, IsContent content ∧ bs = content ++ quote :: rest := by
  obtain ⟨⟨out, behind⟩, hcontent, hend⟩ := exists_of_bind h
  obtain ⟨content, tail, content_is, rfl, rfl⟩ := content_of_readContent hcontent
  dsimp only at hend
  split at hend
  · cases hend
    exact ⟨content, content_is, rfl⟩
  · cases hend

end Content

end Tenancy.Json
