import Tenancy.Text.Utf8

/-!
# Reading UTF-8 back

What is written for a text is read as that text: the first byte of a character says how many follow
and in which ranges, and they lie in them. What is read as a text is written for it.
-/

namespace Tenancy.Text.Utf8

theorem toNat_ofNat_of_lt {n : Nat} (h : n < 256) : (UInt8.ofNat n).toNat = n := by
  simpa using h

/-- The first byte by its number. -/
theorem lead_ofNat {n : Nat} (h : n < 256) :
    lead (UInt8.ofNat n) =
      if n < 0x80 then some (n, [])
      else if n < 0xC2 then none
      else if n < 0xE0 then some (n % 32, [(0x80, 0xBF)])
      else if n = 0xE0 then some (n % 16, [(0xA0, 0xBF), (0x80, 0xBF)])
      else if n = 0xED then some (n % 16, [(0x80, 0x9F), (0x80, 0xBF)])
      else if n < 0xF0 then some (n % 16, [(0x80, 0xBF), (0x80, 0xBF)])
      else if n = 0xF0 then some (n % 8, [(0x90, 0xBF), (0x80, 0xBF), (0x80, 0xBF)])
      else if n < 0xF4 then some (n % 8, [(0x80, 0xBF), (0x80, 0xBF), (0x80, 0xBF)])
      else if n = 0xF4 then some (n % 8, [(0x80, 0x8F), (0x80, 0xBF), (0x80, 0xBF)])
      else none := by
  unfold lead
  simp only [beq_iff_eq, toNat_ofNat_of_lt h, UInt8.lt_iff_toNat_lt, ← UInt8.toNat_inj]
  rfl

theorem continuation_cons {lo hi : UInt8} {more : List (UInt8 × UInt8)} {n k : Nat}
    {rest : List UInt8} (hlo : lo.toNat ≤ k) (hhi : k ≤ hi.toNat) :
    continuation n ((lo, hi) :: more) (UInt8.ofNat k :: rest) =
      continuation (n * 64 + k % 64) more rest := by
  have hk : (UInt8.ofNat k).toNat = k :=
    toNat_ofNat_of_lt (Nat.lt_of_le_of_lt hhi hi.toNat_lt)
  have hin : lo ≤ UInt8.ofNat k ∧ UInt8.ofNat k ≤ hi := by
    rw [UInt8.le_iff_toNat_le, UInt8.le_iff_toNat_le, hk]
    exact ⟨hlo, hhi⟩
  rw [continuation, if_pos hin, hk]

/-- A first byte with as many further bytes as it asks for is one character. -/
theorem scalars_cons {b : UInt8} {n m : Nat} {ranges : List (UInt8 × UInt8)}
    {bytes rest : List UInt8} (hlead : lead b = some (n, ranges))
    (hmore : continuation n ranges bytes = (some m, rest)) :
    scalars (b :: bytes) = some (Char.ofNat m) :: scalars rest := by
  rw [scalars, hlead]
  simp only [hmore, Option.map_some]

section Character

variable {n : Nat} (rest : List UInt8)

theorem scalars_one (h : n < 0x80) :
    scalars (UInt8.ofNat n :: rest) = some (Char.ofNat n) :: scalars rest := by
  have hlead : lead (UInt8.ofNat n) = some (n, []) := by
    rw [lead_ofNat (by omega), if_pos h]
  exact scalars_cons hlead rfl

theorem scalars_two (h : 0x80 ≤ n) (h' : n < 0x800) :
    scalars (UInt8.ofNat (n / 64 % 32 + 192) :: UInt8.ofNat (n % 64 + 128) :: rest) =
      some (Char.ofNat n) :: scalars rest := by
  have hlead : lead (UInt8.ofNat (n / 64 % 32 + 192)) =
      some ((n / 64 % 32 + 192) % 32, [(0x80, 0xBF)]) := by
    rw [lead_ofNat (by omega), if_neg (by omega), if_neg (by omega), if_pos (by omega)]
  refine scalars_cons hlead ?_
  rw [continuation_cons (show 0x80 ≤ _ by omega) (show _ ≤ 0xBF by omega), continuation]
  congr 2
  omega

/-- The second byte of three is bounded further where the first one is the least, so that no shorter
form would do, and where surrogates would lie. -/
theorem scalars_three (h : 0x800 ≤ n) (h' : n < 0x10000) (hs : n < 0xD800 ∨ 0xDFFF < n) :
    scalars (UInt8.ofNat (n / 4096 % 16 + 224) :: UInt8.ofNat (n / 64 % 64 + 128) ::
        UInt8.ofNat (n % 64 + 128) :: rest) =
      some (Char.ofNat n) :: scalars rest := by
  have hfirst := lead_ofNat (n := n / 4096 % 16 + 224) (by omega)
  rw [if_neg (by omega), if_neg (by omega), if_neg (by omega)] at hfirst
  have hvalue : ((n / 4096 % 16 + 224) % 16 * 64 + (n / 64 % 64 + 128) % 64) * 64 +
      (n % 64 + 128) % 64 = n := by omega
  by_cases hleast : n / 4096 % 16 + 224 = 0xE0
  · rw [if_pos hleast] at hfirst
    refine scalars_cons hfirst ?_
    rw [continuation_cons (show 0xA0 ≤ _ by omega) (show _ ≤ 0xBF by omega),
      continuation_cons (show 0x80 ≤ _ by omega) (show _ ≤ 0xBF by omega), continuation, hvalue]
  · rw [if_neg hleast] at hfirst
    by_cases hsurrogate : n / 4096 % 16 + 224 = 0xED
    · rw [if_pos hsurrogate] at hfirst
      refine scalars_cons hfirst ?_
      rw [continuation_cons (show 0x80 ≤ _ by omega) (show _ ≤ 0x9F by omega),
        continuation_cons (show 0x80 ≤ _ by omega) (show _ ≤ 0xBF by omega), continuation, hvalue]
    · rw [if_neg hsurrogate, if_pos (by omega)] at hfirst
      refine scalars_cons hfirst ?_
      rw [continuation_cons (show 0x80 ≤ _ by omega) (show _ ≤ 0xBF by omega),
        continuation_cons (show 0x80 ≤ _ by omega) (show _ ≤ 0xBF by omega), continuation, hvalue]

/-- The second byte of four is bounded further at the least and at the greatest first one. -/
theorem scalars_four (h : 0x10000 ≤ n) (h' : n < 0x110000) :
    scalars (UInt8.ofNat (n / 262144 % 8 + 240) :: UInt8.ofNat (n / 4096 % 64 + 128) ::
        UInt8.ofNat (n / 64 % 64 + 128) :: UInt8.ofNat (n % 64 + 128) :: rest) =
      some (Char.ofNat n) :: scalars rest := by
  have hfirst := lead_ofNat (n := n / 262144 % 8 + 240) (by omega)
  rw [if_neg (by omega), if_neg (by omega), if_neg (by omega), if_neg (by omega),
    if_neg (by omega), if_neg (by omega)] at hfirst
  have hvalue : (((n / 262144 % 8 + 240) % 8 * 64 + (n / 4096 % 64 + 128) % 64) * 64 +
      (n / 64 % 64 + 128) % 64) * 64 + (n % 64 + 128) % 64 = n := by omega
  by_cases hleast : n / 262144 % 8 + 240 = 0xF0
  · rw [if_pos hleast] at hfirst
    refine scalars_cons hfirst ?_
    rw [continuation_cons (show 0x90 ≤ _ by omega) (show _ ≤ 0xBF by omega),
      continuation_cons (show 0x80 ≤ _ by omega) (show _ ≤ 0xBF by omega),
      continuation_cons (show 0x80 ≤ _ by omega) (show _ ≤ 0xBF by omega), continuation, hvalue]
  · rw [if_neg hleast] at hfirst
    by_cases hgreatest : n / 262144 % 8 + 240 < 0xF4
    · rw [if_pos hgreatest] at hfirst
      refine scalars_cons hfirst ?_
      rw [continuation_cons (show 0x80 ≤ _ by omega) (show _ ≤ 0xBF by omega),
        continuation_cons (show 0x80 ≤ _ by omega) (show _ ≤ 0xBF by omega),
        continuation_cons (show 0x80 ≤ _ by omega) (show _ ≤ 0xBF by omega), continuation, hvalue]
    · rw [if_neg hgreatest, if_pos (by omega)] at hfirst
      refine scalars_cons hfirst ?_
      rw [continuation_cons (show 0x80 ≤ _ by omega) (show _ ≤ 0x8F by omega),
        continuation_cons (show 0x80 ≤ _ by omega) (show _ ≤ 0xBF by omega),
        continuation_cons (show 0x80 ≤ _ by omega) (show _ ≤ 0xBF by omega), continuation, hvalue]

end Character

theorem scalars_encodeChar (c : Char) (rest : List UInt8) :
    scalars (String.utf8EncodeChar c ++ rest) = some c :: scalars rest := by
  have hc : Char.ofNat c.val.toNat = c := Char.ofNat_toNat c
  have hvalid : c.val.toNat < 0xD800 ∨ 0xDFFF < c.val.toNat ∧ c.val.toNat < 0x110000 := c.valid
  simp only [String.utf8EncodeChar]
  by_cases h1 : c.val.toNat ≤ 127
  · rw [if_pos h1]
    simpa [hc] using scalars_one rest (by omega : c.val.toNat < 0x80)
  · rw [if_neg h1]
    by_cases h2 : c.val.toNat ≤ 2047
    · rw [if_pos h2]
      simpa [hc] using scalars_two rest (by omega : 0x80 ≤ c.val.toNat) (by omega)
    · rw [if_neg h2]
      by_cases h3 : c.val.toNat ≤ 65535
      · rw [if_pos h3]
        simpa [hc] using scalars_three rest (by omega : 0x800 ≤ c.val.toNat) (by omega) (by omega)
      · rw [if_neg h3]
        simpa [hc] using scalars_four rest (by omega : 0x10000 ≤ c.val.toNat) (by omega)

/-- What stands behind a text is read on its own. -/
theorem scalars_flatMap_append (cs : List Char) (rest : List UInt8) :
    scalars (cs.flatMap String.utf8EncodeChar ++ rest) = cs.map some ++ scalars rest := by
  induction cs with
  | nil => rw [List.flatMap_nil, List.map_nil, List.nil_append, List.nil_append]
  | cons c cs ih =>
    rw [List.flatMap_cons, List.append_assoc, scalars_encodeChar, ih, List.map_cons,
      List.cons_append]

theorem scalars_flatMap_encodeChar (cs : List Char) :
    scalars (cs.flatMap String.utf8EncodeChar) = cs.map some := by
  simpa [scalars] using scalars_flatMap_append cs []

theorem decode?_flatMap_encodeChar (cs : List Char) :
    decode? (cs.flatMap String.utf8EncodeChar) = some (String.ofList cs) := by
  have hall : (cs.map some).mapM (id : Option Char → Option Char) = some cs := by
    induction cs with
    | nil => rfl
    | cons c rest ih => simp [ih]
  rw [decode?, scalars_flatMap_encodeChar, hall, Option.map_some]

theorem decode?_encode (s : String) : decode? (encode s) = some s := by
  rw [encode, decode?_flatMap_encodeChar, String.ofList_toList]

theorem encode_injective {s t : String} (h : encode s = encode t) : s = t := by
  have hdecode := decode?_encode s
  rw [h, decode?_encode] at hdecode
  exact (Option.some.inj hdecode).symm

theorem decodeLossy_encode (s : String) : decodeLossy (encode s) = s := by
  simp [decodeLossy, encode, scalars_flatMap_encodeChar, Function.comp_def]

/-- What begins no character does not stand in front of a text. -/
theorem encode_ne_cons {b : UInt8} (h : lead b = none) (s : String) (rest : List UInt8) :
    encode s ≠ b :: rest := by
  intro hencode
  have hscalars := scalars_flatMap_encodeChar s.toList
  rw [← encode, hencode, scalars, h] at hscalars
  cases hs : s.toList with
  | nil => simp [hs] at hscalars
  | cons c cs => simp [hs] at hscalars

theorem encodeChar_of_lt {c : Char} (h : c.toNat < 0x80) :
    String.utf8EncodeChar c = [UInt8.ofNat c.toNat] :=
  if_pos (Nat.le_of_lt_succ h)

/-- A character that takes several bytes takes none of those that stand for themselves. -/
theorem le_of_mem_encodeChar {c : Char} {b : UInt8} (h : 0x80 ≤ c.toNat)
    (hb : b ∈ String.utf8EncodeChar c) : 0x80 ≤ b := by
  have hbyte : ∀ k, 0x80 ≤ k → k < 256 → b = UInt8.ofNat k → 0x80 ≤ b := by
    rintro k hk hlt rfl
    rw [UInt8.le_iff_toNat_le, toNat_ofNat_of_lt hlt]
    exact hk
  have hone : ¬ c.val.toNat ≤ 127 := Nat.not_le.mpr h
  simp only [String.utf8EncodeChar, hone, if_false] at hb
  split at hb
  · simp only [List.mem_cons, List.not_mem_nil, or_false] at hb
    rcases hb with hb | hb <;> exact hbyte _ (by omega) (by omega) hb
  split at hb
  · simp only [List.mem_cons, List.not_mem_nil, or_false] at hb
    rcases hb with hb | hb | hb <;> exact hbyte _ (by omega) (by omega) hb
  · simp only [List.mem_cons, List.not_mem_nil, or_false] at hb
    rcases hb with hb | hb | hb | hb <;> exact hbyte _ (by omega) (by omega) hb

section Sequences

variable {b : UInt8} {n m : Nat} {ranges : List (UInt8 × UInt8)} {bytes rest : List UInt8}

theorem cons_of_continuation {lo hi : UInt8}
    (h : continuation n ((lo, hi) :: ranges) bytes = (some m, rest)) :
    ∃ k bytes', bytes = k :: bytes' ∧ lo.toNat ≤ k.toNat ∧ k.toNat ≤ hi.toNat ∧
      continuation (n * 64 + k.toNat % 64) ranges bytes' = (some m, rest) := by
  cases bytes with
  | nil => cases h
  | cons k bytes' =>
    rw [continuation] at h
    split at h
    · next hin =>
      exact ⟨k, bytes', rfl, UInt8.le_iff_toNat_le.mp hin.1, UInt8.le_iff_toNat_le.mp hin.2, h⟩
    · cases h

theorem eq_ofNat_of_toNat {k : UInt8} (h : k.toNat = n) : k = UInt8.ofNat n := by
  rw [← h, UInt8.ofNat_toNat]

/-- The bytes of a character by its number. -/
theorem encodeChar_ofNat (h : m.isValidChar) : String.utf8EncodeChar (Char.ofNat m) =
    if m < 0x80 then [UInt8.ofNat m]
    else if m < 0x800 then [UInt8.ofNat (m / 64 % 32 + 192), UInt8.ofNat (m % 64 + 128)]
    else if m < 0x10000 then
      [UInt8.ofNat (m / 4096 % 16 + 224), UInt8.ofNat (m / 64 % 64 + 128),
        UInt8.ofNat (m % 64 + 128)]
    else [UInt8.ofNat (m / 262144 % 8 + 240), UInt8.ofNat (m / 4096 % 64 + 128),
      UInt8.ofNat (m / 64 % 64 + 128), UInt8.ofNat (m % 64 + 128)] := by
  have hm : (Char.ofNat m).val.toNat = m := by
    rw [Char.ofNat, dif_pos h]
    rfl
  simp only [String.utf8EncodeChar, hm, ← Nat.lt_succ_iff]

theorem encodeChar_of_one (h : b.toNat < 0x80)
    (hmore : continuation b.toNat [] bytes = (some m, rest)) :
    b :: bytes = String.utf8EncodeChar (Char.ofNat m) ++ rest := by
  cases hmore
  rw [encodeChar_ofNat (.inl (by omega)), if_pos h, ← eq_ofNat_of_toNat rfl]
  rfl

theorem encodeChar_of_two (h : 0xC2 ≤ b.toNat ∧ b.toNat < 0xE0)
    (hmore : continuation (b.toNat % 32) [(0x80, 0xBF)] bytes = (some m, rest)) :
    b :: bytes = String.utf8EncodeChar (Char.ofNat m) ++ rest := by
  obtain ⟨k, _, rfl, hk, hk', hend⟩ := cons_of_continuation hmore
  have hlow : 0x80 ≤ k.toNat := hk
  have hhigh : k.toNat ≤ 0xBF := hk'
  cases hend
  rw [encodeChar_ofNat (.inl (by omega)), if_neg (by omega), if_pos (by omega),
    ← eq_ofNat_of_toNat (k := b) (by omega), ← eq_ofNat_of_toNat (k := k) (by omega)]
  rfl

theorem encodeChar_of_three {lo hi : UInt8} (h : 0xE0 ≤ b.toNat ∧ b.toNat < 0xF0)
    (hrange : 0x80 ≤ lo.toNat ∧ hi.toNat ≤ 0xBF) (hleast : b.toNat = 0xE0 → 0xA0 ≤ lo.toNat)
    (hsurrogate : b.toNat = 0xED → hi.toNat ≤ 0x9F)
    (hmore : continuation (b.toNat % 16) [(lo, hi), (0x80, 0xBF)] bytes = (some m, rest)) :
    b :: bytes = String.utf8EncodeChar (Char.ofNat m) ++ rest := by
  obtain ⟨j, _, rfl, hj, hj', hend⟩ := cons_of_continuation hmore
  obtain ⟨k, _, rfl, hk, hk', hend⟩ := cons_of_continuation hend
  have hlow : 0x80 ≤ k.toNat := hk
  have hhigh : k.toNat ≤ 0xBF := hk'
  cases hend
  have hvalid : ((b.toNat % 16 * 64 + j.toNat % 64) * 64 + k.toNat % 64).isValidChar := by
    unfold Nat.isValidChar
    omega
  rw [encodeChar_ofNat hvalid, if_neg (by omega), if_neg (by omega), if_pos (by omega),
    ← eq_ofNat_of_toNat (k := b) (by omega), ← eq_ofNat_of_toNat (k := j) (by omega),
    ← eq_ofNat_of_toNat (k := k) (by omega)]
  rfl

theorem encodeChar_of_four {lo hi : UInt8} (h : 0xF0 ≤ b.toNat ∧ b.toNat < 0xF5)
    (hrange : 0x80 ≤ lo.toNat ∧ hi.toNat ≤ 0xBF) (hleast : b.toNat = 0xF0 → 0x90 ≤ lo.toNat)
    (hgreatest : b.toNat = 0xF4 → hi.toNat ≤ 0x8F)
    (hmore : continuation (b.toNat % 8) [(lo, hi), (0x80, 0xBF), (0x80, 0xBF)] bytes =
      (some m, rest)) :
    b :: bytes = String.utf8EncodeChar (Char.ofNat m) ++ rest := by
  obtain ⟨i, _, rfl, hi, hi', hend⟩ := cons_of_continuation hmore
  obtain ⟨j, _, rfl, hj, hj', hend⟩ := cons_of_continuation hend
  obtain ⟨k, _, rfl, hk, hk', hend⟩ := cons_of_continuation hend
  have hlow : 0x80 ≤ j.toNat ∧ 0x80 ≤ k.toNat := ⟨hj, hk⟩
  have hhigh : j.toNat ≤ 0xBF ∧ k.toNat ≤ 0xBF := ⟨hj', hk'⟩
  cases hend
  have hvalid : (((b.toNat % 8 * 64 + i.toNat % 64) * 64 + j.toNat % 64) * 64 +
      k.toNat % 64).isValidChar := by
    unfold Nat.isValidChar
    omega
  rw [encodeChar_ofNat hvalid, if_neg (by omega), if_neg (by omega), if_neg (by omega),
    ← eq_ofNat_of_toNat (k := b) (by omega), ← eq_ofNat_of_toNat (k := i) (by omega),
    ← eq_ofNat_of_toNat (k := j) (by omega), ← eq_ofNat_of_toNat (k := k) (by omega)]
  rfl

/-- A first byte with the further bytes that it asks for is a character as it is written. -/
theorem encodeChar_of_lead (hlead : lead b = some (n, ranges))
    (hmore : continuation n ranges bytes = (some m, rest)) :
    b :: bytes = String.utf8EncodeChar (Char.ofNat m) ++ rest := by
  have hb : b.toNat < 256 := b.toNat_lt
  rw [← UInt8.ofNat_toNat (x := b), lead_ofNat hb] at hlead
  have hbounds : (0x80 : UInt8).toNat = 0x80 ∧ (0xBF : UInt8).toNat = 0xBF := ⟨rfl, rfl⟩
  repeat' split at hlead
  all_goals cases hlead
  · exact encodeChar_of_one (by assumption) hmore
  · exact encodeChar_of_two (by omega) hmore
  · exact encodeChar_of_three (by omega) (by decide) (fun _ => by decide) (by omega) hmore
  · exact encodeChar_of_three (by omega) (by decide) (by omega) (fun _ => by decide) hmore
  · exact encodeChar_of_three (by omega) (by decide) (by omega) (by omega) hmore
  · exact encodeChar_of_four (by omega) (by decide) (fun _ => by decide) (by omega) hmore
  · exact encodeChar_of_four (by omega) (by decide) (by omega) (by omega) hmore
  · exact encodeChar_of_four (by omega) (by decide) (by omega) (fun _ => by decide) hmore

end Sequences

/-- Bytes that go on with a character. -/
def IsTail (b : UInt8) : Prop :=
  0x80 ≤ b.toNat ∧ b.toNat < 0xC0

/-- A character is one byte that begins it, and others that go on with it. -/
theorem encodeChar_cons (c : Char) :
    ∃ b ks, String.utf8EncodeChar c = b :: ks ∧ ¬ IsTail b ∧ ∀ k ∈ ks, IsTail k := by
  have htail : ∀ {k : Nat}, 0x80 ≤ k → k < 0xC0 → IsTail (UInt8.ofNat k) := by
    intro k hk hk'
    rw [IsTail, toNat_ofNat_of_lt (by omega)]
    exact ⟨hk, hk'⟩
  have hfirst : ∀ {k : Nat}, k < 0x80 ∨ 0xC0 ≤ k → k < 256 → ¬ IsTail (UInt8.ofNat k) := by
    intro k hk hlt
    rw [IsTail, toNat_ofNat_of_lt hlt]
    omega
  have hc : Char.ofNat c.toNat = c := Char.ofNat_toNat c
  have hvalid : c.toNat.isValidChar := c.valid
  have hlt : c.toNat < 0x110000 := hvalid.elim (by omega) (by omega)
  rw [← hc, encodeChar_ofNat hvalid]
  split
  · exact ⟨_, _, rfl, hfirst (by omega) (by omega), by simp⟩
  split
  · refine ⟨_, _, rfl, hfirst (by omega) (by omega), ?_⟩
    simp only [List.forall_mem_cons, List.not_mem_nil, false_implies, implies_true, and_true]
    exact htail (by omega) (by omega)
  split
  · refine ⟨_, _, rfl, hfirst (by omega) (by omega), ?_⟩
    simp only [List.forall_mem_cons, List.not_mem_nil, false_implies, implies_true, and_true]
    exact ⟨htail (by omega) (by omega), htail (by omega) (by omega)⟩
  · refine ⟨_, _, rfl, hfirst (by omega) (by omega), ?_⟩
    simp only [List.forall_mem_cons, List.not_mem_nil, false_implies, implies_true, and_true]
    exact ⟨htail (by omega) (by omega), htail (by omega) (by omega), htail (by omega) (by omega)⟩

/-- What begins with a character begins with the bytes of it. -/
theorem exists_of_scalars_cons {b : UInt8} {bytes : List UInt8} {c : Char} {cs : List Char}
    (h : scalars (b :: bytes) = (c :: cs).map some) :
    ∃ rest, b :: bytes = String.utf8EncodeChar c ++ rest ∧ scalars rest = cs.map some := by
  rw [scalars, List.map_cons] at h
  cases hlead : lead b with
  | none =>
    rw [hlead] at h
    cases (List.cons.inj h).1
  | some first =>
    obtain ⟨n, ranges⟩ := first
    rw [hlead] at h
    obtain ⟨hchar, hrest⟩ := List.cons.inj h
    obtain ⟨m, hmore, rfl⟩ := Option.map_eq_some_iff.mp hchar
    exact ⟨_, encodeChar_of_lead hlead (Prod.ext hmore rfl), hrest⟩

theorem scalars_of_decode? {bytes : List UInt8} {s : String} (h : decode? bytes = some s) :
    scalars bytes = s.toList.map some := by
  obtain ⟨cs, hall, rfl⟩ := Option.map_eq_some_iff.mp h
  rw [String.toList_ofList]
  clear h
  generalize scalars bytes = xs at hall
  induction xs generalizing cs with
  | nil =>
    cases hall
    rfl
  | cons x xs ih =>
    simp only [List.mapM_cons, id, Option.bind_eq_bind, Option.bind_eq_some_iff] at hall
    obtain ⟨c, rfl, cs', hcs', hcons⟩ := hall
    cases hcons
    rw [List.map_cons, ← ih cs' hcs']

theorem eq_flatMap_of_scalars {bytes : List UInt8} {cs : List Char}
    (h : scalars bytes = cs.map some) : bytes = cs.flatMap String.utf8EncodeChar := by
  induction cs generalizing bytes with
  | nil =>
    cases bytes with
    | nil => rfl
    | cons b rest =>
      rw [scalars] at h
      split at h <;> cases h
  | cons c cs ih =>
    cases bytes with
    | nil =>
      rw [scalars] at h
      cases h
    | cons b bytes =>
      obtain ⟨rest, hbytes, hrest⟩ := exists_of_scalars_cons h
      rw [hbytes, ih hrest, List.flatMap_cons]

theorem decode?_eq_some_iff {bytes : List UInt8} {s : String} :
    decode? bytes = some s ↔ bytes = encode s :=
  ⟨fun h => eq_flatMap_of_scalars (scalars_of_decode? h), fun h => h ▸ decode?_encode s⟩

/-- A text begins with another one if its bytes do. -/
theorem exists_append_of_encode_isPrefix {front s : String} (h : encode front <+: encode s) :
    ∃ back, s = front ++ back := by
  obtain ⟨rest, hrest⟩ := h
  have hchars : s.toList.map some = front.toList.map some ++ scalars rest := by
    rw [← scalars_flatMap_encodeChar, ← scalars_flatMap_append]
    exact congrArg scalars hrest.symm
  obtain ⟨cs, ds, hs, hcs, -⟩ := List.map_eq_append_iff.mp hchars
  have hfront : cs = front.toList := (List.map_inj_right fun _ _ => Option.some.inj).mp hcs
  refine ⟨.ofList ds, ?_⟩
  rw [← String.toList_inj, String.toList_append, String.toList_ofList, hs, hfront]

end Tenancy.Text.Utf8
