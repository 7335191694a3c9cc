import Tenancy.Proofs.Json.Lexemes

/-!
# Following values to their ends

A value is followed to its end wherever it stands (`Derives.followed`), and what is followed is a
value (`followsParts`).
-/

namespace Tenancy.Json

section Values

variable {g g' bs content rest tail inner : Bytes} {b : UInt8} {fuel : Nat}

/-- The first byte of a value is none that stands between or behind values. -/
theorem Derives.exists_first {v : Bytes} (h : Derives .value v) :
    ∃ b rest, v = b :: rest ∧ isGap b = false ∧ b ≠ 0x5D := by
  cases h with
  | number magnitude =>
    obtain ⟨b, rest, rfl, hb⟩ := magnitude.exists_digit
    exact ⟨b, rest, rfl, not_isGap_of_isDigit hb, by rintro rfl; cases hb⟩
  | _ => exact ⟨_, _, rfl, by decide, by decide⟩

theorem skipValue_skipGap : skipValue fuel (skipGap bs) = skipValue fuel bs := by
  cases fuel with
  | zero => rfl
  | succ fuel => rw [skipValue, skipValue, skipGap_skipGap]

theorem skipItems_skipGap : skipItems fuel (skipGap bs) = skipItems fuel bs := by
  cases fuel with
  | zero => rfl
  | succ fuel => rw [skipItems, skipItems, skipValue_skipGap]

theorem skipMembers_skipGap : skipMembers fuel (skipGap bs) = skipMembers fuel bs := by
  cases fuel with
  | zero => rfl
  | succ fuel => rw [skipMembers, skipMembers, skipGap_skipGap]

theorem skipValue_number (first : isDigit b = true) :
    skipValue (fuel + 1) (b :: rest) = skipNumber (b :: rest) := by
  rw [skipValue, skipGap_cons (not_isGap_of_isDigit first)]
  dsimp only
  split <;> first | rfl | cases first

theorem skipValue_bracket (fuel : Nat) (bs : Bytes) :
    skipValue (fuel + 1) (0x5B :: bs) =
      match skipGap bs with
      | 0x5D :: rest => some rest
      | rest => skipItems fuel rest := by
  rw [skipValue, skipGap_cons (by decide)]
  rfl

theorem skipValue_brace (fuel : Nat) (bs : Bytes) :
    skipValue (fuel + 1) (0x7B :: bs) =
      match skipGap bs with
      | 0x7D :: rest => some rest
      | rest => skipMembers fuel rest := by
  rw [skipValue, skipGap_cons (by decide)]
  rfl

theorem skipValue_array (h : skipGap bs = b :: tail) (hb : b ≠ 0x5D) :
    skipValue (fuel + 1) (0x5B :: bs) = skipItems fuel bs := by
  rw [skipValue_bracket]
  split
  · next heq => exact absurd (List.cons.inj (h.symm.trans heq)).1 hb
  · exact skipItems_skipGap

theorem skipValue_object (h : skipGap bs = b :: tail) (hb : b ≠ 0x7D) :
    skipValue (fuel + 1) (0x7B :: bs) = skipMembers fuel bs := by
  rw [skipValue_brace]
  split
  · next heq => exact absurd (List.cons.inj (h.symm.trans heq)).1 hb
  · exact skipMembers_skipGap

theorem skipItems_succ (h : skipValue fuel bs = some rest) :
    skipItems (fuel + 1) bs =
      match skipGap rest with
      | 0x5D :: rest => some rest
      | 0x2C :: rest => skipItems fuel rest
      | _ => none := by
  rw [skipItems, h]
  rfl

theorem skipMembers_succ (before : IsGap g) (name : IsContent content) (behind : IsGap g')
    (h : skipValue fuel tail = some rest) :
    skipMembers (fuel + 1) (g ++ quote :: (content ++ quote :: (g' ++ 0x3A :: tail))) =
      match skipGap rest with
      | 0x7D :: rest => some rest
      | 0x2C :: rest => skipMembers fuel rest
      | _ => none := by
  have hstring : skipString (content ++ quote :: (g' ++ 0x3A :: tail)) =
      some (g' ++ 0x3A :: tail) := skipString_append name
  have hcolon : skipGap (g' ++ 0x3A :: tail) = 0x3A :: tail := by
    rw [skipGap_append behind, skipGap_cons (by decide)]
  have hquote : skipGap (g ++ quote :: (content ++ quote :: (g' ++ 0x3A :: tail))) =
      0x22 :: (content ++ quote :: (g' ++ 0x3A :: tail)) := by
    rw [skipGap_append before, skipGap_cons (by decide)]
    rfl
  have hstep := skipMembers.eq_def (fuel + 1)
    (g ++ quote :: (content ++ quote :: (g' ++ 0x3A :: tail)))
  simp only [hquote, hstring, Option.bind_eq_bind, Option.bind_some, hcolon, h] at hstep
  exact hstep

/-- What it means for a part of a text to be followed to its end, whatever comes behind it. -/
def Followed : Part → Bytes → Prop
  | .value, v => ∀ fuel rest, v.length ≤ fuel → Ends rest → skipValue fuel (v ++ rest) = some rest
  | .element v, e => ∃ g g', IsGap g ∧ IsGap g' ∧ e = g ++ (v ++ g') ∧
      ∀ fuel rest, e.length ≤ fuel → Ends rest → skipValue fuel (e ++ rest) = some (g' ++ rest)
  | .items _, bs => ∀ fuel rest, bs.length ≤ fuel → skipItems fuel (bs ++ rest) = some rest
  | .members _, bs => ∀ fuel rest, bs.length ≤ fuel → skipMembers fuel (bs ++ rest) = some rest

/-- The first byte of an element behind its gap. -/
theorem Derives.skipGap_element {v e : Bytes} (h : Derives (.element v) e) :
    ∃ b tail, b ≠ 0x5D ∧ ∀ rest, skipGap (e ++ rest) = b :: (tail ++ rest) := by
  cases h with
  | @element g v g' before value behind =>
    obtain ⟨b, tail, rfl, hgap, hb⟩ := value.exists_first
    refine ⟨b, tail ++ g', hb, fun rest => ?_⟩
    rw [List.append_assoc, skipGap_append before, List.cons_append, List.cons_append,
      skipGap_cons hgap]

theorem Derives.skipGap_items {vs : List Bytes} (h : Derives (.items vs) inner) (rest : Bytes) :
    ∃ b tail, b ≠ 0x5D ∧ skipGap (inner ++ rest) = b :: tail := by
  cases h with
  | lastItem item | item item =>
    obtain ⟨b, tail, hb, hskip⟩ := item.skipGap_element
    exact ⟨b, _, hb, by rw [List.append_assoc, hskip]⟩

theorem Derives.skipGap_members {ms : List (Bytes × Bytes)} (h : Derives (.members ms) inner)
    (rest : Bytes) : ∃ tail, skipGap (inner ++ rest) = quote :: tail := by
  cases h with
  | lastMember before | member before =>
    rw [List.append_assoc, skipGap_append before, List.cons_append, skipGap_cons (by decide)]
    exact ⟨_, rfl⟩

/-- No part is empty, so there is fuel for its first byte. -/
theorem exists_fuel (h : bs.length ≤ fuel) (hbs : bs ≠ []) : ∃ n, fuel = n + 1 :=
  Nat.exists_eq_add_one.mpr (Nat.lt_of_lt_of_le (List.length_pos_iff.mpr hbs) h)

theorem followed_number (h : IsMagnitude bs) : Followed .value bs := by
  intro fuel rest hfuel hrest
  obtain ⟨b, tail, rfl, hb⟩ := h.exists_digit
  obtain ⟨fuel, rfl⟩ := exists_fuel hfuel (by simp)
  rw [List.cons_append, skipValue_number hb, ← List.cons_append, skipNumber_append h hrest]

/-- Values that begin with a byte of their own. -/
theorem followed_cons (h : ∀ fuel rest, bs.length ≤ fuel → Ends rest →
    skipValue (fuel + 1) (b :: (bs ++ rest)) = some rest) : Followed .value (b :: bs) := by
  intro fuel rest hfuel hrest
  obtain ⟨fuel, rfl⟩ := exists_fuel hfuel (by simp)
  exact h fuel rest (Nat.le_of_succ_le_succ hfuel) hrest

theorem followed_word {word : Bytes} (hstep : ∀ fuel rest,
    skipValue (fuel + 1) (b :: rest) = (readWord word rest).toOption) :
    Followed .value (b :: word) := by
  refine followed_cons fun fuel rest _ _ => ?_
  rw [hstep, readWord_append]
  rfl

/-- An item is followed to the byte that ends it. -/
theorem skipItems_append {v e : Bytes} (item : Followed (.element v) e) (hfuel : e.length ≤ fuel)
    (hb : isGap b = false) (hends : Ends (b :: tail)) :
    skipItems (fuel + 1) (e ++ b :: tail) =
      match b :: tail with
      | 0x5D :: rest => some rest
      | 0x2C :: rest => skipItems fuel rest
      | _ => none := by
  obtain ⟨_, g', -, behind, -, hskip⟩ := item
  have hstep := skipItems_succ (hskip fuel (b :: tail) hfuel hends)
  rw [skipGap_append behind, skipGap_cons hb] at hstep
  exact hstep

/-- So is a member. -/
theorem skipMembers_append {v e : Bytes} (before : IsGap g) (name : IsContent content)
    (behind : IsGap g') (value : Followed (.element v) e) (hfuel : e.length ≤ fuel)
    (hb : isGap b = false) (hends : Ends (b :: tail)) :
    skipMembers (fuel + 1) (g ++ quote :: (content ++ quote :: (g' ++ 0x3A :: (e ++ b :: tail)))) =
      match b :: tail with
      | 0x7D :: rest => some rest
      | 0x2C :: rest => skipMembers fuel rest
      | _ => none := by
  obtain ⟨_, g'', -, hgap, -, hskip⟩ := value
  have hstep := skipMembers_succ before name behind (hskip fuel (b :: tail) hfuel hends)
  rw [skipGap_append hgap, skipGap_cons hb] at hstep
  exact hstep

theorem Derives.followed {p : Part} (h : Derives p bs) : Followed p bs := by
  have hcomma (rest : Bytes) : Ends (0x2C :: rest) := ends_cons (by decide)
  have hclose (rest : Bytes) : Ends (0x5D :: rest) ∧ Ends (0x7D :: rest) :=
    ⟨ends_cons (by decide), ends_cons (by decide)⟩
  induction h with
  | null => exact followed_word fun _ _ => by rw [skipValue, skipGap_cons (by decide)]; rfl
  | yes => exact followed_word fun _ _ => by rw [skipValue, skipGap_cons (by decide)]; rfl
  | no => exact followed_word fun _ _ => by rw [skipValue, skipGap_cons (by decide)]; rfl
  | number magnitude => exact followed_number magnitude
  | negative magnitude =>
    refine followed_cons fun fuel rest _ hrest => ?_
    rw [skipValue, skipGap_cons (by decide)]
    exact skipNumber_append magnitude hrest
  | string h =>
    refine followed_cons fun fuel rest _ _ => ?_
    rw [skipValue, skipGap_cons (by decide), List.append_assoc]
    exact skipString_append h
  | emptyArray gap =>
    refine followed_cons fun fuel rest _ _ => ?_
    rw [skipValue_bracket, List.append_assoc, skipGap_append gap, List.singleton_append,
      skipGap_cons (by decide)]
    rfl
  | array items ih =>
    refine followed_cons fun fuel rest hfuel _ => ?_
    obtain ⟨b, tail, hb, hskip⟩ := items.skipGap_items rest
    rw [skipValue_array hskip hb]
    exact ih fuel rest hfuel
  | emptyObject gap =>
    refine followed_cons fun fuel rest _ _ => ?_
    rw [skipValue_brace, List.append_assoc, skipGap_append gap, List.singleton_append,
      skipGap_cons (by decide)]
    rfl
  | object members ih =>
    refine followed_cons fun fuel rest hfuel _ => ?_
    obtain ⟨tail, hskip⟩ := members.skipGap_members rest
    rw [skipValue_object hskip (by decide)]
    exact ih fuel rest hfuel
  | @element g v g' before value behind ih =>
    refine ⟨g, g', before, behind, rfl, fun fuel rest hfuel hrest => ?_⟩
    rw [← skipValue_skipGap, List.append_assoc, skipGap_append before, skipValue_skipGap,
      List.append_assoc]
    refine ih fuel (g' ++ rest) ?_ (hrest.gap_append behind)
    simp only [List.length_append] at hfuel
    omega
  | lastItem item ih =>
    intro fuel rest hfuel
    obtain ⟨fuel, rfl⟩ := exists_fuel hfuel (by simp)
    simp only [List.length_append, List.length_singleton] at hfuel
    rw [List.append_assoc, List.singleton_append,
      skipItems_append ih (by omega) (by decide) (hclose rest).1]
    rfl
  | item item _ ihitem ih =>
    intro fuel rest hfuel
    obtain ⟨fuel, rfl⟩ := exists_fuel hfuel (by simp)
    simp only [List.length_append, List.length_cons] at hfuel
    rw [List.append_assoc, List.cons_append,
      skipItems_append ihitem (by omega) (by decide) (hcomma _)]
    exact ih fuel rest (by omega)
  | @lastMember _ _ _ v e before name behind _ ih =>
    intro fuel rest hfuel
    obtain ⟨fuel, rfl⟩ := exists_fuel hfuel (by simp)
    have hvalue : e.length ≤ fuel := by simp at hfuel; omega
    simpa using skipMembers_append before name behind ih hvalue (by decide) (hclose rest).2
  | @member _ _ _ v e more _ before name behind _ _ ihvalue ih =>
    intro fuel rest hfuel
    obtain ⟨fuel, rfl⟩ := exists_fuel hfuel (by simp)
    have hvalue : e.length ≤ fuel := by simp at hfuel; omega
    have hmore : more.length ≤ fuel := by simp at hfuel; omega
    simpa [ih fuel rest hmore] using
      skipMembers_append before name behind ihvalue hvalue (by decide) (hcomma (more ++ rest))

/-- A text is followed to its end. -/
theorem not_isText_of_skipValue {text : Bytes} (h : skipValue text.length text = none) :
    ¬ IsText text := by
  rintro ⟨v, element⟩
  obtain ⟨g, g', -, -, -, hskip⟩ := element.followed
  have hall := hskip text.length [] (Nat.le_refl _) (by simp [Ends])
  rw [List.append_nil, h] at hall
  cases hall

end Values

section Reading

variable {bs rest : Bytes}

/-- What it means that what is followed is a value, or a row of items or members. -/
structure FollowsParts (fuel : Nat) : Prop where
  value : ∀ bs rest, skipValue fuel bs = some rest →
    ∃ g v, IsGap g ∧ Derives .value v ∧ bs = g ++ (v ++ rest)
  items : ∀ bs rest, skipItems fuel bs = some rest →
    ∃ vs inner, Derives (.items vs) inner ∧ bs = inner ++ rest
  members : ∀ bs rest, skipMembers fuel bs = some rest →
    ∃ ms inner, Derives (.members ms) inner ∧ bs = inner ++ rest

/-- A value and the blanks around it. -/
theorem exists_element {fuel : Nat} (h : FollowsParts fuel)
    (hskip : skipValue fuel bs = some rest) :
    ∃ v e, Derives (.element v) e ∧ bs = e ++ skipGap rest := by
  obtain ⟨g, v, before, value, rfl⟩ := h.value bs rest hskip
  obtain ⟨g', behind, hrest⟩ := exists_gap rest
  exact ⟨v, _, .element before value behind, by simp [← hrest]⟩

theorem value_of_skipValue {fuel : Nat} (ih : FollowsParts fuel)
    (h : skipValue (fuel + 1) bs = some rest) :
    ∃ g v, IsGap g ∧ Derives .value v ∧ bs = g ++ (v ++ rest) := by
  obtain ⟨g, before, hbs⟩ := exists_gap bs
  rw [skipValue] at h
  split at h
  · cases h
  · next b tail heq =>
    rw [heq] at hbs
    suffices hvalue : ∃ v, Derives .value v ∧ b :: tail = v ++ rest by
      obtain ⟨v, value, hv⟩ := hvalue
      exact ⟨g, v, before, value, by rw [hbs, hv]⟩
    clear hbs heq
    split at h
    · rw [eq_append_of_word h]
      exact ⟨_, .null, rfl⟩
    · rw [eq_append_of_word h]
      exact ⟨_, .yes, rfl⟩
    · rw [eq_append_of_word h]
      exact ⟨_, .no, rfl⟩
    · obtain ⟨n, magnitude, rfl⟩ := magnitude_of_skipNumber h
      exact ⟨_, .negative magnitude, rfl⟩
    · obtain ⟨content, hcontent, rfl⟩ := content_of_skipString h
      exact ⟨_, .string hcontent, by simp [quoted, quote]⟩
    · split at h
      · next inner heq =>
        cases h
        obtain ⟨g', gap, htail⟩ := exists_gap tail
        rw [htail, heq]
        exact ⟨_, .emptyArray gap, by simp⟩
      · rw [skipItems_skipGap] at h
        obtain ⟨vs, inner, items, rfl⟩ := ih.items _ _ h
        exact ⟨_, .array items, rfl⟩
    · split at h
      · next inner heq =>
        cases h
        obtain ⟨g', gap, htail⟩ := exists_gap tail
        rw [htail, heq]
        exact ⟨_, .emptyObject gap, by simp⟩
      · rw [skipMembers_skipGap] at h
        obtain ⟨ms, inner, members, rfl⟩ := ih.members _ _ h
        exact ⟨_, .object members, rfl⟩
    · obtain ⟨n, magnitude, hn⟩ := magnitude_of_skipNumber h
      exact ⟨n, .number magnitude, hn⟩

theorem items_of_skipItems {fuel : Nat} (ih : FollowsParts fuel)
    (h : skipItems (fuel + 1) bs = some rest) :
    ∃ vs inner, Derives (.items vs) inner ∧ bs = inner ++ rest := by
  rw [skipItems, Option.bind_eq_bind, Option.bind_eq_some_iff] at h
  obtain ⟨behind, hvalue, hbehind⟩ := h
  obtain ⟨v, e, element, rfl⟩ := exists_element ih hvalue
  split at hbehind
  · next heq =>
    cases hbehind
    exact ⟨_, _, .lastItem element, by simp [heq]⟩
  · next heq =>
    obtain ⟨vs, inner, items, rfl⟩ := ih.items _ _ hbehind
    exact ⟨_, _, .item element items, by simp [heq]⟩
  · cases hbehind

theorem members_of_skipMembers {fuel : Nat} (ih : FollowsParts fuel)
    (h : skipMembers (fuel + 1) bs = some rest) :
    ∃ ms inner, Derives (.members ms) inner ∧ bs = inner ++ rest := by
  obtain ⟨g, before, hbs⟩ := exists_gap bs
  rw [skipMembers] at h
  split at h
  · next tail heq =>
    rw [Option.bind_eq_bind, Option.bind_eq_some_iff] at h
    obtain ⟨named, hstring, h⟩ := h
    obtain ⟨content, name, rfl⟩ := content_of_skipString hstring
    obtain ⟨g', behind, hnamed⟩ := exists_gap named
    split at h
    · next tail' heq' =>
      obtain ⟨valued, hvalue, hend⟩ := Option.bind_eq_some_iff.mp h
      obtain ⟨v, e, element, rfl⟩ := exists_element ih hvalue
      rw [hbs, heq, hnamed, heq']
      split at hend
      · next heq'' =>
        cases hend
        exact ⟨_, _, .lastMember before name behind element, by simp [heq'', quote]⟩
      · next heq'' =>
        obtain ⟨ms, inner, members, rfl⟩ := ih.members _ _ hend
        exact ⟨_, _, .member before name behind element members, by simp [heq'', quote]⟩
      · cases hend
    · cases h
  · cases h

theorem followsParts (fuel : Nat) : FollowsParts fuel := by
  induction fuel with
  | zero => exact ⟨nofun, nofun, nofun⟩
  | succ fuel ih =>
    exact ⟨fun _ _ => value_of_skipValue ih, fun _ _ => items_of_skipItems ih,
      fun _ _ => members_of_skipMembers ih⟩

end Reading

end Tenancy.Json
