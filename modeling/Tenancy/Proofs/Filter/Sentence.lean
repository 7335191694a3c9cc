import Tenancy.Proofs.Filter

/-!
# Filters as sentences

The grammar of filters: one clause for a username, or clauses for ids with an `or` in between. A
value stands in quotes, and inside them a quote or a backslash only behind a backslash. No two
sentences are written alike, whatever their values hold.
-/

namespace Tenancy.Filter

/-- A character of a quoted value: as it is, or behind a backslash. -/
inductive Mark where
  | plain (c : Char) (ne_quote : c ≠ '"') (ne_backslash : c ≠ '\\')
  | quote
  | backslash

namespace Mark

def written : Mark → List Char
  | plain c _ _ => [c]
  | quote => ['\\', '"']
  | backslash => ['\\', '\\']

/-- The character that is meant. -/
def char : Mark → Char
  | plain c _ _ => c
  | quote => '"'
  | backslash => '\\'

def ofChar (c : Char) : Mark :=
  if hq : c = '"' then quote else if hb : c = '\\' then backslash else plain c hq hb

@[simp] theorem char_ofChar (c : Char) : (ofChar c).char = c := by
  unfold ofChar
  by_cases hq : c = '"'
  · simp [hq, char]
  · by_cases hb : c = '\\'
    · simp [hb, char]
    · simp [hq, hb, char]

theorem written_ofChar (c : Char) : (ofChar c).written = escapeChar c := by
  unfold ofChar escapeChar
  by_cases hq : c = '"'
  · simp [hq, written]
  · by_cases hb : c = '\\'
    · simp [hb, written]
    · simp [hq, hb, written]

variable {m m' : Mark} {x y : List Char}

theorem written_append_ne_quote : m.written ++ x ≠ '"' :: y := by
  intro h
  cases m with
  | plain c hq _ => exact hq (List.cons.inj h).1
  | quote => exact absurd (List.cons.inj h).1 (by decide)
  | backslash => exact absurd (List.cons.inj h).1 (by decide)

/-- The first one or two characters tell which mark is written. -/
theorem eq_of_written_append (h : m.written ++ x = m'.written ++ y) : m = m' ∧ x = y := by
  cases m <;> cases m' <;> grind [written]

end Mark

/-- The marks of a quoted value. -/
abbrev Quotation := List Mark

namespace Quotation

def written (q : Quotation) : List Char :=
  '"' :: q.flatMap Mark.written ++ ['"']

/-- The value that is meant. -/
def text (q : Quotation) : String :=
  .ofList (q.map Mark.char)

def of (s : String) : Quotation :=
  s.toList.map Mark.ofChar

@[simp] theorem text_of (s : String) : (of s).text = s := by
  simp [of, text, Function.comp_def]

theorem written_of (s : String) : (of s).written = (quoted s).toList := by
  simp [of, written, quoted, List.flatMap_map, Mark.written_ofChar]

variable {q q' : Quotation} {x y : List Char}

/-- The closing quote is the first one that no backslash stands in front of. -/
theorem eq_of_marks_append
    (h : q.flatMap Mark.written ++ '"' :: x = q'.flatMap Mark.written ++ '"' :: y) :
    q = q' ∧ x = y := by
  induction q generalizing q' with
  | nil =>
    cases q' with
    | nil => exact ⟨rfl, (List.cons.inj h).2⟩
    | cons m' q' =>
      rw [List.flatMap_cons, List.append_assoc] at h
      exact absurd h.symm Mark.written_append_ne_quote
  | cons m q ih =>
    cases q' with
    | nil =>
      rw [List.flatMap_cons, List.append_assoc] at h
      exact absurd h Mark.written_append_ne_quote
    | cons m' q' =>
      rw [List.flatMap_cons, List.flatMap_cons, List.append_assoc, List.append_assoc] at h
      obtain ⟨rfl, hrest⟩ := Mark.eq_of_written_append h
      obtain ⟨rfl, hxy⟩ := ih hrest
      exact ⟨rfl, hxy⟩

theorem eq_of_written_append (h : q.written ++ x = q'.written ++ y) : q = q' ∧ x = y := by
  apply eq_of_marks_append
  simpa [written] using h

end Quotation

/-- A filter as the grammar derives it. -/
inductive Sentence where
  | ids (first : Quotation) (others : List Quotation)
  | username (name : Quotation)

/-- What a filter asks for. -/
inductive Meaning where
  | ids (texts : List String)
  | username (text : String)

namespace Sentence

def idClause (q : Quotation) : List Char :=
  ['I', 'd', ' ', 'e', 'q', ' '] ++ q.written

def orClause (q : Quotation) : List Char :=
  [' ', 'o', 'r', ' '] ++ idClause q

def usernameClause (q : Quotation) : List Char :=
  ['u', 's', 'e', 'r', 'N', 'a', 'm', 'e', ' ', 'E', 'q', ' '] ++ q.written

def written : Sentence → List Char
  | ids first others => idClause first ++ others.flatMap orClause
  | username name => usernameClause name

def meaning : Sentence → Meaning
  | ids first others => .ids ((first :: others).map Quotation.text)
  | username name => .username name.text

theorem eq_of_idClause_append {q q' : Quotation} {x y : List Char}
    (h : idClause q ++ x = idClause q' ++ y) : q = q' ∧ x = y := by
  rw [idClause, idClause, List.append_assoc, List.append_assoc] at h
  exact Quotation.eq_of_written_append (List.append_cancel_left h)

theorem flatMap_orClause_injective {qs qs' : List Quotation}
    (h : qs.flatMap orClause = qs'.flatMap orClause) : qs = qs' := by
  induction qs generalizing qs' with
  | nil =>
    cases qs' with
    | nil => rfl
    | cons q' qs' => simp [orClause] at h
  | cons q qs ih =>
    cases qs' with
    | nil => simp [orClause] at h
    | cons q' qs' =>
      rw [List.flatMap_cons, List.flatMap_cons, orClause, orClause, List.append_assoc,
        List.append_assoc] at h
      obtain ⟨rfl, hrest⟩ := eq_of_idClause_append (List.append_cancel_left h)
      rw [ih hrest]

/-- An id clause and a username clause begin differently. -/
theorem idClause_append_ne_usernameClause {q q' : Quotation} {x : List Char} :
    idClause q ++ x ≠ usernameClause q' := by
  intro h
  exact absurd (List.cons.inj h).1 (by decide)

/-- A text is at most one sentence. -/
theorem written_injective {d d' : Sentence} (h : d.written = d'.written) : d = d' := by
  cases d with
  | ids first others =>
    cases d' with
    | ids first' others' =>
      obtain ⟨rfl, hothers⟩ := eq_of_idClause_append h
      rw [flatMap_orClause_injective hothers]
    | username name' => exact absurd h idClause_append_ne_usernameClause
  | username name =>
    cases d' with
    | ids first' others' => exact absurd h.symm idClause_append_ne_usernameClause
    | username name' =>
      have hname : name.written ++ [] = name'.written ++ [] := by
        rw [List.append_nil, List.append_nil]
        exact List.append_cancel_left h
      rw [(Quotation.eq_of_written_append hname).1]

/-- The sentence that asks for some ids, of which `id` is the first. -/
def ofIds (id : UserId) (rest : List UserId) : Sentence :=
  ids (.of id.text) (rest.map fun id => .of id.text)

@[simp] theorem meaning_ofIds (id : UserId) (rest : List UserId) :
    (ofIds id rest).meaning = .ids ((id :: rest).map (·.text)) := by
  simp [ofIds, meaning, Function.comp_def]

theorem idClause_of (id : UserId) : idClause (.of id.text) = (clause id).toList := by
  have hstart : "Id eq ".toList = ['I', 'd', ' ', 'e', 'q', ' '] := by decide
  simp only [idClause, clause, Quotation.written_of, String.toList_append, hstart]

theorem written_ofIds (id : UserId) (rest : List UserId) :
    (ofIds id rest).written = (Filter.ofIds (id :: rest)).text.toList := by
  rw [text_ofIds]
  induction rest generalizing id with
  | nil =>
    rw [List.map_singleton, String.intercalate_singleton, ← idClause_of]
    exact List.append_nil _
  | cons id' rest ih =>
    have hor : " or ".toList = [' ', 'o', 'r', ' '] := by decide
    have htail : (ofIds id' rest).written = (" or ".intercalate ((id' :: rest).map clause)).toList :=
      ih id'
    rw [List.map_cons, List.map_cons, String.intercalate_cons_cons, ← List.map_cons]
    simp only [String.toList_append, ← htail, ← idClause_of, hor]
    simp only [ofIds, written, orClause, List.map_cons, List.flatMap_cons, List.append_assoc]

theorem written_username (name : String) :
    (username (.of name)).written = (Filter.username name).text.toList := by
  have hstart : "userName Eq ".toList =
      ['u', 's', 'e', 'r', 'N', 'a', 'm', 'e', ' ', 'E', 'q', ' '] := by decide
  simp only [written, usernameClause, Quotation.written_of, Filter.username, String.toList_append,
    hstart]

end Sentence

end Tenancy.Filter
