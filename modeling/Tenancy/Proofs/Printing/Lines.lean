import Mathlib.Data.List.DropRight
import Tenancy.Proofs.Join
import Tenancy.Proofs.Text.Parts
import Tenancy.Report

/-!
# Printed lines

What can be told from a list of users that is printed. A line end in an id or a username makes one
line more (`linesOf_users_iff`). A tab more, or the mark of an administrator, makes a line that is
the line of another record as well (`determines_iff`). Only tame records can be read back
(`map_readLine_iff`).
-/

namespace Tenancy

/-- A record as a listing gives it. -/
def Record.IsListed (r : Record) : Prop :=
  ∃ members accounts, r ∈ Record.join members accounts

/-- That is, a record with a username. -/
theorem Record.isListed_iff {r : Record} : r.IsListed ↔ ∃ name, r.username = some name := by
  constructor
  · rintro ⟨members, accounts, hr⟩
    obtain ⟨a, -, rfl⟩ := List.mem_map.mp hr
    exact ⟨a.username, rfl⟩
  · rintro ⟨name, hname⟩
    refine ⟨[⟨r.id, r.isAdmin⟩], [⟨r.id, name⟩], ?_⟩
    rw [join_eq_map_recordAmong, List.map_singleton, List.mem_singleton]
    obtain ⟨id, username, isAdmin⟩ := r
    obtain rfl : username = some name := hname
    simp [Account.recordAmong, Member.isAdminIn]

namespace Report

/-- The lines of a text, each of which is ended. -/
def linesOf (text : String) : List String :=
  (Text.cutAt (· == '\n') text.toList).dropLast.map .ofList

/-- The line of a record is the line of no other one. -/
def Determines (r : Record) : Prop :=
  ∀ r' : Record, r'.IsListed → line r' = line r → r' = r

/-- Each record has one line in a text, in order, from which it can be told. -/
structure IsTrusted (text : String) (rs : List Record) : Prop where
  one_each : linesOf text = rs.map line
  told : ∀ r ∈ rs, Determines r

/-- Neither the id nor the username goes over a line end. -/
def IsUnbroken (r : Record) : Prop :=
  '\n' ∉ r.id.text.toList ∧ '\n' ∉ r.shownName.toList

/-- Nothing in a line passes for the mark of an administrator, and no other id stands in front of a
tab. -/
structure IsUnmistakable (r : Record) : Prop where
  plain : r.isAdmin = false
  unmarked : ¬ adminMark.toList <:+ r.shownName.toList
  one_id : ∀ (id : UserId) rest, (line r).toList = id.text.toList ++ '\t' :: rest → id = r.id

section Lines

variable {ls : List String}

theorem toList_lines_cons (l : String) (ls : List String) :
    (lines (l :: ls)).toList = l.toList ++ '\n' :: (lines ls).toList := by
  simp [lines]

theorem cutAt_lines (ls : List String) :
    Text.cutAt (· == '\n') (lines ls).toList =
      ls.flatMap (fun l => Text.cutAt (· == '\n') l.toList) ++ [[]] := by
  induction ls with
  | nil => rfl
  | cons l ls ih =>
    rw [toList_lines_cons, Text.cutAt_append_cons (by decide), ih, List.flatMap_cons,
      List.append_assoc]

theorem linesOf_lines (ls : List String) :
    linesOf (lines ls) =
      ls.flatMap fun l => (Text.cutAt (· == '\n') l.toList).map .ofList := by
  rw [linesOf, cutAt_lines, List.dropLast_concat, List.map_flatMap]

/-- The lines of a text are the ones put into it exactly if none of them has a line end in it. -/
theorem linesOf_lines_eq_iff : linesOf (lines ls) = ls ↔ ∀ l ∈ ls, '\n' ∉ l.toList := by
  constructor
  · intro h l hl hend
    rw [← h, linesOf_lines, List.mem_flatMap] at hl
    obtain ⟨whole, -, hl⟩ := hl
    obtain ⟨part, hpart, rfl⟩ := List.mem_map.mp hl
    have hother := Text.eq_false_of_mem_cutAt hpart (String.toList_ofList ▸ hend)
    cases hother
  · intro h
    rw [linesOf_lines]
    induction ls with
    | nil => rfl
    | cons l ls ih =>
      rw [List.flatMap_cons, Text.cutAt_beq_of_notMem (h l List.mem_cons_self),
        ih fun l' hl' => h l' (List.mem_cons_of_mem l hl')]
      simp

/-- There is a line more for each line end in a line. -/
theorem length_linesOf_lines_cons (l : String) (ls : List String) :
    (linesOf (lines (l :: ls))).length = l.toList.count '\n' + 1 + (linesOf (lines ls)).length := by
  simp [linesOf_lines, Text.length_cutAt, List.count]

theorem length_le_length_linesOf_lines (ls : List String) :
    ls.length ≤ (linesOf (lines ls)).length := by
  induction ls with
  | nil => exact Nat.zero_le _
  | cons l ls ih =>
    rw [length_linesOf_lines_cons, List.length_cons]
    omega

theorem length_linesOf_lines_eq_iff :
    (linesOf (lines ls)).length = ls.length ↔ ∀ l ∈ ls, '\n' ∉ l.toList := by
  induction ls with
  | nil => simp [linesOf_lines]
  | cons l ls ih =>
    have hle := length_le_length_linesOf_lines ls
    rw [length_linesOf_lines_cons, List.length_cons, List.forall_mem_cons, ← ih,
      ← List.count_eq_zero]
    omega

end Lines

section Records

variable {r r' : Record} {rs : List Record}

/-- What stands behind the username of an administrator. -/
def mark (isAdmin : Bool) : List Char :=
  if isAdmin then adminMark.toList else []

theorem toList_line (r : Record) :
    (line r).toList = r.id.text.toList ++ '\t' :: (r.shownName.toList ++ mark r.isAdmin) := by
  unfold line mark
  split <;> simp

theorem newline_notMem_line_iff : '\n' ∉ (line r).toList ↔ IsUnbroken r := by
  have hmark : '\n' ∉ mark r.isAdmin := by
    cases r.isAdmin <;> decide
  rw [toList_line, IsUnbroken]
  simp [hmark]

theorem users_eq_lines (hne : rs ≠ []) : users rs = lines (rs.map line) := by
  rw [users, if_neg (by simpa using hne)]

theorem linesOf_users_iff (hne : rs ≠ []) :
    linesOf (users rs) = rs.map line ↔ ∀ r ∈ rs, IsUnbroken r := by
  rw [users_eq_lines hne, linesOf_lines_eq_iff]
  simp [newline_notMem_line_iff]

theorem length_linesOf_users_iff (hne : rs ≠ []) :
    (linesOf (users rs)).length = rs.length ↔ ∀ r ∈ rs, IsUnbroken r := by
  rw [users_eq_lines hne, ← List.length_map line, length_linesOf_lines_eq_iff]
  simp [newline_notMem_line_iff]

theorem eq_of_line_eq (hr : r.IsListed) (hr' : r'.IsListed) (hid : r'.id = r.id)
    (hadmin : r'.isAdmin = r.isAdmin) (hline : line r' = line r) : r' = r := by
  obtain ⟨name, hname⟩ := Record.isListed_iff.mp hr
  obtain ⟨name', hname'⟩ := Record.isListed_iff.mp hr'
  rw [← String.toList_inj, toList_line, toList_line, hid, hadmin] at hline
  have hshown : r'.shownName = r.shownName := by
    rw [← String.toList_inj]
    simpa using hline
  obtain ⟨id, username, isAdmin⟩ := r
  obtain ⟨id', username', isAdmin'⟩ := r'
  simp_all [Record.shownName]

/-- Wherever a line can be cut at a tab, an ordinary user has that line. -/
theorem line_of_cut {id : UserId} {rest : List Char}
    (h : (line r).toList = id.text.toList ++ '\t' :: rest) :
    line ⟨id, some (.ofList rest), false⟩ = line r := by
  rw [← String.toList_inj, h, toList_line]
  simp [Record.shownName, mark]

/-- Where a line ends with the mark, an administrator has it. -/
theorem line_of_mark {base : List Char} (hplain : r.isAdmin = false)
    (h : base ++ adminMark.toList = r.shownName.toList) :
    line ⟨r.id, some (.ofList base), true⟩ = line r := by
  rw [← String.toList_inj, toList_line, toList_line, hplain, ← h]
  simp [Record.shownName, mark]

/-- A record is told by its line exactly if the line is no administrator's, does not look like one,
and can be cut into an id and a username in one way. -/
theorem determines_iff (hr : r.IsListed) : Determines r ↔ IsUnmistakable r := by
  constructor
  · intro h
    have hcut {id : UserId} {rest : List Char}
        (hrest : (line r).toList = id.text.toList ++ '\t' :: rest) :
        ⟨id, some (.ofList rest), false⟩ = r :=
      h _ (Record.isListed_iff.mpr ⟨_, rfl⟩) (line_of_cut hrest)
    have hplain : r.isAdmin = false :=
      congrArg Record.isAdmin (hcut (toList_line r)).symm
    refine ⟨hplain, ?unmarked, fun id rest hrest => congrArg Record.id (hcut hrest)⟩
    case unmarked =>
      rintro ⟨base, hbase⟩
      have heq := h _ (Record.isListed_iff.mpr ⟨_, rfl⟩) (line_of_mark hplain hbase)
      rw [← heq] at hplain
      cases hplain
  · intro ⟨hplain, hunmarked, hone⟩ r' hr' hline
    have hchars := congrArg String.toList hline
    have hid : r'.id = r.id := hone r'.id _ (hchars.symm.trans (toList_line r'))
    refine eq_of_line_eq hr hr' hid ?_ hline
    rw [toList_line, toList_line, hid, hplain] at hchars
    have hname : r'.shownName.toList ++ mark r'.isAdmin = r.shownName.toList := by
      simpa [mark] using hchars
    cases hadmin : r'.isAdmin with
    | false => exact hplain.symm
    | true =>
      rw [hadmin] at hname
      exact absurd ⟨_, hname⟩ hunmarked

/-- A line with one tab is cut in one way. -/
theorem isUnmistakable_of_tabless (hplain : r.isAdmin = false)
    (hunmarked : ¬ adminMark.toList <:+ r.shownName.toList) (hid : '\t' ∉ r.id.text.toList)
    (hname : '\t' ∉ r.shownName.toList) : IsUnmistakable r := by
  refine ⟨hplain, hunmarked, fun id rest hrest => ?_⟩
  rw [toList_line, hplain, mark, if_neg (by decide), List.append_nil] at hrest
  by_cases htab : '\t' ∈ id.text.toList
  · obtain ⟨front, back, hfront, hnot⟩ := List.eq_append_cons_of_mem htab
    rw [hfront, List.append_assoc, List.cons_append] at hrest
    rw [(Text.eq_of_first_separator hid hnot hrest).2] at hname
    simp at hname
  · exact Identifier.ext (String.toList_inj.mp (Text.eq_of_first_separator hid htab hrest).1.symm)

/-- A record whose line can be read back: no line end, no tab in the id, and a mark at the end for
administrators only. -/
structure IsTame (r : Record) : Prop where
  unbroken : IsUnbroken r
  tabless : '\t' ∉ r.id.text.toList
  unmarked : r.isAdmin = false → ¬ adminMark.toList <:+ r.shownName.toList

/-- The id, the username and the mark in a line, if there is a tab in it. -/
def readLine (l : String) : Option (String × String × Bool) :=
  match Text.cutFirst '\t' l.toList with
  | (_, none) => none
  | (id, some rest) =>
    if adminMark.toList <:+ rest then
      some (.ofList id, .ofList (rest.rdrop adminMark.toList.length), true)
    else some (.ofList id, .ofList rest, false)

theorem tab_notMem_of_readLine {l id name : String} {isAdmin : Bool}
    (h : readLine l = some (id, name, isAdmin)) : '\t' ∉ id.toList := by
  unfold readLine at h
  split at h
  case h_1 => cases h
  case h_2 front rest hcut =>
    have hid : id = .ofList (Text.cutFirst '\t' l.toList).1 := by
      rw [hcut]
      split at h <;> exact (Prod.mk.inj (Option.some.inj h)).1.symm
    rw [hid, String.toList_ofList]
    exact Text.notMem_fst_cutFirst

/-- The lines of such records are read back, and no others. -/
theorem readLine_line_iff (h : IsUnbroken r) :
    readLine (line r) = some (r.id.text, r.shownName, r.isAdmin) ↔ IsTame r := by
  have hread : '\t' ∉ r.id.text.toList → readLine (line r) =
      if adminMark.toList <:+ r.shownName.toList ++ mark r.isAdmin then
        some (r.id.text, .ofList ((r.shownName.toList ++ mark r.isAdmin).rdrop
          adminMark.toList.length), true)
      else some (r.id.text, .ofList (r.shownName.toList ++ mark r.isAdmin), false) := by
    intro htab
    rw [readLine, toList_line, Text.cutFirst_append htab, Text.cutFirst_cons_self, List.append_nil]
    simp only [String.ofList_toList]
  constructor
  · intro hline
    have htab := tab_notMem_of_readLine hline
    refine ⟨h, htab, fun hplain hmarked => ?_⟩
    rw [hread htab, hplain, if_pos (by simpa [mark] using hmarked)] at hline
    simp at hline
  · intro htame
    rw [hread htame.tabless]
    cases hadmin : r.isAdmin with
    | true => simp [mark, List.rdrop_append_length]
    | false => simp [mark, htame.unmarked hadmin]

/-- A printed list is read back exactly if it is a list of such records. -/
theorem map_readLine_iff (hne : rs ≠ []) :
    (linesOf (users rs)).map readLine =
        rs.map (fun r => some (r.id.text, r.shownName, r.isAdmin)) ↔
      ∀ r ∈ rs, IsTame r := by
  have hpointwise (hall : ∀ r ∈ rs, IsUnbroken r) :
      (linesOf (users rs)).map readLine =
          rs.map (fun r => some (r.id.text, r.shownName, r.isAdmin)) ↔
        ∀ r ∈ rs, IsTame r := by
    rw [(linesOf_users_iff hne).mpr hall, List.map_map, List.map_inj_left]
    exact forall₂_congr fun r hr => readLine_line_iff (hall r hr)
  constructor
  · intro hread
    have hlength := congrArg List.length hread
    rw [List.length_map, List.length_map, length_linesOf_users_iff hne] at hlength
    exact (hpointwise hlength).mp hread
  · intro htame
    exact (hpointwise fun r hr => (htame r hr).unbroken).mpr htame

theorem isTrusted_iff (hne : rs ≠ []) (h : ∀ r ∈ rs, r.IsListed) :
    IsTrusted (users rs) rs ↔ ∀ r ∈ rs, IsUnbroken r ∧ IsUnmistakable r := by
  constructor
  · intro ⟨hlines, htold⟩ r hr
    exact ⟨(linesOf_users_iff hne).mp hlines r hr, (determines_iff (h r hr)).mp (htold r hr)⟩
  · intro hall
    exact ⟨(linesOf_users_iff hne).mpr fun r hr => (hall r hr).1,
      fun r hr => (determines_iff (h r hr)).mpr (hall r hr).2⟩

end Records

end Report

end Tenancy
