import Mathlib.Data.List.Perm.Basic
import Tenancy.User

/-!
# Joining accounts with members

The join looks every account up in an index of the members. It gives the records that a search
through the members would give, account by account (`join_searches`), so it does not matter how the
accounts are split, which members come behind others of their id or of no account at all, or in
which order members of different ids come.
-/

namespace Tenancy

/-- Searches the members from the front for the first one with an id. -/
def Member.isAdminIn : List Member → UserId → Bool
  | [], _ => false
  | m :: rest, id => if m.id = id then m.isAdmin else isAdminIn rest id

/-- The record of an account, with the members searched for its id. -/
def Account.recordAmong (members : List Member) (a : Account) : Record :=
  ⟨a.id, some a.username, Member.isAdminIn members a.id⟩

namespace Member

theorem find?_text_map_eq (members : List Member) (id : UserId) :
    ((members.find? (·.id.text = id.text)).map (·.isAdmin)).getD false =
      isAdminIn members id := by
  induction members with
  | nil => rfl
  | cons m rest ih =>
    by_cases h : m.id = id
    · simp [isAdminIn, h]
    · have htext : m.id.text ≠ id.text := fun h' => h (Identifier.ext h')
      simp [isAdminIn, h, htext, ih]

/-- What the index says of an id is what a search finds. -/
theorem getD_index_eq (members : List Member) (id : UserId) :
    (index members).getD id.text false = isAdminIn members id := by
  rw [Std.HashMap.getD_eq_getD_getElem?, getElem?_index, find?_text_map_eq]

/-- A search that finds somebody ends there. -/
theorem isAdminIn_append_of_mem {members : List Member} {id : UserId}
    (h : ∃ m ∈ members, m.id = id) (more : List Member) :
    isAdminIn (members ++ more) id = isAdminIn members id := by
  induction members with
  | nil => simp at h
  | cons m rest ih =>
    by_cases hm : m.id = id
    · simp [isAdminIn, hm]
    · have hrest : ∃ m ∈ rest, m.id = id := by simpa [hm] using h
      simp [isAdminIn, hm, ih hrest]

/-- A search passes over the members that have other ids. -/
theorem isAdminIn_append_of_notMem {more : List Member} {id : UserId}
    (h : ∀ m ∈ more, m.id ≠ id) (members : List Member) :
    isAdminIn (members ++ more) id = isAdminIn members id := by
  induction members with
  | nil =>
    induction more with
    | nil => rfl
    | cons m rest ih =>
      have hm : m.id ≠ id := h m List.mem_cons_self
      have hrest := ih fun m' hm' => h m' (List.mem_cons_of_mem m hm')
      simpa [isAdminIn, hm] using hrest
  | cons m rest ih => simp [isAdminIn, ih]

/-- Where no two members have one id, a search finds the same one in any order of them. -/
theorem isAdminIn_of_perm {members members' : List Member} (h : members.Perm members')
    (hdistinct : (members.map (·.id)).Nodup) (id : UserId) :
    isAdminIn members' id = isAdminIn members id := by
  induction h with
  | nil => rfl
  | cons m _ ih =>
    have hrest := ih (List.nodup_cons.mp hdistinct).2
    simp [isAdminIn, hrest]
  | swap m m' rest =>
    have hne : m'.id ≠ m.id := by
      intro heq
      simp [heq] at hdistinct
    by_cases hm : m.id = id
    · simp [isAdminIn, ← hm, hne]
    · simp [isAdminIn, hm]
  | trans h _ ih ih' =>
    rw [ih' ((h.map _).nodup_iff.mp hdistinct), ih hdistinct]

end Member

namespace Record

theorem join_eq_map_recordAmong (members : List Member) (accounts : List Account) :
    join members accounts = accounts.map (Account.recordAmong members) := by
  apply List.map_congr_left
  intro a _
  rw [Account.record, Account.recordAmong, Member.getD_index_eq]

/-- Members that a search for each account finds alike give the same records. -/
theorem join_congr {members members' : List Member} {accounts : List Account}
    (h : ∀ a ∈ accounts, Member.isAdminIn members a.id = Member.isAdminIn members' a.id) :
    join members accounts = join members' accounts := by
  rw [join_eq_map_recordAmong, join_eq_map_recordAmong]
  apply List.map_congr_left
  intro a ha
  rw [Account.recordAmong, Account.recordAmong, h a ha]

/-- The join gives what a search through the members gives for each account, in the order of the
accounts. It can be made part by part. Members behind others of their id change nothing, nor do
those of no account, nor does the order of members that all have different ids. -/
theorem join_searches (members : List Member) (accounts : List Account) :
    join members accounts = accounts.map (Account.recordAmong members) ∧
      (∀ others, join members (accounts ++ others) =
        join members accounts ++ join members others) ∧
      (∀ more : List Member,
        (∀ m ∈ more, (∃ m' ∈ members, m'.id = m.id) ∨ ∀ a ∈ accounts, a.id ≠ m.id) →
          join (members ++ more) accounts = join members accounts) ∧
      ∀ members', members.Perm members' → (members.map (·.id)).Nodup →
        join members' accounts = join members accounts := by
  refine ⟨join_eq_map_recordAmong members accounts, ?parts, ?more, ?order⟩
  case parts =>
    intro others
    simp only [join_eq_map_recordAmong, List.map_append]
  case more =>
    intro more hmore
    apply join_congr
    intro a ha
    by_cases hknown : ∃ m ∈ members, m.id = a.id
    · exact Member.isAdminIn_append_of_mem hknown more
    · apply Member.isAdminIn_append_of_notMem
      intro m hm heq
      rcases hmore m hm with ⟨m', hm', hsame⟩ | hother
      · exact hknown ⟨m', hm', hsame.trans heq⟩
      · exact hother a ha heq.symm
  case order =>
    intro members' hperm hdistinct
    apply join_congr
    intro a _
    exact Member.isAdminIn_of_perm hperm hdistinct a.id

def firstId : UserId := ⟨"k1", by decide, by decide, by decide⟩

def secondId : UserId := ⟨"k2", by decide, by decide, by decide⟩

def strangeId : UserId := ⟨"k9", by decide, by decide, by decide⟩

/-- An administrator and somebody else. -/
def twoMembers : List Member := [⟨firstId, true⟩, ⟨secondId, false⟩]

/-- Both of them once more with the opposite said of them, and somebody without an account. -/
def furtherMembers : List Member := [⟨secondId, true⟩, ⟨strangeId, true⟩, ⟨firstId, false⟩]

/-- The accounts of both, one of them with two usernames. -/
def threeAccounts : List Account := [⟨secondId, "bob"⟩, ⟨firstId, "ann"⟩, ⟨secondId, "rob"⟩]

theorem join_searches_repeated :
    (∀ m ∈ furtherMembers, (∃ m' ∈ twoMembers, m'.id = m.id) ∨ ∀ a ∈ threeAccounts, a.id ≠ m.id) ∧
      twoMembers.Perm twoMembers.reverse ∧ (twoMembers.map (·.id)).Nodup ∧
      (join (twoMembers ++ furtherMembers) threeAccounts).map (·.isAdmin) = [false, true, false] ∧
      join twoMembers.reverse threeAccounts = join twoMembers threeAccounts := by
  obtain ⟨hmap, -, hmore, horder⟩ := join_searches twoMembers threeAccounts
  have hpassed : ∀ m ∈ furtherMembers,
      (∃ m' ∈ twoMembers, m'.id = m.id) ∨ ∀ a ∈ threeAccounts, a.id ≠ m.id := by decide
  have hperm : twoMembers.Perm twoMembers.reverse := (List.reverse_perm twoMembers).symm
  have hdistinct : (twoMembers.map (·.id)).Nodup := by decide
  have hflags : (join (twoMembers ++ furtherMembers) threeAccounts).map (·.isAdmin) =
      [false, true, false] := by
    rw [hmore furtherMembers hpassed, hmap]
    rfl
  exact ⟨hpassed, hperm, hdistinct, hflags, horder twoMembers.reverse hperm hdistinct⟩

end Record

end Tenancy
