import Std.Data.HashMap
import Tenancy.Identifier

/-!
# Users

The platform knows which users there are and who is an administrator, the identity service knows
their usernames. A record joins both views of one user.
-/

namespace Tenancy

/-- A user as the platform knows it. -/
structure Member where
  id : UserId
  isAdmin : Bool
deriving DecidableEq

/-- A user as the identity service knows it. -/
structure Account where
  id : UserId
  username : String
deriving DecidableEq

structure Record where
  id : UserId
  username : Option String
  isAdmin : Bool
deriving DecidableEq

def Record.shownName (r : Record) : String :=
  r.username.getD ""

/-- Whether a user is an administrator, by id; of several members with one id the first counts. -/
def Member.index (members : List Member) : Std.HashMap String Bool :=
  members.foldl (fun index m => index.insertIfNew m.id.text m.isAdmin) ∅

/-- What an index holds once members are added to it. -/
theorem Member.getElem?_foldl_index (members : List Member) (index : Std.HashMap String Bool)
    (id : String) :
    (members.foldl (fun index m => index.insertIfNew m.id.text m.isAdmin) index)[id]? =
      index[id]?.or ((members.find? (·.id.text = id)).map (·.isAdmin)) := by
  induction members generalizing index with
  | nil => simp
  | cons m rest ih =>
    rw [List.foldl_cons, ih, Std.HashMap.getElem?_insertIfNew]
    by_cases h : m.id.text = id
    · subst h
      cases hi : index[m.id.text]? with
      | none => simp [Std.HashMap.mem_iff_isSome_getElem?, hi]
      | some b => simp [Std.HashMap.mem_iff_isSome_getElem?, hi]
    · simp [h]

theorem Member.getElem?_index (members : List Member) (id : String) :
    (Member.index members)[id]? = (members.find? (·.id.text = id)).map (·.isAdmin) := by
  simp [Member.index, Member.getElem?_foldl_index]

def Account.record (index : Std.HashMap String Bool) (a : Account) : Record :=
  ⟨a.id, some a.username, index.getD a.id.text false⟩

/-- One record for each account, in the order of the accounts. -/
def Record.join (members : List Member) (accounts : List Account) : List Record :=
  accounts.map (Account.record (Member.index members))

@[simp] theorem Record.join_nil (members : List Member) : Record.join members [] = [] := rfl

@[simp] theorem Record.length_join (members : List Member) (accounts : List Account) :
    (Record.join members accounts).length = accounts.length := by simp [Record.join]

end Tenancy
