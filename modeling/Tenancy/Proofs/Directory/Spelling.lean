import Tenancy.Directory.Document
import Tenancy.Proofs.Json.Spelling

/-!
# Spellings of what the services say

Both services spell their fields with or without a capital letter, and add fields of their own. What
is taken from a member's resource, from a list of accounts and from a created account does not
depend on it (`documents_ignore_spelling`).
-/

namespace Tenancy

open Json (RecordAlike ListAlike RecordAmbiguous ListAmbiguous IgnoresSpelling)

namespace Member

def MetadataAlike : Json → Json → Prop :=
  RecordAlike [(["guid", "Guid"], Eq)]

def EntityAlike : Json → Json → Prop :=
  RecordAlike [(["admin", "Admin"], Eq)]

/-- One resource of a member for another: any of its objects may be spelled in another way. -/
def Alike : Json → Json → Prop :=
  RecordAlike [(["metadata", "Metadata"], MetadataAlike), (["entity", "Entity"], EntityAlike)]

def MetadataAmbiguous : Json → Prop :=
  RecordAmbiguous [(["guid", "Guid"], fun _ => False)]

def EntityAmbiguous : Json → Prop :=
  RecordAmbiguous [(["admin", "Admin"], fun _ => False)]

/-- A resource of a member one of whose objects has two spellings of a field. -/
def Ambiguous : Json → Prop :=
  RecordAmbiguous [(["metadata", "Metadata"], MetadataAmbiguous),
    (["entity", "Entity"], EntityAmbiguous)]

theorem metadata_ignoresSpelling :
    IgnoresSpelling MetadataAlike MetadataAmbiguous metadataShape.decode :=
  .single rfl rfl (.leaf Json.asString)

theorem entity_ignoresSpelling :
    IgnoresSpelling EntityAlike EntityAmbiguous entityShape.decode :=
  .single rfl rfl (.leaf Json.asBool)

theorem ignoresSpelling : IgnoresSpelling Alike Ambiguous shape.decode :=
  .pair rfl rfl (by simp) metadata_ignoresSpelling entity_ignoresSpelling

end Member

namespace Account

/-- One account for another, however its fields are spelled. -/
def Alike : Json → Json → Prop :=
  RecordAlike [(["id", "Id"], Eq), (["userName", "Username", "username"], Eq)]

/-- One list of accounts for another: the list itself or any account may be spelled in another
way. -/
def ListAlike : Json → Json → Prop :=
  RecordAlike [(["resources", "Resources"], Json.ListAlike Alike)]

def CreatedAlike : Json → Json → Prop :=
  RecordAlike [(["id", "Id"], Eq)]

def Ambiguous : Json → Prop :=
  RecordAmbiguous [(["id", "Id"], fun _ => False),
    (["userName", "Username", "username"], fun _ => False)]

/-- A list of accounts in which an object has two spellings of a field. -/
def ListAmbiguous : Json → Prop :=
  RecordAmbiguous [(["resources", "Resources"], Json.ListAmbiguous Ambiguous)]

def CreatedAmbiguous : Json → Prop :=
  RecordAmbiguous [(["id", "Id"], fun _ => False)]

theorem ignoresSpelling : IgnoresSpelling Alike Ambiguous shape.decode :=
  .pair rfl rfl (by simp) (.leaf Json.asString) (.leaf Json.asString)

theorem list_ignoresSpelling : IgnoresSpelling ListAlike ListAmbiguous listShape.decode :=
  .single rfl rfl ignoresSpelling.list

theorem created_ignoresSpelling :
    IgnoresSpelling CreatedAlike CreatedAmbiguous createdShape.decode :=
  .single rfl rfl (.leaf Json.asString)

end Account

/-- Two documents of a kind that differ only in how fields are spelled, in the order of members and
in members that name no field are both refused or taken for the same; one in which an object has two
spellings of a field is refused. -/
theorem documents_ignore_spelling :
    IgnoresSpelling Member.Alike Member.Ambiguous Member.shape.decode ∧
      IgnoresSpelling Account.ListAlike Account.ListAmbiguous Account.listShape.decode ∧
      IgnoresSpelling Account.CreatedAlike Account.CreatedAmbiguous Account.createdShape.decode :=
  ⟨Member.ignoresSpelling, Account.list_ignoresSpelling, Account.created_ignoresSpelling⟩

/-- A list with one account, and the same one in capitals among other members. -/
theorem documents_ignore_spelling_capitals :
    let plain : Json := .object [("resources", .array [.object [("id", .string "u1"),
      ("userName", .string "anna")]])]
    let capitals : Json := .object [("Count", .number (.integer 1)), ("Resources", .array [.object
      [("Active", .bool true), ("Id", .string "u1"), ("Username", .string "anna")]])]
    let twice : Json := .object [("resources", .array [.object [("id", .string "u1"),
      ("userName", .string "anna")], .object [("Username", .string "bob"), ("id", .string "u2"),
      ("username", .string "bob")]])]
    Account.listShape.decode plain = .ok [("u1", "anna")] ∧
      (Account.listShape.decode plain).toOption = (Account.listShape.decode capitals).toOption ∧
      ∃ why, Account.listShape.decode twice = .error why := by
  have hlist := documents_ignore_spelling.2.1
  refine ⟨rfl, hlist.same ?_, hlist.refused ?_⟩
  · have hlast (m m' m'' : String × Json) : [m, m', m''].Perm ([m', m''] ++ [m]) :=
      (List.perm_append_comm : ([m] ++ [m', m'']).Perm ([m', m''] ++ [m]))
    have haccount : Account.Alike (.object [("id", .string "u1"), ("userName", .string "anna")])
        (.object [("Active", .bool true), ("Id", .string "u1"), ("Username", .string "anna")]) :=
      .object (.cons (.known (List.mem_pair.mpr (.inl rfl)) (by simp) (by simp) rfl)
        (.cons (.known (List.mem_pair.mpr (.inr rfl)) (by simp) (by simp) rfl) .nil))
        (by simp) (hlast _ _ _)
    exact .object (.cons (.known List.mem_cons_self (by simp) (by simp)
      (.array (.cons haccount .nil))) .nil) (by simp) (.swap _ _ _)
  · have haccount : Account.Ambiguous (.object [("Username", .string "bob"), ("id", .string "u2"),
        ("username", .string "bob")]) :=
      .twice (List.mem_pair.mpr (.inr rfl)) (by simp) (by simp)
        (.cons_cons _ (.cons _ (.cons_cons _ .slnil)))
    have hlisted : Json.ListAmbiguous Account.Ambiguous (.array [.object [("id", .string "u1"),
        ("userName", .string "anna")], .object [("Username", .string "bob"), ("id", .string "u2"),
        ("username", .string "bob")]]) :=
      .item haccount (by simp)
    exact .member List.mem_cons_self (by simp) hlisted List.mem_cons_self

end Tenancy
