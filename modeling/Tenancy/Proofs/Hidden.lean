import Tenancy.Gateway
import Tenancy.Proofs.Lockstep

/-!
# Hidden parts of calls

Calls that differ in nothing but their tokens or parts of their bodies. What may differ is a
parameter: one token in the place of another, or the password of a new account. Documents that
differ in one member only are equal without it.
-/

namespace Tenancy

/-- What may differ between calls that otherwise are the same. -/
structure Hidden where
  token : String → String → Prop
  body : Service → Method → Option Json → Option Json → Prop

namespace Hidden

/-- Tokens and bodies may be anything. -/
def everything : Hidden where
  token _ _ := True
  body _ _ _ _ := True

/-- One token stands for another, and nothing else differs. -/
def tokens (token token' : String) : Hidden where
  token a b := a = token ∧ b = token'
  body _ _ b b' := b = b'

end Hidden

namespace Json

/-- A document apart from its members of some name. -/
def without (name : String) : Json → Json
  | .object members => .object (members.filter (·.1 ≠ name))
  | v => v

/-- Members of one name, and of one value too unless the name is the given one. -/
structure SameMember (name : String) (m m' : String × Json) : Prop where
  key : m.1 = m'.1
  value : m.1 ≠ name → m.2 = m'.2

variable {name : String} {ms ms' : List (String × Json)}

theorem SameMember.refl (m : String × Json) : SameMember name m m :=
  ⟨rfl, fun _ => rfl⟩

/-- Where a member is put depends on names only. -/
theorem sameMember_setMember {m m' : String × Json} (hm : SameMember name m m')
    (h : List.Forall₂ (SameMember name) ms ms') :
    List.Forall₂ (SameMember name) (setMember m.1 m.2 ms) (setMember m'.1 m'.2 ms') := by
  obtain ⟨k, v⟩ := m
  obtain ⟨k', v'⟩ := m'
  obtain ⟨rfl, hv⟩ := hm
  induction h with
  | nil => exact .cons ⟨rfl, hv⟩ .nil
  | cons hhead htail ih =>
    rw [setMember, setMember, ← hhead.key]
    split_ifs
    · exact .cons ⟨rfl, hv⟩ (.cons hhead htail)
    · exact .cons ⟨rfl, hv⟩ htail
    · exact .cons hhead ih

theorem sameMember_foldl_setMember {all all' : List (String × Json)}
    (h : List.Forall₂ (SameMember name) ms ms') (hall : List.Forall₂ (SameMember name) all all') :
    List.Forall₂ (SameMember name) (ms.foldl (fun all m => setMember m.1 m.2 all) all)
      (ms'.foldl (fun all m => setMember m.1 m.2 all) all') := by
  induction h generalizing all all' with
  | nil => exact hall
  | cons hhead _ ih =>
    apply ih
    exact sameMember_setMember hhead hall

theorem filter_sameMember (h : List.Forall₂ (SameMember name) ms ms') :
    ms.filter (·.1 ≠ name) = ms'.filter (·.1 ≠ name) := by
  induction h with
  | nil => rfl
  | @cons m m' _ _ hm _ ih =>
    by_cases hname : m.1 = name
    · simpa [hname, ← hm.key] using ih
    · obtain rfl : m = m' := Prod.ext hm.key (hm.value hname)
      simpa [hname] using ih

/-- Documents whose members differ in values of one name are equal apart from that name. -/
theorem without_ofMembers (h : List.Forall₂ (SameMember name) ms ms') :
    (ofMembers ms).without name = (ofMembers ms').without name := by
  have hmembers := sameMember_foldl_setMember h .nil
  exact congrArg object (filter_sameMember hmembers)

end Json

/-- Where an account is created the password may differ, and nothing else does. -/
def Hidden.passwords : Hidden where
  token a b := a = b
  body service method b b' := b = b' ∨ service = .identity ∧ method = .post ∧
    b.map (Json.without "password") = b'.map (Json.without "password")

/-- Requests that are the same apart from what is hidden. -/
structure Request.SameBut (x : Hidden) (service : Service) (r r' : Request) : Prop where
  method : r.method = r'.method
  url : r.url = r'.url
  token : x.token r.token r'.token
  body : x.body service r.method r.body r'.body

/-- Calls that are the same apart from what is hidden; their answers have to be the same. -/
inductive Call.SameBut (x : Hidden) : Pairing Call Call.Reply where
  | list {service : Service} {base token token' path : String} {visit : Visitor}
      (tokens : x.token token token') :
      SameBut x ⟨service, .list base token path visit⟩ ⟨service, .list base token' path visit⟩ Eq
  | get {service : Service} {url token token' : String} (tokens : x.token token token') :
      SameBut x ⟨service, .get url token⟩ ⟨service, .get url token'⟩ Eq
  | perform {service : Service} {r r' : Request} (request : r.SameBut x service r') :
      SameBut x ⟨service, .perform r⟩ ⟨service, .perform r'⟩ Eq
  | performJson {service : Service} {r r' : Request} (request : r.SameBut x service r') :
      SameBut x ⟨service, .performJson r⟩ ⟨service, .performJson r'⟩ Eq

theorem Request.SameBut.everything {x : Hidden} {service : Service} {r r' : Request}
    (h : r.SameBut x service r') : r.SameBut .everything service r' :=
  ⟨h.method, h.url, trivial, trivial⟩

/-- Whatever is hidden, some side may not look at any token or body. -/
theorem Call.SameBut.everything {x : Hidden} {c c' : Call} {same : c.Reply → c'.Reply → Prop}
    (h : Call.SameBut x c c' same) : Call.SameBut .everything c c' same := by
  cases h with
  | list => exact .list trivial
  | get => exact .get trivial
  | perform hr => exact .perform hr.everything
  | performJson hr => exact .performJson hr.everything

end Tenancy
