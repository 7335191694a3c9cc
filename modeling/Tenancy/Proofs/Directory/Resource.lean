import Tenancy.Directory.Granting
import Tenancy.Directory.Lifecycle
import Tenancy.Http.Paging
import Tenancy.Proofs.Directory.Membership
import Tenancy.Proofs.Text.Parts

/-!
# Resources by their ids

What the urls of users, accounts and roles address. A url is read in the way of RFC 3986: a fragment
from the first `#` on, a query from the first `?` on, and dots as segments are steps in the path. An
id holds no slash, but that does not make it one segment: it addresses what it names exactly if it
is no step and holds neither of these two characters (`resource_addressed_iff`).
-/

namespace Tenancy

/-- What a url says, its path without steps. -/
structure Reference where
  scheme : List Char
  authority : List Char
  segments : List (List Char)
  query : Option (List Char)
  fragment : Option (List Char)
deriving DecidableEq

namespace Reference

/-- Segments that stand for the segments in front of them. -/
def IsStep (s : List Char) : Prop :=
  s = ['.', '.'] ∨ s = ['.']

instance (s : List Char) : Decidable (IsStep s) :=
  inferInstanceAs (Decidable (_ ∨ _))

/-- Adds a segment to those in front of it, which are held in reverse. -/
def follow (held : List (List Char)) (s : List Char) : List (List Char) :=
  if s = ['.', '.'] then held.tail else if s = ['.'] then held else s :: held

/-- Takes the steps; one at the end leads to a folder, as a slash does. -/
def settle (segments : List (List Char)) : List (List Char) :=
  let held := segments.foldl follow []
  if segments.getLast?.any (IsStep ·) then held.reverse ++ [[]] else held.reverse

/-- The segments of a path, from its first slash on. -/
def segmentsOf (path : List Char) : List (List Char) :=
  (Text.cutAt (· == '/') path).drop 1

/-- Reads a url that has a scheme and an authority. -/
def read? (url : String) : Option Reference :=
  let (front, fragment) := Text.cutFirst '#' url.toList
  let (front, query) := Text.cutFirst '?' front
  match Text.cutFirst ':' front with
  | (scheme, some ('/' :: '/' :: rest)) =>
    some {
      scheme
      authority := rest.takeWhile (· ≠ '/')
      segments := settle (segmentsOf (rest.dropWhile (· ≠ '/')))
      query
      fragment }
  | _ => none

/-- What lies in a folder under these names. -/
def within (folder : Reference) (names : List String) : Reference :=
  { folder with segments := folder.segments.dropLast ++ names.map String.toList }

section Steps

variable {held segments : List (List Char)}

theorem foldl_follow_of_plain (h : ∀ s ∈ segments, ¬ IsStep s) :
    segments.foldl follow held = segments.reverse ++ held := by
  induction segments generalizing held with
  | nil => rfl
  | cons s rest ih =>
    have hs : s ≠ ['.', '.'] ∧ s ≠ ['.'] := not_or.mp (h s List.mem_cons_self)
    have hfollow : follow held s = s :: held := by
      rw [follow, if_neg hs.1, if_neg hs.2]
    rw [List.foldl_cons, hfollow, ih fun t ht => h t (List.mem_cons_of_mem s ht)]
    simp

/-- No step is left. -/
theorem not_isStep_of_mem_foldl (hheld : ∀ s ∈ held, ¬ IsStep s) :
    ∀ s ∈ segments.foldl follow held, ¬ IsStep s := by
  induction segments generalizing held with
  | nil => exact hheld
  | cons s rest ih =>
    rw [List.foldl_cons]
    refine ih fun t ht => ?_
    unfold follow at ht
    split at ht
    · exact hheld t (List.mem_of_mem_tail ht)
    · next htwo =>
      split at ht
      · exact hheld t ht
      · next hone =>
        rcases List.mem_cons.mp ht with rfl | ht
        · exact not_or.mpr ⟨htwo, hone⟩
        · exact hheld t ht

theorem not_isStep_of_mem_settle {s : List Char} (h : s ∈ settle segments) : ¬ IsStep s := by
  have hplain : ∀ s ∈ segments.foldl follow [], ¬ IsStep s :=
    not_isStep_of_mem_foldl (by simp)
  unfold settle at h
  dsimp only at h
  split at h
  · rcases List.mem_append.mp h with hmem | hempty
    · exact hplain s (List.mem_reverse.mp hmem)
    · rw [List.mem_singleton.mp hempty]
      decide
  · exact hplain s (List.mem_reverse.mp h)

/-- What is no step stays where it stands. -/
theorem settle_append_of_plain {names : List (List Char)} (hne : names ≠ [])
    (h : ∀ s ∈ names, ¬ IsStep s) :
    settle (segments ++ names) = (segments.foldl follow []).reverse ++ names := by
  have hlast : ¬ (segments ++ names).getLast?.any (IsStep ·) := by
    rw [List.getLast?_append, List.getLast?_eq_some_getLast hne]
    simpa using h _ (List.getLast_mem hne)
  rw [settle, if_neg hlast, List.foldl_append, foldl_follow_of_plain h]
  simp

end Steps

end Reference

/-- An address that something can be asked under: absolute, without a query, a fragment or a slash
at its end. -/
structure IsBase (base : String) : Prop where
  absolute : IsAbsolute base
  query_notMem : '?' ∉ base.toList
  fragment_notMem : '#' ∉ base.toList
  slashless : ¬ ['/'] <:+ base.toList

instance (base : String) : Decidable (IsBase base) :=
  decidable_of_iff (IsAbsolute base ∧ '?' ∉ base.toList ∧ '#' ∉ base.toList ∧
      ¬ ['/'] <:+ base.toList)
    ⟨fun ⟨h1, h2, h3, h4⟩ => ⟨h1, h2, h3, h4⟩, fun h => ⟨h.1, h.2, h.3, h.4⟩⟩

namespace IsBase

variable {base : String}

theorem parts (h : IsBase base) : ∃ scheme rest,
    base.toList = scheme ++ ':' :: '/' :: '/' :: rest ∧ ':' ∉ scheme := by
  rcases h.absolute with ⟨rest, hrest⟩ | ⟨rest, hrest⟩
  · exact ⟨"http".toList, rest, hrest.symm, by decide⟩
  · exact ⟨"https".toList, rest, hrest.symm, by decide⟩

open Reference Text

/-- What stands behind a base address is read on its own. -/
theorem read?_append (h : IsBase base) : ∃ scheme authority path, ∀ rest : String,
    read? (base ++ "/" ++ rest) =
      some {
        scheme
        authority
        segments := settle (segmentsOf path ++
          cutAt (· == '/') (cutFirst '?' (cutFirst '#' rest.toList).1).1)
        query := (cutFirst '?' (cutFirst '#' rest.toList).1).2
        fragment := (cutFirst '#' rest.toList).2 } := by
  obtain ⟨scheme, inner, hbase, hscheme⟩ := h.parts
  refine ⟨scheme, inner.takeWhile (· ≠ '/'), inner.dropWhile (· ≠ '/'), fun rest => ?_⟩
  have hchars : (base ++ "/" ++ rest).toList = (base.toList ++ ['/']) ++ rest.toList := by simp
  have hfragment : '#' ∉ base.toList ++ ['/'] := by simp [h.fragment_notMem]
  have hquery : '?' ∉ base.toList ++ ['/'] := by simp [h.query_notMem]
  simp only [read?, hchars, cutFirst_append hfragment, cutFirst_append hquery]
  generalize (cutFirst '?' (cutFirst '#' rest.toList).1).1 = path
  have hfront : base.toList ++ ['/'] ++ path =
      scheme ++ ':' :: '/' :: '/' :: (inner ++ '/' :: path) := by simp [hbase]
  have htake : (inner ++ '/' :: path).takeWhile (· ≠ '/') = inner.takeWhile (· ≠ '/') :=
    takeWhile_append_cons (by decide)
  have hskip : (inner ++ '/' :: path).dropWhile (· ≠ '/') =
      inner.dropWhile (· ≠ '/') ++ '/' :: path := dropWhile_append_cons (by decide)
  rw [hfront, cutFirst_append hscheme, cutFirst_cons_self]
  have hdrop : (cutAt (· == '/') (inner.dropWhile (· ≠ '/') ++ '/' :: path)).drop 1 =
      (cutAt (· == '/') (inner.dropWhile (· ≠ '/'))).drop 1 ++ cutAt (· == '/') path := by
    rw [cutAt_append_cons (by simp), List.drop_append_of_le_length]
    exact List.length_pos_iff.mpr cutAt_ne_nil
  simp only [List.append_nil, segmentsOf, htake, hskip, hdrop]

end IsBase

namespace Reference

/-- A name that is one segment wherever it stands. -/
structure IsOrdinary (name : String) : Prop where
  plain : ¬ IsStep name.toList
  query_notMem : '?' ∉ name.toList
  fragment_notMem : '#' ∉ name.toList

instance (name : String) : Decidable (IsOrdinary name) :=
  decidable_of_iff (¬ IsStep name.toList ∧ '?' ∉ name.toList ∧ '#' ∉ name.toList)
    ⟨fun ⟨h1, h2, h3⟩ => ⟨h1, h2, h3⟩, fun h => ⟨h.1, h.2, h.3⟩⟩

/-- The path that these names make. -/
def pathOf (names : List String) : String :=
  .ofList (names.flatMap fun n => '/' :: n.toList)

section Names

open Text

variable {base name : String} {names : List String}

theorem pathOf_cons : pathOf (name :: names) = "/" ++ (name ++ pathOf names) := by
  simp [pathOf]

theorem notMem_pathOf {c : Char} (hc : c ≠ '/') :
    c ∉ (name ++ pathOf names).toList ↔ ∀ n ∈ name :: names, c ∉ n.toList := by
  simp [pathOf, hc]

theorem cutAt_pathOf (h : ∀ n ∈ name :: names, '/' ∉ n.toList) :
    cutAt (· == '/') (name ++ pathOf names).toList = (name :: names).map String.toList := by
  have hname := cutAt_beq_of_notMem (h name List.mem_cons_self)
  induction names generalizing name with
  | nil => simp [pathOf, hname]
  | cons n names ih =>
    have hchars : (name ++ pathOf (n :: names)).toList =
        name.toList ++ '/' :: (n ++ pathOf names).toList := by simp [pathOf]
    have hrest : ∀ m ∈ n :: names, '/' ∉ m.toList := fun m hm => h m (List.mem_cons_of_mem _ hm)
    rw [hchars, cutAt_append_cons (by decide), hname,
      ih hrest (cutAt_beq_of_notMem (hrest n List.mem_cons_self))]
    rfl

/-- Names are read for what they are exactly if each of them is ordinary. -/
theorem read?_pathOf_iff (h : IsBase base) (hne : names ≠ [])
    (hslash : ∀ n ∈ names, '/' ∉ n.toList) :
    ∃ folder, read? (base ++ "/") = some folder ∧ folder.query = none ∧ folder.fragment = none ∧
      (read? (base ++ pathOf names) = some (folder.within names) ↔
        ∀ n ∈ names, IsOrdinary n) := by
  obtain ⟨scheme, authority, path, hread⟩ := h.read?_append
  obtain ⟨name, rest, rfl⟩ := List.exists_cons_of_ne_nil hne
  have hempty : cutAt (· == '/') ([] : List Char) = [[]] := rfl
  have hfolder : read? (base ++ "/") = some ⟨scheme, authority,
      ((segmentsOf path).foldl follow []).reverse ++ [[]], none, none⟩ := by
    have := hread ""
    simp only [String.append_empty, String.toList_empty, cutFirst_of_notMem List.not_mem_nil,
      hempty] at this
    rw [this, settle_append_of_plain (by simp) (by decide)]
  refine ⟨_, hfolder, rfl, rfl, ?_⟩
  rw [pathOf_cons, ← String.append_assoc, hread]
  simp only [within, Option.some.injEq, mk.injEq, true_and, List.dropLast_concat,
    snd_cutFirst_eq_none_iff]
  constructor
  · intro ⟨hsegments, hquery, hfragment⟩ n hn
    rw [cutFirst_of_notMem hfragment] at hsegments hquery
    rw [cutFirst_of_notMem hquery, cutAt_pathOf hslash] at hsegments
    refine ⟨?_, (notMem_pathOf (by decide)).mp hquery n hn,
      (notMem_pathOf (by decide)).mp hfragment n hn⟩
    have hmem : n.toList ∈ settle (segmentsOf path ++ (name :: rest).map String.toList) := by
      rw [hsegments]
      exact List.mem_append_right _ (List.mem_map_of_mem hn)
    exact not_isStep_of_mem_settle hmem
  · intro hall
    have hfragment := (notMem_pathOf (by decide)).mpr fun n hn => (hall n hn).fragment_notMem
    have hquery := (notMem_pathOf (by decide)).mpr fun n hn => (hall n hn).query_notMem
    have hplain : ∀ s ∈ (name :: rest).map String.toList, ¬ IsStep s := by
      intro s hs
      obtain ⟨n, hn, rfl⟩ := List.mem_map.mp hs
      exact (hall n hn).plain
    rw [cutFirst_of_notMem hfragment, cutFirst_of_notMem hquery, cutAt_pathOf hslash]
    exact ⟨settle_append_of_plain (by simp) hplain, hquery, hfragment⟩

end Names

end Reference

namespace IsBase

variable {base : String}

theorem dropSlashes_eq (h : IsBase base) : Text.dropSlashes base = base := by
  rw [← String.toList_inj, Text.toList_dropSlashes]
  rcases List.eq_nil_or_concat base.toList with hnil | ⟨front, c, hchars⟩
  · rw [hnil, Text.dropEnd_nil]
  · have hc : c ≠ '/' := by
      intro hslash
      exact h.slashless ⟨front, by simp [hchars, hslash]⟩
    simp [hchars, Text.dropEnd, hc]

/-- A path is looked for under the base address. -/
theorem link_pathOf (h : IsBase base) (name : String) (names : List String) :
    Http.Page.link base (Reference.pathOf (name :: names)) =
      base ++ Reference.pathOf (name :: names) := by
  have hrelative : ¬ IsAbsolute (Reference.pathOf (name :: names)) := by
    simp [IsAbsolute, Reference.pathOf]
  rw [Http.Page.link, if_neg hrelative, h.dropSlashes_eq]

end IsBase

namespace Directory

open Reference

/-- What is asked for by ids. -/
inductive Resource where
  | platformUser (id : UserId)
  | account (id : UserId)
  | organizationHolders (target : OrganizationId) (role : OrganizationRole)
  | spaceHolders (target : SpaceId) (role : SpaceRole)
  | grant (g : Grant)

namespace Resource

/-- The url under which it is asked for. -/
def url (s : Session) (endpoint : String) : Resource → String
  | platformUser id => userUrl s id
  | account id => accountUrl endpoint id
  | organizationHolders target role =>
    Http.Page.link s.endpoint (Scope.organization.collection target.text role.segment)
  | spaceHolders target role =>
    Http.Page.link s.endpoint (Scope.space.collection target.text role.segment)
  | grant g => grantUrl s g

/-- The address of the service that it lies with. -/
def base (s : Session) (endpoint : String) : Resource → String
  | account _ => endpoint
  | platformUser _ | organizationHolders .. | spaceHolders .. | grant _ => s.endpoint

/-- Where it lies: the names that lead to it. -/
def names : Resource → List String
  | platformUser id => ["v2", "users", id.text]
  | account id => ["Users", id.text]
  | organizationHolders target role => ["v2", "organizations", target.text, role.segment]
  | spaceHolders target role => ["v2", "spaces", target.text, role.segment]
  | grant (.organization user target role) =>
    ["v2", "organizations", target.text, role.segment, user.text]
  | grant (.space user target role) => ["v2", "spaces", target.text, role.segment, user.text]

def ids : Resource → List String
  | platformUser id | account id => [id.text]
  | organizationHolders target _ => [target.text]
  | spaceHolders target _ => [target.text]
  | grant (.organization user target _) => [target.text, user.text]
  | grant (.space user target _) => [target.text, user.text]

variable {s : Session} {endpoint : String}

theorem names_ne_nil (x : Resource) : x.names ≠ [] := by
  rcases x with _ | _ | _ | _ | (_ | _) <;> simp [names]

theorem slash_notMem_names (x : Resource) : ∀ n ∈ x.names, '/' ∉ n.toList := by
  have hid {kind : Identifier.Kind} (id : Identifier kind) : '/' ∉ id.text.toList := id.slash_notMem
  have horganization (role : OrganizationRole) : '/' ∉ role.segment.toList := by
    cases role <;> decide
  have hspace (role : SpaceRole) : '/' ∉ role.segment.toList := by
    cases role <;> decide
  rcases x with _ | _ | _ | _ | (_ | _) <;> simp [names, hid, horganization, hspace]

/-- All names but the ids are fixed, and ordinary. -/
theorem ordinary_names_iff (x : Resource) :
    (∀ n ∈ x.names, IsOrdinary n) ↔ ∀ n ∈ x.ids, IsOrdinary n := by
  have hfixed : ∀ n ∈ ["v2", "users", "Users", "organizations", "spaces"], IsOrdinary n := by
    decide
  have horganization (role : OrganizationRole) : IsOrdinary role.segment := by
    cases role <;> decide
  have hspace (role : SpaceRole) : IsOrdinary role.segment := by
    cases role <;> decide
  rcases x with _ | _ | _ | _ | (_ | _) <;>
    simp [names, ids, hfixed, horganization, hspace]

theorem url_eq (hs : IsBase s.endpoint) (x : Resource) :
    x.url s endpoint = x.base s endpoint ++ pathOf x.names := by
  have hcollection (scope : Scope) (id segment : String) :
      scope.collection id segment = pathOf ["v2", scope.segment, id, segment] := by
    simp [← String.toList_inj, Scope.collection, pathOf]
  have hgrant (g : Grant) : g.path = pathOf (names (.grant g)) := by
    cases g <;> simp [← String.toList_inj, Grant.path, Grant.collection, Grant.user, hcollection,
      Scope.segment, names, pathOf]
  cases x with
  | platformUser id => simp [← String.toList_inj, url, base, names, userUrl, usersUrl, pathOf]
  | account id => simp [← String.toList_inj, url, base, names, accountUrl, accountsUrl, pathOf]
  | organizationHolders target role | spaceHolders target role =>
    rw [url, hcollection, hs.link_pathOf]
    rfl
  | grant g => rw [url, grantUrl, hgrant]; rfl

end Resource

/-- A request by ids addresses what it names, and nothing of it is read as a query or a fragment,
exactly if none of the ids is a step or holds a character that begins one of these. -/
theorem resource_addressed_iff {s : Session} {endpoint : String} (hs : IsBase s.endpoint)
    (hendpoint : IsBase endpoint) (x : Resource) :
    ∃ folder, read? (x.base s endpoint ++ "/") = some folder ∧
      folder.query = none ∧ folder.fragment = none ∧
      (read? (x.url s endpoint) = some (folder.within x.names) ↔ ∀ id ∈ x.ids, IsOrdinary id) := by
  have hbase : IsBase (x.base s endpoint) := by
    cases x with
    | account => exact hendpoint
    | platformUser | organizationHolders | spaceHolders | grant => exact hs
  rw [x.url_eq hs, ← x.ordinary_names_iff]
  exact read?_pathOf_iff hbase x.names_ne_nil x.slash_notMem_names

theorem resource_addressed_iff_auditor :
    IsBase sampleSession.endpoint ∧ IsBase "http://id/uaa" ∧
      (∀ id ∈ (Resource.grant (.organization bob acme .auditor)).ids, IsOrdinary id) ∧
      ∃ folder, read? "http://api/" = some folder ∧
        read? (grantUrl sampleSession (.organization bob acme .auditor)) =
          some (folder.within ["v2", "organizations", "o2", "auditors", "u3"]) := by
  have hs : IsBase sampleSession.endpoint := by decide
  have hendpoint : IsBase "http://id/uaa" := by decide
  have hids : ∀ id ∈ (Resource.grant (.organization bob acme .auditor)).ids, IsOrdinary id := by
    decide
  obtain ⟨folder, hfolder, -, -, hiff⟩ :=
    resource_addressed_iff hs hendpoint (.grant (.organization bob acme .auditor))
  exact ⟨hs, hendpoint, hids, folder, hfolder, hiff.mpr hids⟩

/-- An id that is a step. -/
def up : OrganizationId := ⟨"..", by decide, by decide, by decide⟩

/-- Ids that are accepted and lead elsewhere. To take a role from a user of the organization `..` is
to ask for the deletion of the user. -/
theorem ids_lead_elsewhere :
    Identifier.of? .organization ".." = .ok up ∧
      read? (grantUrl sampleSession (.organization bob up .user)) =
        read? (userUrl sampleSession bob) ∧
      Address.shown (grantUrl sampleSession (.organization bob up .user)) =
        userUrl sampleSession bob ∧
      (∃ id : UserId, Identifier.of? .user "u3?recursive=true" = .ok id ∧
        read? (userUrl sampleSession id) = some ⟨"http".toList, "api".toList,
          ["v2".toList, "users".toList, "u3".toList], some "recursive=true".toList, none⟩) ∧
      ∃ id : UserId, Identifier.of? .user "#" = .ok id ∧
        read? (accountUrl "http://id" id) = some ⟨"http".toList, "id".toList,
          ["Users".toList, []], none, some []⟩ := by
  refine ⟨by rfl, by decide +kernel, by decide +kernel, ?_, ?_⟩
  · exact ⟨⟨"u3?recursive=true", by decide +kernel, by decide, by decide⟩, by rfl,
      by decide +kernel⟩
  · exact ⟨⟨"#", by decide +kernel, by decide, by decide⟩, by rfl, by decide +kernel⟩

end Directory

end Tenancy
