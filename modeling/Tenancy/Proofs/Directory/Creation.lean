import Mathlib.Logic.Relator
import Tenancy.Proofs.Directory.BadInput
import Tenancy.Proofs.Directory.Discovery
import Tenancy.Proofs.Json.Fields
import Tenancy.Proofs.Text.Parts

/-!
# The course of a creation

Which requests a creation makes, in which order, and what decides of each of them whether it is made
(`creation_unfolds`). The url at which the account is opened has to be absolute, which is not quite
the same as an absolute address of the identity service.
-/

namespace Tenancy

namespace Json

/-- A document that gives an id: as the only member of that name in one of its two spellings, or as
its only item. -/
inductive GivesId : Json → String → Prop where
  | member {members : List (String × Json)} {name id : String}
      (only : members.filter (fun m => ["id", "Id"].contains m.1) = [(name, .string id)]) :
      GivesId (.object members) id
  | item {id : String} : GivesId (.array [.string id]) id

end Json

namespace Account

theorem decode_createdShape_iff {v : Json} {id : String} :
    createdShape.decode v = .ok id ↔ v.GivesId id := by
  rw [Json.Shape.decode_single_iff rfl rfl fun _ _ => Json.asString_eq_ok_iff]
  constructor
  · rintro ⟨_ | given, gives, hfinish⟩
    · cases hfinish
    · obtain rfl := Except.ok.inj hfinish
      cases gives with
      | item meant => exact meant ▸ .item
      | @object members _ held =>
        generalize hunder : Json.under ["id", "Id"] members = values at held
        cases held with
        | present meant =>
          obtain ⟨m, only, rfl⟩ := List.map_eq_singleton_iff.mp hunder
          exact .member (only.trans (by rw [← meant]))
  · intro h
    refine ⟨some id, ?_, rfl⟩
    cases h with
    | member only => exact .object (by rw [Json.under, only]; exact .present rfl)
    | item => exact .item rfl

/-- A document gives the id of the new account, or what it fails for is not what was given. -/
theorem createdId_cases (username : String) (v : Json) :
    (∃ g id, v.GivesId g ∧ IsUserId g ∧ createdId username v = .ok id ∧ id.text = Text.trim g) ∨
      (¬ ∃ g, v.GivesId g ∧ IsUserId g) ∧ ∃ why, createdId username v = .error (.internal why) := by
  rw [createdId]
  cases hdecode : createdShape.decode v with
  | error m =>
    refine .inr ⟨?_, _, rfl⟩
    intro ⟨g, given, _⟩
    cases hdecode.symm.trans (decode_createdShape_iff.mpr given)
  | ok g =>
    have given := decode_createdShape_iff.mp hdecode
    rcases UserId.received_cases s!"identity API returned an invalid id for '{username}'" g with
        ⟨usable, id, hid, htext⟩ | ⟨hnot, hwhy⟩
    · exact .inl ⟨g, id, given, usable, hid, htext⟩
    · refine .inr ⟨?_, hwhy⟩
      intro ⟨g', given', usable⟩
      cases hdecode.symm.trans (decode_createdShape_iff.mpr given')
      exact hnot usable

theorem givesId_of_createdId {username : String} {v : Json} {id : UserId}
    (h : createdId username v = .ok id) :
    ∃ g, v.GivesId g ∧ IsUserId g ∧ id.text = Text.trim g := by
  rcases createdId_cases username v with ⟨g, id', given, usable, hid, htext⟩ | ⟨-, why, hwhy⟩
  · cases h.symm.trans hid
    exact ⟨g, given, usable, htext⟩
  · cases h.symm.trans hwhy

theorem creation_eq (username password : String) :
    creation username password = .object [
      ("emails", .array [.object [("value", .string username)]]),
      ("name", .object [("familyName", .string username), ("givenName", .string username)]),
      ("password", .string password),
      ("userName", .string username)] := by
  simp only [creation, Json.ofMembers, List.foldl_cons, List.foldl_nil, Json.setMember,
    String.reduceLT, String.reduceEq, reduceIte]

end Account

theorem Json.rightUnique_givesId : Relator.RightUnique Json.GivesId := by
  intro v g g' h h'
  have := Account.decode_createdShape_iff.mpr h
  rw [Account.decode_createdShape_iff.mpr h'] at this
  exact (Except.ok.inj this).symm

namespace Directory

open Program

/-- Where an account can be opened: at an absolute address. The url is what counts, and a scheme
that lacks its last slash finds it there. -/
def Opens (endpoint : String) : Prop :=
  IsAbsolute endpoint ∨ endpoint = "http:/" ∨ endpoint = "https:/"

theorem isAbsolute_accountsUrl_iff {endpoint : String} :
    IsAbsolute (accountsUrl endpoint) ↔ Opens endpoint := by
  have hurl : accountsUrl endpoint = endpoint ++ "/U" ++ "sers" := by
    rw [accountsUrl, String.append_assoc]
    rfl
  have hscheme : ∀ scheme : String, scheme.toList ++ ['/'] <+: (endpoint ++ "/U").toList ↔
      scheme.toList ++ ['/'] <+: endpoint.toList ∨ endpoint = scheme := by
    intro scheme
    have hchars : (endpoint ++ "/U").toList = endpoint.toList ++ ['/'] ++ ['U'] := by simp
    have hlast : scheme.toList ++ ['/'] ≠ endpoint.toList ++ ['/'] ++ ['U'] := fun h =>
      absurd (congrArg List.getLast? h) (by simp)
    have hwhole : scheme.toList ++ ['/'] = endpoint.toList ++ ['/'] ↔ endpoint = scheme := by
      rw [List.append_left_inj, String.toList_inj, eq_comm]
    rw [hchars, List.prefix_concat_iff, or_iff_right hlast, List.prefix_concat_iff, hwhole, or_comm]
  rw [hurl, isAbsolute_append_iff (c := 'U') (by simp) (by decide)]
  calc IsAbsolute (endpoint ++ "/U")
    _ ↔ _ := or_congr (hscheme "http:/") (hscheme "https:/")
    _ ↔ Opens endpoint := or_or_or_comm

/-- What has been asked, with the answers. -/
abbrev Asked := List ((q : Question) × q.Reply)

/-- What a creation does after its request for an account has been answered. The platform user is
created where the answer gives a usable id, under just that id, and the creation succeeds exactly if
this does. -/
structure Links (s : Session) (reply : Except Fault Json) (later : Asked)
    (r : Except Fault UserId) : Prop where
  made_iff : later ≠ [] ↔
    (∃ document g, reply = .ok document ∧ document.GivesId g ∧ IsUserId g) ∧
      IsAbsolute (s.endpoint ++ "/v2/users")
  request : later ≠ [] → ∃ document g, reply = .ok document ∧ document.GivesId g ∧
    ∃ absolute answer, later = [⟨.call ⟨.platform, .perform ⟨.post, s.endpoint ++ "/v2/users",
      s.token, some (.object [("guid", .string (Text.trim g))]), absolute⟩⟩, answer⟩]
  ok_iff : ∀ id, r = .ok id ↔ ∃ document g request, reply = .ok document ∧ document.GivesId g ∧
    id.text = Text.trim g ∧ later = [⟨.call ⟨.platform, .perform request⟩, .ok ()⟩]
  unopened : ∀ f, reply = .error f → r = .error f
  unread : ∀ document, reply = .ok document → (∀ g, document.GivesId g → ¬ IsUserId g) →
    ∃ why, r = .error (.internal why)
  relative : ∀ document g, reply = .ok document → document.GivesId g → IsUserId g →
    ¬ IsAbsolute (s.endpoint ++ "/v2/users") → ∃ why, r = .error (.invalid why)
  unlinked : ∀ request f, later = [⟨.call ⟨.platform, .perform request⟩, .error f⟩] → r = .error f

/-- How a creation unfolds: what is asked, in order, with the answers, and what comes of it. -/
structure Unfolds (s : Session) (username password : String) (asked : Asked)
    (r : Except Fault UserId) : Prop where
  refused : (∀ c ∈ username.toList, Text.isBlank c) ∨ password = "" →
    asked = [] ∧ ∃ why, r = .error (.invalid why)
  resolved : ¬ ((∀ c ∈ username.toList, Text.isBlank c) ∨ password = "") →
    ∃ answer later, asked = ⟨.endpoint, answer⟩ :: later
  unresolved : ∀ f later, asked = ⟨.endpoint, .error f⟩ :: later → later = [] ∧ r = .error f
  relative : ∀ endpoint later, asked = ⟨.endpoint, .ok endpoint⟩ :: later → ¬ Opens endpoint →
    later = [] ∧ ∃ why, r = .error (.invalid why)
  opened : ∀ endpoint later, asked = ⟨.endpoint, .ok endpoint⟩ :: later → Opens endpoint →
    ∃ absolute reply rest,
      later = ⟨.call ⟨.identity, .performJson ⟨.post, endpoint ++ "/Users", s.token,
        some (.object [
          ("emails", .array [.object [("value", .string username)]]),
          ("name", .object [("familyName", .string username), ("givenName", .string username)]),
          ("password", .string password),
          ("userName", .string username)]), absolute⟩⟩, reply⟩ :: rest ∧
      Links s reply rest r

section Unfolding

variable {s : Session} {username password endpoint : String} {es : Events}

/-- A creation that is refused asks nothing. -/
theorem Unfolds.of_refused {why : String}
    (h : (∀ c ∈ username.toList, Text.isBlank c) ∨ password = "") :
    Unfolds s username password [] (.error (.invalid why)) where
  refused := fun _ => ⟨rfl, why, rfl⟩
  resolved := fun hnot => absurd h hnot
  unresolved := nofun
  relative := nofun
  opened := nofun

theorem Unfolds.of_unresolved {f : Fault}
    (h : ¬ ((∀ c ∈ username.toList, Text.isBlank c) ∨ password = "")) :
    Unfolds s username password [⟨.endpoint, .error f⟩] (.error f) where
  refused := fun hrefused => absurd hrefused h
  resolved := fun _ => ⟨.error f, [], rfl⟩
  unresolved := by
    intro f' later hasked
    cases hasked
    exact ⟨rfl, rfl⟩
  relative := nofun
  opened := nofun

theorem Unfolds.of_relative {why : String}
    (h : ¬ ((∀ c ∈ username.toList, Text.isBlank c) ∨ password = "")) (hnot : ¬ Opens endpoint) :
    Unfolds s username password [⟨.endpoint, .ok endpoint⟩] (.error (.invalid why)) where
  refused := fun hrefused => absurd hrefused h
  resolved := fun _ => ⟨.ok endpoint, [], rfl⟩
  unresolved := nofun
  relative := by
    intro endpoint' later hasked _
    cases hasked
    exact ⟨rfl, why, rfl⟩
  opened := by
    intro endpoint' later hasked hopens
    cases hasked
    exact absurd hopens hnot

theorem Unfolds.of_opened {absolute : IsAbsolute (accountsUrl endpoint)} {reply : Except Fault Json}
    {later : Asked} {r : Except Fault UserId}
    (h : ¬ ((∀ c ∈ username.toList, Text.isBlank c) ∨ password = ""))
    (hlinks : Links s reply later r) :
    Unfolds s username password
      (⟨.endpoint, .ok endpoint⟩ :: ⟨.call ⟨.identity, .performJson ⟨.post, accountsUrl endpoint,
        s.token, some (Account.creation username password), absolute⟩⟩, reply⟩ :: later) r where
  refused := fun hrefused => absurd hrefused h
  resolved := fun _ => ⟨.ok endpoint, _, rfl⟩
  unresolved := nofun
  relative := by
    intro endpoint' later hasked hnot
    cases hasked
    exact absurd (isAbsolute_accountsUrl_iff.mp absolute) hnot
  opened := by
    intro endpoint' later hasked hopens
    cases hasked
    exact ⟨absolute, reply, _, by rw [← Account.creation_eq]; rfl, hlinks⟩

theorem Links.of_error {f : Fault} : Links s (.error f) [] (.error f) where
  made_iff := by simp
  request := by simp
  ok_iff := by simp
  unopened := by simp
  unread := nofun
  relative := nofun
  unlinked := nofun

theorem Links.of_unread {document : Json} {why : String}
    (h : ¬ ∃ g, document.GivesId g ∧ IsUserId g) :
    Links s (.ok document) [] (.error (.internal why)) where
  made_iff := by
    refine iff_of_false (fun hmade => hmade rfl) ?_
    intro hmade
    obtain ⟨⟨_, g, hdocument, hg⟩, -⟩ := hmade
    cases hdocument
    exact h ⟨g, hg⟩
  request := by simp
  ok_iff := by simp
  unopened := nofun
  unread := fun _ _ _ => ⟨why, rfl⟩
  relative := by
    intro _ g hdocument given usable
    cases hdocument
    exact absurd ⟨g, given, usable⟩ h
  unlinked := nofun

variable {document : Json} {g : String} {id : UserId}

theorem Links.of_relative {why : String} (given : document.GivesId g) (usable : IsUserId g)
    (hnot : ¬ IsAbsolute (usersUrl s)) :
    Links s (.ok document) [] (.error (.invalid why)) where
  made_iff := iff_of_false (fun hmade => hmade rfl) fun hmade => hnot hmade.2
  request := by simp
  ok_iff := by simp
  unopened := nofun
  unread := by
    intro _ hdocument hunusable
    cases hdocument
    exact absurd usable (hunusable g given)
  relative := fun _ _ _ _ _ _ => ⟨why, rfl⟩
  unlinked := nofun

theorem Links.of_made {absolute : IsAbsolute (usersUrl s)} {answer : Except Fault Unit}
    (given : document.GivesId g) (usable : IsUserId g) (htext : id.text = Text.trim g) :
    Links s (.ok document)
      [⟨.call ⟨.platform, .perform ⟨.post, usersUrl s, s.token, some (Member.creation id),
        absolute⟩⟩, answer⟩]
      (answer.map fun _ => id) where
  made_iff := iff_of_true (List.cons_ne_nil _ _) ⟨⟨document, g, rfl, given, usable⟩, absolute⟩
  request := by
    refine fun _ => ⟨document, g, rfl, given, absolute, answer, ?_⟩
    rw [← htext]
    rfl
  ok_iff := by
    intro id'
    constructor
    · intro h
      cases answer with
      | error f => cases h
      | ok _ =>
        cases h
        exact ⟨document, g, _, rfl, given, htext, rfl⟩
    · intro h
      obtain ⟨_, g', _, hdocument, given', htext', hasked⟩ := h
      cases hdocument
      cases hasked
      obtain rfl := Json.rightUnique_givesId given given'
      exact congrArg Except.ok (Identifier.ext (htext.trans htext'.symm))
  unopened := nofun
  unread := by
    intro _ hdocument hunusable
    cases hdocument
    exact absurd usable (hunusable g given)
  relative := fun _ _ _ _ _ hnot => absurd absolute hnot
  unlinked := by
    intro request f hasked
    cases hasked
    rfl

theorem Creates.unfolds {r : Except Fault UserId} (h : Creates s username password es r) :
    Unfolds s username password (Event.questions es) r := by
  have hgood : Text.trim username ≠ "" → password ≠ "" →
      ¬ ((∀ c ∈ username.toList, Text.isBlank c) ∨ password = "") := by
    intro named secret hrefused
    exact hrefused.elim (fun hblank => named (Text.trim_eq_empty_iff.mpr hblank)) secret
  cases h with
  | blank hblank => exact .of_refused (.inl (Text.trim_eq_empty_iff.mp hblank))
  | unprotected hempty => exact .of_refused (.inr hempty)
  | unresolved named secret => exact .of_unresolved (hgood named secret)
  | unopened named secret opening =>
    cases opening with
    | relative hurl =>
      exact .of_relative (hgood named secret) (mt isAbsolute_accountsUrl_iff.mpr hurl)
    | made hurl => exact .of_opened (hgood named secret) .of_error
  | @unread endpoint es document f named secret opening created =>
    obtain ⟨hurl, rfl⟩ := opening.made_of_ok
    rcases Account.createdId_cases username document with
        ⟨_, _, -, -, hid, -⟩ | ⟨hnone, why, hwhy⟩
    · cases created.symm.trans hid
    · cases created.symm.trans hwhy
      exact .of_opened (hgood named secret) (.of_unread hnone)
  | @unlinked endpoint es es' document id f named secret opening created linking =>
    obtain ⟨hurl, rfl⟩ := opening.made_of_ok
    obtain ⟨g, given, usable, htext⟩ := Account.givesId_of_createdId created
    cases linking with
    | relative hmember =>
      exact .of_opened (hgood named secret) (.of_relative given usable hmember)
    | made => exact .of_opened (hgood named secret) (.of_made given usable htext)
  | @linked endpoint es es' document id named secret opening created linking =>
    obtain ⟨hurl, rfl⟩ := opening.made_of_ok
    obtain ⟨hmember, rfl⟩ := linking.made_of_ok
    obtain ⟨g, given, usable, htext⟩ := Account.givesId_of_createdId created
    exact .of_opened (hgood named secret) (.of_made given usable htext)

end Unfolding

/-- A blank username or an empty password ends a creation before anything is asked. Otherwise the
address of the identity service is asked for, and where an account can be opened the first request
does so, with the texts as they were given. The platform user is created next exactly if the answer
gives an id that can be one and the platform's url is absolute, and the creation gives this id
exactly if that succeeds. Nothing else is asked. -/
theorem creation_unfolds {s : Session} {username password : String} {es : Events}
    {r : Except Fault UserId} (h : (create s username password).run.Runs es r) :
    Unfolds s username password (Event.questions es) r :=
  Creates.unfolds (creates_of_runs h)

/-- The sample session with a platform of its own. -/
def foundrySession : Session :=
  { sampleSession with endpoint := "http://cf", endpoint_ne := by decide }

/-- A creation with blanks around the username and around the id. -/
def linking : Events := [
  .asked .endpoint (.ok "http://uaa"),
  .asked (.call ⟨.identity, .performJson ⟨.post, "http://uaa/Users", "t",
    some (Account.creation " ann" "pw"), by decide⟩⟩) (.ok (.object [("Id", .string " u2 ")])),
  .asked (.call ⟨.platform, .perform ⟨.post, "http://cf/v2/users", "t",
    some (.object [("guid", .string "u2")]), by decide⟩⟩) (.ok ()),
  .noted ⟨.info, "user created", [("user_id", "u2"), ("username", " ann")]⟩]

theorem creation_unfolds_linking :
    ∃ id : UserId, id.text = "u2" ∧
      (create foundrySession " ann" "pw").run.Runs linking (.ok id) ∧
      Unfolds foundrySession " ann" "pw" (Event.questions linking) (.ok id) := by
  have hruns : (create foundrySession " ann" "pw").run.Runs linking
      (.ok ⟨"u2", by decide, by decide, by decide⟩) :=
    .ask (.ask (.ask (.note (.refl _))))
  exact ⟨_, rfl, hruns, creation_unfolds hruns⟩

/-- What is asked where the address is a scheme without its last slash. -/
def misled : Events := [
  .asked .endpoint (.ok "http:/"),
  .asked (.call ⟨.identity, .performJson ⟨.post, "http://Users", "t",
    some (Account.creation "ann" "pw"), by decide⟩⟩)
    (.error (.internal "no json response at http://Users"))]

/-- The address of the identity service need not be absolute for an account to be opened there. -/
theorem creation_misled :
    (create sampleSession "ann" "pw").run.Runs misled
        (.error (.internal "no json response at http://Users")) ∧
      ¬ IsAbsolute "http:/" ∧ ¬ Event.posed misled = [.endpoint] :=
  ⟨.ask (.ask (.refl _)), by decide, by simp [misled]⟩

end Directory

end Tenancy
