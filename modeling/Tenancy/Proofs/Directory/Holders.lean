import Tenancy.Directory.Lookup
import Tenancy.Proofs.Directory.Action
import Tenancy.Proofs.Directory.Document
import Tenancy.Proofs.Filter

/-!
# Looking holders up

What a look-up of the holders of a role asks, one question after the other, and what it makes of
every answer. The members are known by what their resources tell (`Json.Tells`), the accounts by
what the reply answers (`Json.Answers`); either is spoilt by one that is not valid.
-/

namespace Tenancy.Directory

open Program

/-- A question for the holders of a role. -/
inductive HolderQuery where
  | organization (target : OrganizationId) (role : OrganizationRole)
  | space (target : SpaceId) (role : SpaceRole)
  | organizationByName (target : OrganizationId) (role : String)
  | spaceByName (target : SpaceId) (role : String)

namespace HolderQuery

def action (s : Session) : HolderQuery → Action (List Record)
  | organization target role => organizationHolders s target role
  | space target role => spaceHolders s target role
  | organizationByName target role => organizationHoldersByName s target role
  | spaceByName target role => spaceHoldersByName s target role

/-- Where the holders are listed; the name of a role has to be a valid one. -/
def collection : HolderQuery → Except Fault String
  | organization target role => .ok (Scope.organization.collection target.text role.segment)
  | space target role => .ok (Scope.space.collection target.text role.segment)
  | organizationByName target role =>
    (OrganizationRole.ofName? role).map fun r =>
      Scope.organization.collection target.text r.segment
  | spaceByName target role =>
    (SpaceRole.ofName? role).map fun r => Scope.space.collection target.text r.segment

theorem action_eq_holders {q : HolderQuery} {s : Session} {path : String}
    (h : q.collection = .ok path) : q.action s = holders s path := by
  cases q with
  | organization target role =>
    cases h
    rfl
  | space target role =>
    cases h
    rfl
  | organizationByName target role =>
    simp only [collection] at h
    cases hrole : OrganizationRole.ofName? role with
    | error f => simp [hrole, Except.map] at h
    | ok r =>
      rw [hrole] at h
      cases h
      simp only [action, organizationHoldersByName, namedHolders, Scope.roleSegment, hrole]
      rfl
  | spaceByName target role =>
    simp only [collection] at h
    cases hrole : SpaceRole.ofName? role with
    | error f => simp [hrole, Except.map] at h
    | ok r =>
      rw [hrole] at h
      cases h
      simp only [action, spaceHoldersByName, namedHolders, Scope.roleSegment, hrole]
      rfl

end HolderQuery

/-- The question for the members that a collection lists. -/
@[reducible] def membersIn (s : Session) (path : String) : Question :=
  .call ⟨.platform, .list s.endpoint s.token path (.taking Member.ofJson)⟩

/-- The question for the accounts under a url. -/
@[reducible] def accountsAt (s : Session) (url : String) : Question :=
  .call ⟨.identity, .get url s.token⟩

theorem run_records (s : Session) (members : List Member) (url : String) :
    (records s members url).run = ask (accountsAt s url) fun
      | .error f => done (.error f)
      | .ok v => done ((Account.listOfJson v).map (Record.join members)) := by
  refine congrArg (ask (accountsAt s url)) ?_
  funext reply
  cases reply with
  | error f => rfl
  | ok v =>
    change (liftM (Account.listOfJson v) >>= _ : Action (List Record)).run = _
    rw [run_bind, run_lift]
    cases h : Account.listOfJson v <;> simp only [h] <;> rfl

theorem run_holders (s : Session) (path : String) :
    (holders s path).run = ask (membersIn s path) fun l =>
      match l.entries Member.ofJson with
      | .error f => done (.error f)
      | .ok [] => note ⟨.debug, "role collection has no members", [("path", path)]⟩ (done (.ok []))
      | .ok (m :: rest) => ask .endpoint fun
        | .error f => done (.error f)
        | .ok endpoint =>
          note ⟨.debug, "resolving usernames for role members",
              [("path", path), ("member_count", toString (m :: rest).length)]⟩
            (records s (m :: rest) ((Filter.ofIds ((m :: rest).map (·.id))).url endpoint)).run := by
  rw [holders, run_bind, Action.run_list]
  refine congrArg (ask (membersIn s path)) ?_
  funext l
  beta_reduce
  cases l.entries Member.ofJson with
  | error f => rfl
  | ok members =>
    cases members with
    | nil => rfl
    | cons m rest =>
      refine congrArg (ask (ρ := Question.Reply) .endpoint) ?_
      funext reply
      cases reply with
      | error f => rfl
      | ok endpoint => rfl

/-- The members that some users are, by their trimmed ids. -/
abbrev Matches (members : List Member) (users : List (String × Bool)) : Prop :=
  members.map (fun m => (m.id.text, m.isAdmin)) =
    users.map fun user => (Text.trim user.1, user.2)

/-- Whether one of some users is an administrator; of several with one id the first counts. -/
def isAdminAmong (users : List (String × Bool)) (id : String) : Bool :=
  ((users.find? fun user => Text.trim user.1 = id).map (·.2)).getD false

/-- Where the accounts of some users are found: by all their ids, in the order of the users. -/
def queryUrl (endpoint : String) (users : List (String × Bool)) : String :=
  endpoint ++ "/Users?attributes=id,userName&filter=" ++
    Text.FormEncoding.encode (" or ".intercalate
      (users.map fun user => "Id eq " ++ Filter.quoted (Text.trim user.1)))

/-- What comes of the reply of the identity service. -/
structure Joins (users : List (String × Bool)) (reply : Except Fault Json)
    (result : Except Fault (List Record)) : Prop where
  refused : ∀ f, reply = .error f → result = .error f
  unreadable : ∀ v, reply = .ok v → (∀ entries, ¬ v.Answers entries) →
    ∃ why, result = .error (.internal why)
  joined : ∀ v entries, reply = .ok v → v.Answers entries →
    ∃ records, result = .ok records ∧
      records.map (fun r => (r.id.text, r.username, r.isAdmin)) =
        entries.map fun e => (Text.trim e.1, some e.2, isAdminAmong users (Text.trim e.1))

/-- How a look-up of holders goes when their collection has some resources. -/
structure LooksUp (s : Session) (path : String) (resources : List Json)
    (ending : Except Fault Unit) (answer : (q : Question) → q.Reply) (asked : List Question)
    (result : Except Fault (List Record)) : Prop where
  spoilt : (∃ v ∈ resources, ∀ user, ¬ v.Tells user) →
    asked = [membersIn s path] ∧ ∃ why, result = .error (.internal why)
  unlisted : ∀ users f, List.Forall₂ Json.Tells resources users → ending = .error f →
    asked = [membersIn s path] ∧ result = .error f
  empty : resources = [] → ending = .ok () → asked = [membersIn s path] ∧ result = .ok []
  unresolved : ∀ users f, List.Forall₂ Json.Tells resources users → users ≠ [] →
    ending = .ok () → answer .endpoint = .error f →
    asked = [membersIn s path, .endpoint] ∧ result = .error f
  resolved : ∀ users endpoint, List.Forall₂ Json.Tells resources users → users ≠ [] →
    ending = .ok () → answer .endpoint = .ok endpoint →
    asked = [membersIn s path, .endpoint, accountsAt s (queryUrl endpoint users)] ∧
      Joins users (answer (accountsAt s (queryUrl endpoint users))) result

section Outcomes

variable {members : List Member} {users : List (String × Bool)}

theorem isAdminAmong_eq_getD_index (h : Matches members users) (id : String) :
    (Member.index members).getD id false = isAdminAmong users id := by
  have hmembers : (members.find? (·.id.text = id)).map (·.isAdmin) =
      ((members.map fun m => (m.id.text, m.isAdmin)).find? (·.1 = id)).map (·.2) := by
    simp [List.find?_map, Function.comp_def]
  rw [Std.HashMap.getD_eq_getD_getElem?, Member.getElem?_index, hmembers, h, isAdminAmong]
  simp [List.find?_map, Function.comp_def]

/-- The records are those of the accounts, in their order; members only say who is administrator. -/
theorem map_join {accounts : List Account} {entries : List (String × String)}
    (h : Matches members users)
    (haccounts : accounts.map (fun a => (a.id.text, a.username)) =
      entries.map fun e => (Text.trim e.1, e.2)) :
    (Record.join members accounts).map (fun r => (r.id.text, r.username, r.isAdmin)) =
      entries.map fun e => (Text.trim e.1, some e.2, isAdminAmong users (Text.trim e.1)) := by
  let joined : String × String → String × Option String × Bool :=
    fun a => (a.1, some a.2, isAdminAmong users a.1)
  calc (Record.join members accounts).map (fun r => (r.id.text, r.username, r.isAdmin))
      = (accounts.map fun a => (a.id.text, a.username)).map joined := by
        simp [Record.join, Account.record, joined, isAdminAmong_eq_getD_index h]
    _ = (entries.map fun e => (Text.trim e.1, e.2)).map joined := by rw [haccounts]
    _ = entries.map fun e => (Text.trim e.1, some e.2, isAdminAmong users (Text.trim e.1)) := by
        simp [joined]

theorem joins_join (h : Matches members users) (reply : Except Fault Json) :
    Joins users reply (reply >>= fun v => (Account.listOfJson v).map (Record.join members)) where
  refused := by
    rintro f rfl
    rfl
  unreadable := by
    rintro v rfl hnot
    rcases Account.listOfJson_cases v with ⟨entries, hentries, -⟩ | ⟨-, why, hwhy⟩
    · exact absurd hentries (hnot entries)
    · exact ⟨why, congrArg (Except.map (Record.join members)) hwhy⟩
  joined := by
    rintro v entries rfl hv
    rcases Account.listOfJson_cases v with ⟨entries', hv', accounts, hok, haccounts⟩ | ⟨hnot, -⟩
    · obtain rfl := Except.ok.inj (hv.1.symm.trans hv'.1)
      exact ⟨Record.join members accounts, congrArg (Except.map (Record.join members)) hok,
        map_join h haccounts⟩
    · exact absurd hv (hnot entries)

theorem url_ofIds (h : Matches members users) (endpoint : String) :
    (Filter.ofIds (members.map (·.id))).url endpoint = queryUrl endpoint users := by
  have hclauses : (members.map (·.id)).map Filter.clause =
      users.map fun user => "Id eq " ++ Filter.quoted (Text.trim user.1) := by
    simpa [Filter.clause, Function.comp_def] using
      congrArg (List.map fun user => "Id eq " ++ Filter.quoted user.1) h
  rw [Filter.url, Filter.encoded, Filter.text_ofIds, hclauses, queryUrl]
  rfl

end Outcomes

section Stages

variable {s : Session} {path : String} {answer : (q : Question) → q.Reply} {f : Fault}
  {members : List Member}

theorem play_of_listing_error (h : (answer (membersIn s path)).entries Member.ofJson = .error f) :
    Event.posed ((holders s path).run.play answer).1 = [membersIn s path] ∧
      ((holders s path).run.play answer).2 = .error f := by
  simp [run_holders, play, h]

theorem play_of_nobody (h : (answer (membersIn s path)).entries Member.ofJson = .ok []) :
    Event.posed ((holders s path).run.play answer).1 = [membersIn s path] ∧
      ((holders s path).run.play answer).2 = .ok [] := by
  simp [run_holders, play, h]

theorem play_of_endpoint_error (h : (answer (membersIn s path)).entries Member.ofJson = .ok members)
    (hne : members ≠ []) (hf : answer .endpoint = .error f) :
    Event.posed ((holders s path).run.play answer).1 = [membersIn s path, .endpoint] ∧
      ((holders s path).run.play answer).2 = .error f := by
  obtain ⟨m, rest, rfl⟩ := List.exists_cons_of_ne_nil hne
  simp [run_holders, play, h, hf]

theorem play_of_endpoint {endpoint : String}
    (h : (answer (membersIn s path)).entries Member.ofJson = .ok members) (hne : members ≠ [])
    (hendpoint : answer .endpoint = .ok endpoint) :
    let accounts := accountsAt s ((Filter.ofIds (members.map (·.id))).url endpoint)
    Event.posed ((holders s path).run.play answer).1 = [membersIn s path, .endpoint, accounts] ∧
      ((holders s path).run.play answer).2 =
        (answer accounts : Except Fault Json) >>= fun v =>
          (Account.listOfJson v).map (Record.join members) := by
  obtain ⟨m, rest, rfl⟩ := List.exists_cons_of_ne_nil hne
  intro accounts
  simp only [run_holders, play, h, hendpoint, run_records]
  cases (answer accounts : Except Fault Json) with
  | error f => simp [accounts, play, Bind.bind, Except.bind]
  | ok v => simp [accounts, play, Bind.bind, Except.bind]

/-- Either all resources tell of users, which then fixes the members, or one of them spoils the
listing and no list of users fits. -/
theorem looksUp_of_entries {resources : List Json} {ending : Except Fault Unit}
    (hlist : (answer (membersIn s path)).entries Member.ofJson =
      resources.mapM Member.ofJson >>= fun members => ending.map fun _ => members) :
    LooksUp s path resources ending answer (Event.posed ((holders s path).run.play answer).1)
      ((holders s path).run.play answer).2 := by
  rcases mapM_cases Member.ofJson_cases resources with
      ⟨users, husers, members, hmembers, h⟩ | ⟨hbad, _, hf, why, rfl⟩
  · have hunique : ∀ users', List.Forall₂ Json.Tells resources users' → users = users' :=
      fun _ => List.right_unique_forall₂' Json.rightUnique_tells husers
    have hne : users ≠ [] → members ≠ [] := by
      rintro hsome rfl
      exact hsome (List.map_eq_nil_iff.mp h.symm)
    rw [hmembers] at hlist
    refine ⟨?spoilt, ?unlisted, ?empty, ?unresolved, ?resolved⟩
    case spoilt =>
      rintro ⟨v, hv, hbad⟩
      obtain ⟨user, -, htells⟩ := Json.exists_of_mem husers hv
      exact absurd htells (hbad user)
    case unlisted =>
      rintro - f - rfl
      exact play_of_listing_error hlist
    case empty =>
      rintro rfl rfl
      cases hmembers
      exact play_of_nobody hlist
    case unresolved =>
      rintro users' f husers' hsome rfl hf
      obtain rfl := hunique users' husers'
      exact play_of_endpoint_error hlist (hne hsome) hf
    case resolved =>
      rintro users' endpoint husers' hsome rfl hendpoint
      obtain rfl := hunique users' husers'
      obtain ⟨hasked, hresult⟩ := play_of_endpoint hlist (hne hsome) hendpoint
      rw [url_ofIds h] at hasked hresult
      rw [hresult]
      exact ⟨hasked, joins_join h _⟩
  · rw [hf] at hlist
    obtain ⟨v, hv, hnot⟩ := hbad
    have hnone : ∀ users, ¬ List.Forall₂ Json.Tells resources users := by
      intro users husers
      obtain ⟨user, -, htells⟩ := Json.exists_of_mem husers hv
      exact hnot user htells
    have hplay := play_of_listing_error hlist
    exact {
      spoilt := fun _ => ⟨hplay.1, why, hplay.2⟩
      unlisted := fun users _ husers => absurd husers (hnone users)
      empty := fun hempty => absurd (hempty ▸ hv) List.not_mem_nil
      unresolved := fun users _ husers => absurd husers (hnone users)
      resolved := fun users _ husers => absurd husers (hnone users) }

end Stages

/-- Every listing of the platform has some pages; everything else is answered anyhow. -/
def paged (pages : List (List Json)) (ending : Except Fault Unit)
    (other : (q : Question) → q.Reply) : (q : Question) → q.Reply
  | .call ⟨.platform, .list _ _ _ visit⟩ => Listing.ofPages visit pages ending
  | q => other q

theorem paged_congr {pages pages' : List (List Json)} (h : pages.flatten = pages'.flatten)
    (ending : Except Fault Unit) (other : (q : Question) → q.Reply) :
    paged pages ending other = paged pages' ending other := by
  funext q
  unfold paged
  split
  · rw [Listing.ofPages_eq_of_flatten, h, ← Listing.ofPages_eq_of_flatten]
  · rfl

/-- A look-up of the holders of a role depends on the values of all pages only. Members that cannot
be read fail it before anything else is asked, and nobody listed means nobody asked for; else one
query names all of them in their order, and the accounts of its reply become the records. -/
theorem holders_looked_up {q : HolderQuery} {path : String} (h : q.collection = .ok path)
    (s : Session) (pages : List (List Json)) (ending : Except Fault Unit)
    (other : (q : Question) → q.Reply) :
    (∀ pages', pages'.flatten = pages.flatten →
        (q.action s).run.play (paged pages' ending other) =
          (q.action s).run.play (paged pages ending other)) ∧
      LooksUp s path pages.flatten ending other
        (Event.posed ((q.action s).run.play (paged pages ending other)).1)
        ((q.action s).run.play (paged pages ending other)).2 := by
  refine ⟨fun pages' hpages => by rw [paged_congr hpages], ?_⟩
  rw [HolderQuery.action_eq_holders h]
  have hlist : (paged pages ending other (membersIn s path)).entries Member.ofJson =
      pages.flatten.mapM Member.ofJson >>= fun members => ending.map fun _ => members := by
    rw [← Listing.entries_of_taking, ← Listing.ofPages_eq_of_flatten]
    rfl
  have hlooks := looksUp_of_entries hlist
  exact ⟨hlooks.spoilt, hlooks.unlisted, hlooks.empty, hlooks.unresolved, hlooks.resolved⟩

def managers : HolderQuery :=
  .organizationByName ⟨"o1", by decide, by decide, by decide⟩ "org-manager"

def memberResource (guid : String) (isAdmin : Bool) : Json :=
  .object [("entity", .object [("admin", .bool isAdmin)]),
    ("metadata", .object [("guid", .string guid)])]

/-- Knows the second of two managers only. -/
def knowsBob : (q : Question) → q.Reply
  | .endpoint => .ok "http://id"
  | .call ⟨_, .get ..⟩ => .ok (.object [("resources", .array [
      .object [("id", .string "u2"), ("userName", .string "bob")]])])
  | .call ⟨_, .list ..⟩ => ⟨[], .ok ()⟩
  | .call ⟨_, .perform _⟩ => .ok ()
  | .call ⟨_, .performJson _⟩ => .ok .null

def managersRun : List (Event Question Question.Reply) × Except Fault (List Record) :=
  (managers.action sampleSession).run.play
    (paged [[memberResource " u1" false], [], [memberResource "u2" true]] (.ok ()) knowsBob)

theorem holders_looked_up_managers :
    managers.collection = .ok "/v2/organizations/o1/managers" ∧
      Event.posed managersRun.1 = [membersIn sampleSession "/v2/organizations/o1/managers",
        .endpoint,
        accountsAt sampleSession (queryUrl "http://id" [(" u1", false), ("u2", true)])] ∧
      ∃ records, managersRun.2 = .ok records ∧
        records.map (fun r => (r.id.text, r.username, r.isAdmin)) = [("u2", some "bob", true)] := by
  have hpath : managers.collection = .ok "/v2/organizations/o1/managers" := by rfl
  obtain ⟨-, h⟩ := holders_looked_up hpath sampleSession
    [[memberResource " u1" false], [], [memberResource "u2" true]] (.ok ()) knowsBob
  have husers : List.Forall₂ Json.Tells [memberResource " u1" false, memberResource "u2" true]
      [(" u1", false), ("u2", true)] :=
    .cons ⟨rfl, by decide⟩ (.cons ⟨rfl, by decide⟩ .nil)
  obtain ⟨hasked, hjoins⟩ := h.resolved _ "http://id" husers (by simp) rfl rfl
  obtain ⟨records, hrecords, hviews⟩ := hjoins.joined _ [("u2", "bob")] rfl ⟨rfl, by decide⟩
  exact ⟨hpath, hasked, records, hrecords, hviews⟩

end Tenancy.Directory
