import Tenancy.Proofs.Directory.Plan

/-!
# Confinement of operations

Every call of an operation goes to the service that it is meant for, with the token of the session
and no other, and nothing is changed that the operation is not given (`Confined`). The plans of
operations are confined, and so are their runs.
-/

namespace Tenancy.Directory

def Step.head? : Step → Option Head
  | .call h => some h
  | .address => none

@[simp] theorem Step.head?_call (h : Head) : (call h).head? = some h := rfl

@[simp] theorem Step.head?_address : address.head? = none := rfl

theorem mem_filterMap_head?_iff {l : List Step} {h : Head} :
    h ∈ l.filterMap Step.head? ↔ .call h ∈ l := by
  have hhead : ∀ step : Step, step.head? = some h ↔ step = .call h := by
    intro step
    cases step <;> simp
  simp [List.mem_filterMap, hhead]

/-- The calls of a run. -/
def heads (es : Events) : List Head :=
  (steps es).filterMap Step.head?

def Under (front url : String) : Prop :=
  ∃ rest, url = front ++ rest

def RoleChange.user : RoleChange → UserId
  | grantOrganizationRole user .. | revokeOrganizationRole user .. | grantSpaceRole user ..
  | revokeSpaceRole user .. => user

def NamedRoleChange.user : NamedRoleChange → UserId
  | grantOrganizationRole user .. | revokeOrganizationRole user .. | grantSpaceRole user ..
  | revokeSpaceRole user .. => user

namespace Operation

/-- Operations that only look. -/
inductive Looks : Operation → Prop where
  | find (username : String) : Looks (find username)
  | holders (q : HolderQuery) : Looks (holders q)

/-- The user that an operation is given. -/
def user? : Operation → Option UserId
  | find _ | holders _ | create .. => none
  | delete id => some id
  | change c => some c.user
  | changeByName n => some n.user

/-- What an operation posts. -/
def posts (s : Session) (endpoint : String) : Operation → List Head
  | create .. => [
      ⟨.identity, Method.post.name, accountsUrl endpoint, s.token⟩,
      ⟨.platform, Method.post.name, usersUrl s, s.token⟩]
  | find _ | holders _ | delete _ | change _ | changeByName _ => []

end Operation

/-- Calls of an operation that go where they belong. -/
structure Confined (s : Session) (o : Operation) (endpoint : String) (calls : List Head) :
    Prop where
  token : ∀ h ∈ calls, h.token = s.token
  platform : ∀ h ∈ calls, h.service = .platform → Under (s.endpoint ++ "/v2/") h.url
  identity : ∀ h ∈ calls, h.service = .identity → Under (endpoint ++ "/Users") h.url
  /-- Whoever only looks changes nothing. -/
  looks : o.Looks → ∀ h ∈ calls, h.method = Method.get.name ∨ h.method = Script.listMethod
  puts : ∀ h ∈ calls, h.method = Method.put.name →
    ∃ g : Grant, o.user? = some g.user ∧ h.service = .platform ∧
      h.url = s.endpoint ++ g.collection ++ "/" ++ g.user.text
  deletions : ∀ h ∈ calls, h.method = Method.delete.name →
    ∃ id front, o.user? = some id ∧ h.url = front ++ "/" ++ id.text
  /-- Accounts and platform users are created in this order, and each at most once. -/
  posts : calls.filter (·.method = Method.post.name) <+: o.posts s endpoint
  own : calls.length ≤ 2

theorem Confined.of_initial {s : Session} {o : Operation} {endpoint : String}
    {calls calls' : List Head} (h : Confined s o endpoint calls') (hinitial : calls <+: calls') :
    Confined s o endpoint calls where
  token := fun head hmem => h.token head (hinitial.subset hmem)
  platform := fun head hmem => h.platform head (hinitial.subset hmem)
  identity := fun head hmem => h.identity head (hinitial.subset hmem)
  looks := fun hlooks head hmem => h.looks hlooks head (hinitial.subset hmem)
  puts := fun head hmem => h.puts head (hinitial.subset hmem)
  deletions := fun head hmem => h.deletions head (hinitial.subset hmem)
  posts := (hinitial.filter _).trans h.posts
  own := hinitial.length_le.trans h.own

/-- The calls that an operation may make. -/
inductive Makes (s : Session) (endpoint : String) : Operation → Head → Prop where
  | seekAccount {username : String} :
      Makes s endpoint (.find username)
        ⟨.identity, Method.get.name, (Filter.username username).url endpoint, s.token⟩
  | listMembers {q : HolderQuery} {path : String} (h : q.collection = .ok path) :
      Makes s endpoint (.holders q)
        ⟨.platform, Script.listMethod, s.endpoint ++ path, s.token⟩
  | seekAccounts {q : HolderQuery} (members : List UserId) :
      Makes s endpoint (.holders q)
        ⟨.identity, Method.get.name, (Filter.ofIds members).url endpoint, s.token⟩
  | openAccount {username password : String} :
      Makes s endpoint (.create username password)
        ⟨.identity, Method.post.name, accountsUrl endpoint, s.token⟩
  | addMember {username password : String} :
      Makes s endpoint (.create username password)
        ⟨.platform, Method.post.name, usersUrl s, s.token⟩
  | removeMember {id : UserId} :
      Makes s endpoint (.delete id) ⟨.platform, Method.delete.name, userUrl s id, s.token⟩
  | closeAccount {id : UserId} :
      Makes s endpoint (.delete id)
        ⟨.identity, Method.delete.name, accountUrl endpoint id, s.token⟩
  | edit {o : Operation} (e : Edit) (given : o.user? = some e.grant.user) :
      Makes s endpoint o ⟨.platform, e.method.name, grantUrl s e.grant, s.token⟩

section Plans

variable {s : Session} {endpoint : String} {o : Operation} {members : List UserId}

theorem RoleChange.user_of_mem_edits {c : RoleChange} {e : Edit} (he : e ∈ c.edits) :
    e.grant.user = c.user := by
  cases c with
  | grantOrganizationRole | grantSpaceRole => rcases List.mem_pair.mp he with rfl | rfl <;> rfl
  | revokeOrganizationRole | revokeSpaceRole =>
    obtain rfl := List.mem_singleton.mp he
    rfl

theorem NamedRoleChange.user_of_roleChange {n : NamedRoleChange} {c : RoleChange}
    (hc : n.roleChange = .ok c) : c.user = n.user := by
  cases n with
  | grantOrganizationRole user target role | revokeOrganizationRole user target role =>
    rw [roleChange] at hc
    cases hrole : OrganizationRole.ofName? role <;> rw [hrole] at hc <;> cases hc
    rfl
  | grantSpaceRole user target owner role | revokeSpaceRole user target role =>
    rw [roleChange] at hc
    cases hrole : SpaceRole.ofName? role <;> rw [hrole] at hc <;> cases hc
    rfl

theorem makes_of_mem_edits {c : RoleChange} {h : Head} (huser : o.user? = some c.user)
    (hmem : .call h ∈ c.edits.map (Edit.step s)) : Makes s endpoint o h := by
  obtain ⟨e, he, hstep⟩ := List.mem_map.mp hmem
  cases hstep
  exact .edit e (huser.trans (congrArg some (RoleChange.user_of_mem_edits he).symm))

theorem makes_of_mem_plan {h : Head} (hmem : .call h ∈ o.plan s endpoint members) :
    Makes s endpoint o h := by
  cases o with
  | find username =>
    obtain rfl : h = _ := by simpa [Operation.plan] using hmem
    exact .seekAccount
  | holders q =>
    cases hpath : q.collection with
    | ok path =>
      obtain rfl | rfl : h = _ ∨ h = _ := by simpa [Operation.plan, hpath] using hmem
      · exact .listMembers hpath
      · exact .seekAccounts members
    | error f => simp [Operation.plan, hpath] at hmem
  | create username password =>
    obtain rfl | rfl : h = _ ∨ h = _ := by simpa [Operation.plan] using hmem
    · exact .openAccount
    · exact .addMember
  | delete id =>
    obtain rfl | rfl : h = _ ∨ h = _ := by simpa [Operation.plan] using hmem
    · exact .removeMember
    · exact .closeAccount
  | change c => exact makes_of_mem_edits rfl hmem
  | changeByName n =>
    cases hc : n.roleChange with
    | ok c =>
      have huser := NamedRoleChange.user_of_roleChange hc
      exact makes_of_mem_edits (congrArg some huser.symm) (by simpa [Operation.plan, hc] using hmem)
    | error f => simp [Operation.plan, hc] at hmem

end Plans

section Urls

theorem Under.append {front url : String} (h : Under front url) (base : String) :
    Under (base ++ front) (base ++ url) := by
  obtain ⟨rest, rfl⟩ := h
  exact ⟨rest, (String.append_assoc ..).symm⟩

theorem under_collection (scope : Scope) (id segment : String) :
    Under "/v2/" (scope.collection id segment) :=
  ⟨scope.segment ++ "/" ++ id ++ "/" ++ segment, by simp [Scope.collection, String.append_assoc]⟩

theorem HolderQuery.under_of_collection {q : HolderQuery} {path : String}
    (h : q.collection = .ok path) : Under "/v2/" path := by
  cases q with
  | organization | space =>
    cases h
    exact under_collection _ _ _
  | organizationByName target role =>
    rw [collection] at h
    cases hrole : OrganizationRole.ofName? role <;> rw [hrole] at h <;> cases h
    exact under_collection _ _ _
  | spaceByName target role =>
    rw [collection] at h
    cases hrole : SpaceRole.ofName? role <;> rw [hrole] at h <;> cases h
    exact under_collection _ _ _

theorem under_path (g : Grant) : Under "/v2/" g.path := by
  obtain ⟨rest, hrest⟩ : Under "/v2/" g.collection := by
    cases g <;> exact under_collection _ _ _
  exact ⟨rest ++ "/" ++ g.user.text, by simp [Grant.path, hrest, String.append_assoc]⟩

theorem under_query (f : Filter) (endpoint : String) :
    Under (endpoint ++ "/Users") (f.url endpoint) := by
  have hquery : Under "/Users" (Filter.query ++ f.encoded) :=
    ⟨"?attributes=id,userName&filter=" ++ f.encoded, by rw [← String.append_assoc]; rfl⟩
  rw [Filter.url, String.append_assoc]
  exact hquery.append endpoint

end Urls

namespace Makes

variable {s : Session} {endpoint : String} {o : Operation} {h : Head}

theorem token (hmakes : Makes s endpoint o h) : h.token = s.token := by
  cases hmakes <;> rfl

theorem platform (hmakes : Makes s endpoint o h) (hservice : h.service = .platform) :
    Under (s.endpoint ++ "/v2/") h.url := by
  cases hmakes with
  | seekAccount | seekAccounts | openAccount | closeAccount => cases hservice
  | listMembers hpath => exact (HolderQuery.under_of_collection hpath).append s.endpoint
  | addMember => exact Under.append ⟨"users", rfl⟩ s.endpoint
  | @removeMember id =>
    have hurl : userUrl s id = s.endpoint ++ ("/v2/users" ++ "/" ++ id.text) := by
      simp [userUrl, usersUrl, String.append_assoc]
    rw [hurl]
    exact Under.append ⟨"users" ++ "/" ++ id.text, by simp [← String.append_assoc]⟩ s.endpoint
  | edit e => exact (under_path e.grant).append s.endpoint

theorem identity (hmakes : Makes s endpoint o h) (hservice : h.service = .identity) :
    Under (endpoint ++ "/Users") h.url := by
  cases hmakes with
  | seekAccount | seekAccounts => exact under_query _ _
  | openAccount => exact ⟨"", by simp [accountsUrl]⟩
  | @closeAccount id => exact ⟨"/" ++ id.text, by rw [accountUrl, accountsUrl, String.append_assoc]⟩
  | listMembers | addMember | removeMember | edit => cases hservice

theorem looks (hmakes : Makes s endpoint o h) (hlooks : o.Looks) :
    h.method = Method.get.name ∨ h.method = Script.listMethod := by
  cases hmakes with
  | seekAccount | seekAccounts => exact .inl rfl
  | listMembers => exact .inr rfl
  | openAccount | addMember | removeMember | closeAccount => cases hlooks
  | edit e given => cases hlooks <;> cases given

theorem puts (hmakes : Makes s endpoint o h) (hmethod : h.method = Method.put.name) :
    ∃ g : Grant, o.user? = some g.user ∧ h.service = .platform ∧
      h.url = s.endpoint ++ g.collection ++ "/" ++ g.user.text := by
  cases hmakes with
  | edit e given => exact ⟨e.grant, given, rfl, by simp [grantUrl, Grant.path, String.append_assoc]⟩
  | _ => simp [Method.name, Script.listMethod] at hmethod

theorem deletions (hmakes : Makes s endpoint o h) (hmethod : h.method = Method.delete.name) :
    ∃ id front, o.user? = some id ∧ h.url = front ++ "/" ++ id.text := by
  cases hmakes with
  | @removeMember id => exact ⟨id, usersUrl s, rfl, rfl⟩
  | @closeAccount id => exact ⟨id, accountsUrl endpoint, rfl, rfl⟩
  | edit e given =>
    exact ⟨e.grant.user, s.endpoint ++ e.grant.collection, given,
      by simp [grantUrl, Grant.path, String.append_assoc]⟩
  | _ => simp [Method.name, Script.listMethod] at hmethod

end Makes

section Runs

variable {s : Session} {endpoint : String} {o : Operation}

theorem posts_edits (edits : List Edit) :
    ((edits.map (Edit.step s)).filterMap Step.head?).filter (·.method = Method.post.name) = [] := by
  refine List.filter_eq_nil_iff.mpr fun h hmem => ?_
  obtain ⟨e, -, he⟩ := List.mem_map.mp (mem_filterMap_head?_iff.mp hmem)
  cases he
  cases e <;> simp [Edit.method, Method.name]

theorem posts_plan (o : Operation) (members : List UserId) :
    ((o.plan s endpoint members).filterMap Step.head?).filter (·.method = Method.post.name) =
      o.posts s endpoint := by
  cases o with
  | find | create | delete => rfl
  | holders q =>
    rw [Operation.plan]
    cases q.collection <;> rfl
  | change c => exact posts_edits c.edits
  | changeByName n =>
    rw [Operation.plan]
    cases n.roleChange with
    | ok c => exact posts_edits c.edits
    | error f => rfl

theorem length_edits_le (c : RoleChange) : c.edits.length ≤ 2 := by
  cases c <;> simp [RoleChange.edits]

theorem length_plan_le (o : Operation) (members : List UserId) :
    ((o.plan s endpoint members).filterMap Step.head?).length ≤ 2 := by
  cases o with
  | find | create | delete => simp [Operation.plan, List.filterMap_cons]
  | holders q =>
    rw [Operation.plan]
    cases q.collection <;> simp [List.filterMap_cons]
  | change c =>
    exact (List.length_filterMap_le ..).trans ((List.length_map _).trans_le (length_edits_le c))
  | changeByName n =>
    rw [Operation.plan]
    cases n.roleChange with
    | ok c =>
      exact (List.length_filterMap_le ..).trans ((List.length_map _).trans_le (length_edits_le c))
    | error f => simp

theorem confined_plan (o : Operation) (members : List UserId) :
    Confined s o endpoint ((o.plan s endpoint members).filterMap Step.head?) := by
  have hmakes : ∀ h ∈ (o.plan s endpoint members).filterMap Step.head?, Makes s endpoint o h := by
    intro h hmem
    exact makes_of_mem_plan (mem_filterMap_head?_iff.mp hmem)
  have hposts : ((o.plan s endpoint members).filterMap Step.head?).filter
      (·.method = Method.post.name) = o.posts s endpoint := posts_plan o members
  exact {
    token := fun h hmem => (hmakes h hmem).token
    platform := fun h hmem => (hmakes h hmem).platform
    identity := fun h hmem => (hmakes h hmem).identity
    looks := fun hlooks h hmem => (hmakes h hmem).looks hlooks
    puts := fun h hmem => (hmakes h hmem).puts
    deletions := fun h hmem => (hmakes h hmem).deletions
    posts := hposts ▸ List.prefix_rfl
    own := length_plan_le o members }

theorem Keeps.confined {es : Events} (h : Keeps s o endpoint es) :
    Confined s o endpoint (heads es) := by
  obtain ⟨members, hplanned⟩ := h.planned
  exact (confined_plan o members).of_initial (hplanned.filterMap _)

/-- No operation asks the platform for its information document by itself. -/
theorem Makes.ne_infoCall {h : Head} (hmakes : Makes s endpoint o h) : h ≠ (infoCall s).head := by
  cases hmakes with
  | edit e => cases e <;> simp [Call.head, Script.Received.of, Edit.method, Method.name]
  | _ => simp [Call.head, Script.Received.of, Method.name, Script.listMethod]

theorem Keeps.makes_of_mem_heads {es : Events} (h : Keeps s o endpoint es) {head : Head}
    (hmem : head ∈ heads es) : Makes s endpoint o head := by
  obtain ⟨members, hplanned⟩ := h.planned
  exact makes_of_mem_plan (hplanned.subset (mem_filterMap_head?_iff.mp hmem))

/-- The calls of an operation itself, without those by which the address is found. -/
def ownHeads (s : Session) (es : List (Event Call Call.Reply)) : List Head :=
  ((Event.posed es).map Call.head).filter (· ≠ (infoCall s).head)

/-- Where an address of the identity service comes from. -/
inductive Found (s : Session) (endpoint : String) :
    Endpoint.Source → List (Event Call Call.Reply) → Prop where
  | fixed {es : List (Event Call Call.Reply)} : Found s endpoint (.fixed (.ok endpoint)) es
  | discovered {es : List (Event Call Call.Reply)} {document : Json}
      (asked : .asked (infoCall s) (.ok document) ∈ es)
      (named : Endpoint.ofInfo document = .ok endpoint) : Found s endpoint .discovered es

variable {source : Endpoint.Source} {qs : Events} {es : List (Event Call Call.Reply)}

theorem ownHeads_append (es es' : List (Event Call Call.Reply)) :
    ownHeads s (es ++ es') = ownHeads s es ++ ownHeads s es' := by
  simp [ownHeads]

theorem Resolves.ownHeads_eq_nil {reply : Except Fault String} (h : Resolves s source es reply) :
    ownHeads s es = [] := by
  cases h <;> simp [ownHeads]

theorem ownHeads_of_expands (h : Event.Expands (Answers s source) qs es) :
    ownHeads s es = (heads qs).filter (· ≠ (infoCall s).head) := by
  induction h with
  | nil => rfl
  | noted _ ih => exact ih
  | @asked q reply first es qs hfirst _ ih =>
    rw [ownHeads_append, ih]
    cases q with
    | call c =>
      obtain rfl : first = [.asked c reply] := hfirst
      exact (List.filter_append ..).symm
    | endpoint =>
      have hresolves : Resolves s source first reply := hfirst
      rw [hresolves.ownHeads_eq_nil]
      rfl

theorem Found.of_expands (h : Event.Expands (Answers s source) qs es)
    (hasked : .asked .endpoint (.ok endpoint) ∈ qs) : Found s endpoint source es := by
  obtain ⟨first, hfirst, hmem⟩ := h.settled hasked
  generalize hreply : (Except.ok endpoint : Except Fault String) = reply at hfirst
  cases hfirst with
  | fixed => exact hreply ▸ .fixed
  | unanswered => cases hreply
  | unadvertised => cases hreply
  | discovered hnamed =>
    cases hreply
    exact .discovered (hmem _ List.mem_cons_self) hnamed

end Runs

/-- Whoever answers, an operation calls each service under its own address only, with the token of
the session, and makes two calls at most. Those that only look change nothing; the others grant,
revoke and delete for the user that they are given, and only a creation posts anything: first the
account, then the platform user. This holds of its own calls just as well when the address of the
identity service is configured or asked of the platform, which adds calls with the same token. -/
theorem operations_stay_confined (s : Session) (o : Operation) :
    (∀ es r, (o.action s).run.Runs es r → ∃ endpoint, Confined s o endpoint (heads es) ∧
      ∀ h ∈ heads es, h.service = .identity → .asked .endpoint (.ok endpoint) ∈ es) ∧
      ∀ source es r, ((o.action s).calling s source).run.Runs es r →
        (∀ c ∈ Event.posed es, c.head.token = s.token) ∧
          ∃ endpoint, Confined s o endpoint (ownHeads s es) ∧
            ∀ h ∈ ownHeads s es, h.service = .identity → Found s endpoint source es := by
  have hrun : ∀ es r, (o.action s).run.Runs es r → ∃ endpoint, Keeps s o endpoint es := by
    intro es r h
    exact Operation.keeps_of_takes (Operation.takes_of_runs h)
  refine ⟨?_, ?_⟩
  · intro es r h
    obtain ⟨endpoint, hkeeps⟩ := hrun es r h
    exact ⟨endpoint, hkeeps.confined,
      fun head hmem => hkeeps.resolved head (mem_filterMap_head?_iff.mp hmem)⟩
  · intro source es r h
    obtain ⟨qs, hqs, hexpands⟩ := expands_of_runs_calling h
    obtain ⟨endpoint, hkeeps⟩ := hrun qs r hqs
    have hown : ownHeads s es = heads qs := by
      rw [ownHeads_of_expands hexpands, List.filter_eq_self]
      intro head hmem
      simpa using (hkeeps.makes_of_mem_heads hmem).ne_infoCall
    rw [hown]
    refine ⟨?_, endpoint, hkeeps.confined, ?_⟩
    · intro c hc
      by_cases hinfo : c.head = (infoCall s).head
      · rw [hinfo]
        rfl
      · refine hkeeps.confined.token c.head (hown ▸ ?_)
        exact List.mem_filter.mpr ⟨List.mem_map_of_mem hc, by simpa using hinfo⟩
    · intro head hmem hservice
      exact .of_expands hexpands
        (hkeeps.resolved head (mem_filterMap_head?_iff.mp hmem) hservice)

/-- A role is granted. -/
def granting : Events := [
  .asked (.call ⟨.platform, .perform
    ⟨.put, "http://api/v2/organizations/o2/managers/u3", "t", none, by decide⟩⟩) (.ok ()),
  .asked (.call ⟨.platform, .perform
    ⟨.put, "http://api/v2/organizations/o2/users/u3", "t", none, by decide⟩⟩) (.ok ()),
  .noted ⟨.info, "organization role granted",
    [("user_id", "u3"), ("org_id", "o2"), ("role", "org-manager")]⟩]

/-- The sample session with a platform that is reached over HTTPS. -/
def secureSession : Session :=
  { sampleSession with endpoint := "https://api", endpoint_ne := by decide }

/-- A user is created where the address is asked of the platform. -/
def creating : List (Event Call Call.Reply) := [
  .asked ⟨.platform, .get "https://api/v2/info" "t"⟩
    (.ok (.object [("token_endpoint", .string "https://id")])),
  .noted ⟨.debug, "discovered identity endpoint", [("identity_endpoint", "https://id")]⟩,
  .asked ⟨.identity, .performJson
      ⟨.post, "https://id/Users", "t", some (Account.creation "ann" "pw"), by decide⟩⟩
    (.ok (.object [("id", .string "u1")])),
  .asked ⟨.platform, .perform
      ⟨.post, "https://api/v2/users", "t", some (Member.creation ann), by decide⟩⟩ (.ok ()),
  .noted ⟨.info, "user created", [("user_id", "u1"), ("username", "ann")]⟩]

theorem operations_stay_confined_creating :
    ((Operation.change (.grantOrganizationRole bob acme .manager)).action sampleSession).run.Runs
        granting (.ok ()) ∧
      (∃ endpoint, Confined sampleSession (.change (.grantOrganizationRole bob acme .manager))
        endpoint (heads granting)) ∧
      (((Operation.create "ann" "pw").action secureSession).calling secureSession
        .discovered).run.Runs creating (.ok ann) ∧
      (∀ c ∈ Event.posed creating, c.head.token = "t") ∧
      ∃ endpoint, Confined secureSession (.create "ann" "pw") endpoint
          (ownHeads secureSession creating) ∧
        Found secureSession endpoint .discovered creating := by
  have hgranting : ((Operation.change (.grantOrganizationRole bob acme .manager)).action
      sampleSession).run.Runs granting (.ok ()) := .ask (.ask (.note (.refl _)))
  have hcreating : (((Operation.create "ann" "pw").action secureSession).calling secureSession
      .discovered).run.Runs creating (.ok ann) := .ask (.note (.ask (.ask (.note (.refl _)))))
  obtain ⟨hrun, -⟩ :=
    operations_stay_confined sampleSession (.change (.grantOrganizationRole bob acme .manager))
  obtain ⟨endpoint, hconfined, -⟩ := hrun _ _ hgranting
  obtain ⟨-, hcalling⟩ := operations_stay_confined secureSession (.create "ann" "pw")
  obtain ⟨htoken, endpoint', hconfined', hfound⟩ := hcalling .discovered _ _ hcreating
  refine ⟨hgranting, ⟨endpoint, hconfined⟩, hcreating, htoken, endpoint', hconfined', ?_⟩
  exact hfound ⟨.identity, Method.post.name, "https://id/Users", "t"⟩ (by decide) rfl

end Tenancy.Directory
