import Mathlib.Data.List.Basic
import Mathlib.Data.Set.Insert
import Mathlib.Order.BooleanAlgebra.Set
import Tenancy.Directory.Lifecycle
import Tenancy.Proofs.Call
import Tenancy.Proofs.Directory.Action
import Tenancy.Proofs.Directory.Document
import Tenancy.Proofs.Text.Parts

/-!
# Populations

The platform keeps a set of users and the identity service a set of accounts. Calls change both and
may fail with or without effect. Creating and deleting users, in whatever order and with whatever
failures, never leaves a platform user without its account: that is `Population.Sound`.
-/

namespace Tenancy.Directory

/-- The ids of the platform's users and those of the identity service's accounts. -/
structure Population where
  members : Set String
  accounts : Set String

/-- Every platform user has its account. -/
def Population.Sound (w : Population) : Prop :=
  w.members ⊆ w.accounts

inductive Change where
  | openAccount
  | addMember (id : String)
  | removeMember (id : String)
  | closeAccount (id : String)

/-- What a call asks to be changed: it shows in the method and the url of its request. -/
inductive Asks (s : Session) (c : Call) : Change → Prop where
  | openAccount {r : Request} (endpoint : String) (request : c.request? = some r)
      (service : c.service = .identity) (method : r.method = .post)
      (url : r.url = accountsUrl endpoint) : Asks s c .openAccount
  | addMember {r : Request} {id : String} (request : c.request? = some r)
      (service : c.service = .platform) (method : r.method = .post) (url : r.url = usersUrl s)
      (guid : r.body.bind (Json.get? "guid") = some (.string id)) : Asks s c (.addMember id)
  | removeMember {r : Request} (id : UserId) (request : c.request? = some r)
      (service : c.service = .platform) (method : r.method = .delete)
      (url : r.url = userUrl s id) : Asks s c (.removeMember id.text)
  | closeAccount {r : Request} (endpoint : String) (id : UserId) (request : c.request? = some r)
      (service : c.service = .identity) (method : r.method = .delete)
      (url : r.url = accountUrl endpoint id) : Asks s c (.closeAccount id.text)

/-- The population once a change is made. A new account gets an id that no account has. -/
inductive Change.Makes : Change → Population → Population → Prop where
  | openAccount {w : Population} (id : UserId) (fresh : id.text ∉ w.accounts) :
      Makes .openAccount w { w with accounts := insert id.text w.accounts }
  | addMember {w : Population} {id : String} :
      Makes (.addMember id) w { w with members := insert id w.members }
  | removeMember {w : Population} {id : String} :
      Makes (.removeMember id) w { w with members := w.members \ {id} }
  | closeAccount {w : Population} {id : String} :
      Makes (.closeAccount id) w { w with accounts := w.accounts \ {id} }

/-- How the services take a call. What is carried out is answered without a fault, and a new
account's id as it is. What fails may have had its effect, but the platform does not know a user
only when there is none. -/
inductive Conduct (s : Session) : Population → (c : Call) → c.Reply → Population → Prop where
  | idle {w : Population} {c : Call} (reply : c.Reply) (idle : ∀ d, ¬ Asks s c d) :
      Conduct s w c reply w
  | carried {w w' : Population} {c : Call} {d : Change} {reply : c.Reply} (asks : Asks s c d)
      (makes : d.Makes w w') (answered : c.fault? reply = none)
      (honest : d = .openAccount → ∀ v id, c.document? reply = some v →
        Account.createdShape.decode v = .ok id → id ∈ w'.accounts ∧ id ∉ w.accounts) :
      Conduct s w c reply w'
  | failed {w w' : Population} {c : Call} {d : Change} {reply : c.Reply} {f : Fault}
      (asks : Asks s c d) (effect : w' = w ∨ d.Makes w w') (failed : c.fault? reply = some f)
      (honest : ∀ id, d = .removeMember id → f.RefusedWith unknownUserCode → id ∉ w.members) :
      Conduct s w c reply w'

/-- The text behind its last slash is the same however the text came about. -/
theorem eq_of_append_slash {a b x y : String} (h : a ++ "/" ++ x = b ++ "/" ++ y)
    (hx : '/' ∉ x.toList) (hy : '/' ∉ y.toList) : x = y := by
  have hl : a.toList ++ '/' :: x.toList = b.toList ++ '/' :: y.toList := by
    simpa using congrArg String.toList h
  exact String.toList_inj.mp (Text.eq_of_last_separator hx hy hl).2

/-- A call asks for one change at most. -/
theorem Asks.unique {s : Session} {c : Call} {d d' : Change} (h : Asks s c d) (h' : Asks s c d') :
    d = d' := by
  cases h with
  | openAccount _ request service method =>
    cases h' with
    | openAccount => rfl
    | addMember _ service' => simp [service] at service'
    | removeMember _ _ service' => simp [service] at service'
    | closeAccount _ _ request' _ method' => simp_all
  | addMember request service method _ guid =>
    cases h' with
    | openAccount _ _ service' => simp [service] at service'
    | addMember request' _ _ _ guid' => simp_all
    | removeMember _ request' _ method' => simp_all
    | closeAccount _ _ _ service' => simp [service] at service'
  | removeMember id request service method url =>
    cases h' with
    | openAccount _ _ service' => simp [service] at service'
    | addMember request' _ method' => simp_all
    | removeMember id' request' _ _ url' =>
      obtain rfl := Option.some.inj (request.symm.trans request')
      rw [eq_of_append_slash (url.symm.trans url') id.slash_notMem id'.slash_notMem]
    | closeAccount _ _ _ service' => simp [service] at service'
  | closeAccount _ id request service method url =>
    cases h' with
    | openAccount _ request' _ method' => simp_all
    | addMember _ service' => simp [service] at service'
    | removeMember _ _ service' => simp [service] at service'
    | closeAccount _ id' request' _ _ url' =>
      obtain rfl := Option.some.inj (request.symm.trans request')
      rw [eq_of_append_slash (url.symm.trans url') id.slash_notMem id'.slash_notMem]

namespace Conduct

variable {s : Session} {w w' : Population}

/-- A look or a listing changes nothing. -/
theorem eq_of_request?_eq_none {c : Call} {reply : c.Reply} (h : Conduct s w c reply w')
    (hc : c.request? = none) : w' = w := by
  cases h with
  | idle => rfl
  | carried asks => cases asks <;> simp_all
  | failed asks => cases asks <;> simp_all

theorem of_asks {c : Call} {d : Change} {reply : c.Reply} (h : Conduct s w c reply w')
    (ha : Asks s c d) :
    (w' = w ∧ c.fault? reply ≠ none ∨ d.Makes w w') ∧
      (c.fault? reply = none → d = .openAccount → ∀ v id, c.document? reply = some v →
        Account.createdShape.decode v = .ok id → id ∈ w'.accounts ∧ id ∉ w.accounts) ∧
      ∀ f id, c.fault? reply = some f → d = .removeMember id → f.RefusedWith unknownUserCode →
        id ∉ w.members := by
  cases h with
  | idle _ idle => exact absurd ha (idle d)
  | carried asks makes answered honest =>
    obtain rfl := ha.unique asks
    exact ⟨.inr makes, fun _ => honest, by simp [answered]⟩
  | failed asks effect failed honest =>
    obtain rfl := ha.unique asks
    refine ⟨effect.imp_left fun h => ⟨h, by simp [failed]⟩, by simp [failed], ?_⟩
    intro f id hf
    obtain rfl := Option.some.inj (failed.symm.trans hf)
    exact honest id

/-- Opening an account takes none away, and the id it tells is that of an account. -/
theorem openAccount {r : Request} {endpoint : String} {reply : Except Fault Json}
    (h : Conduct s w ⟨.identity, .performJson r⟩ reply w') (method : r.method = .post)
    (url : r.url = accountsUrl endpoint) :
    w'.members = w.members ∧ w.accounts ⊆ w'.accounts ∧
      ∀ v id, reply = .ok v → Account.createdShape.decode v = .ok id →
        ∃ account : UserId, account.text = id ∧ id ∈ w'.accounts := by
  obtain ⟨effect, told, -⟩ := h.of_asks (.openAccount endpoint rfl rfl method url)
  rcases effect with ⟨rfl, hfault⟩ | makes
  · refine ⟨rfl, subset_rfl, ?_⟩
    rintro v id rfl
    exact absurd rfl hfault
  · cases makes with
    | openAccount account fresh =>
      refine ⟨rfl, Set.subset_insert _ _, ?_⟩
      rintro v id rfl hv
      obtain ⟨hin, hnew⟩ := told rfl rfl v id rfl hv
      exact ⟨account, ((Set.mem_insert_iff.mp hin).resolve_right hnew).symm, hin⟩

/-- Adding a platform user adds no other one, and adds it when nothing fails. -/
theorem addMember {r : Request} {id : String} {reply : Except Fault Unit}
    (h : Conduct s w ⟨.platform, .perform r⟩ reply w') (method : r.method = .post)
    (url : r.url = usersUrl s) (guid : r.body.bind (Json.get? "guid") = some (.string id)) :
    w'.accounts = w.accounts ∧ w'.members ⊆ insert id w.members ∧
      (reply = .ok () → id ∈ w'.members) := by
  obtain ⟨effect, -, -⟩ := h.of_asks (.addMember rfl rfl method url guid)
  rcases effect with ⟨rfl, hfault⟩ | makes
  · refine ⟨rfl, Set.subset_insert _ _, ?_⟩
    rintro rfl
    exact absurd rfl hfault
  · cases makes with
    | addMember => exact ⟨rfl, subset_rfl, fun _ => Set.mem_insert _ _⟩

/-- Removing a platform user adds none, and it is gone when nothing fails or when it is said to be
unknown. -/
theorem removeMember {r : Request} {id : UserId} {reply : Except Fault Unit}
    (h : Conduct s w ⟨.platform, .perform r⟩ reply w') (method : r.method = .delete)
    (url : r.url = userUrl s id) :
    w'.accounts = w.accounts ∧ w'.members ⊆ w.members ∧
      ((∀ f, reply = .error f → f.RefusedWith unknownUserCode) → id.text ∉ w'.members) := by
  obtain ⟨effect, -, known⟩ := h.of_asks (.removeMember id rfl rfl method url)
  rcases effect with ⟨rfl, hfault⟩ | makes
  · refine ⟨rfl, subset_rfl, ?_⟩
    intro hreply
    cases reply with
    | ok => exact absurd rfl hfault
    | error f => exact known f id.text rfl rfl (hreply f rfl)
  · cases makes with
    | removeMember => exact ⟨rfl, Set.sdiff_subset, fun _ => by simp⟩

/-- Closing an account closes no other one, and it is gone when nothing fails. -/
theorem closeAccount {r : Request} {endpoint : String} {id : UserId} {reply : Except Fault Unit}
    (h : Conduct s w ⟨.identity, .perform r⟩ reply w') (method : r.method = .delete)
    (url : r.url = accountUrl endpoint id) :
    w'.members = w.members ∧ w.accounts \ {id.text} ⊆ w'.accounts ∧
      (reply = .ok () → id.text ∉ w'.accounts) := by
  obtain ⟨effect, -, -⟩ := h.of_asks (.closeAccount endpoint id rfl rfl method url)
  rcases effect with ⟨rfl, hfault⟩ | makes
  · refine ⟨rfl, Set.sdiff_subset, ?_⟩
    rintro rfl
    exact absurd rfl hfault
  · cases makes with
    | closeAccount => exact ⟨rfl, subset_rfl, fun _ => by simp⟩

end Conduct

/-- The id of a new account, where the service hands out ids that are taken as they are. -/
theorem text_of_createdId {username : String} {v : Json} {id : UserId}
    (h : Account.createdId username v = .ok id)
    (hv : ∀ told, Account.createdShape.decode v = .ok told →
      ∃ account : UserId, account.text = told) :
    Account.createdShape.decode v = .ok id.text := by
  unfold Account.createdId at h
  cases hd : Account.createdShape.decode v with
  | error m => simp [hd, bind, Except.bind] at h
  | ok told =>
    obtain ⟨account, rfl⟩ := hv told hd
    simp only [hd, Json.usable_ok, bind, Except.bind, UserId.received_text] at h
    cases h
    rfl

section Operations

open Directory.Action Program

variable {s : Session} {w : Population} {token : String}

theorem always_openAccount {endpoint : String} {body : Option Json} (hw : w.Sound) :
    (performJson .identity .post (accountsUrl endpoint) token body).run.Always
      (Law.onQuestions (Conduct s)) Population.Sound
      (fun r w => w.Sound ∧ ∀ v id, r = .ok v → Account.createdShape.decode v = .ok id →
        ∃ account : UserId, account.text = id ∧ id ∈ w.accounts) w := by
  refine always_performJson ?_ fun why => ⟨hw, by simp⟩
  intro r method url _ reply w' h
  obtain ⟨members, accounts, told⟩ := Conduct.openAccount h method url
  have hw' : w'.Sound := by
    rw [Population.Sound, members]
    exact hw.trans accounts
  exact ⟨hw', hw', told⟩

theorem always_addMember {id : UserId} (hw : w.Sound) (hid : id.text ∈ w.accounts) :
    (perform .platform .post (usersUrl s) token (some (Member.creation id))).run.Always
      (Law.onQuestions (Conduct s)) Population.Sound
      (fun r w => r = .ok () → id.text ∈ w.members ∧ id.text ∈ w.accounts) w := by
  refine always_perform ?_ (by simp)
  intro r method url body reply w' h
  have guid : r.body.bind (Json.get? "guid") = some (.string id.text) := by
    rw [body]
    rfl
  obtain ⟨accounts, members, added⟩ := Conduct.addMember h method url guid
  have hw' : w'.Sound := by
    rw [Population.Sound, accounts]
    exact members.trans (Set.insert_subset hid hw)
  exact ⟨hw', fun hr => ⟨added hr, accounts ▸ hid⟩⟩

theorem always_removeMember {id : UserId} (hw : w.Sound) :
    (perform .platform .delete (userUrl s id) token none).run.Always
      (Law.onQuestions (Conduct s)) Population.Sound
      (fun r w => w.Sound ∧
        ((∀ f, r = .error f → f.RefusedWith unknownUserCode) → id.text ∉ w.members)) w := by
  refine always_perform ?_ fun why => ⟨hw, fun h => (h _ rfl).elim⟩
  intro r method url _ reply w' h
  obtain ⟨accounts, members, removed⟩ := Conduct.removeMember h method url
  have hw' : w'.Sound := by
    rw [Population.Sound, accounts]
    exact members.trans hw
  exact ⟨hw', hw', removed⟩

/-- An account is closed only once its platform user is gone. -/
theorem always_closeAccount {endpoint : String} {id : UserId} (hw : w.Sound)
    (hid : id.text ∉ w.members) :
    (perform .identity .delete (accountUrl endpoint id) token none).run.Always
      (Law.onQuestions (Conduct s)) Population.Sound
      (fun r w => r = .ok () → id.text ∉ w.members ∧ id.text ∉ w.accounts) w := by
  refine always_perform ?_ (by simp)
  intro r method url _ reply w' h
  obtain ⟨members, accounts, closed⟩ := Conduct.closeAccount h method url
  have hw' : w'.Sound := by
    intro x hx
    rw [members] at hx
    exact accounts ⟨hw hx, fun e => hid (Set.mem_singleton_iff.mp e ▸ hx)⟩
  exact ⟨hw', fun hr => ⟨members ▸ hid, closed hr⟩⟩

theorem always_create (username password : String) (hw : w.Sound) :
    (create s username password).run.Always (Law.onQuestions (Conduct s)) Population.Sound
      (fun r w => ∀ id, r = .ok id → id.text ∈ w.members ∧ id.text ∈ w.accounts) w := by
  unfold create
  rw [always_then_iff, run_lift, always_done]
  cases Phrase.of? username with
  | error f => simp
  | ok name =>
    by_cases hp : password = ""
    · simp [hp]
    simp only [hp, if_false]
    rw [always_then_iff, always_endpoint_iff]
    rintro (f | endpoint)
    · exact ⟨hw, by simp⟩
    refine ⟨hw, ?_⟩
    dsimp only
    rw [always_then_iff]
    refine (always_openAccount hw).mono ?_
    rintro (f | document) w₁ ⟨hw₁, told⟩
    · simp
    dsimp only
    rw [always_then_iff, always_noting_iff, run_lift, always_done]
    cases hid : Account.createdId name.text document with
    | error f => simp
    | ok id =>
      have hdecode := text_of_createdId hid fun v hv =>
        (told document v rfl hv).imp fun _ h => h.1
      obtain ⟨_, -, hin⟩ := told document id.text rfl hdecode
      dsimp only
      rw [always_then_iff, always_noting_iff]
      refine (always_addMember hw₁ hin).mono ?_
      rintro (f | _) w₂ added
      · simp
      dsimp only
      rw [always_then_iff, always_say_iff]
      rintro _ ⟨rfl⟩
      exact added rfl

theorem always_deleteMember (id : UserId) (hw : w.Sound) :
    (deleteMember s id).run.Always (Law.onQuestions (Conduct s)) Population.Sound
      (fun r w => w.Sound ∧ (r = .ok () → id.text ∉ w.members)) w := by
  unfold deleteMember
  rw [always_then_iff, always_outcome_iff]
  refine (always_removeMember hw).mono ?_
  rintro (f | _) w₁ ⟨hw₁, removed⟩
  · by_cases hf : f.RefusedWith unknownUserCode
    · simp only [hf, if_true, always_say_iff]
      refine ⟨hw₁, fun _ => removed ?_⟩
      rintro _ ⟨rfl⟩
      exact hf
    · simp only [hf, if_false, run_throw, always_done]
      exact ⟨hw₁, by simp⟩
  · exact ⟨hw₁, fun _ => removed (by simp)⟩

theorem always_delete (id : UserId) (hw : w.Sound) :
    (delete s id).run.Always (Law.onQuestions (Conduct s)) Population.Sound
      (fun r w => r = .ok () → id.text ∉ w.members ∧ id.text ∉ w.accounts) w := by
  unfold delete
  rw [always_then_iff]
  refine (always_deleteMember id hw).mono ?_
  rintro (f | _) w₁ ⟨hw₁, removed⟩
  · simp
  dsimp only
  rw [always_then_iff, always_noting_iff, always_endpoint_iff]
  rintro (f | endpoint)
  · exact ⟨hw₁, by simp⟩
  refine ⟨hw₁, ?_⟩
  dsimp only
  rw [always_then_iff, always_noting_iff]
  refine (always_closeAccount hw₁ (removed rfl)).mono ?_
  rintro (f | _) w₂ closed
  · simp
  · exact fun _ => closed rfl

end Operations

/-- What may be asked of a directory that changes both services. -/
inductive Deed where
  | create (username password : String)
  | delete (id : UserId)

/-- A deed with the id of the user that it is about. -/
def Deed.action (s : Session) : Deed → Action UserId
  | create username password => Directory.create s username password
  | delete id => do
    Directory.delete s id
    pure id

/-- What has become of a user when the deed is done. -/
def Deed.Done (w : Population) (id : UserId) : Deed → Prop
  | create .. => id.text ∈ w.members ∧ id.text ∈ w.accounts
  | delete id => id.text ∉ w.members ∧ id.text ∉ w.accounts

theorem always_deed {s : Session} {w : Population} (d : Deed) (source : Endpoint.Source)
    (hw : w.Sound) :
    ((d.action s).calling s source).run.Always (Conduct s) Population.Sound
      (fun r w => ∀ id, r = .ok id → d.Done w id) w := by
  refine Action.always_calling ?_ hw ?_
  · intro w url token reply w' h
    exact Conduct.eq_of_request?_eq_none h rfl
  · cases d with
    | create username password => exact always_create username password hw
    | delete id =>
      refine Action.always_then_iff.mpr ((always_delete id hw).mono ?_)
      rintro (f | _) w' hid
      · simp
      · exact fun _ _ => hid rfl

/-- The populations that deeds done one after the other may lead to. Each deed finds the identity
service in its own way. -/
inductive After (s : Session) (w : Population) : List (Deed × Endpoint.Source) → Population → Prop
    where
  | nil : After s w [] w
  | snoc {past : List (Deed × Endpoint.Source)} {w₁ w₂ : Population} {d : Deed}
      {source : Endpoint.Source} {es : List (Event Call Call.Reply)} {r : Except Fault UserId}
      (before : After s w past w₁) (run : ((d.action s).calling s source).run.Runs es r)
      (world : Program.Passes (Conduct s) w₁ es w₂) : After s w (past ++ [(d, source)]) w₂

theorem After.sound {s : Session} {w w' : Population} {past : List (Deed × Endpoint.Source)}
    (h : After s w past w') (hw : w.Sound) : w'.Sound := by
  induction h with
  | nil => exact hw
  | snoc _ run world ih => exact (always_deed _ _ ih).inv_of_leads ih run world

/-- After every call of every deed no platform user is without its account; a user that has been
created is known to both services, and one that has been deleted to none. -/
theorem members_have_accounts {s : Session} {w w₁ w₂ : Population}
    {past : List (Deed × Endpoint.Source)} (hw : w.Sound) (hpast : After s w past w₁) (d : Deed)
    (source : Endpoint.Source) {es : List (Event Call Call.Reply)}
    {left : Program Call Call.Reply (Except Fault UserId)}
    (run : ((d.action s).calling s source).run.Leads es left)
    (world : Program.Passes (Conduct s) w₁ es w₂) :
    w₂.Sound ∧ ∀ id, left = .done (.ok id) → d.Done w₂ id := by
  have h := always_deed (s := s) d source (hpast.sound hw)
  refine ⟨h.inv_of_leads (hpast.sound hw) run world, ?_⟩
  rintro id rfl
  exact h.leads run world id rfl

/-- A user whose account is created while the platform is down. -/
def orphan : UserId := ⟨"u2", by decide, by decide, by decide⟩

def orphaning : List (Event Call Call.Reply) := [
  .asked ⟨.identity, .performJson
      ⟨.post, "http://id/Users", "t", some (Account.creation "ann" "pw"), by decide⟩⟩
    (.ok (.object [("id", .string "u2")])),
  .asked ⟨.platform, .perform
      ⟨.post, "http://api/v2/users", "t", some (Member.creation orphan), by decide⟩⟩
    (.error (.internal "down")),
  .noted ⟨.warn, "platform user creation failed; identity account was left in place",
    [("user_id", "u2"), ("username", "ann"), ("error", "internal error: down")]⟩]

def deleting : List (Event Call Call.Reply) := [
  .asked ⟨.platform, .perform ⟨.delete, "http://api/v2/users/u2", "t", none, by decide⟩⟩
    (.error (.refused (.answered 404 (some "20003") "unknown"))),
  .noted ⟨.warn, "platform user already absent; deleting identity account", [("user_id", "u2")]⟩,
  .asked ⟨.platform, .get "http://api/v2/info" "t"⟩
    (.ok (.object [("token_endpoint", .string "http://id")])),
  .noted ⟨.debug, "discovered identity endpoint", [("identity_endpoint", "http://id")]⟩,
  .asked ⟨.identity, .perform ⟨.delete, "http://id/Users/u2", "t", none, by decide⟩⟩ (.ok ()),
  .noted ⟨.info, "user deleted", [("user_id", "u2")]⟩]

set_option maxRecDepth 2000 in
/-- An account that was left alone is deleted although the platform does not know its user. -/
theorem members_have_accounts_orphan :
    Population.Sound ⟨{"u1"}, {"u1"}⟩ ∧ After sampleSession ⟨{"u1"}, {"u1"}⟩
        [(.create "ann" "pw", .fixed (.ok "http://id"))] ⟨{"u1"}, {"u2", "u1"}⟩ ∧
      Population.Sound ⟨{"u1"}, {"u2", "u1"} \ {"u2"}⟩ ∧
      Deed.Done ⟨{"u1"}, {"u2", "u1"} \ {"u2"}⟩ orphan (.delete orphan) := by
  have hw : Population.Sound ⟨{"u1"}, {"u1"}⟩ := subset_rfl
  have run₁ : (((Deed.create "ann" "pw").action sampleSession).calling sampleSession
      (.fixed (.ok "http://id"))).run.Runs orphaning (.error (.internal "down")) :=
    .ask (.ask (.note (.refl _)))
  have world₁ : Program.Passes (Conduct sampleSession) ⟨{"u1"}, {"u1"}⟩ orphaning
      ⟨{"u1"}, {"u2", "u1"}⟩ := by
    refine .asked (.carried (.openAccount "http://id" rfl rfl rfl rfl)
      (.openAccount orphan (by simp [orphan])) rfl ?_) (.asked
      (.failed (.addMember rfl rfl rfl rfl rfl) (.inl rfl) rfl (by simp)) (.noted (.nil _)))
    rintro - v told ⟨rfl⟩ ⟨rfl⟩
    exact ⟨by simp [orphan], by simp⟩
  have hpast : After sampleSession ⟨{"u1"}, {"u1"}⟩ [(.create "ann" "pw", .fixed (.ok "http://id"))]
      ⟨{"u1"}, {"u2", "u1"}⟩ := .snoc .nil run₁ world₁
  have run₂ : (((Deed.delete orphan).action sampleSession).calling sampleSession
      .discovered).run.Runs deleting (.ok orphan) :=
    .ask (.note (.ask (.note (.ask (.note (.refl _))))))
  have world₂ : Program.Passes (Conduct sampleSession) ⟨{"u1"}, {"u2", "u1"}⟩ deleting
      ⟨{"u1"}, {"u2", "u1"} \ {"u2"}⟩ := by
    refine .asked (.failed (.removeMember orphan rfl rfl rfl rfl) (.inl rfl) rfl ?_) (.noted (.asked
      (.idle _ ?_) (.noted (.asked (.carried (.closeAccount "http://id" orphan rfl rfl rfl rfl)
        .closeAccount rfl (by simp)) (.noted (.nil _))))))
    · rintro _ ⟨rfl⟩ _
      simp [orphan]
    · intro d hd
      cases hd <;> simp_all [Call.request?]
  have h := members_have_accounts hw hpast (.delete orphan) .discovered run₂ world₂
  exact ⟨hw, hpast, h.1, h.2 orphan rfl⟩

end Tenancy.Directory
