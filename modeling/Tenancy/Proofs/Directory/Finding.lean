import Tenancy.Proofs.Directory.Phases
import Tenancy.Proofs.Filter.Reading
import Tenancy.Proofs.Json.Fields

/-!
# Finding a user

Whoever looks for a username gets the first account of the reply, or hears that there is none. A
reply that cannot be read, or has an invalid id anywhere, is neither: the search fails
(`searches_of_runs`).
-/

namespace Tenancy

namespace Json

/-- An account in a document: one id and one username, under any of their names and among whatever
else, or in an array of both. -/
def IsEntry (v : Json) (entry : String × String) : Prop :=
  GivesBoth ["id", "Id"] true (fun v id => v = .string id) ["userName", "Username", "username"] true
    (fun v name => v = .string name) v (some entry.1, some entry.2)

/-- A reply that lists some entries under the only name it has for them; without one it lists
nothing. -/
def Lists (v : Json) (entries : List (String × String)) : Prop :=
  ∃ given, Gives ["resources", "Resources"] false
    (fun v entries => ∃ items, v = .array items ∧ List.Forall₂ IsEntry items entries) v given ∧
    given.getD [] = entries

end Json

namespace Account

theorem decode_shape_iff {v : Json} {entry : String × String} :
    shape.decode v = .ok entry ↔ v.IsEntry entry := by
  rw [Json.Shape.decode_pair_iff rfl rfl (by simp) (fun _ _ => Json.asString_eq_ok_iff)
    fun _ _ => Json.asString_eq_ok_iff]
  constructor
  · rintro ⟨⟨_ | id, _ | name⟩, gives, hfinish⟩ <;> cases hfinish
    exact gives
  · intro h
    exact ⟨_, h, rfl⟩

theorem decode_listShape_iff {v : Json} {entries : List (String × String)} :
    listShape.decode v = .ok entries ↔ v.Lists entries := by
  have hlist (v : Json) (entries : List (String × String)) :
      Json.asList shape.decode v = .ok entries ↔
        ∃ items, v = .array items ∧ List.Forall₂ Json.IsEntry items entries := by
    simp only [Json.asList_eq_ok_iff, decode_shape_iff]
  rw [Json.Shape.decode_single_iff rfl rfl hlist]
  simp [Json.Lists, listShape]

end Account

namespace Json

theorem answers_iff (v : Json) (entries : List (String × String)) :
    v.Answers entries ↔ v.Lists entries ∧ ∀ e ∈ entries, IsUserId e.1 := by
  rw [Answers, Account.decode_listShape_iff]

theorem Lists.unique {v : Json} {entries entries' : List (String × String)} (h : v.Lists entries)
    (h' : v.Lists entries') : entries = entries' :=
  Except.ok.inj ((Account.decode_listShape_iff.mpr h).symm.trans
    (Account.decode_listShape_iff.mpr h'))

theorem lists_nil {members : List (String × Json)}
    (h : ∀ m ∈ members, m.1 ≠ "resources" ∧ m.1 ≠ "Resources") : (object members).Lists [] := by
  have hunder : under ["resources", "Resources"] members = [] := under_eq_nil (by simpa using h)
  exact ⟨none, .object (hunder ▸ .absent), rfl⟩

end Json

namespace Directory

/-- What is picked from the reply of the identity service. -/
structure Picks (username : String) (reply : Except Fault Json) (r : Except Fault Record) :
    Prop where
  refused : ∀ f, reply = .error f → r = .error f
  first : ∀ v id name rest, reply = .ok v → v.Lists ((id, name) :: rest) →
    (∀ e ∈ (id, name) :: rest, IsUserId e.1) →
    ∃ record, r = .ok record ∧ record.id.text = Text.trim id ∧ record.username = some name ∧
      record.isAdmin = false
  nobody : ∀ v, reply = .ok v → v.Lists [] → r = .error (.absent s!"user {username} not found")
  unlisted : ∀ members, reply = .ok (.object members) →
    (∀ m ∈ members, m.1 ≠ "resources" ∧ m.1 ≠ "Resources") →
    r = .error (.absent s!"user {username} not found")
  unreadable : ∀ v, reply = .ok v → (∀ entries, v.Lists entries → ∃ e ∈ entries, ¬ IsUserId e.1) →
    ∃ why, r = .error (.internal why)

/-- How a search goes: a blank username is not looked for; any other is put to the identity service
once it is known where that is, in one query that it can read in one way only. -/
structure Searches (s : Session) (username : String) (es : List (Event Question Question.Reply))
    (r : Except Fault Record) : Prop where
  blank : Text.trim username = "" → es = [] ∧ ∃ why, r = .error (.invalid why)
  named : Text.trim username ≠ "" → ∃ found rest, es = .asked .endpoint found :: rest
  unresolved : ∀ f rest, es = .asked .endpoint (.error f) :: rest → rest = [] ∧ r = .error f
  resolved : ∀ endpoint rest, es = .asked .endpoint (.ok endpoint) :: rest →
    Filter.ComesThrough endpoint (.username username) (.username username) ∧
      ∃ reply, rest = [.asked (accountsAt s ((Filter.username username).url endpoint)) reply] ∧
        Picks username reply r

theorem picks_firstRecord (username : String) (reply : Except Fault Json) :
    Picks username reply
      (reply >>= fun v =>
        (Account.listOfJson v).map (Record.join []) >>= firstRecord username) := by
  have hjoins : Joins [] reply (reply >>= fun v => (Account.listOfJson v).map (Record.join [])) :=
    joins_join rfl reply
  rw [← bind_assoc]
  generalize reply >>= (fun v => (Account.listOfJson v).map (Record.join [])) = found at hjoins ⊢
  have hnobody : ∀ v, reply = .ok v → v.Lists [] →
      found >>= firstRecord username = .error (.absent s!"user {username} not found") := by
    intro v hv hlists
    obtain ⟨records, rfl, hviews⟩ :=
      hjoins.joined v [] hv ((Json.answers_iff v []).mpr ⟨hlists, by simp⟩)
    obtain rfl := List.map_eq_nil_iff.mp hviews
    rfl
  refine ⟨?_, ?_, hnobody, fun members hv h => hnobody _ hv (Json.lists_nil h), ?_⟩
  · intro f hf
    rw [hjoins.refused f hf]
    rfl
  · intro v id name rest hv hlists hids
    obtain ⟨records, rfl, hviews⟩ :=
      hjoins.joined v _ hv ((Json.answers_iff v _).mpr ⟨hlists, hids⟩)
    cases records with
    | nil => cases hviews
    | cons record records =>
      obtain ⟨hview, -⟩ := List.cons.inj hviews
      simp only [Prod.mk.injEq] at hview
      obtain ⟨hid, hname, hadmin⟩ := hview
      exact ⟨record, rfl, hid, hname, hadmin⟩
  · intro v hv hbad
    obtain ⟨why, hwhy⟩ := hjoins.unreadable v hv fun entries h => by
      obtain ⟨hlists, hids⟩ := (Json.answers_iff v entries).mp h
      obtain ⟨e, he, hnot⟩ := hbad entries hlists
      exact hnot (hids e he)
    exact ⟨why, by rw [hwhy]; rfl⟩

/-- Every search goes like that, whatever the services reply. -/
theorem searches_of_runs {s : Session} {username : String}
    {es : List (Event Question Question.Reply)} {r : Except Fault Record}
    (h : (find s username).run.Runs es r) : Searches s username es r := by
  cases finds_of_runs h with
  | blank hblank =>
    exact ⟨fun _ => ⟨rfl, _, rfl⟩, fun hnamed => absurd hblank hnamed, nofun, nofun⟩
  | unresolved named =>
    refine ⟨fun hblank => absurd hblank named, fun _ => ⟨_, _, rfl⟩, ?_, ?_⟩
    · rintro f rest ⟨⟩
      exact ⟨rfl, rfl⟩
    · rintro endpoint rest ⟨⟩
  | @asked endpoint reply named =>
    refine ⟨fun hblank => absurd hblank named, fun _ => ⟨_, _, rfl⟩, ?_, ?_⟩
    · rintro f rest ⟨⟩
    · rintro endpoint rest ⟨⟩
      exact ⟨Filter.comesThrough_username endpoint username, reply, rfl,
        picks_firstRecord username reply⟩

/-- Knows where the identity service is, which has one reply to everything. -/
def replying (document : Json) : (q : Question) → q.Reply
  | .endpoint => .ok "http://id"
  | .call ⟨_, .get ..⟩ => .ok document
  | .call ⟨_, .list ..⟩ => ⟨[], .ok ()⟩
  | .call ⟨_, .perform _⟩ => .ok ()
  | .call ⟨_, .performJson _⟩ => .ok .null

/-- Two accounts in other spellings, where the second has a good id or a blank one. -/
def twoAccounts (second : String) : Json :=
  .object [("Resources", .array [.object [("Id", .string " u1 "), ("Username", .string "anna")],
    .object [("active", .null), ("id", .string second), ("username", .string "Anna")]])]

theorem lists_twoAccounts (second : String) :
    (twoAccounts second).Lists [(" u1 ", "anna"), (second, "Anna")] :=
  ⟨_, .object (.present ⟨_, rfl, .cons (.object (.present rfl) (.present rfl))
    (.cons (.object (.present rfl) (.present rfl)) .nil)⟩), rfl⟩

theorem searches_of_runs_second :
    (∃ record,
      ((find sampleSession "ann\"a").run.play (replying (twoAccounts "u2"))).2 = .ok record ∧
        record.id.text = "u1" ∧ record.username = some "anna" ∧ record.isAdmin = false) ∧
      ∃ why, ((find sampleSession "ann\"a").run.play (replying (twoAccounts " "))).2 =
        .error (.internal why) := by
  constructor
  · have h := searches_of_runs
      ((find sampleSession "ann\"a").run.runs_play (replying (twoAccounts "u2")))
    obtain ⟨-, reply, hrest, hpicks⟩ := h.resolved "http://id" _ rfl
    cases hrest
    have hids : ∀ e ∈ [(" u1 ", "anna"), ("u2", "Anna")], IsUserId e.1 := by decide
    exact hpicks.first _ " u1 " "anna" _ rfl (lists_twoAccounts "u2") hids
  · have h := searches_of_runs
      ((find sampleSession "ann\"a").run.runs_play (replying (twoAccounts " ")))
    obtain ⟨-, reply, hrest, hpicks⟩ := h.resolved "http://id" _ rfl
    cases hrest
    refine hpicks.unreadable _ rfl fun entries hentries => ?_
    obtain rfl := (lists_twoAccounts " ").unique hentries
    exact ⟨(" ", "Anna"), by simp, by decide⟩

end Directory

end Tenancy
