import Tenancy.CommandLine.Run
import Tenancy.Proofs.Directory.Phases
import Tenancy.Proofs.Directory.Wire
import Tenancy.Proofs.Json.Fields
import Tenancy.Proofs.Printing.Lines

/-!
# Printed lists

The commands that list users print what is listed and nothing else. Whether the list can be trusted
line by line is up to the ids and the usernames that the services send (`lists_trusted_iff`).
-/

namespace Tenancy

open Directory Program

namespace Record

theorem isListed_of_joined {members : List Member} {reply : Except Fault Json} {rs : List Record}
    (h : (reply >>= fun v => (Account.listOfJson v).map (join members)) = .ok rs) {r : Record}
    (hr : r ∈ rs) : r.IsListed := by
  obtain ⟨v, -, hjoin⟩ := Json.bind_eq_ok_iff.mp h
  obtain ⟨accounts, -, rfl⟩ := Json.map_eq_ok_iff.mp hjoin
  exact ⟨members, accounts, hr⟩

theorem mem_of_firstRecord {username : String} {rs : List Record} {r : Record}
    (h : firstRecord username rs = .ok r) : r ∈ rs := by
  cases rs with
  | nil => cases h
  | cons first rest =>
    obtain rfl := Except.ok.inj h
    exact List.mem_cons_self

theorem isListed_of_finds {s : Session} {username : String} {es : Events} {r : Record}
    (h : Finds s username es (.ok r)) : r.IsListed := by
  generalize hresult : Except.ok r = result at h
  cases h with
  | blank => cases hresult
  | unresolved => cases hresult
  | asked =>
    rw [← bind_assoc] at hresult
    obtain ⟨rs, hjoin, hfirst⟩ := Json.bind_eq_ok_iff.mp hresult.symm
    exact isListed_of_joined hjoin (mem_of_firstRecord hfirst)

theorem isListed_of_gathers {s : Session} {path : String} {es : Events} {rs : List Record}
    (h : Gathers s path es (.ok rs)) {r : Record} (hr : r ∈ rs) : r.IsListed := by
  generalize hresult : Except.ok rs = result at h
  cases h with
  | unlisted => cases hresult
  | nobody =>
    obtain rfl := Except.ok.inj hresult
    cases hr
  | unresolved => cases hresult
  | asked => exact isListed_of_joined hresult.symm hr

end Record

namespace Command

variable {s : Session} {c : Command} {a : Action (List Record)}

/-- The records that a command is there to list. -/
def listing? (s : Session) : Command → Option (Action (List Record))
  | findUser username => some ((fun r => [r]) <$> find s username)
  | organizationUsers target role => some (organizationHoldersByName s target role)
  | spaceUsers target role => some (spaceHoldersByName s target role)
  | createUser .. | deleteUser _ | setOrganizationRole .. | unsetOrganizationRole ..
  | setSpaceRole .. | unsetSpaceRole .. => none

theorem exists_listing? (h : c.name ∈ ["find-user", "org-users", "space-users"]) (s : Session) :
    ∃ a, c.listing? s = some a := by
  cases c <;> first | exact ⟨_, rfl⟩ | exact absurd h (by simp [name])

theorem action_of_listing? (h : c.listing? s = some a) : c.action s = Report.users <$> a := by
  cases c <;> cases h
  case findUser username => simp [action, Functor.map_map]
  all_goals rfl

theorem isListed_of_runs {qs : Events} {rs : List Record} (h : c.listing? s = some a)
    (hrun : a.run.Runs qs (.ok rs)) {r : Record} (hr : r ∈ rs) : r.IsListed := by
  cases c <;> cases h
  case findUser username =>
    obtain ⟨found, hfind, rfl⟩ := (runs_run_map_ok_iff _).mp hrun
    obtain rfl := List.mem_singleton.mp hr
    exact Record.isListed_of_finds (finds_of_runs hfind)
  case organizationUsers target role =>
    obtain ⟨_, segment, _, -, -, hholders⟩ := (runs_run_bind_ok_iff _ _).mp hrun
    exact Record.isListed_of_gathers (gathers_of_runs hholders) hr
  case spaceUsers target role =>
    obtain ⟨_, segment, _, -, -, hholders⟩ := (runs_run_bind_ok_iff _ _).mp hrun
    exact Record.isListed_of_gathers (gathers_of_runs hholders) hr

end Command

namespace CommandLine

variable {limit : Nat} {env : Environment} {words : List String} {c : Command}

/-- An environment gives the session and says where the identity service is found. -/
def Opens (env : Environment) (s : Session) (source : Endpoint.Source) : Prop :=
  ∃ settings, Settings.load env = .ok settings ∧
    Session.open? settings.endpoint settings.token = .ok s ∧
    CommandLine.source settings = .ok source

def startNote (c : Command) (s : Session) : Note :=
  ⟨.info, "roster started", [("command", c.name), ("api_endpoint", s.endpoint)]⟩

def endNote : Note :=
  ⟨.info, "done", []⟩

/-- A command that ends well makes the calls of its action between two notes. -/
theorem exists_calling_of_runs_perform {es : List (Event Call Call.Reply)} {output : String}
    (h : (perform env c).run.Runs es (.ok output)) :
    ∃ s source calls, Opens env s source ∧
      es = .noted (startNote c s) :: calls ++ [.noted endNote] ∧
      ((c.action s).calling s source).run.Runs calls (.ok output) := by
  simp only [perform, Calling.say, runs_run_bind_ok_iff, runs_run_lift_iff, runs_run_say_iff] at h
  obtain ⟨_, settings, _, rfl, ⟨rfl, hload⟩, _, session, _, rfl, ⟨rfl, hsession⟩, _, source, _, rfl,
    ⟨rfl, hsource⟩, _, -, _, rfl, ⟨rfl, -⟩, h⟩ := h
  obtain ⟨calls, printed, _, rfl, hcalls, _, -, _, rfl, ⟨rfl, -⟩, hdone⟩ := h
  obtain ⟨rfl, ⟨⟩⟩ := runs_done_iff.mp hdone
  exact ⟨session, source, calls, ⟨settings, hload.symm, hsession.symm, hsource.symm⟩,
    by simp [startNote, endNote], hcalls⟩

theorem calling_map {α β : Type} (g : α → β) (a : Action α) (s : Session)
    (source : Endpoint.Source) : (g <$> a).calling s source = g <$> a.calling s source := by
  refine ExceptT.ext ?_
  rw [ExceptT.run_map, Action.calling, Action.calling, ExceptT.run_mk, ExceptT.run_mk,
    ExceptT.run_map, ← bind_pure_comp, through, runIn_bind, ← bind_pure_comp]
  rfl

/-- What a run that lists users has listed in between its notes, and printed. -/
structure Prints (limit : Nat) (env : Environment) (c : Command)
    (es : List (Event Http.Message fun _ => Http.Reply)) (output : String) (rs : List Record) :
    Prop where
  listed : ∃ s source a calls, Opens env s source ∧ c.listing? s = some a ∧
    (a.calling s source).run.Runs calls (.ok rs) ∧
    Event.Expands (fun q first reply => (Http.answer limit q).Runs first (some reply))
      (.noted (startNote c s) :: calls ++ [.noted endNote]) es
  all_listed : ∀ r ∈ rs, r.IsListed
  printed : output = Report.users rs

theorem exists_prints_of_runs {es : List (Event Http.Message fun _ => Http.Reply)} {o : Outcome}
    (hwords : parse words = .ok c) (hname : c.name ∈ ["find-user", "org-users", "space-users"])
    (h : (run limit env words).Runs es (some o)) (hexit : o.exit = 0) :
    ∃ rs, Prints limit env c es o.output rs := by
  rw [run, hwords] at h
  obtain ⟨result, hrun, hresult⟩ := runs_map_iff.mp h
  cases result with
  | none => cases hresult
  | some r =>
    obtain rfl := Option.some.inj hresult
    obtain ⟨qs, hqs, hexpands⟩ := expands_of_runs_throughSome hrun
    cases r with
    | error f => cases hexit
    | ok output =>
      obtain ⟨s, source, calls, hopens, rfl, hcalls⟩ := exists_calling_of_runs_perform hqs
      obtain ⟨a, ha⟩ := Command.exists_listing? hname s
      rw [Command.action_of_listing? ha, calling_map] at hcalls
      obtain ⟨rs, hrs, hprinted⟩ := (runs_run_map_ok_iff _).mp hcalls
      obtain ⟨questions, hquestions, -⟩ := expands_of_runs_through hrs
      exact ⟨rs, ⟨s, source, a, calls, hopens, ha, hrs, hexpands⟩,
        fun r => Command.isListed_of_runs ha hquestions, hprinted⟩

end CommandLine

namespace Report

open CommandLine in
/-- A run that lists users and ends well prints the records that it has listed. They can be trusted
line by line exactly if no id and no username goes over a line end and each line can be cut in one
way; there is one line for each exactly if none goes over a line end; and they are read back exactly
if all of them are tame. -/
theorem lists_trusted_iff {limit : Nat} {env : Environment} {words : List String} {c : Command}
    {es : List (Event Http.Message fun _ => Http.Reply)} {o : Outcome}
    (hwords : parse words = .ok c) (hname : c.name ∈ ["find-user", "org-users", "space-users"])
    (hrun : (run limit env words).Runs es (some o)) (hexit : o.exit = 0) :
    (∃ rs, Prints limit env c es o.output rs) ∧
    ∀ rs, Prints limit env c es o.output rs → rs ≠ [] →
      (IsTrusted o.output rs ↔ ∀ r ∈ rs, IsUnbroken r ∧ IsUnmistakable r) ∧
      ((linesOf o.output).length = rs.length ↔ ∀ r ∈ rs, IsUnbroken r) ∧
      ((linesOf o.output).map readLine =
          rs.map (fun r => some (r.id.text, r.shownName, r.isAdmin)) ↔
        ∀ r ∈ rs, IsTame r) := by
  refine ⟨exists_prints_of_runs hwords hname hrun hexit, fun rs hprints hne => ?_⟩
  rw [hprints.printed]
  exact ⟨isTrusted_iff hne hprints.all_listed, length_linesOf_users_iff hne, map_readLine_iff hne⟩

/-- An account that the identity service sends. -/
def sentAccount (username : String) : Json :=
  .object [("resources", .array [.object [("id", .string "u7"), ("userName", .string username)]])]

def firstUser (username : String) (isAdmin : Bool) : Record :=
  ⟨⟨"u7", by decide, by decide, by decide⟩, some username, isAdmin⟩

def otherUser (username : String) (isAdmin : Bool) : Record :=
  ⟨⟨"u9", by decide, by decide, by decide⟩, some username, isAdmin⟩

def annSettings : Environment :=
  [(Settings.endpointName, "http://api"), (Settings.tokenName, "t"),
    (Settings.identityName, "http://id")]

/-- A search that finds one account over the network. -/
def annSearch : List (Event Http.Message fun _ => Http.Reply) × Option CommandLine.Outcome :=
  (CommandLine.run 1 annSettings ["find-user", "ann"]).play fun _ =>
    .answer 200 ⟨Text.Utf8.encode (sentAccount "ann").text, true⟩

theorem lists_trusted_iff_ann :
    (∃ o r, annSearch.2 = some o ∧
      CommandLine.Prints 1 annSettings (.findUser "ann") annSearch.1 o.output [r] ∧
      (IsTrusted o.output [r] ↔ IsUnbroken r ∧ IsUnmistakable r)) ∧
      IsTrusted (users [firstUser "ann" false]) [firstUser "ann" false] := by
  constructor
  · have hexit : annSearch.2.map (·.exit) = some 0 := by decide +kernel
    obtain ⟨o, ho, hexit⟩ := Option.map_eq_some_iff.mp hexit
    have hrun : (CommandLine.run 1 annSettings ["find-user", "ann"]).Runs annSearch.1
        annSearch.2 := runs_play _ _
    rw [ho] at hrun
    obtain ⟨⟨rs, hprints⟩, htrusted⟩ :=
      lists_trusted_iff (c := .findUser "ann") rfl (by simp [Command.name]) hrun hexit
    -- A search lists one record.
    obtain ⟨s, source, a, calls, -, ha, hcalls, -⟩ := hprints.listed
    obtain rfl := Option.some.inj ha
    rw [CommandLine.calling_map] at hcalls
    obtain ⟨r, -, rfl⟩ := (runs_run_map_ok_iff _).mp hcalls
    exact ⟨o, r, ho, hprints, by simpa using (htrusted [r] hprints (by simp)).1⟩
  · have hlisted : ∀ r ∈ [firstUser "ann" false], r.IsListed := by
      simp [Record.isListed_iff, firstUser]
    refine (isTrusted_iff (by simp) hlisted).mpr fun r hr => ?_
    obtain rfl := List.mem_singleton.mp hr
    exact ⟨⟨by decide, by decide⟩,
      isUnmistakable_of_tabless rfl (by decide) (by decide) (by decide)⟩

/-- A username that ends with the mark makes a line that is an administrator's as well. One with a
line end in it makes two lines, of which the second is another administrator's. -/
theorem lines_mistaken :
    Account.listOfJson (sentAccount "ann\nu9\tbob (admin)") =
        .ok [⟨(firstUser "ann" false).id, "ann\nu9\tbob (admin)"⟩] ∧
      linesOf (users [firstUser "ann\nu9\tbob (admin)" false]) =
        [line (firstUser "ann" false), line (otherUser "bob" true)] ∧
      line (firstUser "ann (admin)" false) = line (firstUser "ann" true) ∧
      ¬ ∀ rs, rs ≠ [] → (∀ r ∈ rs, r.IsListed) → IsTrusted (users rs) rs := by
  refine ⟨by decide +kernel, by decide, by decide, fun hall => ?_⟩
  have htrusted := hall [firstUser "ann (admin)" false] (by simp) (by
    simp [Record.isListed_iff, firstUser])
  have heq := htrusted.told _ List.mem_cons_self (firstUser "ann" true)
    (Record.isListed_iff.mpr ⟨_, rfl⟩) (by decide)
  simp [firstUser] at heq

end Report

end Tenancy
