import Tenancy.Proofs.Directory.Operation
import Tenancy.Proofs.Expansion

/-!
# Phases of operations

How an operation goes: its phases one after the other, where it may end in each of them, and what
comes of it. Every run is one of these (`Operation.takes_of_runs`), whoever answers. Once it is
known how the address of the identity service is found, the calls are those of such a run and those
by which the address is found (`expands_of_runs_calling`).
-/

namespace Tenancy

theorem Phrase.of?_cases (s : String) :
    (Text.trim s = "" ∧ of? s = .error (.invalid "value must not be empty or whitespace")) ∨
      Text.trim s ≠ "" ∧ ∃ p, of? s = .ok p ∧ p.text = s := by
  unfold of?
  by_cases h : Text.trim s = ""
  · rw [dif_pos h]
    exact .inl ⟨h, rfl⟩
  · rw [dif_neg h]
    exact .inr ⟨h, _, rfl, rfl⟩

namespace Directory

open Program

/-- What happens while an operation is carried out. -/
abbrev Events := List (Event Question Question.Reply)

/-- A request has been performed. -/
@[reducible] def performed (service : Service) (r : Request) (reply : Except Fault Unit) :
    Event Question Question.Reply :=
  .asked (.call ⟨service, .perform r⟩) reply

/-- A request has been performed for the document that answers it. -/
@[reducible] def performedJson (service : Service) (r : Request) (reply : Except Fault Json) :
    Event Question Question.Reply :=
  .asked (.call ⟨service, .performJson r⟩) reply

/-- What comes of a request: it is invalid, or it is made once and its reply counts. -/
inductive Requests {β : Type} (event : Request → Except Fault β → Event Question Question.Reply)
    (method : Method) (url token : String) (body : Option Json) :
    Events → Except Fault β → Prop where
  | relative (h : ¬ IsAbsolute url) :
      Requests event method url token body []
        (.error (.invalid s!"request url '{url}' must be absolute"))
  | made (h : IsAbsolute url) (reply : Except Fault β) :
      Requests event method url token body [event ⟨method, url, token, body, h⟩ reply] reply

section Steps

variable {α : Type} {es : Events}

theorem runs_say_iff {n : Note} {r : Except Fault Unit} :
    (Action.say n).run.Runs es r ↔ es = [.noted n] ∧ r = .ok () :=
  runs_run_say_iff

theorem runs_endpoint_iff {r : Except Fault String} :
    Action.endpoint.run.Runs es r ↔ es = [.asked .endpoint r] := by
  rw [Action.run_endpoint, runs_ask_iff]
  constructor
  · rintro ⟨reply, rest, rfl, hrest⟩
    obtain ⟨rfl, rfl⟩ := runs_done_iff.mp hrest
    rfl
  · rintro rfl
    exact ⟨r, [], rfl, .refl _⟩

theorem runs_lift_iff {e r : Except Fault α} :
    (liftM e : Action α).run.Runs es r ↔ es = [] ∧ e = r :=
  runs_run_lift_iff.trans (and_congr_right fun _ => eq_comm)

theorem runs_noting_ok_iff {a : Action α} {n : Fault → Note} {x : α} :
    (a.noting n).run.Runs es (.ok x) ↔ a.run.Runs es (.ok x) := by
  rw [Action.run_noting, runs_bind_iff]
  constructor
  · rintro ⟨first, f | y, rest, rfl, ha, hrest⟩
    · obtain ⟨_, rfl, hdone⟩ := runs_note_iff.mp hrest
      cases (runs_done_iff.mp hdone).2
    · obtain ⟨rfl, ⟨⟩⟩ := runs_done_iff.mp hrest
      simpa using ha
  · intro ha
    exact ⟨es, .ok x, [], by simp, ha, .refl _⟩

/-- A fault is noted after everything else. -/
theorem runs_noting_error_iff {a : Action α} {n : Fault → Note} {f : Fault} :
    (a.noting n).run.Runs es (.error f) ↔
      ∃ first, es = first ++ [.noted (n f)] ∧ a.run.Runs first (.error f) := by
  rw [Action.run_noting, runs_bind_iff]
  constructor
  · rintro ⟨first, f' | y, rest, rfl, ha, hrest⟩
    · obtain ⟨_, rfl, hdone⟩ := runs_note_iff.mp hrest
      obtain ⟨rfl, ⟨⟩⟩ := runs_done_iff.mp hdone
      exact ⟨first, rfl, ha⟩
    · cases (runs_done_iff.mp hrest).2
  · rintro ⟨first, rfl, ha⟩
    exact ⟨first, .error f, [.noted (n f)], rfl, ha, .note (.refl _)⟩

variable {service : Service} {method : Method} {url token : String} {body : Option Json}

theorem requests_of_runs_perform {r : Except Fault Unit}
    (h : (Action.perform service method url token body).run.Runs es r) :
    Requests (performed service) method url token body es r := by
  rw [Action.run_perform] at h
  by_cases hurl : IsAbsolute url
  · simp only [Request.of?, hurl, dite_true] at h
    obtain ⟨reply, rest, rfl, hrest⟩ := runs_ask_iff.mp h
    obtain ⟨rfl, rfl⟩ := runs_done_iff.mp hrest
    exact .made hurl r
  · simp only [Request.of?, hurl, dite_false] at h
    obtain ⟨rfl, rfl⟩ := runs_done_iff.mp h
    exact .relative hurl

theorem requests_of_runs_performJson {r : Except Fault Json}
    (h : (Action.performJson service method url token body).run.Runs es r) :
    Requests (performedJson service) method url token body es r := by
  rw [Action.run_performJson] at h
  by_cases hurl : IsAbsolute url
  · simp only [Request.of?, hurl, dite_true] at h
    obtain ⟨reply, rest, rfl, hrest⟩ := runs_ask_iff.mp h
    obtain ⟨rfl, rfl⟩ := runs_done_iff.mp hrest
    exact .made hurl r
  · simp only [Request.of?, hurl, dite_false] at h
    obtain ⟨rfl, rfl⟩ := runs_done_iff.mp h
    exact .relative hurl

/-- One query is made, and its answer decides. -/
theorem runs_records_iff {s : Session} {members : List Member} {r : Except Fault (List Record)} :
    (records s members url).run.Runs es r ↔
      ∃ reply : Except Fault Json, es = [.asked (accountsAt s url) reply] ∧
        r = reply >>= fun v => (Account.listOfJson v).map (Record.join members) := by
  rw [run_records, runs_ask_iff]
  constructor
  · rintro ⟨f | v, rest, rfl, hrest⟩
    · obtain ⟨rfl, rfl⟩ := runs_done_iff.mp hrest
      exact ⟨.error f, rfl, rfl⟩
    · obtain ⟨rfl, rfl⟩ := runs_done_iff.mp hrest
      exact ⟨.ok v, rfl, rfl⟩
  · rintro ⟨f | v, rfl, rfl⟩
    · exact ⟨.error f, [], rfl, .refl _⟩
    · exact ⟨.ok v, [], rfl, .refl _⟩

end Steps

/-- The first of some records, if there is one. -/
def firstRecord (username : String) : List Record → Except Fault Record
  | r :: _ => .ok r
  | [] => .error (.absent s!"user {username} not found")

/-- How the search for a username goes. -/
inductive Finds (s : Session) (username : String) : Events → Except Fault Record → Prop where
  | blank (h : Text.trim username = "") :
      Finds s username [] (.error (.invalid "value must not be empty or whitespace"))
  | unresolved {f : Fault} (named : Text.trim username ≠ "") :
      Finds s username [.asked .endpoint (.error f)] (.error f)
  | asked {endpoint : String} {reply : Except Fault Json} (named : Text.trim username ≠ "") :
      Finds s username
        [.asked .endpoint (.ok endpoint),
          .asked (accountsAt s ((Filter.username username).url endpoint)) reply]
        (reply >>= fun v => (Account.listOfJson v).map (Record.join []) >>= firstRecord username)

/-- How a look-up of the holders in a collection goes. -/
inductive Gathers (s : Session) (path : String) : Events → Except Fault (List Record) → Prop where
  | unlisted {l : Listing} {f : Fault} (listed : l.entries Member.ofJson = .error f) :
      Gathers s path [.asked (membersIn s path) l] (.error f)
  | nobody {l : Listing} (listed : l.entries Member.ofJson = .ok []) :
      Gathers s path
        [.asked (membersIn s path) l,
          .noted ⟨.debug, "role collection has no members", [("path", path)]⟩]
        (.ok [])
  | unresolved {l : Listing} {members : List Member} {f : Fault}
      (listed : l.entries Member.ofJson = .ok members) (somebody : members ≠ []) :
      Gathers s path [.asked (membersIn s path) l, .asked .endpoint (.error f)] (.error f)
  | asked {l : Listing} {members : List Member} {endpoint : String} {reply : Except Fault Json}
      (listed : l.entries Member.ofJson = .ok members) (somebody : members ≠ []) :
      Gathers s path
        [.asked (membersIn s path) l, .asked .endpoint (.ok endpoint),
          .noted ⟨.debug, "resolving usernames for role members",
            [("path", path), ("member_count", toString members.length)]⟩,
          .asked (accountsAt s ((Filter.ofIds (members.map (·.id))).url endpoint)) reply]
        (reply >>= fun v => (Account.listOfJson v).map (Record.join members))

/-- How the creation of a user goes. -/
inductive Creates (s : Session) (username password : String) :
    Events → Except Fault UserId → Prop where
  | blank (h : Text.trim username = "") :
      Creates s username password [] (.error (.invalid "value must not be empty or whitespace"))
  | unprotected (h : password = "") :
      Creates s username password [] (.error (.invalid "password must not be empty"))
  | unresolved {f : Fault} (named : Text.trim username ≠ "") (secret : password ≠ "") :
      Creates s username password [.asked .endpoint (.error f)] (.error f)
  | unopened {endpoint : String} {es : Events} {f : Fault} (named : Text.trim username ≠ "")
      (secret : password ≠ "")
      (opening : Requests (performedJson .identity) .post (accountsUrl endpoint) s.token
        (some (Account.creation username password)) es (.error f)) :
      Creates s username password (.asked .endpoint (.ok endpoint) :: es) (.error f)
  | unread {endpoint : String} {es : Events} {document : Json} {f : Fault}
      (named : Text.trim username ≠ "") (secret : password ≠ "")
      (opening : Requests (performedJson .identity) .post (accountsUrl endpoint) s.token
        (some (Account.creation username password)) es (.ok document))
      (created : Account.createdId username document = .error f) :
      Creates s username password
        (.asked .endpoint (.ok endpoint) :: es ++
          [.noted ⟨.warn, "identity account may exist but its id could not be read",
            [("username", username), ("error", f.message)]⟩])
        (.error f)
  | unlinked {endpoint : String} {es es' : Events} {document : Json} {id : UserId} {f : Fault}
      (named : Text.trim username ≠ "") (secret : password ≠ "")
      (opening : Requests (performedJson .identity) .post (accountsUrl endpoint) s.token
        (some (Account.creation username password)) es (.ok document))
      (created : Account.createdId username document = .ok id)
      (linking : Requests (performed .platform) .post (usersUrl s) s.token
        (some (Member.creation id)) es' (.error f)) :
      Creates s username password
        (.asked .endpoint (.ok endpoint) :: es ++ es' ++
          [.noted ⟨.warn, "platform user creation failed; identity account was left in place",
            [("user_id", id.text), ("username", username), ("error", f.message)]⟩])
        (.error f)
  | linked {endpoint : String} {es es' : Events} {document : Json} {id : UserId}
      (named : Text.trim username ≠ "") (secret : password ≠ "")
      (opening : Requests (performedJson .identity) .post (accountsUrl endpoint) s.token
        (some (Account.creation username password)) es (.ok document))
      (created : Account.createdId username document = .ok id)
      (linking : Requests (performed .platform) .post (usersUrl s) s.token
        (some (Member.creation id)) es' (.ok ())) :
      Creates s username password
        (.asked .endpoint (.ok endpoint) :: es ++ es' ++
          [.noted ⟨.info, "user created", [("user_id", id.text), ("username", username)]⟩])
        (.ok id)

/-- What is left of a deletion once the platform user is gone. -/
def closing (s : Session) (id : UserId) : Action Unit := do
  let endpoint ← Action.endpoint.noting fun f =>
    ⟨.warn, "identity endpoint unavailable after platform user was removed",
      [("user_id", id.text), ("error", f.message)]⟩
  Action.noting
    (Action.perform .identity .delete (accountUrl endpoint id) s.token none) fun f =>
      ⟨.warn, "identity account deletion failed after platform user was removed",
        [("user_id", id.text), ("error", f.message)]⟩
  Action.say ⟨.info, "user deleted", [("user_id", id.text)]⟩

theorem delete_eq (s : Session) (id : UserId) :
    delete s id = deleteMember s id >>= fun _ => closing s id := rfl

/-- How a deletion goes once the platform user is gone. -/
inductive Closes (s : Session) (id : UserId) : Events → Except Fault Unit → Prop where
  | unresolved {f : Fault} :
      Closes s id
        [.asked .endpoint (.error f),
          .noted ⟨.warn, "identity endpoint unavailable after platform user was removed",
            [("user_id", id.text), ("error", f.message)]⟩]
        (.error f)
  | unclosed {endpoint : String} {es : Events} {f : Fault}
      (closing : Requests (performed .identity) .delete (accountUrl endpoint id) s.token none es
        (.error f)) :
      Closes s id
        (.asked .endpoint (.ok endpoint) :: es ++
          [.noted ⟨.warn, "identity account deletion failed after platform user was removed",
            [("user_id", id.text), ("error", f.message)]⟩])
        (.error f)
  | closed {endpoint : String} {es : Events}
      (closing : Requests (performed .identity) .delete (accountUrl endpoint id) s.token none es
        (.ok ())) :
      Closes s id
        (.asked .endpoint (.ok endpoint) :: es ++
          [.noted ⟨.info, "user deleted", [("user_id", id.text)]⟩])
        (.ok ())

/-- How the deletion of a user goes. -/
inductive Deletes (s : Session) (id : UserId) : Events → Except Fault Unit → Prop where
  | kept {es : Events} {f : Fault}
      (removal : Requests (performed .platform) .delete (userUrl s id) s.token none es (.error f))
      (known : ¬ f.RefusedWith unknownUserCode) : Deletes s id es (.error f)
  | removed {es es' : Events} {r : Except Fault Unit}
      (removal : Requests (performed .platform) .delete (userUrl s id) s.token none es (.ok ()))
      (further : Closes s id es' r) : Deletes s id (es ++ es') r
  | missing {es es' : Events} {f : Fault} {r : Except Fault Unit}
      (removal : Requests (performed .platform) .delete (userUrl s id) s.token none es (.error f))
      (unknown : f.RefusedWith unknownUserCode) (further : Closes s id es' r) :
      Deletes s id
        (es ++ .noted ⟨.warn, "platform user already absent; deleting identity account",
          [("user_id", id.text)]⟩ :: es')
        r

/-- How a series of edits goes. -/
inductive Edits (s : Session) (report : Note) : List Edit → Events → Except Fault Unit → Prop where
  | finished : Edits s report [] [.noted report] (.ok ())
  | stopped {e : Edit} {rest : List Edit} {es : Events} {f : Fault}
      (edit : Requests (performed .platform) e.method (grantUrl s e.grant) s.token none es
        (.error f)) :
      Edits s report (e :: rest) es (.error f)
  | made {e : Edit} {rest : List Edit} {es es' : Events} {r : Except Fault Unit}
      (edit : Requests (performed .platform) e.method (grantUrl s e.grant) s.token none es (.ok ()))
      (further : Edits s report rest es' r) : Edits s report (e :: rest) (es ++ es') r

section Runs

variable {s : Session} {es : Events}

theorem finds_of_runs {username : String} {r : Except Fault Record}
    (h : (find s username).run.Runs es r) : Finds s username es r := by
  rw [find, run_bind, run_lift] at h
  rcases Phrase.of?_cases username with ⟨hblank, hname⟩ | ⟨hnamed, name, hname, rfl⟩
  · rw [hname] at h
    obtain ⟨rfl, rfl⟩ := runs_done_iff.mp h
    exact .blank hblank
  · rw [hname, done_bind] at h
    rcases (runs_run_bind_iff _ _).mp h with ⟨f, hf, rfl⟩ | ⟨_, endpoint, rest, rfl, hok, hlook⟩
    · obtain rfl := runs_endpoint_iff.mp hf
      exact .unresolved hnamed
    · obtain rfl := runs_endpoint_iff.mp hok
      rw [bind_congr (g := fun found => liftM (firstRecord name.text found))
        fun found => by cases found <;> rfl] at hlook
      obtain ⟨y, hrecords, rfl⟩ := runs_run_bind_lift_iff.mp hlook
      obtain ⟨reply, rfl, rfl⟩ := runs_records_iff.mp hrecords
      rw [bind_assoc]
      exact .asked hnamed

theorem gathers_of_runs {path : String} {r : Except Fault (List Record)}
    (h : (holders s path).run.Runs es r) : Gathers s path es r := by
  rw [run_holders] at h
  obtain ⟨l, rest, rfl, hlisted⟩ := runs_ask_iff.mp h
  cases hl : l.entries Member.ofJson with
  | error f =>
    rw [hl] at hlisted
    obtain ⟨rfl, rfl⟩ := runs_done_iff.mp hlisted
    exact .unlisted hl
  | ok members =>
    rw [hl] at hlisted
    cases members with
    | nil =>
      obtain ⟨_, rfl, hdone⟩ := runs_note_iff.mp hlisted
      obtain ⟨rfl, rfl⟩ := runs_done_iff.mp hdone
      exact .nobody hl
    | cons m more =>
      obtain ⟨f | endpoint, _, rfl, hnoted⟩ := runs_ask_iff.mp hlisted
      · obtain ⟨rfl, rfl⟩ := runs_done_iff.mp hnoted
        exact .unresolved hl (List.cons_ne_nil m more)
      · obtain ⟨_, rfl, hrecords⟩ := runs_note_iff.mp hnoted
        obtain ⟨reply, rfl, rfl⟩ := runs_records_iff.mp hrecords
        exact .asked hl (List.cons_ne_nil m more)

theorem creates_of_runs {username password : String} {r : Except Fault UserId}
    (h : (create s username password).run.Runs es r) : Creates s username password es r := by
  rw [create, run_bind, run_lift] at h
  rcases Phrase.of?_cases username with ⟨hblank, hname⟩ | ⟨hnamed, name, hname, rfl⟩
  · rw [hname] at h
    obtain ⟨rfl, rfl⟩ := runs_done_iff.mp h
    exact .blank hblank
  rw [hname, done_bind] at h
  by_cases hp : password = ""
  · simp only [hp, if_true] at h
    obtain ⟨rfl, rfl⟩ := runs_done_iff.mp h
    exact .unprotected hp
  simp only [hp, if_false] at h
  -- the address
  rcases (runs_run_bind_iff _ _).mp h with ⟨f, hf, rfl⟩ | ⟨_, endpoint, es, rfl, hok, hopen⟩
  · obtain rfl := runs_endpoint_iff.mp hf
    exact .unresolved hnamed hp
  obtain rfl := runs_endpoint_iff.mp hok
  -- the account
  rcases (runs_run_bind_iff _ _).mp hopen with ⟨f, hf, rfl⟩ | ⟨_, document, es, rfl, hok, hread⟩
  · exact .unopened hnamed hp (requests_of_runs_performJson hf)
  have hopening := requests_of_runs_performJson hok
  -- its id
  rcases (runs_run_bind_iff _ _).mp hread with ⟨f, hf, rfl⟩ | ⟨_, id, es, rfl, hok, hlink⟩
  · obtain ⟨_, rfl, hlift⟩ := runs_noting_error_iff.mp hf
    obtain ⟨rfl, hcreated⟩ := runs_lift_iff.mp hlift
    exact .unread hnamed hp hopening hcreated
  obtain ⟨rfl, hcreated⟩ := runs_lift_iff.mp (runs_noting_ok_iff.mp hok)
  -- the platform user
  rcases (runs_run_bind_iff _ _).mp hlink with ⟨f, hf, rfl⟩ | ⟨_, _, es, rfl, hok, hreport⟩
  · obtain ⟨_, rfl, hlinking⟩ := runs_noting_error_iff.mp hf
    have := Creates.unlinked hnamed hp hopening hcreated (requests_of_runs_perform hlinking)
    simpa using this
  have hlinking := requests_of_runs_perform (runs_noting_ok_iff.mp hok)
  obtain ⟨_, rfl, hdone⟩ := runs_note_iff.mp hreport
  obtain ⟨rfl, rfl⟩ := runs_done_iff.mp hdone
  have := Creates.linked hnamed hp hopening hcreated hlinking
  simpa using this

theorem closes_of_runs {id : UserId} {r : Except Fault Unit}
    (h : (closing s id).run.Runs es r) : Closes s id es r := by
  rcases (runs_run_bind_iff _ _).mp h with ⟨f, hf, rfl⟩ | ⟨_, endpoint, es, rfl, hok, hclose⟩
  · obtain ⟨_, rfl, hunresolved⟩ := runs_noting_error_iff.mp hf
    obtain rfl := runs_endpoint_iff.mp hunresolved
    exact .unresolved
  obtain rfl := runs_endpoint_iff.mp (runs_noting_ok_iff.mp hok)
  rcases (runs_run_bind_iff _ _).mp hclose with ⟨f, hf, rfl⟩ | ⟨_, _, es, rfl, hok, hreport⟩
  · obtain ⟨_, rfl, hunclosed⟩ := runs_noting_error_iff.mp hf
    exact .unclosed (requests_of_runs_perform hunclosed)
  obtain ⟨rfl, rfl⟩ := runs_say_iff.mp hreport
  exact .closed (requests_of_runs_perform (runs_noting_ok_iff.mp hok))

theorem deletes_of_runs {id : UserId} {r : Except Fault Unit}
    (h : (delete s id).run.Runs es r) : Deletes s id es r := by
  rw [delete_eq, run_bind, run_deleteMember, bind_assoc] at h
  obtain ⟨first, removal, rest, rfl, hremoval, hrest⟩ := runs_bind_iff.mp h
  have hremoval := requests_of_runs_perform hremoval
  rcases removal with f | _
  · by_cases hf : f.RefusedWith unknownUserCode
    · simp only [afterRemoval, hf, if_true] at hrest
      obtain ⟨rest, rfl, hclose⟩ := runs_note_iff.mp hrest
      exact .missing hremoval hf (closes_of_runs hclose)
    · simp only [afterRemoval, hf, if_false] at hrest
      obtain ⟨rfl, rfl⟩ := runs_done_iff.mp hrest
      simpa using Deletes.kept hremoval hf
  · exact .removed hremoval (closes_of_runs hrest)

theorem edits_of_runs {report : Note} {edits : List Edit} {r : Except Fault Unit}
    (h : (editing s report edits).run.Runs es r) : Edits s report edits es r := by
  induction edits generalizing es with
  | nil =>
    obtain ⟨rfl, rfl⟩ := runs_say_iff.mp h
    exact .finished
  | cons e rest ih =>
    rcases (runs_run_bind_iff _ _).mp h with ⟨f, hf, rfl⟩ | ⟨_, _, es, rfl, hok, hfurther⟩
    · exact .stopped (requests_of_runs_perform hf)
    · exact .made (requests_of_runs_perform hok) (ih hfurther)

end Runs

theorem HolderQuery.action_eq (s : Session) (q : HolderQuery) :
    q.action s = (liftM q.collection >>= holders s : Action (List Record)) := by
  cases q with
  | organization target role | space target role => rfl
  | organizationByName target role =>
    simp only [action, collection, organizationHoldersByName, namedHolders, Scope.roleSegment]
    cases OrganizationRole.ofName? role <;> rfl
  | spaceByName target role =>
    simp only [action, collection, spaceHoldersByName, namedHolders, Scope.roleSegment]
    cases SpaceRole.ofName? role <;> rfl

namespace Operation

/-- How an operation goes. -/
def Takes (s : Session) : (o : Operation) → Events → Except Fault o.Result → Prop
  | find username, es, r => Finds s username es r
  | holders q, es, r =>
    match q.collection with
    | .ok path => Gathers s path es r
    | .error f => es = [] ∧ r = .error f
  | create username password, es, r => Creates s username password es r
  | delete id, es, r => Deletes s id es r
  | change c, es, r => Edits s c.report c.edits es r
  | changeByName n, es, r =>
    match n.roleChange with
    | .ok c => Edits s c.report c.edits es r
    | .error f => es = [] ∧ r = .error f

/-- A look-up of holders ends at the name of its role, or it looks into a collection. -/
theorem Takes.holders_cases {s : Session} {q : HolderQuery} {es : Events}
    {r : Except Fault (List Record)} (h : (holders q).Takes s es r) :
    (∃ path, q.collection = .ok path ∧ Gathers s path es r) ∨
      ∃ f, q.collection = .error f ∧ es = [] ∧ r = .error f := by
  rw [Takes] at h
  cases hpath : q.collection with
  | ok path =>
    rw [hpath] at h
    exact .inl ⟨path, rfl, h⟩
  | error f =>
    rw [hpath] at h
    exact .inr ⟨f, rfl, h⟩

/-- A change by name ends at the name of its role, or it goes as the change that is meant. -/
theorem Takes.changeByName_cases {s : Session} {n : NamedRoleChange} {es : Events}
    {r : Except Fault Unit} (h : (changeByName n).Takes s es r) :
    (∃ c : RoleChange, n.roleChange = .ok c ∧ Edits s c.report c.edits es r) ∨
      ∃ f, n.roleChange = .error f ∧ es = [] ∧ r = .error f := by
  rw [Takes] at h
  cases hc : n.roleChange with
  | ok c =>
    rw [hc] at h
    exact .inl ⟨c, rfl, h⟩
  | error f =>
    rw [hc] at h
    exact .inr ⟨f, rfl, h⟩

theorem takes_of_runs {s : Session} {o : Operation} {es : Events} {r : Except Fault o.Result}
    (h : (o.action s).run.Runs es r) : o.Takes s es r := by
  cases o with
  | find username => exact finds_of_runs h
  | holders q =>
    simp only [action, HolderQuery.action_eq, run_bind, run_lift, done_bind] at h
    rw [Takes]
    cases hpath : q.collection with
    | ok path => exact gathers_of_runs (by simpa only [hpath] using h)
    | error f => exact runs_done_iff.mp (by simpa only [hpath] using h)
  | create username password => exact creates_of_runs h
  | delete id => exact deletes_of_runs h
  | change c =>
    simp only [action, RoleChange.action_eq_editing] at h
    exact edits_of_runs h
  | changeByName n =>
    simp only [action, NamedRoleChange.action_eq, run_bind, run_lift, done_bind] at h
    rw [Takes]
    cases hc : n.roleChange with
    | ok c =>
      simp only [hc, RoleChange.action_eq_editing] at h
      exact edits_of_runs h
    | error f => exact runs_done_iff.mp (by simpa only [hc] using h)

end Operation

/-- The call by which the platform is asked for its information document. -/
@[reducible] def infoCall (s : Session) : Call :=
  ⟨.platform, .get (Endpoint.infoUrl s) s.token⟩

/-- How the address of the identity service is found. -/
inductive Resolves (s : Session) :
    Endpoint.Source → List (Event Call Call.Reply) → Except Fault String → Prop where
  | fixed {answer : Except Fault String} : Resolves s (.fixed answer) [] answer
  | unanswered {f : Fault} : Resolves s .discovered [.asked (infoCall s) (.error f)] (.error f)
  | unadvertised {document : Json} {f : Fault} (h : Endpoint.ofInfo document = .error f) :
      Resolves s .discovered [.asked (infoCall s) (.ok document)] (.error f)
  | discovered {document : Json} {address : String} (h : Endpoint.ofInfo document = .ok address) :
      Resolves s .discovered
        [.asked (infoCall s) (.ok document),
          .noted ⟨.debug, "discovered identity endpoint", [("identity_endpoint", address)]⟩]
        (.ok address)

/-- How questions are answered once it is known how the address is found. -/
def Answers (s : Session) (source : Endpoint.Source) :
    (q : Question) → List (Event Call Call.Reply) → q.Reply → Prop
  | .call c, es, reply => es = [.asked c reply]
  | .endpoint, es, reply => Resolves s source es reply

section Calling

variable {s : Session} {source : Endpoint.Source} {es : List (Event Call Call.Reply)}

theorem resolves_of_runs {r : Except Fault String} (h : (source.resolve s).run.Runs es r) :
    Resolves s source es r := by
  cases source with
  | fixed answer =>
    obtain ⟨rfl, rfl⟩ := runs_done_iff.mp h
    exact .fixed
  | discovered =>
    rw [Endpoint.Source.resolve, Endpoint.run_discover] at h
    obtain ⟨f | document, rest, rfl, hrest⟩ := runs_ask_iff.mp h
    · obtain ⟨rfl, rfl⟩ := runs_done_iff.mp hrest
      exact .unanswered
    · cases hinfo : Endpoint.ofInfo document with
      | error f =>
        simp only [hinfo] at hrest
        obtain ⟨rfl, rfl⟩ := runs_done_iff.mp hrest
        exact .unadvertised hinfo
      | ok address =>
        simp only [hinfo] at hrest
        obtain ⟨_, rfl, hdone⟩ := runs_note_iff.mp hrest
        obtain ⟨rfl, rfl⟩ := runs_done_iff.mp hdone
        exact .discovered hinfo

theorem expands_of_runs_calling {α : Type} {a : Action α} {r : Except Fault α}
    (h : (a.calling s source).run.Runs es r) :
    ∃ qs, a.run.Runs qs r ∧ Event.Expands (Answers s source) qs es := by
  obtain ⟨qs, hruns, hexpands⟩ := expands_of_runs_through h
  refine ⟨qs, hruns, hexpands.mono ?_⟩
  rintro (c | _) first reply hfirst
  · obtain ⟨_, _, rfl, hdone⟩ := runs_ask_iff.mp hfirst
    obtain ⟨rfl, rfl⟩ := runs_done_iff.mp hdone
    rfl
  · exact resolves_of_runs hfirst

end Calling

end Directory

end Tenancy
