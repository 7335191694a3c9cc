import Tenancy.Proofs.Directory.Creation
import Tenancy.Proofs.Directory.Removal
import Tenancy.Proofs.Json.Written

/-!
# Credentials on their way

The username and the password of a new account are sent in one body, from which both can be read
back whatever they hold, and nothing else (`credentials_come_through`).
-/

namespace Tenancy

open Program

/-- A body that tells of an account: it is a JSON text, and read as any answer is, it is the account
of a username and a password and nothing else. -/
structure TellsCredentials (text username password : String) : Prop where
  isText : Json.IsText (Text.Utf8.encode text)
  read : ∀ label url, Http.Body.value label url ⟨Text.Utf8.encode text, true⟩ = .ok (.object [
    ("emails", .array [.object [("value", .string username)]]),
    ("name", .object [("familyName", .string username), ("givenName", .string username)]),
    ("password", .string password),
    ("userName", .string username)])

/-- What is read is read in one way only. -/
theorem TellsCredentials.unique {text username password username' password' : String}
    (h : TellsCredentials text username password) (h' : TellsCredentials text username' password') :
    username = username' ∧ password = password' := by
  have hread := h.read "" ""
  rw [h'.read] at hread
  simp only [Except.ok.injEq, Json.object.injEq, List.cons.injEq, Prod.mk.injEq,
    Json.string.injEq] at hread
  exact ⟨hread.2.2.2.1.2.symm, hread.2.2.1.2.symm⟩

namespace Account

theorem isPlain_creation (username password : String) (depth : Nat) :
    (creation username password).IsPlain (depth + 3) := by
  have hvalue : Json.IsPlain (depth + 1) (.object [("value", .string username)]) :=
    .object (List.pairwise_singleton _ _) (by simpa using .string username)
  have hnames : Json.IsPlain (depth + 2) (.object [("familyName", .string username),
      ("givenName", .string username)]) := by
    refine .object (List.pairwise_map (f := Prod.fst) |>.mp ?_) ?_
    · change ["familyName", "givenName"].Pairwise (· < ·)
      decide
    · simpa using Json.IsPlain.string username
  rw [creation_eq]
  refine .object (List.pairwise_map (f := Prod.fst) |>.mp ?_) ?_
  · change ["emails", "name", "password", "userName"].Pairwise (· < ·)
    decide
  · simp only [List.forall_mem_cons]
    exact ⟨.array (by simpa using hvalue), hnames, .string password, .string username, nofun⟩

theorem tells_creation (username password : String) :
    TellsCredentials (creation username password).text username password := by
  obtain ⟨isText, hread⟩ := Json.read_text (isPlain_creation username password 124)
  have hsaid : (Text.Utf8.encode (creation username password).text).all Http.isSpace = false := by
    rw [Json.encode_text, creation_eq]
    rfl
  refine ⟨isText, fun label url => ?_⟩
  rw [← creation_eq, Http.Body.value_eq_ok_iff, Http.Body.Says, hsaid, if_neg Bool.false_ne_true]
  refine ⟨rfl, ?_⟩
  dsimp only
  exact hread

end Account

namespace Directory

/-- An account can be asked for at an address. -/
structure Creatable (s : Session) (endpoint : String) : Prop where
  absolute : IsAbsolute (accountsUrl endpoint)
  sendable : Http.CanSend ⟨.post, accountsUrl endpoint, Http.bearer s.token, none⟩

/-- How the credentials of a new account are sent. Without a username or a password nothing is;
otherwise the first message to the address that is found tells of the account. -/
structure SendsCredentials (s : Session) (source : Endpoint.Source) (limit : Nat)
    (username password : String) (es : List (Event Http.Message fun _ => Http.Reply)) : Prop where
  refused : Text.trim username = "" ∨ password = "" → es = []
  sent : Text.trim username ≠ "" → password ≠ "" →
    ∃ front back found, es = front ++ back ∧
      (Http.exchanges limit (source.resolve s)).Runs front (some found) ∧
      ∀ endpoint, found = .ok endpoint → Creatable s endpoint →
        ∃ text reply later, Event.questions back =
            ⟨⟨.post, endpoint ++ "/Users", Http.bearer s.token, some text⟩, reply⟩ :: later ∧
          TellsCredentials text username password

section Sending

variable {s : Session} {source : Endpoint.Source} {limit : Nat} {username password : String}
  {qs : Events} {es : List (Event Http.Message fun _ => Http.Reply)}

theorem asks_create (s : Session) (username password : String) :
    (create s username password).run.Asks Question.Unlisted := by
  have hperform : ∀ url body, (Action.perform .platform .post url s.token body).run.Asks
      Question.Unlisted := by
    intro url body
    apply (Action.asks_perform .platform .post url s.token body).mono
    rintro _ ⟨r, rfl, -⟩
    exact fun _ _ _ _ => nofun
  have hperformJson : ∀ url body, (Action.performJson .identity .post url s.token body).run.Asks
      Question.Unlisted := by
    intro url body
    rw [Action.run_performJson]
    cases Request.of? .post url s.token body with
    | error f => trivial
    | ok r => exact ⟨fun _ _ _ _ => nofun, fun _ => trivial⟩
  apply Asks.then (asks_lift _)
  intro name
  by_cases hp : password = ""
  · simp only [hp, if_true]
    trivial
  · simp only [hp, if_false]
    have hendpoint : Action.endpoint.run.Asks Question.Unlisted := ⟨trivial, fun _ => trivial⟩
    apply Asks.then hendpoint
    intro endpoint
    apply Asks.then (hperformJson _ _)
    intro document
    apply Asks.then (asks_noting (asks_lift _) _)
    intro id
    apply Asks.then (asks_noting (hperform _ _) _)
    intro _
    apply Asks.then (asks_say _)
    intro _
    exact asks_pure id

/-- A creation that gets as far as that asks for the account first. -/
theorem Creates.exists_opening {r : Except Fault UserId} (h : Creates s username password qs r)
    (named : Text.trim username ≠ "") (secret : password ≠ "") :
    (∃ f, qs = [.asked .endpoint (.error f)]) ∨
      ∃ endpoint asking more x, qs = .asked .endpoint (.ok endpoint) :: (asking ++ more) ∧
        Requests (performedJson .identity) .post (accountsUrl endpoint) s.token
          (some (Account.creation username password)) asking x := by
  cases h with
  | blank hblank => exact absurd hblank named
  | unprotected hempty => exact absurd hempty secret
  | unresolved => exact .inl ⟨_, rfl⟩
  | unopened _ _ opening => exact .inr ⟨_, _, [], _, by simp, opening⟩
  | unread _ _ opening => exact .inr ⟨_, _, _, _, rfl, opening⟩
  | unlinked _ _ opening | linked _ _ opening =>
    exact .inr ⟨_, _, _, _, congrArg (List.cons _) (List.append_assoc _ _ _), opening⟩

/-- The account is asked for in the first message. -/
theorem Requests.first_of_expands {endpoint : String} {body : Json} {more : Events}
    {x : Except Fault Json}
    (h : Requests (performedJson .identity) .post (accountsUrl endpoint) s.token (some body) qs x)
    (hurl : Creatable s endpoint)
    (hexpands : Event.Expands (Exchanged s source limit) (qs ++ more) es) :
    ∃ reply later, Event.questions es =
      ⟨⟨.post, accountsUrl endpoint, Http.bearer s.token, some body.text⟩, reply⟩ :: later := by
  cases h with
  | relative hrelative => exact absurd hurl.absolute hrelative
  | made hmade x =>
    obtain ⟨first, rest, rfl, hfirst, -⟩ := Event.Expands.asked_iff.mp hexpands
    have hsend : (Http.sendForJson Service.identity.name ⟨.post, accountsUrl endpoint, s.token,
        some body, hmade⟩).run.Runs first x := Http.runs_some_map hfirst
    rcases Http.settles_sendForJson hsend with ⟨hcan, -, -⟩ | ⟨-, reply, hquestions, -⟩
    · exact absurd hurl.sendable hcan
    · rw [Event.questions_append, hquestions]
      exact ⟨reply, _, rfl⟩

end Sending

/-- However a creation goes, the account is asked for with a body from which the username and the
password are read back as they were given; so no other credentials are ever sent with that body. -/
theorem credentials_come_through (s : Session) (source : Endpoint.Source) (limit : Nat) :
    (∀ username password es result,
      (Http.exchanges limit ((create s username password).calling s source)).Runs es result →
        SendsCredentials s source limit username password es) ∧
      ∀ text username password username' password',
        TellsCredentials text username password → TellsCredentials text username' password' →
          username = username' ∧ password = password' := by
  refine ⟨fun username password es result h => ?_, fun _ _ _ _ _ h => h.unique⟩
  cases result with
  | none => exact absurd h (not_runs_exchanges_none (asks_create s username password))
  | some r =>
    obtain ⟨qs, hqs, hexpands⟩ := expands_of_runs_exchanges h
    have hcreates := creates_of_runs hqs
    constructor
    · rintro hrefused
      cases hcreates with
      | blank | unprotected => exact Event.Expands.nil_iff.mp hexpands
      | unresolved named secret | unopened named secret | unread named secret
      | unlinked named secret | linked named secret =>
        exact absurd hrefused (not_or.mpr ⟨named, secret⟩)
    · intro named secret
      rcases hcreates.exists_opening named secret with
        ⟨f, rfl⟩ | ⟨endpoint, asking, more, x, rfl, opening⟩
      · obtain ⟨first, rest, rfl, hfirst, hrest⟩ := Event.Expands.asked_iff.mp hexpands
        exact ⟨first, rest, _, rfl, hfirst, nofun⟩
      · obtain ⟨first, rest, rfl, hfirst, hrest⟩ := Event.Expands.asked_iff.mp hexpands
        refine ⟨first, rest, _, rfl, hfirst, ?_⟩
        rintro _ ⟨⟩ hurl
        obtain ⟨reply, later, hquestions⟩ := opening.first_of_expands hurl hrest
        exact ⟨_, reply, later, hquestions, Account.tells_creation username password⟩

/-- A name of quotes, backslashes and characters of every length. -/
def oddName : String :=
  " \"ann\\\" é😀"

/-- A password of control characters. -/
def oddPassword : String :=
  "p\x01\n\x7f"

/-- The creation of an account with them, in which every request is answered with success. -/
def createdOddly : List (Event Http.Message fun _ => Http.Reply) × Option (Except Fault UserId) :=
  (Http.exchanges 1 ((create sampleSession oddName oddPassword).calling sampleSession
    (.fixed (.ok "http://id")))).play fun _ => .answer 204 ⟨[], true⟩

theorem credentials_come_through_odd :
    ∃ text reply later, Event.questions createdOddly.1 =
        ⟨⟨.post, "http://id/Users", "Bearer t", some text⟩, reply⟩ :: later ∧
      TellsCredentials text oddName oddPassword := by
  have hsends := (credentials_come_through sampleSession (.fixed (.ok "http://id")) 1).1
    oddName oddPassword createdOddly.1 createdOddly.2 (runs_play _ _)
  obtain ⟨front, back, found, hes, hfront, hsent⟩ := hsends.sent (by decide) (by decide)
  obtain ⟨rfl, hfound⟩ := runs_done_iff.mp hfront
  have hurl : Creatable sampleSession "http://id" := ⟨by decide, by decide +kernel⟩
  rw [hes]
  exact hsent "http://id" (Option.some.inj hfound) hurl

end Directory

end Tenancy
