import Tenancy.Proofs.Directory.Population
import Tenancy.Proofs.Directory.Deletion
import Tenancy.Proofs.Directory.Wire

/-!
# Accounts left alone

A creation that fails once the identity service has opened the account leaves it alone. Whether it
warns of the account depends on the answer that has opened it: there is no warning where the body of
that answer was cut short or is no JSON, for then the exchange itself fails (`orphan_warned_iff`).
-/

namespace Tenancy

/-- A warning tells the name of a user. -/
def Event.WarnsOf {ι : Type} {ρ : ι → Type} (username : String) (es : List (Event ι ρ)) : Prop :=
  ∃ n ∈ reports .warn es, ("username", username) ∈ n.fields

namespace Directory

open Program

section Exchanging

variable {s : Session} {source : Endpoint.Source} {limit : Nat} {endpoint : String}
  {first : List (Event Http.Message fun _ => Http.Reply)} {m : Http.Message} {answer : Http.Reply}

/-- Whoever looks for the identity service sends nothing else. -/
theorem get_of_exchanged_endpoint {reply : Except Fault String}
    (h : Exchanged s source limit .endpoint first reply) (hm : .asked m answer ∈ first) :
    m.method = .get := by
  obtain ⟨cs, hcs, hexpands⟩ := expands_of_runs_throughSome h
  obtain ⟨c, reply', part, hc, hpart, hmem⟩ := hexpands.asked_of_mem hm
  have hlook : ∀ {reply : Except Fault Json},
      (Http.answer limit (infoCall s)).Runs part (some reply) → m.method = .get := by
    intro reply hrun
    have hlooked : Http.Looked _ part reply := Http.exchanged_of_runs hrun
    by_contra hmethod
    have hchange : m ∈ Http.changes part :=
      List.mem_filter.mpr ⟨Event.mem_posed_of_asked hmem, by simpa using hmethod⟩
    simp [hlooked.changes] at hchange
  cases resolves_of_runs hcs with
  | fixed => exact nomatch hc
  | unanswered =>
    cases List.mem_singleton.mp hc
    exact hlook hpart
  | unadvertised =>
    cases List.mem_singleton.mp hc
    exact hlook hpart
  | discovered =>
    rcases List.mem_cons.mp hc with heq | hnoted
    · cases heq
      exact hlook hpart
    · cases List.mem_singleton.mp hnoted

/-- What a request is answered with stands in the body of a successful answer. -/
theorem Requests.says_of_mem {service : Service} {method : Method} {url token : String}
    {sent : Option Json} {qs : Events} {x : Except Fault Json} {q : Question} {reply : q.Reply}
    {status : Nat} {body : Http.Body}
    (h : Requests (performedJson service) method url token sent qs x)
    (hq : .asked q reply ∈ qs) (hfirst : Exchanged s source limit q first reply)
    (hm : .asked m (.answer status body) ∈ first) (hsuccess : Http.isSuccess status = true)
    (v : Json) : x = .ok v ↔ body.Says v := by
  cases h with
  | relative => exact nomatch hq
  | made hurl =>
    cases List.mem_singleton.mp hq
    have hmem := Event.mem_questions_iff.mpr hm
    rcases Http.settles_sendForJson (Http.runs_some_map hfirst) with
      ⟨-, hnone, -⟩ | ⟨-, reply', hone, hbrings⟩
    · simp [hnone] at hmem
    · rw [hone, List.mem_singleton] at hmem
      cases hmem
      rw [hbrings, Http.Reply.Says]
      simp [hsuccess]

theorem Requests.url_of_mem {service : Service} {method : Method} {url token : String}
    {sent : Option Json} {qs : Events} {x : Except Fault Unit} {q : Question} {reply : q.Reply}
    (h : Requests (performed service) method url token sent qs x)
    (hq : .asked q reply ∈ qs) (hfirst : Exchanged s source limit q first reply)
    (hm : .asked m answer ∈ first) : m.url = url := by
  cases h with
  | relative => exact nomatch hq
  | made hurl =>
    cases List.mem_singleton.mp hq
    have hsent := Http.sent_of_runs_perform (Http.runs_some_map hfirst)
    have hposed := hsent.posed.subset (Event.mem_posed_of_asked hm)
    rw [List.mem_singleton.mp hposed]
    rfl

theorem accountsUrl_ne_usersUrl (s : Session) (endpoint : String) :
    accountsUrl endpoint ≠ usersUrl s := by
  intro h
  have hslash : endpoint ++ "/" ++ "Users" = s.endpoint ++ "/v2" ++ "/" ++ "users" := by
    simpa [accountsUrl, usersUrl, String.append_assoc] using h
  have hlast := eq_of_append_slash hslash (by decide) (by decide)
  exact absurd hlast (by decide)

end Exchanging

/-- When a creation fails although the identity service has answered with success, a warning tells
the username exactly if that answer can be read: if its body came whole, and is blank or JSON. -/
theorem orphan_warned_iff {s : Session} {source : Endpoint.Source} {limit : Nat}
    {username password endpoint : String} {es : List (Event Http.Message fun _ => Http.Reply)}
    {f : Fault} {m : Http.Message} {status : Nat} {body : Http.Body}
    (hrun : (Http.exchanges limit ((create s username password).calling s source)).Runs es
      (some (.error f)))
    (hopened : .asked m (.answer status body) ∈ es) (hmethod : m.method = .post)
    (hurl : m.url = accountsUrl endpoint) (hsuccess : Http.isSuccess status = true) :
    Event.WarnsOf username es ↔ ∃ v, body.Says v := by
  obtain ⟨qs, hqs, hexpands⟩ := expands_of_runs_exchanges hrun
  obtain ⟨q, reply, first, hq, hfirst, hmem⟩ := hexpands.asked_of_mem hopened
  have hendpoint : ∀ reply', .asked q reply ≠ (.asked .endpoint reply' : Event Question _) := by
    rintro reply' ⟨⟩
    simp [get_of_exchanged_endpoint hfirst hmem] at hmethod
  rw [Event.WarnsOf, reports_of_expands hexpands (by decide)]
  cases creates_of_runs hqs with
  | blank => exact nomatch hq
  | unprotected => exact nomatch hq
  | unresolved => exact absurd (List.mem_singleton.mp hq) (hendpoint _)
  | unopened _ _ opening =>
    -- nothing is noted, whatever has been answered
    have hq := (List.mem_cons.mp hq).resolve_left (hendpoint _)
    have hread := opening.says_of_mem hq hfirst hmem hsuccess
    constructor
    · rintro ⟨n, hn, -⟩
      simp [opening.reports_eq_nil fun _ _ => rfl] at hn
    · rintro ⟨v, hv⟩
      cases (hread v).mpr hv
  | @unread _ _ document _ _ _ opening =>
    apply iff_of_true
    · simp [opening.reports_eq_nil fun _ _ => rfl]
    · simp only [List.cons_append, List.mem_cons, hendpoint, false_or, List.mem_append,
        reduceCtorEq, List.not_mem_nil, or_false] at hq
      exact ⟨document, (opening.says_of_mem hq hfirst hmem hsuccess document).mp rfl⟩
  | @unlinked _ _ _ document _ _ _ _ opening _ linking =>
    apply iff_of_true
    · simp [opening.reports_eq_nil fun _ _ => rfl, linking.reports_performed]
    · simp only [List.cons_append, List.mem_cons, hendpoint, false_or, List.mem_append,
        reduceCtorEq, List.not_mem_nil, or_false] at hq
      rcases hq with hopening | hlinking
      · exact ⟨document, (opening.says_of_mem hopening hfirst hmem hsuccess document).mp rfl⟩
      · have hlinked := linking.url_of_mem hlinking hfirst hmem
        exact absurd (hurl.symm.trans hlinked) (accountsUrl_ne_usersUrl s endpoint)

/-- A creation in which every request is answered with success and one body. -/
def createdWith (body : Http.Body) :
    List (Event Http.Message fun _ => Http.Reply) × Option (Except Fault UserId) :=
  (Http.exchanges 1 ((create sampleSession "ann" "pw").calling sampleSession
    (.fixed (.ok "http://id")))).play fun _ => .answer 201 body

theorem runs_createdWith (body : Http.Body) :
    (Http.exchanges 1 ((create sampleSession "ann" "pw").calling sampleSession
      (.fixed (.ok "http://id")))).Runs (createdWith body).1 (createdWith body).2 :=
  runs_play _ _

/-- The message by which the account is opened. -/
def opening : Http.Message :=
  ⟨.post, "http://id/Users", "Bearer t", some (Account.creation "ann" "pw").text⟩

/-- What a creation fails with whose account is opened with an answer that holds nothing. -/
def undecoded : Fault :=
  .internal ("failed to decode identity user creation response: invalid type: null, " ++
    "expected struct CreatedIdentityUser")

theorem orphan_warned_iff_blank :
    (Http.exchanges 1 ((create sampleSession "ann" "pw").calling sampleSession
        (.fixed (.ok "http://id")))).Runs (createdWith ⟨[], true⟩).1 (some (.error undecoded)) ∧
      .asked opening (.answer 201 ⟨[], true⟩) ∈ (createdWith ⟨[], true⟩).1 ∧
      Event.WarnsOf "ann" (createdWith ⟨[], true⟩).1 := by
  have hresult : (createdWith ⟨[], true⟩).2 = some (.error undecoded) := by decide +kernel
  have hrun := runs_createdWith ⟨[], true⟩
  rw [hresult] at hrun
  have hopened : .asked opening (.answer 201 ⟨[], true⟩) ∈ (createdWith ⟨[], true⟩).1 := by
    apply asked_mem_play
    decide +kernel
  have hurl : opening.url = accountsUrl "http://id" := rfl
  have hblank : ∃ v, (⟨[], true⟩ : Http.Body).Says v := ⟨.null, rfl, rfl⟩
  exact ⟨hrun, hopened, (orphan_warned_iff hrun hopened rfl hurl rfl).mpr hblank⟩

/-- What a creation fails with whose account is opened with an answer that is no JSON. -/
def unparsed : Fault :=
  .internal "failed to parse identity response body: expected ident at line 1 column 2"

/-- The text of an answer that is no JSON. -/
def nope : Http.Body :=
  ⟨[0x6E, 0x6F, 0x70, 0x65], true⟩

/-- Nothing tells of an account that is opened with an answer that is no JSON. -/
theorem orphan_unwarned :
    (Http.exchanges 1 ((create sampleSession "ann" "pw").calling sampleSession
        (.fixed (.ok "http://id")))).Runs (createdWith nope).1 (some (.error unparsed)) ∧
      .asked opening (.answer 201 nope) ∈ (createdWith nope).1 ∧
      Http.isSuccess 201 = true ∧ ¬ Event.WarnsOf "ann" (createdWith nope).1 := by
  have hresult : (createdWith nope).2 = some (.error unparsed) := by decide +kernel
  have hrun := runs_createdWith nope
  rw [hresult] at hrun
  have hopened : .asked opening (.answer 201 nope) ∈ (createdWith nope).1 := by
    apply asked_mem_play
    decide +kernel
  have hsilent : Event.reports .warn (createdWith nope).1 = [] := by decide +kernel
  refine ⟨hrun, hopened, rfl, ?_⟩
  rintro ⟨n, hn, -⟩
  simp [hsilent] at hn

end Directory

end Tenancy
