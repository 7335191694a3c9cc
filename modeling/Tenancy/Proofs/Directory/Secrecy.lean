import Tenancy.Proofs.Directory.Lockstep
import Tenancy.Proofs.Http.Lockstep
import Tenancy.Script.Server
import Tenancy.Script.Services

/-!
# Secrets

Tokens and passwords go into requests and nowhere else. A side that does not look at them brings two
sessions of one endpoint, whatever their tokens, to the same results over the same notes and the
same requests up to the token; and it brings two creations of a user that differ in the password to
the same up to that. The scripted sides are of that kind.
-/

namespace Tenancy

open Program

namespace Script

/-- The reply that a call gets, and the routes that are left. -/
theorem answer_eq (c : Call) (w : Stage Answer Received) :
    (answer c w).1 = Answer.to (Route.take (Received.of c).service (Received.of c).method
        (Received.of c).url w.routes).1 c.query ∧
      (answer c w).2.routes = (Route.take (Received.of c).service (Received.of c).method
        (Received.of c).url w.routes).2 :=
  ⟨rfl, rfl⟩

/-- Scripted services look at the service, the method and the url of a call only. -/
theorem blind_answer :
    Blind (Call.SameBut .everything) answer fun w w' => w.routes = w'.routes := by
  intro c c' same w w' hc hw
  obtain ⟨hreply, hroutes⟩ := answer_eq c w
  obtain ⟨hreply', hroutes'⟩ := answer_eq c' w'
  beta_reduce
  rw [hreply, hreply', hroutes, hroutes', hw]
  cases hc with
  | list | get => exact ⟨rfl, rfl⟩
  | perform hr => simp [Received.of, hr.method, hr.url, Answer.to]
  | performJson hr => simp [Received.of, hr.method, hr.url, Answer.to]

/-- The reply that a message gets, and the routes that are left. -/
theorem serve_eq (listening : Bool) (m : Http.Message) (w : Stage Response Http.Message) :
    (serve listening m w).1 = (if listening && isPlainHttp m.url then
        ((Route.take "" m.method.name m.url w.routes).1.getD .unknown).reply else .unreachable) ∧
      (serve listening m w).2.routes = if listening && isPlainHttp m.url then
        (Route.take "" m.method.name m.url w.routes).2 else w.routes := by
  unfold serve
  split
  · exact ⟨rfl, rfl⟩
  · exact ⟨rfl, rfl⟩

/-- A scripted server looks at the method and the url of a message only. -/
theorem blind_serve (listening : Bool) :
    Blind (Http.Message.SameBut .everything) (serve listening) fun w w' =>
      w.routes = w'.routes := by
  intro m m' same w w' hm hw
  obtain ⟨hreply, hroutes⟩ := serve_eq listening m w
  obtain ⟨hreply', hroutes'⟩ := serve_eq listening m' w'
  cases hm with
  | of hr =>
    beta_reduce
    rw [hreply, hreply', hroutes, hroutes', hw]
    simp only [Http.Message.of, hr.method, hr.url]
    exact ⟨rfl, rfl⟩

end Script

namespace Directory

/-- What two sessions of one endpoint show, and what comes of what is done in them, does not depend
on their tokens; and nothing but a request depends on a password. -/
structure KeepsSecrets (s t : Session) : Prop where
  shown : s.shown = t.shown
  requestShown : ∀ r r' : Request, r.method = r'.method → r.url = r'.url → r.body = r'.body →
    r.shown = r'.shown
  tokens : ∀ source os,
    LookAlike (Call.SameBut (.tokens s.token t.token)) (Call.SameBut .everything)
      (carryOut s source os) (carryOut t source os)
  /-- Over HTTP both tokens have to be header values. -/
  tokensSent : Http.isHeaderValue s.token → Http.isHeaderValue t.token → ∀ limit source os,
    LookAlike (Http.Message.SameBut (.tokens s.token t.token)) (Http.Message.SameBut .everything)
      ((carryOut s source os).throughSome (Http.answer limit))
      ((carryOut t source os).throughSome (Http.answer limit))
  passwords : ∀ source username password password', password ≠ "" → password' ≠ "" →
    LookAlike (Call.SameBut .passwords) (Call.SameBut .everything)
      ((create s username password).calling s source).run
      ((create s username password').calling s source).run
  passwordsSent : ∀ limit source username password password', password ≠ "" → password' ≠ "" →
    LookAlike (Http.Message.SameBut .passwords) (Http.Message.SameBut .everything)
      (Http.exchanges limit ((create s username password).calling s source))
      (Http.exchanges limit ((create s username password').calling s source))

variable {s t : Session}

theorem sameSession_tokens (h : s.endpoint = t.endpoint) :
    SameSession (.tokens s.token t.token) s t :=
  ⟨h, ⟨rfl, rfl⟩, fun _ _ _ => rfl⟩

theorem sameSession_passwords (s : Session) : SameSession .passwords s s :=
  ⟨rfl, rfl, fun _ _ _ => .inl rfl⟩

theorem without_password_creation (username password password' : String) :
    (Account.creation username password).without "password" =
      (Account.creation username password').without "password" := by
  have hpassword : Json.SameMember "password" ("password", Json.string password)
      ("password", Json.string password') := ⟨rfl, fun h => absurd rfl h⟩
  apply Json.without_ofMembers
  exact .cons (.refl _) (.cons (.refl _) (.cons hpassword (.cons (.refl _) .nil)))

/-- Where passwords are hidden, the creation of a user with another one looks the same. -/
theorem sameBut_create_passwords (s : Session) (username : String) {password password' : String}
    (hp : password ≠ "") (hp' : password' ≠ "") :
    (create s username password).SameBut .passwords (create s username password') := by
  refine sameBut_create (sameSession_passwords s) username (iff_of_false hp hp') fun name => ?_
  refine .inr ⟨rfl, rfl, ?_⟩
  rw [Option.map_some, Option.map_some, without_password_creation name password password']

/-- In sessions of one endpoint the same is done, noted and shown whatever their tokens are, and a
password shows nowhere but where the account is created. -/
theorem secrets_stay_hidden (h : s.endpoint = t.endpoint) : KeepsSecrets s t where
  shown := Session.shown_of_endpoint h
  requestShown := by
    rintro ⟨_, _, _, _, _⟩ ⟨_, _, _, _, _⟩ ⟨rfl⟩ ⟨rfl⟩ ⟨rfl⟩
    rfl
  tokens := by
    intro source os
    exact (lockstep_carryOut (sameSession_tokens h) source os).lookAlike
      fun _ _ _ => Call.SameBut.everything
  tokensSent := by
    intro hs ht limit source os
    have hsendable : Http.Sendable (.tokens s.token t.token) := by
      refine ⟨?_, fun _ _ _ => rfl⟩
      rintro _ _ ⟨rfl, rfl⟩
      rw [hs, ht]
    exact (Http.lockstep_throughSome hsendable limit
      (lockstep_carryOut (sameSession_tokens h) source os)).lookAlike
        fun _ _ _ => Http.Message.SameBut.everything
  passwords := by
    intro source username password password' hp hp'
    exact (lockstep_calling (sameSession_passwords s) source
      (sameBut_create_passwords s username hp hp')).lookAlike fun _ _ _ => Call.SameBut.everything
  passwordsSent := by
    intro limit source username password password' hp hp'
    have hsendable : Http.Sendable .passwords :=
      ⟨fun _ _ hab => congrArg Http.isHeaderValue hab, fun _ _ _ => .inl rfl⟩
    exact (Http.lockstep_throughSome hsendable limit
      (lockstep_calling (sameSession_passwords s) source
        (sameBut_create_passwords s username hp hp'))).lookAlike
          fun _ _ _ => Http.Message.SameBut.everything

/-- The sample session with another token. -/
def otherSession : Session := { sampleSession with token := "u", token_ne := by decide }

/-- Services that open one account; the platform names the identity service. -/
def opensOne : Script.Stage Script.Answer Script.Received where
  routes := [
    ⟨some "platform", some "GET", none, none,
      ⟨none, [], some (.object [("token_endpoint", .string "http://id")])⟩⟩,
    ⟨some "identity", some "POST", none, some 1,
      ⟨none, [], some (.object [("id", .string "u2")])⟩⟩]
  calls := []
  notes := []

/-- A server that names itself the identity service and deletes what it is asked to. -/
def deletesAll : Script.Stage Script.Response Http.Message where
  routes := [
    ⟨none, some "GET", none, none,
      ⟨200, Text.Utf8.encode "\x7b\"token_endpoint\":\"http://id\"\x7d", .whole⟩⟩,
    ⟨none, some "DELETE", none, none, ⟨204, [], .whole⟩⟩]
  calls := []
  notes := []

theorem secrets_stay_hidden_opensOne :
    sampleSession.endpoint = otherSession.endpoint ∧
      ((carryOut sampleSession .discovered [.create "ann" "pw", .delete bob]).playIn Script.answer
          opensOne).2.1 =
        ((carryOut otherSession .discovered [.create "ann" "pw", .delete bob]).playIn Script.answer
          opensOne).2.1 ∧
      "pw" ≠ "" ∧ "other" ≠ "" ∧
      List.Forall₂ (Event.Paired (Call.SameBut .passwords))
        (((create sampleSession "ann" "pw").calling sampleSession .discovered).run.playIn
          Script.answer opensOne).1
        (((create sampleSession "ann" "other").calling sampleSession .discovered).run.playIn
          Script.answer opensOne).1 ∧
      Http.isHeaderValue sampleSession.token ∧ Http.isHeaderValue otherSession.token ∧
      LookAlike (Http.Message.SameBut (.tokens sampleSession.token otherSession.token))
        (Http.Message.SameBut .everything)
        ((carryOut sampleSession .discovered [.delete bob]).throughSome (Http.answer 1))
        ((carryOut otherSession .discovered [.delete bob]).throughSome (Http.answer 1)) ∧
      (((carryOut sampleSession .discovered [.delete bob]).throughSome (Http.answer 1)).playIn
          (Script.serve true) deletesAll).2.1 =
        (((carryOut otherSession .discovered [.delete bob]).throughSome (Http.answer 1)).playIn
          (Script.serve true) deletesAll).2.1 := by
  have h : sampleSession.endpoint = otherSession.endpoint := rfl
  have hp : "pw" ≠ "" := by decide
  have hp' : "other" ≠ "" := by decide
  have ht : Http.isHeaderValue sampleSession.token := by decide
  have ht' : Http.isHeaderValue otherSession.token := by decide
  have hkept := secrets_stay_hidden h
  have htokens := hkept.tokens .discovered [.create "ann" "pw", .delete bob] _ Script.answer _
    Script.blind_answer opensOne opensOne rfl
  have hpasswords := hkept.passwords .discovered "ann" "pw" "other" hp hp' _ Script.answer _
    Script.blind_answer opensOne opensOne rfl
  have hsent := hkept.tokensSent ht ht' 1 .discovered [.delete bob]
  have hserved := hsent _ (Script.serve true) _ (Script.blind_serve true) deletesAll deletesAll rfl
  exact ⟨h, htokens.1, hp, hp', hpasswords.2.1, ht, ht', hsent, hserved.1⟩

end Directory

end Tenancy
