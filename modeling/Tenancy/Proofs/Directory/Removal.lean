import Tenancy.Proofs.Directory.Deletion
import Tenancy.Proofs.Directory.Faults
import Tenancy.Proofs.Directory.Wire
import Tenancy.Proofs.Http.Ending
import Tenancy.Proofs.Text.Utf16

/-!
# Deletions over HTTP

Which answers of the platform let a deletion go on to the account: a successful one, and one that
complains of an unknown user (`Reply.LetsGo`), in whichever form its body carries the complaint.
After every other one, and after none at all, nothing is sent to the identity service
(`account_deleted_iff`).
-/

namespace Tenancy

namespace Http

open Program

/-- What has to be answered for a platform user to count as removed. -/
inductive Reply.LetsGo : Reply → Prop where
  | removed {status : Nat} {body : Body} (success : isSuccess status = true) :
      LetsGo (.answer status body)
  | unknown {status : Nat} {body : Body} {c : Complaint} (complains : Complaint.IsRead body.text c)
      (unknown : c.OfUnknownUser) : LetsGo (.answer status body)

section Answers

variable {label : String} {m : Message} {a : Address} {reply : Reply}
  {es : List (Event Message fun _ => Reply)}

/-- A request that is not carried out is refused. -/
theorem Reply.outcome_cases (reply : Reply) :
    reply.outcome label m a = .ok () ∨ ∃ r, reply.outcome label m a = .error (.refused r) := by
  cases reply with
  | unreachable => exact .inr ⟨_, rfl⟩
  | dropped => exact .inr ⟨_, rfl⟩
  | answer status body =>
    rw [outcome]
    split
    · exact .inl rfl
    · exact .inr ⟨_, rfl⟩

/-- The code that is read off a body decides for all answers but the successful ones. -/
theorem Reply.letsGo_answer_iff {status : Nat} {body : Body} :
    (answer status body).LetsGo ↔
      isSuccess status = true ∨ (refusal status body.text).code = some "20003" := by
  rw [Complaint.code_refusal_eq_iff]
  constructor
  · rintro (hsuccess | ⟨hcomplains, hunknown⟩)
    · exact .inl hsuccess
    · exact .inr ⟨_, hcomplains, hunknown⟩
  · rintro (hsuccess | ⟨c, hcomplains, hunknown⟩)
    · exact .removed hsuccess
    · exact .unknown hcomplains hunknown

instance : (reply : Reply) → Decidable reply.LetsGo
  | .unreachable => .isFalse nofun
  | .dropped => .isFalse nofun
  | .answer _ _ => decidable_of_iff _ Reply.letsGo_answer_iff.symm

/-- It makes no difference in which form the body carries the complaint. -/
theorem Reply.letsGo_iff_of_carries {status : Nat} {body : Body} {s : String}
    (hwhole : body.whole = true) (hbody : Text.Carries s body.bytes) :
    (answer status body).LetsGo ↔
      isSuccess status = true ∨ ∃ c, Complaint.IsRead s c ∧ c.OfUnknownUser := by
  have htext : body.text = s := by
    rw [Body.text, if_pos hwhole, Text.decodeBody_of_carries hbody]
  rw [letsGo_answer_iff, Complaint.code_refusal_eq_iff, htext]

/-- A number that is no integer is not the code, and neither is a text around it. -/
example : (Reply.answer 404 ⟨Text.Utf8.encode "\x7b\"code\":20003\x7d", true⟩).LetsGo ∧
    ¬ (Reply.answer 404 ⟨Text.Utf8.encode "\x7b\"code\":20003.0\x7d", true⟩).LetsGo ∧
    ¬ (Reply.answer 404 ⟨Text.Utf8.encode "20003: unknown user", true⟩).LetsGo := by
  decide +kernel

/-- Only the code of an unknown user is tolerated. -/
theorem Reply.letsGo_iff :
    reply.LetsGo ↔ ∀ f, reply.outcome label m a = .error f → f.RefusedWith "20003" := by
  cases reply with
  | unreachable | dropped =>
    constructor
    · rintro ⟨⟩
    · intro h
      cases h _ rfl
  | answer status body =>
    rw [letsGo_answer_iff, outcome]
    by_cases hsuccess : isSuccess status = true
    · simp [hsuccess]
    · simp [hsuccess]

theorem not_runs_some_map_none {α : Type} {p : Program Message (fun _ => Reply) α} :
    ¬ (some <$> p).Runs es none := by
  rw [runs_map_iff]
  rintro ⟨x, -, ⟨⟩⟩

/-- Only listings are given up. -/
theorem not_runs_answer_none {limit : Nat} {c : Call}
    (hc : ∀ base token path visit, c.query ≠ .list base token path visit) :
    ¬ (answer limit c).Runs es none := by
  obtain ⟨service, ⟨base, token, path, visit⟩ | ⟨url, token⟩ | r | r⟩ := c
  · exact absurd rfl (hc base token path visit)
  · exact not_runs_some_map_none
  · exact not_runs_some_map_none
  · exact not_runs_some_map_none

end Answers

end Http

namespace Directory

open Program

/-- Nothing is listed. -/
def Question.Unlisted : Question → Prop
  | .call c => ∀ base token path visit, c.query ≠ .list base token path visit
  | .endpoint => True

/-- The message by which something is deleted. -/
def deletion (s : Session) (url : String) : Http.Message :=
  ⟨.delete, url, Http.bearer s.token, none⟩

/-- What is at a url can be asked to be deleted. -/
structure Deletable (s : Session) (url : String) : Prop where
  absolute : IsAbsolute url
  sendable : Http.CanSend (deletion s url)

section Exchanging

variable {s : Session} {source : Endpoint.Source} {limit : Nat}
  {es : List (Event Http.Message fun _ => Http.Reply)}

theorem not_runs_exchanges_none {α : Type} {a : Action α} (ha : a.run.Asks Question.Unlisted) :
    ¬ (Http.exchanges limit (a.calling s source)).Runs es none := by
  rw [exchanges_calling]
  apply not_runs_none ha
  intro q hq first
  cases q with
  | call c => exact Http.not_runs_answer_none hq
  | endpoint =>
    cases source with
    | fixed answer =>
      intro h
      cases (runs_done_iff.mp h).2
    | discovered =>
      have hlook : (Endpoint.discover s).run.Asks (· = infoCall s) := by
        rw [Endpoint.run_discover]
        refine ⟨rfl, ?_⟩
        rintro (f | document)
        · trivial
        · dsimp only
          cases Endpoint.ofInfo document <;> trivial
      apply not_runs_none hlook
      rintro _ rfl first
      exact Http.not_runs_answer_none nofun

theorem asks_delete (s : Session) (id : UserId) : (delete s id).run.Asks Question.Unlisted := by
  have hperform : ∀ service url, (Action.perform service .delete url s.token none).run.Asks
      Question.Unlisted := by
    intro service url
    apply (Action.asks_perform service .delete url s.token none).mono
    rintro _ ⟨r, rfl, -⟩
    exact fun _ _ _ _ => nofun
  have hmember : (deleteMember s id).run.Asks Question.Unlisted := by
    rw [run_deleteMember]
    apply (hperform _ _).bind
    rintro (f | _)
    · rw [afterRemoval]
      split <;> trivial
    · trivial
  apply Asks.then hmember
  intro _
  have hendpoint : Action.endpoint.run.Asks Question.Unlisted := ⟨trivial, fun _ => trivial⟩
  apply Asks.then (asks_noting hendpoint _)
  intro endpoint
  apply Asks.then (asks_noting (hperform _ _) _)
  intro _
  exact asks_say _

/-- What is exchanged for the request to delete something that can be deleted. -/
theorem Requests.outcome_of_expands {service : Service} {url : String} {qs : Events}
    {r : Except Fault Unit} (h : Requests (performed service) .delete url s.token none qs r)
    (hurl : Deletable s url) (hexpands : Event.Expands (Exchanged s source limit) qs es) :
    ∃ reply a, (deletion s url).address = .ok a ∧ Event.questions es = [⟨deletion s url, reply⟩] ∧
      r = reply.outcome service.name (deletion s url) a := by
  obtain ⟨a, haddress⟩ := (Http.canSend_iff _).mp hurl.sendable
  cases h with
  | relative hrelative => exact absurd hurl.absolute hrelative
  | made hmade reply =>
    obtain ⟨first, rest, rfl, hfirst, hrest⟩ := Event.Expands.asked_iff.mp hexpands
    obtain rfl := Event.Expands.nil_iff.mp hrest
    have hperform : (Http.perform service.name ⟨.delete, url, s.token, none, hmade⟩).run.Runs
        first r := Http.runs_some_map hfirst
    have hsent : (Http.Message.of ⟨.delete, url, s.token, none, hmade⟩).address = .ok a := haddress
    obtain ⟨reply', hquestions, hr⟩ := Http.outcome_of_runs_perform hsent hperform
    rw [List.append_nil]
    exact ⟨reply', a, haddress, hquestions, hr⟩

/-- Once the platform user is gone one message more is sent. -/
theorem Closes.questions_of_expands {id : UserId} {endpoint : String} {qs : Events}
    {r : Except Fault Unit} (h : Closes s id qs r) (hurl : Deletable s (accountUrl endpoint id))
    (hexpands : Event.Expands (Exchanged s (.fixed (.ok endpoint)) limit) qs es) :
    ∃ reply, Event.questions es = [⟨deletion s (accountUrl endpoint id), reply⟩] := by
  have hresolved : ∀ {reply rest}, Event.Expands (Exchanged s (.fixed (.ok endpoint)) limit)
      (.asked .endpoint reply :: rest) es →
        reply = .ok endpoint ∧ Event.Expands (Exchanged s (.fixed (.ok endpoint)) limit) rest es := by
    intro reply rest hasked
    obtain ⟨first, back, rfl, hfirst, hback⟩ := Event.Expands.asked_iff.mp hasked
    obtain ⟨rfl, hreply⟩ := runs_done_iff.mp hfirst
    exact ⟨Option.some.inj hreply, hback⟩
  have hclosing : ∀ {endpoint' qs n}, Requests (performed .identity) .delete
      (accountUrl endpoint' id) s.token none qs r →
      Event.Expands (Exchanged s (.fixed (.ok endpoint)) limit)
        (.asked .endpoint (.ok endpoint') :: qs ++ [.noted n]) es →
      ∃ reply, Event.questions es = [⟨deletion s (accountUrl endpoint id), reply⟩] := by
    intro endpoint' qs n hrequests hall
    obtain ⟨⟨⟩, hrest⟩ := hresolved hall
    obtain ⟨front, back, rfl, hfront, hback⟩ := Event.Expands.append_iff.mp hrest
    obtain ⟨_, rfl, hnil⟩ := Event.Expands.noted_iff.mp hback
    obtain rfl := Event.Expands.nil_iff.mp hnil
    obtain ⟨reply, -, -, hquestions, -⟩ := hrequests.outcome_of_expands hurl hfront
    exact ⟨reply, by simpa using hquestions⟩
  cases h with
  | unresolved => exact nomatch (hresolved hexpands).1
  | unclosed closing => exact hclosing closing hexpands
  | closed closing => exact hclosing closing hexpands

/-- Where the platform user counts as removed, exactly two messages are sent. -/
theorem questions_of_tolerated {id : UserId} {endpoint : String} {qs qs' : Events}
    {removal r : Except Fault Unit} {front back : List (Event Http.Message fun _ => Http.Reply)}
    (huser : Deletable s (userUrl s id)) (haccount : Deletable s (accountUrl endpoint id))
    (hremoval : Requests (performed .platform) .delete (userUrl s id) s.token none qs removal)
    (htolerated : ∀ f, removal = .error f → f.RefusedWith unknownUserCode)
    (hfurther : Closes s id qs' r)
    (hfront : Event.Expands (Exchanged s (.fixed (.ok endpoint)) limit) qs front)
    (hback : Event.Expands (Exchanged s (.fixed (.ok endpoint)) limit) qs' back) :
    ∃ reply reply', Event.questions (front ++ back) =
      [⟨deletion s (userUrl s id), reply⟩, ⟨deletion s (accountUrl endpoint id), reply'⟩] ∧
        reply.LetsGo := by
  obtain ⟨reply, a, -, hremoved, rfl⟩ := hremoval.outcome_of_expands huser hfront
  obtain ⟨reply', hclosed⟩ := hfurther.questions_of_expands haccount hback
  refine ⟨reply, reply', ?_, Http.Reply.letsGo_iff.mpr htolerated⟩
  rw [Event.questions_append, hremoved, hclosed]
  rfl

end Exchanging

/-- Where both requests of a deletion can be made, the identity service is asked to delete the
account, once, exactly if the platform has answered with success or with a complaint of an unknown
user, whatever its status. Otherwise nothing follows the first message, and the deletion fails with
what the platform has refused. -/
theorem account_deleted_iff {s : Session} {id : UserId} {endpoint : String} {limit : Nat}
    {es : List (Event Http.Message fun _ => Http.Reply)} {x : Option (Except Fault Unit)}
    (huser : Deletable s (userUrl s id)) (haccount : Deletable s (accountUrl endpoint id))
    (hrun : (Http.exchanges limit ((delete s id).calling s (.fixed (.ok endpoint)))).Runs es x) :
    ∃ reply rest, Event.questions es = ⟨deletion s (userUrl s id), reply⟩ :: rest ∧
      ((∃ reply', rest = [⟨deletion s (accountUrl endpoint id), reply'⟩]) ↔ reply.LetsGo) ∧
      (¬ reply.LetsGo → rest = [] ∧ ∃ a r, (deletion s (userUrl s id)).address = .ok a ∧
        reply.outcome "platform" (deletion s (userUrl s id)) a = .error (.refused r) ∧
        x = some (.error (.refused r))) := by
  cases x with
  | none => exact absurd hrun (not_runs_exchanges_none (asks_delete s id))
  | some r =>
    obtain ⟨qs, hqs, hexpands⟩ := expands_of_runs_exchanges hrun
    cases deletes_of_runs hqs with
    | @kept qs f removal known =>
      obtain ⟨reply, a, haddress, hquestions, hreply⟩ :=
        removal.outcome_of_expands huser hexpands
      have hstop : ¬ reply.LetsGo := by
        intro hgo
        exact known (Http.Reply.letsGo_iff.mp hgo f hreply.symm)
      refine ⟨reply, [], hquestions, by simp [hstop], fun _ => ⟨rfl, a, ?_⟩⟩
      rcases Http.Reply.outcome_cases reply with hok | ⟨r, hr⟩
      · exact nomatch hreply.trans hok
      · exact ⟨r, haddress, hr, congrArg some (hreply.trans hr)⟩
    | removed removal further =>
      obtain ⟨front, back, rfl, hfront, hback⟩ := Event.Expands.append_iff.mp hexpands
      obtain ⟨reply, reply', hquestions, hgo⟩ :=
        questions_of_tolerated huser haccount removal nofun further hfront hback
      exact ⟨reply, _, hquestions, iff_of_true ⟨reply', rfl⟩ hgo, fun hstop => absurd hgo hstop⟩
    | @missing qs qs' f r removal unknown further =>
      obtain ⟨front, _, rfl, hfront, hnoted⟩ := Event.Expands.append_iff.mp hexpands
      obtain ⟨back, rfl, hback⟩ := Event.Expands.noted_iff.mp hnoted
      have htolerated : ∀ f', .error f = (.error f' : Except Fault Unit) →
          f'.RefusedWith unknownUserCode := by
        rintro _ ⟨⟩
        exact unknown
      obtain ⟨reply, reply', hquestions, hgo⟩ :=
        questions_of_tolerated huser haccount removal htolerated further hfront hback
      refine ⟨reply, _, ?_, iff_of_true ⟨reply', rfl⟩ hgo, fun hstop => absurd hgo hstop⟩
      rw [Event.questions_append] at hquestions ⊢
      exact hquestions

/-- How the platform says that it does not know a user. -/
def unknownUser : String := "\x7b\"code\":20003\x7d"

/-- A platform that does not know a user and says so in UTF-16, and an identity service that knows
the account. -/
def unknownTo : Http.Message → Http.Reply
  | ⟨_, "http://api/v2/users/u3", _, _⟩ =>
    .answer 404
      ⟨Text.Utf16.ByteOrder.highFirst.mark ++ Text.Utf16.encode .highFirst unknownUser, true⟩
  | _ => .answer 204 ⟨[], true⟩

theorem letsGo_unknownTo (method : Method) (authorization : String) (body : Option String) :
    (unknownTo ⟨method, "http://api/v2/users/u3", authorization, body⟩).LetsGo := by
  refine (Http.Reply.letsGo_iff_of_carries rfl (.units .highFirst)).mpr (.inr ?_)
  exact (@Http.Complaint.code_refusal_eq_iff 404 _).mp (by decide +kernel)

/-- The deletion of such a user. -/
def deletedUnknown : List (Event Http.Message fun _ => Http.Reply) × Option (Except Fault Unit) :=
  (Http.exchanges 1 ((delete sampleSession bob).calling sampleSession
    (.fixed (.ok "http://id")))).play unknownTo

theorem account_deleted_iff_unknown :
    Deletable sampleSession "http://api/v2/users/u3" ∧
      Deletable sampleSession "http://id/Users/u3" ∧
      (Http.exchanges 1 ((delete sampleSession bob).calling sampleSession
        (.fixed (.ok "http://id")))).Runs deletedUnknown.1 deletedUnknown.2 ∧
      ∃ reply reply', reply.LetsGo ∧ Event.questions deletedUnknown.1 =
        [⟨deletion sampleSession "http://api/v2/users/u3", reply⟩,
          ⟨deletion sampleSession "http://id/Users/u3", reply'⟩] := by
  have huser : Deletable sampleSession (userUrl sampleSession bob) :=
    ⟨by decide, by decide +kernel⟩
  have haccount : Deletable sampleSession (accountUrl "http://id" bob) :=
    ⟨by decide, by decide +kernel⟩
  have hrun : (Http.exchanges 1 ((delete sampleSession bob).calling sampleSession
      (.fixed (.ok "http://id")))).Runs deletedUnknown.1 deletedUnknown.2 := runs_play _ _
  obtain ⟨reply, rest, hquestions, hiff, -⟩ := account_deleted_iff huser haccount hrun
  have hreply : reply = unknownTo (deletion sampleSession (userUrl sampleSession bob)) := by
    have hfirst : ⟨_, reply⟩ ∈ Event.questions deletedUnknown.1 :=
      hquestions ▸ List.mem_cons_self
    exact eq_of_mem_questions_play hfirst
  have hgo : reply.LetsGo := hreply ▸ letsGo_unknownTo ..
  obtain ⟨reply', rfl⟩ := hiff.mpr hgo
  exact ⟨huser, haccount, hrun, reply, reply', hgo, hquestions⟩

end Directory

end Tenancy
