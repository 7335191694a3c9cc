import Tenancy.Proofs.Expansion
import Tenancy.Proofs.Http.Exchange
import Tenancy.Http.Paging

/-!
# Attempts

There are six ways to ask a service for one resource. Each sends one message if the address is
absolute and the message can be sent, and else none, and comes to what its answer says. Those that
look at the answer and those that do not are told apart by a successful answer only, and then by its
body (`one_attempt`).
-/

namespace Tenancy.Http

open Program

abbrev Exchanges := List (Event Message fun _ => Reply)

/-- What is asked of a service, before the address has been looked at. -/
structure Errand where
  method : Method
  url : String
  token : String
  body : Option Json

def Errand.message (e : Errand) : Message :=
  ⟨e.method, e.url, bearer e.token, e.body.map Json.text⟩

/-- The ways of asking for something where the answer is not looked at. -/
inductive Order where
  | perform (e : Errand)
  | create (url token : String) (body : Option Json)
  | update (url token : String) (body : Option Json)
  | delete (url token : String)

namespace Order

def errand : Order → Errand
  | perform e => e
  | create url token body => ⟨.post, url, token, body⟩
  | update url token body => ⟨.put, url, token, body⟩
  | delete url token => ⟨.delete, url, token, none⟩

def calling (service : Service) (o : Order) : Calling Unit :=
  .perform service o.errand.method o.errand.url o.errand.token o.errand.body

end Order

/-- The ways of asking for a document. -/
inductive Inquiry where
  | get (url token : String)
  | perform (e : Errand)

namespace Inquiry

def errand : Inquiry → Errand
  | get url token => ⟨.get, url, token, none⟩
  | perform e => e

def calling (service : Service) : Inquiry → Calling Json
  | get url token => .get service url token
  | perform e => .performJson service e.method e.url e.token e.body

end Inquiry

/-- What comes of an answer, or of none, where a successful one is judged by its body. -/
inductive Reply.Yields {α : Type} (judges : Body → Except Fault α → Prop) :
    Reply → Except Fault α → Prop where
  | unreachable (why : String) : Yields judges .unreachable (.error (.refused (.unanswered why)))
  | dropped (why : String) : Yields judges .dropped (.error (.refused (.unanswered why)))
  | accepted {status : Nat} {body : Body} {x : Except Fault α}
    (success : 200 ≤ status ∧ status ≤ 299) (judged : judges body x) :
    Yields judges (.answer status body) x
  | rejected {status : Nat} {body : Body} (failure : ¬ (200 ≤ status ∧ status ≤ 299)) :
    Yields judges (.answer status body) (.error (.refused (refusal status body.text)))

/-- The body is handed on as it is. -/
def Hands (b : Body) (x : Except Fault Body) : Prop := x = .ok b

/-- Where the answer is not looked at, every body is good. -/
def Ignores (_ : Body) (x : Except Fault Unit) : Prop := x = .ok ()

/-- What the body of a successful answer comes to where it is looked at. -/
inductive Delivers (b : Body) : Except Fault Json → Prop where
  | cut (why : String) (whole : b.whole = false) : Delivers b (.error (.refused (.unanswered why)))
  | blank (whole : b.whole = true) (blank : ∀ c ∈ b.bytes, isSpace c) : Delivers b (.ok .null)
  | value {v : Json} (whole : b.whole = true) (said : ∃ c ∈ b.bytes, ¬ isSpace c)
    (reads : Json.read b.bytes = .ok v) : Delivers b (.ok v)
  | malformed (why : String) (whole : b.whole = true) (said : ∃ c ∈ b.bytes, ¬ isSpace c)
    (reads : ∀ v, Json.read b.bytes ≠ .ok v) : Delivers b (.error (.internal why))

section Courses

variable (serve : Message → Reply) (e : Errand) (es : Exchanges)

/-- An errand is done at most once. It is refused under an address that is not absolute and fails
where its message cannot be sent, both without a message; otherwise its message is sent just once,
and it comes to what the answer of the server yields. -/
structure Once {α : Type} (judges : Body → Except Fault α → Prop)
    (result : Option (Except Fault α)) : Prop where
  posed : Event.posed es <+: [e.message]
  relative : ¬ IsAbsolute e.url → Event.posed es = [] ∧
    result = some (.error (.invalid s!"request url '{e.url}' must be absolute"))
  unsent : IsAbsolute e.url → ¬ CanSend e.message → Event.posed es = [] ∧
    ∃ why, result = some (.error (.refused (.unanswered why)))
  sent : IsAbsolute e.url → CanSend e.message →
    Event.questions es = [⟨e.message, serve e.message⟩] ∧
      ∃ x, result = some x ∧ (serve e.message).Yields judges x

/-- What comes of an errand where the answer is not looked at. -/
structure Performs (result : Option (Except Fault Unit)) : Prop where
  done_iff : result = some (.ok ()) ↔
    ∃ status body, .asked e.message (.answer status body) ∈ es ∧ 200 ≤ status ∧ status ≤ 299
  rejected : ∀ status body, .asked e.message (.answer status body) ∈ es →
    ¬ (200 ≤ status ∧ status ≤ 299) →
    ∃ r, result = some (.error (.refused r)) ∧ r.status = some status
  unanswered : IsAbsolute e.url →
    (∀ status body, .asked e.message (.answer status body) ∉ es) →
    ∃ r, result = some (.error (.refused r)) ∧ r.status = none

/-- What the same errand comes to where its answer is not looked at, and where it is. -/
inductive Agrees : Option (Except Fault Unit) → Option (Except Fault Json) → Prop where
  | failed (f : Fault) : Agrees (some (.error f)) (some (.error f))
  | answered {status : Nat} {body : Body} {x : Except Fault Json}
    (reply : serve e.message = .answer status body)
    (came : .asked e.message (.answer status body) ∈ es) (success : 200 ≤ status ∧ status ≤ 299)
    (delivers : Delivers body x) : Agrees (some (.ok ())) (some x)

end Courses

section Playing

variable {ι : Type} {ρ : ι → Type} {α β : Type} (answer : (q : ι) → ρ q)

theorem play_some (p : Program ι ρ α) :
    (some <$> p).play answer = ((p.play answer).1, some (p.play answer).2) := by
  rw [← bind_pure_comp, play_bind]
  simp [play]

theorem play_bind_lift (a : ExceptT Fault (Program ι ρ) α) (g : α → Except Fault β) :
    (a >>= fun x => liftM (g x)).run.play answer =
      ((a.run.play answer).1, (a.run.play answer).2 >>= g) := by
  rw [run_bind, play_bind]
  cases (a.run.play answer).2 with
  | error f => simp [play, Bind.bind, Except.bind]
  | ok x => simp [play, Bind.bind, Except.bind]

end Playing

namespace Errand

variable {α : Type} (send : Request → Exchanging α) {e : Errand}

/-- Does an errand if its address is absolute. -/
def carriedOut (e : Errand) : Exchanging α := do
  let r ← Request.of? e.method e.url e.token e.body
  send r

theorem carriedOut_of_absolute (hurl : IsAbsolute e.url) :
    (e.carriedOut send).run = (send ⟨e.method, e.url, e.token, e.body, hurl⟩).run := by
  rw [carriedOut, run_bind, run_lift, Request.of?, dif_pos hurl]
  rfl

theorem carriedOut_of_not_absolute (hurl : ¬ IsAbsolute e.url) :
    (e.carriedOut send).run =
      done (.error (.invalid s!"request url '{e.url}' must be absolute")) := by
  rw [carriedOut, run_bind, run_lift, Request.of?, dif_neg hurl]
  rfl

end Errand

section Exchanging

variable (limit : Nat) (service : Service)

theorem exchanges_order (o : Order) :
    exchanges limit (o.calling service) =
      some <$> (o.errand.carriedOut (perform service.name)).run := by
  rw [exchanges, Order.calling, Calling.perform, Errand.carriedOut, run_bind, run_bind, run_lift,
    run_lift]
  cases Request.of? o.errand.method o.errand.url o.errand.token o.errand.body with
  | error f => rfl
  | ok r => exact throughSome_question (answer limit) ⟨service, .perform r⟩

theorem exchanges_inquiry (q : Inquiry) :
    exchanges limit (q.calling service) =
      some <$> (q.errand.carriedOut (sendForJson service.name)).run := by
  cases q with
  | get url token => exact throughSome_question (answer limit) ⟨service, .get url token⟩
  | perform e =>
    rw [exchanges, Inquiry.calling, Calling.performJson, Inquiry.errand, Errand.carriedOut, run_bind,
      run_bind, run_lift, run_lift]
    cases Request.of? e.method e.url e.token e.body with
    | error f => rfl
    | ok r => exact throughSome_question (answer limit) ⟨service, .performJson r⟩

end Exchanging

theorem isSuccess_iff {status : Nat} : isSuccess status = true ↔ 200 ≤ status ∧ status ≤ 299 := by
  rw [isSuccess, Bool.and_eq_true, decide_eq_true_iff, decide_eq_true_iff]
  omega

section Sending

variable (label : String) (serve : Message → Reply)

theorem play_conclude (m : Message) (a : Address) (reply : Reply) :
    Event.questions ((conclude label m a reply).play serve).1 = [] ∧
      reply.Yields Hands ((conclude label m a reply).play serve).2 := by
  cases reply with
  | unreachable => exact ⟨rfl, .unreachable _⟩
  | dropped => exact ⟨rfl, .dropped _⟩
  | answer status body =>
    rw [conclude]
    by_cases hsuccess : isSuccess status = true
    · rw [if_pos hsuccess]
      exact ⟨rfl, .accepted (isSuccess_iff.mp hsuccess) rfl⟩
    · rw [if_neg hsuccess]
      exact ⟨rfl, .rejected (mt isSuccess_iff.mpr hsuccess)⟩

/-- A request is sent once if it can be. -/
theorem once_play_send (r : Request) :
    Once serve ⟨r.method, r.url, r.token, r.body⟩ ((send label r).run.play serve).1 Hands
      (some ((send label r).run.play serve).2) := by
  rw [run_send]
  cases haddress : (Message.of r).address with
  | error o =>
    have hcannot : ¬ CanSend (Message.of r) := by simp [canSend_iff, haddress]
    exact {
      posed := List.nil_prefix
      relative := fun hrelative => absurd r.absolute hrelative
      unsent := fun _ _ => ⟨rfl, _, rfl⟩
      sent := fun _ hcan => absurd hcan hcannot }
  | ok a =>
    have hcan : CanSend (Message.of r) := (canSend_iff _).mpr ⟨a, haddress⟩
    obtain ⟨hquestions, hyields⟩ :=
      play_conclude label serve (Message.of r) a (serve (Message.of r))
    have hall : Event.questions ((ask (Message.of r) (conclude label (Message.of r) a)).play
        serve).1 = [⟨Message.of r, serve (Message.of r)⟩] := congrArg (_ :: ·) hquestions
    have hposed : Event.posed ((ask (Message.of r) (conclude label (Message.of r) a)).play
        serve).1 = [Message.of r] := by rw [Event.posed, hall, List.map_singleton]
    exact {
      posed := hposed ▸ List.prefix_rfl
      relative := fun hrelative => absurd r.absolute hrelative
      unsent := fun _ hcannot => absurd hcan hcannot
      sent := fun _ _ => ⟨hall, _, rfl, hyields⟩ }

end Sending

theorem delivers_value (label url : String) (b : Body) : Delivers b (b.value label url) := by
  unfold Body.value
  cases hwhole : b.whole with
  | false => exact .cut _ hwhole
  | true =>
    by_cases hblank : b.bytes.all isSpace = true
    · rw [if_neg (by simp), if_pos hblank]
      exact .blank hwhole (List.all_eq_true.mp hblank)
    · have hsaid : ∃ c ∈ b.bytes, ¬ isSpace c := by simpa using hblank
      rw [if_neg (by simp), if_neg hblank]
      cases hread : Json.read b.bytes with
      | error d => exact .malformed _ hwhole hsaid (by simp [hread])
      | ok v => exact .value hwhole hsaid hread

/-- A body that says a value delivers it. -/
theorem Delivers.eq_ok_of_reads {b : Body} {x : Except Fault Json} {v : Json} (h : Delivers b x)
    (hwhole : b.whole = true) (hsaid : ∃ c ∈ b.bytes, ¬ isSpace c)
    (hreads : Json.read b.bytes = .ok v) : x = .ok v := by
  cases h with
  | cut _ whole => cases hwhole.symm.trans whole
  | blank _ blank =>
    obtain ⟨c, hc, hspace⟩ := hsaid
    exact absurd (blank c hc) hspace
  | value _ _ reads =>
    cases reads.symm.trans hreads
    rfl
  | malformed _ _ _ reads => exact absurd hreads (reads v)

section Courses

variable {serve : Message → Reply} {e : Errand} {es : Exchanges} {α : Type}
  {judges : Body → Except Fault α → Prop} {x : Except Fault Body}

/-- A body that is looked at more closely is still that of the same answer. -/
theorem Reply.Yields.bind {reply : Reply} {g : Body → Except Fault α}
    (h : reply.Yields Hands x) (hg : ∀ b, judges b (g b)) : reply.Yields judges (x >>= g) := by
  cases h with
  | unreachable why => exact .unreachable why
  | dropped why => exact .dropped why
  | accepted success judged =>
    obtain rfl := judged
    exact .accepted success (hg _)
  | rejected failure => exact .rejected failure

theorem Once.bind {g : Body → Except Fault α} (h : Once serve e es Hands (some x))
    (hg : ∀ b, judges b (g b)) : Once serve e es judges (some (x >>= g)) where
  posed := h.posed
  relative := by
    intro hurl
    obtain ⟨hposed, hx⟩ := h.relative hurl
    cases hx
    exact ⟨hposed, rfl⟩
  unsent := by
    intro hurl hcannot
    obtain ⟨hposed, why, hx⟩ := h.unsent hurl hcannot
    cases hx
    exact ⟨hposed, why, rfl⟩
  sent := by
    intro hurl hcan
    obtain ⟨hquestions, y, hx, hyields⟩ := h.sent hurl hcan
    cases hx
    exact ⟨hquestions, _, rfl, hyields.bind hg⟩

theorem asked_mem_iff_of_questions {m : Message} {reply reply' : Reply}
    (h : Event.questions es = [⟨m, reply⟩]) : .asked m reply' ∈ es ↔ reply = reply' := by
  simp [← Event.mem_questions_iff, h, eq_comm]

theorem performs_of_yields {reply : Reply} {x : Except Fault Unit} (h : reply.Yields Ignores x)
    (hasked : ∀ reply', .asked e.message reply' ∈ es ↔ reply = reply') :
    Performs e es (some x) := by
  cases h with
  | unreachable | dropped =>
    exact ⟨by simp [hasked], by simp [hasked], fun _ _ => ⟨_, rfl, rfl⟩⟩
  | @accepted status body _ success judged =>
    obtain rfl := judged
    have hcame := (hasked _).mpr rfl
    refine ⟨iff_of_true rfl ⟨status, body, hcame, success⟩, ?_, ?_⟩
    · intro _ _ hmem hfailure
      cases (hasked _).mp hmem
      exact absurd success hfailure
    · intro _ hnone
      exact absurd hcame (hnone status body)
  | @rejected status body failure =>
    refine ⟨iff_of_false nofun ?_, ?_, ?_⟩
    · rintro ⟨_, _, hmem, hsuccess⟩
      cases (hasked _).mp hmem
      exact failure hsuccess
    · intro _ _ hmem _
      cases (hasked _).mp hmem
      exact ⟨_, rfl, rfl⟩
    · intro _ hnone
      exact absurd ((hasked _).mpr rfl) (hnone status body)

/-- Where nothing is sent there is no answer. -/
theorem performs_of_unposed {f : Fault} (h : Event.posed es = [])
    (hf : IsAbsolute e.url → ∃ r, f = .refused r ∧ r.status = none) :
    Performs e es (some (.error f)) := by
  have hasked : ∀ reply, .asked e.message reply ∉ es := by
    intro reply hmem
    have hposed := Event.mem_posed_of_asked hmem
    rw [h] at hposed
    cases hposed
  refine ⟨by simp [hasked], by simp [hasked], ?_⟩
  intro hurl _
  obtain ⟨r, rfl, hstatus⟩ := hf hurl
  exact ⟨r, rfl, hstatus⟩

theorem Once.performs {result : Option (Except Fault Unit)} (h : Once serve e es Ignores result) :
    Performs e es result := by
  by_cases hurl : IsAbsolute e.url
  · by_cases hcan : CanSend e.message
    · obtain ⟨hquestions, x, rfl, hyields⟩ := h.sent hurl hcan
      exact performs_of_yields hyields fun _ => asked_mem_iff_of_questions hquestions
    · obtain ⟨hposed, why, rfl⟩ := h.unsent hurl hcan
      exact performs_of_unposed hposed fun _ => ⟨_, rfl, rfl⟩
  · obtain ⟨hposed, rfl⟩ := h.relative hurl
    exact performs_of_unposed hposed fun habsolute => absurd habsolute hurl

/-- A body has come with a successful answer. -/
theorem Once.answer_of_ok {body : Body} (h : Once serve e es Hands (some (.ok body))) :
    ∃ status, serve e.message = .answer status body ∧
      .asked e.message (.answer status body) ∈ es ∧ 200 ≤ status ∧ status ≤ 299 := by
  by_cases hurl : IsAbsolute e.url
  · by_cases hcan : CanSend e.message
    · obtain ⟨hquestions, x, hx, hyields⟩ := h.sent hurl hcan
      cases hx
      generalize hreply : serve e.message = reply at hyields
      cases hyields with
      | accepted success judged =>
        cases judged
        exact ⟨_, rfl, (asked_mem_iff_of_questions hquestions).mpr hreply, success⟩
    · obtain ⟨-, why, hx⟩ := h.unsent hurl hcan
      cases hx
  · cases (h.relative hurl).2

theorem Once.agrees (h : Once serve e es Hands (some x)) (label url : String) :
    Agrees serve e es (some (x >>= fun _ => .ok ())) (some (x >>= Body.value label url)) := by
  cases x with
  | error f => exact .failed f
  | ok body =>
    obtain ⟨status, hreply, hcame, hsuccess⟩ := h.answer_of_ok
    exact .answered hreply hcame hsuccess (delivers_value label url body)

end Courses

section Serving

variable (service : Service) (limit : Nat) (serve : Message → Reply)

/-- The exchanges of an order at a server, and what comes of it. -/
def Order.made (o : Order) : Exchanges × Option (Except Fault Unit) :=
  (exchanges limit (o.calling service)).play serve

/-- The exchanges of an inquiry at a server, and what comes of it. -/
def Inquiry.made (q : Inquiry) : Exchanges × Option (Except Fault Json) :=
  (exchanges limit (q.calling service)).play serve

/-- An order and an inquiry that do the same errand are what becomes of one and the same request. -/
theorem exists_made (o : Order) (q : Inquiry) (he : o.errand = q.errand) :
    ∃ es x, Once serve q.errand es Hands (some x) ∧
      o.made service limit serve = (es, some (x >>= fun _ => .ok ())) ∧
      q.made service limit serve =
        (es, some (x >>= Body.value service.name (Address.shown q.errand.url))) := by
  rw [Order.made, Inquiry.made, exchanges_order, exchanges_inquiry, he]
  by_cases hurl : IsAbsolute q.errand.url
  · let r : Request := ⟨q.errand.method, q.errand.url, q.errand.token, q.errand.body, hurl⟩
    have horder := play_bind_lift serve (send service.name r) fun _ => .ok ()
    have hinquiry := play_bind_lift serve (send service.name r)
      (Body.value service.name (Address.shown r.url))
    refine ⟨_, _, once_play_send service.name serve r, ?_, ?_⟩
    · rw [play_some, Errand.carriedOut_of_absolute _ hurl]
      exact congrArg (fun run => (run.1, some run.2)) horder
    · rw [play_some, Errand.carriedOut_of_absolute _ hurl]
      exact congrArg (fun run => (run.1, some run.2)) hinquiry
  · rw [Errand.carriedOut_of_not_absolute _ hurl, Errand.carriedOut_of_not_absolute _ hurl]
    refine ⟨[], .error _, ⟨List.nil_prefix, fun _ => ⟨rfl, rfl⟩, ?_, ?_⟩, rfl, rfl⟩
    · exact fun habsolute => absurd habsolute hurl
    · exact fun habsolute => absurd habsolute hurl

theorem order_made (o : Order) :
    ∃ es result, o.made service limit serve = (es, result) ∧
      Once serve o.errand es Ignores result ∧ Performs o.errand es result := by
  obtain ⟨es, x, honce, horder, -⟩ := exists_made service limit serve o (.perform o.errand) rfl
  have hdone : Once serve o.errand es Ignores (some (x >>= fun _ => .ok ())) :=
    honce.bind fun _ => rfl
  exact ⟨es, _, horder, hdone, hdone.performs⟩

theorem inquiry_made (q : Inquiry) :
    ∃ es result, q.made service limit serve = (es, result) ∧
      Once serve q.errand es Delivers result := by
  obtain ⟨es, x, honce, -, hinquiry⟩ := exists_made service limit serve (.perform q.errand) q rfl
  exact ⟨es, _, hinquiry, honce.bind (delivers_value _ _)⟩

theorem order_agrees_inquiry (o : Order) (q : Inquiry) (he : o.errand = q.errand) :
    ∃ es result result', o.made service limit serve = (es, result) ∧
      q.made service limit serve = (es, result') ∧ Agrees serve q.errand es result result' := by
  obtain ⟨es, x, honce, horder, hinquiry⟩ := exists_made service limit serve o q he
  exact ⟨es, _, _, horder, hinquiry, honce.agrees _ _⟩

/-- At every server an errand whose address is absolute, and whose message can be sent, is exactly
one message to it, and what comes of it is what the one answer yields; every other errand is no
message at all. Without a look at the answer it is done by a successful one, whatever the body, and
else refused with the status that came, if any did. With a look at the answer it exchanges the same,
fails in the same way, and otherwise comes to what the body delivers. -/
theorem one_attempt :
    (∀ o : Order, ∃ es result, o.made service limit serve = (es, result) ∧
      Once serve o.errand es Ignores result ∧ Performs o.errand es result) ∧
    (∀ q : Inquiry, ∃ es result, q.made service limit serve = (es, result) ∧
      Once serve q.errand es Delivers result) ∧
    ∀ (o : Order) (q : Inquiry), o.errand = q.errand →
      ∃ es result result', o.made service limit serve = (es, result) ∧
        q.made service limit serve = (es, result') ∧ Agrees serve q.errand es result result' :=
  ⟨order_made service limit serve, inquiry_made service limit serve,
    order_agrees_inquiry service limit serve⟩

end Serving

/-- A server that has a list at one address and nothing at any other. -/
def listAt (m : Message) : Reply :=
  match m.url with
  | "http://h/a" => .answer 200 ⟨Text.Utf8.encode "[1]", true⟩
  | _ => .answer 404 ⟨Text.Utf8.encode "\x7b\"code\":20003\x7d", true⟩

def fetch (url : String) : Errand := ⟨.get, url, "t", none⟩

/-- Where the list is, and where it is not. -/
theorem one_attempt_listAt :
    (∃ es, (Order.perform (fetch "http://h/a")).made .platform 1 listAt = (es, some (.ok ())) ∧
      (Inquiry.get "http://h/a" "t").made .platform 1 listAt =
        (es, some (.ok (.array [.number (.integer 1)]))) ∧
      Event.questions es =
        [⟨(fetch "http://h/a").message, listAt (fetch "http://h/a").message⟩]) ∧
    ∃ es r, (Order.perform (fetch "http://h/b")).made .platform 1 listAt =
        (es, some (.error (.refused r))) ∧
      (Inquiry.get "http://h/b" "t").made .platform 1 listAt = (es, some (.error (.refused r))) ∧
      Event.questions es =
        [⟨(fetch "http://h/b").message, listAt (fetch "http://h/b").message⟩] ∧
      r.status = some 404 := by
  obtain ⟨horder, -, hboth⟩ := one_attempt .platform 1 listAt
  have hread : Json.read (Text.Utf8.encode "[1]") = .ok (.array [.number (.integer 1)]) := rfl
  constructor
  · obtain ⟨es, _, hmade, honce, -⟩ := horder (.perform (fetch "http://h/a"))
    obtain ⟨_, _, _, hmade', hinquiry, hagrees⟩ :=
      hboth (.perform (fetch "http://h/a")) (.get "http://h/a" "t") rfl
    cases hmade.symm.trans hmade'
    obtain ⟨hquestions, x, rfl, hyields⟩ := honce.sent (by decide) (by decide +kernel)
    cases hyields with
    | rejected failure => exact absurd (by decide) failure
    | accepted _ judged =>
      cases judged
      cases hagrees with
      | answered reply _ _ delivers =>
        cases reply
        obtain rfl := delivers.eq_ok_of_reads rfl ⟨0x5B, by decide, by decide⟩ hread
        exact ⟨es, hmade, hinquiry, hquestions⟩
  · obtain ⟨es, _, hmade, honce, -⟩ := horder (.perform (fetch "http://h/b"))
    obtain ⟨_, _, _, hmade', hinquiry, hagrees⟩ :=
      hboth (.perform (fetch "http://h/b")) (.get "http://h/b" "t") rfl
    cases hmade.symm.trans hmade'
    obtain ⟨hquestions, x, rfl, hyields⟩ := honce.sent (by decide) (by decide +kernel)
    cases hyields with
    | accepted success => exact absurd success (by decide)
    | rejected =>
      cases hagrees
      exact ⟨es, _, hmade, hinquiry, hquestions, rfl⟩

end Tenancy.Http
