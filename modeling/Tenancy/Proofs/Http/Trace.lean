import Tenancy.Proofs.Http.Attempt
import Tenancy.Proofs.Http.Paging
import Tenancy.Proofs.Reports

/-!
# Traces

What a gateway notes of its requests, held against what its server receives. The jobs of a gateway
come to attempts, page by page where it lists; each attempt has its place in the notes and in the
traffic of a run (`trace_mirrors_traffic`).
-/

namespace Tenancy.Http

open Program

/-- Whether the server has received what comes to this. -/
def Reply.isFromServer : Reply → Bool
  | unreachable => false
  | dropped | answer .. => true

/-- What becomes of an errand. -/
inductive Fate where
  /-- Its address is not absolute. -/
  | refused
  /-- Its message cannot be sent. -/
  | unbuilt
  | sent (reply : Reply)

namespace Fate

/-- Whether a request was to be sent. -/
def isTried : Fate → Bool
  | refused => false
  | unbuilt | sent _ => true

/-- Whether the server received it. -/
def isReceived : Fate → Bool
  | refused | unbuilt => false
  | sent reply => reply.isFromServer

end Fate

/-- What an errand comes to. -/
inductive Errand.Comes (e : Errand) : Fate → Except Fault Body → Prop where
  | refused (relative : ¬ IsAbsolute e.url) :
    Comes e .refused (.error (.invalid s!"request url '{e.url}' must be absolute"))
  | unbuilt (why : String) (absolute : IsAbsolute e.url) (cannot : ¬ CanSend e.message) :
    Comes e .unbuilt (.error (.refused (.unanswered why)))
  | unanswered {reply : Reply} (why : String) (absolute : IsAbsolute e.url)
    (can : CanSend e.message) (none : reply = .unreachable ∨ reply = .dropped) :
    Comes e (.sent reply) (.error (.refused (.unanswered why)))
  | accepted {status : Nat} {body : Body} (absolute : IsAbsolute e.url) (can : CanSend e.message)
    (success : 200 ≤ status ∧ status ≤ 299) : Comes e (.sent (.answer status body)) (.ok body)
  | rejected {status : Nat} {body : Body} (absolute : IsAbsolute e.url) (can : CanSend e.message)
    (failure : ¬ (200 ≤ status ∧ status ≤ 299)) :
    Comes e (.sent (.answer status body)) (.error (.refused (refusal status body.text)))

/-- An errand of a gateway, with what it came to. -/
structure Attempt where
  service : Service
  errand : Errand
  fate : Fate
  result : Except Fault Body

namespace Attempt

/-- The code of the fault that it ends with. -/
def code (a : Attempt) : String :=
  match a.result with
  | .error (.refused r) => r.code.getD "-"
  | _ => "-"

def sending (a : Attempt) : Note :=
  ⟨.debug, "sending request", [("service", a.service.name), ("method", a.errand.method.name),
    ("url", a.errand.url)]⟩

def rejected (a : Attempt) (status : Nat) : Note :=
  ⟨.debug, "request rejected", [("service", a.service.name), ("status", toString status),
    ("code", a.code)]⟩

/-- What is noted of an attempt. -/
def log (a : Attempt) : List Note :=
  match a.fate with
  | .refused => []
  | .unbuilt | .sent .unreachable | .sent .dropped => [a.sending]
  | .sent (.answer status _) =>
    if 200 ≤ status ∧ status ≤ 299 then [a.sending] else [a.sending, a.rejected status]

/-- The message that was on its way, and what came back. -/
def exchange? (a : Attempt) : Option ((_ : Message) × Reply) :=
  match a.fate with
  | .refused | .unbuilt => none
  | .sent reply => some ⟨a.errand.message, reply⟩

/-- The same as it happens in a run. -/
def traffic (a : Attempt) : Exchanges :=
  a.exchange?.toList.map fun x => .asked x.1 x.2

/-- What happens in an attempt: a rejection is noted once the reply is there. -/
def events (a : Attempt) : Exchanges :=
  (a.log.take 1).map .noted ++ a.traffic ++ (a.log.drop 1).map .noted

end Attempt

/-- The messages that the server received. -/
def received (es : Exchanges) : List Message :=
  ((Event.questions es).filter (·.2.isFromServer)).map (·.1)

/-- What a gateway is used for. -/
inductive Job where
  | list (base token path : String) (visit : Visitor)
  | order (o : Order)
  | inquiry (q : Inquiry)

/-- The exchanges of a job, with what it comes to where it is not given up. -/
def Job.exchanges (limit : Nat) (service : Service) :
    Job → Program Message (fun _ => Reply) (Option (Except Fault Unit))
  | list base token path visit =>
    Option.map Listing.ending <$> answer limit ⟨service, .list base token path visit⟩
  | order o => Http.exchanges limit (o.calling service)
  | inquiry q => Option.map (Except.map fun _ => ()) <$> Http.exchanges limit (q.calling service)

/-- The exchanges of jobs one after the other, each for the gateway of a service. -/
def inTurn (limit : Nat) (jobs : List (Service × Job)) :
    Program Message (fun _ => Reply) (List (Option (Except Fault Unit))) :=
  jobs.mapM fun (service, job) => job.exchanges limit service

/-- What is asked for one page. -/
def look (token url : String) : Errand :=
  ⟨.get, url, token, none⟩

/-- The page that an errand has brought. -/
def pageOf (service : Service) (url : String) (x : Except Fault Body) : Except Fault Page := do
  let body ← x
  let document ← body.value service.name (Address.shown url)
  Page.ofJson service.name url document

/-- The attempts of a listing from a url on, `seen` having been visited, and how it ends. -/
inductive Pages (service : Service) (base token : String) (visit : Visitor) :
    Nat → List Json → String → List Attempt → Option (Except Fault Unit) → Prop where
  | givenUp {seen : List Json} {url : String} :
    Pages service base token visit 0 seen url [] none
  | failed {limit : Nat} {seen : List Json} {url : String} {fate : Fate} {x : Except Fault Body}
    {f : Fault} (page : pageOf service url x = .error f) :
    Pages service base token visit (limit + 1) seen url [⟨service, look token url, fate, x⟩]
      (some (.error f))
  | ended {limit : Nat} {seen seen' : List Json} {url : String} {fate : Fate}
    {x : Except Fault Body} {p : Page} {ending : Except Fault Unit}
    (page : pageOf service url x = .ok p)
    (walk : visit.walk seen p.values = (seen', some ending)) :
    Pages service base token visit (limit + 1) seen url [⟨service, look token url, fate, x⟩]
      (some ending)
  | last {limit : Nat} {seen seen' : List Json} {url : String} {fate : Fate}
    {x : Except Fault Body} {p : Page} (page : pageOf service url x = .ok p)
    (walk : visit.walk seen p.values = (seen', none)) (next : p.nextUrl base = none) :
    Pages service base token visit (limit + 1) seen url [⟨service, look token url, fate, x⟩]
      (some (.ok ()))
  | stuck {limit : Nat} {seen seen' : List Json} {url : String} {fate : Fate}
    {x : Except Fault Body} {p : Page} (page : pageOf service url x = .ok p)
    (walk : visit.walk seen p.values = (seen', none)) (next : p.nextUrl base = some url) :
    Pages service base token visit (limit + 1) seen url [⟨service, look token url, fate, x⟩]
      (some (.error (.internal s!"{service.name} pagination did not advance past {url}")))
  | further {limit : Nat} {seen seen' : List Json} {url further : String} {fate : Fate}
    {x : Except Fault Body} {p : Page} {as : List Attempt} {outcome : Option (Except Fault Unit)}
    (page : pageOf service url x = .ok p) (walk : visit.walk seen p.values = (seen', none))
    (next : p.nextUrl base = some further) (advances : further ≠ url)
    (rest : Pages service base token visit limit seen' further as outcome) :
    Pages service base token visit (limit + 1) seen url (⟨service, look token url, fate, x⟩ :: as)
      outcome

/-- The attempts of a job, and what it comes to. -/
inductive Job.Tries (limit : Nat) (service : Service) :
    Job → List Attempt → Option (Except Fault Unit) → Prop where
  | list {base token path : String} {visit : Visitor} {as : List Attempt}
    {outcome : Option (Except Fault Unit)}
    (pages : Pages service base token visit limit [] (Page.link base path) as outcome) :
    Tries limit service (.list base token path visit) as outcome
  | order {o : Order} {fate : Fate} {x : Except Fault Body} :
    Tries limit service (.order o) [⟨service, o.errand, fate, x⟩] (some (x.map fun _ => ()))
  | inquiry {q : Inquiry} {fate : Fate} {x : Except Fault Body} :
    Tries limit service (.inquiry q) [⟨service, q.errand, fate, x⟩]
      (some ((x >>= Body.value service.name (Address.shown q.errand.url)).map fun _ => ()))

/-- The attempts of jobs one after the other. The fault of an attempt is what its job comes to. -/
inductive Tried (limit : Nat) :
    List (Service × Job) → List Attempt → List (Option (Except Fault Unit)) → Prop where
  | nil : Tried limit [] [] []
  | cons {service : Service} {job : Job} {jobs : List (Service × Job)} {as as' : List Attempt}
    {outcome : Option (Except Fault Unit)} {outcomes : List (Option (Except Fault Unit))}
    (tries : job.Tries limit service as outcome)
    (returns : ∀ a ∈ as, ∀ f, a.result = .error f → outcome = some (.error f))
    (rest : Tried limit jobs as' outcomes) :
    Tried limit ((service, job) :: jobs) (as ++ as') (outcome :: outcomes)

/-- The notes and the traffic of a run, attempt by attempt. -/
structure Mirrors (limit : Nat) (jobs : List (Service × Job)) (es : Exchanges)
    (outcomes : List (Option (Except Fault Unit))) (attempts : List Attempt) : Prop where
  tried : Tried limit jobs attempts outcomes
  comes : ∀ a ∈ attempts, a.errand.Comes a.fate a.result
  /-- Nothing else is noted, and a rejection stands right behind its request. -/
  logged : es.filterMap Event.note? = attempts.flatMap Attempt.log
  exchanged : Event.questions es = attempts.filterMap Attempt.exchange?
  /-- One note of a request for each one that was to be sent. -/
  announced : (es.filterMap Event.note?).filter (·.message = "sending request") =
    (attempts.filter (·.fate.isTried)).map Attempt.sending
  /-- The server received those requests that were built and got there. -/
  arrived : received es = (attempts.filter (·.fate.isReceived)).map (·.errand.message)
  /-- A request that is refused for its address is not noted. -/
  silent : ∀ a ∈ attempts, ¬ IsAbsolute a.errand.url → a.log = []

section Attempts

variable {e : Errand} {fate : Fate} {x : Except Fault Body} {service : Service} {es : Exchanges}

theorem Attempt.log_of_success {a : Attempt} {status : Nat} {body : Body}
    (hfate : a.fate = .sent (.answer status body)) (h : 200 ≤ status ∧ status ≤ 299) :
    a.log = [a.sending] := by
  rw [log, hfate]
  exact if_pos h

theorem Attempt.log_of_failure {a : Attempt} {status : Nat} {body : Body}
    (hfate : a.fate = .sent (.answer status body)) (h : ¬ (200 ≤ status ∧ status ≤ 299)) :
    a.log = [a.sending, a.rejected status] := by
  rw [log, hfate]
  exact if_neg h

/-- What comes of an errand that is on its way. -/
theorem comes_of_conclude {a : Address} {reply : Reply} (hurl : IsAbsolute e.url)
    (hcan : CanSend e.message) (h : (conclude service.name e.message a reply).Runs es x) :
    e.Comes (.sent reply) x ∧
      Attempt.events ⟨service, e, .sent reply, x⟩ =
        .noted (Attempt.sending ⟨service, e, .sent reply, x⟩) :: .asked e.message reply :: es := by
  cases reply with
  | unreachable =>
    obtain ⟨rfl, rfl⟩ := runs_done_iff.mp h
    exact ⟨.unanswered _ hurl hcan (.inl rfl), rfl⟩
  | dropped =>
    obtain ⟨rfl, rfl⟩ := runs_done_iff.mp h
    exact ⟨.unanswered _ hurl hcan (.inr rfl), rfl⟩
  | answer status body =>
    rw [conclude] at h
    by_cases hsuccess : isSuccess status = true
    · rw [if_pos hsuccess] at h
      obtain ⟨rfl, rfl⟩ := runs_done_iff.mp h
      rw [isSuccess_iff] at hsuccess
      refine ⟨.accepted hurl hcan hsuccess, ?_⟩
      rw [Attempt.events, Attempt.log_of_success rfl hsuccess]
      rfl
    · rw [if_neg hsuccess] at h
      obtain ⟨rest, rfl, hdone⟩ := runs_note_iff.mp h
      obtain ⟨rfl, rfl⟩ := runs_done_iff.mp hdone
      rw [isSuccess_iff] at hsuccess
      refine ⟨.rejected hurl hcan hsuccess, ?_⟩
      rw [Attempt.events, Attempt.log_of_failure rfl hsuccess]
      rfl

/-- An errand that is carried out comes to what its events say. -/
theorem comes_of_runs (h : (e.carriedOut (send service.name)).run.Runs es x) :
    ∃ fate, e.Comes fate x ∧ es = Attempt.events ⟨service, e, fate, x⟩ := by
  by_cases hurl : IsAbsolute e.url
  · have hm : Message.of ⟨e.method, e.url, e.token, e.body, hurl⟩ = e.message := rfl
    rw [Errand.carriedOut_of_absolute _ hurl, run_send, hm, runs_note_iff] at h
    obtain ⟨rest, rfl, hsend⟩ := h
    cases haddress : e.message.address with
    | error o =>
      rw [haddress] at hsend
      obtain ⟨rfl, rfl⟩ := runs_done_iff.mp hsend
      have hcannot : ¬ CanSend e.message := by simp [canSend_iff, haddress]
      exact ⟨.unbuilt, .unbuilt _ hurl hcannot, rfl⟩
    | ok a =>
      rw [haddress] at hsend
      have hcan : CanSend e.message := (canSend_iff _).mpr ⟨a, haddress⟩
      obtain ⟨reply, rest, rfl, hconclude⟩ := runs_ask_iff.mp hsend
      obtain ⟨hcomes, hevents⟩ := comes_of_conclude hurl hcan hconclude
      exact ⟨.sent reply, hcomes, hevents.symm⟩
  · rw [Errand.carriedOut_of_not_absolute _ hurl] at h
    obtain ⟨rfl, rfl⟩ := runs_done_iff.mp h
    exact ⟨.refused, .refused hurl, rfl⟩

/-- An errand whose result is looked at more closely is carried out all the same. -/
theorem runs_carriedOut_bind {α : Type} {label : String} {g : String → Body → Except Fault α}
    {y : Except Fault α}
    (h : (e.carriedOut fun r => send label r >>= fun b => liftM (g r.url b)).run.Runs es y) :
    ∃ x, (e.carriedOut (send label)).run.Runs es x ∧ y = x >>= g e.url := by
  by_cases hurl : IsAbsolute e.url
  · rw [Errand.carriedOut_of_absolute _ hurl] at h ⊢
    exact runs_run_bind_lift_iff.mp h
  · rw [Errand.carriedOut_of_not_absolute _ hurl] at h ⊢
    obtain ⟨rfl, rfl⟩ := runs_done_iff.mp h
    exact ⟨_, .refl _, rfl⟩

end Attempts

section Jobs

variable {limit : Nat} {service : Service} {es : Exchanges}

/-- A page is what a look has come to. -/
theorem page_of_runs {token url : String} {y : Except Fault Page}
    (h : (getPage service.name token url).run.Runs es y) :
    ∃ fate x, (look token url).Comes fate x ∧
      es = Attempt.events ⟨service, look token url, fate, x⟩ ∧ y = pageOf service url x := by
  obtain ⟨document, hdocument, rfl⟩ := runs_run_bind_lift_iff.mp h
  obtain ⟨x, hx, rfl⟩ := runs_carriedOut_bind (e := look token url)
    (g := fun url b => b.value service.name (Address.shown url)) hdocument
  obtain ⟨fate, hcomes, hevents⟩ := comes_of_runs hx
  refine ⟨fate, x, hcomes, hevents, ?_⟩
  cases x <;> rfl

/-- Attempts, each with what it comes to, of which a run is composed. -/
structure Composes (as : List Attempt) (es : Exchanges) : Prop where
  comes : ∀ a ∈ as, a.errand.Comes a.fate a.result
  events : es = as.flatMap Attempt.events

theorem Composes.nil : Composes [] [] :=
  ⟨List.forall_mem_nil _, rfl⟩

theorem Composes.append {as as' : List Attempt} {es es' : Exchanges} (h : Composes as es)
    (h' : Composes as' es') : Composes (as ++ as') (es ++ es') where
  comes := fun a ha => (List.mem_append.mp ha).elim (h.comes a) (h'.comes a)
  events := by rw [h.events, h'.events, List.flatMap_append]

theorem Composes.single {a : Attempt} (h : a.errand.Comes a.fate a.result) :
    Composes [a] a.events where
  comes := by simpa using h
  events := by simp

variable {base token : String} {visit : Visitor}

/-- A listing asks for one page after the other, each in an attempt of its own. -/
theorem pages_of_runs {seen : List Json} {url : String} {outcome : Option Listing}
    (h : (listFrom service.name base token visit limit seen url).Runs es outcome) :
    ∃ as, Pages service base token visit limit seen url as (outcome.map Listing.ending) ∧
      Composes as es := by
  induction limit generalizing seen url es with
  | zero =>
    obtain ⟨rfl, rfl⟩ := runs_done_iff.mp h
    exact ⟨[], .givenUp, .nil⟩
  | succ limit ih =>
    rw [listFrom_succ] at h
    obtain ⟨first, y, rest, rfl, hpage, h⟩ := runs_bind_iff.mp h
    obtain ⟨fate, x, hcomes, rfl, hy⟩ := page_of_runs hpage
    have hfirst := Composes.single (a := ⟨service, look token url, fate, x⟩) hcomes
    cases y with
    | error f =>
      obtain ⟨rfl, rfl⟩ := runs_done_iff.mp h
      exact ⟨_, .failed hy.symm, by simpa using hfirst⟩
    | ok p =>
      rw [listOn] at h
      -- Only a page whose values have all been visited can lead to another one.
      rcases hwalk : visit.walk seen p.values with ⟨seen', _ | ending⟩
      · rw [hwalk] at h
        dsimp only at h
        cases hnext : p.nextUrl base with
        | none =>
          rw [hnext] at h
          obtain ⟨rfl, rfl⟩ := runs_done_iff.mp h
          exact ⟨_, .last hy.symm hwalk hnext, by simpa using hfirst⟩
        | some next =>
          rw [hnext] at h
          dsimp only at h
          by_cases hself : next = url
          · subst hself
            rw [if_pos rfl] at h
            obtain ⟨rfl, rfl⟩ := runs_done_iff.mp h
            exact ⟨_, .stuck hy.symm hwalk hnext, by simpa using hfirst⟩
          · rw [if_neg hself] at h
            obtain ⟨as, hpages, hcomposes⟩ := ih h
            exact ⟨_, .further hy.symm hwalk hnext hself hpages, hfirst.append hcomposes⟩
      · rw [hwalk] at h
        obtain ⟨rfl, rfl⟩ := runs_done_iff.mp h
        exact ⟨_, .ended hy.symm hwalk, by simpa using hfirst⟩

/-- A page that cannot be had is the last one, and its fault is what the listing ends with. -/
theorem Pages.returns {seen : List Json} {url : String} {as : List Attempt}
    {outcome : Option (Except Fault Unit)}
    (h : Pages service base token visit limit seen url as outcome) {a : Attempt} (ha : a ∈ as)
    {f : Fault} (hf : a.result = .error f) : outcome = some (.error f) := by
  have hpage : ∀ {url : String}, pageOf service url (.error f) = .error f := rfl
  induction h with
  | givenUp => exact nomatch ha
  | failed page =>
    obtain rfl := List.mem_singleton.mp ha
    obtain rfl : _ = Except.error f := hf
    rw [hpage] at page
    cases page
    rfl
  | ended page | last page | stuck page =>
    obtain rfl := List.mem_singleton.mp ha
    obtain rfl : _ = Except.error f := hf
    exact nomatch page
  | further page _ _ _ _ ih =>
    rcases List.mem_cons.mp ha with rfl | ha
    · obtain rfl : _ = Except.error f := hf
      exact nomatch page
    · exact ih ha

theorem Job.Tries.returns {job : Job} {as : List Attempt} {outcome : Option (Except Fault Unit)}
    (h : job.Tries limit service as outcome) {a : Attempt} (ha : a ∈ as) {f : Fault}
    (hf : a.result = .error f) : outcome = some (.error f) := by
  cases h with
  | list pages => exact pages.returns ha hf
  | order | inquiry =>
    obtain rfl := List.mem_singleton.mp ha
    obtain rfl : _ = Except.error f := hf
    rfl

/-- All that happens while a job is done happens in its attempts. -/
theorem tries_of_runs {job : Job} {outcome : Option (Except Fault Unit)}
    (h : (job.exchanges limit service).Runs es outcome) :
    ∃ as, job.Tries limit service as outcome ∧ Composes as es := by
  cases job with
  | list base token path visit =>
    obtain ⟨listing, hlisting, rfl⟩ := runs_map_iff.mp h
    obtain ⟨as, hpages, hcomposes⟩ := pages_of_runs hlisting
    exact ⟨as, .list hpages, hcomposes⟩
  | order o =>
    rw [Job.exchanges, exchanges_order, runs_map_iff] at h
    obtain ⟨y, hy, rfl⟩ := h
    obtain ⟨x, hx, rfl⟩ := runs_carriedOut_bind (g := fun _ _ => .ok ()) hy
    obtain ⟨fate, hcomes, rfl⟩ := comes_of_runs hx
    have hresult : (x >>= fun _ => .ok ()) = x.map fun _ => () := by cases x <;> rfl
    rw [hresult]
    exact ⟨_, .order, .single hcomes⟩
  | inquiry q =>
    obtain ⟨z, hz, rfl⟩ := runs_map_iff.mp h
    rw [exchanges_inquiry, runs_map_iff] at hz
    obtain ⟨y, hy, rfl⟩ := hz
    obtain ⟨x, hx, rfl⟩ := runs_carriedOut_bind
      (g := fun url b => b.value service.name (Address.shown url)) hy
    obtain ⟨fate, hcomes, rfl⟩ := comes_of_runs hx
    exact ⟨_, .inquiry, .single hcomes⟩

theorem tried_of_runs {jobs : List (Service × Job)} {outcomes : List (Option (Except Fault Unit))}
    (h : (inTurn limit jobs).Runs es outcomes) :
    ∃ as, Tried limit jobs as outcomes ∧ Composes as es := by
  induction jobs generalizing es outcomes with
  | nil =>
    obtain ⟨rfl, rfl⟩ := runs_done_iff.mp h
    exact ⟨[], .nil, .nil⟩
  | cons first jobs ih =>
    rw [inTurn, List.mapM_cons] at h
    obtain ⟨front, outcome, back, rfl, hfirst, h⟩ := runs_bind_iff.mp h
    obtain ⟨middle, outcomes', back, rfl, hrest, hdone⟩ := runs_bind_iff.mp h
    obtain ⟨rfl, rfl⟩ := runs_done_iff.mp hdone
    obtain ⟨as, htries, hcomposes⟩ := tries_of_runs hfirst
    obtain ⟨as', htried, hcomposes'⟩ := ih hrest
    rw [List.append_nil]
    exact ⟨as ++ as', .cons htries (fun a ha f hf => htries.returns ha hf) htried,
      hcomposes.append hcomposes'⟩

end Jobs

section Composing

variable {es : Exchanges} {as : List Attempt}

theorem Errand.Comes.refused_of_relative {e : Errand} {fate : Fate} {x : Except Fault Body}
    (h : e.Comes fate x) (hurl : ¬ IsAbsolute e.url) : fate = .refused := by
  cases h with
  | refused => rfl
  | unbuilt _ absolute | unanswered _ absolute | accepted absolute | rejected absolute =>
    exact absurd absolute hurl

namespace Attempt

theorem note?_events (a : Attempt) : a.events.filterMap Event.note? = a.log := by
  have hnotes : ∀ ns : List Note, (ns.map Event.noted : Exchanges).filterMap Event.note? = ns := by
    intro ns
    rw [List.filterMap_map]
    exact List.filterMap_some
  have htraffic : a.traffic.filterMap Event.note? = [] := by
    rw [traffic]
    cases a.exchange? <;> rfl
  rw [events, List.filterMap_append, List.filterMap_append, hnotes, hnotes, htraffic,
    List.append_nil, List.take_append_drop]

theorem questions_events (a : Attempt) : Event.questions a.events = a.exchange?.toList := by
  have hnotes : ∀ ns : List Note, Event.questions (ns.map Event.noted : Exchanges) = [] := by
    intro ns
    induction ns with
    | nil => rfl
    | cons n ns ih => exact ih
  rw [events, Event.questions_append, Event.questions_append, hnotes, hnotes, traffic]
  cases a.exchange? <;> rfl

/-- Just the first note of an attempt says that a request is sent. -/
theorem filter_log (a : Attempt) :
    a.log.filter (·.message = "sending request") = if a.fate.isTried then [a.sending] else [] := by
  cases hfate : a.fate with
  | refused => rw [log, hfate]; rfl
  | unbuilt => rw [log, hfate]; rfl
  | sent reply =>
    cases reply with
    | unreachable | dropped => rw [log, hfate]; rfl
    | answer status body =>
      by_cases hsuccess : 200 ≤ status ∧ status ≤ 299
      · rw [log_of_success hfate hsuccess]
        rfl
      · rw [log_of_failure hfate hsuccess]
        rfl

theorem filter_flatMap_log (as : List Attempt) :
    (as.flatMap log).filter (·.message = "sending request") =
      (as.filter (·.fate.isTried)).map sending := by
  induction as with
  | nil => rfl
  | cons a as ih =>
    rw [List.flatMap_cons, List.filter_append, filter_log, ih, List.filter_cons]
    cases a.fate.isTried <;> rfl

theorem filter_exchanges (as : List Attempt) :
    ((as.filterMap exchange?).filter (·.2.isFromServer)).map (·.1) =
      (as.filter (·.fate.isReceived)).map (·.errand.message) := by
  induction as with
  | nil => rfl
  | cons a as ih =>
    rw [List.filterMap_cons, List.filter_cons, exchange?]
    cases a.fate with
    | refused | unbuilt => exact ih
    | sent reply =>
      cases reply with
      | unreachable => exact ih
      | dropped | answer => exact congrArg (a.errand.message :: ·) ih

end Attempt

/-- A run that is composed of attempts has them in its notes and in its traffic. -/
theorem Composes.mirrors {limit : Nat} {jobs : List (Service × Job)}
    {outcomes : List (Option (Except Fault Unit))} (h : Composes as es)
    (htried : Tried limit jobs as outcomes) : Mirrors limit jobs es outcomes as := by
  have hlogged : es.filterMap Event.note? = as.flatMap Attempt.log := by
    rw [h.events, List.filterMap_flatMap]
    simp only [Attempt.note?_events]
  have hexchanged : Event.questions es = as.filterMap Attempt.exchange? := by
    rw [h.events, Event.questions, List.filterMap_flatMap, List.filterMap_eq_flatMap_toList]
    exact congrArg (as.flatMap ·) (funext Attempt.questions_events)
  refine ⟨htried, h.comes, hlogged, hexchanged, ?_, ?_, fun a ha hurl => ?_⟩
  · rw [hlogged, Attempt.filter_flatMap_log]
  · rw [received, hexchanged, Attempt.filter_exchanges]
  · rw [Attempt.log, (h.comes a ha).refused_of_relative hurl]

end Composing

/-- The notes of a gateway mirror its traffic. Whatever it is used for and whatever its server does,
it notes each request when it is to be sent, in order, by its label, method and url; the server has
received those of them that could be built and got there. A rejection is noted right behind its
request, with the status and the code of the fault that is returned, just where the reply is not a
successful one. What is refused for its address leaves no note. -/
theorem trace_mirrors_traffic {limit : Nat} {jobs : List (Service × Job)} {es : Exchanges}
    {outcomes : List (Option (Except Fault Unit))} (h : (inTurn limit jobs).Runs es outcomes) :
    ∃ attempts, Mirrors limit jobs es outcomes attempts := by
  obtain ⟨attempts, htried, hcomposes⟩ := tried_of_runs h
  exact ⟨attempts, hcomposes.mirrors htried⟩

/-- A server that is not always there, and does not have all it names. -/
def fickle (m : Message) : Reply :=
  match m.url with
  | "http://h/a" =>
    .answer 200 ⟨Text.Utf8.encode "\x7b\"next_url\":\"/b\",\"resources\":[1]\x7d", true⟩
  | "http://h/b" => .answer 404 ⟨Text.Utf8.encode "\x7b\"code\":20003\x7d", true⟩
  | "http://h/c" => .dropped
  | _ => .unreachable

/-- A relative address, a token that is no header value, two requests without an answer, and a
listing whose second page is rejected. -/
def errands : List (Service × Job) := [
  (.platform, .order (.delete "/a" "t")),
  (.platform, .order (.delete "http://h/a" "\n")),
  (.identity, .inquiry (.get "http://h/c" "t")),
  (.identity, .order (.update "http://d/" "t" none)),
  (.platform, .list "http://h" "t" "/a" untilThird)]

def errandRun : Exchanges × List (Option (Except Fault Unit)) :=
  (inTurn 2 errands).play fickle

theorem trace_mirrors_traffic_fickle :
    (errandRun.1.filterMap Event.note?).map (fun n => (n.message, n.fields.map (·.2))) = [
        ("sending request", ["platform", "DELETE", "http://h/a"]),
        ("sending request", ["identity", "GET", "http://h/c"]),
        ("sending request", ["identity", "PUT", "http://d/"]),
        ("sending request", ["platform", "GET", "http://h/a"]),
        ("sending request", ["platform", "GET", "http://h/b"]),
        ("request rejected", ["platform", "404", "20003"])] ∧
      (received errandRun.1).map (·.url) = ["http://h/c", "http://h/a", "http://h/b"] ∧
      ∃ attempts, Mirrors 2 errands errandRun.1 errandRun.2 attempts := by
  have hrun : (inTurn 2 errands).Runs errandRun.1 errandRun.2 := runs_play fickle _
  exact ⟨by decide +kernel, by decide +kernel, trace_mirrors_traffic hrun⟩

end Tenancy.Http
