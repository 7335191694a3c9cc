import Tenancy.Directory.Action
import Tenancy.Proofs.Visit
import Tenancy.Proofs.World

/-!
# Actions as programs

What each step of an action asks, and what it keeps in a world that answers calls by a law.
-/

namespace Tenancy

variable {σ : Type}

/-- Asking the platform for its information document, and what comes of the answer. -/
theorem Endpoint.run_discover (s : Session) :
    (discover s).run =
      .ask (ρ := Call.Reply) ⟨.platform, .get (infoUrl s) s.token⟩ fun
        | .error f => .done (.error f)
        | .ok document =>
          match ofInfo document with
          | .error f => .done (.error f)
          | .ok address =>
            .note ⟨.debug, "discovered identity endpoint", [("identity_endpoint", address)]⟩
              (.done (.ok address)) := by
  refine congrArg (Program.ask (ρ := Call.Reply) _) ?_
  funext reply
  cases reply with
  | error f => rfl
  | ok document =>
    change (liftM (ofInfo document) >>= _ : Calling String).run = _
    rw [Program.run_bind, Program.run_lift]
    cases h : ofInfo document <;> simp only [h] <;> rfl

/-- Where calls obey a law; asking for an address changes nothing and may be answered anyhow. -/
def Law.onQuestions (law : Law Call Call.Reply σ) :
    Law Directory.Question Directory.Question.Reply σ
  | w, .call c, reply, w' => law w c reply w'
  | w, .endpoint, _, w' => w' = w

namespace Directory.Action

open Program

variable {α β : Type}

theorem run_endpoint : endpoint.run = ask (ρ := Question.Reply) .endpoint done := rfl

theorem run_outcome (a : Action α) : a.outcome.run = a.run >>= fun r => done (.ok r) := rfl

theorem run_noting (a : Action α) (n : Fault → Note) :
    (a.noting n).run = a.run >>= fun
      | .ok x => done (.ok x)
      | .error f => note (n f) (done (.error f)) := by
  rw [noting, run_bind, run_outcome, bind_assoc]
  congr 1

theorem run_perform (service : Service) (method : Method) (url token : String)
    (body : Option Json) :
    (perform service method url token body).run =
      match Request.of? method url token body with
      | .ok r => ask (.call ⟨service, .perform r⟩) done
      | .error f => done (.error f) := by
  cases h : Request.of? method url token body <;>
    simp [perform, ofCalling, Calling.perform, h] <;> rfl

theorem run_performJson (service : Service) (method : Method) (url token : String)
    (body : Option Json) :
    (performJson service method url token body).run =
      match Request.of? method url token body with
      | .ok r => ask (.call ⟨service, .performJson r⟩) done
      | .error f => done (.error f) := by
  cases h : Request.of? method url token body <;>
    simp [performJson, ofCalling, Calling.performJson, h] <;> rfl

theorem run_list (service : Service) (base token path : String) (entry : Json → Except Fault α) :
    (list service base token path entry).run =
      ask (ρ := Question.Reply) (.call ⟨service, .list base token path (.taking entry)⟩)
        fun l => done (l.entries entry) := by
  refine congrArg (ask (ρ := Question.Reply) _) ?_
  funext l
  change (ofCalling (liftM l.ending >>= fun _ => pure _)).run = _
  rw [Listing.entries]
  cases l.ending with
  | error f => rfl
  | ok _ => rfl

section Rules

variable {law : Law Question Question.Reply σ} {calls : Law Call Call.Reply σ} {inv : σ → Prop}
  {post : Except Fault α → σ → Prop} {w : σ}

theorem always_then_iff {a : Action β} {f : β → Action α} :
    (a >>= f).run.Always law inv post w ↔
      a.run.Always law inv (fun r w =>
        match r with
        | .ok x => (f x).run.Always law inv post w
        | .error e => post (.error e) w) w := by
  rw [run_bind, Program.always_bind_iff]
  refine iff_of_eq (congrArg (fun post => a.run.Always law inv post w) ?_)
  funext r w
  cases r <;> rfl

@[simp] theorem always_say_iff {post : Except Fault Unit → σ → Prop} {n : Note} :
    (say n).run.Always law inv post w ↔ post (.ok ()) w := Iff.rfl

/-- Notes change nothing. -/
@[simp] theorem always_noting_iff {a : Action α} {n : Fault → Note} :
    (a.noting n).run.Always law inv post w ↔ a.run.Always law inv post w := by
  rw [run_noting, Program.always_bind_iff]
  refine iff_of_eq (congrArg (fun post => a.run.Always law inv post w) ?_)
  funext r w
  cases r <;> rfl

@[simp] theorem always_outcome_iff {post : Except Fault (Except Fault α) → σ → Prop}
    {a : Action α} :
    a.outcome.run.Always law inv post w ↔ a.run.Always law inv (fun r w => post (.ok r) w) w :=
  Program.always_bind_iff

theorem always_endpoint_iff {post : Except Fault String → σ → Prop} :
    endpoint.run.Always calls.onQuestions inv post w ↔ ∀ reply, inv w ∧ post reply w := by
  simp only [run_endpoint, always_ask, always_done, Law.onQuestions]
  exact ⟨fun h reply => h reply w rfl, fun h reply _ hw => hw ▸ h reply⟩

/-- A request that cannot be made is invalid, and nothing is asked then. -/
theorem always_perform {post : Except Fault Unit → σ → Prop} {service : Service}
    {method : Method} {url token : String} {body : Option Json}
    (hmade : ∀ r : Request, r.method = method → r.url = url → r.body = body →
      ∀ reply w', calls w ⟨service, .perform r⟩ reply w' → inv w' ∧ post reply w')
    (hinvalid : ∀ why, post (.error (.invalid why)) w) :
    (perform service method url token body).run.Always calls.onQuestions inv post w := by
  rw [run_perform]
  by_cases h : IsAbsolute url
  · simp only [Request.of?, h, dite_true, always_ask]
    exact fun reply w' hw => hmade _ rfl rfl rfl reply w' hw
  · simp only [Request.of?, h, dite_false]
    exact hinvalid _

theorem always_performJson {post : Except Fault Json → σ → Prop} {service : Service}
    {method : Method} {url token : String} {body : Option Json}
    (hmade : ∀ r : Request, r.method = method → r.url = url → r.body = body →
      ∀ reply w', calls w ⟨service, .performJson r⟩ reply w' → inv w' ∧ post reply w')
    (hinvalid : ∀ why, post (.error (.invalid why)) w) :
    (performJson service method url token body).run.Always calls.onQuestions inv post w := by
  rw [run_performJson]
  by_cases h : IsAbsolute url
  · simp only [Request.of?, h, dite_true, always_ask]
    exact fun reply w' hw => hmade _ rfl rfl rfl reply w' hw
  · simp only [Request.of?, h, dite_false]
    exact hinvalid _

/-- What an action keeps while nobody but a scripted side says where the identity service is, it
keeps when the address is configured or asked of the platform: a mere look changes nothing. -/
theorem always_calling {s : Session} {source : Endpoint.Source} {a : Action α}
    (hlook : ∀ w url token reply w', calls w ⟨.platform, .get url token⟩ reply w' → w' = w)
    (hinv : inv w) (h : a.run.Always calls.onQuestions inv post w) :
    (a.calling s source).run.Always calls inv post w := by
  refine Always.through ?_ hinv h
  intro q w hinv hafter
  cases q with
  | call c => exact fun reply w' hw => ⟨hafter reply w' hw, hw⟩
  | endpoint =>
    cases source with
    | fixed answer => exact rfl
    | discovered =>
      change (Endpoint.discover s).run.Always _ _ _ _
      rw [Endpoint.run_discover]
      intro reply w' hw
      obtain rfl := hlook _ _ _ _ _ hw
      refine ⟨hinv, ?_⟩
      cases reply with
      | error f => exact rfl
      | ok document =>
        cases h : Endpoint.ofInfo document <;> simp only [h] <;> exact rfl

end Rules

end Directory.Action

/-- A session to show runs of. -/
def Directory.sampleSession : Session := ⟨"http://api", "t", by decide, by decide⟩

end Tenancy
