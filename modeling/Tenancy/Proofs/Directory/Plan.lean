import Tenancy.Proofs.Directory.Phases
import Tenancy.Script.Services

/-!
# Plans of operations

What an operation asks, one step after the other, as long as nothing keeps it from going on. Whoever
answers, a run takes the first steps of the plan and no others (`Operation.keeps_of_takes`), so all
that holds of the steps of a plan holds of every run.
-/

namespace Tenancy

/-- What is written down of a call, apart from its body. -/
structure Head where
  service : Service
  method : String
  url : String
  token : String
deriving DecidableEq

def Call.head (c : Call) : Head :=
  let r := Script.Received.of c
  ⟨c.service, r.method, r.url, r.token⟩

namespace Directory

/-- A call, or the question for the address of the identity service. -/
inductive Step where
  | call (h : Head)
  | address
deriving DecidableEq

def Question.step : Question → Step
  | .call c => .call c.head
  | .endpoint => .address

/-- The steps that are taken in a run. -/
def steps (es : Events) : List Step :=
  (Event.posed es).map Question.step

@[simp] theorem steps_nil : steps [] = [] := rfl

@[simp] theorem steps_noted (n : Note) (es : Events) : steps (.noted n :: es) = steps es := rfl

@[simp] theorem steps_append (es es' : Events) : steps (es ++ es') = steps es ++ steps es' := by
  simp [steps]

@[simp] theorem steps_address (reply : Except Fault String) (es : Events) :
    steps (.asked .endpoint reply :: es) = .address :: steps es := rfl

@[simp] theorem steps_membersIn (s : Session) (path : String) (l : Listing) (es : Events) :
    steps (.asked (membersIn s path) l :: es) =
      .call ⟨.platform, Script.listMethod, s.endpoint ++ path, s.token⟩ :: steps es := rfl

@[simp] theorem steps_accountsAt (s : Session) (url : String) (reply : Except Fault Json)
    (es : Events) :
    steps (.asked (accountsAt s url) reply :: es) =
      .call ⟨.identity, Method.get.name, url, s.token⟩ :: steps es := rfl

def Edit.step (s : Session) (e : Edit) : Step :=
  .call ⟨.platform, e.method.name, grantUrl s e.grant, s.token⟩

namespace Operation

/-- The steps of an operation that finds the identity service at some address and some members in
the collection that it looks into. -/
def plan (s : Session) (endpoint : String) (members : List UserId) : Operation → List Step
  | find username => [
      .address,
      .call ⟨.identity, Method.get.name, (Filter.username username).url endpoint, s.token⟩]
  | holders q =>
    match q.collection with
    | .ok path => [
        .call ⟨.platform, Script.listMethod, s.endpoint ++ path, s.token⟩,
        .address,
        .call ⟨.identity, Method.get.name, (Filter.ofIds members).url endpoint, s.token⟩]
    | .error _ => []
  | create .. => [
      .address,
      .call ⟨.identity, Method.post.name, accountsUrl endpoint, s.token⟩,
      .call ⟨.platform, Method.post.name, usersUrl s, s.token⟩]
  | delete id => [
      .call ⟨.platform, Method.delete.name, userUrl s id, s.token⟩,
      .address,
      .call ⟨.identity, Method.delete.name, accountUrl endpoint id, s.token⟩]
  | change c => c.edits.map (Edit.step s)
  | changeByName n =>
    match n.roleChange with
    | .ok c => c.edits.map (Edit.step s)
    | .error _ => []

end Operation

/-- A run that takes the first steps of a plan, and calls the identity service at an address that it
has been given. -/
structure Keeps (s : Session) (o : Operation) (endpoint : String) (es : Events) : Prop where
  planned : ∃ members, steps es <+: o.plan s endpoint members
  resolved : ∀ h, .call h ∈ steps es → h.service = .identity → .asked .endpoint (.ok endpoint) ∈ es

/-- Either the one call is made, or the request is invalid and nothing is. -/
theorem Requests.steps_cases {β : Type}
    {event : Request → Except Fault β → Event Question Question.Reply} {service : Service}
    {method : Method} {url token : String} {body : Option Json} {es : Events} {r : Except Fault β}
    (h : Requests event method url token body es r)
    (hevent : ∀ r reply, steps [event r reply] = [.call ⟨service, r.method.name, r.url, r.token⟩]) :
    steps es = [.call ⟨service, method.name, url, token⟩] ∨
      steps es = [] ∧ ∃ why, r = .error (.invalid why) := by
  cases h with
  | relative => exact .inr ⟨rfl, _, rfl⟩
  | made hurl reply => exact .inl (hevent _ _)

section Keeping

variable {s : Session} {es : Events}

theorem Finds.keeps {username : String} {r : Except Fault Record} (h : Finds s username es r) :
    ∃ endpoint, Keeps s (.find username) endpoint es := by
  cases h with
  | blank => exact ⟨"", ⟨[], by simp⟩, by simp⟩
  | unresolved named => exact ⟨"", ⟨[], by simp [Operation.plan]⟩, by simp⟩
  | @asked endpoint reply named => exact ⟨endpoint, ⟨[], by simp [Operation.plan]⟩, by simp⟩

theorem Gathers.keeps {q : HolderQuery} {path : String} {r : Except Fault (List Record)}
    (hpath : q.collection = .ok path) (h : Gathers s path es r) :
    ∃ endpoint, Keeps s (.holders q) endpoint es := by
  cases h with
  | unlisted listed => exact ⟨"", ⟨[], by simp [Operation.plan, hpath]⟩, by simp⟩
  | nobody listed => exact ⟨"", ⟨[], by simp [Operation.plan, hpath]⟩, by simp⟩
  | unresolved listed somebody => exact ⟨"", ⟨[], by simp [Operation.plan, hpath]⟩, by simp⟩
  | @asked l members endpoint reply listed somebody =>
    exact ⟨endpoint, ⟨members.map (·.id), by simp [Operation.plan, hpath]⟩, by simp⟩

theorem Creates.keeps {username password : String} {r : Except Fault UserId}
    (h : Creates s username password es r) :
    ∃ endpoint, Keeps s (.create username password) endpoint es := by
  cases h with
  | blank => exact ⟨"", ⟨[], by simp⟩, by simp⟩
  | unprotected => exact ⟨"", ⟨[], by simp⟩, by simp⟩
  | unresolved => exact ⟨"", ⟨[], by simp [Operation.plan]⟩, by simp⟩
  | @unopened endpoint es f named secret opening =>
    refine ⟨endpoint, ⟨[], ?_⟩, by simp⟩
    rcases opening.steps_cases fun _ _ => rfl with hes | ⟨hes, -⟩ <;> simp [Operation.plan, hes]
  | @unread endpoint es document f named secret opening created =>
    refine ⟨endpoint, ⟨[], ?_⟩, by simp⟩
    rcases opening.steps_cases fun _ _ => rfl with hes | ⟨hes, -⟩ <;> simp [Operation.plan, hes]
  | @unlinked endpoint es es' document id f named secret opening created linking =>
    refine ⟨endpoint, ⟨[], ?_⟩, by simp⟩
    rcases opening.steps_cases fun _ _ => rfl with hes | ⟨-, why, hr⟩
    · rcases linking.steps_cases fun _ _ => rfl with hes' | ⟨hes', -⟩ <;>
        simp [Operation.plan, hes, hes']
    · cases hr
  | @linked endpoint es es' document id named secret opening created linking =>
    refine ⟨endpoint, ⟨[], ?_⟩, by simp⟩
    rcases opening.steps_cases fun _ _ => rfl with hes | ⟨-, why, hr⟩
    · rcases linking.steps_cases fun _ _ => rfl with hes' | ⟨hes', -⟩ <;>
        simp [Operation.plan, hes, hes']
    · cases hr

/-- What is left of a deletion's plan once the platform user is gone. -/
theorem Closes.keeps {id : UserId} {r : Except Fault Unit} (h : Closes s id es r) :
    ∃ endpoint, steps es <+:
        [.address, .call ⟨.identity, Method.delete.name, accountUrl endpoint id, s.token⟩] ∧
      ∀ h, .call h ∈ steps es → .asked .endpoint (.ok endpoint) ∈ es := by
  cases h with
  | unresolved => exact ⟨"", by simp, by simp⟩
  | @unclosed endpoint es f closing =>
    refine ⟨endpoint, ?_, by simp⟩
    rcases closing.steps_cases fun _ _ => rfl with hes | ⟨hes, -⟩ <;> simp [hes]
  | @closed endpoint es closing =>
    refine ⟨endpoint, ?_, by simp⟩
    rcases closing.steps_cases fun _ _ => rfl with hes | ⟨hes, -⟩ <;> simp [hes]

theorem Closes.keeps_delete {id : UserId} {r : Except Fault Unit} {before : Events}
    (hbefore : steps before = [.call ⟨.platform, Method.delete.name, userUrl s id, s.token⟩])
    (h : Closes s id es r) : ∃ endpoint, Keeps s (.delete id) endpoint (before ++ es) := by
  obtain ⟨endpoint, hplan, hresolved⟩ := h.keeps
  refine ⟨endpoint, ⟨[], ?_⟩, ?_⟩
  · simpa [Operation.plan, hbefore] using hplan
  · intro head hmem hservice
    rw [steps_append, hbefore, List.singleton_append, List.mem_cons] at hmem
    rcases hmem with hhead | hmem
    · cases hhead
      cases hservice
    · exact List.mem_append_right _ (hresolved head hmem)

theorem Deletes.keeps {id : UserId} {r : Except Fault Unit} (h : Deletes s id es r) :
    ∃ endpoint, Keeps s (.delete id) endpoint es := by
  cases h with
  | kept removal known =>
    rcases removal.steps_cases fun _ _ => rfl with hes | ⟨hes, -⟩
    · exact ⟨"", ⟨[], by simp [Operation.plan, hes]⟩, by simp [hes]⟩
    · exact ⟨"", ⟨[], by simp [hes]⟩, by simp [hes]⟩
  | removed removal further =>
    rcases removal.steps_cases fun _ _ => rfl with hes | ⟨-, why, hr⟩
    · exact further.keeps_delete hes
    · cases hr
  | @missing es es' f r removal unknown further =>
    rcases removal.steps_cases fun _ _ => rfl with hes | ⟨-, why, hr⟩
    · rw [List.append_cons]
      exact further.keeps_delete (by simpa using hes)
    · cases hr
      exact unknown.elim

/-- Only calls on the platform are made, so it does not matter what address there is. -/
theorem Edits.steps_initial {report : Note} {edits : List Edit} {r : Except Fault Unit}
    (h : Edits s report edits es r) : steps es <+: edits.map (Edit.step s) := by
  induction h with
  | finished => simp
  | stopped edit =>
    rcases edit.steps_cases fun _ _ => rfl with hes | ⟨hes, -⟩
    · simp [hes, Edit.step]
    · simp [hes]
  | made edit further ih =>
    rcases edit.steps_cases fun _ _ => rfl with hes | ⟨-, why, hr⟩
    · simpa [hes, Edit.step] using ih
    · cases hr

theorem service_of_mem_edits {h : Head} {edits : List Edit}
    (hmem : .call h ∈ edits.map (Edit.step s)) : h.service = .platform := by
  obtain ⟨e, -, he⟩ := List.mem_map.mp hmem
  cases he
  rfl

theorem Edits.keeps {o : Operation} {report : Note} {edits : List Edit} {r : Except Fault Unit}
    (hplan : o.plan s "" [] = edits.map (Edit.step s)) (h : Edits s report edits es r) :
    Keeps s o "" es := by
  refine ⟨⟨[], hplan ▸ h.steps_initial⟩, fun head hmem hservice => ?_⟩
  rw [service_of_mem_edits (h.steps_initial.subset hmem)] at hservice
  cases hservice

theorem Operation.keeps_of_takes {o : Operation} {r : Except Fault o.Result}
    (h : o.Takes s es r) : ∃ endpoint, Keeps s o endpoint es := by
  cases o with
  | find username => exact Finds.keeps h
  | holders q =>
    rcases h.holders_cases with ⟨path, hpath, hgathers⟩ | ⟨f, -, rfl, -⟩
    · exact hgathers.keeps hpath
    · exact ⟨"", ⟨[], by simp⟩, by simp⟩
  | create username password => exact Creates.keeps h
  | delete id => exact Deletes.keeps h
  | change c => exact ⟨"", Edits.keeps rfl h⟩
  | changeByName n =>
    rcases h.changeByName_cases with ⟨c, hc, hedits⟩ | ⟨f, -, rfl, -⟩
    · exact ⟨"", hedits.keeps (by simp [Operation.plan, hc])⟩
    · exact ⟨"", ⟨[], by simp⟩, by simp⟩

end Keeping

end Directory

end Tenancy
