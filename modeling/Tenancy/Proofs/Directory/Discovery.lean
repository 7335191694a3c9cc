import Tenancy.Proofs.Directory.Confinement

/-!
# Discovering the identity service

An address that the platform's information document names is as good as one that is configured: the
same texts are accepted and come to the same addresses, and an operation does the same either way,
apart from asking for the document (`sources_interchange`).
-/

namespace Tenancy

/-- Members that name no field make no difference to a record. -/
theorem Json.Shape.foldlM_fillMember_filter {σ α : Type} (shape : Json.Shape σ α)
    {known : String × Json → Bool} (hknown : ∀ m, known m = false → shape.field? m.1 = none)
    (members : List (String × Json)) (record : σ) :
    members.foldlM shape.fillMember record =
      (members.filter known).foldlM shape.fillMember record := by
  induction members generalizing record with
  | nil => rfl
  | cons m rest ih =>
    cases hm : known m with
    | true =>
      rw [List.filter_cons_of_pos hm, List.foldlM_cons, List.foldlM_cons]
      exact bind_congr ih
    | false =>
      have hpassed : shape.fillMember record m = .ok record := by
        rw [fillMember, hknown m hm]
      rw [List.filter_cons_of_neg (by simp [hm]), List.foldlM_cons, hpassed]
      exact ih record

namespace Endpoint

/-- An information document that names a text as the address, among anything else. -/
inductive Advertises (v : String) : Json → Prop where
  | member {members : List (String × Json)}
      (only : members.filter (fun m => m.1 == "token_endpoint") = [("token_endpoint", .string v)]) :
      Advertises v (.object members)
  | item : Advertises v (.array [.string v])

theorem Advertises.decode {v : String} {document : Json} (h : Advertises v document) :
    infoShape.decode document = .ok (some v) := by
  cases h with
  | item => rfl
  | @member members only =>
    have hknown : ∀ m : String × Json,
        (m.1 == "token_endpoint") = false → infoShape.field? m.1 = none := by
      intro m hm
      simpa [Json.Shape.field?, infoShape, Json.Field.spellings, Json.Field.single] using hm
    rw [Json.Shape.decode, Json.Shape.ofMembers,
      infoShape.foldlM_fillMember_filter hknown members infoShape.empty, only]
    rfl

theorem Advertises.ofInfo_eq {v : String} {document : Json} (h : Advertises v document) :
    ofInfo document =
      if Text.baseAddress v = "" then
        .error (.internal "platform info document does not advertise a token endpoint")
      else .ok (Text.baseAddress v) := by
  simp only [ofInfo, h.decode, Except.mapError, Bind.bind, Except.bind, Option.getD_some]
  split <;> rfl

/-- The text is cleaned in the same way as one that is configured. -/
theorem Advertises.toOption_ofInfo {v : String} {document : Json} (h : Advertises v document) :
    (ofInfo document).toOption = (configured? v).toOption := by
  rw [h.ofInfo_eq, configured?]
  by_cases hv : Text.baseAddress v = "" <;> simp [hv, Except.toOption]

end Endpoint

namespace Directory

open Program

/-- The answers to questions where calls have theirs and the address is known. -/
def replies (answer : (c : Call) → c.Reply) (address : Except Fault String) :
    (q : Question) → q.Reply
  | .call c => answer c
  | .endpoint => address

/-- The programs by which questions are answered once it is known how the address is found. -/
def answering (s : Session) (source : Endpoint.Source) :
    (q : Question) → Program Call Call.Reply q.Reply
  | .call c => Program.question c
  | .endpoint => (source.resolve s).run

def Question.call? : Question → Option Call
  | .call c => some c
  | .endpoint => none

/-- The call that is made for a question where the address is asked of the platform. -/
def Question.asCall (s : Session) : Question → Call
  | .call c => c
  | .endpoint => infoCall s

section Playing

variable {s : Session} {answer : (c : Call) → c.Reply}

theorem play_calling {α : Type} {a : Action α} {source : Endpoint.Source}
    {address : Except Fault String} (h : ((source.resolve s).run.play answer).2 = address) :
    (a.calling s source).run.play answer =
      ((a.run.play (replies answer address)).1.flatMap (inlined (answering s source) answer),
        (a.run.play (replies answer address)).2) := by
  have hreplies : (fun q => ((answering s source q).play answer).2) = replies answer address := by
    funext q
    cases q with
    | call c => rfl
    | endpoint => exact h
  have hcalling : (a.calling s source).run = a.run.through (answering s source) := by
    refine congrArg (a.run.through ·) (funext fun q => ?_)
    cases q <;> rfl
  rw [hcalling, play_through, hreplies]

theorem posed_play_discover (s : Session) (answer : (c : Call) → c.Reply) :
    Event.posed ((Endpoint.discover s).run.play answer).1 = [infoCall s] := by
  rw [Endpoint.run_discover, play, Event.posed_asked]
  refine congrArg (infoCall s :: ·) ?_
  rcases answer (infoCall s) with f | document
  · rfl
  · dsimp only
    cases Endpoint.ofInfo document <;> rfl

theorem play_discover {document : Json} (hanswer : answer (infoCall s) = .ok document) :
    ((Endpoint.discover s).run.play answer).2 = Endpoint.ofInfo document := by
  rw [Endpoint.run_discover, play, hanswer]
  dsimp only
  cases Endpoint.ofInfo document <;> rfl

theorem posed_fixed (address : Except Fault String) (es : Events) :
    Event.posed (es.flatMap (inlined (answering s (.fixed address)) answer)) =
      (Event.posed es).filterMap Question.call? := by
  induction es with
  | nil => rfl
  | cons e es ih =>
    rw [List.flatMap_cons, Event.posed_append, ih]
    rcases e with n | ⟨c | _, reply⟩ <;> rfl

theorem posed_discovered (es : Events) :
    Event.posed (es.flatMap (inlined (answering s .discovered) answer)) =
      (Event.posed es).map (Question.asCall s) := by
  induction es with
  | nil => rfl
  | cons e es ih =>
    rw [List.flatMap_cons, Event.posed_append, ih]
    rcases e with n | ⟨c | _, reply⟩
    · rfl
    · rfl
    · exact congrArg (· ++ _) (posed_play_discover s answer)

/-- The calls of one run are those of the other without the calls for the document. -/
theorem filterMap_call? {qs : List Question}
    (hown : ∀ c, .call c ∈ qs → c.head ≠ (infoCall s).head) :
    qs.filterMap Question.call? =
      (qs.map (Question.asCall s)).filter (·.head ≠ (infoCall s).head) := by
  induction qs with
  | nil => rfl
  | cons q qs ih =>
    have hrest := ih fun c hc => hown c (List.mem_cons_of_mem q hc)
    cases q with
    | call c => simp [Question.call?, Question.asCall, hrest, hown c List.mem_cons_self]
    | endpoint => simp [List.filterMap_cons, Question.call?, Question.asCall, hrest]

theorem countP_asCall {qs : List Question}
    (hown : ∀ c, .call c ∈ qs → c.head ≠ (infoCall s).head) :
    (qs.map (Question.asCall s)).countP (·.head = (infoCall s).head) =
      (qs.map Question.step).count .address := by
  induction qs with
  | nil => rfl
  | cons q qs ih =>
    have hrest := ih fun c hc => hown c (List.mem_cons_of_mem q hc)
    cases q with
    | call c => simp [Question.asCall, Question.step, hrest, hown c List.mem_cons_self]
    | endpoint => simp [Question.asCall, Question.step, hrest]

end Playing

section Plans

variable {s : Session} {endpoint : String} {members : List UserId}

theorem address_notMem_edits (edits : List Edit) : .address ∉ edits.map (Edit.step s) := by
  intro h
  obtain ⟨e, -, he⟩ := List.mem_map.mp h
  cases he

theorem count_address_plan_le (o : Operation) : (o.plan s endpoint members).count .address ≤ 1 := by
  cases o with
  | find | create | delete => simp [Operation.plan]
  | holders q =>
    rw [Operation.plan]
    cases q.collection <;> simp
  | change c => simp [Operation.plan, List.count_eq_zero.mpr (address_notMem_edits c.edits)]
  | changeByName n =>
    rw [Operation.plan]
    cases n.roleChange with
    | ok c => simp [List.count_eq_zero.mpr (address_notMem_edits c.edits)]
    | error f => simp

/-- A call that is neither in front of the address nor behind the call that follows it comes right
after the address. -/
theorem address_of_append_eq (front : List Step) {back before after : List Step} {h k : Head}
    (heq : front ++ .address :: .call k :: back = before ++ .call h :: after)
    (hfront : .call h ∉ front) (hback : .call h ∉ back) : before = front ++ [.address] := by
  rcases List.append_eq_append_iff.mp heq with ⟨more, rfl, hmore⟩ | ⟨more, rfl, hmore⟩
  · rcases List.cons_eq_append_iff.mp hmore with ⟨-, hcall⟩ | ⟨more, rfl, hrest⟩
    · cases hcall
    · rcases List.cons_eq_append_iff.mp hrest with ⟨rfl, -⟩ | ⟨more, -, rfl⟩
      · rfl
      · exact absurd (List.mem_append_right more List.mem_cons_self) hback
  · rcases List.cons_eq_append_iff.mp hmore with ⟨-, hcall⟩ | ⟨more, rfl, -⟩
    · cases hcall
    · exact absurd (List.mem_append_right before List.mem_cons_self) hfront

/-- In a plan the identity service is called right after the address has been found. -/
theorem address_of_plan_eq {o : Operation} {before after : List Step} {h : Head}
    (hplan : o.plan s endpoint members = before ++ .call h :: after)
    (hservice : h.service = .identity) : ∃ front, before = front ++ [.address] := by
  have hne : ∀ k : Head, k.service = .platform → h ≠ k := by
    rintro k hk rfl
    cases hk.symm.trans hservice
  have hedits : ∀ edits : List Edit, edits.map (Edit.step s) ≠ before ++ .call h :: after := by
    intro edits hedits
    have hmem : .call h ∈ edits.map (Edit.step s) := by simp [hedits]
    exact hne h (service_of_mem_edits hmem) rfl
  cases o with
  | find username =>
    exact ⟨[], address_of_append_eq [] hplan (by simp) (by simp)⟩
  | holders q =>
    rw [Operation.plan] at hplan
    cases hpath : q.collection with
    | ok path =>
      rw [hpath] at hplan
      exact ⟨_, address_of_append_eq [_] hplan (by simpa using hne _ rfl) (by simp)⟩
    | error f =>
      rw [hpath] at hplan
      simp at hplan
  | create username password =>
    exact ⟨[], address_of_append_eq [] hplan (by simp) (by simpa using hne _ rfl)⟩
  | delete id =>
    exact ⟨_, address_of_append_eq [_] hplan (by simpa using hne _ rfl) (by simp)⟩
  | change c => exact absurd hplan (hedits c.edits)
  | changeByName n =>
    rw [Operation.plan] at hplan
    cases hc : n.roleChange with
    | ok c =>
      rw [hc] at hplan
      exact absurd hplan (hedits c.edits)
    | error f =>
      rw [hc] at hplan
      simp at hplan

end Plans

/-- Operations that come to an end before they need the address: changes of roles, creations without
a username or a password, look-ups in a collection where nothing is visited, and deletions that the
platform does not carry out and that are not gone on with. -/
inductive Spares (s : Session) (answer : (c : Call) → c.Reply) : Operation → Prop where
  | change (c : RoleChange) : Spares s answer (.change c)
  | changeByName (n : NamedRoleChange) : Spares s answer (.changeByName n)
  | blank {username password : String} (h : Text.trim username = "") :
      Spares s answer (.create username password)
  | unprotected {username : String} : Spares s answer (.create username "")
  | unvisited {q : HolderQuery} (h : ∀ path, q.collection = .ok path →
      (answer ⟨.platform, .list s.endpoint s.token path (.taking Member.ofJson)⟩).visited = []) :
      Spares s answer (.holders q)
  | kept {id : UserId} (h : ∀ hurl : IsAbsolute (userUrl s id), ∃ f,
      answer ⟨.platform, .perform ⟨.delete, userUrl s id, s.token, none, hurl⟩⟩ = .error f ∧
        ¬ f.RefusedWith unknownUserCode) : Spares s answer (.delete id)

section Sparing

variable {s : Session} {answer : (c : Call) → c.Reply} {address : Except Fault String}
  {es : Events}

/-- The events of a run in which every question has its answer. -/
def Played (answer : (c : Call) → c.Reply) (address : Except Fault String) (es : Events) : Prop :=
  ∀ q reply, .asked q reply ∈ es → reply = replies answer address q

theorem played_play {α : Type} (p : Program Question Question.Reply α) :
    Played answer address (p.play (replies answer address)).1 := by
  intro q reply h
  have hmem : (⟨q, reply⟩ : (q : Question) × q.Reply) ∈
      Event.questions (p.play (replies answer address)).1 :=
    List.mem_filterMap.mpr ⟨_, h, rfl⟩
  exact eq_of_mem_questions_play hmem

theorem Deletes.endpoint_notMem {id : UserId} {r : Except Fault Unit} (h : Deletes s id es r)
    (hplayed : Played answer address es)
    (hkept : ∀ hurl : IsAbsolute (userUrl s id), ∃ f,
      answer ⟨.platform, .perform ⟨.delete, userUrl s id, s.token, none, hurl⟩⟩ = .error f ∧
        ¬ f.RefusedWith unknownUserCode) : .endpoint ∉ Event.posed es := by
  cases h with
  | kept removal known =>
    cases removal with
    | relative => simp
    | made => simp
  | removed removal further =>
    cases removal with
    | made hurl reply =>
      obtain ⟨f, hf, -⟩ := hkept hurl
      cases (hplayed _ _ List.mem_cons_self).trans hf
  | missing removal unknown further =>
    cases removal with
    | relative => exact unknown.elim
    | made hurl reply =>
      obtain ⟨f, hf, hknown⟩ := hkept hurl
      cases (hplayed _ _ List.mem_cons_self).trans hf
      exact absurd unknown hknown

theorem Gathers.endpoint_notMem {path : String} {r : Except Fault (List Record)}
    (h : Gathers s path es r) (hplayed : Played answer address es)
    (hvisited : (answer ⟨.platform, .list s.endpoint s.token path
      (.taking Member.ofJson)⟩).visited = []) : .endpoint ∉ Event.posed es := by
  have hentries : ∀ l : Listing, l.visited = [] → ∀ members,
      l.entries Member.ofJson = .ok members → members = [] := by
    intro l hl members hmembers
    rw [Listing.entries, hl] at hmembers
    cases hend : l.ending <;> rw [hend] at hmembers <;> cases hmembers
    rfl
  have hlisting : ∀ l : Listing, .asked (membersIn s path) l ∈ es → l.visited = [] := by
    intro l hl
    exact (congrArg Listing.visited (hplayed _ _ hl)).trans hvisited
  cases h with
  | unlisted | nobody => simp
  | unresolved listed somebody =>
    exact absurd (hentries _ (hlisting _ List.mem_cons_self) _ listed) somebody
  | asked listed somebody =>
    exact absurd (hentries _ (hlisting _ List.mem_cons_self) _ listed) somebody

theorem Creates.endpoint_notMem {username password : String} {r : Except Fault UserId}
    (h : Creates s username password es r) (hno : Text.trim username = "" ∨ password = "") :
    .endpoint ∉ Event.posed es := by
  cases h with
  | blank | unprotected => simp
  | _ named secret => exact (hno.elim named secret).elim

theorem Edits.endpoint_notMem {report : Note} {edits : List Edit} {r : Except Fault Unit}
    (h : Edits s report edits es r) : .endpoint ∉ Event.posed es := by
  intro hmem
  have haddress : .address ∈ steps es := List.mem_map_of_mem (f := Question.step) hmem
  exact address_notMem_edits edits (h.steps_initial.subset haddress)

theorem Spares.endpoint_notMem {o : Operation} {r : Except Fault o.Result}
    (hspares : Spares s answer o) (htakes : o.Takes s es r) (hplayed : Played answer address es) :
    .endpoint ∉ Event.posed es := by
  cases hspares with
  | change c => exact Edits.endpoint_notMem htakes
  | changeByName n =>
    rcases htakes.changeByName_cases with ⟨c, -, hedits⟩ | ⟨f, -, rfl, -⟩
    · exact hedits.endpoint_notMem
    · simp
  | blank h => exact Creates.endpoint_notMem htakes (.inl h)
  | unprotected => exact Creates.endpoint_notMem htakes (.inr rfl)
  | @unvisited q h =>
    rcases htakes.holders_cases with ⟨path, hpath, hgathers⟩ | ⟨f, -, rfl, -⟩
    · exact hgathers.endpoint_notMem hplayed (h path hpath)
    · simp
  | kept h => exact Deletes.endpoint_notMem htakes hplayed h

end Sparing

/-- How the calls of an operation that asks for the address compare with those of the same operation
that has it. -/
structure Interchanges (s : Session) (o : Operation) (answer : (c : Call) → c.Reply)
    (configured discovering : List (Event Call Call.Reply) × Except Fault o.Result) : Prop where
  result : discovering.2 = configured.2
  calls : Event.posed configured.1 =
    (Event.posed discovering.1).filter (·.head ≠ (infoCall s).head)
  once : (Event.posed discovering.1).countP (·.head = (infoCall s).head) ≤ 1
  heralded : ∀ before c after, Event.posed discovering.1 = before ++ c :: after →
    c.service = .identity → ∃ front, before = front ++ [infoCall s]
  spared : Spares s answer o → ∀ c ∈ Event.posed discovering.1, c.head ≠ (infoCall s).head

section Comparing

variable {s : Session} {o : Operation} {endpoint : String} {es : Events}

theorem Keeps.head_ne_infoCall (h : Keeps s o endpoint es) {c : Call}
    (hc : .call c ∈ Event.posed es) : c.head ≠ (infoCall s).head := by
  have hstep : .call c.head ∈ steps es := List.mem_map_of_mem (f := Question.step) hc
  exact (h.makes_of_mem_heads (mem_filterMap_head?_iff.mpr hstep)).ne_infoCall

theorem Keeps.count_address_le (h : Keeps s o endpoint es) : (steps es).count .address ≤ 1 := by
  obtain ⟨members, hplanned⟩ := h.planned
  exact (hplanned.sublist.count_le _).trans (count_address_plan_le o)

theorem Keeps.heralded (h : Keeps s o endpoint es) {before after : List Call} {c : Call}
    (hcalls : (Event.posed es).map (Question.asCall s) = before ++ c :: after)
    (hservice : c.service = .identity) : ∃ front, before = front ++ [infoCall s] := by
  obtain ⟨qs, rest, hqs, rfl, hrest⟩ := List.map_eq_append_iff.mp hcalls
  obtain ⟨q, later, rfl, rfl, -⟩ := List.map_eq_cons_iff.mp hrest
  obtain ⟨members, tail, hplanned⟩ := h.planned
  cases q with
  | endpoint => cases hservice
  | call c =>
    have hplan : o.plan s endpoint members =
        qs.map Question.step ++ .call c.head :: (later.map Question.step ++ tail) := by
      rw [← hplanned, steps, hqs]
      simp [Question.step]
    obtain ⟨front, hfront⟩ := address_of_plan_eq hplan hservice
    obtain ⟨qs, last, rfl, -, hlast⟩ := List.map_eq_append_iff.mp hfront
    obtain ⟨q, rfl, hq⟩ := List.map_eq_singleton_iff.mp hlast
    cases q with
    | call => cases hq
    | endpoint => exact ⟨qs.map (Question.asCall s), by simp [Question.asCall]⟩

end Comparing

/-- An information document that names a text comes to the same address as the text configured, or
to none, just as that does. An operation comes to the same then, and makes the same calls, but that
it asks for the document once where it needs the address: right before it calls the identity
service, and never if it ends before that. -/
theorem sources_interchange (s : Session) {v : String} {document : Json}
    (hdocument : Endpoint.Advertises v document) (answer : (c : Call) → c.Reply)
    (hanswer : answer (infoCall s) = .ok document) :
    ((Endpoint.Source.discovered.resolve s).run.play answer).2.toOption =
        (Endpoint.configured? v).toOption ∧
      ∀ e, Endpoint.configured? v = .ok e → ∀ o : Operation,
        Interchanges s o answer
          (((o.action s).calling s (.fixed (Endpoint.configured? v))).run.play answer)
          (((o.action s).calling s .discovered).run.play answer) := by
  have hdiscover : ((Endpoint.Source.discovered.resolve s).run.play answer).2 =
      Endpoint.ofInfo document := play_discover hanswer
  refine ⟨hdiscover ▸ hdocument.toOption_ofInfo, ?_⟩
  intro e he o
  have hnamed : Endpoint.ofInfo document = .ok e := by
    have h := hdocument.toOption_ofInfo
    rw [he] at h
    cases hinfo : Endpoint.ofInfo document <;> rw [hinfo] at h <;> cases h
    rfl
  have hplayed : Played answer (.ok e) ((o.action s).run.play (replies answer (.ok e))).1 :=
    played_play _
  have htakes := Operation.takes_of_runs (runs_play (replies answer (.ok e)) (o.action s).run)
  obtain ⟨endpoint, hkeeps⟩ := Operation.keeps_of_takes htakes
  have hfixed : (((Endpoint.Source.fixed (.ok e)).resolve s).run.play answer).2 = .ok e := rfl
  rw [he, play_calling hfixed, play_calling (hdiscover.trans hnamed)]
  constructor
  case result => rfl
  case calls =>
    rw [posed_fixed, posed_discovered]
    exact filterMap_call? fun c hc => hkeeps.head_ne_infoCall hc
  case once =>
    rw [posed_discovered, countP_asCall fun c hc => hkeeps.head_ne_infoCall hc]
    exact hkeeps.count_address_le
  case heralded =>
    rw [posed_discovered]
    intro before c after hcalls hservice
    exact hkeeps.heralded hcalls hservice
  case spared =>
    rw [posed_discovered]
    intro hspares c hc
    obtain ⟨q, hq, rfl⟩ := List.mem_map.mp hc
    cases q with
    | call c => exact hkeeps.head_ne_infoCall hq
    | endpoint => exact absurd hq (hspares.endpoint_notMem htakes hplayed)

/-- A platform whose information document names an address with blanks and slashes around it. -/
def advertising : (c : Call) → c.Reply
  | ⟨.platform, .get ..⟩ =>
    .ok (.object [("name", .string "api"), ("token_endpoint", .string " http://id//")])
  | ⟨.identity, .get ..⟩ => .ok .null
  | ⟨_, .list ..⟩ => ⟨[], .ok ()⟩
  | ⟨_, .perform _⟩ => .ok ()
  | ⟨_, .performJson _⟩ => .ok .null

theorem sources_interchange_advertising :
    Endpoint.Advertises " http://id//"
        (.object [("name", .string "api"), ("token_endpoint", .string " http://id//")]) ∧
      Endpoint.configured? " http://id//" = .ok "http://id" ∧
      Interchanges sampleSession (.delete bob) advertising
        (((delete sampleSession bob).calling sampleSession (.fixed (.ok "http://id"))).run.play
          advertising)
        (((delete sampleSession bob).calling sampleSession .discovered).run.play advertising) ∧
      Spares sampleSession advertising (.holders (.organization acme .auditor)) ∧
      ∀ c ∈ Event.posed (((organizationHolders sampleSession acme .auditor).calling sampleSession
        .discovered).run.play advertising).1, c.head ≠ (infoCall sampleSession).head := by
  have hdocument : Endpoint.Advertises " http://id//"
      (.object [("name", .string "api"), ("token_endpoint", .string " http://id//")]) :=
    .member rfl
  have hconfigured : Endpoint.configured? " http://id//" = .ok "http://id" := by rfl
  obtain ⟨-, h⟩ := sources_interchange sampleSession hdocument advertising rfl
  have hspares : Spares sampleSession advertising (.holders (.organization acme .auditor)) :=
    .unvisited fun _ _ => rfl
  have hdelete := h _ hconfigured (.delete bob)
  rw [hconfigured] at hdelete
  exact ⟨hdocument, hconfigured, hdelete, hspares,
    (h _ hconfigured (.holders (.organization acme .auditor))).spared hspares⟩

end Directory

end Tenancy
