import Tenancy.Proofs.Directory.Confinement
import Tenancy.Proofs.Directory.Deletion
import Tenancy.Proofs.Directory.Faults

/-!
# What operations report

An operation that changes something reports its success, once and at its very end, and nothing else
at that level. Its warnings tell where it has stopped halfway: those of a deletion are complete
(`Warned`), and a change of a role has none. All of it holds of every run (`operations_audited`).
-/

namespace Tenancy

/-- A success is reported last, and nothing else is reported with it. -/
structure Event.Concluded {ι α : Type} {ρ : ι → Type} (report : α → Note → Prop)
    (es : List (Event ι ρ)) (r : Except Fault α) : Prop where
  succeeded : ∀ x, r = .ok x →
    ∃ n, report x n ∧ reports .info es = [n] ∧ es.getLast? = some (.noted n)
  failed : ∀ f, r = .error f → reports .info es = []

namespace Event.Concluded

variable {ι κ α : Type} {ρ : ι → Type} {τ : κ → Type} {report : α → Note → Prop}
  {es before : List (Event ι ρ)} {r : Except Fault α}

theorem of_ok {x : α} {n : Note} (hes : reports .info es = []) (hreport : report x n)
    (hlevel : n.level = .info) : Concluded report (es ++ [.noted n]) (.ok x) := by
  refine ⟨?_, nofun⟩
  rintro _ ⟨⟩
  exact ⟨n, hreport, by simp [hes, hlevel], by simp⟩

theorem of_error {f : Fault} (hes : reports .info es = []) :
    Concluded report es (.error f : Except Fault α) :=
  ⟨nofun, fun _ _ => hes⟩

theorem append (h : Concluded report es r) (hbefore : reports .info before = []) :
    Concluded report (before ++ es) r := by
  constructor
  · intro x hx
    obtain ⟨n, hreport, hes, hlast⟩ := h.succeeded x hx
    exact ⟨n, hreport, by simp [hbefore, hes], by simp [List.getLast?_append, hlast]⟩
  · intro f hf
    rw [reports_append, hbefore, h.failed f hf, List.nil_append]

/-- What answers the questions may note something, but it reports nothing. -/
theorem expands {settles : (q : ι) → List (Event κ τ) → ρ q → Prop} {events : List (Event κ τ)}
    (h : Concluded report es r) (hexpands : Expands settles es events)
    (hsettles : ∀ q first reply, settles q first reply → reports .info first = []) :
    Concluded report events r := by
  have hreports := hexpands.reports_eq hsettles
  constructor
  · intro x hx
    obtain ⟨n, hreport, hes, hlast⟩ := h.succeeded x hx
    exact ⟨n, hreport, hreports.trans hes, hexpands.getLast?_eq_noted hlast⟩
  · intro f hf
    exact hreports.trans (h.failed f hf)

end Event.Concluded

namespace Directory

open Event Program

/-- What is reported of an operation that changes something. -/
inductive Operation.Reports : (o : Operation) → o.Result → Note → Prop where
  | created (username password : String) (id : UserId) :
      Reports (.create username password) id
        ⟨.info, "user created", [("user_id", id.text), ("username", username)]⟩
  | deleted (id : UserId) :
      Reports (.delete id) () ⟨.info, "user deleted", [("user_id", id.text)]⟩
  | changed (c : RoleChange) : Reports (.change c) () c.report
  | changedByName {n : NamedRoleChange} {c : RoleChange} (meant : n.roleChange = .ok c) :
      Reports (.changeByName n) () c.report

/-- A role is granted or revoked. -/
inductive Operation.Changes : Operation → Prop where
  | change (c : RoleChange) : Changes (change c)
  | changeByName (n : NamedRoleChange) : Changes (changeByName n)

/-- The warnings of a deletion: that the platform does not know the user, and then what is left
unfinished, which is what it fails with. It fails without a warning where the platform has not
removed the user. -/
structure Warned {α : Type} (s : Session) (id : UserId) (es : Events) (r : Except Fault α) :
    Prop where
  warnings : ∃ absent unfinished : Option Note,
    reports .warn es = absent.toList ++ unfinished.toList ∧
      (∀ n, absent = some n ↔ Missing s id es ∧ n = alreadyAbsent id) ∧
      ∀ n, unfinished = some n ↔ ∃ f, Unfinished id es f n
  unfinished : ∀ f n, Unfinished id es f n → r = .error f ∧ ∀ f', ¬ Kept s id es f'
  silent : ∀ f, r = .error f ∧ reports .warn es = [] ↔ Kept s id es f

/-- What a run of an operation reports, and what it warns of. -/
structure Audited (s : Session) (o : Operation) (es : Events) (r : Except Fault o.Result) :
    Prop where
  concluded : Concluded o.Reports es r
  changes : o.Changes → reports .warn es = []
  deletes : ∀ id, o = .delete id → Warned s id es r

section Operations

variable {s : Session} {es : Events}

theorem RoleChange.level_report (c : RoleChange) : c.report.level = .info := by
  cases c <;> rfl

/-- Edits report nothing until all of them are made. -/
theorem Edits.concluded {report : Unit → Note → Prop} {n : Note} {edits : List Edit}
    {r : Except Fault Unit} (h : Edits s n edits es r) (hreport : report () n)
    (hlevel : n.level = .info) : Concluded report es r := by
  induction h with
  | finished =>
    have hnothing : reports .info ([] : Events) = [] := rfl
    exact .of_ok hnothing hreport hlevel
  | stopped edit => exact .of_error edit.reports_performed
  | made edit further ih => exact ih.append edit.reports_performed

theorem Edits.warnings_eq_nil {n : Note} {edits : List Edit} {r : Except Fault Unit}
    (h : Edits s n edits es r) (hlevel : n.level = .info) : reports .warn es = [] := by
  induction h with
  | finished => simp [hlevel]
  | stopped edit => exact edit.reports_performed
  | made edit further ih => rw [reports_append, edit.reports_performed, ih, List.nil_append]

theorem Closes.concluded {id : UserId} {r : Except Fault Unit} (h : Closes s id es r) :
    Concluded (Operation.delete id).Reports es r := by
  cases h with
  | unresolved => exact .of_error rfl
  | unclosed closing => exact .of_error (by simp [closing.reports_performed])
  | closed closing =>
    apply Concluded.of_ok _ (.deleted id) rfl
    exact closing.reports_performed

theorem Deletes.concluded {id : UserId} {r : Except Fault Unit} (h : Deletes s id es r) :
    Concluded (Operation.delete id).Reports es r := by
  cases h with
  | kept removal => exact .of_error removal.reports_performed
  | removed removal further => exact further.concluded.append removal.reports_performed
  | missing removal unknown further =>
    rw [List.append_cons]
    apply further.concluded.append
    simp [removal.reports_performed]

theorem Creates.concluded {username password : String} {r : Except Fault UserId}
    (h : Creates s username password es r) :
    Concluded (Operation.create username password).Reports es r := by
  cases h with
  | blank | unprotected | unresolved => exact .of_error rfl
  | unopened _ _ opening =>
    apply Concluded.of_error
    exact opening.reports_eq_nil fun _ _ => rfl
  | unread _ _ opening =>
    have hopening : reports .info _ = [] := opening.reports_eq_nil fun _ _ => rfl
    exact .of_error (by simp [hopening])
  | unlinked _ _ opening _ linking =>
    have hopening : reports .info _ = [] := opening.reports_eq_nil fun _ _ => rfl
    exact .of_error (by simp [hopening, linking.reports_performed])
  | @linked _ _ _ _ id _ _ opening _ linking =>
    have hopening : reports .info _ = [] := opening.reports_eq_nil fun _ _ => rfl
    apply Concluded.of_ok _ (.created username password id) rfl
    simp [hopening, linking.reports_performed]

/-- The warnings are those of the two requests. -/
theorem Deletes.warned {id : UserId} {r : Except Fault Unit} (h : Deletes s id es r) :
    Warned s id es r := by
  obtain ⟨removal, rest, hended⟩ := h.ended
  have hkept : ∀ f, Kept s id es f ↔ removal = .error f ∧ ¬ f.RefusedWith unknownUserCode := by
    intro f
    rw [Kept, hended.fails_iff]
  refine ⟨⟨absence id removal, rest.map (·.2), ?_, ?_, ?_⟩, ?_, ?_⟩
  · rw [hended.warnings]
    cases rest <;> rfl
  · intro n
    simp only [absence_eq_some_iff, Missing, hended.fails_iff]
  · intro n
    simp [hended.unfinished_iff]
  · intro f n hn
    have hrest := (hended.unfinished_iff f n).mp hn
    refine ⟨(hended.result f).mpr (.inr ⟨n, hrest⟩), ?_⟩
    intro f' hf'
    obtain ⟨hremoval, hknown⟩ := (hkept f').mp hf'
    rw [hended.kept f' hremoval hknown] at hrest
    cases hrest
  · intro f
    rw [hkept, hended.result, hended.warnings]
    constructor
    · rintro ⟨hremoval | ⟨n, rfl⟩, hnone⟩
      · exact hremoval
      · simp at hnone
    · rintro ⟨rfl, hknown⟩
      obtain rfl := hended.kept f rfl hknown
      exact ⟨.inl ⟨rfl, hknown⟩, by simp [absence, hknown]⟩

theorem Operation.audited_of_takes {o : Operation} {r : Except Fault o.Result}
    (h : o.Takes s es r) (hchanges : ¬ o.Looks) : Audited s o es r := by
  cases o with
  | find username => exact absurd (.find username) hchanges
  | holders q => exact absurd (.holders q) hchanges
  | create username password =>
    refine ⟨Creates.concluded h, ?_, ?_⟩
    · rintro ⟨⟩
    · rintro id ⟨⟩
  | delete id =>
    refine ⟨Deletes.concluded h, ?_, ?_⟩
    · rintro ⟨⟩
    · rintro _ ⟨⟩
      exact Deletes.warned h
  | change c =>
    have hedits : Edits s c.report c.edits es r := h
    refine ⟨hedits.concluded (.changed c) c.level_report, ?_, ?_⟩
    · exact fun _ => hedits.warnings_eq_nil c.level_report
    · rintro id ⟨⟩
  | changeByName n =>
    rcases Takes.changeByName_cases h with ⟨c, hc, hedits⟩ | ⟨f, -, rfl, rfl⟩
    · refine ⟨hedits.concluded (.changedByName hc) c.level_report, ?_, ?_⟩
      · exact fun _ => hedits.warnings_eq_nil c.level_report
      · rintro id ⟨⟩
    · refine ⟨.of_error rfl, fun _ => rfl, ?_⟩
      rintro id ⟨⟩

/-- What finds the identity service notes for debugging only. -/
theorem Answers.reports_eq_nil {source : Endpoint.Source} {level : Level} {q : Question}
    {first : List (Event Call Call.Reply)} {reply : q.Reply} (h : Answers s source q first reply)
    (hlevel : .debug ≠ level) : reports level first = [] := by
  cases q with
  | call c =>
    obtain rfl : first = [.asked c reply] := h
    rfl
  | endpoint =>
    have hresolves : Resolves s source first reply := h
    cases hresolves with
    | fixed | unanswered | unadvertised => rfl
    | discovered => simp [hlevel]

end Operations

/-- Whoever answers, a creation, a deletion and a change of a role report their success, last and
once, and report nothing where they fail. A change of a role warns of nothing; a deletion warns that
the platform does not know the user, then of what is left unfinished, with the fault that it fails
with, and of nothing else. Nothing is different where the address of the identity service is
configured, cannot be found or is asked of the platform. -/
theorem operations_audited (s : Session) (o : Operation) (hchanges : ¬ o.Looks) :
    (∀ es r, (o.action s).run.Runs es r → Audited s o es r) ∧
      ∀ source es r, ((o.action s).calling s source).run.Runs es r →
        Concluded o.Reports es r ∧
          ∃ qs, (o.action s).run.Runs qs r ∧ Expands (Answers s source) qs es ∧
            reports .warn es = reports .warn qs := by
  have hrun : ∀ es r, (o.action s).run.Runs es r → Audited s o es r := by
    intro es r h
    exact Operation.audited_of_takes (Operation.takes_of_runs h) hchanges
  refine ⟨hrun, ?_⟩
  intro source es r h
  obtain ⟨qs, hqs, hexpands⟩ := expands_of_runs_calling h
  refine ⟨?_, qs, hqs, hexpands, ?_⟩
  · apply (hrun qs r hqs).concluded.expands hexpands
    exact fun q first reply hfirst => hfirst.reports_eq_nil (by decide)
  · apply hexpands.reports_eq
    exact fun q first reply hfirst => hfirst.reports_eq_nil (by decide)

theorem operations_audited_deletion_and_creation :
    ¬ (Operation.delete bob).Looks ∧
      ((Operation.delete bob).action sampleSession).run.Runs unclosed (.error down) ∧
      Audited sampleSession (.delete bob) unclosed (.error down) ∧
      reports .warn unclosed = [alreadyAbsent bob, accountLeft bob down] ∧
      ¬ (Operation.create "ann" "pw").Looks ∧
      (((Operation.create "ann" "pw").action secureSession).calling secureSession
        .discovered).run.Runs creating (.ok ann) ∧
      Concluded (Operation.create "ann" "pw").Reports creating (.ok ann) := by
  have hdelete : ¬ (Operation.delete bob).Looks := by
    rintro ⟨⟩
  have hcreate : ¬ (Operation.create "ann" "pw").Looks := by
    rintro ⟨⟩
  have hunclosed : ((Operation.delete bob).action sampleSession).run.Runs unclosed
      (.error down) := .ask (.note (.ask (.ask (.note (.refl _)))))
  have hcreating : (((Operation.create "ann" "pw").action secureSession).calling secureSession
      .discovered).run.Runs creating (.ok ann) := .ask (.note (.ask (.ask (.note (.refl _)))))
  obtain ⟨hrun, -⟩ := operations_audited sampleSession (.delete bob) hdelete
  obtain ⟨-, hcalling⟩ := operations_audited secureSession (.create "ann" "pw") hcreate
  exact ⟨hdelete, hunclosed, hrun _ _ hunclosed, rfl, hcreate, hcreating,
    (hcalling _ _ _ hcreating).1⟩

end Directory

end Tenancy
