import Mathlib.Data.Set.Insert
import Mathlib.Order.BooleanAlgebra.Set
import Tenancy.Directory.Granting
import Tenancy.Proofs.Call
import Tenancy.Proofs.Directory.Action
import Tenancy.Proofs.Grant

/-!
# Relations

The platform keeps a relation for each grant, under the grant's path. Granting and revoking roles
are short series of edits of this store (`RoleChange.edits`): a run carries out the first ones of
them, all if it succeeds, and nothing else. From this comes what a role change does to the grants
that are held, and when it leaves a role holder of an organization without membership.
-/

namespace Tenancy.Directory

open Program

/-- An edit of the relations that the platform keeps. -/
inductive Edit where
  | add (g : Grant)
  | drop (g : Grant)
deriving DecidableEq

namespace Edit

def grant : Edit → Grant
  | add g => g
  | drop g => g

def method : Edit → Method
  | add _ => .put
  | drop _ => .delete

/-- What an edit does to a set of grants. -/
def on (S : Set Grant) : Edit → Set Grant
  | add g => insert g S
  | drop g => S \ {g}

/-- What an edit does to a set of paths. -/
def onPaths (R : Set String) : Edit → Set String
  | add g => insert g.path R
  | drop g => R \ {g.path}

def perform (s : Session) (e : Edit) : Action Unit :=
  Action.perform .platform e.method (grantUrl s e.grant) s.token none

end Edit

/-- The grants that are held where the platform has some relation paths. -/
def held (R : Set String) : Set Grant :=
  {g | g.path ∈ R}

/-- No two grants have one path, so an edit of paths is one of grants. -/
theorem held_onPaths (e : Edit) (R : Set String) : held (e.onPaths R) = e.on (held R) := by
  ext g
  have hpath : ∀ g' : Grant, g.path = g'.path ↔ g = g' :=
    fun g' => ⟨Grant.path_injective, fun h => h ▸ rfl⟩
  cases e with
  | add g' => simp [held, Edit.onPaths, Edit.on, hpath]
  | drop g' => simp [held, Edit.onPaths, Edit.on, hpath]

theorem held_foldl_onPaths (edits : List Edit) (R : Set String) :
    held (edits.foldl Edit.onPaths R) = edits.foldl Edit.on (held R) := by
  induction edits generalizing R with
  | nil => rfl
  | cons e rest ih => rw [List.foldl_cons, List.foldl_cons, ih, held_onPaths]

/-- An edit touches no grant but its own. -/
theorem mem_on_iff_of_ne {e : Edit} {g : Grant} (S : Set Grant) (h : e.grant ≠ g) :
    g ∈ e.on S ↔ g ∈ S := by
  cases e with
  | add g' => exact Set.mem_insert_iff.trans (or_iff_right fun hg => h hg.symm)
  | drop g' => exact and_iff_left fun hg => h (Set.mem_singleton_iff.mp hg).symm

theorem mem_foldl_on_iff_of_ne {edits : List Edit} {g : Grant} (S : Set Grant)
    (h : ∀ e ∈ edits, e.grant ≠ g) : g ∈ edits.foldl Edit.on S ↔ g ∈ S := by
  induction edits generalizing S with
  | nil => rfl
  | cons e rest ih =>
    have hrest : ∀ e ∈ rest, e.grant ≠ g := fun e he => h e (List.mem_cons_of_mem _ he)
    rw [List.foldl_cons, ih _ hrest]
    exact mem_on_iff_of_ne S (h e List.mem_cons_self)

/-- A grant that comes in has been added. -/
theorem add_mem_of_mem_foldl_on {edits : List Edit} {g : Grant} {S : Set Grant} (hS : g ∉ S)
    (h : g ∈ edits.foldl Edit.on S) : .add g ∈ edits := by
  induction edits generalizing S with
  | nil => exact absurd h hS
  | cons e rest ih =>
    by_cases hg : g ∈ e.on S
    · cases e with
      | add g' =>
        rcases Set.mem_insert_iff.mp hg with rfl | hg
        · exact List.mem_cons_self
        · exact absurd hg hS
      | drop g' => exact absurd hg.1 hS
    · exact List.mem_cons_of_mem _ (ih hg h)

/-- A grant that goes has been dropped. -/
theorem drop_mem_of_notMem_foldl_on {edits : List Edit} {g : Grant} {S : Set Grant} (hS : g ∈ S)
    (h : g ∉ edits.foldl Edit.on S) : .drop g ∈ edits := by
  induction edits generalizing S with
  | nil => exact absurd hS h
  | cons e rest ih =>
    by_cases hg : g ∈ e.on S
    · exact List.mem_cons_of_mem _ (ih hg h)
    · cases e with
      | add g' => exact absurd (Set.mem_insert_of_mem g' hS) hg
      | drop g' =>
        by_cases hdrop : g = g'
        · exact hdrop ▸ List.mem_cons_self
        · exact absurd ⟨hS, hdrop⟩ hg

section Store

variable (s : Session) (R : Set String)

/-- The relation paths of the platform once a request is carried out. -/
def carriedOut (r : Request) : Set String :=
  match r.method with
  | .put => {path | r.url = s.endpoint ++ path ∨ path ∈ R}
  | .delete => {path | path ∈ R ∧ r.url ≠ s.endpoint ++ path}
  | .get | .post => R

/-- The relation paths of the platform once a call has been answered. A call that is answered with
a fault has changed nothing. -/
def answered (c : Call) (reply : c.Reply) : Set String :=
  match c.fault? reply, c.service, c.request? with
  | none, .platform, some r => carriedOut s R r
  | _, _, _ => R

/-- The relation paths of the platform after some events. -/
def replay : List (Event Question Question.Reply) → Set String → Set String
  | [], R => R
  | .asked (.call c) reply :: es, R => replay es (answered s R c reply)
  | .asked .endpoint _ :: es, R => replay es R
  | .noted _ :: es, R => replay es R

theorem replay_append (es es' : List (Event Question Question.Reply)) :
    replay s (es ++ es') R = replay s es' (replay s es R) := by
  induction es generalizing R with
  | nil => rfl
  | cons e rest ih =>
    cases e with
    | noted n => exact ih R
    | asked q reply =>
      cases q with
      | call c => exact ih _
      | endpoint => exact ih R

theorem answered_of_fault {c : Call} {reply : c.Reply} {f : Fault} (h : c.fault? reply = some f) :
    answered s R c reply = R := by
  simp [answered, h]

theorem answered_edit {e : Edit} {r : Request} (method : r.method = e.method)
    (url : r.url = grantUrl s e.grant) :
    answered s R ⟨.platform, .perform r⟩ (.ok ()) = e.onPaths R := by
  have hpath : ∀ path, r.url = s.endpoint ++ path ↔ path = e.grant.path := by
    intro path
    rw [url, grantUrl, String.append_right_inj, eq_comm]
  change carriedOut s R r = e.onPaths R
  ext path
  cases e with
  | add g =>
    simp only [carriedOut, method, Edit.method, Edit.onPaths, Set.mem_ofPred_eq, hpath]
    rfl
  | drop g =>
    simp only [carriedOut, method, Edit.method, Edit.onPaths, Set.mem_ofPred_eq, ne_eq, hpath]
    rfl

end Store

/-- Makes edits one after the other and reports at the end. -/
def editing (s : Session) (report : Note) : List Edit → Action Unit
  | [] => Action.say report
  | e :: rest => do
    e.perform s
    editing s report rest

/-- How a run of edits goes: it carries out the first ones, all if it succeeds, and at each call the
edits before have been made. -/
structure Carries (s : Session) (R : Set String) (edits : List Edit)
    (es : List (Event Question Question.Reply)) (r : Except Fault Unit) (carried : List Edit) :
    Prop where
  first : carried <+: edits
  complete : r = .ok () ↔ carried = edits
  left : replay s es R = carried.foldl Edit.onPaths R
  asked : ∀ before q reply after, es = before ++ .asked q reply :: after →
    ∃ done e rest, edits = done ++ e :: rest ∧
      (∃ r : Request, q = .call ⟨.platform, .perform r⟩ ∧ r.method = e.method ∧
        r.url = grantUrl s e.grant) ∧
      replay s before R = done.foldl Edit.onPaths R

section Runs

variable {s : Session} {R : Set String} {edits : List Edit} {report : Note}
  {es : List (Event Question Question.Reply)} {r : Except Fault Unit}

/-- An edit either cannot be asked for, or one call is made for it. -/
theorem runs_perform {e : Edit} (h : (e.perform s).run.Runs es r) :
    (es = [] ∧ ∃ f, r = .error f) ∨
      ∃ request : Request, request.method = e.method ∧ request.url = grantUrl s e.grant ∧
        es = [.asked (.call ⟨.platform, .perform request⟩) r] := by
  rw [Edit.perform, Action.run_perform] at h
  by_cases hurl : IsAbsolute (grantUrl s e.grant)
  · simp only [Request.of?, hurl, dite_true] at h
    obtain ⟨reply, rest, rfl, hrest⟩ := runs_ask_iff.mp h
    obtain ⟨rfl, rfl⟩ := runs_done_iff.mp hrest
    exact .inr ⟨_, rfl, rfl, rfl⟩
  · simp only [Request.of?, hurl, dite_false] at h
    obtain ⟨rfl, rfl⟩ := runs_done_iff.mp h
    exact .inl ⟨rfl, _, rfl⟩

/-- The first edit has been made, and the others are carried out as they are from there on. -/
theorem Carries.cons {e : Edit} {request : Request} {rest carried : List Edit}
    (method : request.method = e.method) (url : request.url = grantUrl s e.grant)
    (h : Carries s (e.onPaths R) rest es r carried) :
    Carries s R (e :: rest) (.asked (.call ⟨.platform, .perform request⟩) (.ok ()) :: es) r
      (e :: carried) where
  first := (List.prefix_cons_inj e).mpr h.first
  complete := h.complete.trans (by simp)
  left := by
    rw [replay, answered_edit s R method url, h.left]
    rfl
  asked := by
    intro before q reply after hes
    rcases List.cons_eq_append_iff.mp hes with ⟨rfl, hq⟩ | ⟨before, rfl, hrest⟩
    · cases hq
      exact ⟨[], e, rest, rfl, ⟨request, rfl, method, url⟩, rfl⟩
    · obtain ⟨done, e', rest', rfl, hasked, hbefore⟩ := h.asked before q reply after hrest
      refine ⟨e :: done, e', rest', rfl, hasked, ?_⟩
      rw [replay, answered_edit s R method url, hbefore]
      rfl

theorem carries_editing (h : (editing s report edits).run.Runs es r) :
    ∃ carried, Carries s R edits es r carried := by
  induction edits generalizing R es with
  | nil =>
    obtain ⟨rest, rfl, hrest⟩ := runs_note_iff.mp h
    obtain ⟨rfl, rfl⟩ := runs_done_iff.mp hrest
    refine ⟨[], by simp, by simp, rfl, ?_⟩
    intro before q reply after hes
    rcases List.cons_eq_append_iff.mp hes with ⟨rfl, hq⟩ | ⟨before, rfl, hrest⟩
    · cases hq
    · simp at hrest
  | cons e rest ih =>
    rcases (runs_run_bind_iff _ _).mp h with ⟨f, he, rfl⟩ | ⟨first, _, later, rfl, he, hlater⟩
    · rcases runs_perform he with ⟨rfl, -⟩ | ⟨request, method, url, rfl⟩
      · exact ⟨[], by simp, by simp, rfl, by simp⟩
      · have hunchanged : answered s R ⟨.platform, .perform request⟩ (.error f) = R :=
          answered_of_fault s R rfl
        refine ⟨[], by simp, by simp, hunchanged, ?_⟩
        intro before q reply after hes
        rcases List.cons_eq_append_iff.mp hes with ⟨rfl, hq⟩ | ⟨before, rfl, hrest⟩
        · cases hq
          exact ⟨[], e, rest, rfl, ⟨request, rfl, method, url⟩, rfl⟩
        · simp at hrest
    · rcases runs_perform he with ⟨-, f, hf⟩ | ⟨request, method, url, rfl⟩
      · exact absurd hf nofun
      · obtain ⟨carried, hcarried⟩ := ih (R := e.onPaths R) hlater
        exact ⟨e :: carried, hcarried.cons method url⟩

end Runs

end Tenancy.Directory
