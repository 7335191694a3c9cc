import Tenancy.Http.Paging
import Tenancy.Proofs.Hidden
import Tenancy.Proofs.Http.Exchange

/-!
# Exchanges in lockstep

Calls that are the same apart from what is hidden send messages that are so too, one for one, as long
as all tokens are header values or none is.
-/

namespace Tenancy.Http

open Program

/-- A token is a header value if and only if it is one behind its scheme. -/
theorem isHeaderValue_bearer (token : String) : isHeaderValue (bearer token) = isHeaderValue token := by
  unfold bearer
  split
  · rfl
  · have hscheme : scheme.toList.all isHeaderChar = true := by decide
    rw [isHeaderValue, String.toList_append, List.all_append, hscheme, Bool.true_and]
    rfl

/-- Messages of requests that are the same apart from what is hidden. -/
inductive Message.SameBut (x : Hidden) : Pairing Message fun _ => Reply where
  | of {service : Service} {r r' : Request} (request : r.SameBut x service r') :
      SameBut x (Message.of r) (Message.of r') Eq

theorem Message.address_congr {m m' : Message} (hurl : m.url = m'.url)
    (htoken : isHeaderValue m.authorization = isHeaderValue m'.authorization) :
    m.address = m'.address := by
  simp only [address, hurl, htoken]

theorem failed_congr {m m' : Message} (label why : String) (hmethod : m.method = m'.method)
    (hurl : m.url = m'.url) : failed label m why = failed label m' why := by
  simp only [failed, hmethod, hurl]

/-- What comes of an answer does not depend on the token or the body. -/
theorem lockstep_conclude {pairs : Pairing Message fun _ => Reply} {m m' : Message} (label : String)
    (a : Address) (reply : Reply) (hmethod : m.method = m'.method) (hurl : m.url = m'.url) :
    Lockstep pairs Eq (conclude label m a reply) (conclude label m' a reply) := by
  cases reply with
  | unreachable | dropped => exact .done (congrArg _ (failed_congr label _ hmethod hurl))
  | answer status body =>
    rw [conclude, conclude]
    split
    · exact .done rfl
    · exact .note (.done rfl)

/-- Tokens that stand for each other are header values both or neither. -/
structure Sendable (x : Hidden) : Prop where
  token : ∀ a b, x.token a b → isHeaderValue a = isHeaderValue b
  body : ∀ service method b, x.body service method b b

section Steps

variable {x : Hidden} (hx : Sendable x)
include hx

theorem lockstep_send {service : Service} {label : String} {r r' : Request}
    (h : r.SameBut x service r') :
    Lockstep (Message.SameBut x) Eq (send label r).run (send label r').run := by
  have hurl : (Message.of r).url = (Message.of r').url := h.url
  have hmethod : (Message.of r).method = (Message.of r').method := h.method
  have haddress : (Message.of r).address = (Message.of r').address := by
    refine Message.address_congr hurl ?_
    change isHeaderValue (bearer r.token) = isHeaderValue (bearer r'.token)
    rw [isHeaderValue_bearer, isHeaderValue_bearer, hx.token _ _ h.token]
  rw [run_send, run_send, h.method, h.url, haddress]
  refine .note ?_
  cases (Message.of r').address with
  | error o =>
    simp only [failed_congr label _ hmethod hurl]
    exact .done rfl
  | ok a =>
    refine .ask (.of h) ?_
    rintro reply _ rfl
    exact lockstep_conclude label a reply hmethod hurl

theorem lockstep_sendForJson {service : Service} {label : String} {r r' : Request}
    (h : r.SameBut x service r') :
    Lockstep (Message.SameBut x) Eq (sendForJson label r).run (sendForJson label r').run := by
  apply Lockstep.then (lockstep_send hx h)
  intro body
  rw [h.url]
  exact lockstep_lift _

theorem lockstep_get {label url token token' : String} (h : x.token token token') :
    Lockstep (Message.SameBut x) Eq (get label url token).run (get label url token').run := by
  rw [get, get, run_bind, run_bind, run_lift, run_lift]
  by_cases hurl : IsAbsolute url
  · simp only [Request.of?, hurl, dite_true]
    have hrequest : (⟨.get, url, token, none, hurl⟩ : Request).SameBut x .platform
        ⟨.get, url, token', none, hurl⟩ := ⟨rfl, rfl, h, hx.body _ _ _⟩
    exact lockstep_sendForJson hx hrequest
  · simp only [Request.of?, hurl, dite_false]
    exact .done rfl

theorem lockstep_getPage {label url token token' : String} (h : x.token token token') :
    Lockstep (Message.SameBut x) Eq (getPage label token url).run
      (getPage label token' url).run :=
  Lockstep.then (lockstep_get hx h) fun _ => lockstep_lift _

/-- Page by page, as long as one listing goes on so does the other. -/
theorem lockstep_listFrom {label base token token' url : String} {visit : Visitor} {limit : Nat}
    {seen : List Json} (h : x.token token token') :
    Lockstep (Message.SameBut x) (Option.Rel Eq)
      (listFrom label base token visit limit seen url)
      (listFrom label base token' visit limit seen url) := by
  induction limit generalizing seen url with
  | zero => exact .done .none
  | succ limit ih =>
    refine (lockstep_getPage hx h).bind ?_
    rintro (f | page) _ rfl
    · exact .done (.some rfl)
    · dsimp only
      cases visit.walk seen page.values with
      | mk seen early =>
        cases early with
        | some ending => exact .done (.some rfl)
        | none =>
          dsimp only
          cases page.nextUrl base with
          | none => exact .done (.some rfl)
          | some next =>
            dsimp only
            by_cases hnext : next = url
            · simp only [hnext, if_true]
              exact .done (.some rfl)
            · simp only [hnext, if_false]
              exact ih

theorem lockstep_perform {service : Service} {label : String} {r r' : Request}
    (h : r.SameBut x service r') :
    Lockstep (Message.SameBut x) Eq (perform label r).run (perform label r').run :=
  Lockstep.then (lockstep_send hx h) fun _ => .done rfl

/-- Calls that are the same apart from what is hidden are answered in lockstep. -/
theorem lockstep_answer {limit : Nat} {c c' : Call} {same : c.Reply → c'.Reply → Prop}
    (h : Call.SameBut x c c' same) :
    Lockstep (Message.SameBut x) (Option.Rel same) (answer limit c) (answer limit c') := by
  cases h with
  | list htoken => exact lockstep_listFrom hx htoken
  | get htoken => exact (lockstep_get hx htoken).bind fun a a' ha => .done (.some ha)
  | perform hr => exact (lockstep_perform hx hr).bind fun a a' ha => .done (.some ha)
  | performJson hr => exact (lockstep_sendForJson hx hr).bind fun a a' ha => .done (.some ha)

/-- So a program of such calls sends messages that are the same apart from what is hidden. -/
theorem lockstep_throughSome (limit : Nat) {α : Type} {p p' : Program Call Call.Reply α}
    (h : Lockstep (Call.SameBut x) Eq p p') :
    Lockstep (Message.SameBut x) Eq (p.throughSome (answer limit))
      (p'.throughSome (answer limit)) := by
  refine (h.throughSome fun _ _ _ => lockstep_answer hx).mono (fun _ _ _ hm => hm) ?_
  rintro _ _ (⟨rfl⟩ | -) <;> rfl

end Steps

/-- Whatever is hidden, a server may look at no token and at no body. -/
theorem Message.SameBut.everything {x : Hidden} {m m' : Message} {same : Reply → Reply → Prop}
    (h : Message.SameBut x m m' same) : Message.SameBut .everything m m' same := by
  cases h with
  | of hr => exact .of hr.everything

end Tenancy.Http
