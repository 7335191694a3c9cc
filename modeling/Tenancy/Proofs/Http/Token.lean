import Tenancy.Proofs.Http.Sending
import Tenancy.Proofs.Text.Beginning

/-!
# The scheme of a token

A token is sent behind its scheme, which is put in front of it unless it stands there already in
some mixture of cases. That is seen from the first seven bytes; where they hold no text, it does not
stand there (`scheme_once`).
-/

namespace Tenancy.Http

open Text (BeginsWith SameButCase Straddles upTo?)
open Text.Utf8 (encode)

variable {token : String}

theorem hasScheme_iff : HasScheme token ↔ BeginsWith "bearer " token := by
  have hlength : scheme.toList.length = "bearer ".toList.length := rfl
  have hcases : scheme.toList.map Char.toLower = "bearer ".toList.map Char.toLower := by decide
  rw [HasScheme, Text.beginsWith_iff_take, hlength, hcases]

theorem hasScheme_scheme_append (token : String) : HasScheme (scheme ++ token) := by
  rw [HasScheme, String.toList_append, List.take_left]

theorem bearer_of_hasScheme (h : HasScheme token) : bearer token = token :=
  if_pos h

theorem bearer_of_not_hasScheme (h : ¬ HasScheme token) : bearer token = scheme ++ token :=
  if_neg h

theorem hasScheme_bearer (token : String) : HasScheme (bearer token) := by
  by_cases h : HasScheme token
  · rwa [bearer_of_hasScheme h]
  · rw [bearer_of_not_hasScheme h]
    exact hasScheme_scheme_append token

theorem bearer_eq_self_iff : bearer token = token ↔ HasScheme token := by
  refine ⟨fun h => ?_, bearer_of_hasScheme⟩
  rw [← h]
  exact hasScheme_bearer token

theorem bearer_bearer (token : String) : bearer (bearer token) = bearer token :=
  bearer_of_hasScheme (hasScheme_bearer token)

theorem hasScheme_iff_upTo? :
    HasScheme token ↔ ∃ front, upTo? 7 token = some front ∧ SameButCase front "bearer " := by
  have hbytes : (encode "bearer ").length = 7 := rfl
  rw [hasScheme_iff, Text.beginsWith_iff_upTo?, hbytes]

theorem not_hasScheme_of_upTo?_eq_none (h : upTo? 7 token = none) : ¬ HasScheme token := by
  rw [hasScheme_iff_upTo?, h]
  exact nofun

/-- A token is sent with its scheme once. -/
structure SchemedOnce (token : String) : Prop where
  either : bearer token = token ∨ bearer token = "Bearer " ++ token
  begins : BeginsWith "bearer " (bearer token)
  again : bearer (bearer token) = bearer token
  kept_iff : bearer token = token ↔ BeginsWith "bearer " token
  /-- The first seven bytes decide. -/
  seen_iff : bearer token = token ↔
    ∃ front, upTo? 7 token = some front ∧ SameButCase front "bearer "
  /-- They need not hold a text. -/
  unseen_iff : upTo? 7 token = none ↔ (encode token).length < 7 ∨ Straddles 7 token
  unseen : (encode token).length < 7 ∨ Straddles 7 token → bearer token = "Bearer " ++ token
  sent : ∀ label r es x, r.token = token → (send label r).run.Runs es x →
    ∀ m ∈ Event.posed es, m.authorization = bearer token

/-- Every token is sent with its scheme once. It stays as it is if and only if it begins with the
scheme, that is, if its first seven bytes hold the scheme in some mixture of cases. If there are
fewer bytes or a character goes on behind the seventh, they hold no text, and the scheme is put in
front. -/
theorem scheme_once (token : String) : SchemedOnce token where
  either := by
    by_cases h : HasScheme token
    · exact .inl (bearer_of_hasScheme h)
    · exact .inr (bearer_of_not_hasScheme h)
  begins := hasScheme_iff.mp (hasScheme_bearer token)
  again := bearer_bearer token
  kept_iff := bearer_eq_self_iff.trans hasScheme_iff
  seen_iff := bearer_eq_self_iff.trans hasScheme_iff_upTo?
  unseen_iff := Text.upTo?_eq_none_iff
  unseen := by
    intro h
    have hnone := Text.upTo?_eq_none_iff.mpr h
    exact bearer_of_not_hasScheme (not_hasScheme_of_upTo?_eq_none hnone)
  sent := by
    rintro label r es x rfl hrun m hm
    obtain rfl := (asks_send label r).runs hrun m hm
    rfl

/-- A request whose token has its seventh byte within a character. -/
def straddledRequest : Request :=
  ⟨.get, "http://h/a", "bearer€ x", none, by decide⟩

/-- What is sent for it where nobody answers. -/
def straddledRun : List (Event Message fun _ => Reply) × Except Fault Body :=
  (send "platform" straddledRequest).run.play fun _ => .unreachable

theorem scheme_once_straddled :
    (encode "BEARER").length < 7 ∧ bearer "BEARER" = "Bearer BEARER" ∧
      Straddles 7 "bearer€ x" ∧ bearer "bearer€ x" = "Bearer bearer€ x" ∧
      Event.posed straddledRun.1 ≠ [] ∧
      ∀ m ∈ Event.posed straddledRun.1, m.authorization = "Bearer bearer€ x" := by
  have hshort : (encode "BEARER").length < 7 := by decide
  have hstraddles : Straddles 7 "bearer€ x" :=
    ⟨"bearer", '€', " x", by decide, by decide, by decide⟩
  have hbearer : bearer "bearer€ x" = "Bearer bearer€ x" :=
    (scheme_once "bearer€ x").unseen (.inr hstraddles)
  have hrun : (send "platform" straddledRequest).run.Runs straddledRun.1 straddledRun.2 :=
    Program.runs_play _ _
  refine ⟨hshort, (scheme_once "BEARER").unseen (.inl hshort), hstraddles, hbearer,
    by decide +kernel, ?_⟩
  intro m hm
  rw [(scheme_once "bearer€ x").sent _ _ _ _ rfl hrun m hm, hbearer]

end Tenancy.Http
