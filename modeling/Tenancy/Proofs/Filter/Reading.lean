import Tenancy.Proofs.Filter.Sentence
import Tenancy.Proofs.Text.FormEncoding
import Tenancy.Proofs.Text.Parts

/-!
# Reading queries back

What the identity service reads out of the url of a filter: the values that were put in, in their
order, in one way only. No value, whatever it holds, can add a clause, a parameter or a fragment.
-/

namespace Tenancy.Filter

/-- The filter that is received under an endpoint. -/
def received? (endpoint url : String) : Option String :=
  let front := (endpoint ++ "/Users?attributes=id,userName&filter=").toList
  if front <+: url.toList then
    Text.FormEncoding.decode? (.ofList (url.toList.drop front.length))
  else .none

/-- A filter comes through its url: it is sent in few characters, and what is received is one
sentence of the grammar and no other, of the given meaning. -/
structure ComesThrough (endpoint : String) (f : Filter) (m : Meaning) : Prop where
  sent : ∃ form, f.url endpoint = endpoint ++ "/Users?attributes=id,userName&filter=" ++ form ∧
    ∀ c ∈ form.toList, Text.FormEncoding.IsFormChar c
  read : ∃ text, received? endpoint (f.url endpoint) = some text ∧
    ∃ d : Sentence, (∀ d' : Sentence, d'.written = text.toList ↔ d' = d) ∧ d.meaning = m

theorem received?_url (f : Filter) (endpoint : String) :
    received? endpoint (f.url endpoint) = some f.text := by
  have hurl : (f.url endpoint).toList =
      (endpoint ++ "/Users?attributes=id,userName&filter=").toList ++ f.encoded.toList := by
    rw [← String.toList_append]
    rfl
  unfold received?
  dsimp only
  rw [hurl, if_pos (List.prefix_append _ _), List.drop_left, String.ofList_toList, encoded,
    Text.FormEncoding.decode?_encode]

theorem comesThrough_of_written {f : Filter} {d : Sentence} (endpoint : String)
    (h : d.written = f.text.toList) : ComesThrough endpoint f d.meaning where
  sent := by
    refine ⟨f.encoded, rfl, ?_⟩
    intro c hc
    exact Text.FormEncoding.isFormChar_of_mem_encode hc
  read := by
    refine ⟨f.text, received?_url f endpoint, d, ?_, rfl⟩
    intro d'
    rw [← h]
    exact ⟨Sentence.written_injective, fun hd => hd ▸ rfl⟩

theorem comesThrough_ofIds (endpoint : String) {ids : List UserId} (h : ids ≠ []) :
    ComesThrough endpoint (ofIds ids) (.ids (ids.map (·.text))) := by
  obtain ⟨id, rest, rfl⟩ := List.exists_cons_of_ne_nil h
  rw [← Sentence.meaning_ofIds]
  exact comesThrough_of_written endpoint (Sentence.written_ofIds id rest)

theorem comesThrough_username (endpoint name : String) :
    ComesThrough endpoint (username name) (.username name) := by
  have h := comesThrough_of_written endpoint (Sentence.written_username name)
  rwa [Sentence.meaning, Quotation.text_of] at h

/-- No form holds an equals sign, so the last one of a url stands in front of the form. -/
theorem eq_of_url_eq {f f' : Filter} {endpoint endpoint' : String}
    (h : f.url endpoint = f'.url endpoint') : endpoint = endpoint' ∧ f = f' := by
  have hfront : query = "/Users?attributes=id,userName&filter" ++ "=" := by decide
  have hform : ∀ f : Filter, '=' ∉ f.encoded.toList := by
    intro f hmem
    exact absurd (Text.FormEncoding.isFormChar_of_mem_encode hmem) (by decide)
  have hsplit : ∀ (f : Filter) (endpoint : String), (f.url endpoint).toList =
      (endpoint ++ "/Users?attributes=id,userName&filter").toList ++ '=' :: f.encoded.toList := by
    intro f endpoint
    rw [url, hfront]
    simp
  have hlists := congrArg String.toList h
  rw [hsplit, hsplit] at hlists
  obtain ⟨hends, hforms⟩ := Text.eq_of_last_separator (hform f) (hform f') hlists
  have hendpoint : endpoint = endpoint' := by
    rw [String.toList_append, String.toList_append] at hends
    exact String.toList_inj.mp (List.append_cancel_right hends)
  have htext : f.text = f'.text :=
    Text.FormEncoding.encode_injective (String.toList_inj.mp hforms)
  refine ⟨hendpoint, ?_⟩
  cases f
  cases f'
  cases htext
  rfl

theorem ofIds_injective {ids ids' : List UserId} (h : ofIds ids = ofIds ids') : ids = ids' := by
  cases ids with
  | nil => exact (isNone_ofIds_iff.mp (h ▸ isNone_ofIds_iff.mpr rfl)).symm
  | cons id rest =>
    cases ids' with
    | nil => exact isNone_ofIds_iff.mp (h ▸ isNone_ofIds_iff.mpr rfl)
    | cons id' rest' =>
      have hwritten : (Sentence.ofIds id rest).written = (Sentence.ofIds id' rest').written := by
        rw [Sentence.written_ofIds, Sentence.written_ofIds, h]
      have hmeaning := congrArg Sentence.meaning (Sentence.written_injective hwritten)
      rw [Sentence.meaning_ofIds, Sentence.meaning_ofIds, Meaning.ids.injEq] at hmeaning
      exact (List.map_inj_right fun _ _ => Identifier.ext).mp hmeaning

theorem username_injective {name name' : String} (h : username name = username name') :
    name = name' := by
  have hwritten : (Sentence.username (.of name)).written =
      (Sentence.username (.of name')).written := by
    rw [Sentence.written_username, Sentence.written_username, h]
  have hmeaning := congrArg Sentence.meaning (Sentence.written_injective hwritten)
  simpa [Sentence.meaning] using hmeaning

theorem ofIds_ne_username (ids : List UserId) (name : String) : ofIds ids ≠ username name := by
  intro h
  have hwritten := Sentence.written_username name
  cases ids with
  | nil =>
    rw [← h] at hwritten
    exact absurd hwritten (by simp [Sentence.written, Sentence.usernameClause, ofIds, none])
  | cons id rest =>
    rw [← h, ← Sentence.written_ofIds] at hwritten
    exact absurd (Sentence.written_injective hwritten) (by simp [Sentence.ofIds])

/-- The ids of a filter, or its username, are read back out of its url in one way only; so different
filters have different urls, under whatever endpoints. -/
theorem queries_come_through (endpoint : String) :
    (∀ ids : List UserId, ids ≠ [] →
        ComesThrough endpoint (ofIds ids) (.ids (ids.map (·.text)))) ∧
      (∀ name, ComesThrough endpoint (username name) (.username name)) ∧
      (∀ ids : List UserId, (ofIds ids).IsNone ↔ ids = []) ∧
      (∀ (ids ids' : List UserId) (endpoint' : String),
        (ofIds ids).url endpoint = (ofIds ids').url endpoint' → endpoint = endpoint' ∧ ids = ids') ∧
      (∀ name name' endpoint', (username name).url endpoint = (username name').url endpoint' →
        endpoint = endpoint' ∧ name = name') ∧
      ∀ (ids : List UserId) (name endpoint' : String),
        (ofIds ids).url endpoint ≠ (username name).url endpoint' := by
  refine ⟨fun _ => comesThrough_ofIds endpoint, comesThrough_username endpoint,
    fun _ => isNone_ofIds_iff, ?_, ?_, ?_⟩
  · intro ids ids' endpoint' h
    exact (eq_of_url_eq h).imp_right ofIds_injective
  · intro name name' endpoint' h
    exact (eq_of_url_eq h).imp_right username_injective
  · intro ids name endpoint' h
    exact ofIds_ne_username ids name (eq_of_url_eq h).2

/-- An id that holds what stands between two clauses, and one that ends in a backslash. -/
def forgedIds : List UserId := [
  ⟨"a\" or Id eq \"b&filter=#", by decide, by decide, by decide⟩,
  ⟨"c\\", by decide, by decide, by decide⟩]

theorem queries_come_through_forged :
    forgedIds ≠ [] ∧
      ComesThrough "http://id" (ofIds forgedIds) (.ids ["a\" or Id eq \"b&filter=#", "c\\"]) := by
  have h : forgedIds ≠ [] := by simp [forgedIds]
  exact ⟨h, (queries_come_through "http://id").1 forgedIds h⟩

end Tenancy.Filter
