import Tenancy.Directory.Document
import Tenancy.Proofs.Json.Fields

/-!
# What documents say

When a resource of the platform names a member, and when a reply of the identity service gives its
accounts. A list of values is taken as a whole or not at all.
-/

namespace Tenancy

section Taking

variable {α β γ δ ε : Type} {f : α → Except ε β} {R : α → γ → Prop} {view : β → δ}
  {expected : γ → δ} {P : ε → Prop}

/-- Where each value is taken as one thing or refused, a list is taken as a whole or refused. -/
theorem mapM_cases
    (hf : ∀ a, (∃ c, R a c ∧ ∃ b, f a = .ok b ∧ view b = expected c) ∨
      (∀ c, ¬ R a c) ∧ ∃ e, f a = .error e ∧ P e) (as : List α) :
    (∃ cs, List.Forall₂ R as cs ∧ ∃ bs, as.mapM f = .ok bs ∧ bs.map view = cs.map expected) ∨
      (∃ a ∈ as, ∀ c, ¬ R a c) ∧ ∃ e, as.mapM f = .error e ∧ P e := by
  induction as with
  | nil => exact .inl ⟨[], .nil, [], rfl, rfl⟩
  | cons a as ih =>
    rw [List.mapM_cons]
    rcases hf a with ⟨c, hac, b, hb, hview⟩ | ⟨hnot, e, he, hP⟩
    · rw [hb]
      rcases ih with ⟨cs, hcs, bs, hbs, hviews⟩ | ⟨⟨a', ha', hnot⟩, e, he, hP⟩
      · rw [hbs]
        exact .inl ⟨c :: cs, .cons hac hcs, b :: bs, rfl, by simp [hview, hviews]⟩
      · rw [he]
        exact .inr ⟨⟨a', List.mem_cons_of_mem a ha', hnot⟩, e, rfl, hP⟩
    · rw [he]
      exact .inr ⟨⟨a, List.mem_cons_self, hnot⟩, e, rfl, hP⟩

end Taking

/-- A text that is a user's id once it is trimmed. -/
def IsUserId (s : String) : Prop :=
  Text.trim s ≠ "" ∧ '/' ∉ (Text.trim s).toList

instance (s : String) : Decidable (IsUserId s) :=
  inferInstanceAs (Decidable (_ ∧ _))

@[simp] theorem Json.usable_ok {α : Type} (context : String) (a : α) :
    usable context (.ok a) = .ok a := rfl

@[simp] theorem Json.usable_error {α : Type} (context : String) (m : Json.Mismatch) :
    (usable context (.error m) : Except Fault α) =
      .error (.internal s!"failed to decode {context}: {m.message}") := rfl

/-- An id is received as it is. -/
theorem UserId.received_text (prelude : String) (id : UserId) :
    received prelude id.text = .ok id := by
  rw [received, Identifier.of?, Identifier.check_text]
  rfl

/-- A received text is taken for the id it is, or the fault is an internal one. -/
theorem UserId.received_cases (prelude s : String) :
    (IsUserId s ∧ ∃ id, received prelude s = .ok id ∧ id.text = Text.trim s) ∨
      ¬ IsUserId s ∧ ∃ why, received prelude s = .error (.internal why) := by
  unfold received Identifier.of? Identifier.check
  by_cases hne : Text.trim s = ""
  · rw [dif_pos hne]
    exact .inr ⟨fun h => h.1 hne, _, rfl⟩
  · by_cases hslash : '/' ∈ (Text.trim s).toList
    · rw [dif_neg hne, dif_pos hslash]
      exact .inr ⟨fun h => h.2 hslash, _, rfl⟩
    · rw [dif_neg hne, dif_neg hslash]
      exact .inl ⟨⟨hne, hslash⟩, _, rfl, rfl⟩

/-- A resource that tells of a user: a valid guid, and whether it is an administrator. -/
def Json.Tells (v : Json) (user : String × Bool) : Prop :=
  Member.shape.decode v = .ok user ∧ IsUserId user.1

theorem Json.rightUnique_tells : Relator.RightUnique Json.Tells :=
  fun _ _ _ h h' => Except.ok.inj (h.1.symm.trans h'.1)

theorem Member.ofJson_cases (v : Json) :
    (∃ user, v.Tells user ∧
        ∃ m, ofJson v = .ok m ∧ (m.id.text, m.isAdmin) = (Text.trim user.1, user.2)) ∨
      (∀ user, ¬ v.Tells user) ∧ ∃ f, ofJson v = .error f ∧ ∃ why, f = .internal why := by
  simp only [Json.Tells, ofJson]
  cases hv : shape.decode v with
  | error e => exact .inr ⟨by simp, _, rfl, _, rfl⟩
  | ok user =>
    rcases UserId.received_cases "platform API returned an invalid guid" user.1 with
        ⟨hguid, id, hid, htext⟩ | ⟨hguid, why, hwhy⟩
    · refine .inl ⟨user, ⟨rfl, hguid⟩, ⟨id, user.2⟩, ?_, by rw [htext]⟩
      simp [hid, Bind.bind, Except.bind, Pure.pure, Except.pure]
    · refine .inr ⟨?_, .internal why, ?_, why, rfl⟩
      · rintro _ ⟨⟨rfl⟩, h⟩
        exact hguid h
      · simp [hwhy, Bind.bind, Except.bind]

theorem Account.ofPair_cases (e : String × String) :
    (∃ e', (IsUserId e.1 ∧ e = e') ∧
        ∃ a, ofPair e = .ok a ∧ (a.id.text, a.username) = (Text.trim e'.1, e'.2)) ∨
      (∀ e', ¬ (IsUserId e.1 ∧ e = e')) ∧ ∃ f, ofPair e = .error f ∧ ∃ why, f = .internal why := by
  rcases UserId.received_cases "identity API returned an invalid id" e.1 with
      ⟨hid, id, hok, htext⟩ | ⟨hid, why, hwhy⟩
  · refine .inl ⟨e, ⟨hid, rfl⟩, ⟨id, e.2⟩, ?_, by rw [htext]⟩
    simp [ofPair, hok, Bind.bind, Except.bind, Pure.pure, Except.pure]
  · refine .inr ⟨fun e' h => hid h.1, .internal why, ?_, why, rfl⟩
    simp [ofPair, hwhy, Bind.bind, Except.bind]

/-- A reply that has an account for each of some entries. -/
def Json.Answers (v : Json) (entries : List (String × String)) : Prop :=
  Account.listShape.decode v = .ok entries ∧ ∀ e ∈ entries, IsUserId e.1

theorem Account.listOfJson_cases (v : Json) :
    (∃ entries, v.Answers entries ∧ ∃ accounts, listOfJson v = .ok accounts ∧
        accounts.map (fun a => (a.id.text, a.username)) =
          entries.map fun e => (Text.trim e.1, e.2)) ∨
      (∀ entries, ¬ v.Answers entries) ∧ ∃ why, listOfJson v = .error (.internal why) := by
  simp only [Json.Answers, listOfJson]
  cases hv : listShape.decode v with
  | error e => exact .inr ⟨by simp, _, rfl⟩
  | ok entries =>
    rcases mapM_cases ofPair_cases entries with
        ⟨cs, hcs, haccounts⟩ | ⟨⟨e, he, hnot⟩, f, hf, why, rfl⟩
    · obtain ⟨hids, hsame⟩ := (List.forall₂_and_left _ _).mp hcs
      rw [List.forall₂_eq_eq_eq] at hsame
      subst hsame
      exact .inl ⟨entries, ⟨rfl, hids⟩, haccounts⟩
    · refine .inr ⟨?_, why, hf⟩
      rintro _ ⟨⟨rfl⟩, hids⟩
      exact hnot e ⟨hids e he, rfl⟩

end Tenancy
