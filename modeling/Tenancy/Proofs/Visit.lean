import Tenancy.Gateway

/-!
# Visits

What a visitor says to the values of a list, one after the other, and how far it is heard. A visit
of several pages is one of all their values.
-/

namespace Tenancy.Visitor

variable {visit : Visitor} {seen seen' xs ys : List Json} {e : Except Fault Unit}

/-- The visitor says of every value to go on, `seen` being those visited before. -/
def GoesOn (visit : Visitor) (seen : List Json) : List Json → Prop
  | [] => True
  | v :: rest => visit seen v = .ok true ∧ GoesOn visit (seen ++ [v]) rest

@[simp] theorem goesOn_nil : visit.GoesOn seen [] := trivial

theorem goesOn_append :
    visit.GoesOn seen (xs ++ ys) ↔ visit.GoesOn seen xs ∧ visit.GoesOn (seen ++ xs) ys := by
  induction xs generalizing seen with
  | nil => simp
  | cons v rest ih => simp [GoesOn, ih, and_assoc]

/-- What a visitor that ends a visit says of the last value, and what comes of it. -/
inductive Ends (visit : Visitor) (seen : List Json) (v : Json) : Except Fault Unit → Prop where
  | enough (said : visit seen v = .ok false) : Ends visit seen v (.ok ())
  | failed {f : Fault} (said : visit seen v = .error f) : Ends visit seen v (.error f)

/-- All values are visited if and only if the visitor goes on at each. -/
theorem walk_eq_none_iff :
    visit.walk seen xs = (seen', none) ↔ seen' = seen ++ xs ∧ visit.GoesOn seen xs := by
  induction xs generalizing seen with
  | nil => simp [eq_comm]
  | cons v rest ih =>
    simp only [walk, GoesOn]
    cases h : visit seen v with
    | error f => simp
    | ok more => cases more <;> simp [ih]

/-- A visit that ends early ends with the first value at which the visitor does not go on. -/
theorem of_walk_eq_some (h : visit.walk seen xs = (seen', some e)) :
    ∃ before v after, xs = before ++ v :: after ∧ seen' = seen ++ before ++ [v] ∧
      visit.GoesOn seen before ∧ visit.Ends (seen ++ before) v e := by
  induction xs generalizing seen with
  | nil => simp at h
  | cons v rest ih =>
    rw [walk] at h
    cases hv : visit seen v with
    | error f =>
      simp only [hv, Prod.mk.injEq, Option.some.injEq] at h
      obtain ⟨rfl, rfl⟩ := h
      exact ⟨[], v, rest, rfl, by simp, trivial, .failed (by simpa using hv)⟩
    | ok more =>
      cases more with
      | false =>
        simp only [hv, Prod.mk.injEq, Option.some.injEq] at h
        obtain ⟨rfl, rfl⟩ := h
        exact ⟨[], v, rest, rfl, by simp, trivial, .enough (by simpa using hv)⟩
      | true =>
        simp only [hv] at h
        obtain ⟨before, v', after, rfl, rfl, hbefore, hend⟩ := ih h
        refine ⟨v :: before, v', after, rfl, by simp, ⟨hv, hbefore⟩, ?_⟩
        simpa using hend

/-- Goes on at every value. -/
def all : Visitor := fun _ _ => .ok true

@[simp] theorem walk_all (seen xs : List Json) : all.walk seen xs = (seen ++ xs, none) := by
  induction xs generalizing seen with
  | nil => simp
  | cons v rest ih => simp [walk, all, ih]

/-- Visits pages in order, each after all values of the one before. -/
def walkPages (visit : Visitor) (seen : List Json) :
    List (List Json) → List Json × Option (Except Fault Unit)
  | [] => (seen, none)
  | page :: rest =>
    match visit.walk seen page with
    | (seen', none) => walkPages visit seen' rest
    | ended => ended

theorem walkPages_eq_walk_flatten (visit : Visitor) (seen : List Json) (pages : List (List Json)) :
    visit.walkPages seen pages = visit.walk seen pages.flatten := by
  induction pages generalizing seen with
  | nil => rfl
  | cons page rest ih =>
    rw [walkPages, List.flatten_cons, walk_append]
    cases visit.walk seen page with
    | mk seen' early =>
      cases early with
      | none => exact ih seen'
      | some e => rfl

/-- Takes an entry from each value, and fails where there is none. -/
def taking {α : Type} (entry : Json → Except Fault α) : Visitor :=
  fun _ v => (entry v).map fun _ => true

end Tenancy.Visitor

namespace Tenancy.Listing

/-- Visits pages that are all there; what ends the visit otherwise is given. -/
def ofPages (visit : Visitor) (pages : List (List Json)) (ending : Except Fault Unit) : Listing :=
  let (seen, early) := visit.walkPages [] pages
  ⟨seen, early.getD ending⟩

/-- How values are split into pages makes no difference. -/
theorem ofPages_eq_of_flatten (visit : Visitor) (pages : List (List Json))
    (ending : Except Fault Unit) :
    ofPages visit pages ending = Listing.of visit pages.flatten ending := by
  rw [ofPages, Visitor.walkPages_eq_walk_flatten, Listing.of]

variable {α : Type} {entry : Json → Except Fault α}

/-- The entries of all values visited, unless the listing has failed. -/
def entries (entry : Json → Except Fault α) (l : Listing) : Except Fault (List α) :=
  l.ending.map fun _ => l.visited.filterMap fun v => (entry v).toOption

theorem entries_walk_taking {seen values : List Json} {taken : List α} (ending : Except Fault Unit)
    (hseen : (seen.filterMap fun v => (entry v).toOption) = taken) :
    (Listing.mk ((Visitor.taking entry).walk seen values).1
        (((Visitor.taking entry).walk seen values).2.getD ending)).entries entry =
      values.mapM entry >>= fun more => ending.map fun _ => taken ++ more := by
  induction values generalizing seen taken with
  | nil => simp [entries, hseen, Bind.bind, Except.bind, Pure.pure, Except.pure]
  | cons v rest ih =>
    cases hv : entry v with
    | error f =>
      simp [entries, Visitor.walk, Visitor.taking, hv, Except.map, Bind.bind, Except.bind]
    | ok x =>
      have hmore : ((seen ++ [v]).filterMap fun v => (entry v).toOption) = taken ++ [x] := by
        rw [List.filterMap_append, hseen]
        simp [hv, Except.toOption]
      have hwalk : (Visitor.taking entry).walk seen (v :: rest) =
          (Visitor.taking entry).walk (seen ++ [v]) rest := by
        simp [Visitor.walk, Visitor.taking, hv, Except.map]
      rw [hwalk, ih hmore]
      cases hrest : rest.mapM entry <;>
        simp [hv, hrest, Bind.bind, Except.bind, Pure.pure, Except.pure]

/-- A listing that takes entries has all of them, or it fails as the first value without one. -/
theorem entries_of_taking (values : List Json) (ending : Except Fault Unit) :
    (Listing.of (.taking entry) values ending).entries entry =
      values.mapM entry >>= fun taken => ending.map fun _ => taken := by
  have hseen : (([] : List Json).filterMap fun v => (entry v).toOption) = [] := rfl
  exact entries_walk_taking ending hseen

end Tenancy.Listing
