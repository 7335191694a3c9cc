/-!
# Cutting texts

A text cut into the parts between characters of a kind. There is one part more than there are such
characters.
-/

namespace Tenancy.Text

def cutAt (p : Char → Bool) : List Char → List (List Char)
  | [] => [[]]
  | c :: rest => if p c then [] :: cutAt p rest else (cutAt p rest).modifyHead (c :: ·)

theorem length_cutAt (p : Char → Bool) (cs : List Char) :
    (cutAt p cs).length = cs.countP p + 1 := by
  induction cs with
  | nil => rfl
  | cons c rest ih => by_cases h : p c <;> simp [cutAt, h, ih]

/-- No part holds a character of the kind. -/
theorem eq_false_of_mem_cutAt {p : Char → Bool} {cs part : List Char} {c : Char}
    (hp : part ∈ cutAt p cs) (hc : c ∈ part) : p c = false := by
  induction cs generalizing part with
  | nil =>
    have : part = [] := by simpa [cutAt] using hp
    simp [this] at hc
  | cons d rest ih =>
    cases hd : p d with
    | true =>
      obtain rfl | hp : part = [] ∨ part ∈ cutAt p rest := by simpa [cutAt, hd] using hp
      · simp at hc
      · exact ih hp hc
    | false =>
      cases hr : cutAt p rest with
      | nil => simp [cutAt, hd, hr] at hp
      | cons q qs =>
        rw [hr] at ih
        obtain rfl | hp : part = d :: q ∨ part ∈ qs := by simpa [cutAt, hd, hr] using hp
        · obtain rfl | hc := List.mem_cons.mp hc
          · exact hd
          · exact ih List.mem_cons_self hc
        · exact ih (List.mem_cons_of_mem q hp) hc

/-- The parts before and behind the last character that is `c`; without one, nothing is before. -/
def cutLast (c : Char) (cs : List Char) : List Char × List Char :=
  let behind := (cs.reverse.takeWhile (· ≠ c)).reverse
  (cs.take (cs.length - behind.length - 1), behind)

/-- The parts before and behind the first character that is `c`, if there is one. -/
def cutFirst (c : Char) (cs : List Char) : List Char × Option (List Char) :=
  (cs.takeWhile (· ≠ c), (cs.dropWhile (· ≠ c)).tail?)

end Tenancy.Text
