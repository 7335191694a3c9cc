/-!
# Ranges of characters

Tables of characters are lists of closed ranges of code points.
-/

namespace Tenancy.Text

/-- The first and the last code point of a range. -/
abbrev Range := Nat × Nat

def Range.contains (r : Range) (c : Char) : Bool :=
  r.1 ≤ c.toNat && c.toNat ≤ r.2

def isWithin (ranges : List Range) (c : Char) : Bool :=
  ranges.any (·.contains c)

theorem isWithin_iff {ranges : List Range} {c : Char} :
    isWithin ranges c ↔ ∃ r ∈ ranges, r.1 ≤ c.toNat ∧ c.toNat ≤ r.2 := by
  simp [isWithin, Range.contains]

end Tenancy.Text
