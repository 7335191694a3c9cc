import Tenancy.Json.Basic

/-!
# Numbers as text

Natural numbers are written in digits alone, and no other number is: a negative one shows its sign,
a decimal its point or its exponent.
-/

namespace Tenancy

namespace Decimal

theorem mem_pointed (whole fraction : List Char) : '.' ∈ pointed whole fraction := by
  simp [pointed]

theorem mem_positional (digits : List Char) (lead : Int) : '.' ∈ positional digits lead := by
  unfold positional
  split
  · exact mem_pointed _ _
  · exact mem_pointed _ _

theorem mem_scientific (digits : List Char) (lead : Int) : 'e' ∈ scientific digits lead := by
  unfold scientific
  split <;> simp

theorem Short.mark_mem_write (layout : Layout) (d : Short) :
    '.' ∈ d.write layout ∨ 'e' ∈ d.write layout := by
  unfold write
  dsimp only
  split
  · exact .inl (mem_positional _ _)
  · exact .inr (mem_scientific _ _)

end Decimal

namespace Json.Number

theorem text_natural (k : Nat) : (integer k).text = k.repr := by
  have hsign : ¬ (k : Int) < 0 := by omega
  simp [text, chars, hsign, Nat.repr]

/-- What is written in digits alone is a natural number. -/
theorem exists_natural_of_isDigit {n : Number} (h : ∀ c ∈ n.chars, c.isDigit = true) :
    ∃ k : Nat, n = .integer k := by
  cases n with
  | integer n =>
    by_cases hn : n < 0
    · have hsign : '-' ∈ (integer n).chars := by simp [chars, hn]
      exact absurd (h _ hsign) (by decide)
    · exact ⟨n.toNat, by rw [Int.toNat_of_nonneg (by omega)]⟩
  | real negative d =>
    have hmem : ∀ c ∈ d.write layout, c ∈ (real negative d).chars :=
      fun c hc => List.mem_append_right _ hc
    rcases d.mark_mem_write layout with hpoint | hexponent
    · exact absurd (h _ (hmem _ hpoint)) (by decide)
    · exact absurd (h _ (hmem _ hexponent)) (by decide)

theorem text_eq_repr_iff {n : Number} {k : Nat} : n.text = k.repr ↔ n = .integer k := by
  constructor
  · intro h
    have hchars : n.chars = Nat.toDigits 10 k := String.ofList_inj.mp h
    obtain ⟨m, rfl⟩ : ∃ m : Nat, n = .integer m := by
      apply exists_natural_of_isDigit
      intro c hc
      rw [hchars] at hc
      exact Nat.isDigit_of_mem_toDigits (by omega) (by omega) hc
    have hdigits : Nat.toDigits 10 m = Nat.toDigits 10 k := by
      rw [text_natural] at h
      exact String.ofList_inj.mp h
    have hread := congrArg (Nat.ofDigitChars 10 · 0) hdigits
    simp only [Nat.ofDigitChars_toDigits (b := 10) (by omega) (by omega)] at hread
    rw [hread]
  · rintro rfl
    exact text_natural k

end Json.Number

end Tenancy
