/-!
# Blank characters

The Unicode white space characters, and the two ways a text is cleaned: blanks are taken off both
ends, slashes off the end.
-/

namespace Tenancy.Text

def isBlank (c : Char) : Bool :=
  let n := c.toNat
  (0x09 ≤ n && n ≤ 0x0D) || n == 0x20 || n == 0x85 || n == 0xA0 || n == 0x1680 ||
    (0x2000 ≤ n && n ≤ 0x200A) || n == 0x2028 || n == 0x2029 || n == 0x202F || n == 0x205F ||
    n == 0x3000

theorem isBlank_of_isWhitespace {c : Char} (h : c.isWhitespace) : isBlank c := by
  simp only [Char.isWhitespace, Bool.or_eq_true, decide_eq_true_eq] at h
  obtain ((rfl | rfl) | rfl) | rfl := h <;> decide

theorem isBlank_slash : isBlank '/' = false := by decide

def dropEnd (p : Char → Bool) (cs : List Char) : List Char :=
  (cs.reverse.dropWhile p).reverse

/-- Takes the blanks off both ends. -/
def trim (s : String) : String :=
  .ofList (dropEnd isBlank (s.toList.dropWhile isBlank))

/-- Takes every slash off the end. -/
def dropSlashes (s : String) : String :=
  .ofList (dropEnd (· == '/') s.toList)

/-- The base address a text gives: trimmed first, so blanks in front of a last slash stay. -/
def baseAddress (s : String) : String :=
  dropSlashes (trim s)

@[simp] theorem toList_trim (s : String) :
    (trim s).toList = dropEnd isBlank (s.toList.dropWhile isBlank) := by simp [trim]

@[simp] theorem toList_dropSlashes (s : String) :
    (dropSlashes s).toList = dropEnd (· == '/') s.toList := by simp [dropSlashes]

@[simp] theorem dropEnd_nil (p : Char → Bool) : dropEnd p [] = [] := rfl

theorem dropEnd_isPrefix (p : Char → Bool) (cs : List Char) : dropEnd p cs <+: cs := by
  have h := List.dropWhile_suffix p (l := cs.reverse)
  simpa [dropEnd] using List.reverse_prefix.mpr h

theorem mem_of_mem_dropEnd {p : Char → Bool} {cs : List Char} {c : Char} (h : c ∈ dropEnd p cs) :
    c ∈ cs :=
  (dropEnd_isPrefix p cs).subset h

theorem dropWhile_dropWhile (p : Char → Bool) (cs : List Char) :
    (cs.dropWhile p).dropWhile p = cs.dropWhile p := by
  induction cs with
  | nil => rfl
  | cons c rest ih => by_cases h : p c <;> simp [List.dropWhile, h, ih]

@[simp] theorem dropEnd_dropEnd (p : Char → Bool) (cs : List Char) :
    dropEnd p (dropEnd p cs) = dropEnd p cs := by
  simp [dropEnd, dropWhile_dropWhile]

/-- Nothing is left to take off the front once the front has been taken off. -/
theorem dropWhile_dropEnd_dropWhile (p : Char → Bool) (cs : List Char) :
    (dropEnd p (cs.dropWhile p)).dropWhile p = dropEnd p (cs.dropWhile p) := by
  obtain ⟨rest, h⟩ := dropEnd_isPrefix p (cs.dropWhile p)
  cases hd : dropEnd p (cs.dropWhile p) with
  | nil => rfl
  | cons c ds =>
    cases hc : p c with
    | false => simp [List.dropWhile, hc]
    | true =>
      have hx := dropWhile_dropWhile p cs
      rw [← h, hd, List.cons_append, List.dropWhile_cons_of_pos hc] at hx
      have := (List.dropWhile_suffix p (l := ds ++ rest)).length_le
      rw [hx, List.length_cons] at this
      exact absurd this (Nat.not_succ_le_self _)

@[simp] theorem trim_trim (s : String) : trim (trim s) = trim s := by
  rw [← String.toList_inj]
  simp [dropWhile_dropEnd_dropWhile]

end Tenancy.Text
