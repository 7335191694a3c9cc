import Tenancy.Text.Character.Composition
import Tenancy.Text.Character.Mark

/-!
# Composed texts

A text of permitted characters is composed by taking every character apart, putting the marks in
order and joining what is written as one. It is composed already if that changes nothing.
-/

namespace Tenancy.Text

/-- The parts of a Korean syllable: its first consonant and its vowel, or what stands before its
last consonant and that consonant. -/
def syllableParts (n : Nat) : Nat × Nat :=
  let s := n - 0xAC00
  if s % 28 = 0 then (0x1100 + s / 588, 0x1161 + s % 588 / 28) else (n - s % 28, 0x11A7 + s % 28)

def isSyllable (n : Nat) : Bool :=
  0xAC00 ≤ n && n ≤ 0xD7A3

/-- The two parts of a character that is made of two. -/
def parts? (n : Nat) : Option (Nat × Nat) :=
  if isSyllable n then some (syllableParts n)
  else (compositions.find? (·.1 == n)).map (·.2)

/-- The syllable made of two. -/
def syllable? (a b : Nat) : Option Nat :=
  if 0x1100 ≤ a ∧ a < 0x1113 ∧ 0x1161 ≤ b ∧ b < 0x1176 then
    some (0xAC00 + (a - 0x1100) * 588 + (b - 0x1161) * 28)
  else if isSyllable a ∧ (a - 0xAC00) % 28 = 0 ∧ 0x11A8 ≤ b ∧ b < 0x11C3 then
    some (a + (b - 0x11A7))
  else none

/-- The character made of two. -/
def whole? (a b : Nat) : Option Nat :=
  syllable? a b <|> (compositions.find? (·.2 == (a, b))).map (·.1)

/-- Takes a character apart, at most `depth` times. -/
def takeApart : (depth : Nat) → Char → List Char
  | 0, c => [c]
  | depth + 1, c =>
    match parts? c.toNat with
    | none => [c]
    | some (a, b) => takeApart depth (Char.ofNat a) ++ [Char.ofNat b]

/-- No character is made of more than four. -/
def greatestDepth : Nat := 3

/-- Puts a mark behind the ones of lower or the same class; the text is held in reverse. -/
def placeMark (text : List Char) (c : Char) : List Char :=
  match text with
  | [] => [c]
  | d :: rest =>
    if markClass c ≠ 0 ∧ markClass c < markClass d then d :: placeMark rest c else c :: d :: rest

def orderMarks (cs : List Char) : List Char :=
  (cs.foldl placeMark []).reverse

/-- Joins what follows to `base`; the marks since then that stay apart are held in reverse. -/
def joinTo (base : Char) (held : List Char) : List Char → List Char
  | [] => base :: held.reverse
  | c :: rest =>
    let isBlocked := held.head?.any (markClass c ≤ markClass ·)
    match if isBlocked then none else whole? base.toNat c.toNat with
    | some n => joinTo (Char.ofNat n) held rest
    | none =>
      if markClass c = 0 then base :: held.reverse ++ joinTo c [] rest
      else joinTo base (c :: held) rest

def join : List Char → List Char
  | [] => []
  | c :: rest => joinTo c [] rest

def composed (cs : List Char) : List Char :=
  join (orderMarks (cs.flatMap (takeApart greatestDepth)))

def IsComposed (cs : List Char) : Prop :=
  composed cs = cs

instance (cs : List Char) : Decidable (IsComposed cs) :=
  inferInstanceAs (Decidable (_ = _))

end Tenancy.Text
