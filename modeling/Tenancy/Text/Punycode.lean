import Tenancy.Text.Blank

/-!
# Punycode

A text with characters outside ASCII, written in lower-case letters, digits and hyphens: first the
ASCII characters, behind the last hyphen the others in the order of their code points, each as the
number of steps to the place where it is inserted.
-/

namespace Tenancy.Text.Punycode

def digit? (c : Char) : Option Nat :=
  if 'a' ≤ c ∧ c ≤ 'z' then some (c.toNat - 'a'.toNat)
  else if c.isDigit then some (26 + (c.toNat - '0'.toNat))
  else none

def digit (n : Nat) : Char :=
  Char.ofNat (if n < 26 then 'a'.toNat + n else '0'.toNat + (n - 26))

/-- A digit below this value is the last one of its number. -/
def threshold (bias place : Nat) : Nat :=
  min 26 (max 1 (place - bias))

/-- Writes one number, lowest digit first. -/
def digits (bias place n : Nat) : List Char :=
  let t := threshold bias place
  if n < t then [digit n]
  else digit (t + (n - t) % (36 - t)) :: digits bias (place + 36) ((n - t) / (36 - t))
termination_by n
decreasing_by
  have h := Nat.div_le_self (n - threshold bias place) (36 - threshold bias place)
  have ht : 1 ≤ threshold bias place := by simp only [threshold]; omega
  omega

/-- Reads one number, lowest digit first. -/
def number? (bias : Nat) : (place weight sum : Nat) → List Char → Option (Nat × List Char)
  | _, _, _, [] => none
  | place, weight, sum, c :: rest =>
    match digit? c with
    | none => none
    | some d =>
      let t := threshold bias place
      let sum := sum + d * weight
      if d < t then some (sum, rest) else number? bias (place + 36) (weight * (36 - t)) sum rest

theorem length_of_number? {bias place weight sum n : Nat} {cs rest : List Char}
    (h : number? bias place weight sum cs = some (n, rest)) : rest.length < cs.length := by
  fun_induction number? bias place weight sum cs with
  | case1 => simp at h
  | case2 => simp at h
  | case3 => simp_all
  | case4 _ _ _ _ _ _ _ _ _ _ ih =>
    have := ih h
    simp only [List.length_cons]
    omega

/-- The bias under which a number of the size of `delta` ends soon. -/
def settle (place delta : Nat) : Nat :=
  if delta ≤ 455 then place + 36 * delta / (delta + 38) else settle (place + 36) (delta / 35)
termination_by delta
decreasing_by omega

/-- The bias after a number, when the text has got `length` characters. -/
def adapt (isFirst : Bool) (number length : Nat) : Nat :=
  let delta := if isFirst then number / 700 else number / 2
  settle 0 (delta + delta / length)

/-- Inserts the characters that the numbers in `cs` stand for, from `place` and `code` on. -/
def insertAll? (isFirst : Bool) (bias code place : Nat) (text cs : List Char) :
    Option (List Char) :=
  if cs = [] then some text
  else
    match h : number? bias 36 1 0 cs with
    | none => none
    | some (steps, rest) =>
      let length := text.length + 1
      let code := code + (place + steps) / length
      let place := (place + steps) % length
      if code.isValidChar then
        insertAll? false (adapt isFirst steps length) code (place + 1)
          (text.insertIdx place (Char.ofNat code)) rest
      else none
termination_by cs.length
decreasing_by exact length_of_number? h

/-- The text that is written in this form. -/
def decode? (cs : List Char) : Option (List Char) :=
  match dropEnd (· ≠ '-') cs with
  | [] | ['-'] => insertAll? true 72 128 0 [] cs
  | front => insertAll? true 72 128 0 front.dropLast (cs.drop front.length)

/-- What is left to write: the bias, the steps so far and the number of characters written. -/
structure Progress where
  bias : Nat
  steps : Nat
  length : Nat

/-- Passes over one character of the text on the way to the places of `code`. -/
def pass (plain code : Nat) (p : Progress) (c : Char) : Progress × List Char :=
  if c.toNat < code then ({ p with steps := p.steps + 1 }, [])
  else if c.toNat = code then
    (⟨adapt (p.length == plain) p.steps (p.length + 1), 0, p.length + 1⟩,
      digits p.bias 36 p.steps)
  else (p, [])

def passAll (plain code : Nat) (p : Progress) : List Char → Progress × List Char
  | [] => (p, [])
  | c :: rest =>
    let first := pass plain code p c
    let others := passAll plain code first.1 rest
    (others.1, first.2 ++ others.2)

/-- Writes the places of the characters outside ASCII, by their code points in increasing order. -/
def writeAll (text : List Char) (plain last : Nat) (p : Progress) : List Nat → List Char
  | [] => []
  | code :: codes =>
    let start := { p with steps := p.steps + (code - last) * (p.length + 1) }
    let (p, out) := passAll plain code start text
    out ++ writeAll text plain (code + 1) { p with steps := p.steps + 1 } codes

/-- Inserts a number into increasing ones unless it is there. -/
def insertCode (n : Nat) : List Nat → List Nat
  | [] => [n]
  | m :: rest =>
    if n < m then n :: m :: rest else if n = m then m :: rest else m :: insertCode n rest

def codes (cs : List Char) : List Nat :=
  (cs.filter (0x80 ≤ ·.toNat)).foldr (fun c ns => insertCode c.toNat ns) []

/-- The written form of a text. -/
def encode (cs : List Char) : List Char :=
  let plain := cs.filter (·.toNat < 0x80)
  let front := if plain = [] then [] else plain ++ ['-']
  front ++ writeAll cs plain.length 128 ⟨72, 0, plain.length⟩ (codes cs)

end Tenancy.Text.Punycode
