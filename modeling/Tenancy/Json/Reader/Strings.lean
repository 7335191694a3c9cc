import Tenancy.Json.Flaw
import Tenancy.Text.Utf8

/-!
# Reading JSON strings

Strings from their opening quote on: bytes up to the closing quote, escapes replaced, and the whole
decoded at the end. Both halves of a surrogate pair have to be there.
-/

namespace Tenancy.Json

def quote : UInt8 := 0x22

def backslash : UInt8 := 0x5C

def hexValue (b : UInt8) : Option Nat :=
  if 0x30 ≤ b ∧ b ≤ 0x39 then some (b.toNat - 0x30)
  else if 0x41 ≤ b ∧ b ≤ 0x46 then some (b.toNat - 0x37)
  else if 0x61 ≤ b ∧ b ≤ 0x66 then some (b.toNat - 0x57)
  else none

def readHex : Bytes → Except Halt (Nat × Bytes)
  | a :: b :: c :: d :: rest =>
    match hexValue a, hexValue b, hexValue c, hexValue d with
    | some a, some b, some c, some d => .ok (((a * 16 + b) * 16 + c) * 16 + d, rest)
    | _, _, _, _ => halt .badEscape rest
  | _ => halt .textEndsInString []

def isLeadingSurrogate (n : Nat) : Bool :=
  0xD800 ≤ n && n ≤ 0xDBFF

def isTrailingSurrogate (n : Nat) : Bool :=
  0xDC00 ≤ n && n ≤ 0xDFFF

def codePoint (n : Nat) : Bytes :=
  String.utf8EncodeChar (Char.ofNat n)

/-- Reads the second half of a pair. -/
def readPair (first : Nat) : Bytes → Except Halt (Bytes × Bytes)
  | 0x5C :: 0x75 :: rest => do
    let (second, rest) ← readHex rest
    if isTrailingSurrogate second then
      pure (codePoint (0x10000 + (first - 0xD800) * 0x400 + (second - 0xDC00)), rest)
    else halt .unpairedSurrogate rest
  | [] | [0x5C] => halt .textEndsInString []
  | 0x5C :: _ :: rest => halt .secondSurrogateMissing rest
  | _ :: rest => halt .secondSurrogateMissing rest

/-- The byte that a backslash and one more byte stand for. -/
def shortEscape (b : UInt8) : Option UInt8 :=
  match b with
  | 0x22 => some 0x22
  | 0x5C => some 0x5C
  | 0x2F => some 0x2F
  | 0x62 => some 0x08
  | 0x66 => some 0x0C
  | 0x6E => some 0x0A
  | 0x72 => some 0x0D
  | 0x74 => some 0x09
  | _ => none

/-- Reads what follows a backslash. -/
def readEscape : Bytes → Except Halt (Bytes × Bytes)
  | [] => halt .textEndsInString []
  | 0x75 :: rest => do
    let (n, rest) ← readHex rest
    if isTrailingSurrogate n then halt .unpairedSurrogate rest
    else if isLeadingSurrogate n then readPair n rest
    else pure (codePoint n, rest)
  | b :: rest =>
    match shortEscape b with
    | some out => pure ([out], rest)
    | none => halt .badEscape rest

theorem length_readHex {bs : Bytes} {n : Nat} {rest : Bytes} (h : readHex bs = .ok (n, rest)) :
    rest.length < bs.length := by
  unfold readHex at h
  split at h
  · split at h
    · simp only [Except.ok.injEq, Prod.mk.injEq] at h
      simp [← h.2]; omega
    · simp [halt] at h
  · simp [halt] at h

theorem length_readPair {first : Nat} {bs out rest : Bytes}
    (h : readPair first bs = .ok (out, rest)) : rest.length < bs.length := by
  unfold readPair at h
  split at h
  · rename_i r
    cases hx : readHex r with
    | error e => simp [hx, bind, Except.bind] at h
    | ok p =>
      have := @length_readHex r p.1 p.2 hx
      simp only [hx, bind, Except.bind] at h
      split at h
      · simp only [pure, Except.pure, Except.ok.injEq, Prod.mk.injEq] at h
        simp [← h.2]; omega
      · simp [halt] at h
  all_goals simp [halt] at h

theorem length_readEscape {bs out rest : Bytes} (h : readEscape bs = .ok (out, rest)) :
    rest.length < bs.length := by
  unfold readEscape at h
  split at h
  · simp [halt] at h
  · rename_i r
    cases hx : readHex r with
    | error e => simp [hx, bind, Except.bind] at h
    | ok p =>
      have hl := @length_readHex r p.1 p.2 hx
      simp only [hx, bind, Except.bind] at h
      split at h
      · simp [halt] at h
      · split at h
        · have := length_readPair h
          simp; omega
        · simp only [pure, Except.pure, Except.ok.injEq, Prod.mk.injEq] at h
          simp [← h.2]; omega
  · split at h
    · simp only [pure, Except.pure, Except.ok.injEq, Prod.mk.injEq] at h
      simp [← h.2]
    · simp [halt] at h

/-- Reads up to the closing quote; `read` holds the bytes before, the last one first. -/
def readContent (read : Bytes) (bs : Bytes) : Except Halt (Bytes × Bytes) :=
  match bs with
  | [] => halt .textEndsInString []
  | b :: rest =>
    if b = quote then
      .ok (read.reverse, b :: rest)
    else if b = backslash then
      match h : readEscape rest with
      | .error e => .error e
      | .ok (out, rest') =>
        have := length_readEscape h
        readContent (out.reverse ++ read) rest'
    else if b < 0x20 then halt .controlCharacter rest
    else readContent (b :: read) rest
termination_by bs.length
decreasing_by all_goals simp; try omega

/-- Reads a string from behind its opening quote. -/
def readString (bs : Bytes) : Except Halt (String × Bytes) := do
  let (content, rest) ← readContent [] bs
  match Text.Utf8.decode? content with
  | some s => pure (s, rest.drop 1)
  | none => halt .badCharacter rest

end Tenancy.Json
