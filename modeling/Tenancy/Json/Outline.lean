import Tenancy.Json.Reader

/-!
# Outlines of JSON texts

The members or items of a text with their values left as text. A value is only followed to its end
here, so it may lie as deep as it likes, and its numbers and surrogates may be out of range.
-/

namespace Tenancy.Json

def skipHex : Bytes → Option Bytes
  | a :: b :: c :: d :: rest =>
    if [a, b, c, d].all fun h => (hexValue h).isSome then some rest else none
  | _ => none

theorem length_skipHex {bs rest : Bytes} (h : skipHex bs = some rest) :
    rest.length < bs.length := by
  unfold skipHex at h
  split at h
  · split at h
    · simp only [Option.some.injEq] at h
      simp [← h]; omega
    · simp at h
  · simp at h

/-- Follows a string from behind its opening quote. -/
def skipString (bs : Bytes) : Option Bytes :=
  match bs with
  | [] => none
  | b :: rest =>
    if b = quote then some rest
    else if b = backslash then
      match rest with
      | [] => none
      | e :: rest =>
        if e = 0x75 then
          match h : skipHex rest with
          | none => none
          | some rest' =>
            have := length_skipHex h
            skipString rest'
        else if (shortEscape e).isSome then skipString rest
        else none
    else if b < 0x20 then none
    else skipString rest
termination_by bs.length
decreasing_by all_goals simp; try omega

/-- Follows at least one digit. -/
def skipDigits : Bytes → Option Bytes
  | b :: rest => if isDigit b then some (rest.dropWhile isDigit) else none
  | [] => none

def skipExponent : Bytes → Option Bytes
  | 0x65 :: rest | 0x45 :: rest =>
    match rest with
    | 0x2B :: rest | 0x2D :: rest => skipDigits rest
    | _ => skipDigits rest
  | rest => some rest

/-- Follows a number from behind its sign. -/
def skipNumber : Bytes → Option Bytes
  | b :: rest => do
    let rest ←
      if b = 0x30 then if isDigit (rest.headD 0) then none else some rest
      else skipDigits (b :: rest)
    match rest with
    | 0x2E :: rest => skipDigits rest >>= skipExponent
    | _ => skipExponent rest
  | [] => none

mutual

/-- Follows a value; `fuel` bounds the number of values and names in it. -/
def skipValue (fuel : Nat) (bs : Bytes) : Option Bytes :=
  match fuel with
  | 0 => none
  | fuel + 1 =>
    match skipGap bs with
    | [] => none
    | b :: rest =>
      match b with
      | 0x6E => (readWord [0x75, 0x6C, 0x6C] rest).toOption
      | 0x74 => (readWord [0x72, 0x75, 0x65] rest).toOption
      | 0x66 => (readWord [0x61, 0x6C, 0x73, 0x65] rest).toOption
      | 0x2D => skipNumber rest
      | 0x22 => skipString rest
      | 0x5B =>
        match skipGap rest with
        | 0x5D :: rest => some rest
        | rest => skipItems fuel rest
      | 0x7B =>
        match skipGap rest with
        | 0x7D :: rest => some rest
        | rest => skipMembers fuel rest
      | _ => skipNumber (b :: rest)

def skipItems (fuel : Nat) (bs : Bytes) : Option Bytes :=
  match fuel with
  | 0 => none
  | fuel + 1 => do
    let rest ← skipValue fuel bs
    match skipGap rest with
    | 0x5D :: rest => some rest
    | 0x2C :: rest => skipItems fuel rest
    | _ => none

def skipMembers (fuel : Nat) (bs : Bytes) : Option Bytes :=
  match fuel with
  | 0 => none
  | fuel + 1 =>
    match skipGap bs with
    | 0x22 :: rest => do
      let rest ← skipString rest
      match skipGap rest with
      | 0x3A :: rest =>
        let rest ← skipValue fuel rest
        match skipGap rest with
        | 0x7D :: rest => some rest
        | 0x2C :: rest => skipMembers fuel rest
        | _ => none
      | _ => none
    | _ => none

end

/-- Cuts the text of the value that stands next. -/
def cutValue (bs : Bytes) : Option (Bytes × Bytes) := do
  let rest ← skipValue (bs.length + 1) bs
  pure (bs.take (bs.length - rest.length), rest)

inductive Outline where
  | members (parts : List (String × Bytes))
  | items (parts : List Bytes)

namespace Outline

/-- Cuts items up to the closing bracket, which has to end the text. -/
def cutItems (fuel : Nat) (bs : Bytes) : Option (List Bytes) :=
  match fuel with
  | 0 => none
  | fuel + 1 => do
    let (part, rest) ← cutValue bs
    match skipGap rest with
    | 0x5D :: rest => if (skipGap rest).isEmpty then some [part] else none
    | 0x2C :: rest => (part :: ·) <$> cutItems fuel rest
    | _ => none

/-- Cuts members up to the closing brace, which has to end the text; their names are read. -/
def cutMembers (fuel : Nat) (bs : Bytes) : Option (List (String × Bytes)) :=
  match fuel with
  | 0 => none
  | fuel + 1 =>
    match skipGap bs with
    | 0x22 :: rest => do
      let (name, rest) ← (readString rest).toOption
      match skipGap rest with
      | 0x3A :: rest =>
        let (part, rest) ← cutValue rest
        match skipGap rest with
        | 0x7D :: rest => if (skipGap rest).isEmpty then some [(name, part)] else none
        | 0x2C :: rest => ((name, part) :: ·) <$> cutMembers fuel rest
        | _ => none
      | _ => none
    | _ => none

def read (text : Bytes) : Option Outline :=
  match skipGap text with
  | 0x7B :: rest =>
    match skipGap rest with
    | 0x7D :: rest => if (skipGap rest).isEmpty then some (.members []) else none
    | rest => (cutMembers rest.length rest).map members
  | 0x5B :: rest =>
    match skipGap rest with
    | 0x5D :: rest => if (skipGap rest).isEmpty then some (.items []) else none
    | rest => (cutItems rest.length rest).map items
  | _ => none

end Outline

end Tenancy.Json
