import Tenancy.Json.Reader.Numbers
import Tenancy.Json.Reader.Strings

/-!
# Reading JSON texts

A text is one value between blanks. Arrays and objects may lie in each other to a bounded depth;
of equal names in an object the last one counts.
-/

namespace Tenancy.Json

def isGap (b : UInt8) : Bool :=
  b == 0x20 || b == 0x0A || b == 0x09 || b == 0x0D

def skipGap (bs : Bytes) : Bytes :=
  bs.dropWhile isGap

/-- Reads the given bytes. -/
def readWord : Bytes → Bytes → Except Halt Bytes
  | [], rest => .ok rest
  | _ :: _, [] => halt .textEndsInValue []
  | w :: word, b :: rest => if b = w then readWord word rest else halt .wordMisspelled rest

/-- Reads the items of an array behind its bracket, up to and with the closing one; `read` holds
those before, the last one first. -/
def readItems (item : Bytes → Except Halt (Json × Bytes)) (fuel : Nat) (read : List Json)
    (bs : Bytes) : Except Halt (List Json × Bytes) :=
  match fuel with
  | 0 => halt .textEndsInArray bs
  | fuel + 1 => do
    let (v, rest) ← item bs
    match skipGap rest with
    | [] => halt .textEndsInArray []
    | 0x5D :: rest => pure ((v :: read).reverse, rest)
    | 0x2C :: rest =>
      match skipGap rest with
      | [] => halt .textEndsInValue []
      | 0x5D :: rest => halt .trailingComma rest
      | rest => readItems item fuel (v :: read) rest
    | _ :: rest => halt .itemEndMissing rest

/-- Reads one member from behind the opening quote of its name. -/
def readMember (item : Bytes → Except Halt (Json × Bytes)) (bs : Bytes) :
    Except Halt ((String × Json) × Bytes) := do
  let (name, rest) ← readString bs
  match skipGap rest with
  | 0x3A :: rest =>
    let (v, rest) ← item rest
    pure ((name, v), rest)
  | [] => halt .textEndsInObject []
  | _ :: rest => halt .colonMissing rest

/-- Reads the members of an object from behind the first quote. -/
def readMembers (item : Bytes → Except Halt (Json × Bytes)) (fuel : Nat)
    (read : List (String × Json)) (bs : Bytes) : Except Halt (List (String × Json) × Bytes) :=
  match fuel with
  | 0 => halt .textEndsInObject bs
  | fuel + 1 => do
    let (m, rest) ← readMember item bs
    match skipGap rest with
    | [] => halt .textEndsInObject []
    | 0x7D :: rest => pure ((m :: read).reverse, rest)
    | 0x2C :: rest =>
      match skipGap rest with
      | [] => halt .textEndsInValue []
      | 0x22 :: rest => readMembers item fuel (m :: read) rest
      | 0x7D :: rest => halt .trailingComma rest
      | _ :: rest => halt .nameMissing rest
    | _ :: rest => halt .memberEndMissing rest

def readArray (item : Bytes → Except Halt (Json × Bytes)) (bs : Bytes) :
    Except Halt (Json × Bytes) :=
  match skipGap bs with
  | [] => halt .textEndsInArray []
  | 0x5D :: rest => .ok (.array [], rest)
  | rest => do
    let (items, rest) ← readItems item rest.length [] rest
    pure (.array items, rest)

def readObject (item : Bytes → Except Halt (Json × Bytes)) (bs : Bytes) :
    Except Halt (Json × Bytes) :=
  match skipGap bs with
  | [] => halt .textEndsInObject []
  | 0x7D :: rest => .ok (ofMembers [], rest)
  | 0x22 :: rest => do
    let (members, rest) ← readMembers item rest.length [] rest
    pure (ofMembers members, rest)
  | _ :: rest => halt .nameMissing rest

/-- Reads a value of at most the given depth. -/
def readValue (depth : Nat) (bs : Bytes) : Except Halt (Json × Bytes) :=
  match skipGap bs with
  | [] => halt .textEndsInValue []
  | b :: rest =>
    match b with
    | 0x6E => do
      let rest ← readWord [0x75, 0x6C, 0x6C] rest
      pure (.null, rest)
    | 0x74 => do
      let rest ← readWord [0x72, 0x75, 0x65] rest
      pure (.bool true, rest)
    | 0x66 => do
      let rest ← readWord [0x61, 0x6C, 0x73, 0x65] rest
      pure (.bool false, rest)
    | 0x2D => do
      let (n, rest) ← readNumber true rest
      pure (.number n, rest)
    | 0x22 => do
      let (s, rest) ← readString rest
      pure (.string s, rest)
    | 0x5B =>
      match depth with
      | 0 => halt .nestedTooDeep rest
      | depth + 1 => readArray (readValue depth) rest
    | 0x7B =>
      match depth with
      | 0 => halt .nestedTooDeep rest
      | depth + 1 => readObject (readValue depth) rest
    | _ =>
      if isDigit b then do
        let (n, rest) ← readNumber false (b :: rest)
        pure (.number n, rest)
      else halt .valueMissing rest

/-- The greatest depth of a text. -/
def greatestDepth : Nat := 127

/-- Reads a value and the gap behind it, to the end. -/
def readAll (depth : Nat) (bs : Bytes) : Except Halt Json := do
  let (v, rest) ← readValue depth bs
  match skipGap rest with
  | [] => pure v
  | _ :: rest => halt .trailingText rest

def read (text : Bytes) : Except Defect Json :=
  (readAll greatestDepth text).mapError (·.locate text)

end Tenancy.Json
