/-!
# Flaws in JSON texts

What is wrong with a text that is no JSON value, and where: a flaw is found with some of the text
left unread, which gives its line and its column in bytes.
-/

namespace Tenancy.Json

abbrev Bytes := List UInt8

inductive Flaw where
  | valueMissing
  | wordMisspelled
  | colonMissing
  | itemEndMissing
  | memberEndMissing
  | nameMissing
  | trailingComma
  | trailingText
  | badNumber
  | numberTooLarge
  | textEndsInValue
  | textEndsInArray
  | textEndsInObject
  | textEndsInString
  | badEscape
  | secondSurrogateMissing
  | unpairedSurrogate
  | badCharacter
  | controlCharacter
  | nestedTooDeep
deriving DecidableEq, Repr

def Flaw.message : Flaw → String
  | valueMissing => "expected value"
  | wordMisspelled => "expected ident"
  | colonMissing => "expected `:`"
  | itemEndMissing => "expected `,` or `]`"
  | memberEndMissing => "expected `,` or `\x7d`"
  | nameMissing => "key must be a string"
  | trailingComma => "trailing comma"
  | trailingText => "trailing characters"
  | badNumber => "invalid number"
  | numberTooLarge => "number out of range"
  | textEndsInValue => "EOF while parsing a value"
  | textEndsInArray => "EOF while parsing a list"
  | textEndsInObject => "EOF while parsing an object"
  | textEndsInString => "EOF while parsing a string"
  | badEscape => "invalid escape"
  | secondSurrogateMissing => "unexpected end of hex escape"
  | unpairedSurrogate => "lone leading surrogate in hex escape"
  | badCharacter => "invalid unicode code point"
  | controlCharacter => "control character (\\u0000-\\u001F) found while parsing a string"
  | nestedTooDeep => "recursion limit exceeded"

/-- A flaw and the text left unread when it was found. -/
structure Halt where
  flaw : Flaw
  rest : Bytes
deriving DecidableEq, Repr

def halt (flaw : Flaw) (rest : Bytes) : Except Halt α :=
  .error ⟨flaw, rest⟩

/-- Halts at the next byte, which counts as read. -/
def haltAt (flaw : Flaw) (rest : Bytes) : Except Halt α :=
  .error ⟨flaw, rest.drop 1⟩

/-- A flaw with the line and the column at which it was found. -/
structure Defect where
  flaw : Flaw
  line : Nat
  column : Nat
deriving DecidableEq, Repr

def newline : UInt8 := 0x0A

def Halt.locate (text : Bytes) (h : Halt) : Defect :=
  let read := text.take (text.length - h.rest.length)
  ⟨h.flaw, read.count newline + 1, (read.reverse.takeWhile (· ≠ newline)).length⟩

def Defect.message (d : Defect) : String :=
  d.flaw.message ++ " at line " ++ toString d.line ++ " column " ++ toString d.column

end Tenancy.Json
