import Tenancy.Json.Outline

/-!
# The grammar of JSON

What a JSON text is, as RFC 8259 has it and without regard to how texts are read: the bytes of a
value between blanks. Nothing bounds the depth of a value, the size of its numbers or the numbers of
its escapes, so there are strings that stand for no text (`IsContent`) beside those that do
(`Spells`).
-/

namespace Tenancy.Json

/-- Blanks between the parts of a text. -/
def IsGap (bs : Bytes) : Prop :=
  ∀ b ∈ bs, isGap b = true

def IsHex (bs : Bytes) : Prop :=
  ∀ b ∈ bs, (hexValue b).isSome = true

/-- The characters that a backslash and one more byte stand for. -/
def shortEscapes : List (UInt8 × Char) :=
  [(0x22, '"'), (0x5C, '\\'), (0x2F, '/'), (0x62, '\x08'), (0x66, '\x0c'), (0x6E, '\n'),
    (0x72, '\r'), (0x74, '\t')]

/-- What may stand between the quotes of a string. -/
inductive IsContent : Bytes → Prop where
  | nil : IsContent []
  | plain {b : UInt8} {rest : Bytes} (printable : 0x20 ≤ b) (unquoted : b ≠ quote)
      (unescaped : b ≠ backslash) (more : IsContent rest) : IsContent (b :: rest)
  | short {e : UInt8} {c : Char} {rest : Bytes} (known : (e, c) ∈ shortEscapes)
      (more : IsContent rest) : IsContent (backslash :: e :: rest)
  | numbered {a b c d : UInt8} {rest : Bytes} (digits : IsHex [a, b, c, d])
      (more : IsContent rest) : IsContent (backslash :: 0x75 :: a :: b :: c :: d :: rest)

/-- The number that four hexadecimal digits stand for. -/
inductive Numbers : Bytes → Nat → Prop where
  | four {a b c d : UInt8} {i j k l : Nat} (first : hexValue a = some i)
      (second : hexValue b = some j) (third : hexValue c = some k) (fourth : hexValue d = some l) :
      Numbers [a, b, c, d] (((i * 16 + j) * 16 + k) * 16 + l)

/-- Content that stands for characters. The numbers of surrogates come in pairs. -/
inductive Spells : Bytes → List Char → Prop where
  | nil : Spells [] []
  | plain {c : Char} {content : Bytes} {cs : List Char} (printable : ' ' ≤ c)
      (unquoted : c ≠ '"') (unescaped : c ≠ '\\') (more : Spells content cs) :
      Spells (String.utf8EncodeChar c ++ content) (c :: cs)
  | short {e : UInt8} {c : Char} {content : Bytes} {cs : List Char} (known : (e, c) ∈ shortEscapes)
      (more : Spells content cs) : Spells (backslash :: e :: content) (c :: cs)
  | numbered {digits content : Bytes} {n : Nat} {cs : List Char} (number : Numbers digits n)
      (single : isLeadingSurrogate n = false ∧ isTrailingSurrogate n = false)
      (more : Spells content cs) :
      Spells (backslash :: 0x75 :: (digits ++ content)) (Char.ofNat n :: cs)
  | paired {digits digits' content : Bytes} {n m : Nat} {cs : List Char} (number : Numbers digits n)
      (number' : Numbers digits' m) (leading : isLeadingSurrogate n = true)
      (trailing : isTrailingSurrogate m = true) (more : Spells content cs) :
      Spells (backslash :: 0x75 :: (digits ++ backslash :: 0x75 :: (digits' ++ content)))
        (Char.ofNat (0x10000 + (n - 0xD800) * 0x400 + (m - 0xDC00)) :: cs)

/-- The bytes of a string. -/
def quoted (content : Bytes) : Bytes :=
  quote :: (content ++ [quote])

def AllDigits (bs : Bytes) : Prop :=
  ∀ b ∈ bs, isDigit b = true

/-- At least one digit, and no zero in front of others. -/
inductive IsWhole : Bytes → Prop where
  | zero : IsWhole [0x30]
  | digits {b : UInt8} {rest : Bytes} (first : isDigit b = true) (nonzero : b ≠ 0x30)
      (more : AllDigits rest) : IsWhole (b :: rest)

inductive IsFraction : Bytes → Prop where
  | absent : IsFraction []
  | present {b : UInt8} {rest : Bytes} (first : isDigit b = true) (more : AllDigits rest) :
      IsFraction (0x2E :: b :: rest)

inductive IsExponent : Bytes → Prop where
  | absent : IsExponent []
  | present {e b : UInt8} {sign rest : Bytes} (letter : e = 0x65 ∨ e = 0x45)
      (signed : sign = [] ∨ sign = [0x2B] ∨ sign = [0x2D]) (first : isDigit b = true)
      (more : AllDigits rest) : IsExponent (e :: (sign ++ b :: rest))

/-- A number without its sign. -/
inductive IsMagnitude : Bytes → Prop where
  | of {whole fraction exponent : Bytes} (whole_is : IsWhole whole)
      (fraction_is : IsFraction fraction) (exponent_is : IsExponent exponent) :
      IsMagnitude (whole ++ fraction ++ exponent)

/-- The parts of texts: values, values between blanks, and what follows an opening bracket, with the
values and the contents of the names that are in it. -/
inductive Part where
  | value
  | element (value : Bytes)
  | items (values : List Bytes)
  | members (pairs : List (Bytes × Bytes))

inductive Derives : Part → Bytes → Prop where
  | null : Derives .value [0x6E, 0x75, 0x6C, 0x6C]
  | yes : Derives .value [0x74, 0x72, 0x75, 0x65]
  | no : Derives .value [0x66, 0x61, 0x6C, 0x73, 0x65]
  | number {n : Bytes} (magnitude : IsMagnitude n) : Derives .value n
  | negative {n : Bytes} (magnitude : IsMagnitude n) : Derives .value (0x2D :: n)
  | string {content : Bytes} (h : IsContent content) : Derives .value (quoted content)
  | emptyArray {g : Bytes} (gap : IsGap g) : Derives .value (0x5B :: (g ++ [0x5D]))
  | array {vs : List Bytes} {inner : Bytes} (items : Derives (.items vs) inner) :
      Derives .value (0x5B :: inner)
  | emptyObject {g : Bytes} (gap : IsGap g) : Derives .value (0x7B :: (g ++ [0x7D]))
  | object {ms : List (Bytes × Bytes)} {inner : Bytes} (members : Derives (.members ms) inner) :
      Derives .value (0x7B :: inner)
  | element {g v g' : Bytes} (before : IsGap g) (value : Derives .value v) (behind : IsGap g') :
      Derives (.element v) (g ++ (v ++ g'))
  | lastItem {v e : Bytes} (item : Derives (.element v) e) : Derives (.items [v]) (e ++ [0x5D])
  | item {v e rest : Bytes} {vs : List Bytes} (item : Derives (.element v) e)
      (more : Derives (.items vs) rest) : Derives (.items (v :: vs)) (e ++ 0x2C :: rest)
  | lastMember {g content g' v e : Bytes} (before : IsGap g) (name : IsContent content)
      (behind : IsGap g') (value : Derives (.element v) e) :
      Derives (.members [(content, v)])
        (g ++ quote :: (content ++ quote :: (g' ++ 0x3A :: (e ++ [0x7D]))))
  | member {g content g' v e rest : Bytes} {ms : List (Bytes × Bytes)} (before : IsGap g)
      (name : IsContent content) (behind : IsGap g') (value : Derives (.element v) e)
      (more : Derives (.members ms) rest) :
      Derives (.members ((content, v) :: ms))
        (g ++ quote :: (content ++ quote :: (g' ++ 0x3A :: (e ++ 0x2C :: rest))))

/-- A JSON text: one value between blanks. -/
def IsText (bs : Bytes) : Prop :=
  ∃ v, Derives (.element v) bs

/-- A text that is an object, with the contents of its names and its values. -/
inductive IsObject : List (Bytes × Bytes) → Bytes → Prop where
  | empty {g g' g'' : Bytes} (before : IsGap g) (within : IsGap g') (behind : IsGap g'') :
      IsObject [] (g ++ 0x7B :: (g' ++ 0x7D :: g''))
  | members {g inner g' : Bytes} {ms : List (Bytes × Bytes)} (before : IsGap g)
      (inside : Derives (.members ms) inner) (behind : IsGap g') :
      IsObject ms (g ++ 0x7B :: (inner ++ g'))

end Tenancy.Json
