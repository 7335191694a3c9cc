import Tenancy.Text.Character.Direction
import Tenancy.Text.Character.Joining
import Tenancy.Text.Character.Permitted
import Tenancy.Text.Composed
import Tenancy.Text.Punycode

/-!
# Labels

What stands between the dots of a folded name. A label with characters outside ASCII is
international: they have to be permitted ones, composed, with no mark in front and every joiner
where it has an effect. It is written in ASCII behind a marker. In a name with a label that runs
from right to left, all labels keep to one direction.
-/

namespace Tenancy.Address.Label

def marker : List Char := "xn--".toList

/-- A joiner has an effect behind a virama, and a non-joiner also between joined characters. -/
def isEffective (before : List Char) (c : Char) (rest : List Char) : Bool :=
  before.head?.any (Text.markClass · == Text.viramaClass) ||
    c == '\u200C' && (before.dropWhile Text.isJoinedAcross).head?.any Text.joinsNext &&
      (rest.dropWhile Text.isJoinedAcross).head?.any Text.joinsPrevious

/-- Every joiner has an effect; what stands before is held in reverse. -/
def joinersFit (before : List Char) : List Char → Bool
  | [] => true
  | c :: rest => (!Text.isJoiner c || isEffective before c rest) && joinersFit (c :: before) rest

def isAscii (c : Char) : Bool :=
  c.toNat < 0x80

/-- The most characters of an international label. -/
def greatestLength : Nat := 1000

/-- The most characters behind the marker. -/
def greatestWrittenLength : Nat := 2000

def isInternational (cs : List Char) : Bool :=
  !cs.all isAscii && cs.all (fun c => isAscii c || Text.isPermitted c) &&
    decide (Text.IsComposed cs) && !cs.head?.any Text.isMark && joinersFit [] cs &&
    cs.length ≤ greatestLength

/-- What a label says, if it is one. The written form of an international one says that one. -/
def read? (cs : List Char) : Option (List Char) :=
  if marker.isPrefixOf cs then
    let tail := cs.drop marker.length
    if cs.all isAscii ∧ tail.length ≤ greatestWrittenLength then
      (Text.Punycode.decode? tail).filter isInternational
    else none
  else if cs.all isAscii ∨ isInternational cs then some cs
  else none

/-- A label in ASCII. -/
def written (cs : List Char) : List Char :=
  if cs.all isAscii then cs else marker ++ Text.Punycode.encode cs

/-- Whether a label keeps to the direction that its first character has. -/
def keepsDirection (cs : List Char) : Bool :=
  let ds := cs.map Text.direction
  let last := (ds.reverse.dropWhile (· == .attached)).head?
  match ds.head? with
  | none => true
  | some .leftToRight =>
    ds.all (fun d => d != .rightToLeft && d != .arabicDigit) &&
      last.any fun d => d == .leftToRight || d == .europeanDigit
  | some .rightToLeft =>
    ds.all (· != .leftToRight) && !(ds.contains .arabicDigit && ds.contains .europeanDigit) &&
      last.any fun d => d == .rightToLeft || d == .arabicDigit || d == .europeanDigit
  | some _ => false

def runsRightToLeft (cs : List Char) : Bool :=
  cs.any fun c => Text.direction c == .rightToLeft || Text.direction c == .arabicDigit

/-- The labels of a name in ASCII, if they go together. -/
def writtenAll? (labels : List (List Char)) : Option (List (List Char)) :=
  labels.mapM read? >>= fun texts =>
    if texts.any runsRightToLeft ∧ ¬ texts.all keepsDirection then none
    else some (texts.map written)

end Tenancy.Address.Label
