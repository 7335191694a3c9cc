import Tenancy.Address.Escape
import Tenancy.Address.Inet4
import Tenancy.Address.Inet6
import Tenancy.Address.Label
import Tenancy.Text.Folded

/-!
# Hosts

A host is given by a name or by an address of either kind. A name is folded, and kept in the form
that is written in ASCII.
-/

namespace Tenancy.Address

inductive Host where
  | name (text : String)
  | inet4 (address : Inet4)
  | inet6 (address : Inet6)

namespace Host

def isNameChar (c : Char) : Bool :=
  0x20 < c.toNat && c.toNat < 0x7F && !"%#/:<>?@[\\]^|".toList.contains c

/-- The parts between the dots, without an empty one at the end. -/
def parts (labels : List (List Char)) : List (List Char) :=
  if labels.getLast? = some [] then labels.dropLast else labels

/-- Reads a name. Its written form decides whether it is an address of four bytes. -/
def ofName? (cs : List Char) : Option Host := do
  let name ← unescape? cs >>= Text.fold?
  let labels ← Label.writtenAll? (Text.cutAt (· == '.') name)
  let written := ['.'].intercalate labels
  if written = [] ∨ ¬ written.all isNameChar then none
  else if Inet4.isMeant (parts labels) then (Inet4.of? (parts labels)).map .inet4
  else some (.name (.ofList written))

def of? : List Char → Option Host
  | '[' :: cs => if cs.getLast? = some ']' then (Inet6.of? cs.dropLast).map .inet6 else none
  | cs => ofName? cs

def text : Host → String
  | name s => s
  | inet4 a => a.text
  | inet6 a => "[" ++ a.text ++ "]"

/-- A request can name the host unless it holds a quote, a grave accent or a brace. -/
def IsPlain (h : Host) : Prop :=
  ∀ c ∈ h.text.toList, c ∉ ['"', '\x60', '\x7b', '\x7d']

instance (h : Host) : Decidable h.IsPlain :=
  List.decidableBAll (fun c => c ∉ ['"', '\x60', '\x7b', '\x7d']) h.text.toList

end Host

end Tenancy.Address
