import Tenancy.Address.Host
import Tenancy.Address.Login
import Tenancy.Address.Path
import Tenancy.Text.Blank

/-!
# Addresses

Where a request goes: a host reached plainly or securely, the number of a socket if it is not the
usual one, and what is asked for there. Of the texts that name the same address one is its own.
-/

namespace Tenancy

structure Address where
  isSecure : Bool
  login : Option Address.Login
  host : Address.Host
  socket : Option Nat
  segments : List (List Char)
  query : Option (List Char)
  fragment : Option (List Char)

namespace Address

def isBreak (c : Char) : Bool :=
  c == '\t' || c == '\n' || c == '\r'

/-- Spaces and control characters at the end, and breaks anywhere, do not count. -/
def clean (cs : List Char) : List Char :=
  (Text.dropEnd (·.toNat ≤ 0x20) cs).filter fun c => !isBreak c

def scheme (isSecure : Bool) : String :=
  if isSecure then "https" else "http"

/-- Reads the scheme and the slashes behind it. -/
def readScheme? (cs : List Char) : Option (Bool × List Char) :=
  match Text.cutFirst ':' cs with
  | (name, some rest) =>
    ([true, false].find? fun s => (scheme s).toList = name).map (·, rest.dropWhile isSlash)
  | _ => none

def usualSocket (isSecure : Bool) : Nat :=
  if isSecure then 443 else 80

/-- Reads the number of a socket, which may be left out behind its colon. -/
def readSocket? (isSecure : Bool) (cs : List Char) : Option (Option Nat) := do
  let n ← number? 10 cs
  if 65536 ≤ n then none
  else some (if cs = [] ∨ n = usualSocket isSecure then none else some n)

/-- Parts a host from its socket. A colon in brackets belongs to the host. -/
def partSocket (cs : List Char) : List Char × List Char :=
  let bracketed := if cs.head? = some '[' then cs.takeWhile (· ≠ ']') else []
  let host := bracketed ++ (cs.drop bracketed.length).takeWhile (· ≠ ':')
  (host, cs.drop (host.length + 1))

def endsHost (c : Char) : Bool :=
  isSlash c || c == '?' || c == '#'

/-- Reads an absolute address. A login that can be read is no part of it. -/
def of? (url : String) : Option Address := do
  let (isSecure, cs) ← readScheme? (clean url.toList)
  let authority := cs.takeWhile fun c => !endsHost c
  let (front, behind) := Text.cutLast '@' authority
  let login := Login.read front
  let (host, socket) := partSocket behind
  let host ← Host.of? host
  let socket ← readSocket? isSecure socket
  let (front, fragment) := Text.cutFirst '#' (cs.drop authority.length)
  let (path, query) := Text.cutFirst '?' front
  pure {
    isSecure
    login := if login.IsEmpty ∨ login.IsReadable then none else some login
    host
    socket
    segments := readPath path
    query := query.map escapeQuery
    fragment := fragment.map escapeFragment }

def text (a : Address) : String :=
  let login := String.ofList (a.login.elim [] Login.text)
  let socket := a.socket.elim "" fun n => s!":{n}"
  let path := a.segments.flatMap fun s => '/' :: s
  let query := a.query.elim [] ('?' :: ·)
  let fragment := a.fragment.elim [] ('#' :: ·)
  s!"{scheme a.isSecure}://{login}{a.host.text}{socket}" ++ .ofList (path ++ query ++ fragment)

/-- The own text of the address that a text names; a text that names none is shown as it is. -/
def shown (url : String) : String :=
  ((of? url).map text).getD url

/-- The most bytes that a request can name its address with. -/
def greatestLength : Nat := 65534

/-- Whether a request can name the address. -/
def IsWritable (a : Address) : Prop :=
  a.host.IsPlain ∧ a.text.utf8ByteSize ≤ greatestLength

instance (a : Address) : Decidable a.IsWritable :=
  inferInstanceAs (Decidable (_ ∧ _))

end Address

end Tenancy
