import Tenancy.Address.Escape
import Tenancy.Text.Cut

/-!
# Paths, queries and fragments

What stands behind the host. Dots as segments are taken as steps, and characters that cannot stand
in their place are written by the numbers of their bytes.
-/

namespace Tenancy.Address

def isSlash (c : Char) : Bool :=
  c == '/' || c == '\\'

def escapePath : List Char → List Char :=
  escape ['"', '#', '<', '>', '?', '\x60', '\x7b', '\x7d']

def escapeQuery : List Char → List Char :=
  escape ['"', '#', '<', '>', '\'']

def escapeFragment : List Char → List Char :=
  escape ['"', '<', '>', '\x60']

/-- A dot, perhaps written by its number. -/
def isDot (cs : List Char) : Bool :=
  [".", "%2e"].contains (String.ofList (cs.map Char.toLower))

def isTwoDots (cs : List Char) : Bool :=
  ["..", ".%2e", "%2e.", "%2e%2e"].contains (String.ofList (cs.map Char.toLower))

/-- Takes the steps; the segments so far are held in reverse. -/
def walk (held : List (List Char)) : List (List Char) → List (List Char)
  | [] => held.reverse
  | s :: rest =>
    let held := if isTwoDots s then held.tail else if isDot s then held else s :: held
    if rest = [] ∧ (isTwoDots s ∨ isDot s) then ([] :: held).reverse else walk held rest

/-- No step is left, and a segment that was not there is empty. -/
theorem of_mem_walk {held segments : List (List Char)} {s : List Char}
    (h : s ∈ walk held segments) :
    s ∈ held ∨ s = [] ∨ s ∈ segments ∧ isDot s = false ∧ isTwoDots s = false := by
  induction segments generalizing held with
  | nil => exact .inl (by simpa [walk] using h)
  | cons t rest ih =>
    have hmem {u : List Char} (hu : u ∈ held.tail) : u ∈ held := List.mem_of_mem_tail hu
    cases hd : isDot t <;> cases htt : isTwoDots t <;> by_cases hr : rest = [] <;>
      simp [walk, hd, htt, hr] at h <;> grind

/-- The segments of a path, from its first slash on; there is one at least. -/
def readPath (path : List Char) : List (List Char) :=
  (walk [] (Text.cutAt isSlash (path.drop 1))).map escapePath

end Tenancy.Address
