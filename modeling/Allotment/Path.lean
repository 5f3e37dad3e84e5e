import Allotment.Text.Lines

/-!
# Paths

A path is a root and a list of names. Empty names and single dots vanish when a path is read;
double dots stay, because where they lead depends on the disk.

* `Path.ofString`, `Path.text` — a path read and written; the empty path is written as a dot.
  Two leading slashes are a root of their own, three or more are one;
* `Path.join` — go on from a directory; an absolute right side stands alone;
* `Path.parent` — the directory of a path;
* `Path.hasNul`, `Path.isTooLong`, `nameTooLong` — what no disk can hold.
-/

namespace Allotment

/-- Where a path starts. -/
inductive Root where
  /-- The working directory. -/
  | here
  | slash
  | doubleSlash
  deriving DecidableEq, Repr

/-- A path. -/
structure Path where
  root : Root
  names : List String
  deriving DecidableEq, Repr

namespace Path

/-- The root that the leading slashes of a text mean. -/
def rootOf (s : List Char) : Root :=
  match (s.takeWhile (· == '/')).length with
  | 0 => .here
  | 2 => .doubleSlash
  | _ => .slash

/-- The names in a text, as they stand between slashes. -/
def namesOf (s : List Char) : List String :=
  ((s.splitOn '/').filter fun name => name != [] && name != ['.']).map String.ofList

/-- Read a path. -/
def ofString (s : String) : Path := ⟨rootOf s.toList, namesOf s.toList⟩

/-- How the root is written. -/
def rootText : Root → String
  | .here => ""
  | .slash => "/"
  | .doubleSlash => "//"

/-- Write a path. -/
def text (p : Path) : String :=
  if p.root = .here ∧ p.names = [] then "."
  else rootText p.root ++ "/".intercalate p.names

/-- The path that a text means when it is read from a directory. -/
def join (p : Path) (s : String) : Path :=
  let q := ofString s
  if q.root = .here then ⟨p.root, p.names ++ q.names⟩ else q

/-- The directory of a path. -/
def parent (p : Path) : Path := ⟨p.root, p.names.dropLast⟩

/-- Whether a text holds a character that no name on a disk can hold. -/
def nameHasNul (name : String) : Bool := name.toList.contains '\x00'

/-- Whether a path holds a character that no path on a disk can hold. -/
def hasNul (p : Path) : Bool := p.names.any nameHasNul

/-- The most bytes that a name on a disk can have. -/
def nameLimit : Nat := 255

/-- Whether a name is too long for a disk, with some bytes added to it. -/
def nameTooLong (added : Nat) (name : String) : Bool :=
  decide (nameLimit < name.utf8ByteSize + added)

/-- The number of bytes from which on a path is too long for a disk. -/
def pathLimit : Nat := 4096

/-- Whether a path as a whole is too long for a disk, with some bytes added to it. -/
def tooLong (added : Nat) (p : Path) : Bool := decide (pathLimit ≤ p.text.utf8ByteSize + added)

/-- Whether a path as a whole is too long for a disk. -/
def isTooLong (p : Path) : Bool := p.tooLong 0

/-- The path of a file from the root of the disk, in the notation of a path with a given start. -/
def absolute (root : Root) (loc : List String) : Path :=
  ⟨match root with
    | .here => .slash
    | .slash => .slash
    | .doubleSlash => .doubleSlash, loc⟩

end Path

end Allotment
