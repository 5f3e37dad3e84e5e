import Allotment.Digest.Sha256
import Allotment.Space
import Allotment.Text.Utf8

/-!
# Hashes of names

A name decides where its window is looked for first. A name is a list of code points here,
because it may hold surrogates, which no text in UTF-8 can.

* `polynomial` — the value of the name's code points as digits in base 31, in 32 bits;
* `digest` — the first 32 bits of the SHA-256 of the name in UTF-8, or the polynomial for a
  name that has no UTF-8;
* `secondary` — the polynomial of the name followed by its length;
* `mix` — the hash for a space: as it is for A, with the high half folded in for B.
-/

namespace Allotment.Placement

/-- The code points of a name. -/
def codePoints (name : String) : List Nat := name.toList.map Char.toNat

/-- The number of values of 32 bits. -/
def wordCount : Nat := 4294967296

/-- The number of values of half a word. -/
def halfCount : Nat := 65536

/-- The value of a list of code points in base 31, in 32 bits. -/
def polynomial (name : List Nat) : Nat := name.foldl (fun h c => (31 * h + c) % wordCount) 0

/-- Whether a name has no form in UTF-8. -/
def isUnencodable (name : List Nat) : Bool :=
  name.any fun c => decide (0xD800 ≤ c) && decide (c < 0xE000)

/-- The first 32 bits of the SHA-256 of a name. -/
def digest (name : List Nat) : Nat :=
  if isUnencodable name then polynomial name
  else (Sha256.digest (name.flatMap Text.utf8Bytes)).a.toNat

/-- The polynomial of a name followed by its length. -/
def secondary (name : List Nat) : Nat := (polynomial name * 31 + name.length) % wordCount

/-- A hash as it is used for a space. -/
def mix (space : Space) (value : Int) : Int :=
  match space with
  | .a => value
  | .b => ((value % wordCount).toNat ^^^ (value / halfCount % wordCount).toNat : Nat)

end Allotment.Placement
