import Allotment.Text.Blank

/-!
# Significant lines

Both kinds of files are read line by line. Blanks around a line do not count, and empty lines
and comments say nothing.

* `significantFrom` — the lines that say something, trimmed, with their numbers;
* `unlines` — lines put together, each with its end.
-/

namespace Allotment.Text

/-- A line that says something. -/
structure NumberedLine where
  number : Int
  chars : List Char
  deriving DecidableEq, Repr

/-- Whether a trimmed line says nothing. -/
def isSkippable (line : List Char) : Bool := line.isEmpty || line.head? == some '#'

/-- The significant lines of a list whose first line has a given number. -/
def significantFrom (number : Int) : List (List Char) → List NumberedLine
  | [] => []
  | raw :: rest =>
    if isSkippable (trim raw) then significantFrom (number + 1) rest
    else ⟨number, trim raw⟩ :: significantFrom (number + 1) rest

/-- The significant lines of a file. -/
def significant (lines : List (List Char)) : List NumberedLine := significantFrom 1 lines

section Letters

variable {α : Type} [Letter α]

/-- Lines put together, each with a line feed behind it. -/
def unlines (lines : List (List α)) : List α := lines.flatMap fun line => line ++ spelled ['\n']

theorem unlines_spelled (lines : List (List Char)) :
    unlines (lines.map fun line => (spelled line : List α)) = spelled (unlines lines) := by
  simp only [unlines, spelled, List.flatMap_map, List.map_flatMap, List.map_append, List.map_map]
  rfl

/-- A text of lines has no surrogates only if its lines have none. -/
theorem encodable_of_unlines {lines : List (List α)} (h : Encodable (unlines lines)) :
    ∀ line ∈ lines, Encodable line :=
  fun line hline a ha => h a (List.mem_flatMap.2 ⟨line, hline, List.mem_append_left _ ha⟩)

end Letters

theorem unlines_cons (line : List Char) (lines : List (List Char)) :
    unlines (line :: lines) = line ++ '\n' :: unlines lines := by
  simp [unlines]

end Allotment.Text
