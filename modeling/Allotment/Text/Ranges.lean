/-!
# Character classes as ranges of code points

A property of characters is a list of closed ranges of code points, lowest first.

* `inRanges` — membership in such a list.

The tables of the character database (`Text.Blank`, `Text.Printable`, …) follow version 14.
-/

namespace Allotment.Text

/-- A closed range of code points. -/
abbrev CodeRange := Nat × Nat

/-- Whether a code point lies in one of the ranges. -/
def inRanges (ranges : List CodeRange) (n : Nat) : Bool :=
  ranges.any fun r => decide (r.1 ≤ n) && decide (n ≤ r.2)

theorem inRanges_iff {ranges : List CodeRange} {n : Nat} :
    inRanges ranges n = true ↔ ∃ r ∈ ranges, r.1 ≤ n ∧ n ≤ r.2 := by
  simp [inRanges, List.any_eq_true]

end Allotment.Text
