import Allotment.Failure

/-!
# The bounds of a space

A zone is a space with its bounds, both inclusive, the size of a window for registrants who ask
for none, and the offset between an id and the number people see for it.

* `contains` — whether a window of positive size lies inside the bounds;
* `clampSize` — the size nearest to a wished one that fits.
-/

namespace Allotment

/-- A space with its bounds. -/
structure Zone where
  space : Space
  lower : Int
  upper : Int
  defaultSize : Int
  displayOffset : Int
  lower_le_upper : lower ≤ upper := by decide

/-- The zone of each space. -/
def Space.zone : Space → Zone
  | .a => { space := .a, lower := 2024, upper := 4095, defaultSize := 64, displayOffset := 0 }
  | .b => { space := .b, lower := 4096, upper := 31999, defaultSize := 256, displayOffset := 256 }

namespace Zone

/-- The zone with given bounds, if they stand in order. -/
def make (space : Space) (lower upper defaultSize displayOffset : Int) : Except Failure Zone :=
  if h : lower ≤ upper then
    .ok { space, lower, upper, defaultSize, displayOffset, lower_le_upper := h }
  else .error (Failure.boundsReversed space lower upper).met

variable (z : Zone)

/-- The number of ids in the zone. -/
def span : Int := z.upper - z.lower + 1

/-- Whether the ids from `start` on, `size` in number and at least one, are all in the zone. -/
def contains (start size : Int) : Bool :=
  decide (1 ≤ size) && decide (z.lower ≤ start) && decide (start + size - 1 ≤ z.upper)

/-- The nearest size that fits. -/
def clampSize (size : Int) : Int := min z.span (max 1 size)

/-- The number that people see for an id. -/
def toDisplay (id : Int) : Int := id + z.displayOffset

/-- The id for a number that people see. -/
def fromDisplay (shown : Int) : Int := shown - z.displayOffset

/-! ### Laws of zones -/

theorem space_zone (s : Space) : s.zone.space = s := by cases s <;> rfl

theorem one_le_span : 1 ≤ z.span := by
  have := z.lower_le_upper
  unfold span
  omega

theorem contains_iff {start size : Int} :
    z.contains start size = true ↔ 1 ≤ size ∧ z.lower ≤ start ∧ start + size - 1 ≤ z.upper := by
  simp [contains, and_assoc]

theorem one_le_clampSize (size : Int) : 1 ≤ z.clampSize size := by
  have := z.one_le_span
  unfold clampSize
  omega

theorem clampSize_le_span (size : Int) : z.clampSize size ≤ z.span := by
  unfold clampSize
  omega

theorem fromDisplay_toDisplay (id : Int) : z.fromDisplay (z.toDisplay id) = id := by
  unfold fromDisplay toDisplay
  omega

end Zone

/-- No id belongs to both spaces. -/
theorem Space.zones_apart : Space.a.zone.upper < Space.b.zone.lower := by decide

end Allotment
