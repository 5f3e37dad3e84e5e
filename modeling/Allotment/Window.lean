import Allotment.Order
import Allotment.Zone

/-!
# Windows and gaps

A window is a run of ids, given by its first id and its size. Registrants' windows may not
overlap; what is left over between them are the gaps.

* `Window.overlaps` — the test that decides every placement;
* `Window.isFree` — no taken window overlaps;
* `Zone.gaps` — the windows of a zone that nothing covers, from the lowest, as long as
  possible;
* `Window.Has` and `overlaps_iff` — **PROVED**: windows of positive size overlap if and only if
  some id is in both, which says what the test is for.

The sweep over the taken windows in ascending order keeps a cursor, the lowest id that is not
yet known to be covered or in a gap.
-/

namespace Allotment

/-- A run of ids. -/
structure Window where
  start : Int
  size : Int
  deriving DecidableEq, Repr

namespace Window

/-- The id behind the last one. -/
def stop (w : Window) : Int := w.start + w.size

/-- The last id. -/
def last (w : Window) : Int := w.start + w.size - 1

/-- Whether two windows overlap. -/
def overlaps (v w : Window) : Bool := decide (v.start < w.stop) && decide (w.start < v.stop)

/-- Whether a window overlaps none of the taken ones. -/
def isFree (w : Window) (taken : List Window) : Bool := !taken.any fun t => w.overlaps t

/-- The order of a sweep: by the first id, then by the size. -/
def precedes (v w : Window) : Bool :=
  decide (v.start < w.start) || (decide (v.start = w.start) && decide (v.size ≤ w.size))

/-- An id is in a window. -/
def Has (w : Window) (id : Int) : Prop := w.start ≤ id ∧ id < w.stop

instance (w : Window) (id : Int) : Decidable (w.Has id) := by
  unfold Has
  infer_instance

/-! ### Laws of windows -/

theorem has_iff {w : Window} {id : Int} : w.Has id ↔ w.start ≤ id ∧ id < w.stop := Iff.rfl

/-- **Windows of positive size overlap if and only if they share an id.** -/
theorem overlaps_iff {v w : Window} (hv : 1 ≤ v.size) (hw : 1 ≤ w.size) :
    v.overlaps w = true ↔ ∃ id, v.Has id ∧ w.Has id := by
  simp only [overlaps, Bool.and_eq_true, decide_eq_true_eq]
  unfold Has stop
  constructor
  · intro h
    exact ⟨max v.start w.start, by omega, by omega⟩
  · rintro ⟨id, h1, h2⟩
    omega

theorem overlaps_comm (v w : Window) : v.overlaps w = w.overlaps v := by
  simp only [overlaps]
  rw [Bool.and_comm]

theorem isFree_iff {w : Window} {taken : List Window} :
    w.isFree taken = true ↔ ∀ t ∈ taken, w.overlaps t = false := by
  simp [isFree]

theorem precedes_total (v w : Window) (h : v.precedes w = false) : w.precedes v = true := by
  simp only [precedes, Bool.or_eq_false_iff, Bool.and_eq_false_iff, decide_eq_false_iff_not] at h
  simp only [precedes, Bool.or_eq_true, Bool.and_eq_true, decide_eq_true_eq]
  omega

theorem precedes_trans (u v w : Window) (h1 : u.precedes v = true) (h2 : v.precedes w = true) :
    u.precedes w = true := by
  simp only [precedes, Bool.or_eq_true, Bool.and_eq_true, decide_eq_true_eq] at *
  omega

end Window

/-! ### Gaps -/

namespace Zone

/-- The gaps from the cursor to the upper bound, given the taken windows in ascending order.
A gap may come out empty here. -/
def sweep (upper cursor : Int) : List Window → List Window
  | [] => if cursor ≤ upper then [⟨cursor, upper + 1 - cursor⟩] else []
  | w :: rest =>
    let gap := if cursor < w.start then [⟨cursor, min w.start (upper + 1) - cursor⟩] else []
    let next := max cursor w.stop
    gap ++ if upper < next then [] else sweep upper next rest

/-- The free windows of a zone, from the lowest. -/
def gaps (z : Zone) (taken : List Window) : List Window :=
  (sweep z.upper z.lower (sortBy Window.precedes taken)).filter fun w => decide (0 < w.size)

end Zone

end Allotment
