import Allotment.Proofs.Placement.Room

/-!
# The lowest free place

The gaps of a zone are found in one sweep over the taken windows. `Placement.Room` says that a gap
is free; this file says that nothing free is missed, so the first gap that is big enough starts at
the lowest place of all.

* `exists_gap` — **PROVED**: a window with room lies in a single gap;
* `pairwise_gaps` — **PROVED**: the gaps come in ascending order;
* `scan_eq_some_iff` — **PROVED**: the scan finds the lowest place with room;
* `scan_eq_none_iff` — **PROVED**: it finds none only if no place has room;
* `exists_hasRoom_iff` — **PROVED**: there is room just if a gap is big enough;
* `no_room_of_place_error` — **PROVED**: a size that fits the zone is only refused for want of room.

Nothing is asked of the taken windows: they may overlap each other, or lie outside the zone.
-/

namespace Allotment

/-! ### The sweep -/

/-- A window behind the cursor that overlaps none of the sweep lies in one of its gaps. -/
theorem Zone.exists_gap_sweep {upper cursor : Int} {windows : List Window}
    (hsorted : windows.Pairwise fun v w => v.precedes w = true) {v : Window} (hpos : 1 ≤ v.size)
    (hcursor : cursor ≤ v.start) (hupper : v.stop ≤ upper + 1)
    (hfree : ∀ w ∈ windows, v.overlaps w = false) :
    ∃ gap ∈ Zone.sweep upper cursor windows, gap.start ≤ v.start ∧ v.stop ≤ gap.stop := by
  have hstop : v.stop = v.start + v.size := rfl
  induction windows generalizing cursor with
  | nil =>
    refine ⟨⟨cursor, upper + 1 - cursor⟩, ?_, hcursor, ?_⟩
    · rw [Zone.sweep, if_pos (by omega)]
      exact List.mem_singleton_self _
    · show v.stop ≤ cursor + (upper + 1 - cursor)
      omega
  | cons w rest ih =>
    rw [List.pairwise_cons] at hsorted
    have hw := hfree w List.mem_cons_self
    simp only [Window.overlaps, Bool.and_eq_false_iff, decide_eq_false_iff_not] at hw
    rw [Zone.sweep]
    by_cases hbefore : v.stop ≤ w.start
    · -- the window lies in the gap before `w`
      refine ⟨⟨cursor, min w.start (upper + 1) - cursor⟩, ?_, hcursor, ?_⟩
      · rw [if_pos (by omega)]
        exact List.mem_append_left _ (List.mem_singleton_self _)
      · show v.stop ≤ cursor + (min w.start (upper + 1) - cursor)
        omega
    · -- it lies behind `w`, and so behind the next cursor
      have hnext : max cursor w.stop ≤ v.start := by omega
      obtain ⟨gap, hgap, hstart, hend⟩ := ih hsorted.2 hnext
        fun other hother => hfree other (List.mem_cons_of_mem w hother)
      refine ⟨gap, List.mem_append_right _ ?_, hstart, hend⟩
      rw [if_neg (by omega)]
      exact hgap

/-- The gaps of a sweep come in ascending order. -/
theorem Zone.pairwise_sweep {upper cursor : Int} {windows : List Window}
    (hsorted : windows.Pairwise fun v w => v.precedes w = true) :
    (Zone.sweep upper cursor windows).Pairwise fun g h => g.start ≤ h.start := by
  induction windows generalizing cursor with
  | nil =>
    rw [Zone.sweep]
    split
    · exact List.pairwise_singleton _ _
    · exact List.Pairwise.nil
  | cons w rest ih =>
    rw [List.pairwise_cons] at hsorted
    rw [Zone.sweep, List.pairwise_append]
    refine ⟨?_, ?_, ?_⟩
    · split
      · exact List.pairwise_singleton _ _
      · exact List.Pairwise.nil
    · split
      · exact List.Pairwise.nil
      · exact ih hsorted.2
    · -- the gap before `w` starts at the cursor, the later ones start behind it
      intro g hg h hh
      split at hg
      · rw [List.mem_singleton] at hg
        split at hh
        · cases hh
        · have hlater := (Zone.sweep_spec hsorted.2 h hh).1
          rw [hg]
          show cursor ≤ h.start
          omega
      · cases hg

/-! ### The gaps of a zone -/

/-- **A window with room lies in a single gap.** -/
theorem Zone.exists_gap {z : Zone} {size start : Int} {taken : List Window}
    (h : Placement.HasRoom z size taken start) :
    ∃ gap ∈ z.gaps taken, gap.start ≤ start ∧ start + size ≤ gap.stop := by
  obtain ⟨hinside, hfree⟩ := h
  rw [Zone.contains_iff] at hinside
  rw [Window.isFree_iff] at hfree
  have hsorted := pairwise_sortBy Window.precedes_total Window.precedes_trans taken
  have hupper : (Window.mk start size).stop ≤ z.upper + 1 := by
    show start + size ≤ z.upper + 1
    omega
  obtain ⟨gap, hgap, hstart, hstop⟩ := Zone.exists_gap_sweep hsorted hinside.1 hinside.2.1 hupper
    fun w hw => hfree w (mem_sortBy.1 hw)
  have hstart : gap.start ≤ start := hstart
  have hstop : start + size ≤ gap.stop := hstop
  have hsize : gap.stop = gap.start + gap.size := rfl
  refine ⟨gap, List.mem_filter.2 ⟨hgap, decide_eq_true ?_⟩, hstart, hstop⟩
  omega

/-- **The gaps come in ascending order.** -/
theorem Zone.pairwise_gaps (z : Zone) (taken : List Window) :
    (z.gaps taken).Pairwise fun g h => g.start ≤ h.start := by
  apply List.Pairwise.filter
  apply Zone.pairwise_sweep
  exact pairwise_sortBy Window.precedes_total Window.precedes_trans taken

/-! ### The scan -/

namespace Placement

variable {z : Zone} {size : Int} {taken : List Window}

/-- **The scan finds nothing only if no place has room.** -/
theorem scan_eq_none_iff (hpos : 1 ≤ size) :
    scan z size taken = none ↔ ∀ start, ¬HasRoom z size taken start := by
  constructor
  · intro hnone start hroom
    obtain ⟨gap, hgap, hstart, hstop⟩ := Zone.exists_gap hroom
    rw [scan, Option.map_eq_none_iff, List.find?_eq_none] at hnone
    have hsmall := hnone gap hgap
    have hsize : gap.stop = gap.start + gap.size := rfl
    rw [decide_eq_true_eq] at hsmall
    omega
  · intro hall
    cases hscan : scan z size taken with
    | none => rfl
    | some start => exact absurd (scan_spec hpos hscan) (hall start)

/-- **There is room just if a gap is big enough.** -/
theorem exists_hasRoom_iff (hpos : 1 ≤ size) :
    (∃ start, HasRoom z size taken start) ↔ ∃ gap ∈ z.gaps taken, size ≤ gap.size := by
  constructor
  · rintro ⟨start, hroom⟩
    obtain ⟨gap, hgap, hstart, hstop⟩ := Zone.exists_gap hroom
    have hsize : gap.stop = gap.start + gap.size := rfl
    exact ⟨gap, hgap, by omega⟩
  · rintro ⟨gap, hgap, hsize⟩
    apply Classical.byContradiction
    intro hnone
    have hscan := (scan_eq_none_iff hpos).2 fun start hroom => hnone ⟨start, hroom⟩
    rw [scan, Option.map_eq_none_iff, List.find?_eq_none] at hscan
    exact hscan gap hgap (decide_eq_true hsize)

/-- **A size that fits the zone is only refused for want of room.** -/
theorem no_room_of_place_error {passes : Int} {name : List Nat} {refusal : Refusal}
    (hpos : 1 ≤ size) (hspan : size ≤ z.span)
    (h : place z passes name size taken = .error refusal) :
    refusal = .noRoom ∧ ∀ start, ¬HasRoom z size taken start := by
  rw [place, if_neg (by omega)] at h
  simp only at h
  split at h
  · cases h
  · split at h
    · cases h
    · split at h
      · cases h
      · split at h
        · cases h
        · rename_i hscan
          exact ⟨(Except.error.inj h).symm, (scan_eq_none_iff hpos).1 hscan⟩

/-- No place with room is lower than the one that the scan finds. -/
theorem scan_le {start other : Int} (h : scan z size taken = some start)
    (hroom : HasRoom z size taken other) : start ≤ other := by
  obtain ⟨gap, hfind, rfl⟩ := Option.map_eq_some_iff.1 h
  obtain ⟨wide, hwide, hstart, hstop⟩ := Zone.exists_gap hroom
  have hsize : wide.stop = wide.start + wide.size := rfl
  obtain ⟨-, before, after, hgaps, hsmall⟩ := List.find?_eq_some_iff_append.1 hfind
  have hsorted := z.pairwise_gaps taken
  rw [hgaps] at hwide hsorted
  rcases List.mem_append.1 hwide with hmem | hmem
  · -- the gaps before the one that was found are too small
    have hnot := hsmall wide hmem
    rw [Bool.not_eq_true', decide_eq_false_iff_not] at hnot
    omega
  · rcases List.mem_cons.1 hmem with rfl | hmem
    · exact hstart
    · have htail := (List.pairwise_append.1 hsorted).2.1
      exact Int.le_trans ((List.pairwise_cons.1 htail).1 wide hmem) hstart

/-- **The scan finds the lowest place with room.** -/
theorem scan_eq_some_iff (hpos : 1 ≤ size) {start : Int} :
    scan z size taken = some start ↔
      HasRoom z size taken start ∧ ∀ other, HasRoom z size taken other → start ≤ other := by
  constructor
  · intro h
    exact ⟨scan_spec hpos h, fun other hroom => scan_le h hroom⟩
  · rintro ⟨hroom, hlowest⟩
    cases hscan : scan z size taken with
    | none => exact absurd hroom ((scan_eq_none_iff hpos).1 hscan start)
    | some found =>
      have hle := scan_le hscan hroom
      have hge := hlowest found (scan_spec hpos hscan)
      rw [Int.le_antisymm hle hge]

end Placement

end Allotment
