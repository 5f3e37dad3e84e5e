import Allotment.Placement.Search

/-!
# A place has room

Wherever the search puts a window, and by whichever of its four routes it found the place, the
window lies in the zone and overlaps none of the taken ones.

* `contains_slotStart` — **PROVED**: a slot lies in the zone;
* `probeSteps_spec` — **PROVED**: the slots that are tried in turn all lie in the zone;
* `sweep_spec`, `gaps_spec` — **PROVED**: a gap lies in the zone, and every taken window ends before
  it or starts behind it;
* `place_spec` — **PROVED**: so a place has room, whatever the number of passes.
-/

namespace Allotment

/-! ### Slots -/

namespace Zone

variable {z : Zone}

/-- A window of a size that fits may stand at the lower bound. -/
theorem contains_lower {size : Int} (hpos : 1 ≤ size) (hspan : size ≤ z.span) :
    z.contains z.lower size = true := by
  unfold span at hspan
  rw [contains_iff]
  omega

/-- **A slot lies in the zone.** -/
theorem contains_slotStart {size : Int} (hpos : 1 ≤ size) (hspan : size ≤ z.span) (value : Int) :
    z.contains (z.slotStart value size) size = true := by
  have hslots : z.slots size = z.span / size := Int.fdiv_eq_ediv_of_nonneg _ (by omega)
  have hone : 1 ≤ z.slots size := by
    rw [hslots]
    exact (Int.le_ediv_iff_mul_le (by omega)).2 (by omega)
  have hmod : value.fmod (z.slots size) = value % z.slots size :=
    Int.fmod_eq_emod_of_nonneg _ (by omega)
  have hlow : 0 ≤ value % z.slots size := Int.emod_nonneg _ (by omega)
  have hhigh : value % z.slots size + 1 ≤ z.slots size := Int.emod_lt_of_pos _ (by omega)
  -- the last slot ends inside the zone, and the others stand before it
  have hlast : z.slots size * size ≤ z.span := by
    rw [hslots]
    exact Int.ediv_mul_le _ (by omega)
  have hstep : (value % z.slots size + 1) * size ≤ z.slots size * size :=
    Int.mul_le_mul_of_nonneg_right hhigh (by omega)
  have hstart : 0 ≤ value % z.slots size * size := Int.mul_nonneg hlow (by omega)
  rw [Int.add_mul, Int.one_mul] at hstep
  rw [contains_iff, slotStart, hmod]
  unfold span at hlast
  omega

end Zone

/-! ### Gaps -/

/-- A gap behind the cursor ends inside the zone, and no window of the sweep reaches into it. -/
theorem Zone.sweep_spec {upper cursor : Int} {windows : List Window}
    (hsorted : windows.Pairwise fun v w => v.precedes w = true) :
    ∀ gap ∈ Zone.sweep upper cursor windows, cursor ≤ gap.start ∧ gap.stop ≤ upper + 1 ∧
      ∀ w ∈ windows, w.stop ≤ gap.start ∨ gap.stop ≤ w.start := by
  induction windows generalizing cursor with
  | nil =>
    intro gap hgap
    unfold Zone.sweep at hgap
    split at hgap
    · rw [List.mem_singleton] at hgap
      subst hgap
      refine ⟨Int.le_refl _, ?_, by simp⟩
      show cursor + (upper + 1 - cursor) ≤ upper + 1
      omega
    · simp at hgap
  | cons w rest ih =>
    rw [List.pairwise_cons] at hsorted
    obtain ⟨hfirst, hrest⟩ := hsorted
    intro gap hgap
    unfold Zone.sweep at hgap
    rcases List.mem_append.1 hgap with hgap | hgap
    · -- the gap before the first window
      split at hgap
      · rw [List.mem_singleton] at hgap
        have hstart : gap.start = cursor := by rw [hgap]
        have hstop : gap.stop = min w.start (upper + 1) := by
          rw [hgap]
          show cursor + (min w.start (upper + 1) - cursor) = min w.start (upper + 1)
          omega
        refine ⟨by omega, by omega, ?_⟩
        intro t ht
        refine Or.inr ?_
        rcases List.mem_cons.1 ht with rfl | ht
        · omega
        · have hle := hfirst t ht
          simp only [Window.precedes, Bool.or_eq_true, Bool.and_eq_true, decide_eq_true_eq] at hle
          omega
      · simp at hgap
    · -- a later gap
      split at hgap
      · simp at hgap
      · obtain ⟨hcursor, hupper, hwindows⟩ := ih hrest gap hgap
        refine ⟨by omega, hupper, ?_⟩
        intro t ht
        rcases List.mem_cons.1 ht with rfl | ht
        · exact Or.inl (by omega)
        · exact hwindows t ht

/-- **A gap lies in the zone,** and every taken window ends before it or starts behind it. -/
theorem Zone.gaps_spec {z : Zone} {taken : List Window} :
    ∀ gap ∈ z.gaps taken, z.lower ≤ gap.start ∧ gap.stop ≤ z.upper + 1 ∧
      ∀ w ∈ taken, w.stop ≤ gap.start ∨ gap.stop ≤ w.start := by
  intro gap hgap
  have hsorted := pairwise_sortBy Window.precedes_total Window.precedes_trans taken
  obtain ⟨hlower, hupper, hwindows⟩ := sweep_spec hsorted gap (List.mem_filter.1 hgap).1
  exact ⟨hlower, hupper, fun w hw => hwindows w (mem_sortBy.2 hw)⟩

/-! ### The search -/

namespace Placement

/-- A window has room: it lies in the zone and overlaps none of the taken ones. -/
def HasRoom (z : Zone) (size : Int) (taken : List Window) (start : Int) : Prop :=
  z.contains start size = true ∧ (Window.mk start size).isFree taken = true

/-- Behind a window that lies in the zone comes one that does: the next, or the lowest. -/
theorem contains_next {z : Zone} {size : Int} (hpos : 1 ≤ size) (hspan : size ≤ z.span)
    {position : Int} (hposition : z.contains position size = true) :
    z.contains (if z.upper < position + size + size - 1 then z.lower else position + size) size =
      true := by
  split
  · exact Zone.contains_lower hpos hspan
  · rename_i hnext
    rw [Zone.contains_iff] at hposition ⊢
    omega

/-- **The slots that are tried in turn lie in the zone,** and the one that is found is free. -/
theorem probeSteps_spec {z : Zone} {size : Int} (hpos : 1 ≤ size) (hspan : size ≤ z.span)
    {taken : List Window} {count : Nat} {position start : Int}
    (hposition : z.contains position size = true)
    (h : probeSteps z size taken count position = some start) : HasRoom z size taken start := by
  induction count generalizing position with
  | zero => simp [probeSteps] at h
  | succ count ih =>
    unfold probeSteps at h
    split at h
    · rename_i hfree
      rw [Option.some.injEq] at h
      subst h
      exact ⟨hposition, hfree⟩
    · exact ih (contains_next hpos hspan hposition) h

/-- A gap that is big enough has room at its start. -/
theorem scan_spec {z : Zone} {size : Int} (hpos : 1 ≤ size) {taken : List Window} {start : Int}
    (h : scan z size taken = some start) : HasRoom z size taken start := by
  obtain ⟨gap, hfind, rfl⟩ := Option.map_eq_some_iff.1 h
  obtain ⟨hlower, hupper, hwindows⟩ := Zone.gaps_spec gap (List.mem_of_find?_eq_some hfind)
  have hsize : size ≤ gap.size := by simpa using List.find?_some hfind
  have hstop : gap.stop = gap.start + gap.size := rfl
  refine ⟨?_, ?_⟩
  · rw [Zone.contains_iff]
    omega
  · rw [Window.isFree_iff]
    intro t ht
    have hside := hwindows t ht
    simp only [Window.overlaps, Bool.and_eq_false_iff, decide_eq_false_iff_not]
    show ¬gap.start < t.stop ∨ ¬t.start < gap.start + size
    omega

/-- **Whatever is placed has room.** -/
theorem place_spec {z : Zone} {passes size : Int} {name : List Nat} {taken : List Window}
    {p : Place} (h : place z passes name size taken = .ok p) : HasRoom z size taken p.start := by
  unfold place at h
  split at h
  · cases h
  · rename_i hfits
    rw [not_or, Int.not_lt, Int.not_lt] at hfits
    obtain ⟨hpos, hspan⟩ := hfits
    have hslot := Zone.contains_slotStart hpos hspan
    simp only at h
    split at h
    · rename_i hfree
      obtain rfl := Except.ok.inj h
      exact ⟨hslot _, hfree⟩
    · split at h
      · rename_i hfree
        obtain rfl := Except.ok.inj h
        exact ⟨hslot _, hfree⟩
      · split at h
        · rename_i start hprobe
          obtain rfl := Except.ok.inj h
          exact probeSteps_spec hpos hspan (hslot _) hprobe
        · split at h
          · rename_i start hscan
            obtain rfl := Except.ok.inj h
            exact scan_spec hpos hscan
          · cases h

end Placement

end Allotment
