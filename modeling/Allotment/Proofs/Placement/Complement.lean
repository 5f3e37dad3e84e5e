import Allotment.Proofs.Placement.Reference
import Mathlib.Order.Bounds.Basic

/-!
# The gaps are what is left over

The gaps of a zone come out of one sweep with a cursor. What they are can be said without the sweep:
an id of the zone is in a gap just if no taken window has it, and no gap could be longer.

* `exists_gap_has_iff` — **PROVED**: the gaps have just the ids that no taken window has;
* `separated_sweep`, `separated_gaps` — **PROVED**: a gap ends at an id that is taken before the next
  one starts;
* `eq_gap_of_clear` — **PROVED**: a clear window around a gap is that gap;
* `gaps_complement` — **PROVED**: all this together, and what the scan makes of it.

The taken windows may overlap, contain or repeat each other, and may lie outside the zone. They must
not be empty: an empty window takes no id, but it would cut a gap in two.
-/

namespace Allotment

namespace Zone

variable {z : Zone} {taken : List Window}

/-! ### The ids of the gaps -/

/-- An id of a clear window is in a gap. -/
theorem exists_gap_of_clear (htaken : ∀ t ∈ taken, 1 ≤ t.size) {w : Window}
    (hinside : z.contains w.start w.size = true) (hclear : w.Clear taken) :
    ∃ gap ∈ z.gaps taken, gap.start ≤ w.start ∧ w.stop ≤ gap.stop := by
  have hpos : 1 ≤ w.size := (z.contains_iff.1 hinside).1
  have hfree : w.isFree taken = true := (Window.isFree_iff_clear hpos htaken).2 hclear
  exact exists_gap ⟨hinside, hfree⟩

/-- A gap has no id of a taken window. -/
theorem clear_of_mem_gaps {gap : Window} (hgap : gap ∈ z.gaps taken) : gap.Clear taken := by
  intro t ht id hid hid'
  have hside := (gaps_spec gap hgap).2.2 t ht
  rw [Window.has_iff] at hid hid'
  omega

/-- **The gaps have just the ids that no taken window has.** -/
theorem exists_gap_has_iff (htaken : ∀ t ∈ taken, 1 ≤ t.size) {id : Int} (hlow : z.lower ≤ id)
    (hhigh : id ≤ z.upper) :
    (∃ gap ∈ z.gaps taken, gap.Has id) ↔ ∀ t ∈ taken, ¬t.Has id := by
  constructor
  · intro h t ht
    obtain ⟨gap, hgap, hid⟩ := h
    exact clear_of_mem_gaps hgap t ht id hid
  · intro hnone
    have hinside : z.contains id 1 = true := by
      rw [contains_iff]
      omega
    have hclear : (Window.mk id 1).Clear taken := by
      intro t ht other hother
      have hsame : other = id := by
        rw [Window.has_iff] at hother
        show other = (Window.mk id 1).start
        have hstop : (Window.mk id 1).stop = (Window.mk id 1).start + 1 := rfl
        omega
      rw [hsame]
      exact hnone t ht
    obtain ⟨gap, hgap, hstart, hstop⟩ := exists_gap_of_clear htaken hinside hclear
    have hend : (Window.mk id 1).stop = id + 1 := rfl
    refine ⟨gap, hgap, hstart, ?_⟩
    omega

/-- A gap is not empty and lies in the zone. -/
theorem contains_of_mem_gaps {gap : Window} (hgap : gap ∈ z.gaps taken) :
    z.contains gap.start gap.size = true := by
  obtain ⟨hlow, hhigh, -⟩ := gaps_spec gap hgap
  have hpos : 0 < gap.size := of_decide_eq_true (List.mem_filter.1 hgap).2
  have hstop : gap.stop = gap.start + gap.size := rfl
  rw [contains_iff]
  omega

/-! ### Between two gaps -/

/-- **A gap of a sweep ends at an id that is taken** before the next gap starts. -/
theorem separated_sweep {upper cursor : Int} {windows : List Window}
    (hsorted : windows.Pairwise fun v w => v.precedes w = true)
    (hpos : ∀ w ∈ windows, 1 ≤ w.size) :
    (sweep upper cursor windows).Pairwise fun g h =>
      g.stop < h.start ∧ ∃ w ∈ windows, w.Has g.stop := by
  induction windows generalizing cursor with
  | nil =>
    rw [sweep]
    split
    · exact List.pairwise_singleton _ _
    · exact List.Pairwise.nil
  | cons w rest ih =>
    rw [List.pairwise_cons] at hsorted
    have hw : 1 ≤ w.size := hpos w List.mem_cons_self
    have hstop : w.stop = w.start + w.size := rfl
    have hrest := @ih (max cursor w.stop) hsorted.2
      fun v hv => hpos v (List.mem_cons_of_mem w hv)
    rw [sweep, List.pairwise_append]
    refine ⟨?_, ?_, ?_⟩
    · split
      · exact List.pairwise_singleton _ _
      · exact List.Pairwise.nil
    · split
      · exact List.Pairwise.nil
      · refine hrest.imp ?_
        intro g h hgh
        obtain ⟨hlt, v, hv, hhas⟩ := hgh
        exact ⟨hlt, v, List.mem_cons_of_mem w hv, hhas⟩
    · -- the gap before `w` ends where `w` starts, the later ones start behind `w`
      intro g hg h hh
      split at hg
      · split at hh
        · cases hh
        · rename_i hbefore hnext
          have hlater := (sweep_spec hsorted.2 h hh).1
          have hend : g.stop = w.start := by
            rw [List.mem_singleton.1 hg]
            show cursor + (min w.start (upper + 1) - cursor) = w.start
            omega
          rw [hend]
          refine ⟨by omega, w, List.mem_cons_self, ?_⟩
          rw [Window.has_iff]
          omega
      · cases hg

theorem separated_gaps (htaken : ∀ t ∈ taken, 1 ≤ t.size) :
    (z.gaps taken).Pairwise fun g h => g.stop < h.start ∧ ∃ t ∈ taken, t.Has g.stop := by
  have hsorted := pairwise_sortBy Window.precedes_total Window.precedes_trans taken
  have hpos : ∀ w ∈ sortBy Window.precedes taken, 1 ≤ w.size :=
    fun w hw => htaken w (mem_sortBy.1 hw)
  apply List.Pairwise.filter
  refine (separated_sweep hsorted hpos).imp ?_
  intro g h hgh
  obtain ⟨hlt, t, ht, hhas⟩ := hgh
  exact ⟨hlt, t, mem_sortBy.1 ht, hhas⟩

/-- Gaps that share an id are the same. -/
theorem eq_of_mem_gaps (htaken : ∀ t ∈ taken, 1 ≤ t.size) {g h : Window} (hg : g ∈ z.gaps taken)
    (hh : h ∈ z.gaps taken) {id : Int} (hid : g.Has id) (hid' : h.Has id) : g = h := by
  have hsymm : Std.Symm fun v w : Window => v.stop < w.start ∨ w.stop < v.start :=
    ⟨fun _ _ => Or.symm⟩
  have hapart : (z.gaps taken).Pairwise fun v w => v.stop < w.start ∨ w.stop < v.start :=
    (separated_gaps htaken).imp fun h => .inl h.1
  rw [Window.has_iff] at hid hid'
  by_contra hne
  have hside := hapart.forall hg hh hne
  omega

/-- **A clear window around a gap is that gap.** -/
theorem eq_gap_of_clear (htaken : ∀ t ∈ taken, 1 ≤ t.size) {gap w : Window}
    (hgap : gap ∈ z.gaps taken) (hinside : z.contains w.start w.size = true)
    (hclear : w.Clear taken) (hstart : w.start ≤ gap.start) (hstop : gap.stop ≤ w.stop) :
    w = gap := by
  obtain ⟨wide, hwide, hlow, hhigh⟩ := exists_gap_of_clear htaken hinside hclear
  have hpos := z.contains_iff.1 (contains_of_mem_gaps hgap)
  have hsize : gap.stop = gap.start + gap.size := rfl
  have hwsize : w.stop = w.start + w.size := rfl
  have hfirst : gap.Has gap.start := ⟨by omega, by omega⟩
  have hother : wide.Has gap.start := ⟨by omega, by omega⟩
  -- the clear window lies in a gap, which then is the one that it is around
  obtain rfl := eq_of_mem_gaps htaken hgap hwide hfirst hother
  have hsame : w.start = gap.start := by omega
  have hsame' : w.size = gap.size := by omega
  cases w
  cases gap
  rw [Window.mk.injEq]
  exact ⟨hsame, hsame'⟩

/-! ### The gaps and the scan -/

/-- The places from which a window of a size is in the zone and clear. -/
def clearStarts (z : Zone) (size : Int) (taken : List Window) : Set Int :=
  {start | z.contains start size = true ∧ (Window.mk start size).Clear taken}

/-- **The gaps are what the taken windows leave over of a zone.** They have just the ids that no taken
window has, none is empty or leaves the zone, they come in ascending order with taken ids between
them, and so none of them could be longer. The scan then finds the lowest place at which a window
of a size is in the zone and clear, and nothing just if there is no such place. -/
theorem gaps_complement (htaken : ∀ t ∈ taken, 1 ≤ t.size) :
    (∀ id, z.lower ≤ id → id ≤ z.upper →
      ((∃ gap ∈ z.gaps taken, gap.Has id) ↔ ∀ t ∈ taken, ¬t.Has id)) ∧
    (∀ gap ∈ z.gaps taken, 1 ≤ gap.size ∧ z.lower ≤ gap.start ∧ gap.last ≤ z.upper) ∧
    ((z.gaps taken).Pairwise fun g h => g.start < h.start ∧
      ∃ t ∈ taken, ∃ id, t.Has id ∧ g.last < id ∧ id < h.start) ∧
    (∀ gap ∈ z.gaps taken, ∀ w : Window, z.contains w.start w.size = true → w.Clear taken →
      w.start ≤ gap.start → gap.stop ≤ w.stop → w = gap) ∧
    ∀ size, 1 ≤ size →
      (∀ start, Placement.scan z size taken = some start ↔
        IsLeast (z.clearStarts size taken) start) ∧
      (Placement.scan z size taken = none ↔ z.clearStarts size taken = ∅) := by
  have hbounds : ∀ gap ∈ z.gaps taken, 1 ≤ gap.size ∧ z.lower ≤ gap.start ∧ gap.last ≤ z.upper :=
    fun gap hgap => z.contains_iff.1 (contains_of_mem_gaps hgap)
  refine ⟨fun id => exists_gap_has_iff htaken, hbounds, ?_,
    fun gap hgap w => eq_gap_of_clear htaken hgap, ?_⟩
  · have hseparated := @separated_gaps z taken htaken
    refine hseparated.imp_of_mem ?_
    intro g h hg _ hgh
    obtain ⟨hlt, t, ht, hhas⟩ := hgh
    have hpos := (hbounds g hg).1
    have hstop : g.stop = g.start + g.size := rfl
    have hlast : g.last = g.start + g.size - 1 := rfl
    exact ⟨by omega, t, ht, g.stop, hhas, by omega, hlt⟩
  · intro size hsize
    have hroom : ∀ start, Placement.HasRoom z size taken start ↔ start ∈ z.clearStarts size taken :=
      fun start => and_congr_right fun _ => Window.isFree_iff_clear hsize htaken
    refine ⟨fun start => ?_, ?_⟩
    · rw [Placement.scan_eq_some_iff hsize, IsLeast, mem_lowerBounds, hroom]
      simp only [hroom]
    · rw [Placement.scan_eq_none_iff hsize, Set.eq_empty_iff_forall_notMem]
      simp only [hroom]

/-- Windows that overlap, contain and repeat each other, two of them across the ends of the zone. -/
def crowd : List Window :=
  [⟨4000, 200⟩, ⟨2300, 1⟩, ⟨2000, 100⟩, ⟨2050, 200⟩, ⟨2060, 10⟩, ⟨2300, 1⟩, ⟨9000, 5⟩, ⟨2301, 2⟩]

/-- Two gaps are left, on both sides of the ids from 2300 to 2302. A window of fifty ids goes into the
first, a larger one into the second, and there is no place for one of two thousand ids. -/
theorem gaps_complement_crowd :
    (∀ t ∈ crowd, 1 ≤ t.size) ∧ (∃ gap ∈ Space.a.zone.gaps crowd, gap.Has 2299) ∧
      ¬(∃ gap ∈ Space.a.zone.gaps crowd, gap.Has 2302) ∧
      IsLeast (Space.a.zone.clearStarts 50 crowd) 2250 ∧
      IsLeast (Space.a.zone.clearStarts 51 crowd) 2303 ∧
      Space.a.zone.clearStarts 2000 crowd = ∅ := by
  have hcrowd : ∀ t ∈ crowd, 1 ≤ t.size := by decide
  obtain ⟨hids, -, -, -, hscan⟩ := @gaps_complement Space.a.zone crowd hcrowd
  refine ⟨hcrowd, (hids 2299 (by decide) (by decide)).2 (by decide), ?_,
    ((hscan 50 (by decide)).1 2250).1 (by decide +kernel),
    ((hscan 51 (by decide)).1 2303).1 (by decide +kernel),
    (hscan 2000 (by decide)).2.1 (by decide +kernel)⟩
  rw [hids 2302 (by decide) (by decide)]
  decide

end Zone

end Allotment
