import Allotment.Proofs.Placement.Complement
import Mathlib.Algebra.BigOperators.Group.List.Basic
import Mathlib.Data.Int.Range
import Mathlib.Data.List.Nodup

/-!
# Windows and gaps tile a zone

Windows that lie in a zone and have no id in common, together with the gaps that they leave, are
pieces of which each id of the zone is in one. So nothing is counted twice and nothing is missed when
sizes are added up.

* `Window.Apart` — two windows without a common id;
* `Zone.Tiles` — windows that have every id of a zone once, and no other id;
* `Tiles.perm_ids` — **PROVED**: the ids of the pieces, one piece after the other, are those of the
  zone in some order;
* `Tiles.sum_size` — **PROVED**: so the sizes of the pieces add up to the span of the zone;
* `tiles_append_gaps` — **PROVED**: windows apart from each other and the gaps between them tile.
-/

namespace Allotment

/-! ### The ids of a window -/

namespace Window

/-- Two windows have no id in common. -/
def Apart (v w : Window) : Prop := ∀ id, v.Has id → ¬w.Has id

theorem Apart.symm {v w : Window} (h : v.Apart w) : w.Apart v := fun id hid hid' => h id hid' hid

/-- The ids of a window from the lowest. -/
def ids (w : Window) : List Int := Int.range w.start w.stop

theorem mem_ids {w : Window} {id : Int} : id ∈ w.ids ↔ w.Has id := Int.mem_range_iff

theorem nodup_range (first stop : Int) : (Int.range first stop).Nodup := by
  apply List.nodup_range.map
  intro m n h
  have h : first + (m : Int) = first + (n : Int) := h
  omega

theorem length_range (first stop : Int) : (Int.range first stop).length = (stop - first).toNat := by
  rw [Int.range, List.length_map, List.length_range]

theorem length_ids {w : Window} (h : 0 ≤ w.size) : (w.ids.length : Int) = w.size := by
  have hstop : w.stop = w.start + w.size := rfl
  rw [ids, length_range]
  omega

/-- The windows of a list have as many ids together as their sizes say. -/
theorem length_flatMap_ids {windows : List Window} (h : ∀ w ∈ windows, 0 ≤ w.size) :
    ((windows.flatMap ids).length : Int) = (windows.map size).sum := by
  induction windows with
  | nil => rfl
  | cons w rest ih =>
    have hrest := ih fun v hv => h v (List.mem_cons_of_mem w hv)
    rw [List.flatMap_cons, List.length_append, Int.natCast_add, hrest,
      length_ids (h w List.mem_cons_self), List.map_cons, List.sum_cons]

end Window

/-! ### Tilings -/

namespace Zone

/-- Windows of which each id of a zone is in one: they lie in the zone, no two of them have an id in
common, and none of the ids is missing. -/
structure Tiles (z : Zone) (pieces : List Window) : Prop where
  contains : ∀ w ∈ pieces, z.contains w.start w.size = true
  apart : pieces.Pairwise Window.Apart
  covers : ∀ id, z.lower ≤ id → id ≤ z.upper → ∃ w ∈ pieces, w.Has id

namespace Tiles

variable {z : Zone} {pieces : List Window}

/-- The order of the pieces does not matter. -/
theorem of_perm (h : z.Tiles pieces) {others : List Window} (hperm : others.Perm pieces) :
    z.Tiles others where
  contains w hw := h.contains w (hperm.mem_iff.1 hw)
  apart := (hperm.pairwise_iff Window.Apart.symm).2 h.apart
  covers id hlow hhigh := by
    obtain ⟨w, hw, hid⟩ := h.covers id hlow hhigh
    exact ⟨w, hperm.mem_iff.2 hw, hid⟩

/-- **The ids of the pieces are those of the zone,** each of them once. -/
theorem perm_ids (h : z.Tiles pieces) :
    (pieces.flatMap Window.ids).Perm (Int.range z.lower (z.upper + 1)) := by
  have hnodup : (pieces.flatMap Window.ids).Nodup := by
    rw [List.nodup_flatMap]
    refine ⟨fun w _ => Window.nodup_range _ _, h.apart.imp ?_⟩
    intro v w hapart id hid hid'
    exact hapart id (Window.mem_ids.1 hid) (Window.mem_ids.1 hid')
  refine (List.perm_ext_iff_of_nodup hnodup (Window.nodup_range _ _)).2 ?_
  intro id
  rw [List.mem_flatMap, Int.mem_range_iff]
  constructor
  · intro hmem
    obtain ⟨w, hw, hid⟩ := hmem
    have hbounds := z.contains_iff.1 (h.contains w hw)
    have hid := Window.has_iff.1 (Window.mem_ids.1 hid)
    have hstop : w.stop = w.start + w.size := rfl
    omega
  · intro hbounds
    obtain ⟨w, hw, hid⟩ := h.covers id hbounds.1 (by omega)
    exact ⟨w, hw, Window.mem_ids.2 hid⟩

/-- **The sizes of the pieces add up to the span of the zone.** -/
theorem sum_size (h : z.Tiles pieces) : (pieces.map Window.size).sum = z.span := by
  have hpos : ∀ w ∈ pieces, 0 ≤ w.size := by
    intro w hw
    have hbounds := z.contains_iff.1 (h.contains w hw)
    omega
  have horder := z.lower_le_upper
  have hspan : z.span = z.upper - z.lower + 1 := rfl
  rw [← Window.length_flatMap_ids hpos, h.perm_ids.length_eq, Window.length_range]
  omega

end Tiles

/-- **Windows apart from each other tile their zone together with the gaps that they leave.** -/
theorem tiles_append_gaps {z : Zone} {taken : List Window}
    (hcontains : ∀ t ∈ taken, z.contains t.start t.size = true)
    (hapart : taken.Pairwise Window.Apart) :
    z.Tiles (taken ++ z.gaps taken) := by
  have hpos : ∀ t ∈ taken, 1 ≤ t.size :=
    fun t ht => (z.contains_iff.1 (hcontains t ht)).1
  refine ⟨?_, ?_, ?_⟩
  · intro w hw
    rcases List.mem_append.1 hw with hw | hw
    · exact hcontains w hw
    · exact contains_of_mem_gaps hw
  · rw [List.pairwise_append]
    refine ⟨hapart, ?_, ?_⟩
    · refine (separated_gaps hpos).imp ?_
      intro g h hgh id hid hid'
      rw [Window.has_iff] at hid hid'
      omega
    · intro t ht gap hgap id hid hid'
      exact clear_of_mem_gaps hgap t ht id hid' hid
  · intro id hlow hhigh
    by_cases htaken : ∃ t ∈ taken, t.Has id
    · obtain ⟨t, ht, hid⟩ := htaken
      exact ⟨t, List.mem_append_left _ ht, hid⟩
    · have hnone : ∀ t ∈ taken, ¬t.Has id := fun t ht hid => htaken ⟨t, ht, hid⟩
      obtain ⟨gap, hgap, hid⟩ := (exists_gap_has_iff hpos hlow hhigh).2 hnone
      exact ⟨gap, List.mem_append_right _ hgap, hid⟩

end Zone

end Allotment
