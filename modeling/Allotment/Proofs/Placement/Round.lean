import Allotment.Proofs.Placement.Reference
import Mathlib.Order.Bounds.Basic

/-!
# Once round the slots

The slots of a zone are tried in turn from one of them on. The search knows where it is by the start of
a window alone, and goes back to the lowest slot when the next window would not fit. Counted in slots
instead, it goes round: the slot after `j` steps is the one with the number `slot + j`, taken modulo the
number of slots, and the ids behind the last slot that fits are left out.

* `turnStart` — where the slot starts that comes up after a number of steps;
* `exists_turn` — **PROVED**: every slot comes up in the first round;
* `freeTurns` — the steps of the first round at which a free slot comes up;
* `probe_eq_some_iff`, `probe_eq_none_iff` — **PROVED**: the search stops at the first of them, and finds
  nothing just if no slot is free;
* `probe_first_turn` — **PROVED**: so it comes to the same end however many rounds it may make.

Nothing is asked of the taken windows. One that is empty is in the way of a slot around it.
-/

namespace Allotment.Placement

/-- The start of the slot that comes up after some steps from a slot. -/
def turnStart (z : Zone) (size slot : Int) (step : ℕ) : Int :=
  z.lower + (slot + (step : Int)).fmod (z.slots size) * size

/-- The steps of one round at which a free slot comes up. -/
def freeTurns (z : Zone) (size : Int) (taken : List Window) (slot : Int) : Set ℕ :=
  {step | (step : Int) < z.slots size ∧
    (Window.mk (turnStart z size slot step) size).isFree taken = true}

/-- What is found in a row of numbers is the least of them with a property. -/
theorem find?_range_eq_some_iff_isLeast {p : ℕ → Bool} {n i : ℕ} :
    (List.range n).find? p = some i ↔ IsLeast {j | j < n ∧ p j = true} i := by
  rw [List.find?_range_eq_some, List.mem_range]
  constructor
  · intro h
    obtain ⟨hi, hlt, hbefore⟩ := h
    refine ⟨⟨hlt, hi⟩, ?_⟩
    intro j hj
    by_contra hsmaller
    have hnot := hbefore j (Nat.lt_of_not_le hsmaller)
    rw [hj.2] at hnot
    cases hnot
  · intro h
    obtain ⟨⟨hlt, hi⟩, hleast⟩ := h
    refine ⟨hi, hlt, ?_⟩
    intro j hj
    rw [Bool.not_eq_true', Bool.eq_false_iff]
    intro hpj
    have hle := hleast ⟨Nat.lt_trans hj hlt, hpj⟩
    omega

section Round

variable {z : Zone} {size : Int} (hpos : 1 ≤ size) (hspan : size ≤ z.span)
include hpos hspan

/-- **Every slot comes up in the first round,** whichever slot it starts from. -/
theorem exists_turn {slot other : Int} (hlow : 0 ≤ other) (hhigh : other < z.slots size) :
    ∃ step : ℕ, (step : Int) < z.slots size ∧ turnStart z size slot step = z.lower + other * size := by
  have hslots := one_le_slots hpos hspan
  have hstep : 0 ≤ (other - slot).fmod (z.slots size) := Int.fmod_nonneg_of_pos _ (by omega)
  refine ⟨((other - slot).fmod (z.slots size)).toNat, ?_, ?_⟩
  · rw [Int.toNat_of_nonneg hstep]
    exact Int.fmod_lt_of_pos _ (by omega)
  · have hround : (slot + (other - slot).fmod (z.slots size)).fmod (z.slots size) = other := by
      rw [Int.add_fmod_fmod, add_sub_cancel, Int.fmod_eq_emod_of_nonneg _ (by omega)]
      exact Int.emod_eq_of_lt hlow hhigh
    rw [turnStart, Int.toNat_of_nonneg hstep, hround]

/-- The slots of a round lie in the zone at whole numbers of windows from its lower end. -/
theorem exists_slot (slot : Int) (step : ℕ) : ∃ other : Int, 0 ≤ other ∧ other < z.slots size ∧
    turnStart z size slot step = z.lower + other * size := by
  have hslots := one_le_slots hpos hspan
  exact ⟨_, Int.fmod_nonneg_of_pos _ (by omega), Int.fmod_lt_of_pos _ (by omega), rfl⟩

variable {taken : List Window} {passes slot : Int} (hpasses : 1 ≤ passes) (hlow : 0 ≤ slot)
  (hhigh : slot < z.slots size)
include hpasses hlow hhigh

/-- Trying the slots in turn means looking for the first step of a round with a free slot. -/
theorem probe_eq_map_find? : probe z passes size taken (z.lower + slot * size) =
    ((List.range (z.slots size).toNat).find? fun step =>
      (Window.mk (turnStart z size slot step) size).isFree taken).map (turnStart z size slot) := by
  rw [probe_eq_find? hpos hspan hpasses hlow hhigh, List.find?_map]
  rfl

/-- **The search stops at the first free slot that comes up.** -/
theorem probe_eq_some_iff {start : Int} :
    probe z passes size taken (z.lower + slot * size) = some start ↔
      ∃ step, IsLeast (freeTurns z size taken slot) step ∧ start = turnStart z size slot step := by
  have hslots := one_le_slots hpos hspan
  have hturns : freeTurns z size taken slot = {step | step < (z.slots size).toNat ∧
      (Window.mk (turnStart z size slot step) size).isFree taken = true} := by
    ext step
    refine and_congr_left fun _ => ?_
    omega
  rw [probe_eq_map_find? hpos hspan hpasses hlow hhigh, Option.map_eq_some_iff]
  refine exists_congr fun step => and_congr ?_ eq_comm
  rw [hturns]
  exact find?_range_eq_some_iff_isLeast

/-- **It finds nothing just if no slot is free.** -/
theorem probe_eq_none_iff : probe z passes size taken (z.lower + slot * size) = none ↔
    ∀ other, 0 ≤ other → other < z.slots size →
      (Window.mk (z.lower + other * size) size).isFree taken = false := by
  rw [probe_eq_map_find? hpos hspan hpasses hlow hhigh, Option.map_eq_none_iff,
    List.find?_range_eq_none]
  constructor
  · intro hnone other hother hother'
    obtain ⟨step, hstep, hstart⟩ := @exists_turn z size hpos hspan slot other hother hother'
    have hnot := hnone step (by omega)
    rw [hstart, Bool.not_eq_true'] at hnot
    exact hnot
  · intro hnone step hstep
    obtain ⟨other, hother, hother', hstart⟩ := exists_slot hpos hspan slot step
    rw [hstart, hnone other hother hother']
    rfl

/-- **The slots are tried once round, and that is enough.** From a slot that lies in the zone, the
search finds the slot of the first step at which a free one comes up, and nothing just if no slot is
free. More rounds come to the same end. -/
theorem probe_first_turn :
    (∀ start, probe z passes size taken (z.lower + slot * size) = some start ↔
      ∃ step, IsLeast (freeTurns z size taken slot) step ∧ start = turnStart z size slot step) ∧
    (probe z passes size taken (z.lower + slot * size) = none ↔
      ∀ other, 0 ≤ other → other < z.slots size →
        (Window.mk (z.lower + other * size) size).isFree taken = false) ∧
    ∀ more, 1 ≤ more → probe z more size taken (z.lower + slot * size) =
      probe z passes size taken (z.lower + slot * size) := by
  refine ⟨fun start => probe_eq_some_iff hpos hspan hpasses hlow hhigh,
    probe_eq_none_iff hpos hspan hpasses hlow hhigh, ?_⟩
  intro more hmore
  rw [probe_eq_map_find? hpos hspan hmore hlow hhigh,
    probe_eq_map_find? hpos hspan hpasses hlow hhigh]

end Round

/-- Three slots of three ids fit into the short zone, and one id is left over. From the last slot the
search goes past the lowest, where an empty window is in the way, to the one in the middle, on the
second step of whatever number of rounds. If that one is taken too it finds nothing. -/
theorem probe_first_turn_wrapped :
    1 ≤ (3 : Int) ∧ (3 : Int) ≤ shortZone.span ∧ (2 : Int) < shortZone.slots 3 ∧
      IsLeast (freeTurns shortZone 3 [⟨8, 5⟩, ⟨1, 0⟩] 2) 2 ∧
      probe shortZone 7 3 [⟨8, 5⟩, ⟨1, 0⟩] (0 + 2 * 3) = some 3 ∧
      probe shortZone 1 3 [⟨8, 5⟩, ⟨1, 0⟩, ⟨3, 1⟩] (0 + 2 * 3) = none := by
  have hspan : (3 : Int) ≤ shortZone.span := by decide
  have hslot : (2 : Int) < shortZone.slots 3 := by decide
  have hleast : IsLeast (freeTurns shortZone 3 [⟨8, 5⟩, ⟨1, 0⟩] 2) 2 := by
    refine ⟨⟨by decide, by decide⟩, ?_⟩
    intro step hstep
    by_contra hless
    obtain rfl | rfl : step = 0 ∨ step = 1 := by omega
    · exact absurd hstep.2 (by decide)
    · exact absurd hstep.2 (by decide)
  have htaken : ∀ other, 0 ≤ other → other < shortZone.slots 3 →
      (Window.mk (shortZone.lower + other * 3) 3).isFree [⟨8, 5⟩, ⟨1, 0⟩, ⟨3, 1⟩] = false := by
    intro other hlow hhigh
    have hslots : shortZone.slots 3 = 3 := by decide
    obtain rfl | rfl | rfl : other = 0 ∨ other = 1 ∨ other = 2 := by omega
    · decide
    · decide
    · decide
  obtain ⟨hsome, -, hmore⟩ := @probe_first_turn shortZone 3 (by decide) hspan [⟨8, 5⟩, ⟨1, 0⟩] 1 2
    (by decide) (by decide) hslot
  obtain ⟨-, hnone, -⟩ := @probe_first_turn shortZone 3 (by decide) hspan
    [⟨8, 5⟩, ⟨1, 0⟩, ⟨3, 1⟩] 1 2 (by decide) (by decide) hslot
  have hfound := (hsome 3).2 ⟨2, hleast, by decide⟩
  exact ⟨by decide, hspan, hslot, hleast, (hmore 7 (by decide)).trans hfound, hnone.2 htaken⟩

end Allotment.Placement
