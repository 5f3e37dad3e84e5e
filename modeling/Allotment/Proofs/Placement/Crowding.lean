import Allotment.Proofs.Placement.Reference
import Mathlib.Data.Int.Range

/-!
# A search among more windows

Windows that are taken besides the others can only stand in the way of the search. Where they leave
free what it found without them, it finds the same again, by the same route: whatever it passed over
before, it passes over now. Only the ids of the zone matter to this, since the search does not leave
the zone.

* `Window.isFree_append` — a window is free among two lists of windows if it is free among each;
* `probeSteps_of_more`, `scan_of_more` — **PROVED**: trying the slots in turn and scanning the gaps
  end as before, unless what they found is taken now;
* `place_of_more` — **PROVED**: so a window is placed as before, as long as its place is free;
* `Zone.CoveredBy` — of the ids of a zone, one list of windows has all that another has;
* `place_of_coveredBy` — **PROVED**: obstacles that cover no more of the zone do not matter, and what
  comes of a search depends on nothing but the ids of the zone that are covered.
-/

namespace Allotment

/-- Among two lists of windows is free what is free among each. -/
theorem Window.isFree_append (w : Window) (taken more : List Window) :
    w.isFree (taken ++ more) = (w.isFree taken && w.isFree more) := by
  rw [isFree, List.any_append, Bool.not_or]
  rfl

namespace Placement

section More

variable {z : Zone} {size : Int} {taken more : List Window}
  (hmore : ∀ start, HasRoom z size more start → (Window.mk start size).isFree taken = true)
include hmore

/-- A window of the zone that was in the way still is. -/
theorem not_isFree_of_more {start : Int} (hinside : z.contains start size = true)
    (h : (Window.mk start size).isFree taken ≠ true) :
    (Window.mk start size).isFree more ≠ true :=
  fun hfree => h (hmore start ⟨hinside, hfree⟩)

/-- **The slots that are tried in turn** are passed over as before, and the first that was free is
found again if it still is. -/
theorem probeSteps_of_more (hpos : 1 ≤ size) (hspan : size ≤ z.span) {count : Nat} {position : Int}
    (hposition : z.contains position size = true)
    (hfree : ∀ start, probeSteps z size taken count position = some start →
      (Window.mk start size).isFree more = true) :
    probeSteps z size more count position = probeSteps z size taken count position := by
  induction count generalizing position with
  | zero => rfl
  | succ count ih =>
    rw [probeSteps] at hfree
    rw [probeSteps, probeSteps]
    by_cases hhere : (Window.mk position size).isFree taken = true
    · -- the search stopped here, and here it is still free
      rw [if_pos (hfree position (if_pos hhere)), if_pos hhere]
    · rw [if_neg hhere] at hfree
      rw [if_neg (not_isFree_of_more hmore hposition hhere), if_neg hhere]
      exact ih (contains_next hpos hspan hposition) hfree

/-- **The lowest place with room** still is the lowest, if it still has room. -/
theorem scan_of_more (hpos : 1 ≤ size)
    (hfree : ∀ start, scan z size taken = some start → (Window.mk start size).isFree more = true) :
    scan z size more = scan z size taken := by
  have hroom : ∀ start, HasRoom z size more start → HasRoom z size taken start :=
    fun start h => ⟨h.1, hmore start h⟩
  cases hscan : scan z size taken with
  | none =>
    rw [scan_eq_none_iff hpos] at hscan ⊢
    exact fun start h => hscan start (hroom start h)
  | some start =>
    have hstays := hfree start hscan
    rw [scan_eq_some_iff hpos] at hscan ⊢
    obtain ⟨⟨hinside, -⟩, hlowest⟩ := hscan
    exact ⟨⟨hinside, hstays⟩, fun other h => hlowest other (hroom other h)⟩

/-- **A window is placed as before,** by the same route, if nobody has taken its place; and it is
refused as before. -/
theorem place_of_more {passes : Int} {name : List Nat}
    (hfree : ∀ p, place z passes name size taken = .ok p →
      (Window.mk p.start size).isFree more = true) :
    place z passes name size more = place z passes name size taken := by
  rw [place] at hfree
  rw [place, place]
  by_cases hfits : size < 1 ∨ z.span < size
  · rw [if_pos hfits, if_pos hfits]
  · have hpos : 1 ≤ size := by omega
    have hspan : size ≤ z.span := by omega
    have hhome := z.contains_slotStart hpos hspan (primaryValue z name)
    have hsecond := z.contains_slotStart hpos hspan (secondaryValue z name)
    rw [if_neg hfits] at hfree
    rw [if_neg hfits, if_neg hfits]
    simp only at hfree ⊢
    generalize z.slotStart (primaryValue z name) size = home at hfree hhome ⊢
    generalize z.slotStart (secondaryValue z name) size = second at hfree hsecond ⊢
    by_cases hfirst : (Window.mk home size).isFree taken = true
    · rw [if_pos (hfree _ (if_pos hfirst)), if_pos hfirst]
    · rw [if_neg hfirst] at hfree
      rw [if_neg (not_isFree_of_more hmore hhome hfirst), if_neg hfirst]
      by_cases hnext : (Window.mk second size).isFree taken = true
      · rw [if_pos (hfree _ (if_pos hnext)), if_pos hnext]
      · rw [if_neg hnext] at hfree
        rw [if_neg (not_isFree_of_more hmore hsecond hnext), if_neg hnext]
        have hprobe : probe z passes size more home = probe z passes size taken home :=
          probeSteps_of_more hmore hpos hspan hhome fun start hstart =>
            hfree ⟨start, home, .probed⟩ (by rw [probe, hstart])
        rw [hprobe]
        cases hprobed : probe z passes size taken home with
        | some start => rfl
        | none =>
          have hscan : scan z size more = scan z size taken :=
            scan_of_more hmore hpos fun start hstart =>
              hfree ⟨start, home, .scanned⟩ (by rw [hprobed, hstart])
          rw [hscan]

end More

end Placement

/-! ### The ids that are covered -/

/-- Of the ids of a zone, the windows of `more` have all that the windows of `taken` have. -/
def Zone.CoveredBy (z : Zone) (taken more : List Window) : Prop :=
  ∀ id, z.lower ≤ id → id ≤ z.upper → (∃ t ∈ taken, t.Has id) → ∃ t ∈ more, t.Has id

instance (z : Zone) (taken more : List Window) : Decidable (z.CoveredBy taken more) :=
  inferInstanceAs (Decidable (∀ id, z.lower ≤ id → id ≤ z.upper →
    (∃ t ∈ taken, t.Has id) → ∃ t ∈ more, t.Has id))

/-- A window of the zone that is clear of more windows is clear of fewer. -/
theorem Zone.CoveredBy.clear {z : Zone} {taken more : List Window} (h : z.CoveredBy taken more)
    {w : Window} (hinside : z.contains w.start w.size = true) (hclear : w.Clear more) :
    w.Clear taken := by
  intro t ht id hid hid'
  obtain ⟨-, hlow, hhigh⟩ := z.contains_iff.1 hinside
  have hstop : w.stop = w.start + w.size := rfl
  have hid := Window.has_iff.1 hid
  obtain ⟨u, hu, hhas⟩ := h id (by omega) (by omega) ⟨t, ht, hid'⟩
  exact hclear u hu id hid hhas

namespace Placement

/-- **Obstacles that cover no more of the zone do not matter.** Of two lists of windows let the second
cover every id of the zone that the first covers. A window that is placed among the first is placed
there among the second too, and by the same route, if the place is clear; where the first leaves no
room, the second does not. If each covers what the other covers, the search comes to the same end,
in whatever order the windows stand, and however they are repeated, split or put together. -/
theorem place_of_coveredBy {z : Zone} {taken more : List Window} (htaken : ∀ t ∈ taken, 1 ≤ t.size)
    (hmore : ∀ t ∈ more, 1 ≤ t.size) (hcovered : z.CoveredBy taken more) (passes : Int)
    (name : List Nat) (size : Int) :
    (∀ p, place z passes name size taken = .ok p → (Window.mk p.start size).Clear more →
      place z passes name size more = .ok p) ∧
    (place z passes name size taken = .error .noRoom →
      place z passes name size more = .error .noRoom) ∧
    (z.CoveredBy more taken → place z passes name size more = place z passes name size taken) := by
  have hclear : ∀ start, HasRoom z size more start →
      (Window.mk start size).isFree taken = true := by
    intro start h
    have hpos : 1 ≤ size := (z.contains_iff.1 h.1).1
    have hfree := (Window.isFree_iff_clear hpos hmore).1 h.2
    exact (Window.isFree_iff_clear hpos htaken).2 (hcovered.clear h.1 hfree)
  refine ⟨?_, ?_, ?_⟩
  · intro p hplace hstays
    rw [← hplace]
    apply place_of_more hclear
    intro q hq
    obtain rfl : p = q := Except.ok.inj (hplace.symm.trans hq)
    have hpos : 1 ≤ size := (z.contains_iff.1 (place_spec hplace).1).1
    exact (Window.isFree_iff_clear hpos hmore).2 hstays
  · intro hnone
    rw [← hnone]
    apply place_of_more hclear
    intro p hp
    rw [hnone] at hp
    cases hp
  · intro hback
    apply place_of_more hclear
    intro p hp
    obtain ⟨hinside, hfree⟩ := place_spec hp
    have hpos : 1 ≤ size := (z.contains_iff.1 hinside).1
    have hfree := (Window.isFree_iff_clear hpos htaken).1 hfree
    exact (Window.isFree_iff_clear hpos hmore).2 (hback.clear hinside hfree)

/-- In the short zone both slots are taken and a window of four ids goes across them. It still goes
there with one window longer below the zone, the other split and half of it repeated, a new one at the
end of the zone and one outside. Where one list leaves no room, another that covers more has none. -/
theorem place_of_coveredBy_split :
    shortZone.CoveredBy [⟨-3, 4⟩, ⟨5, 2⟩] [⟨9, 30⟩, ⟨6, 1⟩, ⟨-20, 21⟩, ⟨5, 1⟩, ⟨6, 1⟩, ⟨40, 1⟩] ∧
      place shortZone 2 (codePoints "alpha") 4 [⟨-3, 4⟩, ⟨5, 2⟩] = .ok ⟨1, 0, .scanned⟩ ∧
      place shortZone 2 (codePoints "alpha") 4
        [⟨9, 30⟩, ⟨6, 1⟩, ⟨-20, 21⟩, ⟨5, 1⟩, ⟨6, 1⟩, ⟨40, 1⟩] = .ok ⟨1, 0, .scanned⟩ ∧
      place shortZone 2 (codePoints "alpha") 4 [⟨4, 3⟩, ⟨0, 1⟩] = .error .noRoom ∧
      place shortZone 2 (codePoints "alpha") 4 [⟨-5, 9⟩, ⟨6, 1⟩, ⟨4, 2⟩] = .error .noRoom := by
  have hcovered : shortZone.CoveredBy [⟨-3, 4⟩, ⟨5, 2⟩]
      [⟨9, 30⟩, ⟨6, 1⟩, ⟨-20, 21⟩, ⟨5, 1⟩, ⟨6, 1⟩, ⟨40, 1⟩] := by decide
  have hcovered' : shortZone.CoveredBy [⟨4, 3⟩, ⟨0, 1⟩] [⟨-5, 9⟩, ⟨6, 1⟩, ⟨4, 2⟩] := by decide
  have hplace : place shortZone 2 (codePoints "alpha") 4 [⟨-3, 4⟩, ⟨5, 2⟩] =
      .ok ⟨1, 0, .scanned⟩ := by
    decide +kernel
  have hnone : place shortZone 2 (codePoints "alpha") 4 [⟨4, 3⟩, ⟨0, 1⟩] = .error .noRoom := by
    decide +kernel
  have hclear : (Window.mk 1 4).Clear [⟨9, 30⟩, ⟨6, 1⟩, ⟨-20, 21⟩, ⟨5, 1⟩, ⟨6, 1⟩, ⟨40, 1⟩] := by
    rw [← Window.isFree_iff_clear (by decide) (by decide)]
    decide
  obtain ⟨hstays, -, -⟩ := place_of_coveredBy (by decide) (by decide) hcovered 2 (codePoints "alpha") 4
  obtain ⟨-, hrefused, -⟩ :=
    place_of_coveredBy (by decide) (by decide) hcovered' 2 (codePoints "alpha") 4
  exact ⟨hcovered, hplace, hstays _ hplace hclear, hnone, hrefused hnone⟩

end Placement

end Allotment
