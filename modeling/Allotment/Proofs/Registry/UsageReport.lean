import Allotment.Proofs.Number.Fraction
import Allotment.Proofs.Placement.Tiling
import Allotment.Proofs.Registry.Invariants
import Allotment.Usage

/-!
# The usage report accounts for every id

The two reports of a registry come about in different ways: one lists the reservations of the table,
the other sweeps over the windows of a space. Put together they show each id of each space once.

* `Usage.Row.reservation`, `Usage.rowsOf_eq_ok` — what a row tells of, and that nothing is lost on the
  way to the rows;
* `Usage.Row.Balanced`, `Usage.exists_row` — **PROVED**: a reservation in order has a row. Its numbers
  add up, and what it says about the share is the nearest number that the format has;
* `Usage.Row.Before`, `Usage.before_of_precedes` — **PROVED**: of two rows without a common id, the one
  that may stand first ends before the other starts;
* `Registry.Lawful.reservations_apart`, `Registry.Lawful.exists_rows` — **PROVED**: no two reservations
  of a table have a common id, and neither have their rows;
* `Registry.Lawful.tiles_gaps` — **PROVED**: the windows of a space and the gaps of the report tile it;
* `Desk.reported_history` — **PROVED**: so at every moment the rows and the gaps of a space tile it.
-/

namespace Allotment

namespace Usage

/-! ### Rows -/

namespace Row

/-- The reservation that a row tells of. -/
def reservation (x : Row) : Reservation :=
  { owner := x.registrant, space := x.space, start := x.start, size := x.size, used := x.used }

/-- The ids of a row. -/
def window (x : Row) : Window := x.reservation.window

/-- The order of the rows: by the space, and in a space one ends before the next starts. -/
def Before (x y : Row) : Prop :=
  (x.space = .a ∧ y.space = .b) ∨ (x.space = y.space ∧ x.last < y.start)

/-- A row whose numbers fit together. -/
structure Balanced (x : Row) : Prop where
  /-- It is the row of the reservation that it tells of. -/
  row : Usage.row x.reservation = .ok x
  last : x.last = x.start + x.size - 1
  used_nonneg : 0 ≤ x.used
  free_nonneg : 0 ≤ x.free
  used_add_free : x.used + x.free = x.size
  /-- The share has a divisor. -/
  size_ne_zero : x.size ≠ 0
  share : (x.used : ℚ) / x.size ∈ Set.Icc (0 : ℚ) 1
  /-- What stands in the table is the number of the 64-bit format nearest to the share, and lies
  between zero and one as well. -/
  utilisation : ∃ mantissa exponent, x.utilisation = .finite false mantissa exponent ∧
    Binary64.nearestQuotient? x.used.natAbs x.size.natAbs = some (mantissa, exponent) ∧
    Binary64.Nearest (x.used / x.size) (Binary64.value mantissa exponent) ∧
      Binary64.value mantissa exponent ∈ Set.Icc 0 1

end Row

/-- The row of a reservation has all that the reservation has. -/
theorem reservation_of_row {r : Reservation} {x : Row} (h : row r = .ok x) :
    x.reservation = r ∧ x.last = r.last ∧ x.free = r.remaining ∧
      utilisation r = .ok x.utilisation := by
  unfold row at h
  cases hshare : utilisation r with
  | error f =>
    rw [hshare] at h
    cases h
  | ok share =>
    rw [hshare] at h
    obtain rfl := Except.ok.inj h
    exact ⟨rfl, rfl, rfl, rfl⟩

/-- **A reservation in order has a row,** and the numbers of the row fit together. -/
theorem exists_row {r : Reservation} {owner : String} {space : Space} (h : r.Fits owner space) :
    ∃ x, row r = .ok x ∧ x.Balanced := by
  have hused := h.used_nonneg
  have hle := h.used_le
  have hsize := h.bounds.1
  obtain ⟨mantissa, exponent, hfound, hquotient, hnearest, hvalue⟩ :=
    Binary64.exists_quotient hused hsize hle
  have hshare : utilisation r = .ok (.finite false mantissa exponent) := by
    rw [utilisation, if_neg (by omega), hquotient]
  have hrow : row r = .ok ⟨r.owner, r.space, r.start, r.last, r.size, r.used, r.remaining,
      .finite false mantissa exponent⟩ := by
    rw [row, hshare]
    rfl
  have hpos : (0 : ℚ) < r.size := by exact_mod_cast hsize
  have hremaining : r.remaining = r.size - r.used := rfl
  refine ⟨_, hrow, ?_⟩
  exact {
    row := hrow
    last := rfl
    used_nonneg := hused
    free_nonneg := by
      show 0 ≤ r.remaining
      omega
    used_add_free := by
      show r.used + r.remaining = r.size
      omega
    size_ne_zero := by
      show r.size ≠ 0
      omega
    share := by
      refine ⟨div_nonneg (by exact_mod_cast hused) hpos.le, ?_⟩
      rw [div_le_one hpos]
      exact_mod_cast hle
    utilisation := ⟨mantissa, exponent, rfl, hfound, hnearest, hvalue⟩ }

/-- The rows tell of the reservations one by one. -/
theorem rowsOf_eq_ok {reservations : List Reservation} {rows : List Row}
    (h : rowsOf reservations = .ok rows) : rows.map Row.reservation = reservations := by
  induction reservations generalizing rows with
  | nil =>
    obtain rfl := Except.ok.inj h
    rfl
  | cons r rest ih =>
    rw [rowsOf] at h
    cases hrow : row r with
    | error f =>
      rw [hrow] at h
      cases h
    | ok x =>
      cases hrest : rowsOf rest with
      | error f =>
        rw [hrow, hrest] at h
        cases h
      | ok more =>
        rw [hrow, hrest] at h
        obtain rfl := Except.ok.inj h
        rw [List.map_cons, ih hrest, (reservation_of_row hrow).1]

/-- Reservations in order have rows, all of them balanced. -/
theorem exists_rowsOf {reservations : List Reservation}
    (h : ∀ r ∈ reservations, ∃ owner space, r.Fits owner space) :
    ∃ rows, rowsOf reservations = .ok rows ∧ ∀ x ∈ rows, x.Balanced := by
  induction reservations with
  | nil => exact ⟨[], rfl, by simp⟩
  | cons r rest ih =>
    obtain ⟨owner, space, hfits⟩ := h r List.mem_cons_self
    obtain ⟨x, hrow, hx⟩ := exists_row hfits
    obtain ⟨more, hrest, hmore⟩ := ih fun y hy => h y (List.mem_cons_of_mem r hy)
    refine ⟨x :: more, ?_, List.forall_mem_cons.2 ⟨hx, hmore⟩⟩
    rw [rowsOf, hrow, hrest]
    rfl

/-! ### The order of the rows -/

theorem precedes_iff {x y : Row} : precedes x y = true ↔
    (x.space = .a ∧ y.space = .b) ∨ (x.space = y.space ∧ x.start ≤ y.start) := by
  unfold precedes
  cases x.space <;> cases y.space <;> simp

theorem precedes_total (x y : Row) (h : precedes x y = false) : precedes y x = true := by
  rw [← Bool.not_eq_true, precedes_iff] at h
  rw [precedes_iff]
  revert h
  cases x.space <;> cases y.space <;> simp <;> omega

theorem precedes_trans (x y z : Row) (hxy : precedes x y = true) (hyz : precedes y z = true) :
    precedes x z = true := by
  rw [precedes_iff] at hxy hyz ⊢
  revert hxy hyz
  cases x.space <;> cases y.space <;> cases z.space <;> simp <;> omega

/-- A balanced row is not empty. -/
theorem Row.Balanced.has_start {x : Row} (h : x.Balanced) : x.window.Has x.start := by
  have hused := h.used_nonneg
  have hfree := h.free_nonneg
  have hsum := h.used_add_free
  have hsize := h.size_ne_zero
  have hstop : x.window.stop = x.start + x.size := rfl
  exact ⟨Int.le_refl _, by omega⟩

/-- **Of two rows without a common id,** the one that may stand first ends before the other starts. -/
theorem before_of_precedes {x y : Row} (hx : x.Balanced) (hy : y.Balanced)
    (hapart : x.window.Apart y.window) (h : precedes x y = true) : x.Before y := by
  rcases precedes_iff.1 h with hspace | ⟨hspace, hstart⟩
  · exact .inl hspace
  · refine .inr ⟨hspace, ?_⟩
    have hnot : ¬x.window.Has y.start := fun hid => hapart y.start hid hy.has_start
    have hlast := hx.last
    have hstop : x.window.stop = x.start + x.size := rfl
    have hfirst : x.window.start = x.start := rfl
    rw [Window.has_iff] at hnot
    omega

/-- Rows without common ids can be put in order in one way only. -/
theorem eq_of_precedes {rows other : List Row} (hbalanced : ∀ x ∈ rows, x.Balanced)
    (hapart : rows.Pairwise fun x y => x.window.Apart y.window) (hperm : other.Perm rows)
    (hsorted : rows.Pairwise fun x y => precedes x y = true)
    (hother : other.Pairwise fun x y => precedes x y = true) : other = rows := by
  have hsymm : Std.Symm fun x y : Row => x.window.Apart y.window := ⟨fun _ _ => Window.Apart.symm⟩
  refine List.Perm.eq_of_pairwise ?_ hother hsorted hperm
  intro x y hx hy hxy hyx
  have hx : x ∈ rows := hperm.mem_iff.1 hx
  apply Classical.byContradiction
  intro hne
  have hbefore := before_of_precedes (hbalanced x hx) (hbalanced y hy)
    (hapart.forall hx hy hne) hxy
  -- a row before another ends before it starts, so the other is not before it as well
  have hlast := (hbalanced x hx).last
  have hhas := Window.has_iff.1 (hbalanced x hx).has_start
  have hstop : x.window.stop = x.start + x.size := rfl
  rcases hbefore with ⟨ha, hb⟩ | ⟨hspace, hlt⟩
  · rw [precedes_iff, ha, hb] at hyx
    simp at hyx
  · rw [precedes_iff, hspace] at hyx
    rcases hyx with ⟨ha, hb⟩ | ⟨-, hle⟩
    · rw [ha] at hb
      cases hb
    · omega

end Usage

/-! ### The reservations of a table -/

namespace Registry.Lawful

variable {r : Registry} (h : r.Lawful)
include h

theorem fits_of_mem_reservations {x : Reservation} (hx : x ∈ r.reservations) :
    ∃ owner space, x.Fits owner space := by
  obtain ⟨row, hrow, hx⟩ := List.mem_flatMap.1 hx
  have hfits := h.consistent.fits row hrow
  rcases List.mem_cons.1 hx with rfl | hx
  · exact ⟨row.1, .a, hfits .a⟩
  · obtain rfl := List.mem_singleton.1 hx
    exact ⟨row.1, .b, hfits .b⟩

/-- **No two reservations of a table have a common id.** -/
theorem reservations_apart :
    r.reservations.Pairwise fun x y => x.window.Apart y.window := by
  have hnames : r.entries.Pairwise fun x y => x.1 ≠ y.1 := List.pairwise_map.1 h.consistent.nodup
  have hget : ∀ row : String × Holding, ∀ x ∈ row.2.toList, ∃ s, x = row.2.get s := by
    intro row x hx
    rcases List.mem_cons.1 hx with rfl | hx
    · exact ⟨.a, rfl⟩
    · exact ⟨.b, List.mem_singleton.1 hx⟩
  rw [reservations, List.pairwise_flatMap]
  refine ⟨?_, hnames.imp_of_mem ?_⟩
  · intro row hrow
    refine List.pairwise_pair.2 ?_
    intro id hid hid'
    have hsame := h.consistent.eq_of_has hrow hrow (s := .a) (t := .b) hid hid'
    cases hsame.2
  · intro row other hrow hother hne x hx y hy id hid hid'
    obtain ⟨s, rfl⟩ := hget row x hx
    obtain ⟨t, rfl⟩ := hget other y hy
    exact hne (h.consistent.eq_of_has hrow hother hid hid').1

/-- The reservations of a space are those among all that lie in it. -/
theorem filter_reservations (s : Space) :
    (r.reservations.filter fun x => decide (x.space = s)) = r.reservationsIn s := by
  have hone : ∀ row ∈ r.entries,
      (row.2.toList.filter fun x => decide (x.space = s)) = [row.2.get s] := by
    intro row hrow
    have hfits := h.consistent.fits row hrow
    have ha : row.2.a.space = .a := (hfits .a).space_eq
    have hb : row.2.b.space = .b := (hfits .b).space_eq
    rw [Both.toList, List.filter_cons, List.filter_cons, ha, hb]
    cases s <;> rfl
  rw [reservations, List.filter_flatMap, List.flatMap_congr hone, reservationsIn, List.map_eq_flatMap]

/-- The windows of a space tile it together with the gaps of the report. -/
theorem tiles_gaps (s : Space) : s.zone.Tiles ((r.reservationsIn s).map Reservation.window ++
    s.zone.gaps ((r.reservationsIn s).map Reservation.window)) := by
  refine Zone.tiles_append_gaps ?_ ?_
  · intro w hw
    obtain ⟨x, hx, rfl⟩ := List.mem_map.1 hw
    rw [← h.filter_reservations s, List.mem_filter, decide_eq_true_eq] at hx
    obtain ⟨owner, space, hfits⟩ := h.fits_of_mem_reservations hx.1
    obtain rfl : space = s := hfits.space_eq.symm.trans hx.2
    exact hfits.contains
  · rw [List.pairwise_map, ← h.filter_reservations s]
    exact h.reservations_apart.filter _

/-- The rows of a table: one for each reservation, in order, and no two with a common id. -/
theorem exists_rows : ∃ rows, Usage.rows r = .ok rows ∧
    (rows.map Usage.Row.reservation).Perm r.reservations ∧
    (rows.Pairwise fun x y => Usage.precedes x y = true) ∧
    (rows.Pairwise fun x y => x.window.Apart y.window) ∧ ∀ x ∈ rows, x.Balanced := by
  obtain ⟨unsorted, hunsorted, hbalanced⟩ :=
    Usage.exists_rowsOf fun x hx => h.fits_of_mem_reservations hx
  have htell := Usage.rowsOf_eq_ok hunsorted
  have hperm := perm_sortBy Usage.precedes unsorted
  have hapart := h.reservations_apart
  rw [← htell, List.pairwise_map] at hapart
  refine ⟨sortBy Usage.precedes unsorted, ?_, ?_, ?_, ?_, ?_⟩
  · rw [Usage.rows, hunsorted]
    rfl
  · rw [← htell]
    exact hperm.map Usage.Row.reservation
  · exact pairwise_sortBy Usage.precedes_total Usage.precedes_trans unsorted
  · -- what holds of any two reservations holds of any two rows
    exact (hperm.pairwise_iff Window.Apart.symm).2 hapart
  · intro x hx
    exact hbalanced x (mem_sortBy.1 hx)

end Registry.Lawful

namespace Desk

/-- **The usage report accounts for every id at every moment,** whatever the files said and whatever
was asked. Each reservation has one row, whose numbers fit together and whose share is between zero
and one. The rows stand in the order of the spaces and of their starts, one ending before the next
starts in its space, and in no other order are they sorted. The rows of a space and the gaps that are
reported for it tile the space, so their sizes add up to its span. -/
theorem reported_history (layout : Layout) (passes : Int) (disk : Disk) (events : List Event) :
    let r := (history layout passes disk events).registry
    ∃ rows, Usage.rows r = .ok rows ∧
      (rows.map Usage.Row.reservation).Perm r.reservations ∧
      rows.Pairwise Usage.Row.Before ∧
      (∀ other : List Usage.Row, other.Perm rows →
        other.Pairwise (fun x y => Usage.precedes x y = true) → other = rows) ∧
      (∀ x ∈ rows, x.Balanced) ∧
      ∀ arg s, arg.toSpace = .ok s →
        let inSpace := rows.filter fun x => decide (x.space = s)
        ∃ gaps, Usage.gaps r arg = .ok gaps ∧
          s.zone.Tiles (inSpace.map Usage.Row.window ++ gaps) ∧
          (inSpace.map Usage.Row.size).sum + (gaps.map Window.size).sum = s.zone.span := by
  intro r
  have h : r.Lawful := lawful_history layout passes disk events
  obtain ⟨rows, hrows, hsame, hsorted, hapart, hbalanced⟩ := h.exists_rows
  refine ⟨rows, hrows, hsame, ?_, ?_, hbalanced, ?_⟩
  · refine (hsorted.and hapart).imp_of_mem ?_
    intro x y hx hy hxy
    exact Usage.before_of_precedes (hbalanced x hx) (hbalanced y hy) hxy.2 hxy.1
  · intro other hother
    exact Usage.eq_of_precedes hbalanced hapart hother hsorted
  · intro arg s hspace inSpace
    have hin : (inSpace.map Usage.Row.reservation).Perm (r.reservationsIn s) := by
      have hfilter := hsame.filter fun x => decide (x.space = s)
      rwa [h.filter_reservations, List.filter_map] at hfilter
    have hwindows := hin.map Reservation.window
    rw [List.map_map] at hwindows
    have htiles := (h.tiles_gaps s).of_perm (hwindows.append_right _)
    refine ⟨_, by rw [Usage.gaps, hspace]; rfl, htiles, ?_⟩
    have hsum := htiles.sum_size
    rw [List.map_append, List.sum_append, List.map_map] at hsum
    exact hsum

end Desk

end Allotment
