import Allotment.Reservation

/-!
# Reservations in order

What is true of every reservation that the registry keeps, and how it changes in time.

* `Reservation.Fits` — a reservation of the right owner in the right space, inside the space, with a
  count of used ids between nothing and all;
* `Holding.Apart` — two registrants' reservations overlap in no space;
* `Reservation.Advances` — the only change there ever is: the count moves forward, at most to the
  size. `advances_raise` and `advances_bump` — **PROVED**: both ways to change a reservation do that;
  `used_raise` says how far a count is raised;
* `Reservation.Covers` — the count is past an id, so the id is never the next one.
-/

namespace Allotment

/-- A reservation is in order: it is `owner`'s, lies in `space`, and its count is one of its ids. -/
structure Reservation.Fits (r : Reservation) (owner : String) (space : Space) : Prop where
  owner_eq : r.owner = owner
  space_eq : r.space = space
  inBounds : r.inBounds = true
  used_nonneg : 0 ≤ r.used
  used_le : r.used ≤ r.size

namespace Reservation.Fits

variable {r : Reservation} {owner : String} {space : Space} (h : r.Fits owner space)
include h

theorem contains : space.zone.contains r.start r.size = true := by
  have hbounds := h.inBounds
  rwa [Reservation.inBounds, h.space_eq] at hbounds

theorem bounds : 1 ≤ r.size ∧ space.zone.lower ≤ r.start ∧
    r.start + r.size - 1 ≤ space.zone.upper :=
  (Zone.contains_iff _).1 h.contains

/-- No id is in reservations of both spaces. -/
theorem space_eq_of_has {other : Reservation} {owner' : String} {space' : Space}
    (hother : other.Fits owner' space') {id : Int} (hid : r.window.Has id)
    (hid' : other.window.Has id) : space = space' := by
  have hbounds := h.bounds
  have hbounds' := hother.bounds
  have hapart := Space.zones_apart
  simp only [Window.Has, Window.stop, Reservation.window] at hid hid'
  cases space with
  | a =>
    cases space' with
    | a => rfl
    | b => omega
  | b =>
    cases space' with
    | a => omega
    | b => rfl

/-- A reservation in order is known from its numbers. -/
theorem eta : (⟨owner, space, r.start, r.size, r.used⟩ : Reservation) = r := by
  rw [← h.owner_eq, ← h.space_eq]

end Reservation.Fits

/-- Both reservations of a registrant are in order. -/
def Holding.Fits (h : Holding) (owner : String) : Prop := ∀ s, (h.get s).Fits owner s

/-- No reservation of one holding overlaps one of another in the same space. -/
def Holding.Apart (h other : Holding) : Prop :=
  ∀ s, (h.get s).window.overlaps (other.get s).window = false

theorem Holding.Apart.symm {h other : Holding} (ha : h.Apart other) : other.Apart h := by
  intro s
  rw [Window.overlaps_comm]
  exact ha s

/-- For reservations in one space, overlapping is a matter of their windows. -/
theorem Reservation.overlaps_of_fits {r other : Reservation} {n m : String} {s : Space}
    (hr : r.Fits n s) (hother : other.Fits m s) :
    r.overlaps other = r.window.overlaps other.window := by
  simp [Reservation.overlaps, hr.space_eq, hother.space_eq]

/-! ### How a reservation changes -/

/-- A later state of the same reservation: only the count is another, and it did not go back. -/
structure Reservation.Advances (r later : Reservation) : Prop where
  same : later = { r with used := later.used }
  used_le : r.used ≤ later.used
  within : r.used ≤ r.size → later.used ≤ r.size

namespace Reservation

theorem Advances.refl (r : Reservation) : r.Advances r := ⟨rfl, Int.le_refl _, id⟩

section Advances

variable {r later : Reservation} (h : r.Advances later)
include h

theorem Advances.owner : later.owner = r.owner := by rw [h.same]

theorem Advances.space : later.space = r.space := by rw [h.same]

theorem Advances.start : later.start = r.start := by rw [h.same]

theorem Advances.size : later.size = r.size := by rw [h.same]

theorem Advances.window : later.window = r.window := by
  rw [Reservation.window, Reservation.window, h.start, h.size]

theorem Advances.trans {last : Reservation} (h2 : later.Advances last) : r.Advances last where
  same := by
    rw [h2.same, h.same]
  used_le := Int.le_trans h.used_le h2.used_le
  within hused := h.size ▸ h2.within (h.size.symm ▸ h.within hused)

/-- A reservation in order stays in order. -/
theorem Fits.advances {owner : String} {space : Space} (hfits : r.Fits owner space) :
    later.Fits owner space where
  owner_eq := h.owner.trans hfits.owner_eq
  space_eq := h.space.trans hfits.space_eq
  inBounds := by
    have hbounds := hfits.inBounds
    unfold Reservation.inBounds at hbounds ⊢
    rw [h.space, h.start, h.size]
    exact hbounds
  used_nonneg := Int.le_trans hfits.used_nonneg h.used_le
  used_le := h.size ▸ h.within hfits.used_le

end Advances

theorem advances_raise (r : Reservation) (count : Int) : r.Advances (r.raise count) := by
  unfold raise
  split
  · exact ⟨rfl, by simp only; omega, by simp only; omega⟩
  · exact Advances.refl r

/-- The count moves forward to another, at most to the size. -/
theorem used_raise (r : Reservation) (count : Int) :
    (r.raise count).used = max r.used (min count r.size) := by
  unfold raise
  split
  · show min count r.size = max r.used (min count r.size)
    omega
  · omega

/-- There is an id left as long as the count is below the size. -/
theorem isFull_eq_false_iff {r : Reservation} : r.isFull = false ↔ r.used < r.size := by
  rw [isFull, decide_eq_false_iff_not, Int.not_le]

theorem advances_bump {r : Reservation} (h : r.isFull = false) : r.Advances r.bump := by
  rw [isFull_eq_false_iff] at h
  refine ⟨rfl, ?_, ?_⟩
  · show r.used ≤ r.used + 1
    omega
  · intro _
    show r.used + 1 ≤ r.size
    omega

/-- The count is past an id of the window. -/
def Covers (r : Reservation) (id : Int) : Prop := r.start ≤ id ∧ id < r.start + r.used

theorem Covers.advances {r later : Reservation} {id : Int} (hc : r.Covers id)
    (h : r.Advances later) : later.Covers id := by
  obtain ⟨hlow, hhigh⟩ := hc
  have hused := h.used_le
  rw [Covers, h.start]
  omega

/-- An id of the window is covered once the count was raised for it. -/
theorem covers_raise {r : Reservation} {id : Int} (h : r.window.Has id) :
    (r.raise (id - r.start + 1)).Covers id := by
  obtain ⟨hlow, hhigh⟩ := h
  simp only [window, Window.stop] at hlow hhigh
  unfold raise
  split
  · refine ⟨hlow, ?_⟩
    show id < r.start + min (id - r.start + 1) r.size
    omega
  · exact ⟨hlow, by omega⟩

/-- Once the count was raised for an id of the window, the ids up to that one are covered, and those
that were. -/
theorem covers_raise_iff {r : Reservation} {id other : Int} (hother : r.window.Has other)
    (hlow : r.start ≤ id) :
    (r.raise (other - r.start + 1)).Covers id ↔ r.Covers id ∨ id ≤ other := by
  obtain ⟨-, hhigh⟩ := hother
  simp only [window, Window.stop] at hhigh
  unfold raise
  split
  · rename_i hmoved
    show r.start ≤ id ∧ id < r.start + min (other - r.start + 1) r.size ↔
      (r.start ≤ id ∧ id < r.start + r.used) ∨ id ≤ other
    omega
  · rename_i hstayed
    show r.start ≤ id ∧ id < r.start + r.used ↔
      (r.start ≤ id ∧ id < r.start + r.used) ∨ id ≤ other
    omega

theorem covers_bump {r : Reservation} (h : 0 ≤ r.used) : r.bump.Covers r.nextId := by
  refine ⟨?_, ?_⟩
  · show r.start ≤ r.start + r.used
    omega
  · show r.start + r.used < r.start + (r.used + 1)
    omega

/-- The next id is not covered. -/
theorem not_covers_nextId (r : Reservation) : ¬r.Covers r.nextId := by
  intro h
  have hlt : r.start + r.used < r.start + r.used := h.2
  omega

theorem has_window_iff {r : Reservation} {id : Int} : r.window.Has id ↔ r.hasId id = true := by
  have hlast : id < r.start + r.size ↔ id ≤ r.last := by
    show id < r.start + r.size ↔ id ≤ r.start + r.size - 1
    omega
  unfold hasId
  rw [Bool.and_eq_true, decide_eq_true_eq, decide_eq_true_eq, ← hlast]
  exact Iff.rfl

/-- As long as there is room, the next id is one of the window, unless the count is negative. -/
theorem has_window_nextId_iff {r : Reservation} (h : r.isFull = false) :
    r.window.Has r.nextId ↔ 0 ≤ r.used := by
  rw [isFull_eq_false_iff] at h
  show r.start ≤ r.start + r.used ∧ r.start + r.used < r.start + r.size ↔ 0 ≤ r.used
  omega

theorem has_window_nextId {r : Reservation} (h : r.isFull = false) (hused : 0 ≤ r.used) :
    r.window.Has r.nextId := (has_window_nextId_iff h).2 hused

end Reservation

/-- Both reservations of a holding are later states of those of another. -/
def Holding.Advances (h later : Holding) : Prop := ∀ s, (h.get s).Advances (later.get s)

theorem Holding.Advances.refl (h : Holding) : h.Advances h := fun _ => Reservation.Advances.refl _

theorem Holding.Advances.trans {h later last : Holding} (h1 : h.Advances later)
    (h2 : later.Advances last) : h.Advances last := fun s => (h1 s).trans (h2 s)

theorem Holding.Fits.advances {h later : Holding} {owner : String} (hfits : h.Fits owner)
    (ha : h.Advances later) : later.Fits owner := fun s => (hfits s).advances (ha s)

/-- A change of one reservation. -/
theorem Holding.advances_modify {h : Holding} {s : Space} {f : Reservation → Reservation}
    (hf : (h.get s).Advances (f (h.get s))) : h.Advances (h.modify s f) := by
  intro t
  by_cases hst : t = s
  · subst hst
    rw [Both.get_modify_self]
    exact hf
  · rw [Both.get_modify_of_ne hst]
    exact Reservation.Advances.refl _

theorem Holding.Apart.advances {h other later : Holding} (ha : h.Apart other)
    (hl : h.Advances later) : later.Apart other := by
  intro s
  rw [(hl s).window]
  exact ha s

end Allotment
