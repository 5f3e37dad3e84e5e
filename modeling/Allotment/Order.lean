/-!
# Stable sorting

Windows are swept from the lowest, ids are written from the lowest, reports list registrants in
the order of their names. `sortBy` is insertion from the right, which keeps the order of equal
elements, and unlike merging it unfolds by structural recursion.

* `perm_sortBy` — **PROVED**: sorting rearranges and loses nothing;
* `pairwise_sortBy` — **PROVED**: the result is sorted, if the comparison is total and
  transitive;
* `sortBy_of_pairwise` — **PROVED**: sorting a sorted list changes nothing;
* `filter_sortBy` — **PROVED**: elements that may stand in any order among themselves keep theirs;
* `sortBy_map` — **PROVED**: sorting looks at nothing but what is compared.
-/

namespace Allotment

variable {α : Type}

/-- Insert an element in front of the first one that it may precede. -/
def insertBy (le : α → α → Bool) (x : α) : List α → List α
  | [] => [x]
  | y :: ys => if le x y then x :: y :: ys else y :: insertBy le x ys

/-- Sort a list; equal elements keep their order. -/
def sortBy (le : α → α → Bool) : List α → List α
  | [] => []
  | x :: xs => insertBy le x (sortBy le xs)

theorem perm_insertBy (le : α → α → Bool) (x : α) (xs : List α) :
    (insertBy le x xs).Perm (x :: xs) := by
  induction xs with
  | nil => exact List.Perm.refl _
  | cons y ys ih =>
    unfold insertBy
    split
    · exact List.Perm.refl _
    · exact (ih.cons y).trans (List.Perm.swap x y ys)

/-- **Sorting rearranges.** -/
theorem perm_sortBy (le : α → α → Bool) (xs : List α) : (sortBy le xs).Perm xs := by
  induction xs with
  | nil => exact List.Perm.refl _
  | cons x xs ih => exact (perm_insertBy le x _).trans (ih.cons x)

theorem mem_sortBy {le : α → α → Bool} {xs : List α} {x : α} : x ∈ sortBy le xs ↔ x ∈ xs :=
  (perm_sortBy le xs).mem_iff

theorem pairwise_insertBy {le : α → α → Bool} (total : ∀ a b, le a b = false → le b a = true)
    (trans : ∀ a b c, le a b = true → le b c = true → le a c = true) (x : α) {xs : List α}
    (h : xs.Pairwise fun a b => le a b = true) :
    (insertBy le x xs).Pairwise fun a b => le a b = true := by
  induction xs with
  | nil => simp [insertBy]
  | cons y ys ih =>
    rw [List.pairwise_cons] at h
    obtain ⟨hy, hys⟩ := h
    unfold insertBy
    split
    · rename_i hxy
      refine List.pairwise_cons.2 ⟨?_, List.pairwise_cons.2 ⟨hy, hys⟩⟩
      intro b hb
      rcases List.mem_cons.1 hb with rfl | hb
      · exact hxy
      · exact trans x y b hxy (hy b hb)
    · rename_i hxy
      have hyx : le y x = true := total x y (by simpa using hxy)
      refine List.pairwise_cons.2 ⟨?_, ih hys⟩
      intro b hb
      rcases List.mem_cons.1 ((perm_insertBy le x ys).mem_iff.1 hb) with rfl | hb
      · exact hyx
      · exact hy b hb

/-- **The result is sorted.** -/
theorem pairwise_sortBy {le : α → α → Bool} (total : ∀ a b, le a b = false → le b a = true)
    (trans : ∀ a b c, le a b = true → le b c = true → le a c = true) (xs : List α) :
    (sortBy le xs).Pairwise fun a b => le a b = true := by
  induction xs with
  | nil => exact List.Pairwise.nil
  | cons x xs ih => exact pairwise_insertBy total trans x ih

/-- What is sorted already stays as it is. -/
theorem sortBy_of_pairwise {le : α → α → Bool} {xs : List α}
    (h : xs.Pairwise fun a b => le a b = true) : sortBy le xs = xs := by
  induction xs with
  | nil => rfl
  | cons x xs ih =>
    rw [List.pairwise_cons] at h
    rw [sortBy, ih h.2]
    cases xs with
    | nil => rfl
    | cons y ys => rw [insertBy, if_pos (h.1 y List.mem_cons_self)]

/-! ### Stability -/

theorem filter_insertBy {le : α → α → Bool} {p : α → Bool}
    (h : ∀ x y, p x = true → p y = true → le x y = true) (x : α) (xs : List α) :
    (insertBy le x xs).filter p = (x :: xs).filter p := by
  induction xs with
  | nil => rfl
  | cons y ys ih =>
    unfold insertBy
    split
    · rfl
    · rename_i hle
      -- the element passes over one that it may not precede, so one of the two is left out
      rw [List.filter_cons, ih]
      cases hx : p x with
      | false => simp only [List.filter_cons, hx, Bool.false_eq_true, if_false]
      | true =>
        have hy : p y = false := by
          rw [Bool.eq_false_iff]
          exact fun hy => hle (h x y hx hy)
        simp only [List.filter_cons, hx, hy, Bool.false_eq_true, if_false, if_true]

/-- **Sorting is stable.** -/
theorem filter_sortBy {le : α → α → Bool} {p : α → Bool}
    (h : ∀ x y, p x = true → p y = true → le x y = true) (xs : List α) :
    (sortBy le xs).filter p = xs.filter p := by
  induction xs with
  | nil => rfl
  | cons x xs ih =>
    rw [sortBy, filter_insertBy h, List.filter_cons, List.filter_cons, ih]

theorem insertBy_map {β : Type} (le : β → β → Bool) (f : α → β) (x : α) (xs : List α) :
    insertBy le (f x) (xs.map f) = (insertBy (fun a b => le (f a) (f b)) x xs).map f := by
  induction xs with
  | nil => rfl
  | cons y ys ih =>
    rw [List.map_cons, insertBy, insertBy]
    split
    · rfl
    · rw [ih, List.map_cons]

/-- **Sorting looks at nothing but what is compared.** -/
theorem sortBy_map {β : Type} (le : β → β → Bool) (f : α → β) (xs : List α) :
    sortBy le (xs.map f) = (sortBy (fun a b => le (f a) (f b)) xs).map f := by
  induction xs with
  | nil => rfl
  | cons x xs ih => rw [List.map_cons, sortBy, sortBy, ih, insertBy_map]

end Allotment
