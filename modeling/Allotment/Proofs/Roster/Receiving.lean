import Allotment.Proofs.Reservation
import Allotment.Proofs.Roster.Copy
import Allotment.Roster.Admission
import Mathlib.Data.List.Nodup

/-!
# What is admitted from a roster

The roster of a registrant may have been edited by anybody. Whatever it lists, the ids that an
allocator takes over from it lie in the registrant's windows, no two have the same name or the same
number, and the counts are past all of them.

* `admitted` — the ids that are admitted in one space, one entry after the other. They depend on the
  window and on nothing else of the reservation;
* `step_of_admitted`, `step_of_discarded` — **PROVED**: an entry is admitted or it is not. All that is
  known of a step is taken from these two;
* `receive_ids` — **PROVED**: `receive` admits in each space what `admitted` does;
* `Bound` — admitted ids: names and numbers appear once, and every id is in the window;
* `bound_receive`, `advances_receive`, `covers_receive` — **PROVED**: what is admitted is bound,
  and the counts move forward past it;
* `covers_receive_iff` — **PROVED**: and no further than the highest admitted id;
* `receive_of_listed` — **PROVED**: if a roster lists bound ids, all are admitted;
* `receive_of_covered` — **PROVED**: if the counts are past them already, nothing else happens.
-/

namespace Allotment.Roster

/-- Ids that a registrant has in a window. -/
structure Bound (w : Window) (ids : NamedIds) : Prop where
  names : (Assoc.keys ids).Nodup
  numbers : (ids.map Prod.snd).Nodup
  within : ∀ x ∈ ids, w.Has x.2

theorem bound_nil (w : Window) : Bound w [] := ⟨List.nodup_nil, List.nodup_nil, by simp⟩

theorem clashes_eq_false_iff {ids : NamedIds} {name : String} {id : Int} :
    clashes ids name id = false ↔ name ∉ Assoc.keys ids ∧ id ∉ ids.map Prod.snd := by
  simp only [clashes, List.any_eq_false, Bool.or_eq_true, decide_eq_true_eq, not_or, Assoc.keys,
    List.mem_map, not_exists, not_and]
  exact ⟨fun h => ⟨fun x hx => (h x hx).1, fun x hx => (h x hx).2⟩,
    fun h x hx => ⟨h.1 x hx, h.2 x hx⟩⟩

/-- A new name with a new id of the window may be added. -/
theorem Bound.append {w : Window} {ids : NamedIds} (h : Bound w ids) {name : String} {id : Int}
    (hclash : clashes ids name id = false) (hid : w.Has id) : Bound w (ids ++ [(name, id)]) := by
  obtain ⟨hname, hnumber⟩ := clashes_eq_false_iff.1 hclash
  refine ⟨?_, ?_, ?_⟩
  · simp only [Assoc.keys, List.map_append, List.map_cons, List.map_nil]
    exact List.nodup_append'.2 ⟨h.names, List.nodup_singleton _, List.disjoint_singleton.2 hname⟩
  · rw [List.map_append]
    exact List.nodup_append'.2
      ⟨h.numbers, List.nodup_singleton _, List.disjoint_singleton.2 hnumber⟩
  · intro x hx
    rcases List.mem_append.1 hx with hx | hx
    · exact h.within x hx
    · exact List.mem_singleton.1 hx ▸ hid

theorem Bound.of_append {w : Window} {ids more : NamedIds} (h : Bound w (ids ++ more)) :
    Bound w ids where
  names := (List.nodup_append'.1 (by simpa [Assoc.keys] using h.names)).1
  numbers := (List.nodup_append'.1 (by simpa using h.numbers)).1
  within x hx := h.within x (List.mem_append_left _ hx)

/-- The last one of bound ids has neither a name nor an id that came before. -/
theorem Bound.clashes_eq_false {w : Window} {ids : NamedIds} {name : String} {id : Int}
    (h : Bound w (ids ++ [(name, id)])) : clashes ids name id = false := by
  have hnames := h.names
  have hnumbers := h.numbers
  simp only [Assoc.keys, List.map_append, List.map_cons, List.map_nil] at hnames hnumbers
  rw [clashes_eq_false_iff]
  exact ⟨fun hm => (List.nodup_append'.1 hnames).2.2 hm (by simp),
    fun hm => (List.nodup_append'.1 hnumbers).2.2 hm (by simp)⟩

theorem Bound.perm {w : Window} {ids other : NamedIds} (h : Bound w ids) (hp : ids.Perm other) :
    Bound w other where
  names := (hp.map Prod.fst).nodup_iff.1 h.names
  numbers := (hp.map Prod.snd).nodup_iff.1 h.numbers
  within x hx := h.within x (hp.mem_iff.2 hx)

theorem Bound.inOrder {w : Window} {ids : NamedIds} (h : Bound w ids) : Bound w (inOrder ids) :=
  h.perm (perm_sortBy _ _).symm

/-! ### One space -/

/-- The ids admitted in a window, behind those admitted already. -/
def admitted (w : Window) (ids : NamedIds) : NamedIds → NamedIds
  | [] => ids
  | (name, id) :: rest =>
    if w.Has id ∧ clashes ids name id = false then admitted w (ids ++ [(name, id)]) rest
    else admitted w ids rest

theorem bound_admitted {w : Window} {ids : NamedIds} (h : Bound w ids) (listed : NamedIds) :
    Bound w (admitted w ids listed) := by
  induction listed generalizing ids with
  | nil => exact h
  | cons x rest ih =>
    obtain ⟨name, id⟩ := x
    unfold admitted
    split
    · rename_i hadmitted
      exact ih (h.append hadmitted.2 hadmitted.1)
    · exact ih h

theorem mem_admitted {w : Window} {ids listed : NamedIds} {x : String × Int}
    (h : x ∈ admitted w ids listed) : x ∈ ids ∨ x ∈ listed := by
  induction listed generalizing ids with
  | nil => exact Or.inl h
  | cons y rest ih =>
    obtain ⟨name, id⟩ := y
    unfold admitted at h
    split at h
    · rcases ih h with h | h
      · rcases List.mem_append.1 h with h | h
        · exact Or.inl h
        · exact Or.inr (List.mem_singleton.1 h ▸ List.mem_cons_self)
      · exact Or.inr (List.mem_cons_of_mem _ h)
    · rcases ih h with h | h
      · exact Or.inl h
      · exact Or.inr (List.mem_cons_of_mem _ h)

theorem subset_admitted (w : Window) (ids listed : NamedIds) : ids ⊆ admitted w ids listed := by
  induction listed generalizing ids with
  | nil => exact List.Subset.refl ids
  | cons x rest ih =>
    obtain ⟨name, id⟩ := x
    unfold admitted
    split
    · exact fun y hy => ih _ (List.mem_append_left _ hy)
    · exact ih ids

/-- **What is listed with an id of the window is admitted,** or its name or its id was before. -/
theorem clashes_admitted {w : Window} (ids : NamedIds) {listed : NamedIds} {x : String × Int}
    (hx : x ∈ listed) (hid : w.Has x.2) : clashes (admitted w ids listed) x.1 x.2 = true := by
  induction listed generalizing ids with
  | nil => cases hx
  | cons y rest ih =>
    obtain ⟨name, id⟩ := y
    unfold admitted
    rcases List.mem_cons.1 hx with rfl | hx
    · cases hclash : clashes ids name id with
      | true =>
        rw [if_neg (by simp)]
        obtain ⟨z, hz, hsame⟩ := List.any_eq_true.1 hclash
        exact List.any_eq_true.2 ⟨z, subset_admitted w ids rest hz, hsame⟩
      | false =>
        rw [if_pos ⟨hid, rfl⟩]
        have hmem : (name, id) ∈ admitted w (ids ++ [(name, id)]) rest :=
          subset_admitted w _ rest (by simp)
        exact List.any_eq_true.2 ⟨(name, id), hmem, by simp⟩
    · split
      · exact ih _ hx
      · exact ih ids hx

/-- **Bound ids are all admitted.** -/
theorem admitted_of_bound {w : Window} {ids listed : NamedIds} (h : Bound w (ids ++ listed)) :
    admitted w ids listed = ids ++ listed := by
  induction listed generalizing ids with
  | nil => simp [admitted]
  | cons x rest ih =>
    obtain ⟨name, id⟩ := x
    rw [List.append_cons] at h ⊢
    have hfirst := h.of_append
    have hclash := hfirst.clashes_eq_false
    have hid : w.Has id := hfirst.within (name, id) (by simp)
    rw [admitted, if_pos ⟨hid, hclash⟩]
    exact ih h

/-! ### One entry -/

/-- An entry whose id is in the window, with a new name and a new id, is admitted. -/
theorem step_of_admitted {s : Admission} {e : Entry}
    (hid : (s.holding.get e.space).window.Has e.id)
    (hclash : clashes (s.ids.get e.space) e.name e.id = false) :
    s.step e = { s with
      holding := s.holding.modify e.space fun r => r.raise (e.id - r.start + 1)
      ids := s.ids.modify e.space fun ids => ids ++ [(e.name, e.id)] } := by
  have hin := Reservation.has_window_iff.1 hid
  unfold Admission.step
  simp only
  rw [if_neg (by simp [hin]), if_neg (by simp [hclash])]

/-- What is found about an entry that is discarded. -/
def discarded (h : Holding) (e : Entry) : Finding :=
  if (h.get e.space).window.Has e.id then .duplicate e
  else .stale e (h.get e.space).start (h.get e.space).last

/-- Any other is discarded. -/
theorem step_of_discarded {s : Admission} {e : Entry}
    (h : ¬((s.holding.get e.space).window.Has e.id ∧
      clashes (s.ids.get e.space) e.name e.id = false)) :
    s.step e = { s with findings := s.findings ++ [discarded s.holding e] } := by
  unfold Admission.step discarded
  simp only
  by_cases hid : (s.holding.get e.space).window.Has e.id
  · have hin := Reservation.has_window_iff.1 hid
    have hclash : clashes (s.ids.get e.space) e.name e.id = true := by
      rw [← Bool.not_eq_false]
      exact fun hnew => h ⟨hid, hnew⟩
    rw [if_neg (by simp [hin]), if_pos hclash, if_pos hid]
  · have hout : (s.holding.get e.space).hasId e.id = false := by
      rw [← Bool.not_eq_true]
      exact fun hin => hid (Reservation.has_window_iff.2 hin)
    rw [if_pos (by simp [hout]), if_neg hid]

/-! ### A whole roster -/

/-- What one entry does to the ids of each space: those of its own are as `admitted` says, the others
stay. -/
theorem step_ids (s : Admission) (e : Entry) (space : Space) (rest : List Entry) :
    admitted (s.holding.get space).window ((s.step e).ids.get space) (listedIn rest space) =
      admitted (s.holding.get space).window (s.ids.get space) (listedIn (e :: rest) space) := by
  by_cases hspace : space = e.space
  · subst hspace
    have hlisted : listedIn (e :: rest) e.space = (e.name, e.id) :: listedIn rest e.space := by
      simp [listedIn]
    rw [hlisted, admitted]
    by_cases hadmitted : (s.holding.get e.space).window.Has e.id ∧
        clashes (s.ids.get e.space) e.name e.id = false
    · rw [if_pos hadmitted, step_of_admitted hadmitted.1 hadmitted.2]
      simp only [Both.get_modify_self]
    · rw [if_neg hadmitted, step_of_discarded hadmitted]
  · have hlisted : listedIn (e :: rest) space = listedIn rest space := by
      have hne : ¬e.space = space := fun heq => hspace heq.symm
      simp [listedIn, hne]
    rw [hlisted]
    by_cases hadmitted : (s.holding.get e.space).window.Has e.id ∧
        clashes (s.ids.get e.space) e.name e.id = false
    · rw [step_of_admitted hadmitted.1 hadmitted.2]
      simp only [Both.get_modify_of_ne hspace]
    · rw [step_of_discarded hadmitted]

theorem advances_step (s : Admission) (e : Entry) : s.holding.Advances (s.step e).holding := by
  by_cases hadmitted : (s.holding.get e.space).window.Has e.id ∧
      clashes (s.ids.get e.space) e.name e.id = false
  · rw [step_of_admitted hadmitted.1 hadmitted.2]
    exact Holding.advances_modify (Reservation.advances_raise _ _)
  · rw [step_of_discarded hadmitted]
    exact Holding.Advances.refl _

theorem foldl_step (s : Admission) (entries : List Entry) (space : Space) :
    (entries.foldl Admission.step s).ids.get space =
        admitted (s.holding.get space).window (s.ids.get space) (listedIn entries space) ∧
      s.holding.Advances (entries.foldl Admission.step s).holding := by
  induction entries generalizing s with
  | nil => exact ⟨rfl, Holding.Advances.refl _⟩
  | cons e rest ih =>
    obtain ⟨hids, hadv⟩ := ih (s.step e)
    have hstep := advances_step s e
    rw [List.foldl_cons]
    refine ⟨?_, hstep.trans hadv⟩
    rw [hids, (hstep space).window]
    exact step_ids s e space rest

/-- **What `receive` admits** in a space depends on the window and on what is listed there. -/
theorem receive_ids (h : Holding) (entries : List Entry) (space : Space) :
    (receive h entries).ids.get space =
      admitted (h.get space).window [] (listedIn entries space) := by
  have hids := (foldl_step { holding := h, ids := ⟨[], []⟩ } entries space).1
  rw [receive, hids]
  cases space <;> rfl

/-- **The counts only move forward.** -/
theorem advances_receive (h : Holding) (entries : List Entry) :
    h.Advances (receive h entries).holding :=
  (foldl_step { holding := h, ids := ⟨[], []⟩ } entries .a).2

theorem bound_receive (h : Holding) (entries : List Entry) (space : Space) :
    Bound (h.get space).window ((receive h entries).ids.get space) := by
  rw [receive_ids]
  exact bound_admitted (bound_nil _) _

theorem covers_step {s : Admission} (e : Entry) {space : Space}
    (h : ∀ x ∈ s.ids.get space, (s.holding.get space).Covers x.2) :
    ∀ x ∈ (s.step e).ids.get space, ((s.step e).holding.get space).Covers x.2 := by
  intro x hx
  have hadv := advances_step s e space
  by_cases hadmitted : (s.holding.get e.space).window.Has e.id ∧
      clashes (s.ids.get e.space) e.name e.id = false
  · rw [step_of_admitted hadmitted.1 hadmitted.2] at hx hadv ⊢
    by_cases hspace : space = e.space
    · subst hspace
      rw [Both.get_modify_self, List.mem_append, List.mem_singleton] at hx
      rcases hx with hx | rfl
      · exact (h x hx).advances hadv
      · simp only [Both.get_modify_self]
        exact Reservation.covers_raise hadmitted.1
    · rw [Both.get_modify_of_ne hspace] at hx
      exact (h x hx).advances hadv
  · rw [step_of_discarded hadmitted] at hx ⊢
    exact h x hx

/-- **The counts are past all admitted ids.** -/
theorem covers_receive (h : Holding) (entries : List Entry) (space : Space) :
    ∀ x ∈ (receive h entries).ids.get space,
      ((receive h entries).holding.get space).Covers x.2 := by
  have hfold : ∀ (rest : List Entry) (s : Admission),
      (∀ x ∈ s.ids.get space, (s.holding.get space).Covers x.2) →
      ∀ x ∈ (rest.foldl Admission.step s).ids.get space,
        ((rest.foldl Admission.step s).holding.get space).Covers x.2 := by
    intro rest
    induction rest with
    | nil => exact fun s hs => hs
    | cons e rest ih => exact fun s hs => ih (s.step e) (covers_step e hs)
  refine hfold entries _ ?_
  intro x hx
  cases space <;> simp [Both.get] at hx

/-- What one entry does to an id of the window: it is covered if it was before, or if an admitted id is
no lower. -/
theorem covers_step_iff {s : Admission} (e : Entry) {space : Space} {id : Int}
    (hlow : (s.holding.get space).start ≤ id) {before : Prop}
    (h : (s.holding.get space).Covers id ↔ before ∨ ∃ x ∈ s.ids.get space, id ≤ x.2) :
    ((s.step e).holding.get space).Covers id ↔
      before ∨ ∃ x ∈ (s.step e).ids.get space, id ≤ x.2 := by
  by_cases hadmitted : (s.holding.get e.space).window.Has e.id ∧
      clashes (s.ids.get e.space) e.name e.id = false
  · rw [step_of_admitted hadmitted.1 hadmitted.2]
    by_cases hspace : space = e.space
    · subst hspace
      simp only [Both.get_modify_self]
      rw [Reservation.covers_raise_iff hadmitted.1 hlow, h, or_assoc]
      refine or_congr_right ?_
      simp only [List.mem_append, List.mem_singleton, or_and_right, exists_or, exists_eq_left]
    · simp only [Both.get_modify_of_ne hspace]
      exact h
  · rw [step_of_discarded hadmitted]
    exact h

/-- **The counts are past the highest admitted id,** and no further than they were otherwise. -/
theorem covers_receive_iff (h : Holding) (entries : List Entry) {space : Space} {id : Int}
    (hlow : (h.get space).start ≤ id) :
    ((receive h entries).holding.get space).Covers id ↔
      (h.get space).Covers id ∨ ∃ x ∈ (receive h entries).ids.get space, id ≤ x.2 := by
  have hfold : ∀ (rest : List Entry) (s : Admission), (s.holding.get space).start ≤ id →
      ((s.holding.get space).Covers id ↔
        (h.get space).Covers id ∨ ∃ x ∈ s.ids.get space, id ≤ x.2) →
      (((rest.foldl Admission.step s).holding.get space).Covers id ↔
        (h.get space).Covers id ∨ ∃ x ∈ (rest.foldl Admission.step s).ids.get space, id ≤ x.2) := by
    intro rest
    induction rest with
    | nil => exact fun s _ hs => hs
    | cons e rest ih =>
      intro s hs hcovers
      refine ih (s.step e) ?_ (covers_step_iff e hs hcovers)
      rw [(advances_step s e space).start]
      exact hs
  refine hfold entries _ hlow ?_
  cases space <;> simp [Both.get]

/-- Every admitted name comes from an entry of the space. -/
theorem mem_receive {h : Holding} {entries : List Entry} {space : Space} {x : String × Int}
    (hx : x ∈ (receive h entries).ids.get space) :
    ∃ e ∈ entries, e.space = space ∧ (e.name, e.id) = x := by
  rw [receive_ids] at hx
  rcases mem_admitted hx with hx | hx
  · simp at hx
  · exact mem_listedIn.1 hx

/-- **If a roster lists bound ids, all are admitted.** -/
theorem receive_of_listed {h : Holding} {entries : List Entry} {space : Space}
    (hbound : Bound (h.get space).window (listedIn entries space)) :
    (receive h entries).ids.get space = listedIn entries space := by
  rw [receive_ids]
  exact admitted_of_bound hbound

/-! ### A roster that is up to date -/

/-- A bound id that the count is past already is admitted, and nothing else happens. -/
theorem step_of_covered {s : Admission} {e : Entry}
    (hbound : Bound (s.holding.get e.space).window (s.ids.get e.space ++ [(e.name, e.id)]))
    (hcovers : (s.holding.get e.space).Covers e.id) :
    s.step e = { s with ids := s.ids.modify e.space fun ids => ids ++ [(e.name, e.id)] } := by
  have hid : (s.holding.get e.space).window.Has e.id := hbound.within (e.name, e.id) (by simp)
  have hraise : (s.holding.get e.space).raise (e.id - (s.holding.get e.space).start + 1) =
      s.holding.get e.space := by
    obtain ⟨hlow, hhigh⟩ := hcovers
    rw [Reservation.raise, if_neg (by omega)]
  have hsame : s.holding.modify e.space (fun r => r.raise (e.id - r.start + 1)) = s.holding := by
    apply Both.ext_get
    intro t
    by_cases ht : t = e.space
    · subst ht
      rw [Both.get_modify_self, hraise]
    · rw [Both.get_modify_of_ne ht]
  rw [step_of_admitted hid hbound.clashes_eq_false, hsame]

/-- **If a roster lists bound ids that the counts are past already,** the counts stay and nothing is
found. -/
theorem receive_of_covered {h : Holding} {entries : List Entry}
    (hbound : ∀ s, Bound (h.get s).window (listedIn entries s))
    (hcovers : ∀ s, ∀ x ∈ listedIn entries s, (h.get s).Covers x.2) :
    (receive h entries).holding = h ∧ (receive h entries).findings = [] := by
  have hfold : ∀ (rest : List Entry) (s : Admission),
      (∀ t, Bound (s.holding.get t).window (s.ids.get t ++ listedIn rest t)) →
      (∀ t, ∀ x ∈ listedIn rest t, (s.holding.get t).Covers x.2) →
      (rest.foldl Admission.step s).holding = s.holding ∧
        (rest.foldl Admission.step s).findings = s.findings := by
    intro rest
    induction rest with
    | nil => exact fun s _ _ => ⟨rfl, rfl⟩
    | cons e rest ih =>
      intro s hb hc
      have hown : listedIn (e :: rest) e.space = (e.name, e.id) :: listedIn rest e.space := by
        simp [listedIn]
      have hbe := hb e.space
      rw [hown, List.append_cons] at hbe
      have hce := hc e.space (e.name, e.id) (by rw [hown]; exact List.mem_cons_self)
      rw [List.foldl_cons, step_of_covered hbe.of_append hce]
      refine ih _ ?_ ?_
      · intro t
        by_cases ht : t = e.space
        · subst ht
          simp only [Both.get_modify_self]
          exact hbe
        · have hother : listedIn (e :: rest) t = listedIn rest t := by
            have hne : ¬e.space = t := fun heq => ht heq.symm
            simp [listedIn, hne]
          simp only [Both.get_modify_of_ne ht]
          exact hother ▸ hb t
      · intro t x hx
        refine hc t x ?_
        obtain ⟨y, hy, hspace, heq⟩ := mem_listedIn.1 hx
        exact mem_listedIn.2 ⟨y, List.mem_cons_of_mem e hy, hspace, heq⟩
  refine hfold entries _ ?_ hcovers
  intro t
  have hempty : (⟨[], []⟩ : Both NamedIds).get t = [] := by cases t <;> rfl
  rw [hempty]
  exact hbound t

end Allotment.Roster
