import Allotment.Proofs.FirstCome
import Allotment.Proofs.Roster.Receiving
import Mathlib.Order.Bounds.Basic

/-!
# A roster is admitted in turn

The admission of a roster goes through its entries with counts that move forward and lists of ids that
grow. Both spaces are filled in the one pass. What comes out can be said without the pass: the entries
are served in turn, an entry is in the way of another of its space if they have the name or the id in
common, and each count is moved to cover the highest id that is kept.

* `Entry.Sits`, `Entry.Repeats` — what an entry needs, and what it takes from others;
* `discarded` — what is found about an entry that is not kept;
* `Admits` — what is known of an admission, when it is known which entries are kept;
* `Admits.step`, `admits_receive` — **PROVED**: one entry more, and so all of them.
-/

namespace Allotment.Roster

open FirstCome

/-- The id of an entry is in the window of its space. -/
def Entry.Sits (h : Holding) (e : Entry) : Prop := (h.get e.space).window.Has e.id

instance (h : Holding) (e : Entry) : Decidable (e.Sits h) :=
  inferInstanceAs (Decidable ((h.get e.space).window.Has e.id))

/-- An entry repeats another: they are of one space, and have the name or the id in common. -/
def Entry.Repeats (f e : Entry) : Prop := f.space = e.space ∧ (f.name = e.name ∨ f.id = e.id)

/-- What is known of an admission, when it is known which entries are kept. -/
structure Admits (h : Holding) (entries : List Entry) (kept : Nat → Bool) (s : Admission) :
    Prop where
  /-- The ids are those of the entries that are kept. -/
  ids : ∀ t, s.ids.get t = listedIn (pick kept entries) t
  /-- Of the holding only the counts change. -/
  same : ∀ t, s.holding.get t = { h.get t with used := (s.holding.get t).used }
  /-- A count is the old one, or covers the highest id that is kept, whichever is more. -/
  used : ∀ t, IsGreatest
    (insert (h.get t).used {n | ∃ x ∈ s.ids.get t, n = x.2 - (h.get t).start + 1})
    (s.holding.get t).used
  /-- There is a finding for each entry that is not kept. -/
  findings : s.findings = (pick (fun i => !kept i) entries).map (discarded h)

theorem clashes_listedIn_iff {kept : List Entry} {e : Entry} :
    clashes (listedIn kept e.space) e.name e.id = false ↔ ∀ f ∈ kept, ¬f.Repeats e := by
  simp only [clashes_eq_false_iff, Assoc.keys, listedIn, List.map_map, List.mem_map,
    List.mem_filter, decide_eq_true_eq, Function.comp_apply, Entry.Repeats, not_exists, not_and,
    not_or, and_imp]
  exact ⟨fun h f hf hspace => ⟨h.1 f hf hspace, h.2 f hf hspace⟩,
    fun h => ⟨fun f hf hspace => (h f hf hspace).1, fun f hf hspace => (h f hf hspace).2⟩⟩

theorem listedIn_singleton (e : Entry) (t : Space) :
    listedIn [e] t = if e.space = t then [(e.name, e.id)] else [] := by
  by_cases ht : e.space = t <;> simp [listedIn, ht]

namespace Admits

variable {h : Holding} {l : List Entry} {kept : Nat → Bool} {s : Admission}

theorem window (hs : Admits h l kept s) (t : Space) :
    (s.holding.get t).window = (h.get t).window := by rw [hs.same t]; rfl

theorem discarded_eq (hs : Admits h l kept s) (e : Entry) :
    discarded s.holding e = discarded h e := by
  rw [discarded, discarded, hs.same e.space]
  rfl

/-- A count that covered the ids before an entry, and is moved forward for the entry, covers all. -/
theorem isGreatest_raise {r : Reservation} {start old id : Int} {ids : NamedIds} {name : String}
    (hr : IsGreatest (insert old {n | ∃ x ∈ ids, n = x.2 - start + 1}) r.used)
    (hstart : r.start = start) (hid : r.window.Has id) :
    IsGreatest (insert old {n | ∃ x ∈ ids ++ [(name, id)], n = x.2 - start + 1})
      (r.raise (id - r.start + 1)).used := by
  have hset : insert old {n | ∃ x ∈ ids ++ [(name, id)], n = x.2 - start + 1} =
      insert (id - start + 1) (insert old {n | ∃ x ∈ ids, n = x.2 - start + 1}) := by
    ext n
    simp only [List.mem_append, List.mem_singleton, or_and_right, exists_or, exists_eq_left,
      Set.mem_insert_iff, Set.mem_ofPred_eq]
    rw [← or_assoc, or_comm]
  have hlast : id < r.start + r.size := hid.2
  rw [hset, Reservation.used_raise, hstart, Int.min_eq_left (by omega), max_comm]
  exact hr.insert _

/-- **One entry more.** -/
theorem step (hs : Admits h l kept s) {e : Entry}
    (hkept : kept l.length = true ↔ e.Sits h ∧ ∀ f ∈ pick kept l, ¬f.Repeats e) :
    Admits h (l ++ [e]) kept (s.step e) := by
  have hlisted : ∀ t, listedIn (pick kept (l ++ [e])) t = s.ids.get t ++
      if kept l.length = true ∧ e.space = t then [(e.name, e.id)] else [] := by
    intro t
    rw [pick_snoc, listedIn_append, hs.ids t]
    cases kept l.length with
    | true => simp [listedIn_singleton]
    | false => simp [listedIn]
  have hfound : (pick (fun i => !kept i) (l ++ [e])).map (discarded h) = s.findings ++
      if kept l.length = true then [] else [discarded h e] := by
    rw [pick_snoc, List.map_append, hs.findings]
    cases kept l.length <;> rfl
  have hcase : kept l.length = true ↔ (s.holding.get e.space).window.Has e.id ∧
      clashes (s.ids.get e.space) e.name e.id = false := by
    rw [hkept, hs.window, hs.ids, clashes_listedIn_iff, Entry.Sits]
  by_cases hadmitted : kept l.length = true
  · obtain ⟨hid, hclash⟩ := hcase.1 hadmitted
    -- only the space of the entry changes, so each field is asked there and elsewhere
    rw [step_of_admitted hid hclash]
    refine ⟨fun t => ?_, fun t => ?_, fun t => ?_, ?_⟩
    · rw [hlisted t]
      by_cases ht : t = e.space
      · subst ht
        rw [Both.get_modify_self, if_pos ⟨hadmitted, rfl⟩]
      · rw [Both.get_modify_of_ne ht, if_neg fun hboth => ht hboth.2.symm, List.append_nil]
    · by_cases ht : t = e.space
      · subst ht
        simp only [Both.get_modify_self]
        have hraise := (Reservation.advances_raise (s.holding.get e.space)
          (e.id - (s.holding.get e.space).start + 1)).same
        have hsame := hs.same e.space
        rw [hsame] at hraise ⊢
        exact hraise
      · simp only [Both.get_modify_of_ne ht]
        exact hs.same t
    · by_cases ht : t = e.space
      · subst ht
        simp only [Both.get_modify_self]
        have hstart : (s.holding.get e.space).start = (h.get e.space).start := by
          rw [hs.same e.space]
        exact isGreatest_raise (hs.used e.space) hstart hid
      · simp only [Both.get_modify_of_ne ht]
        exact hs.used t
    · rw [hfound, if_pos hadmitted, List.append_nil]
  · rw [step_of_discarded (fun hboth => hadmitted (hcase.2 hboth)), hs.discarded_eq]
    refine ⟨fun t => ?_, hs.same, hs.used, ?_⟩
    · rw [hlisted t, if_neg fun hboth => hadmitted hboth.1, List.append_nil]
    · rw [hfound, if_neg hadmitted]

end Admits

/-- **What `receive` does is known from the entries that are kept.** -/
theorem admits_receive (h : Holding) {entries : List Entry} {kept : Nat → Bool}
    (hkept : Serves (Entry.Sits h) Entry.Repeats entries kept) :
    Admits h entries kept (receive h entries) := by
  induction entries using List.reverseRecOn with
  | nil =>
    refine ⟨fun t => ?_, fun t => rfl, fun t => ?_, rfl⟩
    · cases t <;> rfl
    · have hnone : (receive h []).ids.get t = [] := by cases t <;> rfl
      have hempty : {n | ∃ x ∈ ([] : NamedIds), n = x.2 - (h.get t).start + 1} = (∅ : Set Int) := by
        ext n
        simp
      rw [hnone, hempty, insert_empty_eq]
      exact isGreatest_singleton
  | append_singleton l e ih =>
    have hstep := (ih hkept.init).step hkept.last
    rw [receive, List.foldl_concat]
    exact hstep

end Allotment.Roster
