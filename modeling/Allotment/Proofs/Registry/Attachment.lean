import Allotment.Proofs.Registry.Lineage

/-!
# Allocators and the table

An allocator is made once, and has the number of its registrant's holding for good. The table may come
to have another one: if the parts of the holding were assigned so that it is not sound any more, the
next call for it places the registrant anew. Nobody tells the allocator.

* `Superseded` — in some history, a registrant who has an allocator is reassigned;
* `numbered_befallen` — **PROVED**: an allocator keeps its number;
* `detached_befallen` — **PROVED**: once the table has another number, it never has this one again;
* `attached_befallen_iff`, `attached_since_iff` — **PROVED**: so the numbers are the same just if the
  registrant was not reassigned since there is an allocator;
* `attached_iff` — **PROVED**: whenever a call for an allocator returns, and ever after, its windows are
  those of the table and its ids come from there, just as long as this is so;
* `detached_reassigned` — **PROVED**: a history in which they part, and an id is handed out that is not
  one of the registrant's.
-/

namespace Allotment

namespace Desk

/-- Some incident reassigns a registrant who has an allocator by then. -/
def Superseded (k : String) (d : Desk) : List Incident → Prop
  | [] => False
  | incident :: rest => d.LosesIn incident k ∨ Superseded k (d.befall incident) rest

theorem superseded_append {k : String} {d : Desk} (first second : List Incident) :
    Superseded k d (first ++ second) ↔
      Superseded k d first ∨ Superseded k (d.befallen first) second := by
  induction first generalizing d with
  | nil => simp [Superseded, befallen]
  | cons incident rest ih =>
    rw [List.cons_append, Superseded, Superseded, ih, or_assoc]
    rfl

/-- Only a registrant with an allocator is superseded. -/
theorem isSome_of_losesIn {d : Desk} {incident : Incident} {k : String}
    (h : d.LosesIn incident k) : (d.registry.allocator? k).isSome = true := by
  unfold LosesIn at h
  split at h
  · rename_i request
    cases request with
    | getOrCreate name sizeA sizeB => exact h.1
    | _ => exact h.elim
  · exact h.elim

section Run

variable {d : Desk} (h : d.registry.Linked) {k : String}
include h

/-- **An allocator keeps its number.** -/
theorem numbered_befallen {al : Allocator} (hal : d.registry.allocator? k = some al)
    (incidents : List Incident) :
    ∃ al', (d.befallen incidents).registry.allocator? k = some al' ∧ al'.holding = al.holding := by
  induction incidents generalizing d al with
  | nil => exact ⟨al, hal, rfl⟩
  | cons incident rest ih =>
    have hstep := continues_befall h incident
    obtain ⟨al', hal', hsame⟩ := hstep.allocators k al hal
    obtain ⟨al'', hal'', hsame'⟩ := ih hstep.linked hal'
    exact ⟨al'', hal'', hsame'.trans hsame⟩

/-- **A number that is out of the table stays out.** -/
theorem detached_befallen {number : Nat} (hlt : number < d.registry.holdings.length)
    (hne : Assoc.get? k d.registry.table ≠ some number) (incidents : List Incident) :
    Assoc.get? k (d.befallen incidents).registry.table ≠ some number := by
  induction incidents generalizing d with
  | nil => exact hne
  | cons incident rest ih =>
    have hstep := continues_befall h incident
    exact ih hstep.linked (Nat.lt_of_lt_of_le hlt hstep.length_le) (hstep.ne_of_ne hlt hne)

/-- **The numbers are the same** just if the registrant was not reassigned since it has an allocator. -/
theorem attached_befallen_iff
    (hattached : ∀ al, d.registry.allocator? k = some al →
      Assoc.get? k d.registry.table = some al.holding)
    (incidents : List Incident) {al : Allocator}
    (hal : (d.befallen incidents).registry.allocator? k = some al) :
    Assoc.get? k (d.befallen incidents).registry.table = some al.holding ↔
      ¬Superseded k d incidents := by
  induction incidents generalizing d with
  | nil => exact iff_of_true (hattached al hal) id
  | cons incident rest ih =>
    have hstep := continues_befall h incident
    rw [Superseded]
    by_cases hlost : d.LosesIn incident k
    · -- the number goes now, and does not come back
      obtain ⟨old, hold⟩ := Option.isSome_iff_exists.1 (isSome_of_losesIn hlost)
      obtain ⟨mid, hmid, hsame⟩ := hstep.allocators k old hold
      obtain ⟨last, hlast, hsame'⟩ := numbered_befallen hstep.linked hmid rest
      obtain rfl : last = al := Option.some.inj (hlast.symm.trans hal)
      have hgone := hstep.gone k old.holding hlost (hattached old hold)
      have hlt := (hstep.linked.allocators k mid hmid).2
      rw [hsame', hsame]
      rw [hsame] at hlt
      exact iff_of_false (detached_befallen hstep.linked hlt hgone rest) fun hnot => hnot (.inl hlost)
    · have hmid : ∀ mid, (d.befall incident).registry.allocator? k = some mid →
          Assoc.get? k (d.befall incident).registry.table = some mid.holding := by
        intro mid hmid
        cases hold : d.registry.allocator? k with
        | none => exact hstep.made k mid hlost hold hmid
        | some old =>
          obtain ⟨mid', hmid', hsame⟩ := hstep.allocators k old hold
          obtain rfl : mid' = mid := Option.some.inj (hmid'.symm.trans hmid)
          rw [hsame]
          exact hstep.stays k old.holding hlost (by rw [hold]; rfl) (hattached old hold)
      rw [or_iff_right hlost]
      exact ih hstep.linked hmid hal

end Run

/-! ### Ids from an allocator -/

/-- The window stays, and holds the id that came from it if the count was not negative. -/
theorem Grants.has_window_iff {d e : Desk} {al : Allocator} {s : Space} {name : String}
    (hg : d.Grants al s name e) (hlt : al.holding < d.registry.holdings.length) :
    ((e.registry.holding al.holding).get s).window.Has
        ((d.registry.holding al.holding).get s).nextId ↔
      0 ≤ ((d.registry.holding al.holding).get s).used := by
  have hself : e.registry.holding al.holding =
      (d.registry.holding al.holding).modify s Reservation.bump := by
    rw [hg.registry]
    exact Registry.holding_modifyHolding_self hlt _
  rw [hself, Both.get_modify_self]
  exact Reservation.has_window_nextId_iff hg.room

/-! ### At every moment -/

/-- The registrant's holding is the allocator's: neither has been reassigned before the allocator was
returned nor since. -/
def NeverSuperseded (k : String) (start : Desk) (before : List Incident) (returned : Desk)
    (since : List Incident) : Prop :=
  ¬Superseded k start before ∧ ¬Superseded k returned since

/-- The holding of a registrant whose number is known. -/
theorem holdingOf?_of_get? {r : Registry} {k : String} {number : Nat}
    (hget : Assoc.get? k r.table = some number) : r.holdingOf? k = some (r.holding number) := by
  rw [Registry.holdingOf?, hget]
  rfl

/-- A call for an allocator is one incident. -/
theorem befall_allocatorFor {d e : Desk} {name sizeA sizeB : Argument} {k : String}
    (hact : allocatorFor name sizeA sizeB d = .ok k e) :
    d.befall (.event (.asked (.allocatorFor name sizeA sizeB))) = e := by
  have hserve : serve (.allocatorFor name sizeA sizeB) d = .ok (.allocator k) e := by
    show (allocatorFor name sizeA sizeB >>= fun x => pure (Reply.allocator x)) d = _
    refine eq_ok_of_ends ?_
    rw [ends_bind]
    unfold Ends
    rw [hact]
    exact ⟨rfl, rfl⟩
  exact after_of_ok hserve

/-- After a call for an allocator there is one. -/
theorem exists_allocator {d e : Desk} (h : d.registry.Linked) {name sizeA sizeB : Argument} {k : String}
    (hact : allocatorFor name sizeA sizeB d = .ok k e) :
    e.registry.Linked ∧ ∃ al, e.registry.allocator? k = some al := by
  obtain ⟨hcontinues, -, ⟨hsome, rfl⟩ | ⟨al, b, hmakes⟩⟩ :=
    (carries_allocatorFor h name sizeA sizeB).of_ok hact
  · exact ⟨h, Option.isSome_iff_exists.1 hsome⟩
  · exact ⟨hcontinues.linked, al, hmakes.allocator⟩

/-- **The number of an allocator that was returned** is the table's just if the registrant was not
reassigned since the allocator was made. -/
theorem attached_since_iff {start e : Desk} (h : start.registry.Linked)
    (hnobody : ∀ k, start.registry.allocator? k = none) (incidents : List Incident)
    {name sizeA sizeB : Argument} {k : String}
    (hact : allocatorFor name sizeA sizeB (start.befallen incidents) = .ok k e) {al : Allocator}
    (hal : e.registry.allocator? k = some al) (more : List Incident) :
    Assoc.get? k (e.befallen more).registry.table = some al.holding ↔
      NeverSuperseded k start incidents e more := by
  have hcall := befall_allocatorFor hact
  have hlinked := (exists_allocator (linked_befallen h incidents) hact).1
  obtain ⟨last, hlast, hnumber⟩ := numbered_befallen hlinked hal more
  -- the call is one of the incidents, and it reassigns nobody who has an allocator
  have hwhole : start.befallen
      (incidents ++ .event (.asked (.allocatorFor name sizeA sizeB)) :: more) = e.befallen more := by
    rw [befallen, List.foldl_append, List.foldl_cons]
    exact congrArg (befallen · more) hcall
  have hrest : Superseded k (start.befallen incidents)
      (.event (.asked (.allocatorFor name sizeA sizeB)) :: more) ↔ Superseded k e more := by
    rw [Superseded, hcall]
    exact or_iff_right id
  have hstart : ∀ other, start.registry.allocator? k = some other →
      Assoc.get? k start.registry.table = some other.holding := by
    intro other hother
    rw [hnobody k] at hother
    cases hother
  have hattached := attached_befallen_iff h hstart _ (hwhole.symm ▸ hlast)
  rw [hwhole, hnumber, superseded_append, not_or] at hattached
  exact hattached.trans (and_congr_right fun _ => not_congr hrest)

/-- **When an allocator and the table agree.** Whatever befalls a registry, holdings being assigned
included: a call for an allocator that returns gives one that has the number of the table, now and at
every later moment, just if the registrant was not reassigned between the making of the allocator and
that moment. As long as this is so, its windows are those of the registrant's holding in the table, and
an id under a new name comes from there. It lies in the window just if the count was not assigned to be
negative. -/
theorem attached_iff (layout : Layout) (passes : Int) (disk : Disk) (incidents : List Incident)
    {name sizeA sizeB : Argument} {k : String} {e : Desk}
    (hact : allocatorFor name sizeA sizeB (chronicle layout passes disk incidents) = .ok k e) :
    ∃ al, e.registry.allocator? k = some al ∧ ∀ more,
      let g := e.befallen more
      let kept := NeverSuperseded k (fresh layout passes disk) incidents e more
      (Assoc.get? k g.registry.table = some al.holding ↔ kept) ∧
      (kept → ∃ h, g.registry.holdingOf? k = some h ∧
        al.bounds g.registry = Space.all.map fun s => (s, (h.get s).window)) ∧
      ∀ key space s id f, space.toSpace = .ok s → g.Unbound k s key →
        allocate k (.text key) space g = .ok id f →
          id = ((g.registry.holding al.holding).get s).nextId ∧
          (kept → ∃ h, f.registry.holdingOf? k = some h ∧
            ((h.get s).window.Has id ↔ 0 ≤ ((g.registry.holding al.holding).get s).used)) := by
  have h := linked_chronicle layout passes disk incidents
  obtain ⟨hlinked, al, hal⟩ := exists_allocator h hact
  refine ⟨al, hal, ?_⟩
  intro more g kept
  have hg : g.registry.Linked := linked_befallen hlinked more
  obtain ⟨last, hlast, hnumber⟩ := numbered_befallen hlinked hal more
  have hattached : Assoc.get? k g.registry.table = some al.holding ↔ kept :=
    attached_since_iff (Registry.linked_fresh layout passes) (fun _ => rfl) incidents hact hal more
  refine ⟨hattached, fun hk => ⟨_, holdingOf?_of_get? (hattached.2 hk), rfl⟩, ?_⟩
  intro key space s id f hspace hnew hid
  obtain ⟨hnext, hgrants⟩ := allocate_of_unbound hg hlast hspace hnew hid
  have hhas := hgrants.has_window_iff (hg.allocators k last hlast).2
  rw [hnumber] at hnext hhas
  refine ⟨hnext, fun hk => ⟨f.registry.holding al.holding, ?_, hnext ▸ hhas⟩⟩
  have htable : Assoc.get? k f.registry.table = some al.holding := by
    rw [hgrants.registry]
    exact hattached.2 hk
  exact holdingOf?_of_get? htable

/-- An allocator is made, and then the window of its holding is moved. -/
def shifted : List Incident :=
  [.event (.asked (.allocatorFor (.text "alpha") .null .null)), .assigned 0 .a (.start 3000)]

/-- As long as nobody is reassigned, allocator and table have the moved window, and the next id is its
first. -/
theorem attached_shifted : ∃ (e : Desk) (al : Allocator) (h : Holding) (f : Desk),
    allocatorFor (.text "alpha") .null .null (chronicle {} 2 {} shifted) = .ok "alpha" e ∧
      e.registry.allocator? "alpha" = some al ∧ e.registry.holdingOf? "alpha" = some h ∧
      h.a = ⟨"alpha", .a, 3000, 64, 0⟩ ∧
      al.bounds e.registry = Space.all.map (fun s => (s, (h.get s).window)) ∧
      allocate "alpha" (.text "x") (.space .a) e = .ok 3000 f := by
  have hreturns : (chronicle {} 2 {} shifted).returns (allocatorFor (.text "alpha") .null .null)
      (fun k e => decide (k = "alpha" ∧
        (e.registry.holdingOf? "alpha").map Both.a = some ⟨"alpha", .a, 3000, 64, 0⟩) &&
          e.returns (allocate "alpha" (.text "x") (.space .a)) fun id _ => decide (id = 3000)) =
      true := by
    decide +kernel
  obtain ⟨k, e, hact, htest⟩ := exists_ok_of_returns hreturns
  rw [Bool.and_eq_true] at htest
  obtain ⟨⟨rfl, hwindow⟩, hallocate⟩ := And.imp_left of_decide_eq_true htest
  obtain ⟨id, f, hid, hsame⟩ := exists_ok_of_returns hallocate
  obtain rfl := of_decide_eq_true hsame
  obtain ⟨al, hal, hlater⟩ := attached_iff {} 2 {} shifted hact
  have hkept : NeverSuperseded "alpha" (fresh {} 2 {}) shifted e [] := by
    refine ⟨?_, id⟩
    rintro (hlost | hlost | hlost)
    · exact hlost
    · exact hlost
    · exact hlost
  obtain ⟨h, hget, hbounds⟩ := (hlater []).2.1 hkept
  have hget : e.registry.holdingOf? "alpha" = some h := hget
  rw [hget] at hwindow
  exact ⟨e, al, h, f, hact, hal, hget, Option.some.inj hwindow, hbounds, hid⟩

/-- An allocator is made, the window of its holding is moved out of the space, and the registrant asks
for its holding. -/
def parted : List Incident :=
  [.event (.asked (.allocatorFor (.text "alpha") .null .null)), .assigned 0 .a (.start 0),
    .event (.asked (.getOrCreate (.text "alpha") .null .null))]

/-- The registrant has its window in the table, the allocator has the one out of the space, and hands
out an id from there. -/
theorem detached_reassigned : ∃ (e : Desk) (al : Allocator) (h : Holding) (f : Desk),
    allocatorFor (.text "alpha") .null .null (chronicle {} 2 {} parted) = .ok "alpha" e ∧
      e.registry.allocator? "alpha" = some al ∧ e.registry.holdingOf? "alpha" = some h ∧
      (h.get .a).window = ⟨2856, 64⟩ ∧
      al.bounds e.registry = [(.a, ⟨0, 64⟩), (.b, (h.get .b).window)] ∧
      allocate "alpha" (.text "x") (.space .a) e = .ok 0 f ∧
      f.registry.holdingOf? "alpha" = some h ∧ ¬(h.get .a).window.Has 0 := by
  have hreturns : (chronicle {} 2 {} parted).returns (allocatorFor (.text "alpha") .null .null)
      (fun k e => decide (k = "alpha") &&
        (e.registry.allocator? "alpha").any fun al => (e.registry.holdingOf? "alpha").any fun h =>
          decide ((h.get .a).window = ⟨2856, 64⟩ ∧
            al.bounds e.registry = [(.a, ⟨0, 64⟩), (.b, (h.get .b).window)]) &&
          e.returns (allocate "alpha" (.text "x") (.space .a)) fun id f =>
            decide (id = 0 ∧ f.registry.holdingOf? "alpha" = some h)) = true := by
    decide +kernel
  obtain ⟨k, e, hact, htest⟩ := exists_ok_of_returns hreturns
  rw [Bool.and_eq_true, decide_eq_true_eq] at htest
  obtain ⟨rfl, htest⟩ := htest
  obtain ⟨al, hal, htest⟩ := (Option.any_eq_true _ _).1 htest
  obtain ⟨h, hget, htest⟩ := (Option.any_eq_true _ _).1 htest
  rw [Bool.and_eq_true, decide_eq_true_eq] at htest
  obtain ⟨⟨hwindow, hbounds⟩, hallocate⟩ := htest
  obtain ⟨id, f, hid, hsame⟩ := exists_ok_of_returns hallocate
  obtain ⟨rfl, hafter⟩ := of_decide_eq_true hsame
  refine ⟨e, al, h, f, hact, hal, hget, hwindow, hbounds, hid, hafter, ?_⟩
  rw [hwindow]
  decide

end Desk

end Allotment
