import Allotment.Proofs.Registry.Lineage

/-!
# Ids that a roster lists

When an allocator is made, the count is moved forward past the ids that are kept from the roster. An
entry may be discarded because an earlier one has its name, and then nothing is done about its id. So
an id that the roster lists may be handed out again: if it is higher than all ids that are kept.

* `exists_unbound` — **PROVED**: there always is a name that is not bound yet;
* `advances_run`, `ne_of_covers` — **PROVED**: calls for ids only move counts forward, so an id that is
  covered by a count is given to no new name;
* `gives_nextId`, `exists_call_bump`, `exists_given` — **PROVED**: a new name is given the next id, and
  then the count is one higher; so any other id of the window is given to some name, sooner or later;
* `Makes.received`, `Makes.covers_iff`, `Makes.exists_lower` — **PROVED**: an allocator that was made has
  what the roster admits. The count is past the ids that are kept, and an entry that it is not past
  has been discarded because of its name;
* `reissued_iff` — **PROVED**: which of the ids that a roster lists are handed out again;
* `reissued_discarded` — **PROVED**: a roster of which one is.
-/

namespace Allotment

/-! ### Names that are not bound -/

namespace IdName

/-- A name of some length. -/
def plain (n : Nat) : String := String.ofList (List.replicate (n + 1) 'x')

theorem ofArgument_plain (n : Nat) : ofArgument (.text (plain n)) = .ok (plain n) := by
  have hlist : (plain n).toList = List.replicate (n + 1) 'x' := String.toList_ofList
  have hall : ∀ c ∈ List.replicate (n + 1) 'x', c = 'x' := fun c hc => List.eq_of_mem_replicate hc
  have hblank : Text.isBlank 'x' = false := by decide
  have htrim : Text.trim (List.replicate (n + 1) 'x') = List.replicate (n + 1) 'x' := by
    apply Text.trim_eq_self
    · intro c hc
      rw [hall c (List.mem_of_mem_head? hc)]
      exact hblank
    · intro c hc
      rw [hall c (List.mem_of_getLast? hc)]
      exact hblank
  have hflaw : flaw? (plain n).toList = none := by
    rw [hlist, flaw?, htrim, if_neg (by simp)]
    simp [List.replicate_succ]
  rw [ofArgument, ofText, hflaw]
  rfl

/-- No name of a list is longer than some length. -/
theorem exists_length_le (names : List String) : ∃ n, ∀ key ∈ names, key.toList.length ≤ n := by
  induction names with
  | nil => exact ⟨0, by simp⟩
  | cons name rest ih =>
    obtain ⟨n, hn⟩ := ih
    refine ⟨max name.toList.length n, ?_⟩
    intro key hkey
    rcases List.mem_cons.1 hkey with rfl | hkey
    · exact Nat.le_max_left _ _
    · exact Nat.le_trans (hn key hkey) (Nat.le_max_right _ _)

/-- **There always is a name that is not bound yet.** -/
theorem exists_unbound (ids : Roster.NamedIds) :
    ∃ key, ofArgument (.text key) = .ok key ∧ Assoc.get? key ids = none := by
  obtain ⟨n, hn⟩ := exists_length_le (Assoc.keys ids)
  refine ⟨plain n, ofArgument_plain n, ?_⟩
  rw [Assoc.get?_eq_none_iff]
  intro hkey
  have hle := hn _ hkey
  rw [plain, String.toList_ofList, List.length_replicate] at hle
  omega

end IdName

namespace Desk

/-! ### Calls for ids -/

/-- Only ids are asked for. -/
def OnlyIds (requests : List Request) : Prop :=
  ∀ request ∈ requests, ∃ registrant name space, request = .allocate registrant name space

section Calls

variable {d : Desk} (h : d.registry.Linked)
include h

/-- **A call for an id only moves counts forward.** -/
theorem advances_allocate (k : String) (name space : Argument) (number : Nat) :
    (d.registry.holding number).Advances
      ((d.after (.allocate k name space)).registry.holding number) := by
  have hgrants : ∀ al s key e, d.Grants al s key e →
      (d.registry.holding number).Advances (e.registry.holding number) := by
    intro al s key e hg
    have hbump : (d.registry.holding al.holding).Advances
        ((d.registry.holding al.holding).modify s Reservation.bump) :=
      Holding.advances_modify (Reservation.advances_bump hg.room)
    rw [hg.registry]
    exact Registry.advances_modifyHolding (f := fun h => h.modify s Reservation.bump) hbump number
  have hends : Ends d (serve (.allocate k name space))
      (fun _ e => (d.registry.holding number).Advances (e.registry.holding number))
      (fun _ e => (d.registry.holding number).Advances (e.registry.holding number)) := by
    show Ends d (allocate k name space >>= fun id => pure (Reply.id id)) _ _
    rw [ends_bind]
    refine (ends_allocate_linked h k name space).imp ?_ ?_
    · rintro id e ⟨al, s, key, -, ⟨-, rfl⟩ | ⟨-, -, hg⟩⟩
      · exact Holding.Advances.refl _
      · exact hgrants al s key e hg
    · rintro f e (rfl | ⟨al, s, key, -, -, hg⟩)
      · exact Holding.Advances.refl _
      · exact hgrants al s key e hg
  exact hends.left (P := fun e => (d.registry.holding number).Advances (e.registry.holding number))

/-- **And so do many of them.** Numbers in use are those of holdings all the while, and an allocator
keeps its number. -/
theorem advances_run {calls : List Request} (hcalls : OnlyIds calls) {k : String} {al : Allocator}
    (hal : d.registry.allocator? k = some al) :
    (d.run calls).registry.Linked ∧
      (d.registry.holding al.holding).Advances ((d.run calls).registry.holding al.holding) ∧
      ∃ al', (d.run calls).registry.allocator? k = some al' ∧ al'.holding = al.holding := by
  induction calls generalizing d al with
  | nil => exact ⟨h, Holding.Advances.refl _, al, hal, rfl⟩
  | cons call rest ih =>
    obtain ⟨registrant, name, space, rfl⟩ := hcalls _ List.mem_cons_self
    have hstep := continues_after h (.allocate registrant name space)
    obtain ⟨mid, hmid, hsame⟩ := hstep.allocators k al hal
    obtain ⟨hlinked, hadv, last, hlast, hsame'⟩ := ih hstep.linked
      (fun request hrequest => hcalls request (List.mem_cons_of_mem _ hrequest)) hmid
    rw [hsame] at hadv hsame'
    exact ⟨hlinked, (advances_allocate h registrant name space al.holding).trans hadv, last, hlast,
      hsame'⟩

/-- **An id that is covered by the count** is given to no new name. -/
theorem ne_of_covers {calls : List Request} (hcalls : OnlyIds calls) {k : String} {al : Allocator}
    (hal : d.registry.allocator? k = some al) {s : Space} {id : Int}
    (hcovers : ((d.registry.holding al.holding).get s).Covers id) {key : String} {space : Argument}
    (hspace : space.toSpace = .ok s) (hnew : (d.run calls).Unbound k s key) {given : Int} {e : Desk}
    (hact : allocate k (.text key) space (d.run calls) = .ok given e) : given ≠ id := by
  obtain ⟨hlinked, hadv, last, hlast, hsame⟩ := advances_run h hcalls hal
  obtain ⟨rfl, -⟩ := allocate_of_unbound hlinked hlast hspace hnew hact
  rw [hsame]
  rintro rfl
  exact Reservation.not_covers_nextId _ (hcovers.advances (hadv s))

/-- A name that is not bound is given the next id, and bound to it even if a write fails. -/
theorem ends_allocate_unbound (hclosed : d.registry.closed = false) {k : String} {al : Allocator}
    (hal : d.registry.allocator? k = some al) {s : Space}
    (hroom : ((d.registry.holding al.holding).get s).isFull = false) {key : String}
    (hname : IdName.ofArgument (.text key) = .ok key) (hnew : Assoc.get? key (al.ids.get s) = none) :
    Ends d (allocate k (.text key) (.space s))
      (fun id e => id = ((d.registry.holding al.holding).get s).nextId ∧ d.Grants al s key e)
      (fun f e => f.ofWriting = true ∧ d.Grants al s key e) := by
  rw [ends_allocate_of_unbound hal rfl hname hnew]
  refine (ends_grant_linked h hal s key).imp (fun _ _ hg => hg) ?_
  rintro f e (⟨-, hshut | hfull⟩ | hg)
  · cases hclosed.symm.trans hshut
  · cases hroom.symm.trans hfull
  · exact hg

end Calls

/-- An id is given to a new name by the next call, or bound to it at least if a write fails in the
call. -/
def Gives (d : Desk) (k : String) (s : Space) (id : Int) : Prop :=
  ∃ key, d.Unbound k s key ∧ Ends d (allocate k (.text key) (.space s))
    (fun given e => given = id ∧ e.registry.Binds k s key id)
    (fun f e => f.ofWriting = true ∧ e.registry.Binds k s key id)

theorem unbound_of_get? {d : Desk} {k : String} {al : Allocator}
    (hal : d.registry.allocator? k = some al) {s : Space} {key : String}
    (hget : Assoc.get? key (al.ids.get s) = none) : d.Unbound k s key := by
  rintro ⟨id, other, hother, hbound⟩
  obtain rfl : al = other := Option.some.inj (hal.symm.trans hother)
  cases hget.symm.trans hbound

section Given

variable {d : Desk} (h : d.registry.Linked) (hclosed : d.registry.closed = false) {k : String}
  {al : Allocator} (hal : d.registry.allocator? k = some al) {s : Space}
include h hclosed hal

/-- The next id is given to a new name. -/
theorem gives_nextId (hroom : ((d.registry.holding al.holding).get s).isFull = false) :
    d.Gives k s ((d.registry.holding al.holding).get s).nextId := by
  obtain ⟨key, hname, hnew⟩ := IdName.exists_unbound (al.ids.get s)
  have hbinds : ∀ e, d.Grants al s key e →
      e.registry.Binds k s key ((d.registry.holding al.holding).get s).nextId := by
    intro e hg
    rw [hg.registry]
    exact ⟨_, Registry.allocator?_granted_self (h.allocators k al hal).1, Registry.get?_grantee_self⟩
  refine ⟨key, unbound_of_get? hal hnew, ?_⟩
  exact (ends_allocate_unbound h hclosed hal hroom hname hnew).imp
    (fun id e hg => ⟨hg.1, hbinds e hg.2⟩) fun f e hg => ⟨hg.1, hbinds e hg.2⟩

/-- After some call for an id the count is one higher, whatever becomes of the files. -/
theorem exists_call_bump (hroom : ((d.registry.holding al.holding).get s).isFull = false) :
    ∃ key al', let e := d.after (.allocate k (.text key) (.space s))
      e.registry.Linked ∧ e.registry.closed = false ∧ e.registry.allocator? k = some al' ∧
        (e.registry.holding al'.holding).get s =
          ((d.registry.holding al.holding).get s).bump := by
  obtain ⟨key, hname, hnew⟩ := IdName.exists_unbound (al.ids.get s)
  have hends : Ends d (serve (.allocate k (.text key) (.space s)))
      (fun _ e => d.Grants al s key e) (fun _ e => d.Grants al s key e) := by
    show Ends d (allocate k (.text key) (.space s) >>= fun id => pure (Reply.id id)) _ _
    rw [ends_bind]
    exact (ends_allocate_unbound h hclosed hal hroom hname hnew).imp (fun _ _ hg => hg.2)
      fun _ _ hg => hg.2
  have hg : d.Grants al s key (d.after (.allocate k (.text key) (.space s))) :=
    hends.left (P := fun e => d.Grants al s key e)
  have hself : (d.registry.granted al s key).holding al.holding =
      (d.registry.holding al.holding).modify s Reservation.bump :=
    Registry.holding_modifyHolding_self (h.allocators k al hal).2 _
  refine ⟨key, d.registry.grantee al s key, (continues_after h _).linked, ?_, ?_, ?_⟩
  · rw [hg.registry]
    exact hclosed
  · rw [hg.registry]
    exact Registry.allocator?_granted_self (h.allocators k al hal).1
  · rw [hg.registry]
    show ((d.registry.granted al s key).holding al.holding).get s = _
    rw [hself, Both.get_modify_self]

end Given

/-- **Any other id of the window** is given to some new name, sooner or later. -/
theorem exists_given {d : Desk} (h : d.registry.Linked) (hclosed : d.registry.closed = false)
    {k : String} {al : Allocator} (hal : d.registry.allocator? k = some al) {s : Space} (before : Nat)
    (hroom : ((d.registry.holding al.holding).get s).used + before <
      ((d.registry.holding al.holding).get s).size) :
    ∃ calls, OnlyIds calls ∧
      (d.run calls).Gives k s (((d.registry.holding al.holding).get s).nextId + before) := by
  induction before generalizing d al with
  | zero =>
    refine ⟨[], fun _ hmem => (List.not_mem_nil hmem).elim, ?_⟩
    rw [Int.natCast_zero, Int.add_zero]
    exact gives_nextId h hclosed hal (Reservation.isFull_eq_false_iff.2 (by omega))
  | succ before ih =>
    -- a call for a new name moves the count, and the id is one nearer
    obtain ⟨key, al', hlinked, hclosed', hal', hbump⟩ :=
      exists_call_bump h hclosed hal (s := s) (Reservation.isFull_eq_false_iff.2 (by omega))
    have hnext := congrArg (fun r : Reservation => r.nextId) hbump
    have hsize := congrArg (fun r : Reservation => r.size) hbump
    have hused := congrArg (fun r : Reservation => r.used) hbump
    simp only [Reservation.nextId, Reservation.bump] at hnext hsize hused
    obtain ⟨calls, honly, hgives⟩ := ih hlinked hclosed' hal' (by omega)
    refine ⟨.allocate k (.text key) (.space s) :: calls, ?_, ?_⟩
    · intro request hrequest
      rcases List.mem_cons.1 hrequest with rfl | hrequest
      · exact ⟨k, _, _, rfl⟩
      · exact honly request hrequest
    · rw [run_cons]
      have hsame : (((d.after (.allocate k (.text key) (.space s))).registry.holding
          al'.holding).get s).nextId + before =
            ((d.registry.holding al.holding).get s).nextId + (before + 1 : Nat) := by
        rw [Reservation.nextId, Reservation.nextId]
        omega
      exact hsame ▸ hgives

/-- An id of the window that is not covered by the count is given to some new name, sooner or later. -/
theorem exists_given_of_not_covers {d : Desk} (h : d.registry.Linked)
    (hclosed : d.registry.closed = false) {k : String} {al : Allocator}
    (hal : d.registry.allocator? k = some al) {s : Space} {id : Int}
    (hhas : ((d.registry.holding al.holding).get s).window.Has id)
    (hnot : ¬((d.registry.holding al.holding).get s).Covers id) :
    ∃ calls, OnlyIds calls ∧ (d.run calls).Gives k s id := by
  have hlow : ((d.registry.holding al.holding).get s).start ≤ id := hhas.1
  have hhigh : id < ((d.registry.holding al.holding).get s).start +
      ((d.registry.holding al.holding).get s).size := hhas.2
  have hfar : ((d.registry.holding al.holding).get s).nextId ≤ id := by
    by_contra hpast
    exact hnot ⟨hlow, Int.not_le.1 hpast⟩
  obtain ⟨before, hbefore⟩ := Int.le.dest hfar
  have hroom : ((d.registry.holding al.holding).get s).used + before <
      ((d.registry.holding al.holding).get s).size := by
    rw [Reservation.nextId] at hbefore
    omega
  obtain ⟨calls, honly, hgives⟩ := exists_given h hclosed hal before hroom
  exact ⟨calls, honly, hbefore ▸ hgives⟩

/-! ### What a roster lists -/

/-- The count of a holding is past an id before a roster is loaded, or an id is kept from the roster
that is no lower. -/
def Passed (d : Desk) (number : Nat) (s : Space) (kept : Roster.NamedIds) (id : Int) : Prop :=
  ((d.registry.holding number).get s).Covers id ∨ ∃ y ∈ kept, id ≤ y.2

section Made

variable {d b e : Desk} {k : String} {sizeA sizeB : Argument} {al : Allocator}
  (h : d.Makes k sizeA sizeB al b e)
include h

/-- An allocator that was made has what is admitted from the roster, and so has its holding. -/
theorem Makes.received :
    al.ids = (Roster.receive (b.registry.holding al.holding)
        (d.registry.layout.listedAt b.disk k)).ids ∧
      e.registry.holding al.holding = (Roster.receive (b.registry.holding al.holding)
        (d.registry.layout.listedAt b.disk k)).holding := by
  obtain ⟨bytes, hread, hmade, hholding⟩ := h.loads
  have hlisted : d.registry.layout.listedAt b.disk k =
      Roster.entries (Roster.read (linesOf bytes)) := by
    rw [Layout.listedAt, h.path]
    simp only [hread]
  rw [hlisted]
  exact ⟨congrArg Allocator.ids hmade, hholding⟩

/-- Its window stays. -/
theorem Makes.window (s : Space) : ((e.registry.holding al.holding).get s).window =
    ((b.registry.holding al.holding).get s).window := by
  rw [h.received.2]
  exact (Roster.advances_receive _ _ s).window

/-- **The count covers what is passed,** and nothing else of the window. -/
theorem Makes.covers_iff {s : Space} {id : Int}
    (hhas : ((b.registry.holding al.holding).get s).window.Has id) :
    ((e.registry.holding al.holding).get s).Covers id ↔
      b.Passed al.holding s (al.ids.get s) id := by
  rw [h.received.2, Passed, h.received.1]
  exact Roster.covers_receive_iff _ _ hhas.1

/-- **An entry that is not passed** has been discarded because of its name. -/
theorem Makes.exists_lower {s : Space} {x : String × Int}
    (hx : x ∈ Roster.listedIn (d.registry.layout.listedAt b.disk k) s)
    (hhas : ((b.registry.holding al.holding).get s).window.Has x.2)
    (hnot : ¬b.Passed al.holding s (al.ids.get s) x.2) :
    ∃ y ∈ al.ids.get s, y.1 = x.1 ∧ y.2 < x.2 := by
  have hclash := Roster.clashes_admitted [] hx hhas
  rw [← Roster.receive_ids, ← h.received.1] at hclash
  obtain ⟨y, hy, hsame⟩ := List.any_eq_true.1 hclash
  have hlow : y.2 < x.2 := by
    by_contra hhigh
    exact hnot (.inr ⟨y, hy, Int.not_lt.1 hhigh⟩)
  rw [Bool.or_eq_true, decide_eq_true_eq, decide_eq_true_eq] at hsame
  rcases hsame with hname | hid
  · exact ⟨y, hy, hname, hlow⟩
  · omega

end Made

/-- **Which of the ids that a roster lists are handed out again.** Whatever has befallen a registry,
holdings being assigned included: if a call for an allocator makes one, it has read the registrant's
roster. Take any entry of the roster with an id of the window, kept or discarded. If the id is passed,
no later call for an id under a new name returns it. If it is not, then the entry was discarded because
a lower id has its name; and after some calls for ids the next new name is given just this id. -/
theorem reissued_iff (layout : Layout) (passes : Int) (disk : Disk) (incidents : List Incident)
    {name sizeA sizeB : Argument} {k : String} {e : Desk}
    (hnew : (chronicle layout passes disk incidents).registry.allocator? k = none)
    (hact : allocatorFor name sizeA sizeB (chronicle layout passes disk incidents) = .ok k e) :
    ∃ al b, e.registry.allocator? k = some al ∧
      getOrCreate (.text k) sizeA sizeB (chronicle layout passes disk incidents) =
        .ok al.holding b ∧
      ∀ s, ∀ x ∈ Roster.listedIn (layout.listedAt b.disk k) s,
        ((b.registry.holding al.holding).get s).window.Has x.2 →
        (b.Passed al.holding s (al.ids.get s) x.2 →
          ∀ calls, OnlyIds calls → ∀ key space id f, space.toSpace = .ok s →
            (e.run calls).Unbound k s key →
            allocate k (.text key) space (e.run calls) = .ok id f → id ≠ x.2) ∧
        (¬b.Passed al.holding s (al.ids.get s) x.2 →
          (∃ y ∈ al.ids.get s, y.1 = x.1 ∧ y.2 < x.2) ∧
          ∃ calls, OnlyIds calls ∧ (e.run calls).Gives k s x.2) := by
  have h := linked_chronicle layout passes disk incidents
  have hlayout : (chronicle layout passes disk incidents).registry.layout = layout :=
    layout_befallen (Registry.linked_fresh layout passes) incidents
  obtain ⟨hcontinues, -, ⟨hsome, -⟩ | ⟨al, b, hmakes⟩⟩ :=
    (carries_allocatorFor h name sizeA sizeB).of_ok hact
  · rw [hnew] at hsome
    cases hsome
  refine ⟨al, b, hmakes.allocator, hmakes.asked, ?_⟩
  intro s x hx hhas
  have hlinked := hcontinues.linked
  have hcovers := hmakes.covers_iff hhas
  constructor
  · intro hpassed calls honly key space id f hspace hunbound hgiven
    exact ne_of_covers hlinked honly hmakes.allocator (hcovers.2 hpassed) hspace hunbound hgiven
  · intro hnot
    refine ⟨hmakes.exists_lower (hlayout.symm ▸ hx) hhas hnot, ?_⟩
    exact exists_given_of_not_covers hlinked hmakes.closed hmakes.allocator
      ((hmakes.window s).symm ▸ hhas) fun hcovered => hnot (hcovers.1 hcovered)

/-- A new registry that finds a roster of `alpha`. -/
def rostered (lines : List String) : Desk :=
  chronicle {} 2 { nodes := [(["tmp", "work", "config"], .dir), (["tmp", "work", "config", "id"], .dir),
    (["tmp", "work", "config", "id", "alpha.cfg"],
      .file (Text.encodeUtf8 (Text.unlines (lines.map String.toList))))] } []

/-- The lower id comes second in the roster and is discarded. It is passed, for the next call gives the
id behind the higher one; so no call gives the lower one. -/
theorem reissued_passed : ∃ (e f : Desk) (al : Allocator),
    allocatorFor (.text "alpha") .null .null (rostered ["[space_a]", "first=2860", "first=2857"]) =
        .ok "alpha" e ∧
      e.registry.allocator? "alpha" = some al ∧ al.ids.a = [("first", 2860)] ∧
      allocate "alpha" (.text "next") (.space .a) e = .ok 2861 f ∧
      ∀ calls, OnlyIds calls → ∀ key id f, (e.run calls).Unbound "alpha" .a key →
        allocate "alpha" (.text key) (.space .a) (e.run calls) = .ok id f → id ≠ 2857 := by
  have hnew : (rostered ["[space_a]", "first=2860", "first=2857"]).registry.allocator? "alpha" =
      none := rfl
  have hreturns : (rostered ["[space_a]", "first=2860", "first=2857"]).returns
      (allocatorFor (.text "alpha") .null .null) (fun k e => decide (k = "alpha") &&
        (decide ((e.registry.allocator? "alpha").map (fun al => al.ids.a) =
          some [("first", 2860)]) &&
        e.returns (allocate "alpha" (.text "next") (.space .a)) fun id _ => decide (id = 2861))) =
      true := by
    decide +kernel
  have hlisted : (rostered ["[space_a]", "first=2860", "first=2857"]).returns
      (getOrCreate (.text "alpha") .null .null) (fun number b =>
        decide (("first", (2857 : Int)) ∈
            Roster.listedIn (({} : Layout).listedAt b.disk "alpha") .a ∧
          ((b.registry.holding number).get .a).window.Has 2857)) = true := by
    decide +kernel
  obtain ⟨k, e, hact, htest⟩ := exists_ok_of_returns hreturns
  rw [Bool.and_eq_true, Bool.and_eq_true, decide_eq_true_eq, decide_eq_true_eq] at htest
  obtain ⟨rfl, hkept, hallocate⟩ := htest
  obtain ⟨id, f, hnext, hid⟩ := exists_ok_of_returns hallocate
  obtain rfl := of_decide_eq_true hid
  obtain ⟨al, b, hal, hcreate, hall⟩ := reissued_iff {} 2 _ [] hnew hact
  rw [hal] at hkept
  have hkept : al.ids.a = [("first", 2860)] := Option.some.inj hkept
  refine ⟨e, f, al, hact, hal, hkept, hnext, ?_⟩
  rw [returns, rostered, hcreate] at hlisted
  obtain ⟨hmem, hhas⟩ := of_decide_eq_true hlisted
  have hpassed : b.Passed al.holding .a (al.ids.get .a) 2857 := by
    refine .inr ⟨("first", 2860), ?_, by decide⟩
    show _ ∈ al.ids.a
    rw [hkept]
    exact List.mem_singleton.2 rfl
  intro calls honly key id f hunbound hgiven
  exact (hall .a ("first", 2857) hmem hhas).1 hpassed calls honly key (.space .a) id f rfl hunbound
    hgiven

/-- The higher id comes second in the roster and is discarded, and the next call for an id under a new
name gives it. -/
theorem reissued_discarded : ∃ (e : Desk) (al : Allocator) (h : Holding) (f : Desk),
    allocatorFor (.text "alpha") .null .null (rostered ["[space_a]", "first=2856", "first=2857"]) =
        .ok "alpha" e ∧
      e.registry.allocator? "alpha" = some al ∧ e.registry.holdingOf? "alpha" = some h ∧
      (h.get .a).window.Has 2857 ∧
      Roster.listedIn (({} : Layout).listedAt e.disk "alpha") .a =
        [("first", 2856), ("first", 2857)] ∧
      Assoc.get? "next" al.ids.a = none ∧
      allocate "alpha" (.text "next") (.space .a) e = .ok 2857 f := by
  have hreturns : (rostered ["[space_a]", "first=2856", "first=2857"]).returns
      (allocatorFor (.text "alpha") .null .null) (fun k e => decide (k = "alpha") &&
        (e.registry.allocator? "alpha").any fun al => (e.registry.holdingOf? "alpha").any fun h =>
          decide ((h.get .a).window.Has 2857 ∧
            Roster.listedIn (({} : Layout).listedAt e.disk "alpha") .a =
              [("first", 2856), ("first", 2857)] ∧ Assoc.get? "next" al.ids.a = none) &&
          e.returns (allocate "alpha" (.text "next") (.space .a)) fun id _ => decide (id = 2857)) =
      true := by
    decide +kernel
  obtain ⟨k, e, hact, htest⟩ := exists_ok_of_returns hreturns
  rw [Bool.and_eq_true, decide_eq_true_eq] at htest
  obtain ⟨rfl, htest⟩ := htest
  obtain ⟨al, hal, htest⟩ := (Option.any_eq_true _ _).1 htest
  obtain ⟨h, hget, htest⟩ := (Option.any_eq_true _ _).1 htest
  rw [Bool.and_eq_true, decide_eq_true_eq] at htest
  obtain ⟨⟨hhas, hlisted, hunbound⟩, hallocate⟩ := htest
  obtain ⟨id, f, hid, hsame⟩ := exists_ok_of_returns hallocate
  obtain rfl := of_decide_eq_true hsame
  exact ⟨e, al, h, f, hact, hal, hget, hhas, hlisted, hunbound, hid⟩

end Desk

end Allotment
