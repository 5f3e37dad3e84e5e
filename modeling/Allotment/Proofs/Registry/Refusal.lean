import Allotment.Proofs.Disk.Frame
import Allotment.Proofs.Registry.Availability

/-!
# What a refused call leaves

A call for a holding may fail because of what is wanted, because there is no room in the first space
or in the second, or because the ledger cannot be written. Whoever has the number of a holding may
assign its parts, so the table may be anything when the call comes.

* `Desk.assign` — a part of a holding is assigned, and nothing is checked;
* `Desk.Reassigns` — a call finds the registrant's holding unsound, and takes the registrant out of the
  table before it looks for room;
* `Registry.entries_withdraw_ne`, `Registry.entries_issue_ne`, `Registry.entries_reissue_ne` — **PROVED**:
  taking out a registrant changes the table, and so does a new holding, also in place of an unsound one;
* `ends_getOrCreate_refused` — **PROVED**: what is left, for each reason;
* `refused_iff` — **PROVED**: the allocators and the files are as before, and the table is as before just
  if the failure is none of writing and the call reassigns nobody;
* `withdrawn_refused` — **PROVED**: a registrant with an unsound holding who is refused is out of the
  table.
-/

namespace Allotment

namespace Registry

variable {r : Registry} {registrant : String}

/-! ### Changes of the table that can be seen -/

/-- Without a registrant, the table by value is without it. -/
theorem entries_withdraw (r : Registry) (registrant : String) :
    (r.withdraw registrant).entries = Assoc.erase registrant r.entries := by
  show ((Assoc.erase registrant r.table).map _) = Assoc.erase registrant (r.table.map _)
  rw [Assoc.erase, Assoc.erase, List.filter_map]
  rfl

/-- **Taking out a registrant changes the table.** -/
theorem entries_withdraw_ne {number : Nat} (hget : Assoc.get? registrant r.table = some number) :
    (r.withdraw registrant).entries ≠ r.entries := by
  intro hsame
  have hgone : Assoc.get? registrant (r.withdraw registrant).entries = none := by
    rw [entries_withdraw, Assoc.get?_erase_self]
  rw [hsame, get?_entries, hget] at hgone
  cases hgone

/-- What a registrant has after a holding was issued. -/
theorem get?_entries_issue_self (r : Registry) (registrant : String) (holding : Holding) :
    Assoc.get? registrant (r.issue registrant holding).entries = some holding := by
  have hput : Assoc.get? registrant (r.issue registrant holding).table =
      some r.holdings.length := Assoc.get?_put_self _ _ _
  rw [get?_entries, hput]
  exact congrArg some (r.holding_issue_self registrant holding)

/-- **A newcomer changes the table.** -/
theorem entries_issue_ne (hnew : Assoc.get? registrant r.table = none) (holding : Holding) :
    (r.issue registrant holding).entries ≠ r.entries := by
  intro hsame
  have hget := r.get?_entries_issue_self registrant holding
  rw [hsame, get?_entries, hnew] at hget
  cases hget

/-- To a registrant it makes no difference whether it is in the table itself. -/
theorem windowsBut_withdraw (r : Registry) (registrant : String) (s : Space) :
    (r.withdraw registrant).windowsBut registrant s = r.windowsBut registrant s := by
  show (((r.withdraw registrant).entries.filter fun x => decide (x.1 ≠ registrant)).map _) = _
  rw [entries_withdraw, Assoc.erase, List.filter_filter]
  simp only [Bool.and_self]
  rfl

/-- A holding with room in both spaces is sound. -/
theorem isSound_newHolding {starts sizes : Both Int} (hroom : ∀ s : Space,
    Placement.HasRoom s.zone (sizes.get s) (r.windowsBut registrant s) (starts.get s)) :
    r.isSound registrant (newHolding registrant starts sizes) = true := by
  rw [isSound, List.all_eq_true]
  intro s _
  obtain ⟨hcontains, hfree⟩ := hroom s
  rw [get_newHolding, Bool.and_eq_true, List.all_eq_true]
  refine ⟨hcontains, ?_⟩
  intro x hx
  have hapart := Window.isFree_iff.1 hfree _ (List.mem_map_of_mem hx)
  have hover : (Reservation.mk registrant s (starts.get s) (sizes.get s) 0).overlaps (x.2.get s) =
      false := by
    rw [Reservation.overlaps, Bool.and_eq_false_iff]
    exact .inr hapart
  simp only [hover, Bool.not_false]

/-- **A holding in place of an unsound one changes the table.** -/
theorem entries_reissue_ne {number : Nat} (hget : Assoc.get? registrant r.table = some number)
    (hsound : r.isSound registrant (r.holding number) = false) {starts sizes : Both Int}
    (hroom : ∀ s : Space,
      Placement.HasRoom s.zone (sizes.get s) (r.windowsBut registrant s) (starts.get s)) :
    ((r.withdraw registrant).issue registrant (newHolding registrant starts sizes)).entries ≠
      r.entries := by
  intro hsame
  have hnow := (r.withdraw registrant).get?_entries_issue_self registrant
    (newHolding registrant starts sizes)
  rw [hsame, get?_entries, hget] at hnow
  have hholding : r.holding number = newHolding registrant starts sizes := Option.some.inj hnow
  rw [hholding, isSound_newHolding hroom] at hsound
  cases hsound

end Registry

namespace Desk

/-- Whoever has the number of a holding may assign a part of it. -/
def assign (d : Desk) (number : Nat) (s : Space) (field : Reservation.Field) : Desk :=
  { d with registry := d.registry.modifyHolding number fun h =>
      h.modify s fun res => res.assign field }

/-- A call for the holding of a registrant finds it unsound, and places the registrant anew. -/
def Reassigns (d : Desk) (name sizeA sizeB : Argument) (registrant : String) : Prop :=
  ∃ sizes number, wanted d.registry.layout name sizeA sizeB = .ok (registrant, sizes) ∧
    Assoc.get? registrant d.registry.table = some number ∧
    d.registry.isSound registrant (d.registry.holding number) = false

/-! ### Each reason -/

/-- What a call that fails leaves of the registry and the disk in which it began to place. -/
structure NotPlaced (r : Registry) (disk : Disk) (registrant : String) (sizes : Both Int)
    (f : Failure) (e : Desk) : Prop where
  contents : disk.SameContents e.disk
  refused : f.ofWriting = false → e.registry = r ∧ e.disk = disk
  entered : f.ofWriting = true → ∃ starts : Both Int, (∀ s : Space, Placement.HasRoom s.zone
    (sizes.get s) (r.windowsBut registrant s) (starts.get s)) ∧
      e.registry = r.issue registrant (Registry.newHolding registrant starts sizes)

/-- Placing that fails for want of room leaves everything, and if the ledger cannot be written the new
holding is in the table nevertheless. -/
theorem ends_placeHolding_notPlaced {d : Desk} (hclosed : d.registry.closed = false)
    (registrant : String) (sizes : Both Int) :
    Ends d (placeHolding registrant sizes) (fun _ _ => True)
      (fun f e => NotPlaced d.registry d.disk registrant sizes f e) := by
  have hrefused : ∀ (refusal : Placement.Refusal) (z : Zone) (size : Int) notices,
      NotPlaced d.registry d.disk registrant sizes (refusal.failure z registrant size)
        { d with notices } := by
    intro refusal z size notices
    refine ⟨(Disk.Touches.refl [] d.disk).sameContents, fun _ => ⟨rfl, rfl⟩, ?_⟩
    rw [Placement.ofWriting_failure]
    intro hwriting
    cases hwriting
  refine ends_placeHolding_of_room hclosed ?_ ?_ ?_
  · intro starts notices hroom
    refine ends_saveLedger (fun _ _ => trivial) ?_
    intro fault disk f more hfailed hf
    refine ⟨(Disk.touches_store_error hfailed).sameContents, ?_, fun _ => ⟨starts, hroom, rfl⟩⟩
    rw [hf]
    intro hother
    cases hother
  · exact fun refusal _ => hrefused refusal _ _ d.notices
  · exact fun start refusal notices _ _ => hrefused refusal _ _ notices

/-- What a call for a holding leaves when it fails. -/
structure Refused (d : Desk) (name sizeA sizeB : Argument) (f : Failure) (e : Desk) : Prop where
  allocators : e.registry.allocators = d.registry.allocators
  contents : d.disk.SameContents e.disk
  kept : f.ofWriting = false → (¬∃ k, d.Reassigns name sizeA sizeB k) →
    e = { d with notices := e.notices }
  withdrawn : f.ofWriting = false → ∀ k, d.Reassigns name sizeA sizeB k →
    e = ⟨d.registry.withdraw k, d.disk, e.notices⟩
  entered : f.ofWriting = true → e.registry.entries ≠ d.registry.entries

section Refused

variable {d : Desk} {name sizeA sizeB : Argument} {registrant : String} {sizes : Both Int}
  (hwanted : wanted d.registry.layout name sizeA sizeB = .ok (registrant, sizes))
include hwanted

/-- A call reassigns the registrant that it is for, or nobody. -/
theorem Reassigns.eq {k : String} (h : d.Reassigns name sizeA sizeB k) : k = registrant := by
  obtain ⟨sizes', -, hother, -⟩ := h
  rw [hwanted] at hother
  exact (Prod.mk.inj (Except.ok.inj hother)).1.symm

/-- A newcomer for whom placing fails. -/
theorem NotPlaced.refused_of_new (hnew : Assoc.get? registrant d.registry.table = none) {f : Failure}
    {e : Desk} (h : NotPlaced d.registry d.disk registrant sizes f e) :
    d.Refused name sizeA sizeB f e := by
  have hnobody : ¬∃ k, d.Reassigns name sizeA sizeB k := by
    rintro ⟨k, hk⟩
    obtain rfl := Reassigns.eq hwanted hk
    obtain ⟨-, number, -, hget, -⟩ := hk
    rw [hnew] at hget
    cases hget
  cases hf : f.ofWriting with
  | false =>
    obtain ⟨hregistry, hdisk⟩ := h.refused hf
    refine ⟨hregistry ▸ rfl, h.contents, ?_, fun _ k hk => absurd ⟨k, hk⟩ hnobody, ?_⟩
    · intro _ _
      rw [← hregistry, ← hdisk]
    · intro hwriting
      rw [hf] at hwriting
      cases hwriting
  | true =>
    obtain ⟨starts, -, hregistry⟩ := h.entered hf
    refine ⟨hregistry ▸ rfl, h.contents, ?_, fun _ k hk => absurd ⟨k, hk⟩ hnobody, ?_⟩
    · intro hother
      rw [hf] at hother
      cases hother
    · intro _
      rw [hregistry]
      exact Registry.entries_issue_ne hnew _

/-- A registrant with an unsound holding for whom placing fails. -/
theorem NotPlaced.refused_of_unsound {number : Nat}
    (hget : Assoc.get? registrant d.registry.table = some number)
    (hsound : d.registry.isSound registrant (d.registry.holding number) = false) {f : Failure}
    {e : Desk} (h : NotPlaced (d.registry.withdraw registrant) d.disk registrant sizes f e) :
    d.Refused name sizeA sizeB f e := by
  have hreassigns : d.Reassigns name sizeA sizeB registrant := ⟨sizes, number, hwanted, hget, hsound⟩
  cases hf : f.ofWriting with
  | false =>
    obtain ⟨hregistry, hdisk⟩ := h.refused hf
    refine ⟨hregistry ▸ rfl, h.contents, fun _ hnobody => absurd ⟨_, hreassigns⟩ hnobody, ?_, ?_⟩
    · intro _ k hk
      rw [Reassigns.eq hwanted hk, ← hregistry, ← hdisk]
    · intro hwriting
      rw [hf] at hwriting
      cases hwriting
  | true =>
    obtain ⟨starts, hroom, hregistry⟩ := h.entered hf
    refine ⟨hregistry ▸ rfl, h.contents, fun _ hnobody => absurd ⟨_, hreassigns⟩ hnobody, ?_, ?_⟩
    · intro hother
      rw [hf] at hother
      cases hother
    · intro _
      rw [hregistry]
      refine Registry.entries_reissue_ne hget hsound ?_
      intro s
      rw [← Registry.windowsBut_withdraw]
      exact hroom s

end Refused

/-- **What is left when a call fails,** whatever the table holds. -/
theorem ends_getOrCreate_refused {d : Desk} (hopen : d.registry.opened = true)
    (hclosed : d.registry.closed = false) (name sizeA sizeB : Argument) :
    Ends d (getOrCreate name sizeA sizeB) (fun _ _ => True)
      (fun f e => d.Refused name sizeA sizeB f e) := by
  refine ends_getOrCreate_of_open hopen hclosed ?_ ?_
  · intro f hf
    refine ⟨rfl, (Disk.Touches.refl [] d.disk).sameContents, fun _ _ => rfl, ?_, ?_⟩
    · rintro - k ⟨sizes, -, hwanted, -⟩
      rw [hf] at hwanted
      cases hwanted
    · rw [ofWriting_wanted hf]
      intro hwriting
      cases hwriting
  · intro registrant sizes hwanted
    cases hget : Assoc.get? registrant d.registry.table with
    | none =>
      rw [ends_findHolding_of_new hget]
      exact (ends_placeHolding_notPlaced hclosed registrant sizes).imp (fun _ _ _ => trivial)
        fun f e h => h.refused_of_new hwanted hget
    | some number =>
      cases hsound : d.registry.isSound registrant (d.registry.holding number) with
      | true =>
        rw [ends_findHolding_of_sound hget hsound]
        trivial
      | false =>
        refine ends_findHolding_of_unsound hget hsound sizes ?_
        intro notices
        have hnot := ends_placeHolding_notPlaced
          (d := ⟨d.registry.withdraw registrant, d.disk, notices⟩) hclosed registrant sizes
        exact hnot.imp (fun _ _ _ => trivial) fun f e h => h.refused_of_unsound hwanted hget hsound

/-- **When a call that fails leaves everything as it was.** In every open registry, whatever was
assigned to its holdings: the allocators and the files are as before the call. The table is as
before just if the failure is none of writing and the call reassigns nobody, and then nothing but
notices has come about at all. If it reassigns a registrant, this one is out of the table, and that
is all. -/
theorem refused_iff {d : Desk} (hopen : d.registry.isOpen = true) {name sizeA sizeB : Argument}
    {f : Failure} {e : Desk} (hact : getOrCreate name sizeA sizeB d = .error f e) :
    e.registry.allocators = d.registry.allocators ∧ d.disk.SameContents e.disk ∧
      (e.registry.entries = d.registry.entries ↔
        f.ofWriting = false ∧ ¬∃ k, d.Reassigns name sizeA sizeB k) ∧
      (e.registry.entries = d.registry.entries → e = { d with notices := e.notices }) ∧
      (f.ofWriting = false → ∀ k, d.Reassigns name sizeA sizeB k →
        e = ⟨d.registry.withdraw k, d.disk, e.notices⟩) := by
  rw [Registry.isOpen, Bool.and_eq_true, Bool.not_eq_true'] at hopen
  have h := (ends_getOrCreate_refused hopen.1 hopen.2 name sizeA sizeB).of_error hact
  have hiff : e.registry.entries = d.registry.entries ↔
      f.ofWriting = false ∧ ¬∃ k, d.Reassigns name sizeA sizeB k := by
    constructor
    · intro hsame
      have hf : f.ofWriting = false := by
        cases hf : f.ofWriting with
        | false => rfl
        | true => exact absurd hsame (h.entered hf)
      refine ⟨hf, ?_⟩
      rintro ⟨k, hk⟩
      rw [h.withdrawn hf k hk] at hsame
      obtain ⟨-, number, -, hget, -⟩ := hk
      exact Registry.entries_withdraw_ne hget hsame
    · rintro ⟨hf, hnobody⟩
      rw [h.kept hf hnobody]
  refine ⟨h.allocators, h.contents, hiff, ?_, h.withdrawn⟩
  intro hsame
  obtain ⟨hf, hnobody⟩ := hiff.1 hsame
  exact h.kept hf hnobody

/-- A newcomer for whom a space has no room leaves nothing but notices. -/
theorem refused_newcomer :
    let d := history {} 2 {} halfFull
    d.registry.isOpen = true ∧ ∃ e,
      getOrCreate (.text " Beta") (.int 90000) .null d = .error (.spaceExhausted "beta" .a 2072) e ∧
        e = { d with notices := e.notices } := by
  intro d
  have hopen : (history {} 2 {} halfFull).registry.isOpen = true := by decide +kernel
  have hfails : (history {} 2 {} halfFull).fails (getOrCreate (.text " Beta") (.int 90000) .null)
      (fun f e => decide (f = .spaceExhausted "beta" .a 2072 ∧
        e.registry.entries = (history {} 2 {} halfFull).registry.entries)) = true := by
    decide +kernel
  obtain ⟨f, e, hact, htest⟩ := exists_error_of_fails hfails
  obtain ⟨rfl, hsame⟩ := of_decide_eq_true htest
  exact ⟨hopen, e, hact, (refused_iff hopen hact).2.2.2.1 hsame⟩

/-- Two registrants, the first of which has had its window in the first space assigned out of the
space. -/
def displaced : Desk :=
  (history {} 2 {} [.asked (.getOrCreate (.text "alpha") .null .null),
    .asked (.getOrCreate (.text "beta") .null .null)]).assign 0 .a (.start 0)

/-- The one who is displaced asks for more than there is, and is out of the table afterwards, though
no window was given to anybody and the ledger still has the line. -/
theorem withdrawn_refused :
    displaced.registry.isOpen = true ∧ displaced.registry.registrants = ["alpha", "beta"] ∧ ∃ e,
      getOrCreate (.text "alpha") (.int 5000) .null displaced =
        .error (.spaceExhausted "alpha" .a 2072) e ∧
      e.registry.registrants = ["beta"] ∧
      Assoc.keys (e.registry.layout.tableAt e.disk) = ["alpha", "beta"] := by
  have hfails : displaced.fails (getOrCreate (.text "alpha") (.int 5000) .null)
      (fun f e => decide (f = .spaceExhausted "alpha" .a 2072 ∧
        e.registry.registrants = ["beta"] ∧
        Assoc.keys (e.registry.layout.tableAt e.disk) = ["alpha", "beta"])) = true := by
    decide +kernel
  obtain ⟨f, e, hact, htest⟩ := exists_error_of_fails hfails
  obtain ⟨rfl, hafter⟩ := of_decide_eq_true htest
  exact ⟨by decide +kernel, by decide +kernel, e, hact, hafter⟩

end Desk

end Allotment
