import Allotment.Proofs.Disk.Frame
import Allotment.Proofs.Placement.Gaps
import Allotment.Proofs.Registry.Invariants
import Allotment.Usage

/-!
# What the usage report promises

The report of the gaps and the placement of a newcomer are two ways to look at the same table: one
sweeps over all windows, the other tries slots and asks of each whether it is free. They agree: a
newcomer is placed just if the report shows a gap that is big enough in each space.

* `Registry.Shows` — the report shows a gap of a size;
* `Registry.ShowsWindow` — a window lies in a single gap of the report;
* `windowsBut_of_new` — **PROVED**: to a newcomer, the windows of the others are all windows;
* `shows_iff_hasRoom`, `showsWindow_of_hasRoom` — **PROVED**: what the report shows is what placement
  looks for;
* `ends_getOrCreate_of_new` — **PROVED**: what becomes of a newcomer in an open registry;
* `placed_iff_shown` — **PROVED**: so at every moment a newcomer is placed just if the report shows
  room, and is refused for the first space that lacks it.
-/

namespace Allotment

namespace Registry

/-- The report shows a gap of at least a size. -/
def Shows (r : Registry) (space : Space) (size : Int) : Prop :=
  ∃ gaps, Usage.gaps r (.space space) = .ok gaps ∧ ∃ gap ∈ gaps, size ≤ gap.size

theorem shows_iff {r : Registry} {space : Space} {size : Int} : r.Shows space size ↔
    ∃ gap ∈ space.zone.gaps ((r.reservationsIn space).map Reservation.window),
      size ≤ gap.size := by
  constructor
  · rintro ⟨gaps, hgaps, hgap⟩
    obtain rfl := Except.ok.inj hgaps
    exact hgap
  · exact fun hgap => ⟨_, rfl, hgap⟩

instance (r : Registry) (space : Space) (size : Int) : Decidable (r.Shows space size) :=
  decidable_of_iff _ shows_iff.symm

/-- A window lies in a single gap of the report. -/
def ShowsWindow (r : Registry) (space : Space) (w : Window) : Prop :=
  ∃ gaps, Usage.gaps r (.space space) = .ok gaps ∧
    ∃ gap ∈ gaps, gap.start ≤ w.start ∧ w.stop ≤ gap.stop

section Newcomer

variable {r : Registry} {registrant : String}
  (hnew : Assoc.get? registrant r.table = none)
include hnew

/-- To a newcomer, the windows of the others are all windows. -/
theorem windowsBut_of_new (space : Space) :
    r.windowsBut registrant space = (r.reservationsIn space).map Reservation.window := by
  have hall : r.entries.filter (fun x => decide (x.1 ≠ registrant)) = r.entries := by
    rw [List.filter_eq_self]
    intro x hx
    refine decide_eq_true ?_
    rintro rfl
    refine Assoc.get?_eq_none_iff.1 hnew ?_
    rw [← keys_entries]
    exact List.mem_map_of_mem hx
  show (r.entries.filter (fun x => decide (x.1 ≠ registrant))).map _ = _
  rw [hall, reservationsIn, List.map_map]
  rfl

/-- **The report shows a gap of a size just if placement finds room.** -/
theorem shows_iff_hasRoom {space : Space} {size : Int} (hpos : 1 ≤ size) :
    r.Shows space size ↔
      ∃ start, Placement.HasRoom space.zone size (r.windowsBut registrant space) start := by
  rw [Placement.exists_hasRoom_iff hpos, windowsBut_of_new hnew, shows_iff]

/-- A window that has room lies in a single gap of the report. -/
theorem showsWindow_of_hasRoom {space : Space} {size start : Int}
    (h : Placement.HasRoom space.zone size (r.windowsBut registrant space) start) :
    r.ShowsWindow space ⟨start, size⟩ := by
  rw [windowsBut_of_new hnew] at h
  obtain ⟨gap, hgap, hstart, hstop⟩ := Zone.exists_gap h
  exact ⟨_, rfl, gap, hgap, hstart, hstop⟩

end Newcomer

end Registry

namespace Desk

/-- The size of a window for a registrant who may ask for one. -/
def grantedSize (space : Space) (size : Option Int) : Int :=
  space.zone.clampSize (size.getD space.zone.defaultSize)

/-- How such a wish is handed in. -/
def wish (size : Option Int) : Argument := size.elim .null .int

theorem requestedSize_wish (space : Space) (size : Option Int) :
    requestedSize space (wish size) = .ok (grantedSize space size) := by
  cases size <;> rfl

theorem wanted_wish {l : Layout} {name : Argument} {registrant : String}
    (hname : Registrant.ofArgument name = .ok registrant) {p : Path}
    (hpath : l.rosterPath registrant = .ok p) (sizeA sizeB : Option Int) :
    wanted l name (wish sizeA) (wish sizeB) =
      .ok (registrant, ⟨grantedSize .a sizeA, grantedSize .b sizeB⟩) := by
  rw [wanted, hname, requestedSize_wish, requestedSize_wish]
  simp only [bind, Except.bind, hpath]
  rfl

/-- A newcomer who is refused a window is refused because the report shows no room. -/
theorem not_shows_of_refusal {r : Registry} {registrant : String}
    (hnew : Assoc.get? registrant r.table = none) {s : Space} {size : Int} (hpos : 1 ≤ size)
    (hspan : size ≤ s.zone.span) {refusal : Placement.Refusal}
    (hplace : Placement.place s.zone r.passes (Placement.codePoints registrant) size
      (r.windowsBut registrant s) = .error refusal) :
    ¬r.Shows s size ∧
      refusal.failure s.zone registrant size = .spaceExhausted registrant s size := by
  obtain ⟨rfl, hnone⟩ := Placement.no_room_of_place_error hpos hspan hplace
  refine ⟨?_, ?_⟩
  · rw [Registry.shows_iff_hasRoom hnew hpos]
    exact fun ⟨start, hroom⟩ => hnone start hroom
  · have hzone : s.zone.span < 50000 := by cases s <;> decide
    have hreadable : Text.Readable size := Text.readable_of_lt (by omega)
    have hmet : (Failure.spaceExhausted registrant s.zone.space size).met =
        .spaceExhausted registrant s.zone.space size :=
      Failure.met_eq_self (List.forall_mem_singleton.2 hreadable)
    rw [Placement.Refusal.failure, hmet, Zone.space_zone]

/-- **What becomes of a newcomer in an open registry** whose ledger can be written: placed where there
is room, or refused for the first space that lacks it. -/
theorem ends_getOrCreate_of_new {d : Desk} (h : d.registry.Lawful) (hopen : d.registry.opened = true)
    (hclosed : d.registry.closed = false) {registrant : String}
    (hnew : Assoc.get? registrant d.registry.table = none)
    (hwrite : (d.disk.replace d.registry.layout.ledgerPath []).1 = .ok ())
    {name sizeA sizeB : Argument} {sizes : Both Int}
    (hwanted : wanted d.registry.layout name sizeA sizeB = .ok (registrant, sizes))
    (hpos : ∀ s, 1 ≤ sizes.get s) (hspan : ∀ s : Space, sizes.get s ≤ s.zone.span) :
    Ends d (getOrCreate name sizeA sizeB)
      (fun number e => number = d.registry.holdings.length ∧ ∃ starts : Both Int,
        (∀ s : Space, Placement.HasRoom s.zone (sizes.get s)
          (d.registry.windowsBut registrant s) (starts.get s)) ∧
        e.registry = d.registry.issue registrant (Registry.newHolding registrant starts sizes))
      (fun f e =>
        (¬d.registry.Shows .a sizes.a ∧ f = .spaceExhausted registrant .a sizes.a ∧ e = d) ∨
        (d.registry.Shows .a sizes.a ∧ ¬d.registry.Shows .b sizes.b ∧
          f = .spaceExhausted registrant .b sizes.b ∧ ∃ notices, e = { d with notices })) := by
  rw [ends_getOrCreate, hwanted]
  refine ends_openLedger_of_open hopen hclosed ?_
  rw [ends_findHolding_of_new hnew]
  refine ends_placeHolding_of_room hclosed ?_ ?_ ?_
  · intro starts notices hroom
    have hkey := Registrant.isKey_of_ofArgument (wanted_eq_ok hwanted).1
    have hissued := (Registry.onward_issue h hopen hkey hnew hroom).lawful
    refine ends_saveLedger_of_writable ?_ ?_ fun disk _ => ⟨rfl, starts, hroom, rfl⟩
    · exact Registry.ledgerText_of_lawful hissued
    · exact hwrite
  · intro refusal hplace
    obtain ⟨hshows, hfailure⟩ := not_shows_of_refusal hnew (hpos .a) (hspan .a) hplace
    exact .inl ⟨hshows, hfailure, rfl⟩
  · intro start refusal notices hroom hplace
    obtain ⟨hshows, hfailure⟩ := not_shows_of_refusal hnew (hpos .b) (hspan .b) hplace
    have hshowsA := (Registry.shows_iff_hasRoom hnew (hpos .a)).2 ⟨start, hroom⟩
    exact .inr ⟨hshowsA, hshows, hfailure, notices, rfl⟩

/-- **A newcomer is placed just if the report shows room,** at every moment at which a registry is open
and its ledger can be written, and whatever sizes are asked for. The windows have the sizes that were
asked for, as far as they fit the spaces, each lies in a single gap of the report, and the table gets
one more entry with nothing handed out. Otherwise the first space that lacks room is named, and
neither the registry nor the disk has changed. -/
theorem placed_iff_shown (layout : Layout) (passes : Int) (disk : Disk) (events : List Event)
    (hopen : (history layout passes disk events).registry.isOpen = true) {name : Argument}
    {registrant : String} (hname : Registrant.ofArgument name = .ok registrant) {p : Path}
    (hpath : layout.rosterPath registrant = .ok p)
    (hnew : registrant ∉ (history layout passes disk events).registry.registrants)
    (hwrite : ((history layout passes disk events).disk.replace layout.ledgerPath []).1 = .ok ())
    (sizeA sizeB : Option Int) :
    let d := history layout passes disk events
    let a := grantedSize .a sizeA
    let b := grantedSize .b sizeB
    let asked := getOrCreate name (wish sizeA) (wish sizeB) d
    ((∃ number e, asked = .ok number e) ↔ d.registry.Shows .a a ∧ d.registry.Shows .b b) ∧
      (∀ number e, asked = .ok number e → ∃ startA startB,
        let h : Holding := ⟨⟨registrant, .a, startA, a, 0⟩, ⟨registrant, .b, startB, b, 0⟩⟩
        d.registry.ShowsWindow .a ⟨startA, a⟩ ∧ d.registry.ShowsWindow .b ⟨startB, b⟩ ∧
          e.registry.holding number = h ∧
          e.registry.entries = d.registry.entries ++ [(registrant, h)]) ∧
      (¬d.registry.Shows .a a → asked = .error (.spaceExhausted registrant .a a) d) ∧
      (d.registry.Shows .a a → ¬d.registry.Shows .b b → ∃ notices,
        asked = .error (.spaceExhausted registrant .b b) { d with notices }) := by
  intro d a b asked
  have h : d.registry.Lawful := lawful_history layout passes disk events
  have hlayout : d.registry.layout = layout := layout_history layout passes disk events
  have hopen : d.registry.opened = true ∧ d.registry.closed = false := by
    rw [Registry.isOpen, Bool.and_eq_true, Bool.not_eq_true'] at hopen
    exact hopen
  have hnew : Assoc.get? registrant d.registry.table = none := Assoc.get?_eq_none_iff.2 hnew
  have hwanted : wanted d.registry.layout name (wish sizeA) (wish sizeB) =
      .ok (registrant, ⟨a, b⟩) :=
    hlayout.symm ▸ wanted_wish hname hpath sizeA sizeB
  have hends : Ends d (getOrCreate name (wish sizeA) (wish sizeB)) _ _ :=
    ends_getOrCreate_of_new h hopen.1 hopen.2 hnew (hlayout.symm ▸ hwrite) hwanted
      (fun s => by cases s <;> exact Zone.one_le_clampSize _ _)
      (fun s => by cases s <;> exact Zone.clampSize_le_span _ _)
  have hpos : 1 ≤ a ∧ 1 ≤ b := ⟨Zone.one_le_clampSize _ _, Zone.one_le_clampSize _ _⟩
  cases hact : asked with
  | ok number e =>
    obtain ⟨hnumber, starts, hroom, hregistry⟩ := hends.of_ok hact
    have hshows : d.registry.Shows .a a ∧ d.registry.Shows .b b :=
      ⟨(Registry.shows_iff_hasRoom hnew hpos.1).2 ⟨_, hroom .a⟩,
        (Registry.shows_iff_hasRoom hnew hpos.2).2 ⟨_, hroom .b⟩⟩
    refine ⟨iff_of_true ⟨number, e, rfl⟩ hshows, ?_, fun hnot => absurd hshows.1 hnot,
      fun _ hnot => absurd hshows.2 hnot⟩
    intro number' e' hsame
    obtain ⟨rfl, rfl⟩ := EStateM.Result.ok.inj hsame
    refine ⟨starts.a, starts.b, Registry.showsWindow_of_hasRoom hnew (hroom .a),
      Registry.showsWindow_of_hasRoom hnew (hroom .b), ?_, ?_⟩
    · rw [hnumber, hregistry, Registry.holding_issue_self]
      rfl
    · rw [hregistry, Registry.entries_issue h.issued hnew]
      rfl
  | error f e =>
    have hfails : ¬∃ number e', EStateM.Result.error (α := Nat) f e = .ok number e' := by
      rintro ⟨number, e', hsame⟩
      cases hsame
    rcases hends.of_error hact with ⟨hnot, rfl, rfl⟩ | ⟨hshows, hnot, rfl, notices, rfl⟩
    · refine ⟨iff_of_false hfails fun hshows => hnot hshows.1, fun _ _ hsame => ?_,
        fun _ => rfl, fun hshows => absurd hshows hnot⟩
      cases hsame
    · refine ⟨iff_of_false hfails fun hboth => hnot hboth.2, fun _ _ hsame => ?_,
        fun hnone => absurd hshows hnone, fun _ _ => ⟨notices, rfl⟩⟩
      cases hsame

/-- A registry in which one registrant has a window of 600 ids in the first space. -/
def halfFull : List Event := [.asked (.getOrCreate (.text "alpha") (.int 600) .null)]

/-- Another registrant may have a small window there, but not one as large as the space. -/
theorem placed_iff_shown_half :
    let d := history {} 2 {} halfFull
    Registrant.ofArgument (.text " Beta") = .ok "beta" ∧
      ({} : Layout).rosterPath "beta" = .ok ⟨.here, ["config", "id", "beta.cfg"]⟩ ∧
      d.registry.isOpen = true ∧ "beta" ∉ d.registry.registrants ∧
      (d.disk.replace ({} : Layout).ledgerPath []).1 = .ok () ∧
      (∃ number e, getOrCreate (.text " Beta") .null (.int (-3)) d = .ok number e) ∧
      getOrCreate (.text " Beta") (.int 90000) .null d = .error (.spaceExhausted "beta" .a 2072) d := by
  intro d
  have hname : Registrant.ofArgument (.text " Beta") = .ok "beta" := by decide +kernel
  have hpath : ({} : Layout).rosterPath "beta" =
      .ok ⟨.here, ["config", "id", "beta.cfg"]⟩ := by
    decide +kernel
  have hopen : (history {} 2 {} halfFull).registry.isOpen = true := by decide +kernel
  have hnew : "beta" ∉ (history {} 2 {} halfFull).registry.registrants := by decide +kernel
  have hwrite : ((history {} 2 {} halfFull).disk.replace ({} : Layout).ledgerPath []).1 =
      .ok () := by
    decide +kernel
  have hsmall : (history {} 2 {} halfFull).registry.Shows .a 64 ∧
      (history {} 2 {} halfFull).registry.Shows .b 1 := by
    decide +kernel
  have hlarge : ¬(history {} 2 {} halfFull).registry.Shows .a 2072 := by decide +kernel
  have hplaced := placed_iff_shown {} 2 {} halfFull hopen hname hpath hnew hwrite
  exact ⟨hname, hpath, hopen, hnew, hwrite, (hplaced none (some (-3))).1.2 hsmall,
    (hplaced (some 90000) none).2.2.1 hlarge⟩

end Desk

end Allotment
