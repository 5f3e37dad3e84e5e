import Allotment.Proofs.Registry.Invariants
import Allotment.Proofs.Registry.Lifetimes

/-!
# When the ledger has what was promised

A registry counts as opened before its first ledger is written, and a newcomer is in the table before
the ledger is saved. So what a call returns is in the ledger if the call wrote it. If the write fails,
a repeated call finds the registry opened, and the newcomer in the table, and writes nothing.

* `Layout.HasLedger`, `Layout.OnLedger` — there is a ledger; the ledger has the windows of a holding;
* `opens` — **PROVED**: opening either finds the registry opened, or leaves a ledger that says what the
  table says; and if the first ledger cannot be written, the registry is opened all the same;
* `finds` — **PROVED**: a holding is either found in the table, and nothing is written, or placed and
  written; and if it cannot be written, it is in the table all the same;
* `onLedger_iff_of_getOrCreate` — **PROVED**: a holding that is returned is in the ledger if and only if
  its registrant was not in the table before, or it was in the ledger already;
* `written_through_iff` — **PROVED**: all this for every history.
-/

namespace Allotment

namespace Layout

/-- There is a ledger that can be read. -/
def HasLedger (l : Layout) (disk : Disk) : Prop :=
  ∃ bytes, disk.read l.ledgerPath = .ok (some bytes)

/-- The ledger has a registrant with the windows of a holding. -/
def OnLedger (l : Layout) (disk : Disk) (registrant : String) (holding : Holding) : Prop :=
  ∃ stored, Assoc.get? registrant (l.tableAt disk) = some stored ∧
    ∀ s, (stored.get s).start = (holding.get s).start ∧ (stored.get s).size = (holding.get s).size

/-- What the table says is in a ledger that says the same. -/
theorem onLedger_of_table {l : Layout} {disk : Disk} {r : Registry} (htable : l.tableAt disk = r.entries)
    {registrant : String} {number : Nat} (hget : Assoc.get? registrant r.table = some number) :
    l.OnLedger disk registrant (r.holding number) := by
  refine ⟨r.holding number, ?_, fun s => ⟨rfl, rfl⟩⟩
  rw [htable, Registry.get?_entries, hget]
  rfl

end Layout

namespace Desk

variable {d : Desk}

/-! ### Opening -/

/-- How a registry came to be open: it was, and nothing happened, or it has read its ledger, or made
one, that says what the table says. -/
inductive Opened (d e : Desk) : Prop
  | already (opened : d.registry.opened = true) (same : e = d)
  | now (unopened : d.registry.opened = false) (ledger : d.registry.layout.HasLedger e.disk)
      (table : d.registry.layout.tableAt e.disk = e.registry.entries)

/-- Where the first ledger could not be written: the registry counts as opened. -/
structure LeftOpen (d e : Desk) : Prop where
  unopened : d.registry.opened = false
  opened : e.registry.opened = true
  closed : e.registry.closed = false
  missing : d.registry.layout.Placed d.disk → ¬d.registry.layout.HasLedger e.disk

/-- **Opening a registry** ends so. -/
theorem opens (h : d.registry.Lawful) (hl : d.registry.layout.Plain) :
    Ends d openLedger (fun _ e => d.Opened e) (fun f e => f.ofWriting = true → d.LeftOpen e) := by
  cases hclosed : d.registry.closed with
  | true => exact ends_openLedger_of_closed hclosed fun hw => by cases hw
  | false =>
    cases hopen : d.registry.opened with
    | true => exact ends_openLedger_of_open hopen hclosed (.already hopen rfl)
    | false =>
      refine ends_openLedger_of_unopened hopen hclosed ?_ ?_ ?_
      · intro bytes notices hread
        exact .now hopen ⟨bytes, hread⟩ (onward_loaded h hopen hread).2.symm
      · intro notices hread
        have hlawful := (onward_loaded h hopen hread).1.lawful
        have hplain : (d.loaded none).layout.Plain := by rwa [loaded_layout]
        refine (saves_ledger (d := ⟨d.loaded none, d.disk, notices⟩) hlawful).imp ?_ ?_
        · intro _ e hsaved more
          have htable := hsaved.table hplain
          have hledger := hsaved.read hplain
          simp only [loaded_layout] at htable hledger
          exact .now hopen hledger (hsaved.registry.symm ▸ htable)
        · intro f e hfailed _
          have hregistry : e.registry = d.loaded none := hfailed.registry
          refine ⟨hopen, by rw [hregistry, loaded_opened], by rw [hregistry, loaded_closed, hclosed],
            ?_⟩
          rintro hplaced ⟨bytes, hbytes⟩
          have hsame := (hfailed.same hplain (by rwa [loaded_layout])).ledger
          simp only [loaded_layout] at hsame
          rw [hsame, hread] at hbytes
          cases hbytes
      · intro f hread hw
        rw [not_ofWriting_of_read hread] at hw
        cases hw

/-- **There is a ledger after opening** if and only if the registry was not opened before, or there
was one. -/
theorem hasLedger_iff_of_openLedger (h : d.registry.Lawful) (hl : d.registry.layout.Plain) {e : Desk}
    (hact : openLedger d = .ok () e) :
    d.registry.layout.HasLedger e.disk ↔
      d.registry.opened = false ∨ d.registry.layout.HasLedger d.disk := by
  cases (opens h hl).of_ok hact with
  | already opened same =>
    rw [same, opened]
    exact ⟨.inr, fun hor => hor.resolve_left Bool.false_ne_true.symm⟩
  | now unopened ledger table => exact ⟨fun _ => .inl unopened, fun _ => ledger⟩

/-! ### Finding or placing -/

/-- How the holding of a registrant came to be returned: it was in the table, and nothing was written,
or it was placed, and the ledger says what the table says. -/
inductive Found (d e : Desk) (registrant : String) (number : Nat) : Prop
  | again (get : Assoc.get? registrant d.registry.table = some number)
      (registry : e.registry = d.registry) (disk : e.disk = d.disk)
  | placed (new : Assoc.get? registrant d.registry.table = none)
      (get : Assoc.get? registrant e.registry.table = some number)
      (table : d.registry.layout.tableAt e.disk = e.registry.entries)

/-- Where the holding of a newcomer could not be written: it is in the table, but the files are as they
were. -/
structure Unwritten (d e : Desk) (registrant : String) : Prop where
  new : Assoc.get? registrant d.registry.table = none
  get : ∃ number, Assoc.get? registrant e.registry.table = some number
  closed : e.registry.closed = false
  same : d.registry.layout.Placed d.disk → SameFiles d.registry.layout d.disk e.disk

/-- **Finding or placing a holding** ends so. -/
theorem finds (h : d.registry.Lawful) (hl : d.registry.layout.Plain)
    (hopen : d.registry.opened = true) (hclosed : d.registry.closed = false) {registrant : String}
    (hkey : Registrant.IsKey registrant) (sizes : Both Int) :
    Ends d (findHolding registrant sizes) (fun number e => d.Found e registrant number)
      (fun f e => f.ofWriting = true → d.Unwritten e registrant) := by
  cases hget : Assoc.get? registrant d.registry.table with
  | some number =>
    rw [ends_findHolding h hget]
    exact .again hget rfl rfl
  | none =>
    rw [ends_findHolding_of_new hget]
    refine ends_placeHolding h hopen hclosed hkey hget sizes ?_ ?_
    · intro holding notices ho
      refine (saves_ledger (d := ⟨d.registry.issue registrant holding, d.disk, notices⟩)
        ho.lawful).imp ?_ ?_
      · intro _ e hsaved
        refine .placed hget ?_ ?_
        · rw [hsaved.registry]
          exact Assoc.get?_put_self _ _ _
        · rw [hsaved.registry]
          exact hsaved.table hl
      · intro f e hfailed _
        refine ⟨hget, ⟨d.registry.holdings.length, ?_⟩, ?_, fun hplaced => hfailed.same hl hplaced⟩
        · rw [hfailed.registry]
          exact Assoc.get?_put_self _ _ _
        · rw [hfailed.registry]
          exact hclosed
    · intro f notices hf hw
      rw [hf] at hw
      cases hw

/-- **`getOrCreate`** opens the registry, and then finds or places the holding. -/
theorem gets (h : d.registry.Lawful) (hl : d.registry.layout.Plain) (name sizeA sizeB : Argument) :
    Ends d (getOrCreate name sizeA sizeB)
      (fun number e => ∃ registrant between, Registrant.ofArgument name = .ok registrant ∧
        between.registry.layout = d.registry.layout ∧ d.Opened between ∧
        between.Found e registrant number)
      (fun f e => f.ofWriting = true → d.LeftOpen e ∨ ∃ registrant sizes between,
        wanted d.registry.layout name sizeA sizeB = .ok (registrant, sizes) ∧ d.Opened between ∧
        between.Unwritten e registrant) := by
  rw [ends_getOrCreate]
  cases hwanted : wanted d.registry.layout name sizeA sizeB with
  | error f =>
    intro hw
    rw [ofWriting_wanted hwanted] at hw
    cases hw
  | ok want =>
    obtain ⟨registrant, sizes⟩ := want
    obtain ⟨hname, -⟩ := wanted_eq_ok hwanted
    simp only
    refine Ends.imp (Ends.and (follows_openLedger h) (opens h hl)) ?_ fun _ _ hf hw => .inl (hf.2 hw)
    rintro _ e ⟨⟨hturn, hopen, hclosed, -⟩, hopened⟩
    have hlayout := hturn.registry.layout
    refine (finds hturn.registry.lawful (hlayout.symm ▸ hl) hopen hclosed
      (Registrant.isKey_of_ofArgument hname) sizes).imp ?_ ?_
    · exact fun number f hfound => ⟨registrant, e, hname, hlayout, hopened, hfound⟩
    · exact fun f g hunwritten hw => .inr ⟨registrant, sizes, e, rfl, hopened, hunwritten hw⟩

/-- **A holding that is returned is in the ledger** if and only if its registrant was not in the table
before, or it was in the ledger already. -/
theorem onLedger_iff_of_getOrCreate (h : d.registry.Lawful) (hl : d.registry.layout.Plain)
    {name sizeA sizeB : Argument} {number : Nat} {e : Desk}
    (hact : getOrCreate name sizeA sizeB d = .ok number e) :
    ∃ registrant, Registrant.ofArgument name = .ok registrant ∧
      Assoc.get? registrant e.registry.table = some number ∧
      (d.registry.layout.OnLedger e.disk registrant (e.registry.holding number) ↔
        Assoc.get? registrant d.registry.table = none ∨
          d.registry.layout.OnLedger d.disk registrant (e.registry.holding number)) := by
  obtain ⟨registrant, between, hname, hlayout, hopened, hfound⟩ :=
    (gets h hl name sizeA sizeB).of_ok hact
  have hnobody : d.registry.opened = false → Assoc.get? registrant d.registry.table = none := by
    intro hopen
    rw [(h.unopened hopen).1]
    rfl
  refine ⟨registrant, hname, ?_⟩
  cases hfound with
  | again get registry disk =>
    refine ⟨registry.symm ▸ get, ?_⟩
    rw [disk, registry]
    cases hopened with
    | already opened same =>
      subst same
      rw [get]
      exact ⟨.inr, fun hor => hor.resolve_left (Option.some_ne_none number)⟩
    | now unopened ledger table =>
      exact ⟨fun _ => .inl (hnobody unopened), fun _ => Layout.onLedger_of_table table get⟩
  | placed new get table =>
    rw [hlayout] at table
    refine ⟨get, fun _ => .inl ?_, fun _ => Layout.onLedger_of_table table get⟩
    cases hopened with
    | already opened same => exact same ▸ new
    | now unopened ledger table => exact hnobody unopened

/-! ### As long as no write fails -/

/-- Once a steady registry is open, there is a ledger that says what the table says. -/
theorem onLedger_of_steady {d e : Desk} (h : d.Steady) (hturn : Turn True d e)
    (hopen : e.registry.opened = true) :
    d.registry.layout.HasLedger e.disk ∧
      ∀ registrant number, Assoc.get? registrant e.registry.table = some number →
        d.registry.layout.OnLedger e.disk registrant (e.registry.holding number) := by
  obtain ⟨hledger, htable⟩ := (hturn.inStep trivial h.inStep).ledger hopen
  rw [hturn.registry.layout] at hledger htable
  exact ⟨hledger, fun _ _ hget => Layout.onLedger_of_table htable hget⟩

/-- **As soon as the first ledger cannot be written,** opening again finds the registry opened, although
there is no ledger. -/
theorem openLedger_after_failure (h : d.registry.Lawful) (hl : d.registry.layout.Plain) {f : Failure}
    {e : Desk} (hact : openLedger d = .error f e) (hw : f.ofWriting = true) :
    openLedger e = .ok () e ∧
      (d.registry.layout.Placed d.disk → ¬d.registry.layout.HasLedger e.disk) := by
  have hleft := (opens h hl).of_error hact hw
  exact ⟨eq_ok_of_ends (ends_openLedger_of_open hleft.opened hleft.closed ⟨rfl, rfl⟩), hleft.missing⟩

/-- **As soon as a newcomer cannot be written,** asking again finds the newcomer in the table, although
the ledger does not have it. -/
theorem getOrCreate_after_failure (h : d.Steady) (hopen : d.registry.opened = true)
    {name sizeA sizeB : Argument} {f : Failure} {e : Desk}
    (hact : getOrCreate name sizeA sizeB d = .error f e) (hw : f.ofWriting = true) :
    ∃ registrant number, Registrant.ofArgument name = .ok registrant ∧
      getOrCreate name sizeA sizeB e = .ok number { e with
        notices := e.notices ++ [.debug .registry s!"Reusing reservation for '{registrant}'"] } ∧
      ¬d.registry.layout.OnLedger e.disk registrant (e.registry.holding number) := by
  have hends := (gets h.lawful h.inStep.plain name sizeA sizeB).of_error hact hw
  have hlater := (Ends.of_error (follows_getOrCreate h.lawful name sizeA sizeB) hact).registry
  rcases hends with hleft | ⟨registrant, sizes, between, hwanted, hopened, hunwritten⟩
  · rw [hleft.unopened] at hopen
    cases hopen
  cases hopened with
  | now unopened ledger table =>
    rw [unopened] at hopen
    cases hopen
  | already opened same =>
    subst same
    obtain ⟨hname, -⟩ := wanted_eq_ok hwanted
    obtain ⟨number, hget⟩ := hunwritten.get
    refine ⟨registrant, number, hname, ?_, ?_⟩
    · have hagain := getOrCreate_of_mem hlater.lawful hname hget sizeA sizeB
      rw [hlater.layout, hwanted, hunwritten.closed] at hagain
      exact hagain
    · rintro ⟨stored, hstored, -⟩
      rw [(hunwritten.same (h.inStep.placed opened)).tableAt, (h.inStep.ledger opened).2,
        Registry.get?_entries, hunwritten.new] at hstored
      cases hstored

/-! ### Every history -/

/-- **When the ledger has what was promised.** Whatever has happened before: after opening there is a
ledger if and only if the registry was not opened before or there was one; and a holding that is
returned is in the ledger if and only if its registrant was not in the table before or it was in the
ledger already. If no write failed before, both are so; and if a write fails now, the same call returns
although they are not. -/
theorem written_through_iff {layout : Layout} (hl : layout.Plain) (passes : Int) (disk : Disk) :
    (∀ events e, openLedger (history layout passes disk events) = .ok () e →
      (layout.HasLedger e.disk ↔ (history layout passes disk events).registry.opened = false ∨
        layout.HasLedger (history layout passes disk events).disk)) ∧
    (∀ events name sizeA sizeB number e,
      getOrCreate name sizeA sizeB (history layout passes disk events) = .ok number e →
      ∃ registrant, Registrant.ofArgument name = .ok registrant ∧
        Assoc.get? registrant e.registry.table = some number ∧
        (layout.OnLedger e.disk registrant (e.registry.holding number) ↔
          Assoc.get? registrant (history layout passes disk events).registry.table = none ∨
          layout.OnLedger (history layout passes disk events).disk registrant
            (e.registry.holding number))) ∧
    ∀ requests, (fresh layout passes disk).SmoothRun (requests.map .call) →
      let d := (fresh layout passes disk).run requests
      Ends d openLedger (fun _ e => layout.HasLedger e.disk)
        (fun f e => f.ofWriting = true →
          openLedger e = .ok () e ∧ (layout.Placed d.disk → ¬layout.HasLedger e.disk)) ∧
      ∀ name sizeA sizeB, Ends d (getOrCreate name sizeA sizeB)
        (fun number e => ∃ registrant, Registrant.ofArgument name = .ok registrant ∧
          layout.OnLedger e.disk registrant (e.registry.holding number))
        (fun f e => f.ofWriting = true → d.registry.opened = true →
          ∃ registrant number, Registrant.ofArgument name = .ok registrant ∧
            getOrCreate name sizeA sizeB e = .ok number { e with notices := e.notices ++
              [.debug .registry s!"Reusing reservation for '{registrant}'"] } ∧
            ¬layout.OnLedger e.disk registrant (e.registry.holding number)) := by
  refine ⟨?_, ?_, ?_⟩
  · intro events e hact
    have hlayout := layout_history layout passes disk events
    have hiff := hasLedger_iff_of_openLedger (lawful_history layout passes disk events)
      (hlayout.symm ▸ hl) hact
    rwa [hlayout] at hiff
  · intro events name sizeA sizeB number e hact
    have hlayout := layout_history layout passes disk events
    have hiff := onLedger_iff_of_getOrCreate (lawful_history layout passes disk events)
      (hlayout.symm ▸ hl) hact
    rwa [hlayout] at hiff
  · intro requests hsmooth d
    have hsteady : d.Steady := steady_run (steady_fresh hl passes disk) hsmooth
    have hlayout : d.registry.layout = layout :=
      (onward_run (d := fresh layout passes disk) (Registry.lawful_fresh layout passes)
        requests).registry.layout
    generalize d = d at hsteady hlayout
    subst hlayout
    refine ⟨?_, ?_⟩
    · refine ends_of_forall ?_ fun f e hact => openLedger_after_failure hsteady.lawful hl hact
      intro _ e hact
      obtain ⟨hturn, hopen, -⟩ := Ends.of_ok (follows_openLedger hsteady.lawful) hact
      exact (onLedger_of_steady hsteady hturn hopen).1
    · intro name sizeA sizeB
      refine ends_of_forall ?_ fun f e hact hw hopen =>
        getOrCreate_after_failure hsteady hopen hact hw
      intro number e hact
      obtain ⟨hturn, registrant, hname, hget, hopen, -⟩ :=
        Ends.of_ok (follows_getOrCreate hsteady.lawful name sizeA sizeB) hact
      exact ⟨registrant, hname, (onLedger_of_steady hsteady hturn hopen).2 registrant number hget⟩

/-- The first registrant of a new registry is in the ledger. -/
theorem written_through_first :
    ({} : Layout).Plain ∧
      ∃ number e, getOrCreate (.text "alpha") .null .null (fresh {} 2 {}) = .ok number e ∧
        ({} : Layout).OnLedger e.disk "alpha" (e.registry.holding number) := by
  have hplain : ({} : Layout).Plain := Layout.plain_usual _
  have hboth := (written_through_iff hplain 2 {}).2.2 [] trivial
  have hreturns : (fresh {} 2 {}).returns (getOrCreate (.text "alpha") .null .null)
      (fun _ _ => true) = true := by
    decide +kernel
  have hkey : Registrant.ofArgument (.text "alpha") = .ok "alpha" := by decide +kernel
  rw [run_nil] at hboth
  generalize fresh {} 2 {} = d at hboth hreturns ⊢
  obtain ⟨number, e, hact, -, registrant, hname, hledger⟩ :=
    (hboth.2 (.text "alpha") .null .null).of_returns hreturns
  obtain rfl : "alpha" = registrant := Except.ok.inj (hkey.symm.trans hname)
  exact ⟨hplain, number, e, hact, hledger⟩

/-- A disk on which a file stands in the way of all files of a registry. -/
def obstructed : Disk := { nodes := [(["tmp", "work", "config"], .file [])] }

/-- A registry on it, after it has failed to make its ledger and to write a newcomer. -/
def unheeded : Desk :=
  (fresh {} 2 obstructed).run [.openLedger, .getOrCreate (.text "alpha") .null .null]

/-- Both calls that failed return when they are repeated, although there is no ledger. -/
theorem not_written_repeated :
    (fresh {} 2 obstructed).failsWriting .openLedger = true ∧
      ((fresh {} 2 obstructed).after .openLedger).failsWriting
        (.getOrCreate (.text "alpha") .null .null) = true ∧
      openLedger unheeded = .ok () unheeded ∧ ¬({} : Layout).HasLedger unheeded.disk ∧
      ∃ number e, getOrCreate (.text "alpha") .null .null unheeded = .ok number e ∧
        ¬({} : Layout).OnLedger e.disk "alpha" (e.registry.holding number) := by
  have h : unheeded.registry.Lawful :=
    (onward_run (d := fresh {} 2 obstructed) (Registry.lawful_fresh {} 2) _).registry.lawful
  have hopen : unheeded.registry.opened = true ∧ unheeded.registry.closed = false := by
    decide +kernel
  have hlayout : unheeded.registry.layout = {} := by decide +kernel
  have hmissing : unheeded.disk.read ({} : Layout).ledgerPath = .ok none := by decide +kernel
  have hget : Assoc.get? "alpha" unheeded.registry.table = some 0 := by decide +kernel
  have hname : Registrant.ofArgument (.text "alpha") = .ok "alpha" := by decide +kernel
  have hwanted : wanted {} (.text "alpha") .null .null = .ok ("alpha", ⟨64, 256⟩) := by
    decide +kernel
  refine ⟨by decide +kernel, by decide +kernel, ?_⟩
  generalize unheeded = d at h hopen hlayout hmissing hget
  refine ⟨eq_ok_of_ends (ends_openLedger_of_open hopen.1 hopen.2 ⟨rfl, rfl⟩), ?_, ?_⟩
  · rintro ⟨bytes, hbytes⟩
    rw [hmissing] at hbytes
    cases hbytes
  · have hagain := getOrCreate_of_mem h hname hget .null .null
    rw [hlayout, hwanted, hopen.2] at hagain
    refine ⟨0, _, hagain, ?_⟩
    rintro ⟨stored, hstored, -⟩
    simp only [tableAt_of_none hmissing] at hstored
    cases hstored

end Desk

end Allotment
