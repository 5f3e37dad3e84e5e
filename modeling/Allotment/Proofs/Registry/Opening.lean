import Allotment.Proofs.Registry.Saving

/-!
# Opening

A registry reads the ledger once, when it is opened, and takes over what can be settled. If there is
no ledger it makes one.

* `Desk.loaded` — the registry that has just read its ledger;
* `turn_loaded`, `turn_firstSave` — **PROVED**: with a ledger it is in step at once, without one as
  soon as the new ledger is saved;
* `follows_openLedger` — **PROVED**: opening is a turn, whatever is found on the disk.
-/

namespace Allotment

namespace Desk

theorem not_ofWriting_of_read {disk : Disk} {p : Path} {f : Failure}
    (h : disk.read p = .error f) : f.ofWriting = false := by
  unfold Disk.read at h
  split at h
  · rename_i hlookup
    obtain rfl := Except.error.inj h
    unfold Disk.lookup at hlookup
    split at hlookup
    · cases hlookup
    · split at hlookup
      · cases hlookup
      · obtain rfl := Except.error.inj hlookup
        rfl
      · cases hlookup
  · cases h
  · cases h
  · obtain rfl := Except.error.inj h
    rfl

/-- What a registry is that has just read its ledger. -/
def loaded (d : Desk) (bytes : Option (List UInt8)) : Registry :=
  let readings := Ledger.read (linesOf bytes)
  let settled := Ledger.settle (Ledger.entries readings)
  let source := d.registry.layout.ledgerPath.text
  let found := settled.2.map (Ledger.Finding.issue source)
  { d.registry.adopt settled.1 with
    report := { source, issues := Ledger.issues source readings ++ found }
    opened := true }

section Loaded

variable (d : Desk) (bytes : Option (List UInt8))

@[simp]
theorem loaded_layout : (d.loaded bytes).layout = d.registry.layout := by
  simp only [loaded, Registry.adopt]

@[simp]
theorem loaded_opened : (d.loaded bytes).opened = true := by
  simp only [loaded]

@[simp]
theorem loaded_closed : (d.loaded bytes).closed = d.registry.closed := by
  simp only [loaded, Registry.adopt]

@[simp]
theorem loaded_allocators : (d.loaded bytes).allocators = d.registry.allocators := by
  simp only [loaded, Registry.adopt]

theorem loaded_entries : (d.loaded bytes).entries =
    (Ledger.settle (Ledger.entries (Ledger.read (linesOf bytes)))).1 := by
  rw [loaded]
  exact d.registry.entries_adopt _

theorem loaded_issues : (d.loaded bytes).report.issues =
    Ledger.issues d.registry.layout.ledgerPath.text (Ledger.read (linesOf bytes)) ++
      (Ledger.settle (Ledger.entries (Ledger.read (linesOf bytes)))).2.map
        (Ledger.Finding.issue d.registry.layout.ledgerPath.text) := by
  simp only [loaded]

end Loaded

theorem ends_loadLedger {d : Desk} {Q : PUnit → Desk → Prop} {E : Failure → Desk → Prop}
    (hQ : ∀ bytes notices, d.disk.read d.registry.layout.ledgerPath = .ok bytes →
      Q ⟨⟩ { d with registry := d.loaded bytes, notices })
    (hE : ∀ f, d.disk.read d.registry.layout.ledgerPath = .error f → E f d) :
    Ends d loadLedger Q E := by
  unfold loadLedger
  rw [ends_bind, ends_ledgerPath, ends_bind, ends_readLines]
  cases hread : d.disk.read d.registry.layout.ledgerPath with
  | error f => exact hE f hread
  | ok bytes => exact hQ bytes _ hread

/-- A registry that has just read its ledger has the table that the ledger settles to. -/
theorem onward_loaded {d : Desk} (h : d.registry.Lawful) (hopen : d.registry.opened = false)
    {bytes : Option (List UInt8)} (hread : d.disk.read d.registry.layout.ledgerPath = .ok bytes) :
    d.registry.Onward (d.loaded bytes) ∧
      (d.loaded bytes).entries = d.registry.layout.tableAt d.disk := by
  have hsettled : Ledger.Consistent
      (Ledger.settle (Ledger.entries (Ledger.read (linesOf bytes)))).1 :=
    Ledger.consistent_settle Ledger.parsed_of_mem_entries
  have htable : (d.loaded bytes).entries = d.registry.layout.tableAt d.disk := by
    rw [Layout.tableAt, hread, loaded_entries]
  refine ⟨⟨h.adopt hopen hsettled _, loaded_layout d bytes, fun _ => loaded_opened d bytes,
    ?_, ?_⟩, htable⟩
  · intro registrant number hget
    rw [(h.unopened hopen).1] at hget
    cases hget
  · intro registrant space name id hb
    obtain ⟨al, hal, -⟩ := hb
    rw [Registry.allocator?, (h.unopened hopen).2] at hal
    cases hal

/-- A registry that has just been opened has no allocators yet, so it is in step as soon as its
table is in the ledger. -/
theorem InStep.of_loaded {d e : Desk} (hd : d.InStep) (h : d.registry.Lawful)
    (hopen : d.registry.opened = false) (hlayout : e.registry.layout = d.registry.layout)
    (hall : e.registry.allocators = d.registry.allocators)
    (hread : ∃ bytes, e.disk.read e.registry.layout.ledgerPath = .ok (some bytes))
    (htable : e.registry.layout.tableAt e.disk = e.registry.entries) : e.InStep where
  plain := hlayout.symm ▸ hd.plain
  ledger _ := ⟨hread, htable⟩
  rosters registrant al hal := by
    rw [Registry.allocator?, hall, (h.unopened hopen).2] at hal
    cases hal

/-- A ledger that does not exist settles to nothing. -/
theorem tableAt_of_none {l : Layout} {disk : Disk} (h : disk.read l.ledgerPath = .ok none) :
    l.tableAt disk = [] := by
  rw [Layout.tableAt, h]
  rfl

/-- The table of a new registry is saved if there was no ledger. -/
theorem turn_firstSave {d : Desk} (h : d.registry.Lawful) (hopen : d.registry.opened = false)
    (hnone : d.disk.read d.registry.layout.ledgerPath = .ok none) (notices : List Notice) :
    Ends ⟨d.loaded none, d.disk, notices⟩ saveLedger
      (fun _ e => Turn True d e ∧ e.registry = d.loaded none)
      (fun f e => Turn (f.ofWriting = false) d e) := by
  have ho := (onward_loaded h hopen hnone).1
  have hnow : d.Onward ⟨d.loaded none, d.disk, notices⟩ := .of_registry ho rfl
  have hkeeps : ∀ e, d.registry.layout.Keeps d.disk e :=
    fun e => Layout.keeps_of_empty (tableAt_of_none hnone) e
  have hguards : ∀ e : Desk, d.registry.layout.Plain → ∀ stored, d.Guards stored → e.Guards stored :=
    fun e _ _ hg => hg.of_empty (tableAt_of_none hnone) e
  refine (saves_ledger (d := ⟨d.loaded none, d.disk, notices⟩) ho.lawful).imp ?_ ?_
  · intro _ e hsaved
    have hregistry : e.registry = d.loaded none := hsaved.registry
    refine ⟨⟨hnow.trans hsaved.onward, fun _ => hkeeps _, ?_, hguards e⟩, hregistry⟩
    intro _ hs
    have hplain : (d.loaded none).layout.Plain := ho.layout.symm ▸ hs.plain
    refine hs.of_loaded h hopen (hregistry.symm ▸ ho.layout)
      (hregistry.symm ▸ loaded_allocators d none) ?_ ?_
    · rw [hregistry]
      exact hsaved.read hplain
    · rw [hregistry]
      exact hsaved.table hplain
  · intro f e hfailed
    exact ⟨hnow.trans hfailed.onward, fun _ => hkeeps _, hfailed.not_smooth, hguards e⟩

/-- A registry that finds a ledger is in step at once. -/
theorem turn_loaded {d : Desk} (h : d.registry.Lawful) (hopen : d.registry.opened = false)
    {bytes : List UInt8} (hread : d.disk.read d.registry.layout.ledgerPath = .ok (some bytes))
    (notices : List Notice) : Turn True d ⟨d.loaded (some bytes), d.disk, notices⟩ := by
  obtain ⟨ho, htable⟩ := onward_loaded h hopen hread
  refine ⟨.of_registry ho rfl, fun _ => .refl _, ?_, ?_⟩
  · intro _ hs
    refine hs.of_loaded h hopen ho.layout (loaded_allocators d (some bytes)) ⟨bytes, ?_⟩ ?_
    · rw [ho.layout]
      exact hread
    · rw [ho.layout, htable]
  · intro _ stored hg
    refine ⟨?_, fun _ => ?_⟩
    · rw [ho.layout]
      exact hg.ledger
    · rw [htable]
      exact hg.ledger

/-- A registry that is closed is not opened. -/
theorem ends_openLedger_of_closed {d : Desk} (hclosed : d.registry.closed = true)
    {Q : PUnit → Desk → Prop} {E : Failure → Desk → Prop}
    (h : E (.registryClosed d.registry.layout.ledgerPath.text) d) : Ends d openLedger Q E := by
  unfold openLedger
  rw [ends_bind, ends_ensureWritable, if_pos hclosed]
  exact h

/-- A registry that is open is not opened again. -/
theorem ends_openLedger_of_open {d : Desk} (hopen : d.registry.opened = true)
    (hclosed : d.registry.closed = false) {Q : PUnit → Desk → Prop} {E : Failure → Desk → Prop}
    (h : Q ⟨⟩ d) : Ends d openLedger Q E := by
  unfold openLedger
  rw [ends_bind, ends_ensureWritable, hclosed, ends_bind]
  simp only [Bool.false_eq_true, if_false]
  rw [ends_current, hopen]
  exact h

/-- What `openLedger` leaves, if the registry was not open before: the ledger is read, and made if
there is none. -/
theorem ends_openLedger_of_unopened {d : Desk} (hopen : d.registry.opened = false)
    (hclosed : d.registry.closed = false) {Q : PUnit → Desk → Prop} {E : Failure → Desk → Prop}
    (hfound : ∀ bytes notices, d.disk.read d.registry.layout.ledgerPath = .ok (some bytes) →
      Q ⟨⟩ { d with registry := d.loaded (some bytes), notices })
    (hmissing : ∀ notices, d.disk.read d.registry.layout.ledgerPath = .ok none →
      Ends ⟨d.loaded none, d.disk, notices⟩ saveLedger
        (fun _ e => ∀ more, Q ⟨⟩ { e with notices := e.notices ++ more }) E)
    (hE : ∀ f, d.disk.read d.registry.layout.ledgerPath = .error f → E f d) :
    Ends d openLedger Q E := by
  unfold openLedger
  rw [ends_bind, ends_ensureWritable, hclosed, ends_bind]
  simp only [Bool.false_eq_true, if_false]
  rw [ends_current, hopen]
  simp only [Bool.false_eq_true, if_false]
  rw [ends_bind]
  refine ends_loadLedger ?_ hE
  intro bytes notices hread
  have hhas := Disk.has_of_read hread
  rw [ends_bind, ends_get, ends_bind, ends_check]
  simp only [loaded_layout, hhas]
  cases bytes with
  | none =>
    have hnone : (!(none : Option (List UInt8)).isSome) = true := rfl
    rw [if_pos hnone, ends_bind, ends_tell, ends_bind]
    refine (hmissing _ hread).imp ?_ fun _ _ hf => hf
    intro _ e hsaved
    rw [ends_tell]
    exact hsaved _
  | some bytes =>
    rw [if_neg (by simp)]
    split
    · rw [ends_bind, ends_tell, ends_tell]
      exact hfound bytes _ hread
    · rw [ends_tell]
      exact hfound bytes _ hread

/-- **A registry that finds a ledger can be opened,** and nothing is written. -/
theorem ends_openLedger_of_read {d : Desk} (h : d.registry.Lawful)
    (hclosed : d.registry.closed = false) {bytes : List UInt8}
    (hread : d.disk.read d.registry.layout.ledgerPath = .ok (some bytes))
    {Q : PUnit → Desk → Prop} {E : Failure → Desk → Prop}
    (hQ : ∀ e, Turn True d e → e.disk = d.disk → e.registry.opened = true →
      e.registry.closed = false → Q ⟨⟩ e) : Ends d openLedger Q E := by
  cases hopen : d.registry.opened with
  | true => exact ends_openLedger_of_open hopen hclosed (hQ d (.refl h _) rfl hopen hclosed)
  | false =>
    refine ends_openLedger_of_unopened hopen hclosed ?_ ?_ ?_
    · intro found notices hfound
      exact hQ _ (turn_loaded h hopen hfound notices) rfl (loaded_opened d (some found))
        ((loaded_closed d (some found)).trans hclosed)
    · intro notices hnone
      rw [hread] at hnone
      cases hnone
    · intro f hfailed
      rw [hread] at hfailed
      cases hfailed

/-- **Opening is a turn.** -/
theorem follows_openLedger {d : Desk} (h : d.registry.Lawful) :
    Follows d openLedger fun _ e => e.registry.opened = true ∧ e.registry.closed = false ∧
      e.registry.allocators = d.registry.allocators := by
  cases hclosed : d.registry.closed with
  | true => exact ends_openLedger_of_closed hclosed (.refl h _)
  | false =>
    cases hopen : d.registry.opened with
    | true =>
      exact ends_openLedger_of_open hopen hclosed ⟨.refl h _, hopen, hclosed, rfl⟩
    | false =>
      refine ends_openLedger_of_unopened hopen hclosed ?_ ?_ ?_
      · intro bytes notices hread
        exact ⟨turn_loaded h hopen hread notices, loaded_opened d (some bytes),
          (loaded_closed d (some bytes)).trans hclosed, loaded_allocators d (some bytes)⟩
      · intro notices hread
        refine (turn_firstSave h hopen hread notices).imp ?_ fun _ _ hf => hf
        rintro _ e ⟨hturn, hregistry⟩ more
        refine ⟨hturn.trans (turn_of_notices hturn.registry.lawful _ _), ?_⟩
        rw [hregistry]
        exact ⟨loaded_opened d none, (loaded_closed d none).trans hclosed, loaded_allocators d none⟩
      · intro f hread
        exact .refl h _

end Desk

end Allotment
