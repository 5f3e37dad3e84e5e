import Allotment.Proofs.Registry.WriteThrough

/-!
# A registry is set up and saved

A program that wants all there is opens a registry and makes the allocator of every registrant in its
table. When it is done it saves the ledger and all rosters.

* `Desk.setUp`, `Desk.saveAll` — the two halves of such a program;
* `Layout.Legible` — the ledger can be read, or is missing, and so can the rosters of everybody in it;
* `Desk.Workable` — what a registry is that was opened and not closed, and has its ledger;
* `ends_allocatorFor_of_mem` — **PROVED**: making the allocator of somebody in the table, taken apart;
* `ends_setUp` — **PROVED**: setting up leaves a workable registry in which everybody has an
  allocator, and where the files are legible it fails only in writing;
* `ends_saveAll` — **PROVED**: saving all of it fails only in writing, and then every file is what the
  registry prints.
-/

namespace Allotment

/-- The roster of a registrant can be read, or is missing. -/
def Layout.LegibleRoster (l : Layout) (disk : Disk) (registrant : String) : Prop :=
  ∃ p bytes, l.rosterPath registrant = .ok p ∧ disk.read p = .ok bytes

/-- The ledger can be read, or is missing, and so can the rosters of everybody in it. -/
structure Layout.Legible (l : Layout) (disk : Disk) : Prop where
  ledger : ∃ bytes, disk.read l.ledgerPath = .ok bytes
  rosters : ∀ k ∈ Assoc.keys (l.tableAt disk), l.LegibleRoster disk k

namespace Desk

/-- Open a registry and make the allocators of everybody in its table. -/
def setUp : Act Unit := do
  openLedger
  (← current).registrants.forM fun registrant => do
    let _ ← allocatorFor (.text registrant) .null .null

/-- Save the ledger and the rosters of everybody in the table. -/
def saveAll : Act Unit := do
  persist
  (← current).registrants.forM saveRoster

/-- A registry that was opened and not closed, and has its ledger. -/
structure Workable (d : Desk) : Prop where
  lawful : d.registry.Lawful
  plain : d.registry.layout.Plain
  opened : d.registry.opened = true
  closed : d.registry.closed = false
  ledger : d.registry.layout.HasLedger d.disk

/-- A path leads to the directory of its files. -/
theorem Workable.placed {d : Desk} (h : d.Workable) : d.registry.layout.Placed d.disk := by
  obtain ⟨bytes, hread⟩ := h.ledger
  exact h.plain.placed hread

/-- The rosters of everybody in the table are legible. -/
def Readable (d : Desk) : Prop :=
  ∀ k ∈ d.registry.registrants, d.registry.layout.LegibleRoster d.disk k

theorem mem_registrants_iff {r : Registry} {k : String} :
    k ∈ r.registrants ↔ ∃ number, Assoc.get? k r.table = some number := by
  rw [← Option.isSome_iff_exists, Option.isSome_iff_ne_none, Registry.registrants, Ne,
    Assoc.get?_eq_none_iff, not_not]

/-! ### Opening -/

/-- A registry that has just read its ledger has everybody in its table whom the ledger names. -/
theorem registrants_loaded {d : Desk} (h : d.registry.Lawful) (hopen : d.registry.opened = false)
    {bytes : Option (List UInt8)} (hread : d.disk.read d.registry.layout.ledgerPath = .ok bytes) :
    (d.loaded bytes).registrants = Assoc.keys (d.registry.layout.tableAt d.disk) := by
  rw [Registry.registrants, ← Registry.keys_entries, (onward_loaded h hopen hread).2]

/-- **A new registry that could be opened is workable.** Where the files are legible, only a write may
fail. -/
theorem ends_openLedger_fresh {layout : Layout} (hl : layout.Plain) (passes : Int) (disk : Disk) :
    Ends (fresh layout passes disk) openLedger
      (fun _ e => e.Workable ∧ e.registry.layout = layout ∧ (layout.Legible disk → e.Readable))
      (fun f _ => layout.Legible disk → f.ofWriting = true) := by
  have h : (fresh layout passes disk).registry.Lawful := Registry.lawful_fresh layout passes
  refine ends_openLedger_of_unopened rfl rfl ?_ ?_ ?_
  · intro bytes notices hread
    obtain ⟨ho, -⟩ := onward_loaded h rfl hread
    refine ⟨⟨ho.lawful, hl, loaded_opened _ _, loaded_closed _ _, ⟨bytes, hread⟩⟩, loaded_layout _ _, ?_⟩
    intro hlegible k hk
    exact hlegible.rosters k (registrants_loaded h rfl hread ▸ hk)
  · intro notices hread
    obtain ⟨ho, -⟩ := onward_loaded h rfl hread
    refine (saves_ledger (d := ⟨_, disk, notices⟩) ho.lawful).imp ?_ fun f _ hfailed _ =>
      hfailed.ofWriting
    rintro _ ⟨r, after, told⟩ hsaved more
    obtain rfl : r = (fresh layout passes disk).loaded none := hsaved.registry
    refine ⟨⟨ho.lawful, hl, loaded_opened _ _, loaded_closed _ _, hsaved.read hl⟩, loaded_layout _ _, ?_⟩
    intro _ k hk
    have hblank := registrants_loaded h rfl hread
    rw [tableAt_of_none hread] at hblank
    have hk : k ∈ ((fresh layout passes disk).loaded none).registrants := hk
    rw [hblank] at hk
    cases hk
  · intro f hread hlegible
    obtain ⟨bytes, hbytes⟩ := hlegible.ledger
    rw [show disk.read layout.ledgerPath = .error f from hread] at hbytes
    cases hbytes

/-! ### Making allocators -/

/-- Somebody whose roster has a path may be asked for by the key, without sizes. -/
theorem wanted_null {l : Layout} {k : String} (hk : Registrant.IsKey k) {p : Path}
    (hp : l.rosterPath k = .ok p) : ∃ sizes, wanted l (.text k) .null .null = .ok (k, sizes) := by
  refine ⟨⟨Space.a.zone.clampSize Space.a.zone.defaultSize,
    Space.b.zone.clampSize Space.b.zone.defaultSize⟩, ?_⟩
  unfold wanted
  rw [Registrant.ofArgument_key hk]
  simp only [bind, Except.bind, hp]
  rfl

/-- Somebody whose roster has no path may not be asked for. -/
theorem wanted_of_no_path {l : Layout} {k : String} (hk : Registrant.IsKey k) {f : Failure}
    (hp : l.rosterPath k = .error f) (sizeA sizeB : Argument) :
    wanted l (.text k) sizeA sizeB = .error f := by
  unfold wanted
  rw [Registrant.ofArgument_key hk]
  simp only [bind, Except.bind, hp]

/-- **Making the allocator of somebody in the table:** there is one, or the roster is read, and the
ledger is saved if the counts move forward. -/
theorem ends_allocatorFor_of_mem {d : Desk} (h : d.registry.Lawful)
    (hclosed : d.registry.closed = false) {k : String} {number : Nat}
    (hget : Assoc.get? k d.registry.table = some number) {Q : String → Desk → Prop}
    {E : Failure → Desk → Prop} (hknown : (d.registry.allocator? k).isSome = true → Q k d)
    (hillegible : ¬d.registry.layout.LegibleRoster d.disk k → ∀ f e, E f e)
    (hcovered : ∀ path bytes, d.registry.layout.rosterPath k = .ok path →
      d.disk.read path = .ok bytes →
      (d.admission number bytes).holding = d.registry.holding number → ∀ notices,
      Q k ⟨d.registry.setAllocator (d.made k number path bytes), d.disk, notices⟩)
    (hmoved : ∀ path bytes, d.registry.layout.rosterPath k = .ok path →
      d.disk.read path = .ok bytes →
      (d.admission number bytes).holding ≠ d.registry.holding number → ∀ notices,
      Ends ⟨d.registry.modifyHolding number fun _ => (d.admission number bytes).holding, d.disk,
        notices⟩ saveLedger
        (fun _ e => Q k { e with registry := e.registry.setAllocator (d.made k number path bytes) })
        E) :
    Ends d (allocatorFor (.text k) .null .null) Q E := by
  have hkey := h.isKey hget
  unfold allocatorFor
  rw [ends_bind, ends_check, Registrant.ofArgument_key hkey]
  simp only
  rw [ends_bind, ends_current]
  cases hal : d.registry.allocator? k with
  | some al => exact hknown (by rw [hal]; rfl)
  | none =>
    simp only
    rw [ends_bind, ends_getOrCreate]
    cases hpath : d.registry.layout.rosterPath k with
    | error f =>
      rw [wanted_of_no_path hkey hpath]
      refine hillegible ?_ f d
      rintro ⟨p, bytes, hp, -⟩
      rw [hpath] at hp
      cases hp
    | ok path =>
      obtain ⟨sizes, hwanted⟩ := wanted_null hkey hpath
      rw [hwanted]
      refine ends_openLedger_of_open (h.opened_of_get? hget) hclosed ?_
      rw [ends_findHolding h hget, ends_bind]
      generalize d.notices ++ _ = notices
      cases hread : d.disk.read path with
      | error f =>
        refine ends_loadAllocator_of_unread (d := ⟨d.registry, d.disk, notices⟩) hpath hread number ?_
        refine hillegible ?_ f _
        rintro ⟨p, bytes, hp, hbytes⟩
        obtain rfl := Except.ok.inj (hpath.symm.trans hp)
        rw [hread] at hbytes
        cases hbytes
      | ok bytes =>
        refine ends_loadAllocator (d := ⟨d.registry, d.disk, notices⟩) hclosed hpath hread ?_ ?_
        · exact fun hsame more => hcovered path bytes hpath hread hsame more
        · exact fun hmove more => hmoved path bytes hpath hread hmove more

theorem isSome_setAllocator {r : Registry} {al : Allocator} {j : String}
    (h : (r.allocator? j).isSome = true) : ((r.setAllocator al).allocator? j).isSome = true := by
  by_cases hj : j = al.registrant
  · subst hj
    rw [r.allocator?_setAllocator_self al]
    rfl
  · rw [r.allocator?_setAllocator_of_ne al hj]
    exact h

/-- What is kept from a registry `d` while it is set up: it stays workable, and nobody loses an
allocator. -/
structure Kept (d e : Desk) : Prop where
  workable : e.Workable
  layout : e.registry.layout = d.registry.layout
  registrants : e.registry.registrants = d.registry.registrants
  readable : d.Readable → e.Readable
  allocators : ∀ k, (d.registry.allocator? k).isSome = true → (e.registry.allocator? k).isSome = true

theorem Kept.refl {d : Desk} (h : d.Workable) : d.Kept d := ⟨h, rfl, rfl, id, fun _ => id⟩

theorem Kept.trans {d e f : Desk} (h : d.Kept e) (h' : e.Kept f) : d.Kept f where
  workable := h'.workable
  layout := h'.layout.trans h.layout
  registrants := h'.registrants.trans h.registrants
  readable := h'.readable ∘ h.readable
  allocators k := h'.allocators k ∘ h.allocators k

/-- What is left of the files and of the other allocators when an allocator is made. -/
theorem Workable.files_allocatorFor {d : Desk} (h : d.Workable) {k : String}
    (hk : k ∈ d.registry.registrants) :
    Ends d (Desk.allocatorFor (.text k) .null .null)
      (fun _ e => e.registry.registrants = d.registry.registrants ∧ e.registry.closed = false ∧
        d.registry.layout.HasLedger e.disk ∧
        (∀ j p, Registrant.IsKey j → d.registry.layout.rosterPath j = .ok p →
          e.disk.read p = d.disk.read p) ∧
        ∀ j, (d.registry.allocator? j).isSome = true → (e.registry.allocator? j).isSome = true)
      (fun f _ => d.Readable → f.ofWriting = true) := by
  obtain ⟨number, hget⟩ := mem_registrants_iff.1 hk
  refine ends_allocatorFor_of_mem h.lawful h.closed hget ?_ ?_ ?_ ?_
  · exact fun _ => ⟨rfl, h.closed, h.ledger, fun _ _ _ _ => rfl, fun _ hj => hj⟩
  · exact fun hnot _ _ hreadable => absurd (hreadable k hk) hnot
  · exact fun _ _ _ _ _ _ => ⟨rfl, h.closed, h.ledger, fun _ _ _ _ => rfl,
      fun _ hj => isSome_setAllocator hj⟩
  · intro path bytes _ _ _ notices
    have ho := Registry.onward_modifyHolding (f := fun _ => (d.admission number bytes).holding)
      h.lawful (Roster.advances_receive _ _)
    refine (saves_ledger (d := ⟨_, d.disk, notices⟩) ho.lawful).imp ?_ fun f _ hfailed _ =>
      hfailed.ofWriting
    intro _ e hsaved
    rw [hsaved.registry]
    exact ⟨rfl, h.closed, hsaved.read h.plain, hsaved.rosters h.plain h.placed,
      fun _ hj => isSome_setAllocator hj⟩

/-- **A workable registry makes an allocator** for anybody in the table. Where the roster is legible,
only a write may fail. -/
theorem Workable.allocatorFor {d : Desk} (h : d.Workable) {k : String}
    (hk : k ∈ d.registry.registrants) :
    Ends d (allocatorFor (.text k) .null .null)
      (fun _ e => d.Kept e ∧ (e.registry.allocator? k).isSome = true)
      (fun f _ => d.Readable → f.ofWriting = true) := by
  have hends := Ends.and (follows_allocatorFor h.lawful _ _ _) (h.files_allocatorFor hk)
  refine hends.imp ?_ fun _ _ hf => hf.2
  rintro found e ⟨⟨hturn, hfound, hsome⟩, hregistrants, hclosed, hledger, hrosters, hothers⟩
  obtain ⟨number, hget⟩ := mem_registrants_iff.1 hk
  rw [Registrant.ofArgument_key (h.lawful.isKey hget)] at hfound
  obtain rfl := Except.ok.inj hfound
  have hlayout := hturn.registry.layout
  refine ⟨⟨⟨hturn.registry.lawful, hlayout.symm ▸ h.plain, hturn.registry.opened h.opened, hclosed,
    hlayout.symm ▸ hledger⟩, hlayout, hregistrants, ?_, hothers⟩, hsome⟩
  intro hreadable j hj
  rw [hregistrants] at hj
  obtain ⟨p, bytes, hp, hbytes⟩ := hreadable j hj
  obtain ⟨other, hother⟩ := mem_registrants_iff.1 hj
  rw [← hrosters j p (h.lawful.isKey hother) hp] at hbytes
  exact ⟨p, bytes, hlayout.symm ▸ hp, hbytes⟩

/-- Everybody in the table has an allocator. -/
def Staffed (d : Desk) : Prop :=
  ∀ k ∈ d.registry.registrants, (d.registry.allocator? k).isSome = true

/-- **A new registry that could be set up** is workable, and everybody has an allocator. Where the files
are legible, only a write may fail. -/
theorem ends_setUp {layout : Layout} (hl : layout.Plain) (passes : Int) (disk : Disk) :
    Ends (fresh layout passes disk) setUp
      (fun _ e => e.Workable ∧ e.registry.layout = layout ∧ e.Staffed)
      (fun f _ => layout.Legible disk → f.ofWriting = true) := by
  unfold setUp
  refine (ends_openLedger_fresh hl passes disk).bind (fun _ _ hf => hf) ?_
  rintro _ d ⟨hd, hlayout, hreadable⟩
  rw [ends_bind, ends_current]
  -- The registrants are those of the table as it was opened: nothing is added to it later.
  refine (ends_forM (I := fun done e => d.Kept e ∧
    ∀ k ∈ done, (e.registry.allocator? k).isSome = true) ?_ ⟨.refl hd, by simp⟩).imp ?_
    fun _ _ hf => hf
  · rintro done k rest e hl' ⟨he, hdone⟩
    have hk : k ∈ e.registry.registrants := by
      rw [he.registrants, hl']
      simp
    rw [ends_bind]
    refine (he.workable.allocatorFor hk).imp ?_ fun f _ hf hlegible =>
      hf (he.readable (hreadable hlegible))
    rintro _ f ⟨hf, hsome⟩
    refine ⟨he.trans hf, ?_⟩
    intro j hj
    rcases List.mem_append.1 hj with hj | hj
    · exact hf.allocators j (hdone j hj)
    · rw [List.mem_singleton.1 hj]
      exact hsome
  · rintro _ e ⟨he, hdone⟩
    refine ⟨he.workable, he.layout.trans hlayout, ?_⟩
    intro k hk
    rw [he.registrants] at hk
    exact hdone k hk

/-! ### Saving all -/

/-- What the files say after the ledger and the rosters of some registrants were saved. -/
structure Printed (d : Desk) (done : List String) (e : Desk) : Prop where
  registry : e.registry = d.registry
  ledger : e.disk.read d.registry.layout.ledgerPath =
    .ok (some (Text.encodeUtf8 (Ledger.write d.registry.ledger)))
  rosters : ∀ k ∈ done, ∀ al, d.registry.allocator? k = some al →
    e.disk.read al.path = .ok (some (Text.encodeUtf8 (al.roster d.registry)))
  others : ∀ k p, Registrant.IsKey k → k ∉ done → d.registry.layout.rosterPath k = .ok p →
    e.disk.read p = d.disk.read p

/-- Another roster is saved. -/
theorem Printed.saveRoster {d e : Desk} (h : d.Workable) {done : List String}
    (hprinted : d.Printed done e) {k : String} {al : Allocator}
    (hal : d.registry.allocator? k = some al) :
    Ends e (saveRoster k) (fun _ f => d.Printed (done ++ [k]) f) (fun f _ => f.ofWriting = true) := by
  obtain ⟨r, disk, notices⟩ := e
  obtain rfl : r = d.registry := hprinted.registry
  have hplaced : d.registry.layout.Placed disk := h.plain.placed hprinted.ledger
  refine (saves_roster (d := ⟨d.registry, disk, notices⟩) h.lawful hal).imp ?_ fun f _ hfailed =>
    hfailed.ofWriting
  intro _ f hsaved
  have hothers := hsaved.rosters h.plain hplaced
  refine ⟨hsaved.registry, ?_, ?_, ?_⟩
  · exact (hsaved.read h.plain hplaced).trans hprinted.ledger
  · intro j hj other hother
    by_cases hjk : j = k
    · subst hjk
      obtain rfl := Option.some.inj (hal.symm.trans hother)
      exact hsaved.written h.plain hplaced
    · have hlawful := h.lawful.allocators j other hother
      have hdone : j ∈ done := by
        rcases List.mem_append.1 hj with hj | hj
        · exact hj
        · exact absurd (List.mem_singleton.1 hj) hjk
      rw [hothers j other.path (h.lawful.isKey hlawful.holding) hjk hlawful.path]
      exact hprinted.rosters j hdone other hother
  · intro j p hj hnot hp
    rw [List.mem_append, List.mem_singleton, not_or] at hnot
    rw [hothers j p hj hnot.2 hp]
    exact hprinted.others j p hj hnot.1 hp

/-- **Saving all** prints every file, unless a write fails. -/
theorem ends_saveAll {d : Desk} (h : d.Workable) (hstaffed : d.Staffed) :
    Ends d saveAll (fun _ e => d.Printed d.registry.registrants e)
      (fun f _ => f.ofWriting = true) := by
  unfold saveAll
  rw [ends_bind]
  refine ends_persist h.closed ?_
  refine (saves_ledger h.lawful).imp ?_ fun f _ hfailed => hfailed.ofWriting
  intro _ e hsaved
  rw [ends_bind, ends_current, hsaved.registry]
  refine ends_forM (I := fun done f => d.Printed done f) ?_ ?_
  · intro done k rest f hnames hprinted
    have hk : k ∈ d.registry.registrants := by
      rw [hnames]
      simp
    obtain ⟨al, hal⟩ := Option.isSome_iff_exists.1 (hstaffed k hk)
    exact hprinted.saveRoster h hal
  · exact ⟨hsaved.registry, hsaved.written h.plain, by simp,
      fun j p hj _ hp => hsaved.rosters h.plain h.placed j p hj hp⟩

end Desk

end Allotment
