import Allotment.Proofs.Disk.Frame
import Allotment.Proofs.Registry.Turn

/-!
# Saving

Each action of a registry is followed from its start to its end, whether it returns a value or fails
on the way. This file begins with the two writes: of the ledger, and of a roster.

* `Desk.Follows` — an action is a turn: a smooth one if it returns a value, or if it fails for
  another reason than a write;
* `LedgerSaved`, `RosterSaved`, `WriteFailed` — what a write leaves behind;
* `ends_saveLedger`, `ends_saveRoster`, `ends_saveRoster_of_none` — **PROVED**: both writes, by the
  outcome on the disk; with `_told`, the failure is told by the fault;
* `ends_saveLedger_of_text`, `ends_saveLedger_of_writable` — **PROVED**: a ledger whose numbers can be
  written fails only with the disk;
* `saves_ledger`, `saves_roster` — **PROVED**: both end so, and never go back;
* `LedgerSaved.guards`, `RosterSaved.guards`, `WriteFailed.guards` — **PROVED**: what is guarded
  before a write is guarded after it;
* `turn_saveLedger` — **PROVED**: saving the ledger is a turn after the table went on;
* `follows_persist`, `follows_saveRoster` — **PROVED**: so is saving what is in step already.
-/

namespace Allotment

namespace Desk

variable {α β : Type}

/-- An action is a turn, and a smooth one unless it fails in writing. -/
def Follows (d : Desk) (act : Act α) (Q : α → Desk → Prop) : Prop :=
  Ends d act (fun x e => Turn True d e ∧ Q x e) (fun f e => Turn (f.ofWriting = false) d e)

theorem Follows.bind {d : Desk} {act : Act β} {next : β → Act α} {Q' : β → Desk → Prop}
    {Q : α → Desk → Prop} (h : Follows d act Q')
    (hnext : ∀ x e, Turn True d e → Q' x e → Follows e (next x) Q) :
    Follows d (act >>= next) Q := by
  refine Ends.bind h (fun _ _ he => he) ?_
  rintro x e ⟨hturn, hx⟩
  exact (hnext x e hturn hx).imp (fun _ _ hf => ⟨hturn.trans hf.1, hf.2⟩) fun _ _ hf => hturn.trans hf

theorem follows_pure {d : Desk} (h : d.registry.Lawful) {x : α} {Q : α → Desk → Prop}
    (hQ : Q x d) : Follows d (pure x) Q :=
  ⟨.refl h _, hQ⟩

/-- A change of the registry alone. -/
theorem Onward.of_registry {d e : Desk} (h : d.registry.Onward e.registry)
    (hdisk : e.disk = d.disk) : d.Onward e :=
  ⟨h, fun _ _ _ _ _ _ hf => hdisk.symm ▸ hf⟩

/-! ### Saving the ledger -/

/-- What goes through of a ledger is what is written of it. -/
theorem replace_of_storeLedger {r : Registry} {disk after : Disk}
    (h : disk.store r.layout.ledgerPath r.ledgerText = (.ok (), after)) :
    disk.replace r.layout.ledgerPath (Text.encodeUtf8 (Ledger.write r.ledger)) = (.ok (), after) :=
  Disk.replace_of_store (fun _ htext => (Registry.ledgerText_eq_some_iff.1 htext).2) h

theorem ends_saveLedger_told {d : Desk} {Q : PUnit → Desk → Prop} {E : Failure → Desk → Prop}
    (hQ : ∀ disk, d.disk.store d.registry.layout.ledgerPath d.registry.ledgerText = (.ok (), disk) →
      Q ⟨⟩ { d with disk })
    (hE : ∀ fault disk notices, d.disk.store d.registry.layout.ledgerPath d.registry.ledgerText =
      (.error fault, disk) →
      E (told .ledger d.registry.layout.ledgerPath fault) { d with disk, notices }) :
    Ends d saveLedger Q E := by
  unfold saveLedger
  rw [ends_bind, ends_current]
  exact ends_save_told hQ hE

theorem ends_saveLedger {d : Desk} {Q : PUnit → Desk → Prop} {E : Failure → Desk → Prop}
    (hQ : ∀ disk, d.disk.replace d.registry.layout.ledgerPath
      (Text.encodeUtf8 (Ledger.write d.registry.ledger)) = (.ok (), disk) → Q ⟨⟩ { d with disk })
    (hE : ∀ fault disk f notices, d.disk.store d.registry.layout.ledgerPath d.registry.ledgerText =
      (.error fault, disk) → f.ofWriting = true → E f { d with disk, notices }) :
    Ends d saveLedger Q E :=
  ends_saveLedger_told (fun disk hwrite => hQ disk (replace_of_storeLedger hwrite))
    fun fault disk notices hwrite => hE fault disk _ notices hwrite (ofWriting_told _ _ fault)

/-- If the ledger has a text, only the disk is at fault when it is not saved. -/
theorem ends_saveLedger_of_text {d : Desk}
    (htext : d.registry.ledgerText = some (Ledger.write d.registry.ledger))
    {Q : PUnit → Desk → Prop} {E : Failure → Desk → Prop}
    (hQ : ∀ disk, d.disk.replace d.registry.layout.ledgerPath
      (Text.encodeUtf8 (Ledger.write d.registry.ledger)) = (.ok (), disk) → Q ⟨⟩ { d with disk })
    (hE : ∀ fault disk f notices, d.disk.replace d.registry.layout.ledgerPath
      (Text.encodeUtf8 (Ledger.write d.registry.ledger)) = (.error fault, disk) →
      f.ofWriting = true → E f { d with disk, notices }) :
    Ends d saveLedger Q E := by
  refine ends_saveLedger hQ fun fault disk f notices hfailed => hE fault disk f notices ?_
  rwa [htext, Disk.store_some] at hfailed

/-- Where any bytes can be written in its place besides, saving it cannot fail. -/
theorem ends_saveLedger_of_writable {d : Desk}
    (htext : d.registry.ledgerText = some (Ledger.write d.registry.ledger))
    (hwrite : (d.disk.replace d.registry.layout.ledgerPath []).1 = .ok ())
    {Q : PUnit → Desk → Prop} {E : Failure → Desk → Prop}
    (hQ : ∀ disk, d.disk.replace d.registry.layout.ledgerPath
      (Text.encodeUtf8 (Ledger.write d.registry.ledger)) = (.ok (), disk) → Q ⟨⟩ { d with disk }) :
    Ends d saveLedger Q E := by
  refine ends_saveLedger_of_text htext hQ ?_
  intro fault disk f notices hfailed _
  have hresult := Disk.result_replace d.disk d.registry.layout.ledgerPath []
    (Text.encodeUtf8 (Ledger.write d.registry.ledger))
  rw [hwrite, hfailed] at hresult
  cases hresult

theorem ledgerPath_eq_child {l : Layout} (hl : l.Plain) : ∃ name, l.ledgerPath = l.dir.child name :=
  ⟨l.ledgerName, hl.ledgerPath⟩

/-- What a write of the ledger leaves: the ledger says what the table says, the rosters are as they
were. -/
structure LedgerSaved (d e : Desk) : Prop where
  registry : e.registry = d.registry
  onward : d.Onward e
  written : d.registry.layout.Plain → e.disk.read d.registry.layout.ledgerPath =
    .ok (some (Text.encodeUtf8 (Ledger.write d.registry.ledger)))
  table : d.registry.layout.Plain → d.registry.layout.tableAt e.disk = d.registry.entries
  rosters : d.registry.layout.Plain → d.registry.layout.Placed d.disk → ∀ k p, Registrant.IsKey k →
    d.registry.layout.rosterPath k = .ok p → e.disk.read p = d.disk.read p

theorem LedgerSaved.read {d e : Desk} (h : LedgerSaved d e) (hl : d.registry.layout.Plain) :
    ∃ bytes, e.disk.read d.registry.layout.ledgerPath = .ok (some bytes) :=
  ⟨_, h.written hl⟩

theorem LedgerSaved.listed {d e : Desk} (h : LedgerSaved d e) (hl : d.registry.layout.Plain)
    (hplaced : d.registry.layout.Placed d.disk) (k : String) (hk : Registrant.IsKey k) :
    d.registry.layout.listedAt e.disk k = d.registry.layout.listedAt d.disk k :=
  listedAt_congr fun p hp => h.rosters hl hplaced k p hk hp

/-- What a write of a roster leaves: the roster lists the ids of the allocator, the other files are
as they were. -/
structure RosterSaved (d e : Desk) (registrant : String) (al : Allocator) : Prop where
  registry : e.registry = d.registry
  onward : d.Onward e
  read : d.registry.layout.Plain → d.registry.layout.Placed d.disk →
    e.disk.read d.registry.layout.ledgerPath = d.disk.read d.registry.layout.ledgerPath
  rosters : d.registry.layout.Plain → d.registry.layout.Placed d.disk → ∀ k p,
    Registrant.IsKey k → k ≠ registrant → d.registry.layout.rosterPath k = .ok p →
    e.disk.read p = d.disk.read p
  written : d.registry.layout.Plain → d.registry.layout.Placed d.disk →
    e.disk.read al.path = .ok (some (Text.encodeUtf8 (al.roster d.registry)))
  own : d.registry.layout.Plain → d.registry.layout.Placed d.disk → ∀ s,
    Roster.listedIn (d.registry.layout.listedAt e.disk registrant) s =
      Roster.inOrder (al.ids.get s)

theorem RosterSaved.listed {d e : Desk} {registrant : String} {al : Allocator}
    (h : RosterSaved d e registrant al) (hl : d.registry.layout.Plain)
    (hplaced : d.registry.layout.Placed d.disk) (k : String) (hk : Registrant.IsKey k)
    (hne : k ≠ registrant) :
    d.registry.layout.listedAt e.disk k = d.registry.layout.listedAt d.disk k :=
  listedAt_congr fun p hp => h.rosters hl hplaced k p hk hne hp

/-- What a failed write leaves: all files are as they were. -/
structure WriteFailed (d e : Desk) (f : Failure) : Prop where
  registry : e.registry = d.registry
  onward : d.Onward e
  ofWriting : f.ofWriting = true
  same : d.registry.layout.Plain → d.registry.layout.Placed d.disk →
    SameFiles d.registry.layout d.disk e.disk

/-- Only a smooth turn leaves a desk in step, and a failed write is none. -/
theorem WriteFailed.not_smooth {d e : Desk} {f : Failure} (h : WriteFailed d e f) {P : Prop}
    (hsmooth : f.ofWriting = false) : P := by
  rw [h.ofWriting] at hsmooth
  cases hsmooth

/-! ### What is guarded stays so -/

section Guards

variable {d e : Desk} {stored : List (String × Holding)}

/-- What an opened registry guards is in the ledger that it writes. -/
theorem LedgerSaved.guards (hsaved : LedgerSaved d e) (hopen : d.registry.opened = true)
    (hl : d.registry.layout.Plain) (hg : d.Guards stored) : e.Guards stored := by
  refine hg.onward hopen hsaved.onward.registry ?_
  rw [hsaved.table hl]
  exact hg.table hopen

theorem RosterSaved.guards {registrant : String} {al : Allocator}
    (hsaved : RosterSaved d e registrant al) (hl : d.registry.layout.Plain)
    (hg : d.Guards stored) : e.Guards stored := by
  by_cases hplaced : d.registry.layout.Placed d.disk
  · refine hg.of_tableAt hsaved.registry ?_
    rw [Layout.tableAt, Layout.tableAt, hsaved.read hl hplaced]
  · exact hg.of_empty (hl.tableAt_of_not_placed hplaced) e

theorem WriteFailed.guards {f : Failure} (hfailed : WriteFailed d e f)
    (hl : d.registry.layout.Plain) (hg : d.Guards stored) : e.Guards stored := by
  by_cases hplaced : d.registry.layout.Placed d.disk
  · exact hg.of_tableAt hfailed.registry (hfailed.same hl hplaced).tableAt
  · exact hg.of_empty (hl.tableAt_of_not_placed hplaced) e

end Guards

/-- **Saving the ledger** ends so. -/
theorem saves_ledger {d : Desk} (h : d.registry.Lawful) :
    Ends d saveLedger (fun _ e => LedgerSaved d e) (fun f e => WriteFailed d e f) := by
  refine ends_saveLedger ?_ ?_
  · intro disk hwrite
    exact ⟨rfl, onward_of_savedLedger h hwrite,
      fun hl => (read_of_savedLedger hl hwrite).1,
      fun hl => Registry.tableAt_of_saved h hl hwrite,
      fun hl => (read_of_savedLedger hl hwrite).2⟩
  · intro fault disk f notices hwrite hf
    refine ⟨rfl, onward_of_failed h ledgerPath_eq_child hwrite notices, hf, ?_⟩
    intro hl hplaced
    rw [hl.ledgerPath] at hwrite
    exact sameFiles_of_failed hl hplaced hwrite

/-! ### Saving a roster -/

/-- What goes through of a roster is what is written of it. -/
theorem replace_of_storeRoster {al : Allocator} {r : Registry} {disk after : Disk}
    (h : disk.store al.path (al.rosterText r) = (.ok (), after)) :
    disk.replace al.path (Text.encodeUtf8 (al.roster r)) = (.ok (), after) :=
  Disk.replace_of_store (fun _ htext => (Registry.rosterText_eq_some_iff.1 htext).2) h

theorem ends_saveRoster_told {d : Desk} {registrant : String} {al : Allocator}
    (hal : d.registry.allocator? registrant = some al) {Q : PUnit → Desk → Prop}
    {E : Failure → Desk → Prop}
    (hQ : ∀ disk, d.disk.store al.path (al.rosterText d.registry) = (.ok (), disk) →
      Q ⟨⟩ { d with disk })
    (hE : ∀ fault disk notices, d.disk.store al.path (al.rosterText d.registry) =
      (.error fault, disk) → E (told .roster al.path fault) { d with disk, notices }) :
    Ends d (saveRoster registrant) Q E := by
  unfold saveRoster allocator
  rw [ends_bind, ends_bind, ends_current, hal]
  simp only
  rw [ends_pure, ends_bind, ends_current]
  exact ends_save_told hQ hE

theorem ends_saveRoster {d : Desk} {registrant : String} {al : Allocator}
    (hal : d.registry.allocator? registrant = some al) {Q : PUnit → Desk → Prop}
    {E : Failure → Desk → Prop}
    (hQ : ∀ disk, d.disk.replace al.path (Text.encodeUtf8 (al.roster d.registry)) = (.ok (), disk) →
      Q ⟨⟩ { d with disk })
    (hE : ∀ fault disk f notices, d.disk.store al.path (al.rosterText d.registry) =
      (.error fault, disk) → f.ofWriting = true → E f { d with disk, notices }) :
    Ends d (saveRoster registrant) Q E :=
  ends_saveRoster_told hal (fun disk hwrite => hQ disk (replace_of_storeRoster hwrite))
    fun fault disk notices hwrite => hE fault disk _ notices hwrite (ofWriting_told _ _ fault)

/-- Without an allocator there is no roster to save. -/
theorem ends_saveRoster_of_none {d : Desk} {registrant : String}
    (hal : d.registry.allocator? registrant = none) {Q : PUnit → Desk → Prop}
    {E : Failure → Desk → Prop} :
    Ends d (saveRoster registrant) Q E ↔ E (.noAllocator registrant) d := by
  unfold saveRoster allocator
  rw [ends_bind, ends_bind, ends_current, hal]
  exact Iff.rfl

/-- **Saving a roster** ends so. -/
theorem saves_roster {d : Desk} (h : d.registry.Lawful) {registrant : String} {al : Allocator}
    (hal : d.registry.allocator? registrant = some al) :
    Ends d (saveRoster registrant) (fun _ e => RosterSaved d e registrant al)
      (fun f e => WriteFailed d e f) := by
  have hlawful := h.allocators registrant al hal
  have hkey := h.isKey hlawful.holding
  refine ends_saveRoster hal ?_ ?_
  · intro disk hwrite
    have hread : d.registry.layout.Plain → d.registry.layout.Placed d.disk → _ :=
      fun hl hplaced => read_of_savedRoster hl hkey hlawful.path hplaced hwrite
    exact ⟨rfl, onward_of_savedRoster h hal hwrite, fun hl hplaced => (hread hl hplaced).2.1,
      fun hl hplaced => (hread hl hplaced).2.2, fun hl hplaced => (hread hl hplaced).1,
      fun hl hplaced => Registry.listedIn_of_saved h hl hlawful hplaced hwrite⟩
  · intro fault disk f notices hwrite hf
    have hchild : d.registry.layout.Plain → ∃ name, al.path = d.registry.layout.dir.child name :=
      fun hl => ⟨_, (hl.rosterPath hkey hlawful.path).1⟩
    refine ⟨rfl, onward_of_failed h hchild hwrite notices, hf, ?_⟩
    intro hl hplaced
    obtain ⟨name, hname⟩ := hchild hl
    rw [hname] at hwrite
    exact sameFiles_of_failed hl hplaced hwrite

/-! ### The ledger -/

/-- **The ledger is saved after the table went on.** If the desk was in step before, nothing is
lost, and the ledger is in step again unless the write failed. -/
theorem turn_saveLedger {d : Desk} {r : Registry} (hopen : d.registry.opened = true)
    (ho : d.registry.Onward r) (notices : List Notice) :
    Ends ⟨r, d.disk, notices⟩ saveLedger
      (fun _ e => LedgerSaved ⟨r, d.disk, notices⟩ e ∧ Turn False d e)
      (fun f e => WriteFailed ⟨r, d.disk, notices⟩ e f ∧ Turn (f.ofWriting = false) d e) := by
  have hnow : d.Onward ⟨r, d.disk, notices⟩ := .of_registry ho rfl
  have hplain : d.InStep → r.layout.Plain := fun hs => ho.layout.symm ▸ hs.plain
  have hplaced : d.InStep → r.layout.Placed d.disk := fun hs => ho.layout.symm ▸ hs.placed hopen
  have hguards : ∀ stored, d.Guards stored → Guards ⟨r, d.disk, notices⟩ stored :=
    fun _ hg => hg.onward hopen ho hg.ledger
  refine (saves_ledger (d := ⟨r, d.disk, notices⟩) ho.lawful).imp ?_ ?_
  · intro _ e hsaved
    refine ⟨hsaved, hnow.trans hsaved.onward, ?_, False.elim, fun hl stored hg =>
      hsaved.guards (ho.opened hopen) (ho.layout.symm ▸ hl) (hguards stored hg)⟩
    intro hs
    have htable := hsaved.table (hplain hs)
    have hlisted := hsaved.listed (hplain hs) (hplaced hs)
    simp only [ho.layout] at htable hlisted
    exact hs.keeps_savedLedger hopen (hsaved.registry.symm ▸ ho) (hsaved.registry.symm ▸ htable)
      hlisted
  · intro f e hfailed
    refine ⟨hfailed, hnow.trans hfailed.onward, ?_, hfailed.not_smooth, fun hl stored hg =>
      hfailed.guards (ho.layout.symm ▸ hl) (hguards stored hg)⟩
    intro hs
    have hsame := hfailed.same (hplain hs) (hplaced hs)
    simp only [ho.layout] at hsame
    exact Layout.keeps_of_sameFiles hsame

/-- If the allocators are the same as before, the desk is in step again. -/
theorem smooth_saveLedger {d : Desk} {r : Registry} (h : d.registry.Lawful)
    (hopen : d.registry.opened = true) (ho : d.registry.Onward r)
    (hall : r.allocators = d.registry.allocators) (notices : List Notice) :
    Ends ⟨r, d.disk, notices⟩ saveLedger
      (fun _ e => LedgerSaved ⟨r, d.disk, notices⟩ e ∧ Turn True d e)
      (fun f e => Turn (f.ofWriting = false) d e) := by
  refine (turn_saveLedger hopen ho notices).imp ?_ fun _ _ hf => hf.2
  rintro _ e ⟨hsaved, hturn⟩
  refine ⟨hsaved, hturn.toOnward, hturn.keeps, ?_, hturn.guards⟩
  intro _ hs
  have hplain : r.layout.Plain := ho.layout.symm ▸ hs.plain
  have hlisted := hsaved.listed hplain (ho.layout.symm ▸ hs.placed hopen)
  have hregistry : e.registry = r := hsaved.registry
  simp only [ho.layout] at hlisted
  refine hs.savedLedger h (hregistry.symm ▸ ho) (hregistry.symm ▸ hall) ?_ ?_ hlisted
  · rw [hregistry]
    exact hsaved.read hplain
  · rw [hregistry]
    exact hsaved.table hplain

/-- An open registry may be saved at any time. -/
theorem follows_persist {d : Desk} (h : d.registry.Lawful) (hopen : d.registry.opened = true) :
    Follows d persist fun _ e => e.registry = d.registry := by
  unfold persist
  rw [Follows, ends_bind, ends_ensureWritable]
  split
  · exact .refl h _
  · refine (smooth_saveLedger h hopen (.refl h) rfl d.notices).imp ?_ fun _ _ hf => hf
    rintro _ e ⟨hsaved, hturn⟩
    exact ⟨hturn, hsaved.registry⟩

/-- A registry that is not closed is saved by `persist` as by `saveLedger`. -/
theorem ends_persist {d : Desk} (hclosed : d.registry.closed = false) {Q : PUnit → Desk → Prop}
    {E : Failure → Desk → Prop} (h : Ends d saveLedger Q E) : Ends d persist Q E := by
  unfold persist
  rw [ends_bind, ends_ensureWritable, hclosed]
  exact h

/-! ### A roster -/

/-- What a written roster gives to the next registry: the ids of the allocator. -/
theorem mem_receive_of_own {r : Registry} {al : Allocator} {registrant : String}
    (hal : al.Lawful r registrant) {entries : List Roster.Entry} {s : Space}
    (hown : Roster.listedIn entries s = Roster.inOrder (al.ids.get s)) (x : String × Int) :
    x ∈ al.ids.get s ↔ x ∈ (Roster.receive (r.holding al.holding) entries).ids.get s := by
  have hbound := (hal.bound s).inOrder
  rw [← hown] at hbound
  rw [Roster.receive_of_listed hbound, hown]
  exact mem_sortBy.symm

/-- A roster is written without loss if it listed ids of the allocator before. -/
theorem RosterSaved.keeps {d e : Desk} {registrant : String} {al : Allocator}
    (hsaved : RosterSaved d e registrant al) (hal : al.Lawful d.registry registrant)
    (hl : d.registry.layout.Plain) (hplaced : d.registry.layout.Placed d.disk)
    (htable : d.registry.layout.tableAt d.disk = d.registry.entries)
    (hids : ∀ s x, x ∈ d.registry.layout.idsAt d.disk registrant s → x ∈ al.ids.get s) :
    d.registry.layout.Keeps d.disk e.disk := by
  have htable' : d.registry.layout.tableAt e.disk = d.registry.layout.tableAt d.disk := by
    rw [Layout.tableAt, Layout.tableAt, hsaved.read hl hplaced]
  refine ⟨?_, ?_⟩
  · intro k holding hget
    exact ⟨holding, htable'.symm ▸ hget, Holding.Advances.refl _⟩
  · intro k s x hx
    by_cases hk : k = registrant
    · subst hk
      have hmem := hids s x hx
      rw [mem_receive_of_own hal (hsaved.own hl hplaced s)] at hmem
      rw [Layout.idsAt, htable', htable, Registry.get?_entries, hal.holding]
      exact hmem
    · unfold Layout.idsAt at hx ⊢
      rw [htable']
      cases hget : Assoc.get? k (d.registry.layout.tableAt d.disk) with
      | none => simp [hget] at hx
      | some holding =>
        have hkey := (d.registry.layout.consistent_tableAt d.disk).isKey (k, holding)
          (Assoc.mem_of_get? hget)
        rw [hget] at hx
        simp only [hsaved.listed hl hplaced k hkey hk]
        exact hx

/-- After a write of a roster, a desk is in step whose other rosters were. -/
theorem RosterSaved.inStep {d e : Desk} {registrant : String} {al : Allocator}
    (hsaved : RosterSaved d e registrant al) (h : d.registry.Lawful)
    (hal : d.registry.allocator? registrant = some al) (hl : d.registry.layout.Plain)
    (hread : ∃ bytes, d.disk.read d.registry.layout.ledgerPath = .ok (some bytes))
    (htable : d.registry.layout.tableAt d.disk = d.registry.entries)
    (hothers : ∀ k other, k ≠ registrant → d.registry.allocator? k = some other → ∀ s x,
      x ∈ other.ids.get s ↔ x ∈ (Roster.receive (d.registry.holding other.holding)
        (d.registry.layout.listedAt d.disk k)).ids.get s) : e.InStep := by
  obtain ⟨bytes, hbytes⟩ := hread
  have hplaced := hl.placed hbytes
  have hsame := hsaved.read hl hplaced
  refine ⟨hsaved.registry.symm ▸ hl, ?_, ?_⟩
  · intro _
    rw [hsaved.registry, hsame]
    refine ⟨⟨bytes, hbytes⟩, ?_⟩
    rw [← htable, Layout.tableAt, Layout.tableAt, hsame]
  · intro k other hother s x
    rw [hsaved.registry] at hother ⊢
    by_cases hk : k = registrant
    · subst hk
      obtain rfl : al = other := Option.some.inj (hal.symm.trans hother)
      exact mem_receive_of_own (h.allocators k al hal) (hsaved.own hl hplaced s) x
    · rw [hsaved.listed hl hplaced k (h.isKey (h.allocators k other hother).holding) hk]
      exact hothers k other hk hother s x

/-- **A roster may be saved at any time.** -/
theorem follows_saveRoster {d : Desk} (h : d.registry.Lawful) (registrant : String) :
    Follows d (saveRoster registrant) fun _ e => e.registry = d.registry := by
  cases hal : d.registry.allocator? registrant with
  | none =>
    rw [Follows, ends_saveRoster_of_none hal]
    exact .refl h _
  | some al =>
    have hopen := h.opened_of_allocator? hal
    refine (saves_roster h hal).imp ?_ ?_
    · intro _ e hsaved
      refine ⟨⟨hsaved.onward, ?_, ?_, fun hl _ hg => hsaved.guards hl hg⟩, hsaved.registry⟩
      · intro hs
        exact hsaved.keeps (h.allocators registrant al hal) hs.plain (hs.placed hopen)
          (hs.ledger hopen).2 fun s x hx => (hs.mem_idsAt h hal s x).1 hx
      · intro _ hs
        exact hsaved.inStep h hal hs.plain (hs.ledger hopen).1 (hs.ledger hopen).2
          fun k other _ hother => hs.rosters k other hother
    · intro f e hfailed
      refine ⟨hfailed.onward, ?_, hfailed.not_smooth, fun hl _ hg => hfailed.guards hl hg⟩
      intro hs
      exact Layout.keeps_of_sameFiles (hfailed.same hs.plain (hs.placed hopen))

end Desk

end Allotment
