import Allotment.Proofs.Registry.Files

/-!
# How a desk goes on

What is asked of a registry changes the registry and the disk. Some things about them never go back,
whether a request is met or fails, and whatever the disk does meanwhile.

* `Registry.Onward` — a later state of a registry: lawful, every holding in the table still there
  with its window, every bound name still bound to its id;
* `Desk.Onward` — moreover, whatever id was bound and on file is on file;
* `Desk.InStep` — the files say what the registry has in mind;
* `Layout.Keeps` — a later disk: every window in the ledger is still there, every id that the next
  registry would admit is still admitted;
* `Desk.Guards` — a desk has a stored table in its ledger and, once it is opened, in memory, so that
  no later write can lose it;
* `Desk.Turn` — a step from one desk to another that goes on in all these ways, and leaves a desk in
  step if it is a smooth one.

`Turn` composes, so a request is followed by following its parts.
-/

namespace Allotment

namespace Ledger

/-- Every holding of one table is in another, with the same windows. -/
def Within (table later : List (String × Holding)) : Prop :=
  ∀ registrant h, Assoc.get? registrant table = some h →
    ∃ h', Assoc.get? registrant later = some h' ∧ h.Advances h'

theorem Within.refl (table : List (String × Holding)) : Within table table :=
  fun _ h hget => ⟨h, hget, Holding.Advances.refl h⟩

theorem Within.trans {s t u : List (String × Holding)} (h1 : Within s t) (h2 : Within t u) :
    Within s u := by
  intro registrant h hget
  obtain ⟨h', hget', hadv⟩ := h1 registrant h hget
  obtain ⟨h'', hget'', hadv'⟩ := h2 registrant h' hget'
  exact ⟨h'', hget'', hadv.trans hadv'⟩

/-- What is within nothing is within anything. -/
theorem Within.of_nil {table : List (String × Holding)} (h : Within table [])
    (later : List (String × Holding)) : Within table later := by
  intro registrant holding hget
  obtain ⟨h', hget', -⟩ := h registrant holding hget
  cases hget'

end Ledger

namespace Registry

/-- A registrant's name is bound to an id in an allocator. -/
def Binds (r : Registry) (registrant : String) (space : Space) (name : String) (id : Int) : Prop :=
  ∃ al, r.allocator? registrant = some al ∧ Assoc.get? name (al.ids.get space) = some id

/-- A later state of a registry. -/
structure Onward (r later : Registry) : Prop where
  lawful : later.Lawful
  layout : later.layout = r.layout
  opened : r.opened = true → later.opened = true
  holdings : ∀ registrant number, Assoc.get? registrant r.table = some number →
    Assoc.get? registrant later.table = some number ∧
      (r.holding number).Advances (later.holding number)
  binds : ∀ registrant space name id, r.Binds registrant space name id →
    later.Binds registrant space name id

theorem Onward.refl {r : Registry} (h : r.Lawful) : r.Onward r :=
  ⟨h, rfl, id, fun _ _ hget => ⟨hget, Holding.Advances.refl _⟩, fun _ _ _ _ hb => hb⟩

theorem Onward.trans {r s t : Registry} (h1 : r.Onward s) (h2 : s.Onward t) : r.Onward t where
  lawful := h2.lawful
  layout := h2.layout.trans h1.layout
  opened hopen := h2.opened (h1.opened hopen)
  holdings registrant number hget := by
    obtain ⟨hget', hadv⟩ := h1.holdings registrant number hget
    obtain ⟨hget'', hadv'⟩ := h2.holdings registrant number hget'
    exact ⟨hget'', hadv.trans hadv'⟩
  binds registrant space name id hb :=
    h2.binds registrant space name id (h1.binds registrant space name id hb)

/-- The table by value goes on, too. -/
theorem Onward.entries {r later : Registry} (h : r.Onward later) {registrant : String}
    {holding : Holding} (hget : Assoc.get? registrant r.entries = some holding) :
    ∃ holding', Assoc.get? registrant later.entries = some holding' ∧
      holding.Advances holding' := by
  rw [get?_entries, Option.map_eq_some_iff] at hget
  obtain ⟨number, hnumber, rfl⟩ := hget
  obtain ⟨hnumber', hadv⟩ := h.holdings registrant number hnumber
  exact ⟨later.holding number, by rw [get?_entries, hnumber']; rfl, hadv⟩

/-- The window of an allocator is the one it always was. -/
theorem Onward.window {r later : Registry} (h : r.Onward later) (hr : r.Lawful) {al : Allocator}
    {registrant : String} (hal : r.allocator? registrant = some al) (s : Space) :
    ((later.holding al.holding).get s).window = ((r.holding al.holding).get s).window :=
  ((h.holdings registrant al.holding (hr.allocators registrant al hal).holding).2 s).window

/-- So what is admitted for it from a roster is what it always was. -/
theorem Onward.receive_ids {r later : Registry} (h : r.Onward later) (hr : r.Lawful)
    {al : Allocator} {registrant : String} (hal : r.allocator? registrant = some al)
    (entries : List Roster.Entry) (s : Space) :
    (Roster.receive (later.holding al.holding) entries).ids.get s =
      (Roster.receive (r.holding al.holding) entries).ids.get s := by
  rw [Roster.receive_ids, Roster.receive_ids, h.window hr hal]

/-- A bound id is listed in an allocator. -/
theorem mem_of_binds {al : Allocator} {space : Space} {name : String} {id : Int}
    (h : Assoc.get? name (al.ids.get space) = some id) : (name, id) ∈ al.ids.get space :=
  Assoc.mem_of_get? h

end Registry

namespace Layout

variable (l : Layout)

/-- The ids that the next registry would admit for a registrant. -/
def idsAt (disk : Disk) (registrant : String) (space : Space) : Roster.NamedIds :=
  match Assoc.get? registrant (l.tableAt disk) with
  | some h => (Roster.receive h (l.listedAt disk registrant)).ids.get space
  | none => []

/-- Nothing that the files of one disk say is lost on another. -/
structure Keeps (d e : Disk) : Prop where
  table : ∀ registrant h, Assoc.get? registrant (l.tableAt d) = some h →
    ∃ h', Assoc.get? registrant (l.tableAt e) = some h' ∧ h.Advances h'
  ids : ∀ registrant space x, x ∈ l.idsAt d registrant space → x ∈ l.idsAt e registrant space

variable {l}

theorem Keeps.refl (d : Disk) : l.Keeps d d :=
  ⟨fun _ h hget => ⟨h, hget, Holding.Advances.refl h⟩, fun _ _ _ hx => hx⟩

theorem Keeps.trans {d e f : Disk} (h1 : l.Keeps d e) (h2 : l.Keeps e f) : l.Keeps d f where
  table registrant h hget := by
    obtain ⟨h', hget', hadv⟩ := h1.table registrant h hget
    obtain ⟨h'', hget'', hadv'⟩ := h2.table registrant h' hget'
    exact ⟨h'', hget'', hadv.trans hadv'⟩
  ids registrant space x hx := h2.ids registrant space x (h1.ids registrant space x hx)

/-- The ids admitted from a roster depend on the windows alone. -/
theorem receive_ids_advances {h later : Holding} (ha : h.Advances later)
    (entries : List Roster.Entry) (space : Space) :
    (Roster.receive later entries).ids.get space = (Roster.receive h entries).ids.get space := by
  rw [Roster.receive_ids, Roster.receive_ids, (ha space).window]

/-- If the table goes on and the rosters say the same, nothing is lost. -/
theorem keeps_of_table {d e : Disk}
    (htable : ∀ registrant h, Assoc.get? registrant (l.tableAt d) = some h →
      ∃ h', Assoc.get? registrant (l.tableAt e) = some h' ∧ h.Advances h')
    (hlisted : ∀ k, Registrant.IsKey k → l.listedAt e k = l.listedAt d k) : l.Keeps d e where
  table := htable
  ids registrant space x hx := by
    unfold idsAt at hx ⊢
    cases hget : Assoc.get? registrant (l.tableAt d) with
    | none => simp [hget] at hx
    | some h =>
      obtain ⟨h', hget', hadv⟩ := htable registrant h hget
      have hkey : Registrant.IsKey registrant :=
        (l.consistent_tableAt d).isKey (registrant, h) (Assoc.mem_of_get? hget)
      rw [hget] at hx
      rw [hget']
      simp only [hlisted registrant hkey, receive_ids_advances hadv] at hx ⊢
      exact hx

theorem keeps_of_sameFiles {d e : Disk} (h : SameFiles l d e) : l.Keeps d e := by
  refine keeps_of_table ?_ fun _ hk => h.listedAt hk
  intro registrant holding hget
  refine ⟨holding, ?_, Holding.Advances.refl holding⟩
  rw [h.tableAt]
  exact hget

/-- A disk without a table has nothing to lose. -/
theorem keeps_of_empty {d : Disk} (h : l.tableAt d = []) (e : Disk) : l.Keeps d e where
  table registrant holding hget := by
    rw [h] at hget
    cases hget
  ids registrant space x hx := by
    unfold idsAt at hx
    rw [h] at hx
    simp [Assoc.get?] at hx

end Layout

namespace Desk

/-- A later state of a desk. -/
structure Onward (d later : Desk) : Prop where
  registry : d.registry.Onward later.registry
  onFile : d.registry.layout.Plain → ∀ registrant space name id,
    d.registry.Binds registrant space name id →
    d.registry.layout.OnFile d.disk registrant space name id →
    d.registry.layout.OnFile later.disk registrant space name id

theorem Onward.refl {d : Desk} (h : d.registry.Lawful) : d.Onward d :=
  ⟨.refl h, fun _ _ _ _ _ _ hf => hf⟩

theorem Onward.trans {d e f : Desk} (h1 : d.Onward e) (h2 : e.Onward f) : d.Onward f where
  registry := h1.registry.trans h2.registry
  onFile hl registrant space name id hb hf := by
    have hlayout := h1.registry.layout
    have hlater := h2.onFile (hlayout.symm ▸ hl) registrant space name id
      (h1.registry.binds _ _ _ _ hb)
    rw [hlayout] at hlater
    exact hlater (h1.onFile hl registrant space name id hb hf)

/-- The files say what the registry has in mind. -/
structure InStep (d : Desk) : Prop where
  plain : d.registry.layout.Plain
  ledger : d.registry.opened = true →
    (∃ bytes, d.disk.read d.registry.layout.ledgerPath = .ok (some bytes)) ∧
      d.registry.layout.tableAt d.disk = d.registry.entries
  rosters : ∀ registrant al, d.registry.allocator? registrant = some al → ∀ space x,
    x ∈ al.ids.get space ↔ x ∈ (Roster.receive (d.registry.holding al.holding)
      (d.registry.layout.listedAt d.disk registrant)).ids.get space

/-- As long as the registry is open, a path leads to the directory of its files. -/
theorem InStep.placed {d : Desk} (h : d.InStep) (hopen : d.registry.opened = true) :
    d.registry.layout.Placed d.disk := by
  obtain ⟨⟨bytes, hread⟩, -⟩ := h.ledger hopen
  exact h.plain.placed hread

/-- A stored table is in the ledger, and a registry that is opened has it in mind. -/
structure Guards (d : Desk) (stored : List (String × Holding)) : Prop where
  ledger : Ledger.Within stored (d.registry.layout.tableAt d.disk)
  table : d.registry.opened = true → Ledger.Within stored d.registry.entries

section Guards

variable {d e : Desk} {stored : List (String × Holding)} (h : d.Guards stored)
include h

/-- Where the ledger settles to nothing, there is nothing to guard. -/
theorem Guards.of_empty (hempty : d.registry.layout.tableAt d.disk = []) (e : Desk) :
    e.Guards stored := by
  have hledger := h.ledger
  rw [hempty] at hledger
  exact ⟨hledger.of_nil _, fun _ => hledger.of_nil _⟩

/-- An opened registry that goes on has the table in mind; the ledger decides. -/
theorem Guards.onward (hopen : d.registry.opened = true) (ho : d.registry.Onward e.registry)
    (hledger : Ledger.Within stored (d.registry.layout.tableAt e.disk)) : e.Guards stored :=
  ⟨ho.layout.symm ▸ hledger,
    fun _ => (h.table hopen).trans fun _ _ hget => ho.entries hget⟩

/-- A registry that stays as it is guards what it guarded, if the ledger says the same. -/
theorem Guards.of_tableAt (hregistry : e.registry = d.registry)
    (hledger : d.registry.layout.tableAt e.disk = d.registry.layout.tableAt d.disk) :
    e.Guards stored := by
  refine ⟨?_, ?_⟩
  · rw [hregistry, hledger]
    exact h.ledger
  · rw [hregistry]
    exact h.table

end Guards

/-- A step from one desk to another. -/
structure Turn (smooth : Prop) (d later : Desk) : Prop extends Onward d later where
  keeps : d.InStep → d.registry.layout.Keeps d.disk later.disk
  inStep : smooth → d.InStep → later.InStep
  guards : d.registry.layout.Plain → ∀ stored, d.Guards stored → later.Guards stored

theorem Turn.refl {d : Desk} (h : d.registry.Lawful) (smooth : Prop) : Turn smooth d d :=
  ⟨.refl h, fun _ => .refl _, fun _ hs => hs, fun _ _ hg => hg⟩

theorem Turn.trans {smooth : Prop} {d e f : Desk} (h1 : Turn True d e) (h2 : Turn smooth e f) :
    Turn smooth d f where
  toOnward := h1.toOnward.trans h2.toOnward
  keeps hs := by
    have hkeeps := h2.keeps (h1.inStep trivial hs)
    rw [h1.registry.layout] at hkeeps
    exact (h1.keeps hs).trans hkeeps
  inStep hsmooth hs := h2.inStep hsmooth (h1.inStep trivial hs)
  guards hl stored hg :=
    h2.guards (h1.registry.layout.symm ▸ hl) stored (h1.guards hl stored hg)

theorem Turn.imp {smooth less : Prop} {d e : Desk} (h : Turn smooth d e) (hless : less → smooth) :
    Turn less d e :=
  ⟨h.toOnward, h.keeps, fun hl => h.inStep (hless hl), h.guards⟩

/-- Notices change nothing that matters. -/
theorem turn_of_notices {d : Desk} (h : d.registry.Lawful) (notices : List Notice)
    (smooth : Prop) : Turn smooth d { d with notices } :=
  ⟨⟨.refl h, fun _ _ _ _ _ _ hf => hf⟩, fun _ => .refl _,
    fun _ hs => ⟨hs.plain, hs.ledger, hs.rosters⟩, fun _ _ hg => ⟨hg.ledger, hg.table⟩⟩

/-! ### Writes -/

section Writes

variable {d : Desk} {disk : Disk}

/-- Files that say the same keep everything on file. -/
theorem onFile_of_sameFiles {l : Layout} {d e : Disk} (h : SameFiles l d e) {k : String}
    (hk : Registrant.IsKey k) {s : Space} {name : String} {id : Int} (hf : l.OnFile d k s name id) :
    l.OnFile e k s name id := by
  rw [Layout.OnFile, h.listedAt hk, h.tableAt]
  exact hf

theorem isKey_of_binds {r : Registry} (h : r.Lawful) {k : String} {s : Space} {name : String}
    {id : Int} (hb : r.Binds k s name id) : Registrant.IsKey k := by
  obtain ⟨al, hal, -⟩ := hb
  exact h.isKey (h.allocators k al hal).holding

/-- **A failed write loses nothing that is on file.** -/
theorem onward_of_failed (h : d.registry.Lawful) {p : Path} {text : Option (List Char)}
    {fault : WriteFault} (hp : d.registry.layout.Plain → ∃ name, p = d.registry.layout.dir.child name)
    (hwrite : d.disk.store p text = (.error fault, disk))
    (notices : List Notice) : d.Onward { d with disk, notices } where
  registry := .refl h
  onFile hl k s name id hb hf := by
    obtain ⟨child, rfl⟩ := hp hl
    exact onFile_of_sameFiles (sameFiles_of_failed hl (hl.placed_of_onFile hf) hwrite)
      (isKey_of_binds h hb) hf

/-- **A write of the ledger keeps everything on file:** the counts in it are past all bound ids. -/
theorem onward_of_savedLedger (h : d.registry.Lawful)
    (hwrite : d.disk.replace d.registry.layout.ledgerPath
      (Text.encodeUtf8 (Ledger.write d.registry.ledger)) = (.ok (), disk)) :
    d.Onward { d with disk } where
  registry := .refl h
  onFile hl k s name id hb hf := by
    obtain ⟨al, hal, hget⟩ := hb
    have hkey := h.isKey (h.allocators k al hal).holding
    have hlisted := listedAt_congr fun p hp =>
      (read_of_savedLedger hl hwrite).2 (hl.placed_of_onFile hf) k p hkey hp
    refine Registry.onFile_of_covers h hal (Registry.tableAt_of_saved h hl hwrite)
      (Registry.mem_of_binds hget) ?_
    rw [hlisted]
    exact hf.1

/-- **A write of a roster keeps everything on file:** it lists all ids of the allocator. -/
theorem onward_of_savedRoster (h : d.registry.Lawful) {k : String} {al : Allocator}
    (hal : d.registry.allocator? k = some al)
    (hwrite : d.disk.replace al.path (Text.encodeUtf8 (al.roster d.registry)) = (.ok (), disk)) :
    d.Onward { d with disk } where
  registry := .refl h
  onFile hl j s name id hb hf := by
    have hlawful := h.allocators k al hal
    have hkey := h.isKey hlawful.holding
    have hplaced := hl.placed_of_onFile hf
    have hread := read_of_savedRoster hl hkey hlawful.path hplaced hwrite
    have htable : d.registry.layout.tableAt disk = d.registry.layout.tableAt d.disk := by
      rw [Layout.tableAt, Layout.tableAt, hread.2.1]
    refine ⟨?_, htable.symm ▸ hf.2⟩
    by_cases hjk : j = k
    · subst hjk
      obtain ⟨other, hother, hget⟩ := hb
      obtain rfl : al = other := Option.some.inj (hal.symm.trans hother)
      rw [Registry.listedIn_of_saved h hl hlawful hplaced hwrite]
      exact mem_sortBy.2 (Registry.mem_of_binds hget)
    · rw [listedAt_congr fun q hq => hread.2.2 j q (isKey_of_binds h hb) hjk hq]
      exact hf.1

end Writes

/-! ### Desks in step -/

/-- A desk whose registry goes on with the same allocators is in step again once the ledger says
what the table says. -/
theorem InStep.savedLedger {d e : Desk} (hd : d.InStep) (hlawful : d.registry.Lawful)
    (ho : d.registry.Onward e.registry) (hall : e.registry.allocators = d.registry.allocators)
    (hread : ∃ bytes, e.disk.read e.registry.layout.ledgerPath = .ok (some bytes))
    (htable : e.registry.layout.tableAt e.disk = e.registry.entries)
    (hlisted : ∀ k, Registrant.IsKey k →
      d.registry.layout.listedAt e.disk k = d.registry.layout.listedAt d.disk k) : e.InStep where
  plain := ho.layout.symm ▸ hd.plain
  ledger _ := ⟨hread, htable⟩
  rosters registrant al hal space x := by
    have hal' : d.registry.allocator? registrant = some al := by
      rw [Registry.allocator?, hall] at hal
      exact hal
    have hkey := hlawful.isKey (hlawful.allocators registrant al hal').holding
    rw [ho.receive_ids hlawful hal', ho.layout, hlisted registrant hkey]
    exact hd.rosters registrant al hal' space x

/-- If the ledger said what the table said, and says what it says now, nothing is lost. -/
theorem InStep.keeps_savedLedger {d e : Desk} (hd : d.InStep) (hopen : d.registry.opened = true)
    (ho : d.registry.Onward e.registry)
    (htable : d.registry.layout.tableAt e.disk = e.registry.entries)
    (hlisted : ∀ k, Registrant.IsKey k →
      d.registry.layout.listedAt e.disk k = d.registry.layout.listedAt d.disk k) :
    d.registry.layout.Keeps d.disk e.disk := by
  refine Layout.keeps_of_table ?_ hlisted
  intro registrant h hget
  rw [(hd.ledger hopen).2] at hget
  rw [htable]
  exact ho.entries hget

/-- The ids that the next registry would admit are those of the allocator. -/
theorem InStep.mem_idsAt {d : Desk} (h : d.InStep) (hlawful : d.registry.Lawful)
    {registrant : String} {al : Allocator} (hal : d.registry.allocator? registrant = some al)
    (space : Space) (x : String × Int) :
    x ∈ d.registry.layout.idsAt d.disk registrant space ↔ x ∈ al.ids.get space := by
  have hopen := hlawful.opened_of_allocator? hal
  rw [h.rosters registrant al hal space x, Layout.idsAt, (h.ledger hopen).2, Registry.get?_entries,
    (hlawful.allocators registrant al hal).holding]
  exact Iff.rfl

end Desk

end Allotment
