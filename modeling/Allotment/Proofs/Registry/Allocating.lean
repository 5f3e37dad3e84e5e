import Allotment.Proofs.Registry.Placing

/-!
# Allocators and their ids

An allocator takes over what its registrant's roster lists and the windows admit, and then hands out
one id after the other. A new id is in memory first, then in the ledger, then in the roster.

* `ends_loadAllocator` — **PROVED**: loading taken apart: the counts are past the ids of the roster, or
  they move forward and the ledger is saved;
* `turn_enlist`, `follows_loadAllocator`, `follows_allocatorFor` — **PROVED**: an allocator that is
  made has the ids that the next registry would admit;
* `ends_grant_cases` — **PROVED**: handing out an id taken apart;
* `ends_grant` — **PROVED**: handing out an id is a turn, and when an id is returned, all ids of the
  registrant are on file. If a write fails, the name is bound in memory, but the roster is as it was;
* `ends_allocate_cases`, `ends_allocate` — **PROVED**: `allocate` taken apart. It is a turn, too: either
  the name was bound before, and nothing happens, or a new id is handed out.
-/

namespace Allotment

namespace Registry

/-- Moving counts forward goes on. -/
theorem onward_modifyHolding {r : Registry} (h : r.Lawful) {number : Nat}
    {f : Holding → Holding} (hf : (r.holding number).Advances (f (r.holding number))) :
    r.Onward (r.modifyHolding number f) :=
  ⟨h.advance hf, rfl, id, fun _ other hget => ⟨hget, advances_modifyHolding hf other⟩,
    fun _ _ _ _ hb => hb⟩

/-- **An allocator made from a roster** is as it should be, once the counts are past its ids. -/
theorem lawful_received {r : Registry} {registrant : String} {number : Nat}
    (hget : Assoc.get? registrant r.table = some number) {path : Path}
    (hpath : r.layout.rosterPath registrant = .ok path) {before : Holding}
    {entries : List Roster.Entry} (hentries : ∀ e ∈ entries, IdName.Storable e.name)
    (hholding : r.holding number = (Roster.receive before entries).holding) (report : Report) :
    ({ registrant, holding := number, path, report, ids := (Roster.receive before entries).ids }
      : Allocator).Lawful r registrant where
  registrant_eq := rfl
  holding := hget
  path := hpath
  bound s := by
    rw [hholding, (Roster.advances_receive before entries s).window]
    exact Roster.bound_receive before entries s
  covers s := by
    rw [hholding]
    exact Roster.covers_receive before entries s
  storable s x hx := by
    obtain ⟨e, he, -, rfl⟩ := Roster.mem_receive hx
    exact hentries e he

/-- A new allocator goes on. -/
theorem onward_enlist {r : Registry} (h : r.Lawful) {al : Allocator}
    (hal : al.Lawful r al.registrant) (hnew : r.allocator? al.registrant = none) :
    r.Onward (r.setAllocator al) := by
  refine ⟨h.enlist hal, rfl, id, fun _ _ hget => ⟨hget, Holding.Advances.refl _⟩, ?_⟩
  rintro k s name id ⟨other, hother, hget⟩
  have hne : k ≠ al.registrant := by
    rintro rfl
    rw [hnew] at hother
    cases hother
  refine ⟨other, ?_, hget⟩
  rw [allocator?_setAllocator_of_ne r al hne]
  exact hother

/-- The allocator that has handed out an id. -/
theorem allocator?_granted {r : Registry} (h : r.Lawful) {al : Allocator} {registrant : String}
    (hal : r.allocator? registrant = some al) (space : Space) (name : String) :
    (r.granted al space name).allocator? registrant = some (r.grantee al space name) :=
  allocator?_granted_self (h.allocators registrant al hal).registrant_eq

/-- The other allocators stay. -/
theorem allocator?_granted_of_ne {r : Registry} (h : r.Lawful) {al : Allocator}
    {registrant : String} (hal : r.allocator? registrant = some al) (space : Space)
    (name : String) {other : String} (hne : other ≠ registrant) :
    (r.granted al space name).allocator? other = r.allocator? other := by
  have hregistrant : (r.grantee al space name).registrant = registrant :=
    (h.allocators registrant al hal).registrant_eq
  rw [granted, allocator?_setAllocator_of_ne _ _ (hregistrant.symm ▸ hne)]
  rfl

/-- Handing out an id goes on, and binds the name to it. -/
theorem onward_granted {r : Registry} (h : r.Lawful) {al : Allocator} {registrant : String}
    (hal : r.allocator? registrant = some al) {space : Space} {name : String}
    (hname : IdName.Storable name) (hnew : Assoc.get? name (al.ids.get space) = none)
    (hroom : ((r.holding al.holding).get space).isFull = false) :
    r.Onward (r.granted al space name) := by
  have hadv : (r.holding al.holding).Advances ((r.holding al.holding).modify space
      Reservation.bump) := Holding.advances_modify (Reservation.advances_bump hroom)
  refine ⟨h.grant hal hname hnew hroom, rfl, id, ?_, ?_⟩
  · intro other number hget
    exact ⟨hget, advances_modifyHolding
      (f := fun h => h.modify space Reservation.bump) hadv number⟩
  · rintro k s other id ⟨al', hal', hget⟩
    by_cases hk : k = registrant
    · subst hk
      obtain rfl : al = al' := Option.some.inj (hal.symm.trans hal')
      exact ⟨_, allocator?_granted h hal space name, get?_grantee_of_some hnew hget⟩
    · refine ⟨al', ?_, hget⟩
      rw [allocator?_granted_of_ne h hal space name hk]
      exact hal'

/-- The next id of a lawful allocator can be told: the zones are small. -/
theorem readable_nextId {r : Registry} (h : r.Lawful) {al : Allocator} {k : String}
    (hal : al.Lawful r k) {s : Space}
    (hroom : ((r.holding al.holding).get s).isFull = false) :
    Text.Readable ((r.holding al.holding).get s).nextId := by
  have hfits := h.fits hal.holding s
  have hbounds := hfits.bounds
  have hused := hfits.used_nonneg
  have hlt : ((r.holding al.holding).get s).used < ((r.holding al.holding).get s).size := by
    simpa [Reservation.isFull] using hroom
  have hzone : 0 ≤ s.zone.lower ∧ s.zone.upper < 50000 := by cases s <;> decide
  refine Text.readable_of_lt ?_
  unfold Reservation.nextId
  omega

end Registry

namespace Desk

/-! ### Making an allocator -/

/-- What an allocator is that was loaded, but is not taken in yet: if the desk was in step before,
its ids are those that the next registry would admit. -/
structure Ready (d e : Desk) (registrant : String) (al : Allocator) : Prop where
  lawful : al.Lawful e.registry registrant
  ids : d.InStep → ∀ s x, x ∈ al.ids.get s ↔
    x ∈ (Roster.receive (e.registry.holding al.holding)
      (e.registry.layout.listedAt e.disk registrant)).ids.get s
  allocators : e.registry.allocators = d.registry.allocators

/-- **Taking in a new allocator** completes the turn. -/
theorem turn_enlist {d e : Desk} (hturn : Turn True d e) {registrant : String} {al : Allocator}
    (hready : Ready d e registrant al) (hnew : d.registry.allocator? registrant = none) :
    Turn True d { e with registry := e.registry.setAllocator al } := by
  obtain rfl := hready.lawful.registrant_eq
  have he := hturn.registry.lawful
  have hnew' : e.registry.allocator? al.registrant = none := by
    rw [Registry.allocator?, hready.allocators]
    exact hnew
  refine ⟨hturn.toOnward.trans (.of_registry (Registry.onward_enlist he hready.lawful hnew') rfl),
    hturn.keeps, ?_, fun hl stored hg =>
      have hguards := hturn.guards hl stored hg
      ⟨hguards.ledger, hguards.table⟩⟩
  intro _ hs
  have hs' := hturn.inStep trivial hs
  refine ⟨hs'.plain, hs'.ledger, ?_⟩
  intro k other hother s x
  have hput : Assoc.get? k (Assoc.put al.registrant al e.registry.allocators) = some other :=
    hother
  by_cases hk : k = al.registrant
  · subst hk
    rw [Assoc.get?_put_self] at hput
    obtain rfl := Option.some.inj hput
    exact hready.ids hs s x
  · rw [Assoc.get?_put_of_ne hk] at hput
    exact hs'.rosters k other hput s x

/-- What is admitted from the roster makes an allocator, as soon as the counts are past it. -/
theorem ready_of_received {d e : Desk} {registrant : String} {number : Nat}
    (hget : Assoc.get? registrant d.registry.table = some number) {path : Path}
    (hpath : d.registry.layout.rosterPath registrant = .ok path)
    (ho : d.registry.Onward e.registry)
    (hall : e.registry.allocators = d.registry.allocators)
    (hlisted : d.InStep → d.registry.layout.listedAt e.disk registrant =
      d.registry.layout.listedAt d.disk registrant)
    (hholding : e.registry.holding number = (Roster.receive (d.registry.holding number)
      (d.registry.layout.listedAt d.disk registrant)).holding) (report : Report) :
    Ready d e registrant
      { registrant
        holding := number
        path
        report
        ids := (Roster.receive (d.registry.holding number)
          (d.registry.layout.listedAt d.disk registrant)).ids } := by
  obtain ⟨hget', hadv⟩ := ho.holdings registrant number hget
  refine ⟨Registry.lawful_received hget' (ho.layout ▸ hpath) Layout.storable_of_mem_listedAt
    hholding report, ?_, hall⟩
  intro hs s x
  rw [Layout.receive_ids_advances hadv, ho.layout, hlisted hs]

/-- What is admitted from the bytes of a roster. -/
def admission (d : Desk) (number : Nat) (bytes : Option (List UInt8)) : Roster.Admission :=
  Roster.receive (d.registry.holding number) (Roster.entries (Roster.read (linesOf bytes)))

/-- The allocator that they make. -/
def made (d : Desk) (registrant : String) (number : Nat) (path : Path)
    (bytes : Option (List UInt8)) : Allocator :=
  { registrant
    holding := number
    path
    report :=
      { source := path.text
        issues := Roster.issues path.text (some registrant) (Roster.read (linesOf bytes)) ++
          (d.admission number bytes).findings.map (Roster.Finding.issue path.text registrant) }
    ids := (d.admission number bytes).ids }

section Made

variable (d : Desk) (registrant : String) (number : Nat) (path : Path) (bytes : Option (List UInt8))

@[simp]
theorem made_registrant : (d.made registrant number path bytes).registrant = registrant := rfl

@[simp]
theorem made_ids : (d.made registrant number path bytes).ids = (d.admission number bytes).ids := rfl

@[simp]
theorem made_issues : (d.made registrant number path bytes).report.issues =
    Roster.issues path.text (some registrant) (Roster.read (linesOf bytes)) ++
      (d.admission number bytes).findings.map (Roster.Finding.issue path.text registrant) := rfl

end Made

/-- **Loading an allocator** from a roster that can be read: if the counts are past its ids nothing is
written, otherwise they move forward and the ledger is saved. -/
theorem ends_loadAllocator {d : Desk} (hclosed : d.registry.closed = false) {registrant : String}
    {number : Nat} {path : Path} (hpath : d.registry.layout.rosterPath registrant = .ok path)
    {bytes : Option (List UInt8)} (hread : d.disk.read path = .ok bytes)
    {Q : Allocator → Desk → Prop} {E : Failure → Desk → Prop}
    (hcovered : (d.admission number bytes).holding = d.registry.holding number → ∀ notices,
      Q (d.made registrant number path bytes) { d with notices })
    (hmoved : (d.admission number bytes).holding ≠ d.registry.holding number → ∀ notices,
      Ends ⟨d.registry.modifyHolding number fun _ => (d.admission number bytes).holding, d.disk,
        notices⟩ saveLedger (fun _ e => Q (d.made registrant number path bytes) e) E) :
    Ends d (loadAllocator registrant number) Q E := by
  unfold loadAllocator
  rw [ends_bind, ends_current, ends_bind, ends_check, hpath]
  simp only
  rw [ends_bind, ends_readLines, hread]
  simp only
  rw [ends_bind, ends_tell, ends_bind, ends_current, ends_bind, ends_tell]
  split
  · rename_i hmove
    rw [ends_bind, ends_update, ends_bind, ends_tell, ends_bind]
    refine ends_persist ?_ ?_
    · exact hclosed
    · exact hmoved hmove _
  · rename_i hsame
    rw [Classical.not_not] at hsame
    exact hcovered hsame _

/-- A roster that cannot be read makes no allocator. -/
theorem ends_loadAllocator_of_unread {d : Desk} {registrant : String} {path : Path}
    (hpath : d.registry.layout.rosterPath registrant = .ok path) {f : Failure}
    (hread : d.disk.read path = .error f) (number : Nat) {Q : Allocator → Desk → Prop}
    {E : Failure → Desk → Prop} (hE : E f d) : Ends d (loadAllocator registrant number) Q E := by
  unfold loadAllocator
  rw [ends_bind, ends_current, ends_bind, ends_check, hpath]
  simp only
  rw [ends_bind, ends_readLines, hread]
  exact hE

/-- **Loading an allocator is a turn.** -/
theorem follows_loadAllocator {d : Desk} (h : d.registry.Lawful)
    (hopen : d.registry.opened = true) (hclosed : d.registry.closed = false) {registrant : String}
    {number : Nat} (hget : Assoc.get? registrant d.registry.table = some number) :
    Follows d (loadAllocator registrant number) fun al e => Ready d e registrant al := by
  cases hpath : d.registry.layout.rosterPath registrant with
  | error f =>
    unfold loadAllocator
    rw [Follows, ends_bind, ends_current, ends_bind, ends_check, hpath]
    exact (Turn.refl h _).imp fun _ => Layout.ofWriting_rosterPath hpath
  | ok path =>
    cases hread : d.disk.read path with
    | error f =>
      refine ends_loadAllocator_of_unread hpath hread number ?_
      exact (Turn.refl h _).imp fun _ => not_ofWriting_of_read hread
    | ok bytes =>
      have hlisted : Roster.entries (Roster.read (linesOf bytes)) =
          d.registry.layout.listedAt d.disk registrant := by
        rw [Layout.listedAt, hpath]
        simp only [hread]
      have hadmission : d.admission number bytes = Roster.receive (d.registry.holding number)
          (d.registry.layout.listedAt d.disk registrant) := by
        rw [admission, hlisted]
      refine ends_loadAllocator hclosed hpath hread ?_ ?_
      · intro hsame notices
        rw [hadmission] at hsame
        rw [made, hadmission]
        refine ⟨turn_of_notices h _ _, ready_of_received hget hpath ?_ ?_ ?_ ?_ _⟩
        · exact .refl h
        · rfl
        · exact fun _ => rfl
        · exact hsame.symm
      · intro _ notices
        rw [made, hadmission]
        have hadv := Roster.advances_receive (d.registry.holding number)
          (d.registry.layout.listedAt d.disk registrant)
        have ho := Registry.onward_modifyHolding (f := fun _ =>
          (Roster.receive (d.registry.holding number)
            (d.registry.layout.listedAt d.disk registrant)).holding) h hadv
        have hholding := Registry.holding_modifyHolding_self (h.lt_of_get? hget) (fun _ =>
          (Roster.receive (d.registry.holding number)
            (d.registry.layout.listedAt d.disk registrant)).holding)
        refine (smooth_saveLedger h hopen ho rfl _).imp ?_ fun _ _ hf => hf
        rintro _ e ⟨hsaved, hturn⟩
        have hregistry := hsaved.registry
        refine ⟨hturn, ready_of_received hget hpath hturn.registry (by rw [hregistry]; rfl) ?_
          (by rw [hregistry]; exact hholding) _⟩
        intro hs
        exact hsaved.listed hs.plain (hs.placed hopen) registrant (h.isKey hget)

/-- Where the roster can be read, only a write may fail. -/
theorem ends_loadAllocator_of_read {d : Desk} (hclosed : d.registry.closed = false)
    {registrant : String} {number : Nat} {path : Path}
    (hpath : d.registry.layout.rosterPath registrant = .ok path) {bytes : Option (List UInt8)}
    (hread : d.disk.read path = .ok bytes) :
    Ends d (loadAllocator registrant number) (fun _ _ => True) (fun f _ => f.ofWriting = true) :=
  ends_loadAllocator hclosed hpath hread (fun _ _ => trivial) fun _ _ =>
    ends_saveLedger (fun _ _ => trivial) fun _ _ _ _ _ hf => hf

/-- **The allocator of a registrant is made in a turn.** -/
theorem follows_allocatorFor {d : Desk} (h : d.registry.Lawful) (name sizeA sizeB : Argument) :
    Follows d (allocatorFor name sizeA sizeB) fun registrant e =>
      Registrant.ofArgument name = .ok registrant ∧
        (e.registry.allocator? registrant).isSome = true := by
  unfold allocatorFor
  rw [Follows, ends_bind, ends_check]
  cases hname : Registrant.ofArgument name with
  | error f => exact (Turn.refl h _).imp fun _ => Registrant.ofWriting_ofArgument hname
  | ok registrant =>
    simp only
    rw [ends_bind, ends_current]
    cases hal : d.registry.allocator? registrant with
    | some al => exact ⟨.refl h _, rfl, by rw [hal]; rfl⟩
    | none =>
      have hkey := Registrant.isKey_of_ofArgument hname
      refine Follows.bind (follows_getOrCreate h (.text registrant) sizeA sizeB) ?_
      rintro number e hturn ⟨other, hother, hget, hopen, hclosed, hall⟩
      rw [Registrant.ofArgument_key hkey] at hother
      obtain rfl := Except.ok.inj hother
      have he := hturn.registry.lawful
      have hnew : e.registry.allocator? registrant = none := by
        rw [Registry.allocator?, hall]
        exact hal
      rw [Follows, ends_bind]
      refine Ends.imp (follows_loadAllocator he hopen hclosed hget) ?_ fun _ _ hf => hf
      rintro al f ⟨hloaded, hready⟩
      rw [ends_bind, ends_update, ends_pure]
      refine ⟨turn_enlist hloaded hready hnew, rfl, ?_⟩
      have hself := f.registry.allocator?_setAllocator_self al
      rw [hready.lawful.registrant_eq] at hself
      rw [hself]
      rfl

/-! ### Handing out an id -/

/-- **Handing out an id taken apart:** a closed registry or a full holding refuses. Otherwise the id is
in memory first. Then it is told, unless it has too many digits, and the ledger and the roster are
saved. -/
theorem ends_grant_cases {d : Desk} {registrant : String} {al : Allocator}
    (hal : d.registry.allocator? registrant = some al) {space : Space} {name : String}
    {Q : Int → Desk → Prop} {E : Failure → Desk → Prop}
    (hclosed : d.registry.closed = true →
      E (.registryClosed d.registry.layout.ledgerPath.text) d)
    (hfull : d.registry.closed = false → ((d.registry.holding al.holding).get space).isFull = true →
      E (Failure.reservationExhausted registrant space
        ((d.registry.holding al.holding).get space).size).met d)
    (huntold : d.registry.closed = false →
      ((d.registry.holding al.holding).get space).isFull = false →
      ¬Text.Readable ((d.registry.holding al.holding).get space).nextId →
      E .tooLongToWrite { d with registry := d.registry.granted al space name })
    (hroom : d.registry.closed = false → ((d.registry.holding al.holding).get space).isFull = false →
      Text.Readable ((d.registry.holding al.holding).get space).nextId → ∀ notices,
      Ends ⟨d.registry.granted al space name, d.disk, notices⟩ saveLedger
        (fun _ e => Ends e (saveRoster registrant)
          (fun _ => Q ((d.registry.holding al.holding).get space).nextId) E) E) :
    Ends d (grant registrant space name) Q E := by
  unfold grant allocator
  rw [ends_bind, ends_ensureWritable]
  split
  · rename_i hshut
    exact hclosed hshut
  rename_i hshut
  rw [Bool.not_eq_true] at hshut
  rw [ends_bind, ends_bind, ends_current, hal]
  simp only
  rw [ends_pure, ends_bind, ends_current]
  split
  · rename_i hnone
    exact hfull hshut hnone
  · rename_i hsome
    rw [Bool.not_eq_true] at hsome
    rw [ends_bind, ends_update, ends_bind, ends_check]
    by_cases hreadable : Text.Readable ((d.registry.holding al.holding).get space).nextId
    · rw [if_pos hreadable]
      simp only
      rw [ends_bind, ends_tell, ends_bind]
      refine ends_persist ?_ ?_
      · exact hshut
      refine (hroom hshut hsome hreadable _).imp ?_ fun _ _ hf => hf
      intro _ e he
      rw [ends_bind]
      exact he
    · rw [if_neg hreadable]
      exact huntold hshut hsome hreadable

/-- Where a write fails while an id is handed out: in memory the name is bound, but the roster is as
it was. -/
structure Lost (d e : Desk) (registrant : String) (al : Allocator) (space : Space)
    (name : String) : Prop where
  room : ((d.registry.holding al.holding).get space).isFull = false
  registry : e.registry = d.registry.granted al space name
  listed : d.InStep → d.registry.layout.listedAt e.disk registrant =
    d.registry.layout.listedAt d.disk registrant

/-- All ids of a registrant are on file. -/
def Filed (d : Desk) (registrant : String) : Prop :=
  ∀ s name id, d.registry.Binds registrant s name id →
    d.registry.layout.OnFile d.disk registrant s name id

section Grant

variable {d : Desk} {registrant : String} {al : Allocator} {space : Space} {name : String}
  {r : Registry}

/-- After the ledger was saved with the new count, a write of the roster completes the turn. -/
theorem turn_granted (h : d.registry.Lawful) (hal : d.registry.allocator? registrant = some al)
    (hnew : Assoc.get? name (al.ids.get space) = none)
    (ho : d.registry.Onward (d.registry.granted al space name)) {notices : List Notice} {e f : Desk}
    (hledger : LedgerSaved ⟨d.registry.granted al space name, d.disk, notices⟩ e)
    (hturn : Turn False d e)
    (hroster : RosterSaved e f registrant (d.registry.grantee al space name)) :
    Turn True d f := by
  have hopen := h.opened_of_allocator? hal
  have hal' := Registry.allocator?_granted h hal space name
  obtain ⟨re, disk, noticesE⟩ := e
  obtain rfl : re = d.registry.granted al space name := hledger.registry
  have hlawful' := ho.lawful.allocators registrant _ hal'
  refine ⟨hturn.toOnward.trans hroster.onward, ?_, ?_, fun hl stored hg =>
    hroster.guards hl (hturn.guards hl stored hg)⟩
  · intro hs
    have hlisted : d.registry.layout.listedAt disk registrant =
        d.registry.layout.listedAt d.disk registrant :=
      hledger.listed hs.plain (hs.placed hopen) registrant (ho.lawful.isKey hlawful'.holding)
    obtain ⟨bytes, hbytes⟩ := hledger.read hs.plain
    refine (hturn.keeps hs).trans (hroster.keeps hlawful' hs.plain (hs.plain.placed hbytes)
      (hledger.table hs.plain) ?_)
    intro s x hx
    refine (Registry.mem_grantee hnew).2 (.inl ((hs.rosters registrant al hal s x).2 ?_))
    rw [← ho.receive_ids h hal, ← hlisted]
    rw [Layout.idsAt, hledger.table hs.plain, Registry.get?_entries, hlawful'.holding] at hx
    exact hx
  · intro _ hs
    refine hroster.inStep ho.lawful hal' hs.plain (hledger.read hs.plain) (hledger.table hs.plain) ?_
    intro k other hk hother s x
    rw [Registry.allocator?_granted_of_ne h hal space name hk] at hother
    have hkey := h.isKey (h.allocators k other hother).holding
    have hlisted : d.registry.layout.listedAt disk k = d.registry.layout.listedAt d.disk k :=
      hledger.listed hs.plain (hs.placed hopen) k hkey
    rw [hs.rosters k other hother s x, ho.receive_ids h hother, ← hlisted]
    exact Iff.rfl

/-- After the ledger and the roster were written, all ids of the registrant are on file. -/
theorem filed_granted (h : d.registry.Lawful) (hal : d.registry.allocator? registrant = some al)
    (ho : d.registry.Onward (d.registry.granted al space name)) {notices : List Notice} {e f : Desk}
    (hledger : LedgerSaved ⟨d.registry.granted al space name, d.disk, notices⟩ e)
    (hroster : RosterSaved e f registrant (d.registry.grantee al space name))
    (hl : d.registry.layout.Plain) : f.Filed registrant := by
  have hal' := Registry.allocator?_granted h hal space name
  obtain ⟨re, disk, noticesE⟩ := e
  obtain rfl : re = d.registry.granted al space name := hledger.registry
  obtain ⟨rf, diskF, noticesF⟩ := f
  obtain rfl : rf = d.registry.granted al space name := hroster.registry
  obtain ⟨bytes, hbytes⟩ := hledger.read hl
  have hplaced := hl.placed hbytes
  have htable : d.registry.layout.tableAt diskF = (d.registry.granted al space name).entries := by
    have hread : diskF.read d.registry.layout.ledgerPath =
      disk.read d.registry.layout.ledgerPath := hroster.read hl hplaced
    rw [← hledger.table hl, Layout.tableAt, hread]
    rfl
  rintro s other id ⟨found, hfound, hget⟩
  obtain rfl := Option.some.inj (hal'.symm.trans hfound)
  have hmem := Registry.mem_of_binds hget
  refine Registry.onFile_of_covers ho.lawful hal' htable hmem ?_
  have hown := hroster.own hl hplaced s
  simp only at hown
  rw [hown]
  exact mem_sortBy.2 hmem

/-- If the write of the roster fails, the count in the ledger has moved forward, but the roster is as
it was. -/
theorem lost_granted (h : d.registry.Lawful) (hal : d.registry.allocator? registrant = some al)
    (hroom : ((d.registry.holding al.holding).get space).isFull = false)
    {notices : List Notice} {e g : Desk} {failure : Failure}
    (hledger : LedgerSaved ⟨d.registry.granted al space name, d.disk, notices⟩ e)
    (hturn : Turn False d e) (hfailed : WriteFailed e g failure) :
    Turn (failure.ofWriting = false) d g ∧ Lost d g registrant al space name := by
  have hopen := h.opened_of_allocator? hal
  have hkey := h.isKey (h.allocators registrant al hal).holding
  obtain ⟨re, disk, noticesE⟩ := e
  obtain rfl : re = d.registry.granted al space name := hledger.registry
  have hsame : d.InStep → SameFiles d.registry.layout disk g.disk := by
    intro hs
    obtain ⟨bytes, hbytes⟩ := hledger.read hs.plain
    exact hfailed.same hs.plain (hs.plain.placed hbytes)
  refine ⟨⟨hturn.toOnward.trans hfailed.onward, ?_, hfailed.not_smooth, fun hl stored hg =>
    hfailed.guards hl (hturn.guards hl stored hg)⟩, hroom, hfailed.registry, ?_⟩
  · intro hs
    exact (hturn.keeps hs).trans (Layout.keeps_of_sameFiles (hsame hs))
  · intro hs
    have hlisted := hledger.listed hs.plain (hs.placed hopen) registrant hkey
    exact ((hsame hs).listedAt hkey).trans hlisted

end Grant

/-- **Handing out an id is a turn.** When an id is returned, it is on file, and so are all others of
the registrant. -/
theorem ends_grant {d : Desk} (h : d.registry.Lawful) {registrant : String} {al : Allocator}
    (hal : d.registry.allocator? registrant = some al) {space : Space} {name : String}
    (hname : IdName.Storable name) (hnew : Assoc.get? name (al.ids.get space) = none) :
    Ends d (grant registrant space name)
      (fun id e => Turn True d e ∧ id = ((d.registry.holding al.holding).get space).nextId ∧
        e.registry = d.registry.granted al space name ∧
        (d.registry.layout.Plain → e.Filed registrant))
      (fun f e => Turn (f.ofWriting = false) d e ∧
        (f.ofWriting = true → Lost d e registrant al space name)) := by
  have hlawful := h.allocators registrant al hal
  have hkey := h.isKey hlawful.holding
  have hopen := h.opened_of_allocator? hal
  refine ends_grant_cases hal ?_ ?_ ?_ ?_
  · exact fun _ => ⟨.refl h _, fun hw => by cases hw⟩
  · exact fun _ _ => ⟨.refl h _, fun hw => by rw [Failure.ofWriting_met rfl] at hw; cases hw⟩
  · exact fun _ hroom hlong => absurd (Registry.readable_nextId h hlawful hroom) hlong
  · intro _ hroom _ notices
    have ho := Registry.onward_granted h hal hname hnew hroom
    have hal' := Registry.allocator?_granted h hal space name
    -- first the ledger is saved, then the roster
    refine (turn_saveLedger hopen ho notices).imp ?_ ?_
    · rintro _ e ⟨hledger, hturn⟩
      have he : e.registry.Lawful := hturn.registry.lawful
      have hregistry : e.registry = d.registry.granted al space name := hledger.registry
      rw [← hregistry] at hal'
      refine (saves_roster he hal').imp ?_ ?_
      · intro _ f hroster
        exact ⟨turn_granted h hal hnew ho hledger hturn hroster, rfl,
          hroster.registry.trans hregistry, filed_granted h hal ho hledger hroster⟩
      · intro failure g hfailed
        obtain ⟨hturn', hlost⟩ := lost_granted h hal hroom hledger hturn hfailed
        exact ⟨hturn', fun _ => hlost⟩
    · rintro f e ⟨hfailed, hturn⟩
      refine ⟨hturn, fun _ => ⟨hroom, hfailed.registry, ?_⟩⟩
      intro hs
      exact (hfailed.same hs.plain (hs.placed hopen)).listedAt hkey

/-! ### Allocating -/

theorem ofWriting_noSpace (x : Argument) : x.noSpace.ofWriting = false := by
  unfold Argument.noSpace
  split <;> rfl

theorem ofWriting_toSpace {x : Argument} {f : Failure} (h : x.toSpace = .error f) :
    f.ofWriting = false := by
  unfold Argument.toSpace at h
  split at h
  · cases h
  · split at h
    · cases h
    · cases h
    · obtain rfl := Except.error.inj h
      exact ofWriting_noSpace _
  · obtain rfl := Except.error.inj h
    exact ofWriting_noSpace _

theorem ofWriting_idName {x : Argument} {f : Failure} (h : IdName.ofArgument x = .error f) :
    f.ofWriting = false := by
  unfold IdName.ofArgument IdName.ofText at h
  split at h
  · split at h
    · cases h
    · obtain rfl := Except.error.inj h
      rfl
    · obtain rfl := Except.error.inj h
      rfl
  · obtain rfl := Except.error.inj h
    rfl

/-- Looking up a name that can be looked up at all, in a space that exists. -/
theorem lookup_eq_ok {al : Allocator} {name space : Argument} {found : Option Int}
    (h : al.lookup name space = .ok found) :
    ∃ s key, space.toSpace = .ok s ∧ name.lookupKey = .ok key ∧
      found = key.bind fun k => Assoc.get? k (al.ids.get s) := by
  unfold Allocator.lookup at h
  cases hspace : space.toSpace with
  | error f =>
    rw [hspace] at h
    cases h
  | ok s =>
    rw [hspace] at h
    cases hkey : name.lookupKey with
    | error f =>
      rw [hkey] at h
      cases h
    | ok key =>
      rw [hkey] at h
      exact ⟨s, key, rfl, rfl, (Except.ok.inj h).symm⟩

theorem ofWriting_lookup {al : Allocator} {name space : Argument} {f : Failure}
    (h : al.lookup name space = .error f) : f.ofWriting = false := by
  unfold Allocator.lookup at h
  cases hspace : space.toSpace with
  | error g =>
    rw [hspace] at h
    obtain rfl := Except.error.inj h
    exact ofWriting_toSpace hspace
  | ok s =>
    rw [hspace] at h
    cases hkey : name.lookupKey with
    | error g =>
      rw [hkey] at h
      obtain rfl := Except.error.inj h
      cases name <;> first | cases hkey; rfl | cases hkey
    | ok key =>
      rw [hkey] at h
      cases h

/-- Only a text can be found among names. -/
theorem text_of_lookupKey {name : Argument} {key : String} (h : name.lookupKey = .ok (some key)) :
    name = .text key := by
  cases name <;> cases h
  rfl

/-- **A bound name keeps its id,** whatever has become of the files: it is found in memory. -/
theorem allocate_of_bound {d : Desk} {registrant : String} {al : Allocator}
    (hal : d.registry.allocator? registrant = some al) {s : Space} {name : String} {id : Int}
    (hget : Assoc.get? name (al.ids.get s) = some id) {space : Argument}
    (hspace : space.toSpace = .ok s) :
    al.lookup (.text name) space = .ok (some id) ∧
      allocate registrant (.text name) space d = .ok id d := by
  have hlookup : al.lookup (.text name) space = .ok (some id) := by
    have hfound : al.lookup (.text name) space = .ok (Assoc.get? name (al.ids.get s)) := by
      unfold Allocator.lookup
      rw [hspace]
      rfl
    rw [hfound, hget]
  refine ⟨hlookup, eq_ok_of_ends ?_⟩
  unfold allocate allocator
  rw [ends_bind, ends_bind, ends_current, hal]
  simp only
  rw [ends_pure, ends_bind, ends_check, hlookup]
  exact ⟨rfl, rfl⟩

/-- What a call of `allocate` is about, if it is about anything. -/
structure Asks (d : Desk) (registrant : String) (name space : Argument) (al : Allocator)
    (s : Space) (key : String) : Prop where
  allocator : d.registry.allocator? registrant = some al
  space_eq : space.toSpace = .ok s
  name_eq : name = .text key

/-- **`allocate` taken apart:** it is refused, or the name is bound and nothing happens, or an id is handed
out under a name that is new. -/
theorem ends_allocate_cases {d : Desk} {registrant : String} {name space : Argument}
    {Q : Int → Desk → Prop} {E : Failure → Desk → Prop}
    (hrefused : ∀ f, f.ofWriting = false → E f d)
    (hbound : ∀ al s key id, d.Asks registrant name space al s key →
      Assoc.get? key (al.ids.get s) = some id → Q id d)
    (hgrant : ∀ al s key, d.Asks registrant name space al s key → IdName.Storable key →
      Assoc.get? key (al.ids.get s) = none → Ends d (grant registrant s key) Q E) :
    Ends d (allocate registrant name space) Q E := by
  unfold allocate allocator
  rw [ends_bind, ends_bind, ends_current]
  cases hal : d.registry.allocator? registrant with
  | none => exact hrefused _ rfl
  | some al =>
    simp only
    rw [ends_pure, ends_bind, ends_check]
    cases hlookup : al.lookup name space with
    | error f => exact hrefused f (ofWriting_lookup hlookup)
    | ok found =>
      obtain ⟨s, looked, hspace, hkey, rfl⟩ := lookup_eq_ok hlookup
      simp only
      cases hfound : looked.bind fun k => Assoc.get? k (al.ids.get s) with
      | some id =>
        obtain ⟨key, rfl, hget⟩ := Option.bind_eq_some_iff.1 hfound
        exact hbound al s key id ⟨hal, hspace, text_of_lookupKey hkey⟩ hget
      | none =>
        simp only
        rw [ends_bind, ends_check, hspace]
        simp only
        rw [ends_bind, ends_check]
        cases hname : IdName.ofArgument name with
        | error f => exact hrefused f (ofWriting_idName hname)
        | ok key =>
          obtain ⟨htext, hstorable⟩ := IdName.storable_of_ofArgument hname
          rw [htext] at hkey
          obtain rfl : some key = looked := Except.ok.inj hkey
          exact hgrant al s key ⟨hal, hspace, htext⟩ hstorable hfound

/-- A name that an id may have and that is not bound is given one. -/
theorem ends_allocate_of_unbound {d : Desk} {registrant : String} {al : Allocator}
    (hal : d.registry.allocator? registrant = some al) {s : Space} {space : Argument}
    (hspace : space.toSpace = .ok s) {key : String} (hname : IdName.ofArgument (.text key) = .ok key)
    (hnew : Assoc.get? key (al.ids.get s) = none) {Q : Int → Desk → Prop}
    {E : Failure → Desk → Prop} :
    Ends d (allocate registrant (.text key) space) Q E ↔ Ends d (grant registrant s key) Q E := by
  have hlookup : al.lookup (.text key) space = .ok none := by
    unfold Allocator.lookup
    rw [hspace, ← hnew]
    rfl
  unfold allocate allocator
  rw [ends_bind, ends_bind, ends_current, hal]
  simp only
  rw [ends_pure, ends_bind, ends_check, hlookup]
  simp only
  rw [ends_bind, ends_check, hspace]
  show Ends d (check (IdName.ofArgument (.text key)) >>= fun key => grant registrant s key) Q E ↔ _
  rw [ends_bind, ends_check, hname]

/-- How a call of `allocate` that returns an id came by it: the name was bound to it, or it is new, and
everything of the registrant is on file. -/
inductive Allocated (d e : Desk) (registrant : String) (al : Allocator) (s : Space)
    (key : String) (id : Int) : Prop
  | bound (hget : Assoc.get? key (al.ids.get s) = some id) (same : e = d)
  | granted (hnew : Assoc.get? key (al.ids.get s) = none)
      (id_eq : id = ((d.registry.holding al.holding).get s).nextId)
      (registry : e.registry = d.registry.granted al s key)
      (filed : d.registry.layout.Plain → e.Filed registrant)

/-- **`allocate` is a turn.** A name that was bound keeps its id and nothing happens; a new name gets
an id that is on file; if a write fails, the name is bound all the same. -/
theorem ends_allocate {d : Desk} (h : d.registry.Lawful) (registrant : String)
    (name space : Argument) :
    Ends d (allocate registrant name space)
      (fun id e => Turn True d e ∧ ∃ al s key, d.Asks registrant name space al s key ∧
        d.Allocated e registrant al s key id)
      (fun f e => Turn (f.ofWriting = false) d e ∧ (f.ofWriting = true →
        ∃ al s key, d.Asks registrant name space al s key ∧
          Assoc.get? key (al.ids.get s) = none ∧ Lost d e registrant al s key)) := by
  refine ends_allocate_cases ?_ ?_ ?_
  · intro f hwriting
    refine ⟨(Turn.refl h _).imp fun _ => hwriting, fun hw => ?_⟩
    rw [hwriting] at hw
    cases hw
  · exact fun al s key id hasks hget => ⟨.refl h _, al, s, key, hasks, .bound hget rfl⟩
  · intro al s key hasks hstorable hnew
    refine (ends_grant h hasks.allocator hstorable hnew).imp ?_ ?_
    · rintro id e ⟨hturn, hid, hregistry, hfiled⟩
      exact ⟨hturn, al, s, key, hasks, .granted hnew hid hregistry hfiled⟩
    · rintro f e ⟨hturn, hlost⟩
      exact ⟨hturn, fun hw => ⟨al, s, key, hasks, hnew, hlost hw⟩⟩

/-- Whatever `allocate` returns is bound to the name behind it. -/
theorem Allocated.binds {d e : Desk} (h : d.registry.Lawful) {registrant : String}
    {name space : Argument} {al : Allocator} {s : Space} {key : String}
    (hasks : d.Asks registrant name space al s key) {id : Int}
    (hall : d.Allocated e registrant al s key id) : e.registry.Binds registrant s key id := by
  cases hall with
  | bound hget same => exact ⟨al, same ▸ hasks.allocator, hget⟩
  | granted hnew id_eq registry filed =>
    refine ⟨_, registry ▸ Registry.allocator?_granted h hasks.allocator s key, ?_⟩
    rw [Registry.get?_grantee_self, id_eq]

end Desk

end Allotment
