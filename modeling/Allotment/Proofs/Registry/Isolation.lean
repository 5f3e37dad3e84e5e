import Allotment.Proofs.Disk.Frame
import Allotment.Proofs.Registry.Invariants

/-!
# Registrants are isolated

What is asked about one registrant leaves everybody else alone: their holdings, their allocators and
their files. The names of the files see to the last: two registrants never share a roster, and no
roster is the ledger.

* `Request.About` — a request about one registrant;
* `Desk.Spares` — a step from one desk to another that changes nothing of anybody but one registrant,
  and writes no other files than the ledger and that registrant's roster;
* `spares_openLedger`, `spares_getOrCreate`, `spares_loadAllocator`, `spares_allocatorFor`,
  `spares_allocate` — **PROVED**: each action about a registrant is such a step, whether it returns
  or fails;
* `spares_after`, `spares_run` — **PROVED**: so is each request, and each list of requests;
* `rosterPath_injective`, `locate_rosterPath_ne` — **PROVED**: different registrants have different
  rosters, which lead to different places on every disk, and never to the place of the ledger;
* `isolated_history` — **PROVED**: so registrants are isolated at every moment.
-/

namespace Allotment

open Disk (Touches touches_replace touches_store_error)

/-! ### Where the files are -/

namespace Layout

variable {l : Layout}

/-- The files that belong to a registrant: the ledger, and the roster if there is one. -/
def filesOf (l : Layout) (registrant : String) : List Path :=
  match l.rosterPath registrant with
  | .ok p => [l.ledgerPath, p]
  | .error _ => [l.ledgerPath]

theorem ledgerPath_mem_filesOf (l : Layout) (registrant : String) :
    l.ledgerPath ∈ l.filesOf registrant := by
  unfold filesOf
  split <;> exact List.mem_cons_self

theorem rosterPath_mem_filesOf {registrant : String} {p : Path}
    (hp : l.rosterPath registrant = .ok p) : p ∈ l.filesOf registrant := by
  rw [filesOf, hp]
  exact List.mem_cons_of_mem _ (List.mem_singleton_self p)

theorem mem_filesOf {registrant : String} {p : Path} (h : p ∈ l.filesOf registrant) :
    p = l.ledgerPath ∨ l.rosterPath registrant = .ok p := by
  unfold filesOf at h
  split at h
  · rename_i roster hroster
    rcases List.mem_cons.1 h with rfl | h
    · exact .inl rfl
    · rw [List.mem_singleton.1 h]
      exact .inr hroster
  · exact .inl (List.mem_singleton.1 h)

section Flat

variable (hledger : '/' ∉ l.ledgerName.toList) (hsuffix : '/' ∉ l.rosterSuffix.toList)

/-- The ledger is a file in the directory, unless its name has a meaning in paths; then it may stand
for the directory itself. -/
theorem ledgerPath_of_flat (hledger : '/' ∉ l.ledgerName.toList) :
    l.ledgerPath = l.dir ∨ l.ledgerPath = l.dir.child l.ledgerName := by
  have hself : ∀ name, Path.ofString name = ⟨.here, []⟩ → l.dir.join name = l.dir := by
    intro name hname
    rw [Path.join, hname]
    show (⟨l.dir.root, l.dir.names ++ []⟩ : Path) = l.dir
    rw [List.append_nil]
  by_cases hempty : l.ledgerName = ""
  · left
    rw [ledgerPath, hempty]
    exact hself "" (by decide)
  by_cases hdot : l.ledgerName = "."
  · left
    rw [ledgerPath, hdot]
    exact hself "." (by decide)
  · exact .inr (Path.join_of_flat l.dir hledger hempty hdot)

include hsuffix

/-- **Different registrants have different rosters.** -/
theorem rosterPath_injective {k j : String} (hk : Registrant.IsKey k) (hj : Registrant.IsKey j)
    {p : Path} (hp : l.rosterPath k = .ok p) (hq : l.rosterPath j = .ok p) : k = j := by
  have hpath := (rosterPath_of_flat hsuffix hk hp).1
  have hpath' := (rosterPath_of_flat hsuffix hj hq).1
  exact rosterName_injective (Path.child_injective (hpath.symm.trans hpath'))

/-- So wherever a roster is, no other registrant's roster is there. -/
theorem locate_rosterPath_ne {k j : String} (hk : Registrant.IsKey k) (hj : Registrant.IsKey j)
    (hne : k ≠ j) {p q : Path} (hp : l.rosterPath k = .ok p) (hq : l.rosterPath j = .ok q)
    {disk : Disk} {loc : Location} (hloc : disk.locate p = .ok loc) :
    disk.locate q ≠ .ok loc := by
  obtain ⟨rfl, -⟩ := rosterPath_of_flat hsuffix hk hp
  obtain ⟨rfl, -⟩ := rosterPath_of_flat hsuffix hj hq
  exact Disk.locate_child_ne (rosterName_ne hk).2.2
    (fun heq => hne (rosterName_injective heq).symm) hloc

include hledger

/-- Nor is the ledger there. -/
theorem locate_ledgerPath_ne {k : String} (hk : Registrant.IsKey k) {p : Path}
    (hp : l.rosterPath k = .ok p) {disk : Disk} {loc : Location} (hloc : disk.locate p = .ok loc) :
    disk.locate l.ledgerPath ≠ .ok loc := by
  obtain ⟨rfl, hne⟩ := rosterPath_of_flat hsuffix hk hp
  have hdots := (rosterName_ne (l := l) hk).2.2
  rcases ledgerPath_of_flat hledger with hdir | hchild
  · rw [hdir]
    exact Disk.locate_dir_ne hdots hloc
  · rw [hchild] at hne ⊢
    exact Disk.locate_child_ne hdots (fun heq => hne (congrArg l.dir.child heq.symm)) hloc

end Flat

end Layout

/-! ### Steps that spare everybody but one registrant -/

namespace Registry

variable {r : Registry}

/-- No two registrants share a holding. -/
theorem Lawful.eq_of_number (h : r.Lawful) {k j : String} {number : Nat}
    (hk : Assoc.get? k r.table = some number) (hj : Assoc.get? j r.table = some number) :
    k = j := by
  have howner := (h.fits hk .a).owner_eq
  have howner' := (h.fits hj .a).owner_eq
  exact howner.symm.trans howner'

/-- A new holding leaves those of the others. -/
theorem get?_entries_issue (h : r.Lawful) {registrant other : String} (hne : other ≠ registrant)
    (holding : Holding) :
    Assoc.get? other (r.issue registrant holding).entries = Assoc.get? other r.entries := by
  have htable : Assoc.get? other (r.issue registrant holding).table = Assoc.get? other r.table :=
    Assoc.get?_put_of_ne hne r.holdings.length r.table
  rw [get?_entries, get?_entries, htable]
  cases hother : Assoc.get? other r.table with
  | none => rfl
  | some number =>
    have hsame : (r.issue registrant holding).holding number = r.holding number :=
      holding_append (h.lt_of_get? hother) _
    show some _ = some _
    rw [hsame]

/-- Changing a holding leaves those of the others. -/
theorem get?_entries_modifyHolding (h : r.Lawful) {registrant other : String}
    (hne : other ≠ registrant) {number : Nat} (hget : Assoc.get? registrant r.table = some number)
    (f : Holding → Holding) :
    Assoc.get? other (r.modifyHolding number f).entries = Assoc.get? other r.entries := by
  have htable : Assoc.get? other (r.modifyHolding number f).table = Assoc.get? other r.table := rfl
  rw [get?_entries, get?_entries, htable]
  cases hother : Assoc.get? other r.table with
  | none => rfl
  | some number' =>
    show some _ = some _
    rcases r.holding_modifyHolding number number' f with hsame | ⟨rfl, -⟩
    · rw [hsame]
    · exact absurd (h.eq_of_number hother hget) hne

end Registry

namespace Desk

/-- A step that changes nothing of anybody but one registrant. -/
structure Spares (registrant : String) (d e : Desk) : Prop where
  layout : e.registry.layout = d.registry.layout
  opened : d.registry.opened = true → e.registry.opened = true
  entries : d.registry.opened = true → ∀ other, other ≠ registrant →
    Assoc.get? other e.registry.entries = Assoc.get? other d.registry.entries
  allocators : ∀ other, other ≠ registrant →
    e.registry.allocator? other = d.registry.allocator? other
  disk : Touches (d.registry.layout.filesOf registrant) d.disk e.disk

section Steps

variable {registrant : String} {d e f : Desk}

theorem Spares.of_notices (registrant : String) (d : Desk) (notices : List Notice) :
    Spares registrant d { d with notices } :=
  ⟨rfl, id, fun _ _ _ => rfl, fun _ _ => rfl, .refl _ _⟩

theorem Spares.refl (registrant : String) (d : Desk) : Spares registrant d d :=
  .of_notices registrant d d.notices

theorem Spares.trans (h1 : Spares registrant d e) (h2 : Spares registrant e f) :
    Spares registrant d f where
  layout := h2.layout.trans h1.layout
  opened hopen := h2.opened (h1.opened hopen)
  entries hopen other hne :=
    (h2.entries (h1.opened hopen) other hne).trans (h1.entries hopen other hne)
  allocators other hne := (h2.allocators other hne).trans (h1.allocators other hne)
  disk := h1.disk.trans (h1.layout ▸ h2.disk)

/-- A write to a file of the registrant. -/
theorem Spares.of_write {p : Path} (hp : p ∈ d.registry.layout.filesOf registrant)
    {bytes : List UInt8} {disk : Disk} (hwrite : d.disk.replace p bytes = (.ok (), disk)) :
    Spares registrant d { d with disk } := by
  have htouch := touches_replace d.disk p bytes
  rw [hwrite] at htouch
  refine ⟨rfl, id, fun _ _ _ => rfl, fun _ _ => rfl, htouch.mono ?_⟩
  intro q hq
  rw [List.mem_singleton.1 hq]
  exact hp

/-- A write that fails. -/
theorem Spares.of_failed {p : Path} {text : Option (List Char)} {fault : WriteFault} {disk : Disk}
    (hwrite : d.disk.store p text = (.error fault, disk)) (notices : List Notice) :
    Spares registrant d { d with disk, notices } :=
  ⟨rfl, id, fun _ _ _ => rfl, fun _ _ => rfl,
    (touches_store_error hwrite).mono (List.forall_mem_nil _)⟩

/-- A new holding of the registrant. -/
theorem Spares.of_issue (h : d.registry.Lawful) (holding : Holding) (notices : List Notice) :
    Spares registrant d ⟨d.registry.issue registrant holding, d.disk, notices⟩ :=
  ⟨rfl, id, fun _ _ hne => Registry.get?_entries_issue h hne holding, fun _ _ => rfl, .refl _ _⟩

/-- A change of the registrant's holding. -/
theorem Spares.of_modifyHolding (h : d.registry.Lawful) {number : Nat}
    (hget : Assoc.get? registrant d.registry.table = some number) (f : Holding → Holding)
    (notices : List Notice) :
    Spares registrant d ⟨d.registry.modifyHolding number f, d.disk, notices⟩ :=
  ⟨rfl, id, fun _ _ hne => Registry.get?_entries_modifyHolding h hne hget f, fun _ _ => rfl,
    .refl _ _⟩

/-- A new allocator of the registrant. -/
theorem Spares.of_setAllocator {al : Allocator} (hal : al.registrant = registrant) :
    Spares registrant d { d with registry := d.registry.setAllocator al } := by
  refine ⟨rfl, id, fun _ _ _ => rfl, ?_, .refl _ _⟩
  intro other hne
  exact Registry.allocator?_setAllocator_of_ne d.registry al (hal.symm ▸ hne)

end Steps

/-! ### Actions about one registrant -/

variable {α β : Type}

/-- An action spares everybody but one registrant, whether it returns a value or fails. -/
def Sparing (registrant : String) (d : Desk) (act : Act α) (Q : α → Desk → Prop) : Prop :=
  Ends d act (fun x e => Spares registrant d e ∧ Q x e) fun _ e => Spares registrant d e

section Actions

variable {registrant : String} {d : Desk}

theorem Sparing.bind {act : Act β} {next : β → Act α} {Q' : β → Desk → Prop}
    {Q : α → Desk → Prop} (h : Sparing registrant d act Q')
    (hnext : ∀ x e, Spares registrant d e → Q' x e → Sparing registrant e (next x) Q) :
    Sparing registrant d (act >>= next) Q := by
  refine Ends.bind h (fun _ _ he => he) ?_
  rintro x e ⟨hspares, hx⟩
  refine (hnext x e hspares hx).imp ?_ fun _ _ hf => hspares.trans hf
  exact fun _ _ hf => ⟨hspares.trans hf.1, hf.2⟩

/-- A step before an action. -/
theorem Spares.before {act : Act α} {Q : α → Desk → Prop} {e : Desk}
    (hspares : Spares registrant d e) (h : Sparing registrant e act Q) :
    Ends e act (fun x f => Spares registrant d f ∧ Q x f) fun _ f => Spares registrant d f :=
  h.imp (fun _ _ hf => ⟨hspares.trans hf.1, hf.2⟩) fun _ _ hf => hspares.trans hf

/-- What else is known of the end of an action may be used with it. -/
theorem Sparing.and {act : Act α} {Q Q' : α → Desk → Prop} {E : Failure → Desk → Prop}
    (h : Sparing registrant d act Q) (h' : Ends d act Q' E) :
    Sparing registrant d act fun x e => Q x e ∧ Q' x e :=
  (Ends.and h h').imp (fun _ _ hx => ⟨hx.1.1, hx.1.2, hx.2⟩) fun _ _ hf => hf.1

theorem spares_saveLedger : Sparing registrant d saveLedger fun _ e => e.registry = d.registry := by
  refine ends_saveLedger ?_ ?_
  · intro disk hwrite
    exact ⟨.of_write (Layout.ledgerPath_mem_filesOf _ _) hwrite, rfl⟩
  · intro fault disk f notices hwrite _
    exact .of_failed hwrite _

/-- Opening concerns nobody: an open registry has its table already. -/
theorem spares_openLedger : Sparing registrant d openLedger fun _ _ => True := by
  cases hclosed : d.registry.closed with
  | true => exact ends_openLedger_of_closed hclosed (.refl _ _)
  | false =>
    cases hopen : d.registry.opened with
    | true => exact ends_openLedger_of_open hopen hclosed ⟨.refl _ _, trivial⟩
    | false =>
      have hloaded : ∀ bytes notices,
          Spares registrant d ⟨d.loaded bytes, d.disk, notices⟩ := by
        intro bytes notices
        refine ⟨loaded_layout d bytes, fun h => ?_, fun h => ?_, fun _ _ => ?_, .refl _ _⟩
        · rw [hopen] at h
          cases h
        · rw [hopen] at h
          cases h
        · rw [Registry.allocator?, loaded_allocators]
          rfl
      refine ends_openLedger_of_unopened hopen hclosed ?_ ?_ ?_
      · intro bytes notices _
        exact ⟨hloaded (some bytes) notices, trivial⟩
      · intro notices _
        refine ((hloaded none notices).before spares_saveLedger).imp ?_ fun _ _ hf => hf
        rintro _ e ⟨hspares, -⟩ more
        exact ⟨hspares.trans (.of_notices _ _ _), trivial⟩
      · intro f _
        exact .refl _ _

/-- Finding or placing the holding of a registrant. -/
theorem spares_findHolding (h : d.registry.Lawful) (hopen : d.registry.opened = true)
    (hclosed : d.registry.closed = false) (hkey : Registrant.IsKey registrant)
    (sizes : Both Int) :
    Sparing registrant d (findHolding registrant sizes) fun _ _ => True := by
  cases hget : Assoc.get? registrant d.registry.table with
  | some number =>
    rw [Sparing, ends_findHolding h hget]
    exact ⟨.of_notices _ _ _, trivial⟩
  | none =>
    rw [Sparing, ends_findHolding_of_new hget]
    refine ends_placeHolding h hopen hclosed hkey hget sizes ?_ fun f notices _ =>
      .of_notices _ _ _
    intro holding notices _
    refine ((Spares.of_issue h holding notices).before spares_saveLedger).imp ?_ fun _ _ hf => hf
    exact fun _ _ hx => ⟨hx.1, trivial⟩

/-- **`getOrCreate` spares everybody else.** -/
theorem spares_getOrCreate (h : d.registry.Lawful) {name : Argument}
    (hname : ∀ k, Registrant.ofArgument name = .ok k → k = registrant) (sizeA sizeB : Argument) :
    Sparing registrant d (getOrCreate name sizeA sizeB) fun _ _ => True := by
  rw [Sparing, ends_getOrCreate]
  cases hwanted : wanted d.registry.layout name sizeA sizeB with
  | error f => exact .refl _ _
  | ok want =>
    obtain ⟨k, sizes⟩ := want
    have hk := (wanted_eq_ok hwanted).1
    have hkey := Registrant.isKey_of_ofArgument hk
    obtain rfl := hname k hk
    refine Ends.imp (spares_openLedger.and (follows_openLedger h)) ?_ fun _ _ hf => hf
    rintro _ e ⟨hspares, -, hturn, hopen, hclosed, -⟩
    exact hspares.before (spares_findHolding hturn.registry.lawful hopen hclosed hkey sizes)

/-- **Loading an allocator spares everybody else.** -/
theorem spares_loadAllocator (h : d.registry.Lawful) (hclosed : d.registry.closed = false)
    {number : Nat} (hget : Assoc.get? registrant d.registry.table = some number) :
    Sparing registrant d (loadAllocator registrant number) fun al _ =>
      al.registrant = registrant := by
  cases hpath : d.registry.layout.rosterPath registrant with
  | error f =>
    unfold loadAllocator
    rw [Sparing, ends_bind, ends_current, ends_bind, ends_check, hpath]
    exact .refl _ _
  | ok path =>
    cases hread : d.disk.read path with
    | error f => exact ends_loadAllocator_of_unread hpath hread number (.refl _ _)
    | ok bytes =>
      refine ends_loadAllocator hclosed hpath hread ?_ ?_
      · intro _ notices
        exact ⟨.of_notices _ _ _, rfl⟩
      · intro _ notices
        have hmove := Spares.of_modifyHolding h hget (fun _ => (d.admission number bytes).holding)
          notices
        refine (hmove.before spares_saveLedger).imp ?_ fun _ _ hf => hf
        exact fun _ _ hx => ⟨hx.1, rfl⟩

/-- **`allocatorFor` spares everybody else.** -/
theorem spares_allocatorFor (h : d.registry.Lawful) {name : Argument}
    (hname : ∀ k, Registrant.ofArgument name = .ok k → k = registrant) (sizeA sizeB : Argument) :
    Sparing registrant d (allocatorFor name sizeA sizeB) fun _ _ => True := by
  unfold allocatorFor
  rw [Sparing, ends_bind, ends_check]
  cases hk : Registrant.ofArgument name with
  | error f => exact .refl _ _
  | ok k =>
    obtain rfl := hname k hk
    have htext : Registrant.ofArgument (.text k) = .ok k :=
      Registrant.ofArgument_key (Registrant.isKey_of_ofArgument hk)
    simp only
    rw [ends_bind, ends_current]
    cases d.registry.allocator? k with
    | some al => exact ⟨.refl _ _, trivial⟩
    | none =>
      have hfollows := follows_getOrCreate h (.text k) sizeA sizeB
      have hspares : Sparing k d (getOrCreate (.text k) sizeA sizeB) fun _ _ => True :=
        spares_getOrCreate h (fun j hj => Except.ok.inj (hj.symm.trans htext)) sizeA sizeB
      refine Sparing.bind (hspares.and hfollows) ?_
      rintro number e - ⟨-, hturn, j, hj, hget, -, hclosed, -⟩
      obtain rfl : k = j := Except.ok.inj (htext.symm.trans hj)
      refine Sparing.bind (spares_loadAllocator hturn.registry.lawful hclosed hget) ?_
      intro al f _ hal
      rw [Sparing, ends_bind, ends_update]
      exact ⟨.of_setAllocator hal, trivial⟩

/-- Saving the roster of an allocator writes its file. -/
theorem spares_saveRoster {al : Allocator} (hal : d.registry.allocator? registrant = some al)
    (hpath : d.registry.layout.rosterPath registrant = .ok al.path) :
    Sparing registrant d (saveRoster registrant) fun _ _ => True := by
  have hmem := Layout.rosterPath_mem_filesOf hpath
  refine ends_saveRoster hal ?_ ?_
  · intro disk hwrite
    exact ⟨.of_write hmem hwrite, trivial⟩
  · intro fault disk f notices hwrite _
    exact .of_failed hwrite _

/-- Handing out an id spares everybody else. -/
theorem spares_grant (h : d.registry.Lawful) {al : Allocator}
    (hal : d.registry.allocator? registrant = some al) (space : Space) (name : String) :
    Sparing registrant d (grant registrant space name) fun _ _ => True := by
  have hlawful := h.allocators registrant al hal
  have hmoved : ∀ notices,
      Spares registrant d ⟨d.registry.granted al space name, d.disk, notices⟩ := fun notices =>
    (Spares.of_modifyHolding h hlawful.holding (fun h => h.modify space Reservation.bump)
      notices).trans (.of_setAllocator hlawful.registrant_eq)
  refine ends_grant_cases hal ?_ ?_ ?_ ?_
  · exact fun _ => .refl _ _
  · exact fun _ _ => .refl _ _
  · exact fun _ _ _ => hmoved d.notices
  intro _ _ _ notices
  -- first the ledger is saved, then the roster
  have hal' := Registry.allocator?_granted h hal space name
  refine Ends.imp ((hmoved notices).before spares_saveLedger) ?_ fun _ _ hf => hf
  rintro _ e ⟨hspares, hregistry⟩
  have hgrantee : e.registry.allocator? registrant = some (d.registry.grantee al space name) := by
    rw [hregistry]
    exact hal'
  have hpath : e.registry.layout.rosterPath registrant = .ok al.path := by
    rw [hspares.layout]
    exact hlawful.path
  exact hspares.before (spares_saveRoster hgrantee hpath)

/-- **`allocate` spares everybody else.** -/
theorem spares_allocate (h : d.registry.Lawful) (name space : Argument) :
    Sparing registrant d (allocate registrant name space) fun _ _ => True := by
  refine ends_allocate_cases ?_ ?_ ?_
  · exact fun _ _ => .refl _ _
  · exact fun _ _ _ _ _ _ => ⟨.refl _ _, trivial⟩
  · exact fun al s key hasks _ _ => spares_grant h hasks.allocator s key

end Actions

end Desk

/-! ### Requests about one registrant -/

/-- A request about one registrant: its name, if it is one at all, is the registrant's. -/
def Request.About (registrant : String) : Request → Prop
  | .getOrCreate name _ _ => ∀ k, Registrant.ofArgument name = .ok k → k = registrant
  | .allocatorFor name _ _ => ∀ k, Registrant.ofArgument name = .ok k → k = registrant
  | .allocate k _ _ => k = registrant
  | _ => False

namespace Desk

variable {registrant : String} {d : Desk}

/-- **A request about one registrant spares everybody else,** whether it is met or not. -/
theorem spares_after (h : d.registry.Lawful) {request : Request}
    (habout : request.About registrant) : Spares registrant d (d.after request) := by
  have hdone : ∀ {α : Type} {act : Act α} {reply : α → Reply},
      Sparing registrant d act (fun _ _ => True) →
      Spares registrant d (left ((act >>= fun x => pure (reply x)) d)) := by
    intro α act reply hact
    have hreply : Sparing registrant d (act >>= fun x => pure (reply x)) fun _ _ => True :=
      hact.bind fun _ e _ _ => ⟨.refl registrant e, trivial⟩
    exact Ends.left (hreply.imp (fun _ _ hx => hx.1) fun _ _ hf => hf)
  cases request with
  | getOrCreate name sizeA sizeB => exact hdone (spares_getOrCreate h habout sizeA sizeB)
  | allocatorFor name sizeA sizeB => exact hdone (spares_allocatorFor h habout sizeA sizeB)
  | allocate k name space =>
    obtain rfl : k = registrant := habout
    exact hdone (spares_allocate h name space)
  | openLedger => exact habout.elim
  | saveRoster k => exact habout.elim
  | persist => exact habout.elim
  | close => exact habout.elim

/-- **So does any list of them.** -/
theorem spares_run (h : d.registry.Lawful) {requests : List Request}
    (habout : ∀ request ∈ requests, request.About registrant) :
    Spares registrant d (d.run requests) := by
  induction requests generalizing d with
  | nil => exact .refl _ _
  | cons request rest ih =>
    have hlawful := (onward_after h request).registry.lawful
    have hfirst := spares_after h (habout request List.mem_cons_self)
    exact hfirst.trans (ih hlawful fun other hother => habout other (List.mem_cons_of_mem _ hother))

/-- **Registrants are isolated,** if the names of the files have no slashes. Whatever is asked about
one of them at any moment, whether it is met or not, and whatever the disk does: everybody else in
the table keeps holding and allocator; a file that has changed is where the ledger or the one's
roster is, and what else is new is a directory. Different registrants have different rosters, a
roster is never the ledger, and on every disk the three lead to different places. -/
theorem isolated_history {layout : Layout} (hledger : '/' ∉ layout.ledgerName.toList)
    (hsuffix : '/' ∉ layout.rosterSuffix.toList) (passes : Int) (disk : Disk)
    (events : List Event) :
    let d := history layout passes disk events
    (∀ registrant requests, (∀ request ∈ requests, request.About registrant) →
      let e := d.run requests
      (∀ other, other ≠ registrant →
        e.registry.allocator? other = d.registry.allocator? other ∧
          ∀ h, Assoc.get? other d.registry.entries = some h →
            Assoc.get? other e.registry.entries = some h) ∧
      ∀ loc, e.disk.node? loc ≠ d.disk.node? loc →
        (d.disk.node? loc = none ∧ e.disk.node? loc = some .dir) ∨
          ∃ p, (p = layout.ledgerPath ∨ layout.rosterPath registrant = .ok p) ∧
            e.disk.locate p = .ok loc ∧ ∃ bytes, e.disk.node? loc = some (.file bytes)) ∧
    ∀ name k p, Registrant.ofArgument name = .ok k → layout.rosterPath k = .ok p →
      p ≠ layout.ledgerPath ∧
        (∀ (other : Disk) loc, other.locate p = .ok loc →
          other.locate layout.ledgerPath ≠ .ok loc) ∧
        ∀ name' j q, Registrant.ofArgument name' = .ok j → layout.rosterPath j = .ok q →
          (p = q → k = j) ∧
            (k ≠ j → ∀ (other : Disk) loc, other.locate p = .ok loc →
              other.locate q ≠ .ok loc) := by
  intro d
  have h : d.registry.Lawful := lawful_history layout passes disk events
  have hlayout : d.registry.layout = layout := layout_history layout passes disk events
  refine ⟨?_, ?_⟩
  · intro registrant requests habout e
    have hspares : Spares registrant d e := spares_run h habout
    refine ⟨?_, ?_⟩
    · intro other hne
      refine ⟨hspares.allocators other hne, ?_⟩
      intro holding hget
      have hnumber := hget
      rw [Registry.get?_entries, Option.map_eq_some_iff] at hnumber
      obtain ⟨number, hnumber, -⟩ := hnumber
      rw [hspares.entries (h.opened_of_get? hnumber) other hne]
      exact hget
    · intro loc hne
      rcases hspares.disk.frame loc hne with hnew | ⟨p, hp, hfile⟩
      · exact .inl hnew
      · rw [hlayout] at hp
        exact .inr ⟨p, Layout.mem_filesOf hp, hfile⟩
  · intro name k p hname hp
    have hk := Registrant.isKey_of_ofArgument hname
    refine ⟨Layout.rosterPath_ne_ledgerPath hp, ?_, ?_⟩
    · exact fun other loc => Layout.locate_ledgerPath_ne hledger hsuffix hk hp
    · intro name' j q hname' hq
      have hj := Registrant.isKey_of_ofArgument hname'
      refine ⟨?_, ?_⟩
      · rintro rfl
        exact Layout.rosterPath_injective hsuffix hk hj hp hq
      · exact fun hne other loc => Layout.locate_rosterPath_ne hsuffix hk hj hne hp hq

/-- A registrant and an id, in a registry whose ledger has the name that a roster might have. -/
def settledFirst : Desk :=
  history { ledgerName := "beta.cfg" } 2 {}
    [.asked (.allocatorFor (.text "alpha") .null .null),
      .asked (.allocate "alpha" (.text "first") (.space .a))]

/-- What another registrant asks. -/
def newcomer : List Request :=
  [.allocatorFor (.text "Gamma") .null .null, .allocate "gamma" (.text "first") (.space .a),
    .getOrCreate (.text " gamma ") (.int 7) .null]

/-- The first one is left alone, and the newcomer's roster is not the first one's. -/
theorem isolated_newcomer :
    '/' ∉ "beta.cfg".toList ∧ '/' ∉ ".cfg".toList ∧
      (settledFirst.run newcomer).registry.allocator? "alpha" =
        settledFirst.registry.allocator? "alpha" ∧
      (∃ h, Assoc.get? "alpha" settledFirst.registry.entries = some h ∧
        Assoc.get? "alpha" (settledFirst.run newcomer).registry.entries = some h) ∧
      ∃ p q, ({ ledgerName := "beta.cfg" } : Layout).rosterPath "alpha" = .ok p ∧
        ({ ledgerName := "beta.cfg" } : Layout).rosterPath "gamma" = .ok q ∧
        ∀ (disk : Disk) loc, disk.locate p = .ok loc → disk.locate q ≠ .ok loc := by
  have hledger : '/' ∉ "beta.cfg".toList := by decide
  have hsuffix : '/' ∉ ".cfg".toList := by decide
  have halpha : Registrant.ofArgument (.text "alpha") = .ok "alpha" := by decide +kernel
  have hgamma : Registrant.ofArgument (.text "Gamma") = .ok "gamma" := by decide +kernel
  have hblank : Registrant.ofArgument (.text " gamma ") = .ok "gamma" := by decide +kernel
  have habout : ∀ request ∈ newcomer, request.About "gamma" := by
    intro request hrequest
    simp only [newcomer, List.mem_cons, List.not_mem_nil, or_false] at hrequest
    rcases hrequest with rfl | rfl | rfl
    · exact fun k hk => Except.ok.inj (hk.symm.trans hgamma)
    · rfl
    · exact fun k hk => Except.ok.inj (hk.symm.trans hblank)
  have hstored : (Assoc.get? "alpha" settledFirst.registry.entries).isSome = true := by
    decide +kernel
  obtain ⟨hspares, hpaths⟩ := @isolated_history { ledgerName := "beta.cfg" } hledger hsuffix 2 {}
    [.asked (.allocatorFor (.text "alpha") .null .null),
      .asked (.allocate "alpha" (.text "first") (.space .a))]
  rw [← settledFirst] at hspares
  have hothers := (hspares "gamma" newcomer habout).1 "alpha" (by decide)
  obtain ⟨h, hget⟩ := Option.isSome_iff_exists.1 hstored
  have hp : ({ ledgerName := "beta.cfg" } : Layout).rosterPath "alpha" =
      .ok ⟨.here, ["config", "id", "alpha.cfg"]⟩ := by
    decide +kernel
  have hq : ({ ledgerName := "beta.cfg" } : Layout).rosterPath "gamma" =
      .ok ⟨.here, ["config", "id", "gamma.cfg"]⟩ := by
    decide +kernel
  have hapart := ((hpaths _ _ _ halpha hp).2.2 _ _ _ hgamma hq).2 (by decide)
  exact ⟨hledger, hsuffix, hothers.1, ⟨h, hget, hothers.2 h hget⟩, _, _, hp, hq, hapart⟩

end Desk

end Allotment
