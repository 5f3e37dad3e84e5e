import Allotment.Disk
import Allotment.Placement.Search
import Allotment.Registry.Basic
import Allotment.Roster.Admission
import Allotment.Text.Encoding

/-!
# A registry at work

A desk is a registry with the disk it works on and the notices it has given. An action either
returns a value or fails, and in both cases leaves a desk behind: a failure does not undo what
was done before it.

* `openLedger` — read and settle the ledger, once; make the file if there is none;
* `getOrCreate` — the holding of a registrant, placed and saved if there is none that is sound;
* `allocatorFor` — the allocator of a registrant, made once, from the registrant's roster;
* `allocate` — the id under a name, a new one if the name is new. The ledger is saved before
  the roster, and both before the id is returned. An id with too many digits is noticed when it is
  told, which is after it was handed out;
* `persist`, `close` — save the ledger; after closing nothing is changed any more.
-/

namespace Allotment

/-- A registry at work. -/
structure Desk where
  registry : Registry
  disk : Disk
  notices : List Notice := []
  deriving DecidableEq, Repr

namespace Desk

/-- What can be done at a desk. -/
abbrev Act := EStateM Failure Desk

/-- Give notices. -/
def tell (notices : List Notice) : Act Unit :=
  modify fun d => { d with notices := d.notices ++ notices }

/-- Change the registry. -/
def update (f : Registry → Registry) : Act Unit :=
  modify fun d => { d with registry := f d.registry }

/-- The registry as it is now. -/
def current : Act Registry := return (← get).registry

/-- The value, or the failure, of a check. -/
def check {α : Type} : Except Failure α → Act α
  | .ok x => pure x
  | .error e => throw e

/-- The path of the ledger. -/
def ledgerPath : Act Path := return (← current).layout.ledgerPath

/-- The trimmed lines of a file; none if there is no such file. -/
def readLines (p : Path) : Act (List (List Char)) := do
  let bytes ← check ((← get).disk.read p)
  return match bytes with
    | none => []
    | some bs => Text.fileLines bs

/-- Write a file in one step, if its numbers can be written. -/
def save (file : StateFile) (p : Path) (text : Option (List Char)) : Act Unit := do
  let d ← get
  let (result, disk) := d.disk.store p text
  set { d with disk }
  match result with
  | .ok () => pure ()
  | .error fault =>
    tell fault.notices
    if fault.isSystem then
      tell [.error (match file with
        | .ledger => .registry
        | .roster => .allocator)]
      throw (.notSaved file p.text)
    else throw fault.failure

/-- Save the ledger. -/
def saveLedger : Act Unit := do
  let r ← current
  save .ledger r.layout.ledgerPath r.ledgerText

/-- Refuse to go on after closing. -/
def ensureWritable : Act Unit := do
  let r ← current
  if r.closed then throw (.registryClosed r.layout.ledgerPath.text)

/-- Save the ledger of a registry that is not closed. -/
def persist : Act Unit := do
  ensureWritable
  saveLedger

/-- Read the ledger and take over what can be settled. -/
def loadLedger : Act Unit := do
  let path ← ledgerPath
  let readings := Ledger.read (← readLines path)
  tell (Ledger.notices readings)
  let (settled, found) := Ledger.settle (Ledger.entries readings)
  tell (found.map Ledger.Finding.notice)
  let report : Report :=
    { source := path.text
      issues := Ledger.issues path.text readings ++ found.map (Ledger.Finding.issue path.text) }
  update fun r => { r.adopt settled with report, opened := true }

/-- Open the registry, unless it is open. -/
def openLedger : Act Unit := do
  ensureWritable
  unless (← current).opened do
    loadLedger
    let d ← get
    let path := d.registry.layout.ledgerPath
    if !(← check (d.disk.has path)) then
      tell [.info .registry s!"Creating reservation file {path.text}"]
      saveLedger
    else if !d.registry.report.isClean then
      tell [.warning .registry d.registry.report.summary]
    tell [.debug .registry
      s!"Loaded {d.registry.table.length} reservation(s) from {path.text}"]

/-- Close the registry, and save the ledger if it was opened. -/
def close : Act Unit := do
  let r ← current
  unless r.closed do
    if r.opened then saveLedger
    update fun r => { r with closed := true }

/-- The size that a caller asks for in a space. -/
def requestedSize (space : Space) (size : Argument) : Except Failure Int :=
  match size with
  | .null => .ok (space.zone.clampSize space.zone.defaultSize)
  | _ => size.toSize.map space.zone.clampSize

/-- Find a place for a window in a space. -/
def placeIn (registrant : String) (space : Space) (size : Int) : Act Reservation := do
  let r ← current
  match Placement.place space.zone r.passes (Placement.codePoints registrant) size
      (r.windowsBut registrant space) with
  | .ok place =>
    tell ((place.remark space.zone).map (·.about registrant)).toList
    return { owner := registrant, space, start := place.start, size }
  | .error refusal => throw (refusal.failure space.zone registrant size)

/-- A reservation in a notice. -/
def windowText (res : Reservation) : String := s!"{res.space.letter} {res.start}~{res.last}"

/-- Place, issue and save a new holding. -/
def placeHolding (registrant : String) (sizes : Both Int) : Act Nat := do
  let a ← placeIn registrant .a sizes.a
  let b ← placeIn registrant .b sizes.b
  let number := (← current).holdings.length
  update fun r => r.issue registrant ⟨a, b⟩
  tell [.info .registry
    (s!"Reserved for '{registrant}': " ++ windowText a ++ ", " ++ windowText b)]
  persist
  return number

/-- The number of the holding of a registrant. A registrant without a sound one gets a new one
with the sizes asked for. -/
def getOrCreate (name sizeA sizeB : Argument) : Act Nat := do
  let registrant ← check (Registrant.ofArgument name)
  let _ ← check ((← current).layout.rosterPath registrant)
  let a ← check (requestedSize .a sizeA)
  let b ← check (requestedSize .b sizeB)
  openLedger
  let r ← current
  match Assoc.get? registrant r.table with
  | some number =>
    if r.isSound registrant (r.holding number) then
      tell [.debug .registry s!"Reusing reservation for '{registrant}'"]
      return number
    else
      tell [.warning .registry
        s!"Reservation for '{registrant}' is invalid or conflicting; reassigning"]
      update fun r => r.withdraw registrant
      placeHolding registrant ⟨a, b⟩
  | none => placeHolding registrant ⟨a, b⟩

/-! ### Allocators -/

/-- Make the allocator of a registrant from its roster. -/
def loadAllocator (registrant : String) (number : Nat) : Act Allocator := do
  let path ← check ((← current).layout.rosterPath registrant)
  let readings := Roster.read (← readLines path)
  tell (Roster.notices (some registrant) readings)
  let before := (← current).holding number
  let admission := Roster.receive before (Roster.entries readings)
  tell (admission.findings.map (Roster.Finding.notice registrant))
  let report : Report :=
    { source := path.text
      issues := Roster.issues path.text (some registrant) readings
        ++ admission.findings.map (Roster.Finding.issue path.text registrant) }
  if admission.holding ≠ before then
    update fun r => r.modifyHolding number fun _ => admission.holding
    tell [.warning .allocator (s!"Advanced allocation counters for '{registrant}' to cover ids " ++
      s!"found in {path.text}")]
    persist
  return { registrant, holding := number, path, report, ids := admission.ids }

/-- The name of the registrant whose allocator is wanted. The allocator is made if there is
none yet. -/
def allocatorFor (name sizeA sizeB : Argument) : Act String := do
  let registrant ← check (Registrant.ofArgument name)
  match (← current).allocator? registrant with
  | some _ => return registrant
  | none =>
    let number ← getOrCreate (.text registrant) sizeA sizeB
    let al ← loadAllocator registrant number
    update fun r => r.setAllocator al
    return registrant

/-- The allocator of a registrant. -/
def allocator (registrant : String) : Act Allocator := do
  match (← current).allocator? registrant with
  | some al => return al
  | none => throw (.noAllocator registrant)

/-- Save the roster of a registrant. -/
def saveRoster (registrant : String) : Act Unit := do
  let al ← allocator registrant
  save .roster al.path (al.rosterText (← current))

/-- Hand out the next id of a space under a new name. -/
def grant (registrant : String) (space : Space) (name : String) : Act Int := do
  ensureWritable
  let al ← allocator registrant
  let res := ((← current).holding al.holding).get space
  if res.isFull then throw (Failure.reservationExhausted registrant space res.size).met
  update fun r => (r.modifyHolding al.holding fun h => h.modify space Reservation.bump).setAllocator
    { al with ids := al.ids.modify space (Assoc.put name res.nextId) }
  check (if Text.Readable res.nextId then .ok () else .error .tooLongToWrite)
  tell [.debug .allocator s!"Allocated {space.letter} id {res.nextId} to {registrant}:{name}"]
  persist
  saveRoster registrant
  return res.nextId

/-- The id under a name. -/
def allocate (registrant : String) (name space : Argument) : Act Int := do
  let al ← allocator registrant
  match ← check (al.lookup name space) with
  | some id => return id
  | none =>
    let s ← check space.toSpace
    let key ← check (IdName.ofArgument name)
    grant registrant s key

end Desk

end Allotment
