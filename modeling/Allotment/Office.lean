import Allotment.Registry.Desk

/-!
# The office

An office has several registries over one disk, each under a number, and one of them may be the
standard one, which serves callers who name none. The standard registry is opened when it is
first needed, in the directory that the setting names.

* `Office.atDesk` — do something at the desk of a registry;
* `Office.found` — a new registry, opened; if opening fails there is no new registry;
* `Office.standardRegistry`, `Office.setStandard`, `Office.allocatorFor`;
* `Office.writeFile` — a file written by hand.
-/

namespace Allotment

/-- Several registries over one disk. -/
structure Office where
  registries : List Registry := []
  /-- The number of the standard registry. -/
  standard : Option Nat := none
  /-- The setting of the directory for the standard registry. -/
  setting : Option String := none
  disk : Disk := {}
  notices : List Notice := []
  deriving DecidableEq, Repr

namespace Office

/-- What can be done in an office. -/
abbrev Act := EStateM Failure Office

/-- The registry with a number. -/
def registry? (o : Office) (number : Nat) : Option Registry := o.registries[number]?

/-- Do something at the desk of a registry that has no number yet. -/
def apart {α : Type} (r : Registry) (act : Desk.Act α) : Act (α × Registry) := fun o =>
  match act ⟨r, o.disk, o.notices⟩ with
  | .ok x d => .ok (x, d.registry) { o with disk := d.disk, notices := d.notices }
  | .error e d => .error e { o with disk := d.disk, notices := d.notices }

/-- Do something at the desk of a registry. -/
def atDesk {α : Type} (number : Nat) (act : Desk.Act α) : Act α := fun o =>
  match o.registry? number with
  | none => .error (.noRegistry number) o
  | some r =>
    let back := fun (d : Desk) =>
      { o with
        registries := o.registries.set number d.registry, disk := d.disk, notices := d.notices }
    match act ⟨r, o.disk, o.notices⟩ with
    | .ok x d => .ok x (back d)
    | .error e d => .error e (back d)

/-- Take in a registry under the next number. -/
def enrol (r : Registry) : Act Nat := do
  let number := (← get).registries.length
  modify fun o => { o with registries := o.registries ++ [r] }
  return number

/-- Open a new registry and take it in. -/
def found (layout : Layout) (passes : Int) : Act Nat := do
  let ((), r) ← apart { layout, passes } Desk.openLedger
  enrol r

/-- The number of the standard registry, opened anew if there is none or it is closed. -/
def standardRegistry : Act Nat := do
  let o ← get
  match o.standard.filter fun n => (o.registry? n).any fun r => !r.closed with
  | some n => return n
  | none =>
    let layout := Layout.ofSetting o.setting
    modify fun o => { o with notices := o.notices ++
      [.debug .office s!"Opening default reservation registry in {layout.dir.text}"] }
    let n ← found layout ({} : Registry).passes
    modify fun o => { o with standard := some n }
    return n

/-- Choose another standard registry, and return the number of the one before. -/
def setStandard (number : Option Nat) : Act (Option Nat) := do
  let before := (← get).standard
  modify fun o => { o with standard := number }
  return before

/-- The allocator of a registrant in a registry, or in the standard one if none is named: the
numbers of the registry and the registrant's name. -/
def allocatorFor (number : Option Nat) (name sizeA sizeB : Argument) : Act (Nat × String) := do
  let n ← match number with
    | some n => pure n
    | none => standardRegistry
  let registrant ← atDesk n (Desk.allocatorFor name sizeA sizeB)
  return (n, registrant)

/-- Put a file in place by hand, with the care that the registries take. -/
def writeFile {α : Type} [Text.Letter α] (p : Path) (text : List α) : Act Unit := do
  let o ← get
  let (result, disk) := o.disk.store p (some text)
  set { o with disk }
  match result with
  | .ok () => pure ()
  | .error fault =>
    modify fun o => { o with notices := o.notices ++ fault.notices }
    throw fault.failure

end Office

end Allotment
