import Allotment.Layout
import Allotment.Ledger.Settlement
import Allotment.Roster.Basic

/-!
# Registries

A registry keeps the holdings of all registrants and the allocators made for them.

Holdings are shared: the table, an allocator and a caller may have the same one, and a change
made by one of them is seen by all. So a registry keeps every holding that it ever issued under
a number, in `holdings`, and everybody else has the number. A holding that is replaced leaves
the table, but whoever has its number keeps it.

* `Registry.holding`, `Registry.entries` — the holding with a number, the table by value;
* `Registry.issue` — a new holding under a new number;
* `Registry.ledger` — the entries to be written to the ledger.
-/

namespace Allotment

/-- What hands out the ids of one registrant. -/
structure Allocator where
  registrant : String
  /-- The number of the holding. -/
  holding : Nat
  path : Path
  report : Report
  ids : Both Roster.NamedIds
  deriving DecidableEq, Repr

/-- The reservations of all registrants. -/
structure Registry where
  layout : Layout := {}
  /-- How often the slots are tried when a window is placed. -/
  passes : Int := 2
  report : Report := { source := layout.ledgerPath.text }
  /-- Every holding ever issued, by number. -/
  holdings : List Holding := []
  /-- The number of each registrant's holding, in order of arrival. -/
  table : List (String × Nat) := []
  allocators : List (String × Allocator) := []
  opened : Bool := false
  closed : Bool := false
  deriving DecidableEq, Repr

namespace Registry

variable (r : Registry)

/-- Whether the registry was opened and is not closed. -/
def isOpen : Bool := r.opened && !r.closed

/-- The holding with a number. -/
def holding (number : Nat) : Holding := r.holdings.getD number Holding.vacant

/-- The table with the holdings themselves. -/
def entries : List (String × Holding) := r.table.map fun (name, number) => (name, r.holding number)

/-- The names of the registrants in order of arrival. -/
def registrants : List String := Assoc.keys r.table

/-- The holding of a registrant. -/
def holdingOf? (registrant : String) : Option Holding :=
  (Assoc.get? registrant r.table).map r.holding

/-- All reservations, those of a registrant together. -/
def reservations : List Reservation := r.entries.flatMap fun (_, h) => h.toList

/-- All reservations in one space. -/
def reservationsIn (space : Space) : List Reservation := r.entries.map fun (_, h) => h.get space

/-- The windows in a space of all registrants but one. -/
def windowsBut (registrant : String) (space : Space) : List Window :=
  (r.entries.filter fun (name, _) => decide (name ≠ registrant)).map fun (_, h) =>
    (h.get space).window

/-- The entries of the ledger. -/
def ledger : List Ledger.Entry := r.entries.map fun (name, h) => Ledger.Entry.ofHolding name h

/-- The text of the ledger, unless a number has too many digits to be written. -/
def ledgerText : Option (List Char) := Ledger.text (r.ledger.map Ledger.EntryOf.spelled)

/-- Change the holding with a number. -/
def modifyHolding (number : Nat) (f : Holding → Holding) : Registry :=
  { r with holdings := r.holdings.modify number f }

/-- Give a registrant a new holding, under the next number. -/
def issue (registrant : String) (h : Holding) : Registry :=
  { r with
    holdings := r.holdings ++ [h]
    table := Assoc.put registrant r.holdings.length r.table }

/-- Take a registrant out of the table. -/
def withdraw (registrant : String) : Registry := { r with table := Assoc.erase registrant r.table }

/-- Take over a settled table. -/
def adopt (settled : List (String × Holding)) : Registry :=
  { r with
    holdings := r.holdings ++ settled.map Prod.snd
    table := (settled.map Prod.fst).zipIdx r.holdings.length }

/-- Whether a registrant's holding lies in its spaces and overlaps nobody else's. -/
def isSound (registrant : String) (h : Holding) : Bool :=
  Space.all.all fun s =>
    (h.get s).inBounds && (r.entries.filter fun (name, _) => decide (name ≠ registrant)).all
      fun (_, other) => !(h.get s).overlaps (other.get s)

/-- The allocator of a registrant. -/
def allocator? (registrant : String) : Option Allocator := Assoc.get? registrant r.allocators

/-- Set the allocator of a registrant. -/
def setAllocator (al : Allocator) : Registry :=
  { r with allocators := Assoc.put al.registrant al r.allocators }

end Registry

namespace Allocator

variable (al : Allocator)

/-- The windows of the allocator's holding. -/
def bounds (r : Registry) : List (Space × Window) :=
  Space.all.map fun s => (s, ((r.holding al.holding).get s).window)

/-- What the allocator's roster should hold. -/
def roster (r : Registry) : List Char := Roster.write al.registrant (al.bounds r) al.ids

/-- The text of the allocator's roster, unless a number has too many digits to be written. -/
def rosterText (r : Registry) : Option (List Char) :=
  Roster.text al.registrant.toList (al.bounds r) (al.ids.map Roster.spelledIds)

/-- The named ids of a space as people see them. -/
def displayIds (space : Space) : Roster.NamedIds :=
  (al.ids.get space).map fun (name, id) => (name, space.zone.toDisplay id)

/-- The allocator in one line, if the ends of its windows can be shown. -/
def summary (r : Registry) : Except Failure String :=
  let windows := al.bounds r
  if ∀ x ∈ windows, Text.Readable x.2.start ∧ Text.Readable x.2.last then
    .ok ("<RegistrantAllocator " ++ al.registrant ++ " " ++
      ", ".intercalate (windows.map fun (s, w) => s!"{s.letter}={w.start}~{w.last}") ++ ">")
  else .error .tooLongToShow

/-- The id with a name, for any values handed in. -/
def lookup (name space : Argument) : Except Failure (Option Int) := do
  let s ← space.toSpace
  let key ← name.lookupKey
  return key.bind fun k => Assoc.get? k (al.ids.get s)

end Allocator

end Allotment
