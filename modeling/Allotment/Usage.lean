import Allotment.Number.Binary64
import Allotment.Registry.Basic

/-!
# Usage

Two views of a registry for people who look after it: a row for each reservation, with the
share of its ids in use, and the gaps of a space.

* `Usage.rows` — in the order of the spaces and, within a space, of the windows;
* `Usage.gaps` — the windows that no registrant has.
-/

namespace Allotment.Usage

/-- The columns of the table of reservations. -/
def columns : List String :=
  ["registrant", "space", "start", "end", "size", "allocated", "free", "utilisation"]

/-- A reservation in the table. -/
structure Row where
  registrant : String
  space : Space
  start : Int
  last : Int
  size : Int
  used : Int
  free : Int
  utilisation : Binary64
  deriving DecidableEq, Repr

/-- The share of the ids in use. -/
def utilisation (r : Reservation) : Except Failure Binary64 :=
  if r.size = 0 then .error (.zeroDivision .fraction)
  else match Binary64.quotient? r.used r.size with
    | some share => .ok share
    | none => .error .quotientTooLarge

/-- The row of a reservation. -/
def row (r : Reservation) : Except Failure Row :=
  (utilisation r).map fun share =>
    ⟨r.owner, r.space, r.start, r.last, r.size, r.used, r.remaining, share⟩

/-- The rows of reservations, unless one has no share. -/
def rowsOf : List Reservation → Except Failure (List Row)
  | [] => .ok []
  | r :: rest => do
    let first ← row r
    let more ← rowsOf rest
    return first :: more

/-- The order of the table. -/
def precedes (x y : Row) : Bool :=
  match x.space, y.space with
  | .a, .b => true
  | .b, .a => false
  | _, _ => decide (x.start ≤ y.start)

/-- The table of all reservations. -/
def rows (r : Registry) : Except Failure (List Row) := (rowsOf r.reservations).map (sortBy precedes)

/-- The gaps of a space. -/
def gaps (r : Registry) (space : Argument) : Except Failure (List Window) :=
  space.toSpace.map fun s => s.zone.gaps ((r.reservationsIn s).map Reservation.window)

end Allotment.Usage
