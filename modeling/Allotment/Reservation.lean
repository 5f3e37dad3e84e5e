import Allotment.Window

/-!
# Reservations

A reservation is the window of one registrant in one space, with the number of its ids that
are handed out. Ids are handed out from the start of the window on, so this number also says
which id is the next.

* `isFull`, `remaining`, `hasId`, `inBounds`, `overlaps` — questions;
* `nextId`, `bump` — the next id, and the reservation after it is handed out;
* `raise` — the number moved forward to cover an id that is known to be in use;
* `assign` — a part set from outside;
* `Holding` — the two reservations of a registrant, one in each space.
-/

namespace Allotment

/-- The window of a registrant in a space. -/
structure Reservation where
  owner : String
  space : Space
  start : Int
  size : Int
  /-- How many ids are handed out. -/
  used : Int := 0
  deriving DecidableEq, Repr

namespace Reservation

variable (r : Reservation)

/-- The ids of the reservation. -/
def window : Window := ⟨r.start, r.size⟩

/-- The last id. -/
def last : Int := r.window.last

/-- How many ids are left. -/
def remaining : Int := r.size - r.used

/-- Whether all ids are handed out. -/
def isFull : Bool := decide (r.size ≤ r.used)

/-- Whether the window lies inside its space. -/
def inBounds : Bool := r.space.zone.contains r.start r.size

/-- Whether an id is in the window. -/
def hasId (id : Int) : Bool := decide (r.start ≤ id) && decide (id ≤ r.last)

/-- Whether two reservations want the same ids. -/
def overlaps (other : Reservation) : Bool :=
  decide (r.space = other.space) && r.window.overlaps other.window

/-- The next id. -/
def nextId : Int := r.start + r.used

/-- The reservation after its next id is handed out. -/
def bump : Reservation := { r with used := r.used + 1 }

/-- The number of used ids moved forward to a count, at most to the size. It never goes back. -/
def raise (count : Int) : Reservation :=
  if r.used < min count r.size then { r with used := min count r.size } else r

/-- Whether moving forward to a count changes anything. -/
def raises (count : Int) : Bool := decide (r.used < min count r.size)

/-- The number of used ids cut down to the size. -/
def clamped : Reservation := { r with used := min r.used r.size }

/-- A part of a reservation, with a value that whoever has the reservation may assign to it. -/
inductive Field where
  | owner (value : String)
  | space (value : Space)
  | start (value : Int)
  | size (value : Int)
  | used (value : Int)
  deriving DecidableEq, Repr

/-- The reservation with another value in a part. Nothing is checked. -/
def assign : Field → Reservation
  | .owner value => { r with owner := value }
  | .space value => { r with space := value }
  | .start value => { r with start := value }
  | .size value => { r with size := value }
  | .used value => { r with used := value }

end Reservation

/-- The reservations of a registrant, one in each space. -/
abbrev Holding := Both Reservation

/-- The holding of nobody. -/
def Holding.vacant : Holding :=
  ⟨{ owner := "", space := .a, start := 0, size := 0 },
    { owner := "", space := .b, start := 0, size := 0 }⟩

end Allotment
