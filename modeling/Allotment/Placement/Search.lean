import Allotment.Notice
import Allotment.Placement.Hash
import Allotment.Window

/-!
# The search for a window

Where a registrant's window goes depends on the registrant's name, the size and the windows
already taken, and on nothing else. The zone is cut into slots of the wished size, and the
places are tried in this order:

1. the slot of the digest of the name;
2. the slot of the secondary hash;
3. all slots in turn from the first one on, back to the lowest after the highest, a given
   number of times;
4. the lowest gap that is big enough, where windows need not be slots.

`place` says where the window goes and by which of the four routes it was found.
-/

namespace Allotment

namespace Zone

variable (z : Zone)

/-- The number of slots of a size. -/
def slots (size : Int) : Int := z.span.fdiv size

/-- The start of the slot that a hash value picks. -/
def slotStart (value size : Int) : Int := z.lower + value.fmod (z.slots size) * size

/-- The start of a slot, for any size: there may be none. -/
def slotStart? (value size : Int) : Except Failure Int :=
  if size = 0 then .error (.zeroDivision .quotient)
  else if z.slots size = 0 then .error (.zeroDivision .remainder)
  else .ok (z.slotStart value size)

end Zone

namespace Placement

/-- The hash value that picks the first slot of a name. -/
def primaryValue (z : Zone) (name : List Nat) : Int := mix z.space (digest name)

/-- The hash value that picks the second slot of a name. -/
def secondaryValue (z : Zone) (name : List Nat) : Int := mix z.space (secondary name)

/-- The first free slot from a position on, in at most `count` steps. Behind the last slot
that fits comes the lowest one. -/
def probeSteps (z : Zone) (size : Int) (taken : List Window) : (count : Nat) → Int → Option Int
  | 0, _ => none
  | k + 1, position =>
    if (Window.mk position size).isFree taken then some position
    else
      let next := position + size
      probeSteps z size taken k (if z.upper < next + size - 1 then z.lower else next)

/-- The first free slot from a position on, in a number of passes over the zone. -/
def probe (z : Zone) (passes size : Int) (taken : List Window) (position : Int) : Option Int :=
  probeSteps z size taken (passes * z.slots size).toNat position

/-- The first free slot, for any size. -/
def probe? (z : Zone) (passes size : Int) (taken : List Window) (position : Int) :
    Except Failure (Option Int) :=
  if size = 0 then .error (.zeroDivision .quotient)
  else .ok (probe z passes size taken position)

/-- The lowest gap that is big enough. -/
def scan (z : Zone) (size : Int) (taken : List Window) : Option Int :=
  ((z.gaps taken).find? fun gap => decide (size ≤ gap.size)).map Window.start

/-- How a place was found. -/
inductive Route where
  /-- It is the first slot. -/
  | primary
  /-- The first slot was taken, the second was free. -/
  | secondary
  /-- By trying the slots in turn. -/
  | probed
  /-- In a gap. -/
  | scanned
  deriving DecidableEq, Repr

/-- A place for a window. -/
structure Place where
  /-- The start of the window. -/
  start : Int
  /-- The start of the registrant's first slot. -/
  home : Int
  route : Route
  deriving DecidableEq, Repr

/-- Why no place is given. -/
inductive Refusal where
  /-- The size is less than one or more than the whole zone. -/
  | doesNotFit
  /-- Every window of the size meets a taken one. -/
  | noRoom
  deriving DecidableEq, Repr

/-- Find the place for a window of a registrant. -/
def place (z : Zone) (passes : Int) (name : List Nat) (size : Int) (taken : List Window) :
    Except Refusal Place :=
  if size < 1 ∨ z.span < size then .error .doesNotFit
  else
    let home := z.slotStart (primaryValue z name) size
    let second := z.slotStart (secondaryValue z name) size
    if (Window.mk home size).isFree taken then .ok ⟨home, home, .primary⟩
    else if (Window.mk second size).isFree taken then .ok ⟨second, home, .secondary⟩
    else match probe z passes size taken home with
      | some start => .ok ⟨start, home, .probed⟩
      | none =>
        match scan z size taken with
        | some start => .ok ⟨start, home, .scanned⟩
        | none => .error .noRoom

/-- What is said about a place, if it is not the first slot. Its numbers lie in the zone, so they can be
written if the bounds of the zone can. -/
def Place.remark (z : Zone) (p : Place) : Option Remark :=
  match p.route with
  | .primary => none
  | .secondary =>
    some ⟨.debug, .placement, s!"Primary slot {p.home} taken for ",
      s!"; using secondary slot {p.start}"⟩
  | .probed =>
    some ⟨.debug, .placement, "Placed ",
      s!" in {z.space.letter} by probing from {p.home} to {p.start}"⟩
  | .scanned =>
    some ⟨.info, .placement, "Placed ", s!" in {z.space.letter} at {p.start} by exhaustive scan"⟩

/-- The failure that a refusal is for a registrant. -/
def Refusal.failure (z : Zone) (registrant : String) (size : Int) : Refusal → Failure
  | .doesNotFit => (Failure.sizeDoesNotFit z.space size z.span).met
  | .noRoom => (Failure.spaceExhausted registrant z.space size).met

/-- What is said when the digest of a name is taken. -/
def digestNotices (name : List Nat) : List Notice :=
  if isUnencodable name then [.error .hashing] else []

end Placement

end Allotment
