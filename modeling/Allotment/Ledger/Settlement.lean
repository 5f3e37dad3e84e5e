import Allotment.Assoc
import Allotment.Ledger.Basic
import Allotment.Registrant
import Allotment.Reservation

/-!
# The settlement of a ledger

A ledger edited by hand may contradict itself. Its entries are settled in file order, first
come, first served: an entry is dropped if its name is unusable or has appeared before, if a
window leaves its space, or if a window overlaps one of an entry accepted earlier. Counts above
the size of a window are cut down to it.

* `judge` — what becomes of one entry, given those accepted before it;
* `settle` — the accepted entries as holdings, and everything found on the way;
* `Finding.issue`, `Finding.notice` — how the findings are told.
-/

namespace Allotment.Ledger

/-- Why an entry is dropped. -/
inductive Objection where
  | invalidName
  | duplicate
  /-- The windows in these spaces leave them. -/
  | outOfBounds (spaces : List Space)
  /-- The window in this space overlaps the one of an earlier owner. -/
  | overlap (space : Space) (owner : String)
  deriving DecidableEq, Repr

/-- The wording of an objection. -/
def Objection.message : Objection → String
  | .invalidName => "invalid registrant name"
  | .duplicate => "duplicate registrant line; keeping the first"
  | .outOfBounds spaces =>
    "window outside space bounds (" ++ ", ".intercalate (spaces.map Space.letter)
      ++ "); will reassign"
  | .overlap space owner => s!"{space.letter} window overlaps '{owner}'; will reassign"

/-- Something found while entries are settled. -/
inductive Finding where
  /-- An entry is dropped. -/
  | dropped (entry : Entry) (why : Objection)
  /-- A count is cut down to the size of its window. -/
  | clamped (entry : Entry) (space : Space) (used size : Int)
  deriving DecidableEq, Repr

/-- The issue that a finding is. -/
def Finding.issue (source : String) : Finding → Issue
  | .dropped e why =>
    ⟨source, .warn, why.message, e.lineNo, some e.registrant, some (String.ofList e.line)⟩
  | .clamped e space used size =>
    ⟨source, .warn, s!"{space.letter} allocated count {used} exceeds size {size}; clamped",
      e.lineNo, some e.registrant, none⟩

/-- The notice of a finding. -/
def Finding.notice : Finding → Notice
  | .dropped e why =>
    .warning .registry
      (s!"Dropping reservation for '{e.registrant}' (line {lineText e.lineNo}): " ++ why.message)
  | .clamped e space used size =>
    .warning .registry
      s!"Clamping {space.letter} allocated count for '{e.registrant}' from {used} to {size}"

/-- The reservations that an entry describes. -/
def Entry.holding (e : Entry) : Holding :=
  ⟨⟨e.registrant, .a, e.aStart, e.aSize, e.aUsed⟩, ⟨e.registrant, .b, e.bStart, e.bSize, e.bUsed⟩⟩

/-- The entry that describes reservations. -/
def Entry.ofHolding (registrant : String) (h : Holding) : Entry :=
  { registrant, aStart := h.a.start, aSize := h.a.size, bStart := h.b.start, bSize := h.b.size,
    aUsed := h.a.used, bUsed := h.b.used }

/-- The spaces whose bounds a holding leaves. -/
def spacesLeft (h : Holding) : List Space := Space.all.filter fun s => !(h.get s).inBounds

/-- The earliest accepted owner, and the first space, with an overlapping window. -/
def clash? (accepted : List (String × Holding)) (h : Holding) : Option (String × Space) :=
  accepted.findSome? fun (owner, other) =>
    (Space.all.find? fun s => (h.get s).overlaps (other.get s)).map fun s => (owner, s)

/-- The counts of an entry that exceed their sizes. -/
def clamps (e : Entry) : List Finding :=
  (Space.all.map fun s => (s, e.holding.get s)).filterMap fun (s, r) =>
    if r.size < r.used then some (.clamped e s r.used r.size) else none

/-- The holding of an entry with its counts cut down. -/
def Entry.settled (e : Entry) : Holding := e.holding.map Reservation.clamped

/-- What becomes of an entry: the findings, and its holding if it is accepted. -/
def judge (accepted : List (String × Holding)) (e : Entry) : List Finding × Option Holding :=
  if !Registrant.accepts e.registrant then ([.dropped e .invalidName], none)
  else if accepted.any fun (owner, _) => decide (owner = e.registrant) then
    ([.dropped e .duplicate], none)
  else match spacesLeft e.holding with
    | s :: more => ([.dropped e (.outOfBounds (s :: more))], none)
    | [] =>
      match clash? accepted e.settled with
      | some (owner, s) => (clamps e ++ [.dropped e (.overlap s owner)], none)
      | none => (clamps e, some e.settled)

/-- Settle entries behind those accepted already. -/
def settleFrom (accepted : List (String × Holding)) :
    List Entry → List (String × Holding) × List Finding
  | [] => (accepted, [])
  | e :: rest =>
    let (found, holding) := judge accepted e
    let accepted := match holding with
      | some h => accepted ++ [(e.registrant, h)]
      | none => accepted
    let (table, more) := settleFrom accepted rest
    (table, found ++ more)

/-- Settle the entries of a ledger. They were read, so their numbers can be written in findings. -/
def settle (entries : List Entry) : List (String × Holding) × List Finding :=
  settleFrom [] entries

end Allotment.Ledger
