import Allotment.Reservation
import Allotment.Roster.Basic

/-!
# Admission of a roster

When a registrant's allocator is made, the ids in its roster are admitted to its holding, in
file order. An id outside the holding is stale and discarded, and so is an id or a name that
was admitted before in the same space. For each admitted id the count of used ids is moved
forward to cover it, so that it is never handed out again.

* `receive` — the holding with its counts moved, the admitted ids, and the entries discarded;
* `Finding.issue`, `Finding.notice` — how discarded entries are told.
-/

namespace Allotment.Roster

/-- An entry that is discarded. -/
inductive Finding where
  /-- Its id is not in the reservation. -/
  | stale (entry : Entry) (start last : Int)
  /-- Its name or its id was admitted before. -/
  | duplicate (entry : Entry)
  deriving DecidableEq, Repr

/-- What an entry says, as people see it. -/
def Entry.shown (e : Entry) : String := s!"{e.name}=" ++ toString (e.space.zone.toDisplay e.id)

/-- The issue that a finding is. -/
def Finding.issue (source registrant : String) : Finding → Issue
  | .stale e _ _ =>
    ⟨source, .warn, e.shown ++ " outside current reservation; discarded", some e.lineNo,
      some registrant, none⟩
  | .duplicate e =>
    ⟨source, .warn, "duplicate entry " ++ e.shown ++ "; keeping the first", some e.lineNo,
      some registrant, none⟩

/-- The notice of a finding. -/
def Finding.notice (registrant : String) : Finding → Notice
  | .stale e start last =>
    .warning .allocator
      (s!"Discarding stale {e.space.letter} id " ++ e.shown ++
        s!" for '{registrant}': outside reservation {start}~{last}")
  | .duplicate e =>
    .warning .allocator
      (s!"Discarding duplicate {e.space.letter} entry " ++ e.shown ++ s!" for '{registrant}'")

/-- What has been admitted so far. -/
structure Admission where
  holding : Holding
  ids : Both NamedIds
  findings : List Finding := []
  deriving DecidableEq, Repr

/-- Whether a name or an id is among admitted ids. -/
def clashes (ids : NamedIds) (name : String) (id : Int) : Bool :=
  ids.any fun entry => decide (entry.1 = name) || decide (entry.2 = id)

/-- Admit one entry. -/
def Admission.step (s : Admission) (e : Entry) : Admission :=
  let r := s.holding.get e.space
  if !r.hasId e.id then { s with findings := s.findings ++ [.stale e r.start r.last] }
  else if clashes (s.ids.get e.space) e.name e.id then
    { s with findings := s.findings ++ [.duplicate e] }
  else
    { s with
      holding := s.holding.modify e.space fun r => r.raise (e.id - r.start + 1)
      ids := s.ids.modify e.space fun ids => ids ++ [(e.name, e.id)] }

/-- Admit the entries of a roster to a holding. -/
def receive (holding : Holding) (entries : List Entry) : Admission :=
  entries.foldl Admission.step { holding, ids := ⟨[], []⟩ }

end Allotment.Roster
