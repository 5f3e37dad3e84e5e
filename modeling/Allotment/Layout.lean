import Allotment.Failure
import Allotment.Path
import Allotment.Text.Quoted

/-!
# Where the files lie

The ledger, which all registrants share, and a roster for each registrant lie side by side in
one directory. The ledger's usual name starts with an exclamation mark, which no registrant's
name may, so no roster can take its place; with other names for the files `rosterPath` looks
before it answers.
-/

namespace Allotment

/-- The names of the files. -/
structure Layout where
  dir : Path := ⟨.here, ["config", "id"]⟩
  ledgerName : String := "!reservations.cfg"
  rosterSuffix : String := ".cfg"
  deriving DecidableEq, Repr

namespace Layout

/-- The layout for a setting of the directory; an empty setting counts as none. -/
def ofSetting (setting : Option String) : Layout :=
  match setting with
  | none => {}
  | some dir => if dir = "" then {} else { dir := Path.ofString dir }

/-- The path of the ledger. -/
def ledgerPath (l : Layout) : Path := l.dir.join l.ledgerName

/-- The path of a registrant's roster, unless it is the ledger's. -/
def rosterPath (l : Layout) (registrant : String) : Except Failure Path :=
  let path := l.dir.join (registrant ++ l.rosterSuffix)
  if path = l.ledgerPath then .error (.ledgerCollision (Text.quote registrant) path.text)
  else .ok path

/-- **A roster never takes the place of the ledger.** -/
theorem rosterPath_ne_ledgerPath {l : Layout} {registrant : String} {path : Path}
    (h : l.rosterPath registrant = .ok path) : path ≠ l.ledgerPath := by
  unfold rosterPath at h
  simp only at h
  split at h
  · simp at h
  · rename_i hne
    simp only [Except.ok.injEq] at h
    exact h ▸ hne

end Layout

end Allotment
