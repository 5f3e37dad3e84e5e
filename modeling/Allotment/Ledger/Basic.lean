import Allotment.Notice
import Allotment.Report
import Allotment.Text.Entries
import Allotment.Text.Lines
import Allotment.Text.Lower
import Allotment.Text.Numeral
import Allotment.Text.Quoted

/-!
# The ledger file

One file holds the reservations of all registrants, a line for each:

`registrant=a_start,a_size,b_start,b_size,a_allocated,b_allocated`

* `Entry`, `EntryOf.written` — what a line says, and how it is written. The reader finds names of
  characters; names of any letters can be written;
* `readEntry` — read a line; a line that does not say six whole numbers, none of them negative,
  behind a name has a `Flaw`;
* `read` — the fate of each significant line of a file, from which the entries, the issues and
  the notices are taken;
* `compose`, `text` — a whole file: a comment, a blank line and the entries. There is none if a
  number has too many digits to be written;
* `Entry.line`, `write` — the same for names of characters.
-/

namespace Allotment.Ledger

open Text (Letter)

/-- What a line of the ledger says, under a name of some kind. -/
structure EntryOf (ν : Type) where
  registrant : ν
  aStart : Int
  aSize : Int
  bStart : Int
  bSize : Int
  aUsed : Int
  bUsed : Int
  lineNo : Option Int := none
  deriving DecidableEq, Repr

/-- What a line of the ledger says to its reader. -/
abbrev Entry := EntryOf String

/-- The numbers of an entry in the order of the file. -/
def EntryOf.numbers {ν : Type} (e : EntryOf ν) : List Int :=
  [e.aStart, e.aSize, e.bStart, e.bSize, e.aUsed, e.bUsed]

/-- Put texts together with a character between them. -/
def joinWith (mark : Char) : List (List Char) → List Char
  | [] => []
  | [t] => t
  | t :: rest => t ++ mark :: joinWith mark rest

section Letters

variable {α : Type} [Letter α]

/-- How an entry is written. -/
def EntryOf.written (e : EntryOf (List α)) : List α :=
  e.registrant ++ Text.spelled ('=' :: joinWith ',' (e.numbers.map Text.decimal))

/-- An entry with the characters of its name. -/
def EntryOf.spelled (e : EntryOf String) : EntryOf (List α) :=
  { registrant := Text.spelled e.registrant.toList, aStart := e.aStart, aSize := e.aSize,
    bStart := e.bStart, bSize := e.bSize, aUsed := e.aUsed, bUsed := e.bUsed, lineNo := e.lineNo }

/-- How an entry is written whose name consists of characters. -/
def Entry.line (e : Entry) : List Char := e.spelled.written

theorem Entry.line_eq (e : Entry) :
    e.line = e.registrant.toList ++ '=' :: joinWith ',' (e.numbers.map Text.decimal) := by
  simp only [Entry.line, EntryOf.written, EntryOf.spelled, Text.spelled_char]
  rfl

theorem written_spelled (e : Entry) : (e.spelled : EntryOf (List α)).written = Text.spelled e.line := by
  rw [Entry.line_eq, Text.spelled_append]
  rfl

end Letters

/-! ### Reading a line -/

/-- What is wrong with a line. -/
inductive Fault where
  /-- It lacks a name or the equals sign. -/
  | shape
  /-- It has this many values instead of six. -/
  | valueCount (found : Nat)
  /-- A value is not a whole number. -/
  | notInteger
  /-- A value is negative. -/
  | negative
  deriving DecidableEq, Repr

/-- What is wrong with a line, and for whom, if the line says so. -/
structure Flaw where
  fault : Fault
  registrant : Option String
  deriving DecidableEq, Repr

/-- The wording of a fault. -/
def Fault.message : Fault → String
  | .shape => "expected '<registrant>=<values>'"
  | .valueCount found => s!"expected 6 values, found {found}"
  | .notInteger => "non-integer value"
  | .negative => "negative value"

/-- The numbers in a list of texts, if all are numbers. -/
def readNumbers : List (List Char) → Option (List Int)
  | [] => some []
  | value :: rest =>
    match Text.readInt (Text.trim value), readNumbers rest with
    | .ok n, some ns => some (n :: ns)
    | _, _ => none

/-- Read the values of a line. -/
def readValues (registrant : String) (lineNo : Option Int) (values : List (List Char)) :
    Except Fault Entry :=
  if values.length ≠ 6 then .error (.valueCount values.length)
  else match readNumbers values with
    | some [aStart, aSize, bStart, bSize, aUsed, bUsed] =>
      if [aStart, aSize, bStart, bSize, aUsed, bUsed].any fun n => decide (n < 0) then
        .error .negative
      else .ok { registrant, aStart, aSize, bStart, bSize, aUsed, bUsed, lineNo }
    | _ => .error .notInteger

/-- Read a line. -/
def readEntry (lineNo : Option Int) (line : List Char) : Except Flaw Entry :=
  match Text.splitAtFirst '=' line with
  | none => .error ⟨.shape, none⟩
  | some (key, values) =>
    if Text.trim key = [] then .error ⟨.shape, none⟩
    else
      let registrant := String.ofList (Text.lower (Text.trim key))
      (readValues registrant lineNo (values.splitOn ',')).mapError fun fault =>
        ⟨fault, some registrant⟩

/-! ### Reading a file -/

/-- A line and what became of it. -/
structure Reading where
  lineNo : Option Int
  line : List Char
  result : Except Flaw Entry

/-- The issue that a reading is. -/
def Reading.issue? (source : String) (r : Reading) : Option Issue :=
  match r.result with
  | .ok _ => none
  | .error flaw =>
    some ⟨source, .warn, flaw.fault.message, r.lineNo, flaw.registrant, some (String.ofList r.line)⟩

/-- An optional line number in a notice. -/
def lineText : Option Int → String
  | none => "None"
  | some n => toString n

/-- The notice that a reading gives. -/
def Reading.notice? (r : Reading) : Option Notice :=
  match r.result with
  | .ok _ => none
  | .error flaw =>
    some (.warning .ledgerFile
      (s!"Skipping reservation line {lineText r.lineNo}: {flaw.fault.message}: " ++
        String.ofList (Text.quoted r.line)))

/-- The entry that a reading gives. -/
def Reading.entry? (r : Reading) : Option Entry := r.result.toOption

/-- Read one line on its own. -/
def readLine (lineNo : Option Int) (line : List Char) : Reading :=
  ⟨lineNo, line, readEntry lineNo line⟩

/-- Read the significant lines of a file. -/
def read (lines : List (List Char)) : List Reading :=
  (Text.significant lines).map fun l => readLine (some l.number) l.chars

/-- The entries among readings. -/
def entries (readings : List Reading) : List Entry := readings.filterMap Reading.entry?

/-- The issues among readings. -/
def issues (source : String) (readings : List Reading) : List Issue :=
  readings.filterMap (Reading.issue? source)

/-- The notices of readings. -/
def notices (readings : List Reading) : List Notice := readings.filterMap Reading.notice?

/-! ### Writing a file -/

/-- The comment at the top of the file. -/
def header : List String :=
  ["# Global ID reservation table",
   "# Format: registrant=a_start,a_size,b_start,b_size,a_allocated,b_allocated",
   "# Written automatically; hand edits are picked up on the next start",
   ""]

section Letters

variable {α : Type} [Letter α]

/-- A whole file. -/
def compose (entries : List (EntryOf (List α))) : List α :=
  Text.unlines (header.map (fun line => Text.spelled line.toList) ++ entries.map EntryOf.written)

/-- A whole file, unless a number has too many digits to be written. -/
def text (entries : List (EntryOf (List α))) : Option (List α) :=
  if ∀ e ∈ entries, ∀ n ∈ e.numbers, Text.Readable n then some (compose entries) else none

/-- A whole file whose names consist of characters. -/
def write (entries : List Entry) : List Char := compose (entries.map EntryOf.spelled)

theorem write_eq (entries : List Entry) :
    write entries = Text.unlines (header.map String.toList ++ entries.map Entry.line) := by
  simp only [write, compose, Text.spelled_char, List.map_map]
  rfl

theorem compose_spelled (entries : List Entry) :
    (compose (entries.map EntryOf.spelled) : List α) = Text.spelled (write entries) := by
  rw [write_eq, ← Text.unlines_spelled, compose, List.map_append, List.map_map, List.map_map,
    List.map_map]
  simp only [Function.comp_def, written_spelled]

/-- There is a text if all numbers can be written. -/
theorem text_eq_some_iff {entries : List (EntryOf (List α))} {s : List α} :
    text entries = some s ↔
      (∀ e ∈ entries, ∀ n ∈ e.numbers, Text.Readable n) ∧ compose entries = s := by
  rw [text, Option.ite_none_right_eq_some, Option.some.injEq]

end Letters

end Allotment.Ledger
