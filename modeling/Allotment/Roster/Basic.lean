import Allotment.Assoc
import Allotment.Notice
import Allotment.Order
import Allotment.Report
import Allotment.Text.Entries
import Allotment.Text.Lines
import Allotment.Text.Lower
import Allotment.Text.Numeral
import Allotment.Text.Quoted
import Allotment.Window

/-!
# The roster file

Each registrant has a file of named ids, in a section for each space:

`[space_a]`, then lines `name=id`, then `[space_b]`, then more of them.

The numbers in the file are the ones that people see, with the display offset of the space.

* `readFrom` — the fate of each significant line, given the section it stands in. Lines in an
  unknown section are passed over silently: the section itself is the issue;
* `read` — a whole file, from which the entries, the issues and the notices are taken;
* `compose`, `text` — a whole file: a comment with the windows, then the sections that hold ids,
  lowest id first. There is none if a number has too many digits to be written. The reader finds
  names of characters; names of any letters can be written;
* `write` — the same for names of characters.
-/

namespace Allotment.Roster

open Text (Letter)

/-- A named id. -/
structure Entry where
  space : Space
  name : String
  id : Int
  lineNo : Int
  deriving DecidableEq, Repr

/-- Where a line stands. -/
inductive Section where
  /-- Before the first section. -/
  | top
  /-- In the section of a space. -/
  | ofSpace (space : Space)
  /-- In a section with another name. -/
  | unknown
  deriving DecidableEq, Repr

/-- What is wrong with a line. -/
inductive Fault where
  /-- It opens a section of no space. -/
  | unknownSection (label : String)
  /-- It stands before the first section. -/
  | outsideSection
  /-- It lacks a name or the equals sign. -/
  | shape
  /-- Its id is not a whole number. -/
  | notInteger
  deriving DecidableEq, Repr

/-- The wording of a fault. -/
def Fault.message : Fault → String
  | .unknownSection label => s!"unknown section '{label}'"
  | .outsideSection => "entry outside of any section"
  | .shape => "expected '<name>=<id>'"
  | .notInteger => "non-integer id"

/-! ### Reading -/

/-- The label in brackets, if a line is the head of a section. -/
def sectionLabel? (line : List Char) : Option (List Char) :=
  match line with
  | '[' :: rest =>
    if rest.getLast? = some ']' then some (Text.lower (Text.trim rest.dropLast)) else none
  | _ => none

/-- The section under a label. -/
def Section.ofLabel (label : List Char) : Section :=
  match Space.ofLabel? (String.ofList label) with
  | some s => .ofSpace s
  | none => .unknown

/-- Read an entry in the section of a space. -/
def readEntry (space : Space) (lineNo : Int) (line : List Char) : Except Fault Entry :=
  match Text.splitAtFirst '=' line with
  | none => .error .shape
  | some (name, value) =>
    if Text.trim name = [] then .error .shape
    else match Text.readInt (Text.trim value) with
      | .ok shown =>
        .ok ⟨space, String.ofList (Text.trim name), space.zone.fromDisplay shown, lineNo⟩
      | .error _ => .error .notInteger

/-- A line and what became of it. -/
structure Reading where
  lineNo : Int
  line : List Char
  result : Except Fault Entry

/-- Read one significant line: the section behind it, and what became of the line, if there is
anything to say. -/
def readLine (here : Section) (l : Text.NumberedLine) : Section × Option (Except Fault Entry) :=
  match sectionLabel? l.chars with
  | some label =>
    match Section.ofLabel label with
    | .ofSpace s => (.ofSpace s, none)
    | _ => (.unknown, some (.error (.unknownSection (String.ofList label))))
  | none =>
    match here with
    | .top => (.top, some (.error .outsideSection))
    | .unknown => (.unknown, none)
    | .ofSpace s => (.ofSpace s, some (readEntry s l.number l.chars))

/-- Read significant lines from a section on. -/
def readFrom (here : Section) : List Text.NumberedLine → List Reading
  | [] => []
  | l :: rest =>
    let (next, result) := readLine here l
    (result.map (Reading.mk l.number l.chars)).toList ++ readFrom next rest

/-- Read the lines of a file. -/
def read (lines : List (List Char)) : List Reading := readFrom .top (Text.significant lines)

/-- The entry that a reading gives. -/
def Reading.entry? (r : Reading) : Option Entry := r.result.toOption

/-- The issue that a reading is, in the file of a registrant. -/
def Reading.issue? (source : String) (registrant : Option String) (r : Reading) : Option Issue :=
  match r.result with
  | .ok _ => none
  | .error fault =>
    some ⟨source, .warn, fault.message, some r.lineNo, registrant, some (String.ofList r.line)⟩

/-- The notice that a reading gives. -/
def Reading.notice? (registrant : Option String) (r : Reading) : Option Notice :=
  match r.result with
  | .ok _ => none
  | .error fault =>
    some (.warning .rosterFile
      (s!"Skipping line {r.lineNo} for " ++ registrant.getD "None" ++ ": " ++ fault.message ++ ": "
        ++ String.ofList (Text.quoted r.line)))

/-- The entries among readings. -/
def entries (readings : List Reading) : List Entry := readings.filterMap Reading.entry?

/-- The issues among readings. -/
def issues (source : String) (registrant : Option String) (readings : List Reading) :
    List Issue :=
  readings.filterMap (Reading.issue? source registrant)

/-- The notices of readings. -/
def notices (registrant : Option String) (readings : List Reading) : List Notice :=
  readings.filterMap (Reading.notice? registrant)

/-! ### Writing -/

/-- Ids with their names. -/
abbrev NamedIds := List (String × Int)

/-- The ids that entries give in a space. A name that comes again keeps its place and takes the
later id. -/
def idsOf (entries : List Entry) : Both NamedIds :=
  let inSpace := fun space =>
    (entries.filter fun e => decide (e.space = space)).map fun e => (e.name, e.id)
  ⟨Assoc.ofList (inSpace .a), Assoc.ofList (inSpace .b)⟩

/-- The comment on a window. -/
def boundsLine (space : Space) (w : Window) : List Char :=
  "# ".toList ++ space.label.toList ++ " range: ".toList
    ++ Text.decimal (space.zone.toDisplay w.start) ++ " ~ ".toList
    ++ Text.decimal (space.zone.toDisplay w.last)

/-- Named ids in the order of the ids. -/
def inOrder {ν : Type} (ids : List (ν × Int)) : List (ν × Int) :=
  sortBy (fun x y => decide (x.2 ≤ y.2)) ids

/-- The numbers in a file: the ends of the windows, and the ids. -/
def numbers {ν : Type} (bounds : List (Space × Window)) (ids : Both (List (ν × Int))) : List Int :=
  bounds.flatMap (fun (space, w) => [space.zone.toDisplay w.start, space.zone.toDisplay w.last])
    ++ Space.all.flatMap fun space => (ids.get space).map fun x => space.zone.toDisplay x.2

section Letters

variable {α : Type} [Letter α]

/-- The line of a named id. -/
def writtenId (space : Space) (name : List α) (id : Int) : List α :=
  name ++ Text.spelled ('=' :: Text.decimal (space.zone.toDisplay id))

/-- The section of a space, with a blank line before it; none if there are no ids. -/
def writtenSection (space : Space) (ids : List (List α × Int)) : List (List α) :=
  match ids with
  | [] => []
  | _ => [] :: Text.spelled ('[' :: space.label.toList ++ [']'])
    :: (inOrder ids).map fun (name, id) => writtenId space name id

/-- A whole file. -/
def compose (registrant : List α) (bounds : List (Space × Window))
    (ids : Both (List (List α × Int))) : List α :=
  Text.unlines ((Text.spelled "# ID configuration for ".toList ++ registrant)
    :: bounds.map (fun (space, w) => Text.spelled (boundsLine space w))
    ++ Space.all.flatMap fun space => writtenSection space (ids.get space))

/-- A whole file, unless a number has too many digits to be written. -/
def text (registrant : List α) (bounds : List (Space × Window))
    (ids : Both (List (List α × Int))) : Option (List α) :=
  if ∀ n ∈ numbers bounds ids, Text.Readable n then some (compose registrant bounds ids) else none

/-- There is a text if all numbers can be written. -/
theorem text_eq_some_iff {registrant : List α} {bounds : List (Space × Window)}
    {ids : Both (List (List α × Int))} {s : List α} :
    text registrant bounds ids = some s ↔
      (∀ n ∈ numbers bounds ids, Text.Readable n) ∧ compose registrant bounds ids = s := by
  rw [text, Option.ite_none_right_eq_some, Option.some.injEq]

/-- Ids with the characters of their names. -/
def spelledIds (ids : NamedIds) : List (List α × Int) :=
  ids.map fun (name, id) => (Text.spelled name.toList, id)

end Letters

/-! ### Names of characters -/

/-- The line of an id whose name consists of characters. -/
def idLine (space : Space) (name : String) (id : Int) : List Char := writtenId space name.toList id

theorem idLine_eq (space : Space) (name : String) (id : Int) :
    idLine space name id = name.toList ++ '=' :: Text.decimal (space.zone.toDisplay id) := by
  rw [idLine, writtenId, Text.spelled_char]

/-- The section of a space. -/
def sectionLines (space : Space) (ids : NamedIds) : List (List Char) :=
  writtenSection space (spelledIds ids)

/-- A whole file. -/
def write (registrant : String) (bounds : List (Space × Window)) (ids : Both NamedIds) :
    List Char :=
  compose registrant.toList bounds (ids.map spelledIds)

section Letters

variable {α : Type} [Letter α]

theorem numbers_spelledIds (bounds : List (Space × Window)) (ids : Both NamedIds) :
    numbers bounds (ids.map spelledIds : Both (List (List α × Int))) = numbers bounds ids := by
  simp only [numbers, Both.get_map, spelledIds, List.map_map]
  rfl

theorem inOrder_spelledIds (ids : NamedIds) :
    inOrder (spelledIds ids : List (List α × Int)) = spelledIds (inOrder ids) :=
  sortBy_map _ _ ids

theorem writtenId_spelled (space : Space) (name : String) (id : Int) :
    writtenId space (Text.spelled name.toList : List α) id = Text.spelled (idLine space name id) := by
  rw [idLine_eq, Text.spelled_append, writtenId]

/-- A space with ids has a section. -/
theorem writtenSection_of_ne_nil (space : Space) {ids : NamedIds} (h : ids ≠ []) :
    writtenSection space (spelledIds ids : List (List α × Int)) =
      [] :: Text.spelled ('[' :: space.label.toList ++ [']']) ::
        (inOrder ids).map fun (name, id) => Text.spelled (idLine space name id) := by
  have hlines : (inOrder (spelledIds ids : List (List α × Int))).map
      (fun (name, id) => writtenId space name id) =
        (inOrder ids).map fun (name, id) => Text.spelled (idLine space name id) := by
    rw [inOrder_spelledIds, spelledIds, List.map_map]
    exact List.map_congr_left fun x _ => writtenId_spelled space x.1 x.2
  rw [← hlines]
  cases ids with
  | nil => exact absurd rfl h
  | cons x rest => rfl

theorem sectionLines_of_ne_nil (space : Space) {ids : NamedIds} (h : ids ≠ []) :
    sectionLines space ids = [] :: ('[' :: space.label.toList ++ [']'])
      :: (inOrder ids).map fun (name, id) => idLine space name id := by
  rw [sectionLines, writtenSection_of_ne_nil space h]
  simp only [Text.spelled_char]

theorem writtenSection_spelled (space : Space) (ids : NamedIds) :
    writtenSection space (spelledIds ids : List (List α × Int)) =
      (sectionLines space ids).map fun line => Text.spelled line := by
  by_cases h : ids = []
  · rw [h]
    rfl
  · rw [writtenSection_of_ne_nil space h, sectionLines_of_ne_nil space h, List.map_cons,
      List.map_cons, List.map_map]
    rfl

end Letters

theorem write_eq (registrant : String) (bounds : List (Space × Window)) (ids : Both NamedIds) :
    write registrant bounds ids =
      Text.unlines (("# ID configuration for ".toList ++ registrant.toList)
        :: bounds.map (fun (space, w) => boundsLine space w)
        ++ Space.all.flatMap fun space => sectionLines space (ids.get space)) := by
  simp only [write, compose, Text.spelled_char, Both.get_map]
  rfl

theorem compose_spelled {α : Type} [Letter α] (registrant : String)
    (bounds : List (Space × Window)) (ids : Both NamedIds) :
    (compose (Text.spelled registrant.toList) bounds (ids.map spelledIds) : List α) =
      Text.spelled (write registrant bounds ids) := by
  rw [write_eq, ← Text.unlines_spelled, compose]
  simp only [List.cons_append, List.map_cons, List.map_append, List.map_map, List.map_flatMap,
    Both.get_map, writtenSection_spelled, Text.spelled_append, Function.comp_def]

end Allotment.Roster
