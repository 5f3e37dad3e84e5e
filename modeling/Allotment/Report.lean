import Allotment.Order
import Allotment.Text.Json

/-!
# Load reports

Reading a hand-edited file never fails because of what is in it: a bad line is skipped, a bad
number mended, and an issue says so. A report is the list of the issues found in one source, in
the order in which they were found.

* `warn`, `add`, `extend` — ways in;
* `isClean`, `forRegistrant`, `count` — questions;
* `summary`, `text`, `json` — ways out. The text groups the issues by registrant, in the order
  of the names; issues without a registrant stand under a dash.
-/

namespace Allotment

/-- How bad an issue is. -/
inductive Severity where
  | error
  | warn
  | info
  deriving DecidableEq, Repr

/-- The name of a severity. -/
def Severity.label : Severity → String
  | .error => "ERROR"
  | .warn => "WARN"
  | .info => "INFO"

/-- Something that was found while a file was read. -/
structure Issue where
  source : String
  severity : Severity
  message : String
  lineNo : Option Int := none
  registrant : Option String := none
  line : Option String := none
  deriving DecidableEq, Repr

/-- The issues found in one source. -/
structure Report where
  source : String
  issues : List Issue := []
  deriving DecidableEq, Repr

namespace Report

variable (r : Report)

/-- Add an issue. -/
def add (issue : Issue) : Report := { r with issues := r.issues ++ [issue] }

/-- Add several issues. -/
def addAll (issues : List Issue) : Report := { r with issues := r.issues ++ issues }

/-- Add a warning of this report's source. -/
def warn (message : String) (lineNo : Option Int) (registrant line : Option String) : Report :=
  r.add ⟨r.source, .warn, message, lineNo, registrant, line⟩

/-- Add the issues of another report, which keep their source. -/
def extend (other : Report) : Report := r.addAll other.issues

/-- Whether nothing was found. -/
def isClean : Bool := r.issues.isEmpty

/-- The issues of a registrant, or those that name none. -/
def forRegistrant (registrant : Option String) : List Issue :=
  r.issues.filter fun issue => decide (issue.registrant = registrant)

/-- The number of issues of a severity. -/
def count (severity : Severity) : Nat :=
  (r.issues.filter fun issue => decide (issue.severity = severity)).length

/-- One line about the report. -/
def summary : String :=
  s!"{r.source}: {r.count .error} error(s), {r.count .warn} warning(s), {r.count .info} info"

/-- The heading under which an issue stands. -/
def heading (issue : Issue) : String :=
  match issue.registrant with
  | none => "-"
  | some name => if name = "" then "-" else name

/-- The headings, each once, in the order of their characters. -/
def headings : List String :=
  sortBy (fun x y => !decide (y < x)) (r.issues.map heading).eraseDups

/-- An issue in one line. -/
def issueLine (issue : Issue) : String :=
  let place := match issue.lineNo with
    | none => ""
    | some n => s!" (line {n})"
  s!"  [{issue.severity.label}] {issue.message}{place}"

/-- The report as text. -/
def text : String :=
  "\n".intercalate (r.summary :: r.headings.flatMap fun name =>
    ("\n" ++ name) :: (r.issues.filter fun issue => decide (heading issue = name)).map issueLine)

/-- An optional text in JSON. -/
def optionalText : Option String → Text.Json
  | none => .null
  | some s => .text s

/-- An issue in JSON. -/
def issueJson (issue : Issue) : Text.Json :=
  .object [("source", .text issue.source), ("level", .text issue.severity.label),
    ("message", .text issue.message),
    ("line_no", match issue.lineNo with
      | none => .null
      | some n => .number n),
    ("registrant", optionalText issue.registrant), ("line", optionalText issue.line)]

/-- The report in JSON. -/
def json : Text.Json :=
  .object [("source", .text r.source),
    ("summary", .object [("error", .number (r.count .error)), ("warn", .number (r.count .warn)),
      ("info", .number (r.count .info))]),
    ("issues", .list (r.issues.map issueJson))]

end Report

end Allotment
