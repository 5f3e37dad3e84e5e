import Allotment.Failure
import Allotment.Number.Shortest
import Allotment.Text.Numeral
import Allotment.Text.Quoted

/-!
# Arguments from outside

Callers may hand in anything where a name, a size or a space is expected. An `Argument` is such
a value before it is checked.

* `typeName`, `shown` — how messages speak of it;
* `toSize` — the whole number that it stands for;
* `toSpace` — the space that it names: the space itself, its label, or its letter in either
  case;
* `lookupKey` — the text under which it may be looked up.
-/

namespace Allotment

/-- A value handed in by a caller. Its texts consist of characters: a name with surrogates comes up only
where names are checked and files are written. -/
inductive Argument where
  | null
  | bool (value : Bool)
  | int (value : Int)
  | real (value : Binary64)
  | text (value : String)
  | list (items : List Argument)
  | dict (entries : List (String × Argument))
  | space (value : Space)
  deriving Inhabited

namespace Argument

/-- The name of a value's type. -/
def typeName : Argument → String
  | .null => "NoneType"
  | .bool _ => "bool"
  | .int _ => "int"
  | .real _ => "float"
  | .text _ => "str"
  | .list _ => "list"
  | .dict _ => "dict"
  | .space _ => "Space"

mutual

/-- A value as messages show it. -/
def shown : Argument → String
  | .null => "None"
  | .bool true => "True"
  | .bool false => "False"
  | .int n => toString n
  | .real x => x.text
  | .text s => Text.quote s
  | .list items => "[" ++ ", ".intercalate (shownItems items) ++ "]"
  | .dict entries => "\x7b" ++ ", ".intercalate (shownEntries entries) ++ "\x7d"
  | .space s => "<Space." ++ s.letter ++ ": '" ++ s.label ++ "'>"

/-- The items of a list as messages show them. -/
def shownItems : List Argument → List String
  | [] => []
  | x :: rest => shown x :: shownItems rest

/-- The entries of a dictionary as messages show them. -/
def shownEntries : List (String × Argument) → List String
  | [] => []
  | (key, value) :: rest => (Text.quote key ++ ": " ++ shown value) :: shownEntries rest

end

mutual

/-- The numbers that a message would show with a value. -/
def numbers : Argument → List Int
  | .int n => [n]
  | .list items => itemNumbers items
  | .dict entries => entryNumbers entries
  | _ => []

/-- The numbers in the items of a list. -/
def itemNumbers : List Argument → List Int
  | [] => []
  | x :: rest => numbers x ++ itemNumbers rest

/-- The numbers in the entries of a dictionary. -/
def entryNumbers : List (String × Argument) → List Int
  | [] => []
  | (_, value) :: rest => numbers value ++ entryNumbers rest

end

/-- The failure of a value that names no space. -/
def noSpace (x : Argument) : Failure :=
  if ∀ n ∈ x.numbers, Text.Readable n then .unknownSpace x.shown else .tooLongToShow

/-- How much of a text that is no number a message shows. -/
def shownLimit : Nat := 200

/-- The whole number that a value stands for. -/
def toSize : Argument → Except Failure Int
  | .bool b => .ok (if b then 1 else 0)
  | .int n => .ok n
  | .real (.finite negative mantissa exponent) =>
    .ok (Binary64.truncated negative mantissa exponent)
  | .real (.infinite _) => .error .infiniteSize
  | .real .nan => .error .nanSize
  | .text s =>
    match Text.readInt s.toList with
    | .ok n => .ok n
    | .error .malformed =>
      .error (.notNumeral (String.ofList ((Text.quoted s.toList).take shownLimit)))
    | .error (.tooLong digits) => .error (.tooManyDigits Text.digitLimit digits)
  | x => .error (.notSize x.typeName)

/-- The space with a given letter, in either case. -/
def spaceOfLetter? (s : String) : Option Space :=
  if s = "A" ∨ s = "a" then some .a else if s = "B" ∨ s = "b" then some .b else none

/-- The space that a value names. -/
def toSpace : Argument → Except Failure Space
  | .space s => .ok s
  | .text t =>
    match Space.ofLabel? t, spaceOfLetter? t with
    | some s, _ => .ok s
    | none, some s => .ok s
    | none, none => .error (noSpace (.text t))
  | x => .error x.noSpace

/-- The text under which a value is looked up among names: only a text can be found, and lists
and dictionaries cannot be looked up at all. -/
def lookupKey : Argument → Except Failure (Option String)
  | .text s => .ok (some s)
  | .list items => .error (.unhashable (typeName (.list items)))
  | .dict entries => .error (.unhashable (typeName (.dict entries)))
  | _ => .ok none

end Argument

end Allotment
