import Allotment.Text.Hex

/-!
# JSON in several lines

Reports can be printed as JSON with one member or item on a line, indented by two blanks for
each level, and with ASCII characters only: others are shown as `\uNNNN`, those beyond U+FFFF
as a pair.
-/

namespace Allotment.Text

/-- A JSON value without fractions. -/
inductive Json where
  | null
  | number (value : Int)
  | text (value : String)
  | list (items : List Json)
  | object (members : List (String × Json))

namespace Json

/-- An escape by number. -/
def escapeNumber (n : Nat) : List Char := '\\' :: 'u' :: hexDigits 4 n

/-- One character inside a JSON text. -/
def escapeChar (c : Char) : List Char :=
  if c = '"' ∨ c = '\\' then ['\\', c]
  else if c = '\n' then ['\\', 'n']
  else if c = '\r' then ['\\', 'r']
  else if c = '\t' then ['\\', 't']
  else if c = '\x08' then ['\\', 'b']
  else if c = '\x0c' then ['\\', 'f']
  else if 0x20 ≤ c.toNat ∧ c.toNat < 0x7F then [c]
  else if c.toNat < 0x10000 then escapeNumber c.toNat
  else escapeNumber (0xD800 + (c.toNat - 0x10000) / 1024)
    ++ escapeNumber (0xDC00 + (c.toNat - 0x10000) % 1024)

/-- A JSON text. -/
def quote (s : String) : String := String.ofList ('"' :: s.toList.flatMap escapeChar ++ ['"'])

/-- The blanks at the front of a line. -/
def indentation (depth : Nat) : String := String.ofList (List.replicate (2 * depth) ' ')

/-- Parts in brackets, one on a line, at a depth; no line is broken for no parts. -/
def bracketed (opening closing : String) (depth : Nat) (parts : List String) : String :=
  match parts with
  | [] => opening ++ closing
  | _ => opening ++ "\n"
    ++ ",\n".intercalate (parts.map fun part => indentation (depth + 1) ++ part)
    ++ "\n" ++ indentation depth ++ closing

mutual

/-- A value at a depth. -/
def renderAt (depth : Nat) : Json → String
  | .null => "null"
  | .number n => toString n
  | .text s => quote s
  | .list items => bracketed "[" "]" depth (renderItems (depth + 1) items)
  | .object members => bracketed "\x7b" "\x7d" depth (renderMembers (depth + 1) members)

/-- The items of a list. -/
def renderItems (depth : Nat) : List Json → List String
  | [] => []
  | item :: rest => renderAt depth item :: renderItems depth rest

/-- The members of an object. -/
def renderMembers (depth : Nat) : List (String × Json) → List String
  | [] => []
  | (key, value) :: rest =>
    (quote key ++ ": " ++ renderAt depth value) :: renderMembers depth rest

end

/-- A value in several lines. -/
def render (value : Json) : String := renderAt 0 value

end Json

end Allotment.Text
