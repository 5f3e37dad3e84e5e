import Allotment.Text.CodePoint
import Allotment.Text.Hex
import Allotment.Text.Printable

/-!
# Quoted texts

Messages show what somebody wrote in quotes, so that blanks at the ends and invisible
characters can be seen.

* the quote is `'`, or `"` for a text that holds the first and not the second;
* a backslash, the quote itself, line feed, carriage return and tab get a backslash;
* any other character that cannot be printed is shown by number, in the shortest of the forms
  `\xNN`, `\uNNNN` and `\UNNNNNNNN` that can hold it, and so is a surrogate.
-/

namespace Allotment.Text

/-- A code point by number. -/
def escapeCode (code : Nat) : List Char :=
  if code < 0x100 then '\\' :: 'x' :: hexDigits 2 code
  else if code < 0x10000 then '\\' :: 'u' :: hexDigits 4 code
  else '\\' :: 'U' :: hexDigits 8 code

/-- One character inside quotes. -/
def escapeChar (mark c : Char) : List Char :=
  if c = mark ∨ c = '\\' then ['\\', c]
  else if c = '\n' then ['\\', 'n']
  else if c = '\r' then ['\\', 'r']
  else if c = '\t' then ['\\', 't']
  else if isPrintable c then [c]
  else escapeCode c.toNat

section Letters

variable {α : Type} [Letter α]

/-- One letter inside quotes. -/
def escapeLetter (mark : Char) (a : α) : List Char :=
  match Letter.char? a with
  | some c => escapeChar mark c
  | none => escapeCode (Letter.code a)

/-- The quote that a text is shown in. -/
def quoteMark (s : List α) : Char :=
  if s.any (Letter.is (· == '\'')) && !s.any (Letter.is (· == '"')) then '"' else '\''

/-- A text in quotes. -/
def quoted (s : List α) : List Char :=
  quoteMark s :: s.flatMap (escapeLetter (quoteMark s)) ++ [quoteMark s]

end Letters

/-- A string in quotes. -/
def quote (s : String) : String := String.ofList (quoted s.toList)

end Allotment.Text
