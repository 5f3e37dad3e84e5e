import Allotment.Argument
import Allotment.Text.Lower

/-!
# Names of registrants and of ids

A registrant's name is a key of the ledger and a file name, so it is brought to a normal form
and some characters are refused. The names of ids stand in a roster, and some are refused as well.
Names are looked at letter by letter, and no surrogate is refused.

* `Registrant.normal` — without blanks at the ends and in lower case;
* `Registrant.key?` — the key of a registrant, unless the name is empty or refused;
* `Registrant.ofText`, `Registrant.ofArgument` — the same for a text, and for a value handed in by a
  caller;
* `IdName.flaw?` — what is wrong with a name for an id: there are blanks at its ends, or the roster
  would read it as something else;
* `IdName.ofText`, `IdName.ofArgument` — a name under which an id can be kept.
-/

namespace Allotment

open Text (Letter)

variable {α : Type} [Letter α]

namespace Registrant

/-- Characters with a meaning in the files or in paths. -/
def isForbidden (c : Char) : Bool := ['=', '#', '[', ']', '\r', '\n', '/', '\\', ':'].contains c

/-- The form in which names are compared. -/
def normal (name : List α) : List α := Text.lower (Text.trim name)

theorem normal_spelled (name : List Char) :
    normal (Text.spelled name : List α) = Text.spelled (normal name) := by
  rw [normal, Text.trim_spelled, Text.lower_spelled, normal]

variable [DecidableEq α]

/-- Whether a name in normal form may be a key. -/
def isAcceptable (key : List α) : Bool :=
  !key.any (Letter.is isForbidden) && key.head? != some (Letter.ofChar '!') &&
    key != Text.spelled ['.'] && key != Text.spelled ['.', '.']

/-- What is wrong with a name. -/
inductive Flaw where
  | empty
  | refused
  deriving DecidableEq, Repr

/-- The key of the registrant with a given name. -/
def key? (name : List α) : Except Flaw (List α) :=
  let key := normal name
  if key = [] then .error .empty
  else if isAcceptable key then .ok key
  else .error .refused

theorem isAcceptable_spelled (key : List Char) :
    isAcceptable (Text.spelled key : List α) = isAcceptable key := by
  have hhead : (Text.spelled key : List α).head? = some (Letter.ofChar '!') ↔
      key.head? = some '!' := Text.head?_spelled_eq_some_iff
  have hsame : ∀ other : List Char, (Text.spelled key : List α) = Text.spelled other ↔ key = other :=
    fun other => Text.spelled_injective.eq_iff
  rw [Bool.eq_iff_iff]
  simp only [isAcceptable, Bool.and_eq_true, bne_iff_ne, ne_eq, hhead, hsame, Text.any_spelled,
    Text.spelled_char, Letter.ofChar_char, Letter.is_char]

/-- A name of characters has the same key, in whatever letters it is spelled. -/
theorem key?_spelled (name : List Char) :
    key? (Text.spelled name : List α) = (key? name).map Text.spelled := by
  have hnil : (Text.spelled (normal name) : List α) = [] ↔ normal name = [] := List.map_eq_nil_iff
  unfold key?
  simp only [normal_spelled, isAcceptable_spelled, hnil]
  split
  · rfl
  · split <;> rfl

/-- Whether a name has a key. -/
def accepts (name : String) : Bool := (key? name.toList).toOption.isSome

/-- The key of the registrant that a text names. -/
def ofText (name : List α) : Except Failure (List α) :=
  match key? name with
  | .ok key => .ok key
  | .error .empty => .error .emptyRegistrant
  | .error .refused => .error (.invalidRegistrant (String.ofList (Text.quoted name)))

theorem key?_of_ofText {name key : List α} (h : ofText name = .ok key) : key? name = .ok key := by
  unfold ofText at h
  split at h
  · rename_i hkey
    exact Except.ok.inj h ▸ hkey
  · cases h
  · cases h

/-- The key of the registrant that a caller names. -/
def ofArgument : Argument → Except Failure String
  | .text name => (ofText name.toList).map String.ofList
  | x => .error (.registrantType x.typeName)

end Registrant

namespace IdName

variable [DecidableEq α]

/-- What is wrong with a name of an id. -/
inductive Flaw where
  | blank
  | unstorable
  deriving DecidableEq, Repr

/-- The flaw of a name, if it has one. -/
def flaw? (name : List α) : Option Flaw :=
  if name = [] ∨ Text.trim name ≠ name then some .blank
  else if name.contains (Letter.ofChar '=') || name.contains (Letter.ofChar '\n')
      || name.contains (Letter.ofChar '\r') || name.head? == some (Letter.ofChar '#')
      || name.head? == some (Letter.ofChar '[') then some .unstorable
  else none

/-- A name of characters has the same flaw, in whatever letters it is spelled. -/
theorem flaw?_spelled (name : List Char) : flaw? (Text.spelled name : List α) = flaw? name := by
  have hblank : (Text.spelled name : List α) = [] ∨
      Text.trim (Text.spelled name : List α) ≠ Text.spelled name ↔
        name = [] ∨ Text.trim name ≠ name := by
    rw [Text.trim_spelled, Ne, Text.spelled_injective.eq_iff, Text.spelled, List.map_eq_nil_iff]
  have hhead : ∀ c, ((Text.spelled name : List α).head? == some (Letter.ofChar c)) =
      (name.head? == some c) := by
    intro c
    rw [Bool.eq_iff_iff, beq_iff_eq, beq_iff_eq, Text.head?_spelled_eq_some_iff]
  have hmem : ∀ c, (Text.spelled name : List α).contains (Letter.ofChar c) = name.contains c := by
    intro c
    rw [Bool.eq_iff_iff, List.contains_iff_mem, List.contains_iff_mem, Text.mem_spelled]
  unfold flaw?
  simp only [hblank, hhead, hmem, Letter.ofChar_char]

/-- The name that a text is for an id. -/
def ofText (name : List α) : Except Failure (List α) :=
  match flaw? name with
  | none => .ok name
  | some .blank => .error (.idNameBlank (String.ofList (Text.quoted name)))
  | some .unstorable => .error (.idNameUnstorable (String.ofList (Text.quoted name)))

theorem flaw?_of_ofText {name key : List α} (h : ofText name = .ok key) :
    flaw? name = none ∧ name = key := by
  unfold ofText at h
  split at h
  · rename_i hflaw
    exact ⟨hflaw, Except.ok.inj h⟩
  · cases h
  · cases h

/-- The name that a caller gives to an id. -/
def ofArgument : Argument → Except Failure String
  | .text name => (ofText name.toList).map fun _ => name
  | x => .error (.idNameType x.typeName)

end IdName

end Allotment
