/-!
# The two spaces

Ids come from two spaces. `Space` names them; the bounds belong to `Zone`.

* `letter` — the name used in messages and reports;
* `label` — the name used in files;
* `ofLabel?_label` — **PROVED**: a label is read back;
* `Both` — a value for each space.
-/

namespace Allotment

/-- The two spaces of ids. -/
inductive Space where
  | a
  | b
  deriving DecidableEq, Repr

namespace Space

/-- Both spaces, in their order. -/
def all : List Space := [.a, .b]

/-- The name in messages and reports. -/
def letter : Space → String
  | .a => "A"
  | .b => "B"

/-- The name in files. -/
def label : Space → String
  | .a => "space_a"
  | .b => "space_b"

/-- The space with a given label. -/
def ofLabel? (s : String) : Option Space := all.find? fun space => space.label = s

theorem mem_all (s : Space) : s ∈ all := by cases s <;> decide

theorem ofLabel?_label (s : Space) : ofLabel? s.label = some s := by cases s <;> decide

theorem label_of_ofLabel? {t : String} {s : Space} (h : ofLabel? t = some s) : s.label = t := by
  have := List.find?_some h
  simpa using this

end Space

/-! ### A value for each space -/

/-- A value for each space. -/
structure Both (α : Type) where
  a : α
  b : α
  deriving DecidableEq, Repr

namespace Both

variable {α β : Type}

/-- The value for a space. -/
def get (x : Both α) : Space → α
  | .a => x.a
  | .b => x.b

/-- Change the value for a space. -/
def modify (x : Both α) (space : Space) (f : α → α) : Both α :=
  match space with
  | .a => { x with a := f x.a }
  | .b => { x with b := f x.b }

/-- Change both values. -/
def map (f : α → β) (x : Both α) : Both β := ⟨f x.a, f x.b⟩

/-- The values in the order of the spaces. -/
def toList (x : Both α) : List α := [x.a, x.b]

theorem get_modify_self (x : Both α) (s : Space) (f : α → α) :
    (x.modify s f).get s = f (x.get s) := by cases s <;> rfl

theorem get_modify_of_ne {s t : Space} (hst : t ≠ s) (x : Both α) (f : α → α) :
    (x.modify s f).get t = x.get t := by
  cases s with
  | a =>
    cases t with
    | a => exact absurd rfl hst
    | b => rfl
  | b =>
    cases t with
    | a => rfl
    | b => exact absurd rfl hst

theorem get_map (f : α → β) (x : Both α) (s : Space) : (x.map f).get s = f (x.get s) := by
  cases s <;> rfl

theorem ext_get {x y : Both α} (h : ∀ s, x.get s = y.get s) : x = y := by
  have ha : x.a = y.a := h .a
  have hb : x.b = y.b := h .b
  cases x
  cases y
  simp_all

end Both

end Allotment
