import Allotment.Text.CaseTable
import Allotment.Text.CodePoint

/-!
# Lower case

Registrants whose names differ in letter case only are the same registrant, so names are
compared in lower case, in the full mapping of the character database:

* each letter goes to its lower-case form; the dotted capital I becomes two characters;
* the capital sigma becomes the final sigma at the end of a word and the common sigma
  elsewhere. It ends a word if a cased letter stands before it and none behind it, where
  apostrophes, marks and the like are passed over in both directions.

`lower` reads the text once and carries the letters already read, nearest first, which is all that
the rule for the sigma needs. A surrogate has no case and stays as it is, and no letter has a
neighbour beyond it.
-/

namespace Allotment.Text

/-- A character that the search for a neighbouring letter passes over. -/
def isCaseIgnorable (c : Char) : Bool := inRanges caseIgnorableRanges c.toNat

/-- A letter with case. -/
def isCased (c : Char) : Bool := inRanges casedRanges c.toNat

/-- The lower-case form of one character without regard to its neighbours. -/
def lowerChar (c : Char) : List Char :=
  if c = 'İ' then ['i', '\u0307']
  else match lowerRuns.find? (·.has c.toNat) with
    | some run => [Char.ofNat (c.toNat + run.shift).toNat]
    | none => [c]

section Letters

variable {α : Type} [Letter α]

/-- Whether the nearest character that counts is a cased letter. -/
def nextToCased (s : List α) : Bool :=
  match s.dropWhile (Letter.is isCaseIgnorable) with
  | [] => false
  | a :: _ => Letter.is isCased a

/-- The lower-case form of a character between those before it, nearest first, and those behind
it. -/
def lowered (before : List α) (c : Char) (rest : List α) : List Char :=
  if c = 'Σ' then [if nextToCased before && !nextToCased rest then 'ς' else 'σ'] else lowerChar c

/-- The lower-case form of a text, given what stands before it, nearest first. -/
def lowerFrom (before : List α) : List α → List α
  | [] => []
  | a :: rest =>
    (match Letter.char? a with
      | some c => spelled (lowered before c rest)
      | none => [a]) ++ lowerFrom (a :: before) rest

/-- The lower-case form of a text. -/
def lower (s : List α) : List α := lowerFrom [] s

theorem nextToCased_spelled (s : List Char) : nextToCased (spelled s : List α) = nextToCased s := by
  rw [nextToCased, nextToCased, spelled, List.dropWhile_map, Letter.is_comp_ofChar, Letter.is_char]
  cases s.dropWhile isCaseIgnorable with
  | nil => rfl
  | cons c rest => exact Letter.is_ofChar isCased c

/-- Between characters a character has the same lower-case form, in whatever letters the text is
spelled. -/
theorem lowered_spelled (before : List Char) (c : Char) (rest : List Char) :
    lowered (spelled before : List α) c (spelled rest) = lowered before c rest := by
  rw [lowered, lowered, nextToCased_spelled, nextToCased_spelled]

theorem lowerFrom_ofChar (before : List α) (c : Char) (rest : List α) :
    lowerFrom before (Letter.ofChar c :: rest) =
      spelled (lowered before c rest) ++ lowerFrom (Letter.ofChar c :: before) rest := by
  rw [lowerFrom, Letter.char?_ofChar]

theorem lowerFrom_cons (before : List Char) (c : Char) (rest : List Char) :
    lowerFrom before (c :: rest) = lowered before c rest ++ lowerFrom (c :: before) rest := by
  have hcons := lowerFrom_ofChar before c rest
  rwa [spelled_char] at hcons

theorem lowerFrom_spelled (before s : List Char) :
    lowerFrom (spelled before : List α) (spelled s) = spelled (lowerFrom before s) := by
  induction s generalizing before with
  | nil => rfl
  | cons c rest ih =>
    rw [spelled_cons, lowerFrom_ofChar, lowered_spelled, ← spelled_cons, ih, lowerFrom_cons,
      spelled_append]

/-- A text of characters has the same lower case, in whatever letters it is spelled. -/
theorem lower_spelled (s : List Char) : lower (spelled s : List α) = spelled (lower s) :=
  lowerFrom_spelled [] s

end Letters

/-- No letter is lost. -/
theorem length_le_length_lowerFrom (before s : List Char) :
    s.length ≤ (lowerFrom before s).length := by
  induction s generalizing before with
  | nil => simp [lowerFrom]
  | cons c rest ih =>
    have h1 : 1 ≤ (lowerChar c).length := by
      unfold lowerChar
      split
      · simp
      · split <;> simp
    have := ih (c :: before)
    rw [lowerFrom_cons, List.length_append, List.length_cons, lowered]
    split
    · simp; omega
    · omega

theorem lower_eq_nil_iff {s : List Char} : lower s = [] ↔ s = [] := by
  constructor
  · intro h
    have := length_le_length_lowerFrom [] s
    unfold lower at h
    rw [h] at this
    exact List.eq_nil_of_length_eq_zero (by simpa using this)
  · rintro rfl
    rfl

end Allotment.Text
