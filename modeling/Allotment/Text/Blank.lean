import Allotment.Text.CodePoint
import Allotment.Text.Ranges

/-!
# Blank characters and trimming

A line of a hand-edited file may carry any of the blank characters around its text.

* `isBlank` — white space of every script, with the four information separators U+001C to
  U+001F, and without the zero-width characters;
* `trim` — a text without the blanks at its two ends;
* `trim_trim` — **PROVED**: trimming twice changes nothing more;
* `trim_eq_self` — **PROVED**: a text whose first and last characters are not blank is its
  own trimmed form.
-/

namespace Allotment.Text

/-- The blank characters. -/
def blankRanges : List CodeRange :=
  [(0x09, 0x0D), (0x1C, 0x20), (0x85, 0x85), (0xA0, 0xA0), (0x1680, 0x1680), (0x2000, 0x200A),
   (0x2028, 0x2029), (0x202F, 0x202F), (0x205F, 0x205F), (0x3000, 0x3000)]

/-- Whether a character is white space. -/
def isBlank (c : Char) : Bool := inRanges blankRanges c.toNat

section Letters

variable {α : Type} [Letter α]

/-- Drop the blanks at the end of a text. -/
def trimEnd (s : List α) : List α := (s.reverse.dropWhile (Letter.is isBlank)).reverse

/-- Drop the blanks at both ends of a text. -/
def trim (s : List α) : List α := trimEnd (s.dropWhile (Letter.is isBlank))

/-- Blanks are characters, in whatever letters a text is spelled. -/
theorem trim_spelled (s : List Char) : trim (spelled s : List α) = spelled (trim s) := by
  simp only [trim, trimEnd, spelled, List.dropWhile_map, ← List.map_reverse, Letter.is_comp_ofChar,
    Letter.is_char]

end Letters

/-! ### Laws of trimming -/

theorem trimEnd_eq (s : List Char) : trimEnd s = (s.reverse.dropWhile isBlank).reverse := rfl

theorem trim_eq (s : List Char) : trim s = trimEnd (s.dropWhile isBlank) := rfl

/-- What is left after dropping starts with no dropped character. -/
theorem head_dropWhile (p : Char → Bool) (s : List Char) :
    ∀ c, (s.dropWhile p).head? = some c → p c = false := by
  induction s with
  | nil => intro c h; simp at h
  | cons x xs ih =>
    intro c h
    by_cases hx : p x = true
    · rw [List.dropWhile_cons_of_pos hx] at h
      exact ih c h
    · rw [List.dropWhile_cons_of_neg hx] at h
      simp only [List.head?_cons, Option.some.injEq] at h
      subst h
      simpa using hx

/-- A text that starts with no dropped character loses nothing. -/
theorem dropWhile_eq_self {p : Char → Bool} {s : List Char}
    (h : ∀ c, s.head? = some c → p c = false) : s.dropWhile p = s := by
  cases s with
  | nil => rfl
  | cons x xs => exact List.dropWhile_cons_of_neg (by simp [h x rfl])

/-- Dropping blanks at the end keeps a first character that is not blank. -/
theorem head?_trimEnd {s : List Char} (h : ∀ c, s.head? = some c → isBlank c = false) :
    ∀ c, (trimEnd s).head? = some c → isBlank c = false := by
  intro c hc
  have hpre : trimEnd s <+: s := by
    unfold trimEnd
    have := (List.dropWhile_suffix isBlank (l := s.reverse)).reverse
    simpa using this
  obtain ⟨t, ht⟩ := hpre
  apply h c
  cases hs : trimEnd s with
  | nil => rw [hs] at hc; simp at hc
  | cons x xs =>
    rw [hs] at hc ht
    rw [← ht]
    simpa using hc

/-- A trimmed text starts with no blank. -/
theorem head?_trim (s : List Char) : ∀ c, (trim s).head? = some c → isBlank c = false :=
  head?_trimEnd (head_dropWhile isBlank s)

/-- A trimmed text ends with no blank. -/
theorem getLast?_trim (s : List Char) : ∀ c, (trim s).getLast? = some c → isBlank c = false := by
  intro c hc
  unfold trim trimEnd at hc
  rw [List.getLast?_reverse] at hc
  exact head_dropWhile isBlank _ c hc

/-- **A text without blanks at its ends is its own trimmed form.** -/
theorem trim_eq_self {s : List Char} (hhead : ∀ c, s.head? = some c → isBlank c = false)
    (hlast : ∀ c, s.getLast? = some c → isBlank c = false) : trim s = s := by
  rw [trim_eq, trimEnd_eq, dropWhile_eq_self hhead, dropWhile_eq_self, List.reverse_reverse]
  intro c hc
  rw [List.head?_reverse] at hc
  exact hlast c hc

/-- **Trimming is idempotent.** -/
theorem trim_trim (s : List Char) : trim (trim s) = trim s :=
  trim_eq_self (head?_trim s) (getLast?_trim s)

end Allotment.Text
