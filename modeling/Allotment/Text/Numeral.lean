import Allotment.Text.Blank
import Allotment.Text.DecimalDigit

/-!
# Whole numbers as text

People write numbers into the files by hand, so the reader is generous, and exact about where
generosity ends.

* `decimal` — how a number is written: a minus sign if it is negative, then its digits;
* `readInt` — how a number is read: blanks around it, one sign, decimal digits of any script,
  single underscores between digits. The blanks here are those of `isBlank` without the
  information separators;
* a text with more than `digitLimit` digits is refused before its value is computed, leading
  zeros included. A misplaced underscore is noticed first, any other stray character later;
* `Readable` — whether a number has not too many digits. No other number can be written: whoever
  calls `decimal` asks for this first, or knows that the number is within bounds;
* `readInt_decimal` — **PROVED**: a number that is written is read back, unless it has too many
  digits.
-/

namespace Allotment.Text

/-- How a whole number is written. -/
def decimal (n : Int) : List Char :=
  if n < 0 then '-' :: Nat.toDigits 10 n.natAbs else Nat.toDigits 10 n.natAbs

/-- Why a text is not a number. -/
inductive NumeralFlaw where
  /-- It does not have the form of a number. -/
  | malformed
  /-- It has this many digits, which is too many. -/
  | tooLong (digits : Nat)
  deriving DecidableEq, Repr

/-- The largest number of digits that is read or written. -/
def digitLimit : Nat := 4300

/-- A number that has not too many digits to be read or written. -/
def Readable (n : Int) : Prop := (Nat.toDigits 10 n.natAbs).length ≤ digitLimit

instance (n : Int) : Decidable (Readable n) :=
  inferInstanceAs (Decidable ((Nat.toDigits 10 n.natAbs).length ≤ digitLimit))

/-- The blanks around a number: the information separators are not among them. -/
def isNumeralBlank (c : Char) : Bool :=
  isBlank c && !(decide (0x1C ≤ c.toNat) && decide (c.toNat ≤ 0x1F))

/-- What stands before the place that is read: nothing yet, a digit, or an underscore. -/
inductive NumeralPlace where
  | first
  | afterDigit
  | afterUnderscore
  deriving DecidableEq

/-- The digits at the front of a text, with single underscores between them, and the rest.
`none` if an underscore has no digit before it or behind it. -/
def takeDigits (place : NumeralPlace) : List Char → Option (List Nat × List Char)
  | [] => if place = .afterUnderscore then none else some ([], [])
  | c :: rest =>
    match digitValue? c with
    | some d => (takeDigits .afterDigit rest).map fun (ds, tail) => (d :: ds, tail)
    | none =>
      if c = '_' then
        if place = .afterDigit then takeDigits .afterUnderscore rest else none
      else if place = .afterUnderscore then none
      else some ([], c :: rest)

/-- The value of digits, highest first, behind what is already read. -/
def digitsValue (value : Nat) (digits : List Nat) : Nat :=
  digits.foldl (fun v d => 10 * v + d) value

/-- Read a number without a sign, and blanks behind it. -/
def readNat (s : List Char) : Except NumeralFlaw Nat :=
  match takeDigits .first s with
  | some (d :: ds, tail) =>
    if digitLimit < (d :: ds).length then .error (.tooLong (d :: ds).length)
    else if tail.all isNumeralBlank then .ok (digitsValue 0 (d :: ds))
    else .error .malformed
  | _ => .error .malformed

/-- Read a number. -/
def readInt (s : List Char) : Except NumeralFlaw Int :=
  match s.dropWhile isNumeralBlank with
  | '-' :: rest => (readNat rest).map fun (n : Nat) => -(n : Int)
  | '+' :: rest => (readNat rest).map fun (n : Nat) => (n : Int)
  | rest => (readNat rest).map fun (n : Nat) => (n : Int)

/-! ### A written number is read back -/

theorem digitsValue_append (value : Nat) (ds : List Nat) (d : Nat) :
    digitsValue value (ds ++ [d]) = 10 * digitsValue value ds + d := by
  simp [digitsValue]

/-- The digits of a number have its value. -/
theorem toDigits_eq_map (n : Nat) :
    ∃ d ds, (∀ x ∈ d :: ds, x < 10) ∧ Nat.toDigits 10 n = (d :: ds).map Nat.digitChar
      ∧ digitsValue 0 (d :: ds) = n := by
  induction n using Nat.strongRecOn with
  | ind n ih =>
    by_cases hn : n < 10
    · refine ⟨n, [], by simpa using hn, ?_, by simp [digitsValue]⟩
      simp [Nat.toDigits_of_lt_base hn]
    · obtain ⟨d, ds, hlt, hds, hval⟩ := ih (n / 10) (by omega)
      have hpos : 0 < n / 10 := by omega
      have hlast : n % 10 < 10 := Nat.mod_lt _ (by omega)
      have hcut : Nat.toDigits 10 (n / 10) ++ Nat.toDigits 10 (n % 10)
          = Nat.toDigits 10 (10 * (n / 10) + n % 10) :=
        Nat.toDigits_append_toDigits (by omega) hpos hlast
      rw [Nat.toDigits_of_lt_base hlast, Nat.div_add_mod, hds] at hcut
      refine ⟨d, ds ++ [n % 10], ?_, ?_, ?_⟩
      · intro x hx
        rw [← List.cons_append, List.mem_append] at hx
        rcases hx with hx | hx
        · exact hlt x hx
        · rw [List.mem_singleton.1 hx]
          exact hlast
      · rw [← hcut]
        simp
      · rw [← List.cons_append, digitsValue_append, hval]
        omega

/-- Digits alone are taken whole. -/
theorem takeDigits_map (ds : List Nat) (hlt : ∀ x ∈ ds, x < 10) {place : NumeralPlace}
    (hplace : place ≠ .afterUnderscore) :
    takeDigits place (ds.map Nat.digitChar) = some (ds, []) := by
  induction ds generalizing place with
  | nil => simp [takeDigits, hplace]
  | cons d ds ih =>
    have hd := digitValue?_digitChar d (hlt d (by simp))
    have hrest : takeDigits .afterDigit (ds.map Nat.digitChar) = some (ds, []) :=
      ih (fun x hx => hlt x (List.mem_cons_of_mem d hx)) (by simp)
    simp only [List.map_cons, takeDigits, hd, hrest, Option.map_some]

theorem readNat_toDigits {n : Nat} (h : (Nat.toDigits 10 n).length ≤ digitLimit) :
    readNat (Nat.toDigits 10 n) = .ok n := by
  obtain ⟨d, ds, hlt, hds, hval⟩ := toDigits_eq_map n
  have hlen : (d :: ds).length ≤ digitLimit := by simpa [hds] using h
  rw [hds, readNat, takeDigits_map (d :: ds) hlt (by simp)]
  simp only [List.all_nil, if_true, hval, if_neg (Nat.not_lt.2 hlen)]

/-- The first digit of a number is neither a blank nor a sign. -/
theorem digitChar_plain :
    ∀ d, d < 10 → isNumeralBlank (Nat.digitChar d) = false ∧ Nat.digitChar d ≠ '-'
      ∧ Nat.digitChar d ≠ '+' := by
  decide

/-- **A number that is written is read back.** -/
theorem readInt_decimal {n : Int} (h : (Nat.toDigits 10 n.natAbs).length ≤ digitLimit) :
    readInt (decimal n) = .ok n := by
  have hread := readNat_toDigits h
  unfold decimal
  split
  · rename_i hneg
    have hminus : isNumeralBlank '-' = false := by decide
    have hvalue : -(n.natAbs : Int) = n := by omega
    simp only [readInt, List.dropWhile_cons, hminus, Bool.false_eq_true, if_false, hread,
      Except.map, hvalue]
  · rename_i hpos
    obtain ⟨d, ds, hlt, hds, -⟩ := toDigits_eq_map n.natAbs
    obtain ⟨hblank, hminus, hplus⟩ := digitChar_plain d (hlt d (by simp))
    rw [hds, List.map_cons] at hread ⊢
    simp only [readInt, List.dropWhile_cons, hblank, Bool.false_eq_true, if_false]
    split
    · rename_i heq
      exact absurd (List.cons.inj heq).1 hminus
    · rename_i heq
      exact absurd (List.cons.inj heq).1 hplus
    · have hvalue : (n.natAbs : Int) = n := by omega
      simp only [hread, Except.map, hvalue]

end Allotment.Text
