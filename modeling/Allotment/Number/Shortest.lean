import Allotment.Number.Binary64

/-!
# The shortest decimal of a number

A reader of the 64-bit format takes every real number for the nearest number of the format, so
between its neighbours a number has an interval of its own, and any decimal in it may stand for
the number. It is written with the decimal of the fewest digits, and among those with the nearest.

* `Decimal` — a decimal number; `Decimal.text` writes it, in positional form unless that would
  need too many zeros; `Decimal.read` is the number of the format that a decimal is taken for;
* `Interval` — what is taken for a number: `Interval.of` for `mantissa · 2 ^ exponent`;
* `shortest` — the decimal that stands for a number, and `shortest_mem`: it is in the interval;
* `Binary64.text` — a number of the format as it is written.
-/

namespace Allotment

/-- The natural number `coefficient` times a power of ten. -/
structure Decimal where
  coefficient : Nat
  exponent : Int
  deriving DecidableEq, Repr

namespace Decimal

/-- The digits without the zeros at the end. -/
def significant (d : Decimal) : List Char :=
  ((Nat.toDigits 10 d.coefficient).reverse.dropWhile (· == '0')).reverse

/-- Where the decimal point stands, counted from the first digit to the right. -/
def point (d : Decimal) : Int := (Nat.toDigits 10 d.coefficient).length + d.exponent

/-- A run of zeros. -/
def zeros (n : Nat) : List Char := List.replicate n '0'

/-- Digits with a point among, before or behind them. -/
def positional (digits : List Char) (point : Int) : List Char :=
  let n := point.toNat
  if point ≤ 0 then '0' :: '.' :: zeros (-point).toNat ++ digits
  else if digits.length ≤ n then digits ++ zeros (n - digits.length) ++ ['.', '0']
  else digits.take n ++ '.' :: digits.drop n

/-- Digits with a point behind the first, and a power of ten of at least two digits. -/
def scientific (digits : List Char) (point : Int) : List Char :=
  let power := point - 1
  let size := Nat.toDigits 10 power.natAbs
  let fraction := if digits.length ≤ 1 then [] else '.' :: digits.drop 1
  digits.take 1 ++ fraction ++ 'e' :: (if power < 0 then '-' else '+') ::
    zeros (2 - size.length) ++ size

/-- A decimal as it is written. -/
def text (d : Decimal) : List Char :=
  if d.coefficient = 0 then ['0', '.', '0']
  else if -4 < d.point ∧ d.point ≤ 16 then positional d.significant d.point
  else scientific d.significant d.point

/-- Decimals whose point stands farther right than this are infinite numbers of the format, and
those whose point stands as far left are zeros. -/
def farthest : Int := 400

/-- The number of the format that a decimal, or its opposite, is taken for. -/
def read (negative : Bool) (d : Decimal) : Binary64 :=
  if d.coefficient = 0 ∨ d.point < -farthest then .finite negative 0 (-1074)
  else if farthest < d.point then .infinite negative
  else match Binary64.nearestQuotient? (d.coefficient * Nat.pow 10 d.exponent.toNat)
      (Nat.pow 10 (-d.exponent).toNat) with
    | none => .infinite negative
    | some (mantissa, exponent) =>
      if mantissa = Nat.pow 2 53 then .finite negative (Nat.pow 2 52) (exponent + 1)
      else .finite negative mantissa exponent

end Decimal

/-- An interval around a fraction; all three fractions have one denominator. -/
structure Interval where
  lower : Nat
  middle : Nat
  upper : Nat
  denominator : Nat
  /-- Whether the ends belong to the interval. -/
  closed : Bool
  deriving DecidableEq, Repr

/-- The most digits that a number of the format needs. -/
def digitsNeeded : Nat := 17

namespace Interval

/-- What is taken for `mantissa · 2 ^ exponent`: up to the middles between the number and its
neighbours. Below a power of two the neighbours are half as far apart. A middle goes to the
neighbour with the even mantissa. -/
def of (mantissa : Nat) (exponent : Int) : Interval :=
  let unit := Nat.pow 2 exponent.toNat
  let below := if mantissa = Nat.pow 2 52 ∧ -1074 < exponent then 1 else 2
  { lower := (4 * mantissa - below) * unit
    middle := 4 * mantissa * unit
    upper := (4 * mantissa + 2) * unit
    denominator := 4 * Nat.pow 2 (-exponent).toNat
    closed := decide (mantissa % 2 = 0) }

/-- A decimal as a numerator over the denominator of the interval, times `scale`. -/
def scaled (i : Interval) (d : Decimal) : Nat :=
  d.coefficient * Nat.pow 10 d.exponent.toNat * i.denominator

/-- The factor by which numerators of the interval are compared with `scaled`. -/
def scale (d : Decimal) : Nat := Nat.pow 10 (-d.exponent).toNat

/-- Whether a decimal is in the interval. -/
def mem (i : Interval) (d : Decimal) : Bool :=
  let x := i.scaled d
  if i.closed then decide (i.lower * scale d ≤ x) && decide (x ≤ i.upper * scale d)
  else decide (i.lower * scale d < x) && decide (x < i.upper * scale d)

/-- How far a decimal is from the middle. -/
def distance (i : Interval) (d : Decimal) : Nat :=
  let x := i.scaled d
  let m := i.middle * scale d
  (x - m) + (m - x)

/-- The multiple of a power of ten at the middle or next below it. -/
def floorAt (i : Interval) (exponent : Int) : Decimal :=
  ⟨i.middle * Nat.pow 10 (-exponent).toNat / (i.denominator * Nat.pow 10 exponent.toNat), exponent⟩

/-- The multiple of a power of ten next above the middle. -/
def above (d : Decimal) : Decimal := ⟨d.coefficient + 1, d.exponent⟩

/-- The nearer one of two neighbouring decimals; of two equally near ones the even one. -/
def nearer (i : Interval) (low high : Decimal) : Decimal :=
  if i.distance low < i.distance high then low
  else if i.distance high < i.distance low then high
  else if low.coefficient % 2 = 0 then low else high

/-- The multiple of a power of ten in the interval that is nearest to the middle. -/
def pick? (i : Interval) (exponent : Int) : Option Decimal :=
  let low := i.floorAt exponent
  let high := above low
  match i.mem low, i.mem high with
  | true, true => some (i.nearer low high)
  | true, false => some low
  | false, true => some high
  | false, false => none

/-- Where the decimal point of the middle stands, counted from the first digit to the right. -/
def point (i : Interval) : Int :=
  if i.denominator ≤ i.middle then (Nat.toDigits 10 (i.middle / i.denominator)).length
  else 1 - (Nat.toDigits 10 ((i.denominator - 1) / i.middle)).length

/-- The decimal of the fewest digits in the interval. -/
def find? (i : Interval) : Option Decimal :=
  (List.range digitsNeeded).findSome? fun (n : Nat) => i.pick? (i.point - 1 - n)

/-- A decimal that is picked is in the interval. -/
theorem pick?_mem {i : Interval} {exponent : Int} {d : Decimal} (h : i.pick? exponent = some d) :
    i.mem d = true := by
  unfold pick? at h
  simp only at h
  split at h
  · rename_i low high
    simp only [Option.some.injEq] at h
    subst h
    unfold nearer
    split
    · exact low
    · split
      · exact high
      · split
        · exact low
        · exact high
  · rename_i low _
    simp only [Option.some.injEq] at h
    exact h ▸ low
  · rename_i _ high
    simp only [Option.some.injEq] at h
    exact h ▸ high
  · simp at h

/-- A decimal that is found is in the interval. -/
theorem find?_mem {i : Interval} {d : Decimal} (h : i.find? = some d) : i.mem d = true := by
  obtain ⟨_, _, picked⟩ := List.exists_of_findSome?_eq_some h
  exact pick?_mem picked

end Interval

/-- A number with all its places. -/
def exactDecimal (mantissa : Nat) (exponent : Int) : Decimal :=
  ⟨mantissa * Nat.pow 2 exponent.toNat * Nat.pow 5 (-exponent).toNat, -(-exponent).toNat⟩

/-- The decimal of the fewest digits that stands for `mantissa · 2 ^ exponent`. -/
def shortest (mantissa : Nat) (exponent : Int) : Decimal :=
  (Interval.of mantissa exponent).find?.getD (exactDecimal mantissa exponent)

/-- With all its places a number is in the middle of its interval. -/
theorem scaled_exactDecimal (mantissa : Nat) (exponent : Int) :
    (Interval.of mantissa exponent).scaled (exactDecimal mantissa exponent) =
      (Interval.of mantissa exponent).middle * Interval.scale (exactDecimal mantissa exponent) := by
  have five : ∀ n : Nat, Nat.pow 5 n * Nat.pow 2 n = Nat.pow 10 n := fun n =>
    (Nat.mul_pow 5 2 n).symm
  have whole : (-((-exponent).toNat : Int)).toNat = 0 := by omega
  have places : (- -((-exponent).toNat : Int)).toNat = (-exponent).toNat := by omega
  simp only [Interval.scaled, Interval.scale, Interval.of, exactDecimal, whole, places]
  rw [← five (-exponent).toNat]
  show _ * 1 * _ = _
  ac_rfl

/-- The decimal with all places of a number is in the number's interval. -/
theorem exactDecimal_mem (mantissa : Nat) (exponent : Int) :
    (Interval.of mantissa exponent).mem (exactDecimal mantissa exponent) = true := by
  have e := scaled_exactDecimal mantissa exponent
  have unit : 0 < Nat.pow 2 exponent.toNat := Nat.pow_pos (by omega)
  have ten : 0 < Interval.scale (exactDecimal mantissa exponent) := Nat.pow_pos (by omega)
  have low : (Interval.of mantissa exponent).lower ≤ (Interval.of mantissa exponent).middle :=
    Nat.mul_le_mul_right _ (Nat.sub_le _ _)
  have high : (Interval.of mantissa exponent).middle < (Interval.of mantissa exponent).upper :=
    Nat.mul_lt_mul_of_pos_right (by omega) unit
  unfold Interval.mem
  simp only [e]
  split
  · simp [Nat.mul_le_mul_right _ low, Nat.mul_le_mul_right _ (Nat.le_of_lt high)]
  · rename_i odd
    have pos : 0 < mantissa := by
      rcases Nat.eq_zero_or_pos mantissa with h | h
      · exact absurd (by simp [Interval.of, h]) odd
      · exact h
    have low : (Interval.of mantissa exponent).lower < (Interval.of mantissa exponent).middle := by
      refine Nat.mul_lt_mul_of_pos_right (Nat.sub_lt (by omega) ?_) unit
      split <;> omega
    simp [Nat.mul_lt_mul_of_pos_right low ten, Nat.mul_lt_mul_of_pos_right high ten]

/-- **The decimal that is written is taken for the number again.** -/
theorem shortest_mem (mantissa : Nat) (exponent : Int) :
    (Interval.of mantissa exponent).mem (shortest mantissa exponent) = true := by
  unfold shortest
  cases h : (Interval.of mantissa exponent).find? with
  | none => exact exactDecimal_mem mantissa exponent
  | some d => exact Interval.find?_mem h

namespace Binary64

/-- A number of the format as it is written. -/
def text : Binary64 → String
  | .nan => "nan"
  | .infinite true => "-inf"
  | .infinite false => "inf"
  | .finite negative mantissa exponent =>
    let digits := (shortest mantissa exponent).text
    String.ofList (if negative then '-' :: digits else digits)

end Binary64

end Allotment
