/-!
# Numbers of the floating-point format with 64 bits

A finite number of the format is a sign and a natural number times a power of two, and is kept as
these three: the format has two zeros, which differ in their signs alone.

* `Binary64.truncated` — the whole part of a number, towards zero;
* `Binary64.nearestQuotient?` — the number of the format nearest to a fraction, a tie going to
  the even neighbour; none if the fraction is beyond all of them;
* `Binary64.quotient?` — the same for integers, with a sign;
* `roundedQuotient` — the whole number nearest to a fraction, a tie going to the even one.
-/

namespace Allotment

/-- The whole number nearest to a fraction; of two equally near ones the even one. -/
def roundedQuotient (num den : Nat) : Nat :=
  let q := num / den
  let twice := 2 * (num % den)
  if twice < den then q
  else if den < twice then q + 1
  else if q % 2 = 0 then q else q + 1

/-- A fraction is at most half a unit away from its rounded value. -/
theorem roundedQuotient_near (num : Nat) {den : Nat} (h : 0 < den) :
    2 * num ≤ 2 * (den * roundedQuotient num den) + den ∧
      2 * (den * roundedQuotient num den) ≤ 2 * num + den := by
  have e := Nat.div_add_mod num den
  have l := Nat.mod_lt num h
  have step : den * (num / den + 1) = den * (num / den) + den := Nat.mul_succ _ _
  unfold roundedQuotient
  simp only
  split
  · omega
  · split
    · rw [step]; omega
    · split
      · omega
      · rw [step]; omega

/-- A number of the format. -/
inductive Binary64 where
  /-- `mantissa · 2 ^ exponent`, or its opposite. -/
  | finite (negative : Bool) (mantissa : Nat) (exponent : Int)
  | infinite (negative : Bool)
  | nan
  deriving DecidableEq, Repr

namespace Binary64

/-- The whole part of `mantissa · 2 ^ exponent`, or of its opposite, towards zero. -/
def truncated (negative : Bool) (mantissa : Nat) (exponent : Int) : Int :=
  let whole : Nat :=
    if 0 ≤ exponent then mantissa * Nat.pow 2 exponent.toNat
    else mantissa / Nat.pow 2 (-exponent).toNat
  if negative then -(whole : Int) else whole

/-- Whether a fraction is at least a power of two. -/
def reaches (num den : Nat) (exponent : Int) : Bool :=
  if 0 ≤ exponent then decide (den * Nat.pow 2 exponent.toNat ≤ num)
  else decide (den ≤ num * Nat.pow 2 (-exponent).toNat)

/-- The largest power of two, as its exponent, that is not above a positive fraction. -/
def floorLog2 (num den : Nat) : Int :=
  let guess : Int := (num.log2 : Int) - (den.log2 : Int)
  if reaches num den guess then guess else guess - 1

/-- A fraction in units of a power of two, rounded to a whole number of them. -/
def inUnits (num den : Nat) (exponent : Int) : Nat :=
  if 0 ≤ exponent then roundedQuotient num (den * Nat.pow 2 exponent.toNat)
  else roundedQuotient (num * Nat.pow 2 (-exponent).toNat) den

/-- The nearest number of the format to a fraction of naturals, as mantissa and exponent; none
if it is too large. -/
def nearestQuotient? (num den : Nat) : Option (Nat × Int) :=
  if num = 0 then some (0, 0)
  else
    let exponent := max (floorLog2 num den - 52) (-1074)
    let mantissa := inUnits num den exponent
    if 971 < exponent ∨ (exponent = 971 ∧ Nat.pow 2 53 ≤ mantissa) then none
    else some (mantissa, exponent)

/-- A quotient of integers, with a divisor other than zero. The sign is kept at a zero too, if one
side is negative. -/
def quotient? (num den : Int) : Option Binary64 :=
  (nearestQuotient? num.natAbs den.natAbs).map fun (mantissa, exponent) =>
    .finite (decide (num < 0) != decide (den < 0)) mantissa exponent

end Binary64

end Allotment
