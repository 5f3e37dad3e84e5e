import Allotment.Number.Binary64
import Mathlib.Algebra.Order.Field.Basic
import Mathlib.Algebra.Order.Field.Power
import Mathlib.Algebra.Order.Ring.Rat
import Mathlib.Data.Nat.Log
import Mathlib.Order.Interval.Set.Defs
import Mathlib.Tactic.FieldSimp
import Mathlib.Tactic.Linarith
import Mathlib.Tactic.Positivity
import Mathlib.Tactic.Ring

/-!
# Fractions in the 64-bit format

A fraction is kept as a whole number of units. The unit is a power of two, so small that 53 bits are
needed for the number, unless it is the smallest unit there is. No number of the format is nearer to
the fraction then: one with the same unit or a larger one is a whole number of these units as well, and
one with a smaller unit lies below the 53rd bit.

* `Binary64.value`, `Binary64.Representable`, `Binary64.Nearest` — the numbers of the format, and what
  it means that one of them stands for a fraction;
* `Binary64.zpow_floorLog2_le`, `Binary64.lt_zpow_floorLog2` — **PROVED**: the leading bit of a
  fraction is found from the lengths of both its parts;
* `Binary64.inUnits_closest` — **PROVED**: no other whole number of units is nearer;
* `Binary64.inUnits_nearest` — **PROVED**: and no number in other units, if these are small enough;
* `Binary64.nearest_of_nearestQuotient` — **PROVED**: so what is found for a fraction is nearest to it;
* `Binary64.exists_quotient` — **PROVED**: so the share of a part in a whole has a nearest number, and
  it lies between zero and one.
-/

namespace Allotment

/-- **No whole number is nearer to a fraction than its rounded value.** -/
theorem roundedQuotient_closest (num : Nat) {den : Nat} (hden : 0 < den) (k : Nat) :
    |(roundedQuotient num den : ℚ) - num / den| ≤ |(k : ℚ) - num / den| := by
  have hpos : (0 : ℚ) < den := by exact_mod_cast hden
  have hnear : |(roundedQuotient num den : ℚ) - num / den| ≤ 1 / 2 := by
    obtain ⟨hlow, hhigh⟩ := roundedQuotient_near num hden
    have hlow : 2 * (num : ℚ) ≤ 2 * (den * roundedQuotient num den) + den := by exact_mod_cast hlow
    have hhigh : 2 * ((den : ℚ) * roundedQuotient num den) ≤ 2 * num + den := by exact_mod_cast hhigh
    have hfraction : (num : ℚ) / den * den = num := div_mul_cancel₀ _ hpos.ne'
    rw [abs_le]
    constructor <;> nlinarith
  by_cases hk : k = roundedQuotient num den
  · rw [hk]
  · -- two whole numbers are a unit apart, and the fraction is within half a unit of the first
    have hunit : (1 : ℚ) ≤ |(k : ℚ) - roundedQuotient num den| := by
      have hne : (k : ℤ) - roundedQuotient num den ≠ 0 := by omega
      exact_mod_cast Int.one_le_abs hne
    have htriangle := abs_sub_le (k : ℚ) (num / den) (roundedQuotient num den)
    rw [abs_sub_comm (num / den : ℚ)] at htriangle
    linarith

namespace Binary64

/-! ### The numbers of the format -/

/-- The number with a mantissa and an exponent. -/
def value (mantissa : Nat) (exponent : Int) : ℚ := mantissa * 2 ^ exponent

/-- The numbers of the format, but for their signs: mantissas have at most 53 bits. -/
def Representable (v : ℚ) : Prop :=
  ∃ mantissa exponent, mantissa < 2 ^ 53 ∧ -1074 ≤ exponent ∧ exponent ≤ 971 ∧
    v = value mantissa exponent

/-- A number of the format stands for a fraction: there is no other that is nearer. -/
structure Nearest (q v : ℚ) : Prop where
  representable : Representable v
  closest : ∀ w, Representable w → |v - q| ≤ |w - q|

/-- Rounding a fraction does not pass a number of the format. -/
theorem Nearest.le {q v w : ℚ} (h : Nearest q v) (hw : Representable w) (hq : q ≤ w) : v ≤ w := by
  have hclose := h.closest w hw
  rw [abs_of_nonneg (sub_nonneg.2 hq)] at hclose
  linarith [le_abs_self (v - q)]

theorem value_nonneg (mantissa : Nat) (exponent : Int) : 0 ≤ value mantissa exponent := by
  unfold value
  positivity

/-- In smaller units there are more of them. -/
theorem value_eq_of_le (mantissa : Nat) {exponent smaller : Int} (h : smaller ≤ exponent) :
    value mantissa exponent = value (mantissa * 2 ^ (exponent - smaller).toNat) smaller := by
  obtain ⟨places, rfl⟩ := Int.le.dest h
  have hplaces : (smaller + places - smaller).toNat = places := by omega
  rw [hplaces, value, value, zpow_add₀ (by norm_num), zpow_natCast, Nat.cast_mul, Nat.cast_pow,
    Nat.cast_ofNat]
  ring

/-! ### The leading bit -/

theorem reaches_iff {num den : Nat} (hden : 0 < den) {exponent : Int} :
    reaches num den exponent = true ↔ (2 : ℚ) ^ exponent ≤ num / den := by
  have hpos : (0 : ℚ) < den := by exact_mod_cast hden
  rw [le_div_iff₀ hpos]
  unfold reaches
  split
  next h =>
    obtain ⟨places, rfl⟩ := Int.eq_ofNat_of_zero_le h
    rw [Int.toNat_natCast, decide_eq_true_eq, Nat.pow_eq, zpow_natCast, mul_comm]
    exact_mod_cast Iff.rfl
  next h =>
    obtain ⟨places, rfl⟩ := Int.exists_eq_neg_ofNat (a := exponent) (by omega)
    have hpow : (0 : ℚ) < 2 ^ places := by positivity
    rw [Int.neg_neg, Int.toNat_natCast, decide_eq_true_eq, Nat.pow_eq, zpow_neg, zpow_natCast,
      inv_mul_le_iff₀ hpow, mul_comm]
    exact_mod_cast Iff.rfl

/-- **The leading bit is not above a fraction.** -/
theorem zpow_floorLog2_le {num den : Nat} (hnum : 0 < num) (hden : 0 < den) :
    (2 : ℚ) ^ floorLog2 num den ≤ num / den := by
  unfold floorLog2
  simp only
  split
  next hreach => exact (reaches_iff hden).1 hreach
  next =>
    have hnumlog : (2 : ℚ) ^ num.log2 ≤ num := by exact_mod_cast Nat.log2_self_le hnum.ne'
    have hdenlog : (den : ℚ) ≤ 2 ^ (den.log2 + 1) := by exact_mod_cast Nat.lt_log2_self.le
    have hpos : (0 : ℚ) < den := by exact_mod_cast hden
    calc (2 : ℚ) ^ ((num.log2 : ℤ) - den.log2 - 1) = 2 ^ num.log2 / 2 ^ (den.log2 + 1) := by
          rw [sub_sub, zpow_sub₀ (by norm_num), zpow_natCast]
          exact_mod_cast rfl
      _ ≤ num / den := by gcongr

/-- **Twice the leading bit is above a fraction.** -/
theorem lt_zpow_floorLog2 (num : Nat) {den : Nat} (hden : 0 < den) :
    (num : ℚ) / den < 2 ^ (floorLog2 num den + 1) := by
  unfold floorLog2
  simp only
  split
  next =>
    have hnumlog : (num : ℚ) < 2 ^ (num.log2 + 1) := by exact_mod_cast Nat.lt_log2_self
    have hdenlog : (2 : ℚ) ^ den.log2 ≤ den := by exact_mod_cast Nat.log2_self_le hden.ne'
    calc (num : ℚ) / den < 2 ^ (num.log2 + 1) / 2 ^ den.log2 := by gcongr
      _ = 2 ^ ((num.log2 : ℤ) - den.log2 + 1) := by
          rw [sub_add_eq_add_sub, zpow_sub₀ (by norm_num), zpow_natCast]
          exact_mod_cast rfl
  next hreach =>
    rw [reaches_iff hden] at hreach
    rw [sub_add_cancel]
    exact lt_of_not_ge hreach

/-! ### Rounding to units -/

/-- **No whole number of units is nearer to a fraction** than the number it is rounded to. -/
theorem inUnits_closest (num : Nat) {den : Nat} (hden : 0 < den) (exponent : Int) (k : Nat) :
    |value (inUnits num den exponent) exponent - num / den| ≤ |value k exponent - num / den| := by
  have hunit : (0 : ℚ) < 2 ^ exponent := by positivity
  -- the fraction in units is the one that is rounded
  obtain ⟨top, bottom, hbottom, hscaled, hrounded⟩ : ∃ top bottom : Nat, 0 < bottom ∧
      (num : ℚ) / den = top / bottom * 2 ^ exponent ∧
        inUnits num den exponent = roundedQuotient top bottom := by
    unfold inUnits
    split
    next h =>
      obtain ⟨places, rfl⟩ := Int.eq_ofNat_of_zero_le h
      refine ⟨_, _, Nat.mul_pos hden (Nat.pow_pos (by omega)), ?_, rfl⟩
      rw [Int.toNat_natCast, zpow_natCast, Nat.cast_mul, Nat.cast_pow, Nat.cast_ofNat]
      field_simp
    next h =>
      obtain ⟨places, rfl⟩ := Int.exists_eq_neg_ofNat (a := exponent) (by omega)
      refine ⟨_, _, hden, ?_, rfl⟩
      rw [Int.neg_neg, Int.toNat_natCast, Nat.pow_eq, zpow_neg, zpow_natCast, Nat.cast_mul,
        Nat.cast_pow, Nat.cast_ofNat]
      field_simp
  have hclosest := roundedQuotient_closest top hbottom k
  rw [hrounded, hscaled, value, value, ← sub_mul, ← sub_mul, abs_mul, abs_mul]
  exact mul_le_mul_of_nonneg_right hclosest (abs_nonneg _)

/-- Rounding to units does not pass a whole number of them. -/
theorem inUnits_le {num den bound : Nat} (hden : 0 < den) {exponent : Int}
    (h : (num : ℚ) / den ≤ value bound exponent) : inUnits num den exponent ≤ bound := by
  have hclosest := inUnits_closest num hden exponent bound
  rw [abs_of_nonneg (sub_nonneg.2 h)] at hclosest
  have hle : value (inUnits num den exponent) exponent ≤ value bound exponent := by
    linarith [le_abs_self (value (inUnits num den exponent) exponent - num / den)]
  have hunit : (0 : ℚ) < 2 ^ exponent := by positivity
  exact_mod_cast le_of_mul_le_mul_right hle hunit

/-! ### Rounding to the format -/

/-- A mantissa may have one bit too many if there is a larger exponent: it is the same number in units
twice as large. -/
theorem representable_value {mantissa : Nat} {exponent : Int} (hlow : -1074 ≤ exponent)
    (hhigh : exponent ≤ 971) (hbits : mantissa ≤ 2 ^ 53)
    (htop : ¬(exponent = 971 ∧ Nat.pow 2 53 ≤ mantissa)) :
    Representable (value mantissa exponent) := by
  rcases Nat.lt_or_eq_of_le hbits with hlt | rfl
  · exact ⟨mantissa, exponent, hlt, hlow, hhigh, rfl⟩
  · have hnext : exponent ≠ 971 := fun htopmost => htop ⟨htopmost, Nat.le_refl _⟩
    refine ⟨2 ^ 52, exponent + 1, by omega, by omega, by omega, ?_⟩
    rw [value_eq_of_le (2 ^ 52) (show exponent ≤ exponent + 1 by omega), add_sub_cancel_left]
    rfl

/-- A number of the format in smaller units is below the 53rd bit. -/
theorem value_le_of_lt {mantissa : Nat} {unit exponent : Int} (hbits : mantissa < 2 ^ 53)
    (h : unit < exponent) : value mantissa unit ≤ value (2 ^ 52) exponent := by
  rw [value_eq_of_le (2 ^ 52) h.le]
  have hplaces : 1 ≤ (exponent - unit).toNat := by omega
  have hpow : 2 ^ 1 ≤ 2 ^ (exponent - unit).toNat := Nat.pow_le_pow_right (by omega) hplaces
  have hfewer : mantissa ≤ 2 ^ 52 * 2 ^ (exponent - unit).toNat := by omega
  exact mul_le_mul_of_nonneg_right (by exact_mod_cast hfewer) (by positivity)

/-- **No number of the format is nearer to a fraction than a whole number of units,** if the units are
the smallest ones, or if the fraction has 53 bits of them. -/
theorem inUnits_nearest {num den : Nat} (hden : 0 < den) {exponent : Int}
    (hfine : exponent = -1074 ∨ value (2 ^ 52) exponent ≤ num / den) {w : ℚ}
    (hw : Representable w) :
    |value (inUnits num den exponent) exponent - num / den| ≤ |w - num / den| := by
  obtain ⟨mantissa, unit, hbits, hunit, -, rfl⟩ := hw
  rcases le_or_gt exponent unit with hle | hlt
  · rw [value_eq_of_le mantissa hle]
    exact inUnits_closest num hden exponent _
  · -- the leading bit lies between the other number and the fraction, and is a number of units
    have hleading : value (2 ^ 52) exponent ≤ num / den := hfine.resolve_left (by omega)
    calc |value (inUnits num den exponent) exponent - num / den|
        ≤ |value (2 ^ 52) exponent - num / den| := inUnits_closest num hden exponent _
      _ = num / den - value (2 ^ 52) exponent := by
        rw [abs_sub_comm, abs_of_nonneg (sub_nonneg.2 hleading)]
      _ ≤ num / den - value mantissa unit := sub_le_sub_left (value_le_of_lt hbits hlt) _
      _ ≤ |value mantissa unit - num / den| := by
        rw [abs_sub_comm]
        exact le_abs_self _

/-- Zero stands for itself. -/
theorem nearest_zero : Nearest 0 (value 0 0) where
  representable := ⟨0, 0, by omega, by omega, by omega, rfl⟩
  closest w _ := by
    have hzero : value 0 0 - 0 = 0 := by simp [value]
    rw [hzero, abs_zero]
    exact abs_nonneg _

/-- **What is found for a fraction is the nearest number of the format.** -/
theorem nearest_of_nearestQuotient {num den : Nat} {mantissa : Nat} {exponent : Int} (hden : 0 < den)
    (h : nearestQuotient? num den = some (mantissa, exponent)) :
    Nearest (num / den) (value mantissa exponent) := by
  unfold nearestQuotient? at h
  split at h
  next hnum =>
    obtain ⟨rfl, rfl⟩ := Prod.mk.inj (Option.some.inj h)
    rw [hnum, Nat.cast_zero, zero_div]
    exact nearest_zero
  next hnum =>
    simp only at h
    split at h
    · cases h
    next hsmall =>
      obtain ⟨rfl, hexponent⟩ := Prod.mk.inj (Option.some.inj h)
      rw [hexponent] at hsmall ⊢
      obtain ⟨htop, hbits⟩ := not_or.1 hsmall
      have hlow := zpow_floorLog2_le (Nat.pos_of_ne_zero hnum) hden
      have hhigh := lt_zpow_floorLog2 num hden
      generalize floorLog2 num den = leading at hexponent hlow hhigh
      have hbound : inUnits num den exponent ≤ 2 ^ 53 := by
        apply inUnits_le hden
        calc (num : ℚ) / den ≤ 2 ^ (leading + 1) := hhigh.le
          _ ≤ 2 ^ (53 + exponent) := zpow_le_zpow_right₀ (by norm_num) (by omega)
          _ = value (2 ^ 53) exponent := by
            rw [zpow_add₀ (by norm_num), value]
            exact_mod_cast rfl
      have hfine : exponent = -1074 ∨ value (2 ^ 52) exponent ≤ num / den := by
        by_cases hsmallest : exponent = -1074
        · exact .inl hsmallest
        · obtain rfl : leading = 52 + exponent := by omega
          rw [zpow_add₀ (by norm_num)] at hlow
          exact .inr (by exact_mod_cast hlow)
      exact ⟨representable_value (by omega) (by omega) hbound hbits,
        fun w hw => inUnits_nearest hden hfine hw⟩

/-! ### Shares -/

theorem floorLog2_nonpos {num den : Nat} (h : num ≤ den) : floorLog2 num den ≤ 0 := by
  have hlog : num.log2 ≤ den.log2 := by
    rw [Nat.log2_eq_log_two, Nat.log2_eq_log_two]
    exact Nat.log_mono_right h
  unfold floorLog2
  simp only
  split <;> omega

/-- The format is wide enough for every share. -/
theorem exists_nearestQuotient {num den : Nat} (h : num ≤ den) :
    ∃ mantissa exponent, nearestQuotient? num den = some (mantissa, exponent) := by
  unfold nearestQuotient?
  by_cases hzero : num = 0
  · exact ⟨0, 0, if_pos hzero⟩
  · have hlog := floorLog2_nonpos h
    simp only
    rw [if_neg hzero, if_neg (by omega)]
    exact ⟨_, _, rfl⟩

/-- **A share has a nearest number in the format,** and that is between zero and one as well. -/
theorem exists_quotient {num den : Int} (hnum : 0 ≤ num) (hden : 0 < den) (h : num ≤ den) :
    ∃ mantissa exponent, nearestQuotient? num.natAbs den.natAbs = some (mantissa, exponent) ∧
      quotient? num den = some (.finite false mantissa exponent) ∧
      Nearest (num / den) (value mantissa exponent) ∧ value mantissa exponent ∈ Set.Icc 0 1 := by
  obtain ⟨part, rfl⟩ := Int.eq_ofNat_of_zero_le hnum
  obtain ⟨whole, rfl⟩ := Int.eq_ofNat_of_zero_le hden.le
  have hpos : (0 : ℚ) < whole := by exact_mod_cast hden
  have hle : (part : ℚ) / whole ≤ 1 := by
    rw [div_le_one hpos]
    exact_mod_cast h
  have hone : Representable 1 := ⟨1, 0, by omega, by omega, by omega, by simp [value]⟩
  obtain ⟨mantissa, exponent, hfound⟩ := exists_nearestQuotient (show part ≤ whole by omega)
  have hnearest := nearest_of_nearestQuotient (by omega) hfound
  refine ⟨mantissa, exponent, hfound, ?_, hnearest, value_nonneg _ _, hnearest.le hone hle⟩
  rw [quotient?, Int.natAbs_natCast, Int.natAbs_natCast, hfound, Option.map_some,
    decide_eq_false (by omega), decide_eq_false (by omega)]
  rfl

end Binary64

end Allotment
