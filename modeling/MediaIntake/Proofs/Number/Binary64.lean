import Mathlib.Algebra.Order.Field.Power
import Mathlib.Algebra.Order.Ring.Abs
import Mathlib.Data.Rat.Cast.Order
import Mathlib.Tactic.FieldSimp
import Mathlib.Tactic.Linarith
import Mathlib.Tactic.NormNum
import Mathlib.Tactic.Positivity
import Mathlib.Tactic.Ring
import MediaIntake.Number.Binary64
/-! # How far binary64 arithmetic is off

Rounding to a whole significand is off by half a unit of the significand at most, and that unit is
the 2^52nd part of the result or less.  So each operation is off by **the 2^53rd part of its exact
result** at most, unless the result is subnormal (`abs_magnitude_ofRatio_sub_le`).  Errors of this
kind add up along a calculation (`abs_magnitude_div_sub_le` is the second of two steps); what is
printed in the end is the nearest decimal, and where the calculation ends less than half a last
digit away from a decimal, **that decimal is printed** (`toFixed_of_abs_sub_lt`).
-/
namespace MediaIntake

/-! ## Rounding a quotient -/

theorem abs_roundHalfEven_sub_le (num : ℕ) {den : ℕ} (h : 0 < den) :
    |(roundHalfEven num den : ℚ) - num / den| ≤ 1 / 2 := by
  have hden : (0 : ℚ) < den := by exact_mod_cast h
  have hup : (2 * (roundHalfEven num den * den) : ℚ) ≤ 2 * num + den := by
    exact_mod_cast two_mul_roundHalfEven_le num h
  have hlow : (2 * num : ℚ) ≤ 2 * (roundHalfEven num den * den) + den := by
    exact_mod_cast le_two_mul_roundHalfEven num h
  have hquotient : (num / den : ℚ) * den = num := div_mul_cancel₀ _ hden.ne'
  rw [abs_le]
  constructor
  · nlinarith
  · nlinarith

/-- A quotient less than half a unit away from a whole number is rounded to it. -/
theorem roundHalfEven_of_abs_sub_lt {num den n : ℕ} (h : 0 < den)
    (hn : |(num / den : ℚ) - n| < 1 / 2) : roundHalfEven num den = n := by
  have hround := abs_le.mp (abs_roundHalfEven_sub_le num h)
  have hn := abs_lt.mp hn
  have hlow : (n : ℚ) < roundHalfEven num den + 1 := by linarith
  have hup : (roundHalfEven num den : ℚ) < n + 1 := by linarith
  norm_cast at hlow hup
  omega

namespace Binary64

/-! ## Magnitudes -/

/-- The exact magnitude of a number. -/
def magnitude (x : Binary64) : ℚ := x.significand * (2 : ℚ) ^ x.exponent

/-- A power of two as a quotient of two whole ones. -/
theorem two_pow_toNat_div (e : ℤ) :
    ((Nat.pow 2 e.toNat : ℕ) : ℚ) / (Nat.pow 2 (-e).toNat : ℕ) = (2 : ℚ) ^ e := by
  simp only [Nat.pow_eq, Nat.cast_pow, Nat.cast_ofNat]
  obtain he | he := le_total 0 e
  · have hneg : (-e).toNat = 0 := by omega
    rw [hneg, pow_zero, div_one, ← zpow_natCast, Int.toNat_of_nonneg he]
  · have hneg : e.toNat = 0 := by omega
    rw [hneg, pow_zero, one_div, ← zpow_natCast, Int.toNat_of_nonneg (by omega), zpow_neg, inv_inv]

theorem ratio_den_pos (x : Binary64) : 0 < x.ratio.2 := Nat.pow_pos (by decide)

theorem ratio_eq_magnitude (x : Binary64) : (x.ratio.1 / x.ratio.2 : ℚ) = x.magnitude := by
  rw [magnitude, ← two_pow_toNat_div, ratio, Nat.cast_mul, mul_div_assoc]

theorem scale_den_pos (num : ℕ) {den : ℕ} (h : 0 < den) (e : ℤ) : 0 < (scale num den e).2 :=
  Nat.mul_pos h (Nat.pow_pos (by decide))

/-- Scaling divides by the power of two. -/
theorem scale_div (num den : ℕ) (e : ℤ) :
    ((scale num den e).1 / (scale num den e).2 : ℚ) = num / den / (2 : ℚ) ^ e := by
  have hpow := two_pow_toNat_div e
  rw [← hpow, scale, Nat.cast_mul, Nat.cast_mul, mul_div_mul_comm, div_div_eq_mul_div,
    mul_div_assoc]

/-- A quotient is at least the power of two below it. -/
theorem two_zpow_floorLog2_le {num den : ℕ} (hnum : 0 < num) (hden : 0 < den) :
    (2 : ℚ) ^ floorLog2 num den ≤ num / den := by
  have hden' : (0 : ℚ) < den := by exact_mod_cast hden
  unfold floorLog2
  dsimp only
  generalize hk : (num.log2 : ℤ) - (den.log2 : ℤ) = k
  have hscale := scale_div num den k
  have hpos := scale_den_pos num hden k
  generalize scale num den k = p at hscale hpos
  have hpos' : (0 : ℚ) < p.2 := by exact_mod_cast hpos
  by_cases h : p.1 < p.2
  · -- the logarithms of both are rounded, so their difference is one too large at most
    rw [if_pos h, le_div_iff₀ hden', ← hk]
    have hlow : (2 : ℚ) ^ num.log2 ≤ num := by exact_mod_cast Nat.log2_self_le hnum.ne'
    have hup : (den : ℚ) ≤ 2 ^ (den.log2 + 1) := by exact_mod_cast Nat.lt_log2_self.le
    have hexponent : (num.log2 : ℤ) - den.log2 - 1 + ((den.log2 + 1 : ℕ) : ℤ) = num.log2 := by
      push_cast
      ring
    calc (2 : ℚ) ^ ((num.log2 : ℤ) - den.log2 - 1) * den
        ≤ 2 ^ ((num.log2 : ℤ) - den.log2 - 1) * 2 ^ (den.log2 + 1) :=
          mul_le_mul_of_nonneg_left hup (by positivity)
      _ = 2 ^ num.log2 := by
          rw [← zpow_natCast 2 (den.log2 + 1), ← zpow_add₀ two_ne_zero, hexponent, zpow_natCast]
      _ ≤ num := hlow
  · rw [if_neg h]
    have hle : (p.2 : ℚ) ≤ p.1 := by exact_mod_cast Nat.le_of_not_lt h
    have hone : (1 : ℚ) ≤ num / den / 2 ^ k := by
      rw [← hscale, le_div_iff₀ hpos', one_mul]
      exact hle
    rwa [le_div_iff₀ (by positivity), one_mul] at hone

/-! ## Rounding to a number -/

/-- The exponent of the unit that a quotient is rounded to. -/
def unitExponent (num den : ℕ) : ℤ := max minExponent (floorLog2 num den - 52)

/-- A rounded quotient is its scaled quotient rounded to a whole significand. -/
theorem magnitude_ofRatio (negative : Bool) {num den : ℕ} (h : num ≠ 0) {e : ℤ}
    (he : unitExponent num den = e) :
    (ofRatio negative num den).magnitude =
      roundHalfEven (scale num den e).1 (scale num den e).2 * (2 : ℚ) ^ e := by
  have he : max minExponent (floorLog2 num den - 52) = e := he
  unfold ofRatio magnitude
  rw [if_neg h]
  dsimp only
  rw [he]
  generalize roundHalfEven (scale num den e).1 (scale num den e).2 = significand
  split
  · next hs =>
    rw [hs, zpow_add₀ two_ne_zero]
    push_cast [Nat.pow_eq]
    ring
  · rfl

theorem negative_ofRatio (negative : Bool) (num den : ℕ) :
    (ofRatio negative num den).negative = negative := by
  unfold ofRatio
  dsimp only
  split
  · rfl
  · split
    · rfl
    · rfl

/-- The unit of a quotient that is not subnormal is its 2^52nd part or less. -/
theorem two_zpow_unitExponent_le {num den : ℕ} (hnum : 0 < num) (hden : 0 < den)
    (hnormal : (2 : ℚ) ^ (-1022 : ℤ) ≤ num / den) :
    (2 : ℚ) ^ unitExponent num den ≤ num / den / 2 ^ 52 := by
  rw [le_div_iff₀ (by positivity), ← zpow_natCast, ← zpow_add₀ two_ne_zero]
  obtain hmax | hmax := max_choice minExponent (floorLog2 num den - 52)
  · rw [unitExponent, hmax]
    exact hnormal
  · rw [unitExponent, hmax, Nat.cast_ofNat, sub_add_cancel]
    exact two_zpow_floorLog2_le hnum hden

/-- **A quotient that is not subnormal is off by its 2^53rd part at most.** -/
theorem abs_magnitude_ofRatio_sub_le (negative : Bool) {num den : ℕ} (hden : 0 < den)
    (hnormal : num = 0 ∨ (2 : ℚ) ^ (-1022 : ℤ) ≤ num / den) :
    |(ofRatio negative num den).magnitude - num / den| ≤ num / den / 2 ^ 53 := by
  by_cases hnum : num = 0
  · rw [hnum, ofRatio, if_pos rfl, magnitude]
    simp
  have hunit := two_zpow_unitExponent_le (Nat.pos_of_ne_zero hnum) hden (hnormal.resolve_left hnum)
  generalize he : unitExponent num den = e at hunit
  rw [magnitude_ofRatio negative hnum he]
  have hround := abs_roundHalfEven_sub_le (scale num den e).1 (scale_den_pos num hden e)
  rw [scale_div] at hround
  generalize roundHalfEven (scale num den e).1 (scale num den e).2 = significand at hround ⊢
  have hpow : (0 : ℚ) < 2 ^ e := by positivity
  have hfactor : (significand * 2 ^ e - num / den : ℚ) =
      (significand - num / den / 2 ^ e) * 2 ^ e := by
    rw [sub_mul, div_mul_cancel₀ _ hpow.ne']
  calc |(significand * 2 ^ e - num / den : ℚ)|
      = |(significand - num / den / 2 ^ e : ℚ)| * 2 ^ e := by
        rw [hfactor, abs_mul, abs_of_pos hpow]
    _ ≤ 1 / 2 * 2 ^ e := mul_le_mul_of_nonneg_right hround hpow.le
    _ ≤ 1 / 2 * (num / den / 2 ^ 52) := mul_le_mul_of_nonneg_left hunit (by norm_num)
    _ = num / den / 2 ^ 53 := by ring

/-! ## Whole numbers and quotients -/

theorem negative_ofInt (i : ℤ) : (ofInt i).negative = decide (i < 0) := negative_ofRatio _ _ _

/-- A whole number is off by its 2^53rd part at most. -/
theorem abs_magnitude_ofInt_sub_le (i : ℤ) :
    |(ofInt i).magnitude - i.natAbs| ≤ i.natAbs / 2 ^ 53 := by
  have hnormal : i.natAbs = 0 ∨ (2 : ℚ) ^ (-1022 : ℤ) ≤ i.natAbs / (1 : ℕ) := by
    obtain h | h := Nat.eq_zero_or_pos i.natAbs
    · exact .inl h
    · right
      have hone : (1 : ℚ) ≤ i.natAbs := by exact_mod_cast h
      rw [Nat.cast_one, div_one]
      exact le_trans (zpow_le_one_of_nonpos₀ one_le_two (by norm_num)) hone
  have h := abs_magnitude_ofRatio_sub_le (i < 0) Nat.one_pos hnormal
  rwa [Nat.cast_one, div_one] at h

theorem negative_div (x y : Binary64) : (x.div y).negative = (x.negative != y.negative) :=
  negative_ofRatio _ _ _

/-- A quotient of numbers is off by the 2^53rd part of their exact quotient at most. -/
theorem abs_magnitude_div_sub_le {x y : Binary64} (hy : 0 < y.magnitude)
    (hnormal : x.magnitude = 0 ∨ (2 : ℚ) ^ (-1022 : ℤ) ≤ x.magnitude / y.magnitude) :
    |(x.div y).magnitude - x.magnitude / y.magnitude| ≤ x.magnitude / y.magnitude / 2 ^ 53 := by
  have hxden := x.ratio_den_pos
  have hyden := y.ratio_den_pos
  have hynum : 0 < y.ratio.1 := by
    refine Nat.pos_of_ne_zero fun h => ?_
    rw [← ratio_eq_magnitude, h, Nat.cast_zero, zero_div] at hy
    exact lt_irrefl _ hy
  have hquotient : ((x.ratio.1 * y.ratio.2 : ℕ) / (x.ratio.2 * y.ratio.1 : ℕ) : ℚ) =
      x.magnitude / y.magnitude := by
    rw [← ratio_eq_magnitude, ← ratio_eq_magnitude, Nat.cast_mul, Nat.cast_mul, div_div_div_eq]
  rw [← hquotient] at hnormal ⊢
  refine abs_magnitude_ofRatio_sub_le _ (Nat.mul_pos hxden hynum) ?_
  refine hnormal.imp_left fun hx => ?_
  rw [← ratio_eq_magnitude, div_eq_zero_iff] at hx
  obtain hx | hx := hx
  · rw [Nat.cast_eq_zero.mp hx, Nat.zero_mul]
  · exact absurd (Nat.cast_eq_zero.mp hx) hxden.ne'

/-! ## Printing -/

/-- **A number less than half a last digit away from a decimal is printed as that decimal.** -/
theorem toFixed_of_abs_sub_lt {places n : ℕ} {x : Binary64}
    (h : |x.magnitude * 10 ^ places - n| < 1 / 2) :
    x.toFixed places =
      (if x.negative then "-" else "") ++ toString (n / Nat.pow 10 places) ++ "."
        ++ Digits.decimal places (n % Nat.pow 10 places) := by
  have hround : roundHalfEven (x.ratio.1 * Nat.pow 10 places) x.ratio.2 = n := by
    refine roundHalfEven_of_abs_sub_lt x.ratio_den_pos ?_
    rw [Nat.cast_mul, Nat.pow_eq, Nat.cast_pow, Nat.cast_ofNat, mul_div_right_comm,
      ratio_eq_magnitude]
    exact h
  rw [toFixed]
  dsimp only
  rw [hround]

end Binary64
end MediaIntake
