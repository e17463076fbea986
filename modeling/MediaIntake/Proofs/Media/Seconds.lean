import Mathlib.Algebra.Order.Field.Power
import Mathlib.Tactic.Linarith
import Mathlib.Tactic.NormNum
import Mathlib.Tactic.Ring
import MediaIntake.Proofs.Media.Conversions
import MediaIntake.Proofs.Number.Binary64
/-! # Milliseconds shown in seconds

A time in whole milliseconds is shown in seconds by way of ticks and of binary64 numbers.  Ticks in
64 bits are off by up to 512 once they are rounded to 53 bits, and their quotient is rounded again,
but together that is **less than a quarter of a millisecond** wherever it happens
(`Ticks.abs_milliseconds_sub_lt`), so no digit of three decimals ever changes.  What does change the
digits is the way to ticks, which ends where the range of ticks ends: beyond that, every time is
shown as the same one (`Millis.secondsText_eq`).
-/
namespace MediaIntake

/-! ## Decimals with three places -/

/-- So many thousandths as a decimal: a minus sign before a negative number, the whole part, a point
and three digits. -/
def thousandths (m : ℤ) : String :=
  (if m < 0 then "-" else "") ++ toString (m.natAbs / 1000) ++ "." ++
    String.ofList [Nat.digitChar (m.natAbs / 100 % 10), Nat.digitChar (m.natAbs / 10 % 10),
      Nat.digitChar (m.natAbs % 10)]

/-- The thousandths that a decimal with three places says, by its sign and its digits. -/
def readThousandths (decimal : String) : ℤ :=
  let n : ℤ := Nat.ofDigitChars 10 (decimal.toList.filter Char.isDigit) 0
  if '-' ∈ decimal.toList then -n else n

/-- The characters of a decimal with three places. -/
theorem toList_thousandths (m : ℤ) :
    (thousandths m).toList = (if m < 0 then ['-'] else []) ++ Nat.toDigits 10 (m.natAbs / 1000) ++
      ['.', Nat.digitChar (m.natAbs / 100 % 10), Nat.digitChar (m.natAbs / 10 % 10),
        Nat.digitChar (m.natAbs % 10)] := by
  have hsign : (if m < 0 then "-" else "").toList = if m < 0 then ['-'] else [] := by
    split <;> rfl
  simp [thousandths, hsign]

/-- **A decimal with three places says what it was written for.** -/
theorem readThousandths_thousandths (m : ℤ) : readThousandths (thousandths m) = m := by
  have hdigit {c : Char} (hc : c ∈ Nat.toDigits 10 (m.natAbs / 1000)) : c.isDigit = true :=
    Nat.isDigit_of_mem_toDigits (by decide) (by decide) hc
  have hsign : '-' ∈ (thousandths m).toList ↔ m < 0 := by
    have hwhole : '-' ∉ Nat.toDigits 10 (m.natAbs / 1000) := fun hc =>
      absurd (hdigit hc) (by decide)
    rw [toList_thousandths]
    split
    · simp [*]
    · simp [*]
  have hwhole : (Nat.toDigits 10 (m.natAbs / 1000)).filter Char.isDigit =
      Nat.toDigits 10 (m.natAbs / 1000) := List.filter_eq_self.mpr fun _ => hdigit
  have hread : (Nat.ofDigitChars 10 ((thousandths m).toList.filter Char.isDigit) 0 : ℤ) =
      m.natAbs := by
    have hfilter : (thousandths m).toList.filter Char.isDigit =
        Nat.toDigits 10 (m.natAbs / 1000) ++ [Nat.digitChar (m.natAbs / 100 % 10),
          Nat.digitChar (m.natAbs / 10 % 10), Nat.digitChar (m.natAbs % 10)] := by
      rw [toList_thousandths, List.filter_append, List.filter_append, hwhole]
      split <;> simp [Nat.mod_lt]
    rw [hfilter, Nat.ofDigitChars_append, Nat.ofDigitChars_ten_toDigits]
    simp only [Nat.ofDigitChars_cons_digitChar_of_lt_ten (Nat.mod_lt _ (by decide : 0 < 10)),
      Nat.ofDigitChars_nil]
    omega
  rw [readThousandths, hread]
  simp only [hsign]
  split
  · omega
  · omega

/-- No two times are shown as the same decimal. -/
theorem thousandths_injective : Function.Injective thousandths :=
  Function.LeftInverse.injective readThousandths_thousandths

/-- Three places of fixed width are three digits. -/
theorem Digits.decimal_three (n : ℕ) :
    Digits.decimal 3 (n % Nat.pow 10 3) =
      String.ofList [Nat.digitChar (n / 100 % 10), Nat.digitChar (n / 10 % 10),
        Nat.digitChar (n % 10)] := by
  have hpow : Nat.pow 10 3 = 1000 := rfl
  have hhundreds : n % 1000 / 10 / 10 % 10 = n / 100 % 10 := by omega
  have htens : n % 1000 / 10 % 10 = n / 10 % 10 := by omega
  have hones : n % 1000 % 10 = n % 10 := by omega
  rw [hpow, Digits.decimal]
  simp only [Digits.fixed, hhundreds, htens, hones]
  rfl

/-! ## Ticks in seconds -/

namespace Ticks

theorem negative_seconds (t : Ticks) : t.seconds.negative = decide (t.count.toInt < 0) := by
  have hdivisor : (Binary64.ofInt ticksPerSecond).negative = false := Binary64.negative_ofInt _
  rw [seconds, Binary64.negative_div, hdivisor, Binary64.negative_ofInt, Bool.bne_false]

/-- Ten million is a binary64 number. -/
theorem magnitude_ticksPerSecond : (Binary64.ofInt ticksPerSecond).magnitude = 10 ^ 7 := by
  have hexact : Binary64.ofInt ticksPerSecond = ⟨false, 10000000 * 2 ^ 29, -29⟩ := by decide +kernel
  rw [hexact, Binary64.magnitude]
  norm_num

/-- **Seconds are off by two roundings**, each by a 2^53rd part of what it rounds. -/
theorem abs_magnitude_seconds_sub_le (t : Ticks) :
    |t.seconds.magnitude - (t.count.toInt.natAbs : ℚ) / 10 ^ 7| ≤
      (t.count.toInt.natAbs : ℚ) / 10 ^ 7 * (2 / 2 ^ 53 + 1 / 2 ^ 106) := by
  have hcount := abs_le.mp (Binary64.abs_magnitude_ofInt_sub_le t.count.toInt)
  have hdivisor := magnitude_ticksPerSecond
  rw [seconds]
  generalize t.count.toInt.natAbs = n at hcount ⊢
  generalize Binary64.ofInt t.count.toInt = x at hcount ⊢
  generalize Binary64.ofInt ticksPerSecond = y at hdivisor ⊢
  have hnormal : x.magnitude = 0 ∨ (2 : ℚ) ^ (-1022 : ℤ) ≤ x.magnitude / y.magnitude := by
    obtain rfl | hn := Nat.eq_zero_or_pos n
    · rw [Nat.cast_zero, zero_div, sub_zero, neg_zero] at hcount
      exact .inl (le_antisymm hcount.2 hcount.1)
    · have hone : (1 : ℚ) ≤ n := by exact_mod_cast hn
      have hsmall : (2 : ℚ) ^ (-1022 : ℤ) ≤ 2 ^ (-25 : ℤ) :=
        zpow_le_zpow_right₀ one_le_two (by norm_num)
      right
      rw [hdivisor]
      refine hsmall.trans ?_
      norm_num at hcount ⊢
      linarith
  have hquotient : |(x.div y).magnitude - x.magnitude / 10 ^ 7| ≤
      x.magnitude / 10 ^ 7 / 2 ^ 53 := by
    rw [← hdivisor]
    exact Binary64.abs_magnitude_div_sub_le (by rw [hdivisor]; norm_num) hnormal
  have hquotient := abs_le.mp hquotient
  rw [abs_le]
  constructor
  · linarith
  · linarith

/-- Less than a quarter of a millisecond: the 2^52nd part of the largest count is 2048 ticks. -/
theorem abs_milliseconds_sub_lt (t : Ticks) :
    |t.seconds.magnitude * 10 ^ 3 - (t.count.toInt.natAbs : ℚ) / 10 ^ 4| < 1 / 4 := by
  have hlow := t.count.le_toInt
  have hup := t.count.toInt_lt
  have hcount : t.count.toInt.natAbs ≤ 2 ^ 63 := by omega
  have hcount : (t.count.toInt.natAbs : ℚ) ≤ 2 ^ 63 := by exact_mod_cast hcount
  have herror := abs_le.mp t.abs_magnitude_seconds_sub_le
  rw [abs_lt]
  constructor
  · linarith
  · linarith

/-- **Ticks that make up whole milliseconds are shown as these.** -/
theorem toFixed_seconds {t : Ticks} {m : ℤ} (h : t.count.toInt = m * 10000) :
    t.seconds.toFixed 3 = thousandths m := by
  have hcount : t.count.toInt.natAbs = m.natAbs * 10000 := by omega
  have hnear : |t.seconds.magnitude * 10 ^ 3 - (m.natAbs : ℚ)| < 1 / 2 := by
    have hexact : (m.natAbs : ℚ) = (t.count.toInt.natAbs : ℚ) / 10 ^ 4 := by
      rw [hcount]
      push_cast
      ring
    rw [hexact]
    exact lt_trans t.abs_milliseconds_sub_lt (by norm_num)
  have hsign : t.count.toInt < 0 ↔ m < 0 := by omega
  have hpow : Nat.pow 10 3 = 1000 := rfl
  rw [Binary64.toFixed_of_abs_sub_lt hnear, Digits.decimal_three, negative_seconds, thousandths,
    hpow]
  simp only [decide_eq_true_eq, hsign]

end Ticks

/-! ## Milliseconds in seconds -/

namespace Millis

/-- **A time is shown exactly up to the milliseconds that the range of ticks ends in**, and every
time beyond is shown as these are. -/
theorem secondsText_eq (m : Millis) :
    m.secondsText =
      thousandths (max (-922337203685478) (min 922337203685478 m.count.toInt)) := by
  have hmin : Int64.minValue.toInt = -9223372036854775808 := rfl
  have hmax : Int64.maxValue.toInt = 9223372036854775807 := rfl
  have hticks := m.toInt_toTicks
  rw [secondsText]
  obtain hlow | hwithin | hup : m.count.toInt < -922337203685477 ∨
      m.count.toInt.natAbs ≤ 922337203685477 ∨ 922337203685477 < m.count.toInt := by omega
  · -- the first tick stands 0.42 ms before the decimal: too far for the bound on the error
    have hcount : m.toTicks.count.toInt = Int64.minValue.toInt := by omega
    have hfirst : m.toTicks = ⟨Int64.minValue⟩ := congrArg Ticks.mk (Int64.toInt_inj.mp hcount)
    have hdecimal : max (-922337203685478) (min 922337203685478 m.count.toInt) =
        -922337203685478 := by omega
    rw [hfirst, hdecimal]
    decide +kernel
  · have hexact := m.toInt_toTicks_eq_iff.mpr hwithin
    have hdecimal : max (-922337203685478) (min 922337203685478 m.count.toInt) =
        m.count.toInt := by omega
    rw [Ticks.toFixed_seconds hexact, hdecimal]
  · have hcount : m.toTicks.count.toInt = Int64.maxValue.toInt := by omega
    have hlast : m.toTicks = ⟨Int64.maxValue⟩ := congrArg Ticks.mk (Int64.toInt_inj.mp hcount)
    have hdecimal : max (-922337203685478) (min 922337203685478 m.count.toInt) =
        922337203685478 := by omega
    rw [hlast, hdecimal]
    decide +kernel

/-- The times that are shown exactly. -/
theorem secondsText_eq_thousandths_iff (m : Millis) :
    m.secondsText = thousandths m.count.toInt ↔ m.count.toInt.natAbs ≤ 922337203685478 := by
  rw [secondsText_eq, thousandths_injective.eq_iff]
  omega

end Millis
end MediaIntake
