import MediaIntake.Number.Binary64
/-! # Media time

Sources stamp samples in ticks of 100 ns; buffers carry whole milliseconds.  Both are signed
64-bit counts.  Going to milliseconds drops the part below one toward zero, and going back
stops at the ends of the range instead of wrapping.
-/
namespace MediaIntake

/-- A signed count of 100 ns ticks. -/
structure Ticks where
  count : Int64
  deriving DecidableEq, Repr

/-- A signed count of milliseconds. -/
structure Millis where
  count : Int64
  deriving DecidableEq, Repr

/-- Ticks in one second. -/
def ticksPerSecond : Int := 10000000

/-- Ticks in one millisecond. -/
def ticksPerMilli : Int64 := 10000

/-- Whole milliseconds, the rest dropped toward zero. -/
def Ticks.toMillis (t : Ticks) : Millis := ⟨t.count / ticksPerMilli⟩

/-- Seconds as a binary64 number: the count is rounded first, then the quotient. -/
def Ticks.seconds (t : Ticks) : Binary64 :=
  (Binary64.ofInt t.count.toInt).div (Binary64.ofInt ticksPerSecond)

/-- The 64-bit integer nearest to `i`. -/
def saturate (i : Int) : Int64 :=
  if i < Int64.minValue.toInt then Int64.minValue
  else if Int64.maxValue.toInt < i then Int64.maxValue
  else Int64.ofInt i

/-- The ticks in so many milliseconds, kept at the end of the range where there are more. -/
def Millis.toTicks (m : Millis) : Ticks := ⟨saturate (m.count.toInt * ticksPerMilli.toInt)⟩

/-- Seconds with three decimal places. -/
def Millis.secondsText (m : Millis) : String := m.toTicks.seconds.toFixed 3

/-- The time from `start` to `stop`. -/
def Millis.since (stop start : Millis) : Millis := ⟨stop.count - start.count⟩

def Millis.text (m : Millis) : String := toString m.count.toInt

/-! ## In whole numbers -/

theorem toInt_saturate (i : Int) :
    (saturate i).toInt = max (-9223372036854775808) (min 9223372036854775807 i) := by
  have hmin : Int64.minValue.toInt = -9223372036854775808 := rfl
  have hmax : Int64.maxValue.toInt = 9223372036854775807 := rfl
  unfold saturate
  rw [hmin, hmax]
  split
  · rw [hmin]
    omega
  · split
    · rw [hmax]
      omega
    · rw [Int64.toInt_ofInt_of_le (by omega) (by omega)]
      omega

/-- Whole milliseconds are the ticks divided toward zero. -/
theorem Ticks.toInt_toMillis (t : Ticks) : t.toMillis.count.toInt = t.count.toInt.tdiv 10000 :=
  Int64.toInt_div_of_ne_right _ _ (by decide)

/-- Ticks are the milliseconds times ten thousand, kept within the range. -/
theorem Millis.toInt_toTicks (m : Millis) :
    m.toTicks.count.toInt =
      max (-9223372036854775808) (min 9223372036854775807 (m.count.toInt * 10000)) :=
  toInt_saturate _

/-- Whole milliseconds stay far from the ends of the range. -/
theorem Ticks.natAbs_toMillis_le (t : Ticks) :
    t.toMillis.count.toInt.natAbs ≤ 922337203685477 := by
  have hlo := t.count.le_toInt
  have hhi := t.count.toInt_lt
  rw [t.toInt_toMillis, Int.natAbs_tdiv]
  show t.count.toInt.natAbs / 10000 ≤ 922337203685477
  omega

/-- **The time between two converted times never wraps.** -/
theorem Ticks.toInt_since_toMillis (stop start : Ticks) :
    (stop.toMillis.since start.toMillis).count.toInt =
      stop.count.toInt.tdiv 10000 - start.count.toInt.tdiv 10000 := by
  have hstop := stop.natAbs_toMillis_le
  have hstart := start.natAbs_toMillis_le
  rw [Millis.since, Int64.toInt_sub, ← stop.toInt_toMillis, ← start.toInt_toMillis]
  exact Int.bmod_eq_of_le (by omega) (by omega)

end MediaIntake
