import MediaIntake.Intake.Buffer
/-! # From ticks to milliseconds and back

Going to milliseconds divides toward zero, so it is told apart on the two sides of zero
(`Ticks.toMillis_cases`), and everything here is arithmetic from there.  The two ways fit together
as well as they can: **going to ticks loses what is beyond their range and nothing else**
(`Millis.toInt_toMillis_toTicks`), and going to milliseconds loses what is left over of one
(`Ticks.toInt_toTicks_toMillis`).  The milliseconds that are reached end at 922337203685477 on
either side, far enough from the ends of 64 bits that two of them can always be subtracted.
-/
namespace MediaIntake

/-! ## To milliseconds -/

namespace Ticks

/-- Dividing toward zero goes down to the whole milliseconds of the magnitude. -/
theorem toMillis_cases (t : Ticks) :
    0 ≤ t.count.toInt ∧ t.toMillis.count.toInt = t.count.toInt / 10000 ∨
      t.count.toInt < 0 ∧ t.toMillis.count.toInt = -(-t.count.toInt / 10000) := by
  rw [t.toInt_toMillis]
  by_cases h : 0 ≤ t.count.toInt
  · exact .inl ⟨h, Int.tdiv_eq_ediv_of_nonneg h⟩
  · have hmagnitude : (-t.count.toInt).tdiv 10000 = -t.count.toInt / 10000 :=
      Int.tdiv_eq_ediv_of_nonneg (by omega)
    rw [Int.neg_tdiv] at hmagnitude
    exact .inr ⟨by omega, by omega⟩

/-- A later tick is never in an earlier millisecond. -/
theorem toMillis_mono {t later : Ticks} (h : t.count ≤ later.count) :
    t.toMillis.count ≤ later.toMillis.count := by
  rw [Int64.le_iff_toInt_le] at h ⊢
  rw [t.toInt_toMillis, later.toInt_toMillis]
  exact Int.tdiv_le_tdiv (by decide) h

end Ticks

/-! ## To ticks -/

namespace Millis

/-- Going to ticks is exact within their range. -/
theorem toInt_toTicks_eq_iff (m : Millis) :
    m.toTicks.count.toInt = m.count.toInt * 10000 ↔ m.count.toInt.natAbs ≤ 922337203685477 := by
  rw [toInt_toTicks]
  omega

/-- A later millisecond never begins at an earlier tick. -/
theorem toTicks_mono {m later : Millis} (h : m.count ≤ later.count) :
    m.toTicks.count ≤ later.toTicks.count := by
  rw [Int64.le_iff_toInt_le] at h ⊢
  rw [m.toInt_toTicks, later.toInt_toTicks]
  omega

/-! ## There and back -/

/-- **What is beyond the range of ticks comes back as its end**, and everything else as it was. -/
theorem toInt_toMillis_toTicks (m : Millis) :
    m.toTicks.toMillis.count.toInt =
      max (-922337203685477) (min 922337203685477 m.count.toInt) := by
  have hticks := m.toInt_toTicks
  obtain ⟨hsign, hmillis⟩ | ⟨hsign, hmillis⟩ := m.toTicks.toMillis_cases
  · omega
  · omega

/-- The milliseconds that ticks make up are those that ticks can say. -/
theorem exists_toMillis_iff (m : Millis) :
    (∃ t : Ticks, t.toMillis = m) ↔ m.count.toInt.natAbs ≤ 922337203685477 := by
  constructor
  · rintro ⟨t, rfl⟩
    exact t.natAbs_toMillis_le
  · intro h
    have hback := m.toInt_toMillis_toTicks
    have hsame : m.toTicks.toMillis.count.toInt = m.count.toInt := by omega
    exact ⟨m.toTicks, congrArg Millis.mk (Int64.toInt_inj.mp hsame)⟩

end Millis

namespace Ticks

/-- **Nothing is out of range on the way back** from milliseconds. -/
theorem toInt_toTicks_toMillis (t : Ticks) :
    t.toMillis.toTicks.count.toInt = t.toMillis.count.toInt * 10000 :=
  t.toMillis.toInt_toTicks_eq_iff.mpr t.natAbs_toMillis_le

/-- A count from which less than a millisecond is missing, on the same side of zero. -/
structure Truncates (t back : Ticks) : Prop where
  natAbs_le : back.count.toInt.natAbs ≤ t.count.toInt.natAbs
  nonneg : 0 ≤ t.count.toInt → 0 ≤ back.count.toInt
  nonpos : t.count.toInt ≤ 0 → back.count.toInt ≤ 0
  natAbs_sub_le : (t.count.toInt - back.count.toInt).natAbs ≤ 9999

theorem truncates_toTicks_toMillis (t : Ticks) : t.Truncates t.toMillis.toTicks := by
  have hback := t.toInt_toTicks_toMillis
  obtain ⟨hsign, hmillis⟩ | ⟨hsign, hmillis⟩ := t.toMillis_cases
  · constructor <;> omega
  · constructor <;> omega

end Ticks

/-- An audio sample lasts from its start to its stop in whole milliseconds, and these are never too
far apart for the difference. -/
theorem Kind.toInt_duration_audio (start stop : Ticks) :
    let duration : Millis := Kind.audio.duration ⟨start, some stop⟩
    duration.count.toInt = stop.toMillis.count.toInt - start.toMillis.count.toInt := by
  have h := stop.toInt_since_toMillis start
  rw [← stop.toInt_toMillis, ← start.toInt_toMillis] at h
  exact h

/-- **Ticks and milliseconds fit together over all of 64 bits.**  Going to milliseconds keeps the
order and reaches what is within the limit, and nothing else.  Milliseconds come back from ticks
as they were, or as the limit where they are beyond; ticks come back from milliseconds without ever
being out of range, no further from zero, on the same side of it, and at most 9999 ticks away.
Going to ticks keeps the order and is exact within the limit, and nowhere else.  The duration of an
audio sample is the exact difference of two times within the limit, so at most twice that. -/
theorem time_conversions_fit :
    (∀ t later : Ticks, t.count ≤ later.count → t.toMillis.count ≤ later.toMillis.count) ∧
    let limit : Int := 922337203685477
    (∀ m : Millis, (∃ t, Ticks.toMillis t = m) ↔
      -limit ≤ m.count.toInt ∧ m.count.toInt ≤ limit) ∧
    (∀ m : Millis, m.toTicks.toMillis.count.toInt = max (-limit) (min limit m.count.toInt)) ∧
    (∀ t : Ticks, t.toMillis.toTicks.count.toInt = t.toMillis.count.toInt * 10000 ∧
      t.Truncates t.toMillis.toTicks) ∧
    (∀ m later : Millis, m.count ≤ later.count → m.toTicks.count ≤ later.toTicks.count) ∧
    (∀ m : Millis, m.toTicks.count.toInt = 10000 * m.count.toInt ↔
      m.count.toInt.natAbs ≤ limit) ∧
    ∀ start stop : Ticks,
      let duration : Millis := Kind.duration .audio ⟨start, some stop⟩
      duration.count.toInt = stop.toMillis.count.toInt - start.toMillis.count.toInt ∧
      -(2 * limit) ≤ duration.count.toInt ∧ duration.count.toInt ≤ 2 * limit := by
  refine ⟨fun _ _ => Ticks.toMillis_mono, ?_⟩
  intro limit
  refine ⟨?_, Millis.toInt_toMillis_toTicks, ?_, fun _ _ => Millis.toTicks_mono, ?_, ?_⟩
  · intro m
    rw [m.exists_toMillis_iff]
    omega
  · intro t
    exact ⟨t.toInt_toTicks_toMillis, t.truncates_toTicks_toMillis⟩
  · intro m
    have hexact := m.toInt_toTicks_eq_iff
    rw [Int.mul_comm 10000]
    omega
  · intro start stop duration
    have hduration : duration.count.toInt = _ := Kind.toInt_duration_audio start stop
    have hstart := start.natAbs_toMillis_le
    have hstop := stop.natAbs_toMillis_le
    exact ⟨hduration, by omega, by omega⟩

/-- The first and the last tick are as far apart as times can be, and neither comes back. -/
theorem ends_of_time_fit :
    let first : Ticks := ⟨Int64.minValue⟩
    let last : Ticks := ⟨Int64.maxValue⟩
    let duration : Millis := Kind.audio.duration ⟨first, some last⟩
    first.count ≤ last.count ∧ first.toMillis.count ≤ last.toMillis.count ∧
    first.toMillis.toTicks.count = -9223372036854770000 ∧ first.Truncates first.toMillis.toTicks ∧
    last.toMillis.toTicks.count = 9223372036854770000 ∧ last.Truncates last.toMillis.toTicks ∧
    duration.count = 1844674407370954 ∧ duration.count.toInt ≤ 2 * 922337203685477 := by
  intro first last duration
  have horder : first.count ≤ last.count := by decide
  obtain ⟨hmono, -, -, hback, -, -, hdifference⟩ := time_conversions_fit
  exact ⟨horder, hmono first last horder, by decide, (hback first).2, by decide, (hback last).2,
    by decide, (hdifference first last).2.2⟩

end MediaIntake
