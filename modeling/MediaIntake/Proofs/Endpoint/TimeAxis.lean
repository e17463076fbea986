import Mathlib.Data.List.Chain
import MediaIntake.Proofs.Endpoint.Receipts
/-! # The time axis of what is received

A buffer says the start of its sample in whole milliseconds, and an audio buffer also for how long
it lasts: its stop in whole milliseconds less its start in whole milliseconds.  This difference of
two rounded times is not the rounded difference, and that is what keeps the time axis **free of
drift**.  Where one sample stops and the next one starts at the same tick, both round it alike, so
the buffers meet as well (`timestamp_add_duration`), and over a stretch of samples the durations
add up to what lies between its ends (`totalDuration_of_meets`).
-/
namespace MediaIntake
variable {k : Kind}

/-- The sample with these times stops exactly where the one with the next times starts. -/
def SampleTimes.Meets (times next : SampleTimes) : Prop := times.stop = some next.start

instance : DecidableRel SampleTimes.Meets := fun times next =>
  inferInstanceAs (Decidable (times.stop = some next.start))

namespace Receipt

/-- For how long an audio buffer says that it lasts. -/
def duration (r : Receipt .audio) : Millis := r.buffer.duration

/-- For how many milliseconds the buffers of a stretch say that they last, one after the other. -/
def totalDuration : List (Receipt .audio) → Int
  | [] => 0
  | r :: rest => r.duration.count.toInt + totalDuration rest

@[simp] theorem totalDuration_nil : totalDuration [] = 0 := rfl

@[simp] theorem totalDuration_cons (r : Receipt .audio) (rest : List (Receipt .audio)) :
    totalDuration (r :: rest) = r.duration.count.toInt + totalDuration rest := rfl

namespace Genuine

/-- The timestamp is the start, rounded toward zero. -/
theorem toInt_timestamp {r : Receipt k} (h : r.Genuine) :
    r.buffer.timestamp.count.toInt = r.times.start.count.toInt.tdiv 10000 := by
  obtain ⟨format, h⟩ := h
  exact h.timestamp

/-- A sample that starts later has no earlier timestamp. -/
theorem timestamp_le {r later : Receipt k} (h : r.Genuine) (hlater : later.Genuine)
    (hle : r.times.start.count ≤ later.times.start.count) :
    r.buffer.timestamp.count ≤ later.buffer.timestamp.count := by
  rw [Int64.le_iff_toInt_le] at hle ⊢
  rw [h.toInt_timestamp, hlater.toInt_timestamp]
  exact Int.tdiv_le_tdiv (by decide) hle

variable {r next : Receipt .audio}

/-- The duration is the exact difference of the rounded times: it never wraps. -/
theorem toInt_duration (h : r.Genuine) {stop : Ticks} (hstop : r.times.stop = some stop) :
    r.duration.count.toInt =
      stop.count.toInt.tdiv 10000 - r.times.start.count.toInt.tdiv 10000 := by
  obtain ⟨format, h⟩ := h
  obtain ⟨payload, ⟨start, stop?⟩, buffer⟩ := r
  obtain rfl : stop? = some stop := hstop
  exact h.details

/-- A sample that stops no earlier than it starts lasts no less than no time. -/
theorem duration_nonneg (h : r.Genuine) {stop : Ticks} (hstop : r.times.stop = some stop)
    (hle : r.times.start.count ≤ stop.count) : 0 ≤ r.duration.count := by
  have hmillis : r.times.start.count.toInt.tdiv 10000 ≤ stop.count.toInt.tdiv 10000 :=
    Int.tdiv_le_tdiv (by decide) (Int64.le_iff_toInt_le.mp hle)
  rw [Int64.le_iff_toInt_le, h.toInt_duration hstop]
  exact Int.sub_nonneg_of_le hmillis

/-- **Where samples meet, their buffers meet.** -/
theorem timestamp_add_duration (h : r.Genuine) (hnext : next.Genuine)
    (hmeets : r.times.Meets next.times) :
    r.buffer.timestamp.count.toInt + r.duration.count.toInt =
      next.buffer.timestamp.count.toInt := by
  rw [h.toInt_duration hmeets, h.toInt_timestamp, hnext.toInt_timestamp]
  omega

end Genuine

/-- **The durations of samples that meet add up** to the time from where the first one starts to
where the last one stops. -/
theorem totalDuration_of_meets {stretch : List (Receipt .audio)}
    (hgenuine : ∀ r ∈ stretch, r.Genuine)
    (hmeets : stretch.IsChain fun r next => r.times.Meets next.times)
    {first last : Receipt .audio} {stop : Ticks}
    (hfirst : stretch.head? = some first) (hlast : stretch.getLast? = some last)
    (hstop : last.times.stop = some stop) :
    totalDuration stretch =
      stop.count.toInt.tdiv 10000 - first.times.start.count.toInt.tdiv 10000 := by
  induction stretch generalizing first with
  | nil => cases hfirst
  | cons r rest ih =>
    obtain rfl : r = first := Option.some.inj hfirst
    have hr := hgenuine r List.mem_cons_self
    cases rest with
    | nil =>
      obtain rfl : r = last := Option.some.inj hlast
      rw [totalDuration_cons, totalDuration_nil, hr.toInt_duration hstop, Int.add_zero]
    | cons next rest =>
      obtain ⟨hmeet, hmeets⟩ := List.isChain_cons_cons.mp hmeets
      have hrest := ih (fun r h => hgenuine r (List.mem_cons_of_mem _ h)) hmeets rfl hlast
      -- this one ends where the next one starts, and from there the rest is known
      rw [totalDuration_cons, hrest, hr.toInt_duration hmeet]
      omega

end Receipt

namespace Endpoint

/-- **The time axis of a run is monotone and free of drift**, for whatever times ticks can say and
whatever the run does in between.  Take any stretch of consecutively received buffers.  Where the
starts of its samples do not fall, neither do its timestamps.  Of audio, the duration of a sample
with a stop is the exact difference of the rounded times, and not negative if the stop is not before
the start; and where each sample stops exactly where the next one starts, so do the buffers, and the
durations add up to what lies between the ends. -/
theorem time_axis_exact :
    (∀ (k : Kind) (calls : List (Call k)),
      (receipts k calls).map Receipt.buffer = received k calls ∧
      ∀ stretch, stretch <:+: receipts k calls →
        stretch.Pairwise (fun r later => r.times.start.count ≤ later.times.start.count) →
        stretch.Pairwise fun r later =>
          r.buffer.timestamp.count ≤ later.buffer.timestamp.count) ∧
    ∀ (calls : List (Call .audio)) (stretch : List (Receipt .audio)),
      stretch <:+: receipts .audio calls →
      (∀ r ∈ stretch, ∀ stop, r.times.stop = some stop →
        r.duration.count.toInt =
          stop.count.toInt.tdiv 10000 - r.times.start.count.toInt.tdiv 10000 ∧
        (r.times.start.count ≤ stop.count → 0 ≤ r.duration.count)) ∧
      ((stretch.IsChain fun r next => r.times.Meets next.times) →
        stretch.IsChain (fun r next =>
          r.buffer.timestamp.count.toInt + r.duration.count.toInt =
            next.buffer.timestamp.count.toInt) ∧
        ∀ first last stop, stretch.head? = some first → stretch.getLast? = some last →
          last.times.stop = some stop →
          Receipt.totalDuration stretch =
            stop.count.toInt.tdiv 10000 - first.times.start.count.toInt.tdiv 10000) := by
  refine ⟨fun k calls => ⟨map_buffer_receipts calls, ?_⟩, ?_⟩
  · intro stretch hstretch hstarts
    refine hstarts.imp_of_mem ?_
    intro r later hr hlater hle
    have hgenuine := genuine_of_mem_receipts (hstretch.subset hr)
    exact hgenuine.timestamp_le (genuine_of_mem_receipts (hstretch.subset hlater)) hle
  · intro calls stretch hstretch
    have hgenuine : ∀ r ∈ stretch, r.Genuine :=
      fun r hr => genuine_of_mem_receipts (hstretch.subset hr)
    constructor
    · intro r hr stop hstop
      have h := hgenuine r hr
      exact ⟨h.toInt_duration hstop, h.duration_nonneg hstop⟩
    · intro hmeets
      constructor
      · refine hmeets.imp_of_mem_imp ?_
        intro r next hr hnext hmeet
        exact (hgenuine r hr).timestamp_add_duration (hgenuine next hnext) hmeet
      · intro first last stop hfirst hlast hstop
        exact Receipt.totalDuration_of_meets hgenuine hmeets hfirst hlast hstop

/-- Three blocks of audio that meet, from before zero to the last tick there is, with a late one and
a new negotiation in between. -/
theorem seamless_blocks_add_up :
    let proposal : MediaType :=
      { major := some .audio, subtype := some .pcm, formatType := some .waveFormat,
        block := (WaveFormat.pcm 2 48000 16).encode }
    let block (state : GraphState) (start stop : Int64) : Delivery :=
      { state,
        sample := ⟨.answers ⟨#[1, 2, 3, 4]⟩, .answers ⟨⟨start⟩, some ⟨stop⟩⟩⟩ }
    let calls : List (Call .audio) :=
      [.propose proposal, .deliver (block .running (-59999) (-20001)),
       .deliver (block .stopped 0 1), .configure .stopped {}, .propose proposal,
       .deliver (block .running (-20001) 15000),
       .deliver (block .running 15000 9223372036854775807)]
    let stretch := receipts .audio calls
    stretch.map Receipt.times =
      [⟨⟨-59999⟩, some ⟨-20001⟩⟩, ⟨⟨-20001⟩, some ⟨15000⟩⟩,
       ⟨⟨15000⟩, some ⟨9223372036854775807⟩⟩] ∧
    (stretch.IsChain fun r next => r.times.Meets next.times) ∧
    stretch.map (fun r => (r.buffer.timestamp.count, r.duration.count)) =
      [(-5, 3), (-2, 3), (1, 922337203685476)] ∧
    (stretch.Pairwise fun r later => r.buffer.timestamp.count ≤ later.buffer.timestamp.count) ∧
    Receipt.totalDuration stretch = 922337203685477 - -5 := by
  intro proposal block calls stretch
  have htimes : stretch.map Receipt.times =
      [⟨⟨-59999⟩, some ⟨-20001⟩⟩, ⟨⟨-20001⟩, some ⟨15000⟩⟩,
       ⟨⟨15000⟩, some ⟨9223372036854775807⟩⟩] := by decide +kernel
  have hmeets : stretch.IsChain fun r next => r.times.Meets next.times := by
    have h : (stretch.map Receipt.times).IsChain SampleTimes.Meets := by
      rw [htimes]
      decide
    exact (List.isChain_map Receipt.times).mp h
  have hstarts : stretch.Pairwise fun r later =>
      r.times.start.count ≤ later.times.start.count := by
    have h : (stretch.map Receipt.times).Pairwise fun times later =>
        times.start.count ≤ later.start.count := by
      rw [htimes]
      decide
    rw [List.pairwise_map] at h
    exact h
  obtain ⟨hboth, haudio⟩ := time_axis_exact
  obtain ⟨-, hmonotone⟩ := hboth .audio calls
  obtain ⟨-, hadd⟩ := haudio calls stretch (List.infix_refl _)
  obtain ⟨-, htotal⟩ := hadd hmeets
  have hfirst := congrArg List.head? htimes
  have hlast := congrArg List.getLast? htimes
  rw [List.head?_map, List.head?_cons, Option.map_eq_some_iff] at hfirst
  rw [List.getLast?_map] at hlast
  obtain ⟨first, hfirst, hstart⟩ := hfirst
  obtain ⟨last, hlast, hstop⟩ := Option.map_eq_some_iff.mp hlast
  have h := htotal first last ⟨9223372036854775807⟩ hfirst hlast (by
    rw [hstop]
    rfl)
  rw [hstart] at h
  exact ⟨htimes, hmeets, by decide +kernel, hmonotone stretch (List.infix_refl _) hstarts, h⟩

end Endpoint
end MediaIntake
