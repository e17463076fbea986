import MediaIntake.Proofs.Endpoint.Receipts
import MediaIntake.Proofs.Media.Seconds
/-! # The times in the records of filled buffers

Each sample that is packaged leaves one record of the buffer it went into (`filled_exchange`), and
that record shows the buffer's times twice, in milliseconds and in seconds.  A timestamp is a time
that ticks can say, so both figures are the same time, whatever the sample's start
(`timestamps_shown_exactly`).  **A duration can be twice as long**: between the first tick there is
and the last one lie more ticks than can be counted, and what is shown in seconds stops at what can
(`durations_shown_within_range`).
-/
namespace MediaIntake
variable {k : Kind}

/-! ## Which buffers are recorded -/

/-- The buffer that an event tells to be filled. -/
def Event.filled? : Event k → Option (Buffer k)
  | .bufferFilled buffer => some buffer
  | _ => none

/-- The sample of an exchange, if it was packaged, in the format that was actual then. -/
def Exchange.packaged? (x : Exchange k) : Option (Buffer k) :=
  x.receipt?.map fun r => .package x.before.actual r.times r.payload

theorem Kind.filled_timeEvents (times : SampleTimes) :
    (k.timeEvents times).filterMap Event.filled? = [] := by
  cases k with
  | audio => cases h : times.stop <;> simp [Kind.timeEvents, h, Event.filled?]
  | video => rfl

theorem Kind.filled_advertisingEvents (index : Nat) (requested : k.Descriptor) :
    (k.advertisingEvents index requested).filterMap Event.filled? = [] := by
  cases k with
  | audio => rfl
  | video => cases index <;> rfl

theorem Reaction.filled_events (reaction : Reaction) :
    (reaction.events : List (Event k)).filterMap Event.filled? = [] := by
  cases reaction <;> rfl

namespace Endpoint

theorem filled_recovery (e : Endpoint k) : e.recovery.filterMap Event.filled? = [] := by
  cases h : e.poisoned <;> simp [recovery, h, Event.filled?]

/-- A delivery records the buffer that its sample was packaged into. -/
theorem filled_deliver (e : Endpoint k) (d : Delivery) :
    (e.exchange (.deliver d)).outcome.events.filterMap Event.filled? =
      (e.exchange (.deliver d)).packaged?.toList := by
  have hcourse := e.slot.package_course e.actual d
  have ho : (e.exchange (.deliver d)).outcome = _ := e.step_deliver d
  rw [Exchange.packaged?, Exchange.receipt?, Exchange.received?, ho]
  dsimp only
  rw [List.filterMap_append, filled_recovery, List.nil_append]
  generalize e.slot.package e.actual d = p at hcourse ⊢
  cases hcourse with
  | @packaged payload times _ hp ht =>
    have hcontent : d.sample.content? = some (payload, times) := by
      rw [Sample.content?, hp.1, ht]
    simp [Packaging.record, Packaging.handed, Kind.filled_timeEvents, Reaction.filled_events,
      Event.filled?, exchange, Call.delivery?, hcontent]
  | memoryRefused =>
    simp [Packaging.record, Packaging.handed, Kind.filled_timeEvents, Event.filled?]
  | _ => simp [Packaging.record, Packaging.handed, Event.filled?]

/-- Nothing else records a buffer. -/
theorem filled_of_no_delivery (e : Endpoint k) {call : Call k} (h : call.delivery? = none) :
    (e.exchange call).outcome.events.filterMap Event.filled? =
      (e.exchange call).packaged?.toList := by
  have hpackaged : (e.exchange call).packaged? = none := by
    simp [Exchange.packaged?, Exchange.receipt?, exchange, h]
  rw [hpackaged, exchange]
  cases Call.course h with
  | granted hc => simp [e.step_of_granted hc, filled_recovery, Event.filled?]
  | refused hs hc => simp [e.step_of_refused hs hc, filled_recovery, Event.filled?]
  | unreadable state hr => simp [e.step_configureText_of_error state hr]
  | accepted hn => simp [e.step_propose_of_ok hn, filled_recovery, Event.filled?]
  | rejected hn => simp [e.step_propose_of_error hn, filled_recovery, Event.filled?]
  | enumerate => simp [filled_recovery, Kind.filled_advertisingEvents]
  | actual | requested | counters | channel => simp [filled_recovery]

/-- **Each packaged sample leaves one record of a filled buffer**, and nothing else leaves one. -/
theorem filled_exchange (e : Endpoint k) (call : Call k) :
    (e.exchange call).outcome.events.filterMap Event.filled? =
      (e.exchange call).packaged?.toList := by
  cases hc : call.delivery? with
  | none => exact e.filled_of_no_delivery hc
  | some d =>
    obtain rfl := Call.eq_deliver_of_delivery? hc
    exact e.filled_deliver d

/-- The records of filled buffers of a run are of its packaged samples, in their order. -/
theorem filled_history (calls : List (Call k)) :
    ((history k calls).flatMap (·.outcome.events)).filterMap Event.filled? =
      (history k calls).filterMap (·.packaged?) := by
  induction calls using List.reverseRecOn with
  | nil => rfl
  | append_singleton calls call ih =>
    rw [history_concat, List.flatMap_append, List.filterMap_append, List.filterMap_append, ih,
      List.flatMap_singleton, filled_exchange, List.filterMap_eq_flatMap_toList _ [_],
      List.flatMap_singleton]

end Endpoint

/-! ## How a record shows times -/

/-- The record of a filled buffer, with its times already worded: a video frame has no duration. -/
def Kind.recordText : (k : Kind) → k.Descriptor → String → String → Nat → String
  | audio, format, timestamp, duration, size =>
    "audio buffer: " ++ AudioDescriptor.text format ++ " timestamp=" ++ timestamp ++ " duration="
      ++ duration ++ " size=" ++ toString size
  | video, format, timestamp, _, size =>
    let frame : VideoDescriptor := format
    "video frame: " ++ toString frame.width.toNat ++ "x" ++ toString frame.height.toNat
      ++ " " ++ "I420" ++ " timestamp=" ++ timestamp ++ " size=" ++ toString size

/-- A time of so many milliseconds, which is shown in seconds as `seconds`. -/
def shownAs (m : ℤ) (seconds : String) : String := toString m ++ "ms (" ++ seconds ++ "s)"

/-- For how many milliseconds a sample with these times lasts. -/
def SampleTimes.millis (times : SampleTimes) : ℤ :=
  match times.stop with
  | some stop => stop.count.toInt.tdiv 10000 - times.start.count.toInt.tdiv 10000
  | none => 0

namespace Buffer

/-- How a buffer words its duration, if it has one. -/
def durationText : {k : Kind} → Buffer k → String
  | .audio, b => timeText b.duration
  | .video, _ => ""

theorem text_eq (b : Buffer k) :
    b.text = k.recordText b.descriptor (timeText b.timestamp) b.durationText b.data.size := by
  cases k with
  | audio => rfl
  | video =>
    obtain ⟨frame, layout, timestamp, duration, data⟩ := b
    obtain ⟨width, height⟩ : VideoDescriptor := frame
    have hlayout (layout : PixelLayout) : layout.fourcc.text = "I420" := by
      cases layout
      decide
    exact congrArg (fun code =>
      "video frame: " ++ toString width.toNat ++ "x" ++ toString height.toNat ++ " " ++ code
        ++ " timestamp=" ++ timeText timestamp ++ " size=" ++ toString data.size) (hlayout layout)

theorem timeText_eq {m : Millis} {n : ℤ} (h : m.count.toInt = n) :
    timeText m =
      shownAs n (thousandths (max (-922337203685478) (min 922337203685478 n))) := by
  rw [timeText, Millis.text, Millis.secondsText_eq, h, shownAs]

/-- The duration of a packaged sample. -/
theorem toInt_duration_package (format : AudioDescriptor) (times : SampleTimes)
    (payload : ByteArray) :
    (package format times payload : Buffer .audio).duration.count.toInt = times.millis :=
  (package_carries (k := .audio) format times payload).details

end Buffer

/-! ## Timestamps and durations -/

namespace Endpoint

/-- **Timestamps are shown exactly**, of both kinds and for whatever start ticks can say.  The start
in whole milliseconds is a time that goes back to ticks without reaching the end of their range; and
what is shown in seconds, after the ticks are rounded, their quotient is rounded and the result is
printed with three places, is that time as a decimal.  The records of filled buffers in a run are
the records of its packaged samples. -/
theorem timestamps_shown_exactly (k : Kind) :
    (∀ (format : k.Descriptor) (times : SampleTimes) (payload : ByteArray),
      let m := times.start.count.toInt.tdiv 10000
      let b : Buffer k := .package format times payload
      b.timestamp.toTicks.count.toInt = m * 10000 ∧
      b.timestamp.toTicks.seconds.toFixed 3 = thousandths m ∧
      (Event.bufferFilled b).level = .debug ∧
      (Event.bufferFilled b).message =
        k.recordText format (shownAs m (thousandths m)) b.durationText payload.size) ∧
    ∀ calls : List (Call k),
      ((history k calls).flatMap (·.outcome.events)).filterMap Event.filled? =
        (history k calls).filterMap (·.packaged?) := by
  refine ⟨fun format times payload => ?_, filled_history⟩
  intro m b
  have hm : b.timestamp.count.toInt = m := times.start.toInt_toMillis
  have hwithin : m.natAbs ≤ 922337203685477 := by
    rw [← hm]
    exact times.start.natAbs_toMillis_le
  have hticks : b.timestamp.toTicks.count.toInt = m * 10000 := by
    rw [← hm, Millis.toInt_toTicks_eq_iff, hm]
    exact hwithin
  have hseconds := Ticks.toFixed_seconds hticks
  refine ⟨hticks, hseconds, rfl, ?_⟩
  have htext : Buffer.timeText b.timestamp = shownAs m (thousandths m) := by
    rw [Buffer.timeText, Millis.text, Millis.secondsText, hseconds, hm, shownAs]
  have hrecord := b.text_eq
  rw [htext] at hrecord
  exact hrecord

/-- A frame that starts before zero, between two milliseconds. -/
theorem negative_timestamp_shown :
    let times : SampleTimes := { start := ⟨-59999⟩ }
    let calls : List (Call .video) :=
      [.propose (VideoDescriptor.advertised ⟨2, 2⟩),
       .deliver { state := .running, sample := ⟨.answers ⟨#[1, 2, 3]⟩, .answers times⟩ }]
    let records := ((history .video calls).flatMap (·.outcome.events)).filterMap Event.filled?
    records = [.package (⟨2, 2⟩ : VideoDescriptor) times ⟨#[1, 2, 3]⟩] ∧
    ∀ b ∈ records, (Event.bufferFilled b).message =
      "video frame: 2x2 I420 timestamp=-5ms (-0.005s) size=3" := by
  intro times calls records
  obtain ⟨hshown, hfilled⟩ := timestamps_shown_exactly .video
  have hrecords : records = [.package (⟨2, 2⟩ : VideoDescriptor) times ⟨#[1, 2, 3]⟩] := by
    show ((history .video calls).flatMap (·.outcome.events)).filterMap Event.filled? = _
    rw [hfilled calls]
    decide
  refine ⟨hrecords, ?_⟩
  rw [hrecords, List.forall_mem_singleton]
  obtain ⟨-, -, -, hmessage⟩ := hshown (⟨2, 2⟩ : VideoDescriptor) times ⟨#[1, 2, 3]⟩
  rw [hmessage]
  decide

/-- **Durations are shown exactly as far as ticks go**, and those beyond are all shown alike.  The
duration in whole milliseconds is kept within what ticks can say before it is shown in seconds.
So both figures say the same time just if that is no longer than 922337203685478 ms, and the ticks
in between are the exact ones just if it is shorter than that.  The records of filled buffers in a
run are the records of its packaged samples. -/
theorem durations_shown_within_range :
    (∀ (format : AudioDescriptor) (times : SampleTimes) (payload : ByteArray),
      let d := times.millis
      let seconds := thousandths (max (-922337203685478) (min 922337203685478 d))
      let b : Buffer .audio := .package format times payload
      let duration : Millis := b.duration
      (Event.bufferFilled b).level = .debug ∧
      (Event.bufferFilled b).message =
        Kind.audio.recordText format (Buffer.timeText b.timestamp) (shownAs d seconds)
          payload.size ∧
      (seconds = thousandths d ↔ d.natAbs ≤ 922337203685478) ∧
      (duration.toTicks.count.toInt = d * 10000 ↔ d.natAbs < 922337203685478)) ∧
    ∀ calls : List (Call .audio),
      ((history .audio calls).flatMap (·.outcome.events)).filterMap Event.filled? =
        (history .audio calls).filterMap (·.packaged?) := by
  refine ⟨fun format times payload => ?_, filled_history⟩
  intro d seconds b duration
  have hd : duration.count.toInt = d := Buffer.toInt_duration_package format times payload
  refine ⟨rfl, ?_, ?_, ?_⟩
  · have htext : Buffer.timeText duration = shownAs d seconds := Buffer.timeText_eq hd
    rw [← htext]
    exact b.text_eq
  · have hseconds := duration.secondsText_eq_thousandths_iff
    rw [Millis.secondsText_eq, hd] at hseconds
    exact hseconds
  · have hticks := duration.toInt_toTicks_eq_iff
    rw [hd] at hticks
    rw [hticks, Nat.lt_succ_iff]

/-- The longest duration there is, from the first tick to the last, is shown in seconds as about
half of what it is shown as in milliseconds. -/
theorem longest_duration_not_shown :
    let proposal : MediaType :=
      { major := some .audio, subtype := some .pcm, formatType := some .waveFormat,
        block := (WaveFormat.pcm 2 48000 16).encode }
    let times : SampleTimes := ⟨⟨Int64.minValue⟩, some ⟨Int64.maxValue⟩⟩
    let calls : List (Call .audio) :=
      [.propose proposal,
       .deliver { state := .running, sample := ⟨.answers ⟨#[1, 2]⟩, .answers times⟩ }]
    let records := ((history .audio calls).flatMap (·.outcome.events)).filterMap Event.filled?
    times.millis = 1844674407370954 ∧
    thousandths times.millis = "1844674407370.954" ∧
    records.map (fun b => (Event.bufferFilled b).message) =
      ["audio buffer: format_tag=PCM channels=2 sample_rate=48000 bytes_per_second=192000 "
        ++ "block_align=4 bits_per_sample=16 timestamp=-922337203685477ms (-922337203685.477s) "
        ++ "duration=1844674407370954ms (922337203685.478s) size=2"] ∧
    ∀ b ∈ records,
      Millis.secondsText b.duration ≠ thousandths times.millis ∧
      (Millis.toTicks b.duration).count.toInt ≠ times.millis * 10000 := by
  decide +kernel

end Endpoint
end MediaIntake
