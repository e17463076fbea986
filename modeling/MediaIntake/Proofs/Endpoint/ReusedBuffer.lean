import MediaIntake.Proofs.Endpoint.Runs
/-! # One buffer for all samples

Every sample is packaged into the same buffer, which a refused sample leaves half changed.
None of this gets out.  Two slots with the same amount of memory package a sample alike,
whatever bytes, format and times they hold (`Slot.package_alike`), so a run cannot be told from
one in which the buffer is a new one for every call (`run_eq_runRenewed`).  What the consumer
receives is then written down without any buffer: **the payload and the times of the sample, in
the format that was actual when it was delivered** (`Buffer.Carries`), one buffer for each
delivery that it is called for, in their order (`received_carries`).  These are the deliveries that
are done, and those that the consumer unwinds with a panic that escapes
(`escaped_panic_received`).
-/
namespace MediaIntake
variable {k : Kind}

/-! ## What a buffer says of a sample -/

/-- What only the buffers of one kind say: for how long an audio sample lasts, which is no time
if its stop is not known, and how the pixels of a video frame are laid out. -/
def Buffer.Details : {k : Kind} → Buffer k → SampleTimes → Prop
  | .audio, b, times =>
    let duration : Millis := b.duration
    duration.count.toInt =
      match times.stop with
      | some stop => stop.count.toInt.tdiv 10000 - times.start.count.toInt.tdiv 10000
      | none => 0
  | .video, b, _ =>
    let layout : PixelLayout := b.layout
    layout = .i420

/-- The buffer holds this payload, in this format, with these times in whole milliseconds. -/
structure Buffer.Carries (b : Buffer k) (format : k.Descriptor) (times : SampleTimes)
    (payload : ByteArray) : Prop where
  data : b.data = payload
  descriptor : b.descriptor = format
  timestamp : b.timestamp.count.toInt = times.start.count.toInt.tdiv 10000
  details : b.Details times

namespace Buffer

/-- A packaged sample is carried by its buffer. -/
theorem package_carries (format : k.Descriptor) (times : SampleTimes) (payload : ByteArray) :
    (package format times payload).Carries format times payload := by
  refine ⟨rfl, rfl, times.start.toInt_toMillis, ?_⟩
  cases k with
  | video => rfl
  | audio =>
    obtain ⟨start, stop⟩ := times
    cases stop with
    | none => rfl
    | some stop => exact stop.toInt_since_toMillis start

/-- **A buffer is settled by what it carries**: by payload, format and start, and for audio by
the stop. -/
theorem Carries.unique {b b' : Buffer k} {format : k.Descriptor} {times times' : SampleTimes}
    {payload : ByteArray} (h : b.Carries format times payload)
    (h' : b'.Carries format times' payload) (hstart : times.start = times'.start)
    (hstop : k = .audio → times.stop = times'.stop) : b = b' := by
  have htimestamp : b.timestamp.count.toInt = b'.timestamp.count.toInt := by
    rw [h.timestamp, h'.timestamp, hstart]
  obtain ⟨descriptor, layout, ⟨timestamp⟩, duration, data⟩ := b
  obtain ⟨descriptor', layout', ⟨timestamp'⟩, duration', data'⟩ := b'
  obtain rfl : data = data' := h.data.trans h'.data.symm
  obtain rfl : descriptor = descriptor' := h.descriptor.trans h'.descriptor.symm
  obtain rfl : timestamp = timestamp' := Int64.toInt_inj.mp htimestamp
  -- what is left is the part that only one kind has: for video it is a single layout
  have hdetails := h.details
  have hdetails' := h'.details
  cases k with
  | audio =>
    obtain rfl : times = times' := by
      cases times
      cases times'
      simp_all
    obtain ⟨duration⟩ : Millis := duration
    obtain ⟨duration'⟩ : Millis := duration'
    obtain rfl : duration = duration' := Int64.toInt_inj.mp (hdetails.trans hdetails'.symm)
    rfl
  | video =>
    obtain rfl : layout = layout' := hdetails.trans hdetails'.symm
    rfl

end Buffer

/-! ## What a slot held before -/

/-- Packaging that cannot be told apart, but for what a sample that was not packaged leaves in
the buffer. -/
structure Packaging.Alike (p p' : Packaging k) : Prop where
  verdict : p.verdict = p'.verdict
  queries : p.queries = p'.queries
  events : p.events = p'.events
  handed : p.handed = p'.handed
  capacity : p.slot.capacity = p'.slot.capacity

theorem Packaging.Alike.record {p p' : Packaging k} (h : p.Alike p') (reaction : Reaction) :
    p.record reaction = p'.record reaction := by
  obtain ⟨hverdict, -, hevents, hhanded, -⟩ := h
  obtain ⟨verdict, queries, events, slot⟩ := p
  obtain ⟨verdict', queries', events', slot'⟩ := p'
  obtain rfl : verdict = verdict' := hverdict
  obtain rfl : events = events' := hevents
  cases verdict with
  | packaged =>
    have hbuffer : slot.buffer = slot'.buffer := Option.some.inj hhanded
    unfold Packaging.record
    rw [hbuffer]
  | failed error => rfl
  | unwound => rfl

namespace Slot

theorem receive_alike {s s' : Slot k} (h : s.capacity = s'.capacity) (actual : k.Descriptor)
    (times : SampleTimes) (payload : ByteArray) (memoryRefused : Bool) :
    (s.receive actual times payload memoryRefused).Alike
      (s'.receive actual times payload memoryRefused) := by
  have hneeds : s.needsMemory payload = s'.needsMemory payload := by
    rw [needsMemory, needsMemory, h]
  unfold receive
  by_cases hactual : actual = k.empty
  · rw [if_pos hactual, if_pos hactual]
    exact ⟨rfl, rfl, rfl, rfl, h⟩
  · rw [if_neg hactual, if_neg hactual, fill_eq, fill_eq, hneeds]
    cases s'.needsMemory payload && memoryRefused with
    | true => exact ⟨rfl, rfl, rfl, rfl, h⟩
    | false => exact ⟨rfl, rfl, rfl, rfl, congrArg (max · payload.size) h⟩

/-- **Packaging a sample depends on the memory of the slot, not on what it holds.** -/
theorem package_alike {s s' : Slot k} (h : s.capacity = s'.capacity) (actual : k.Descriptor)
    (d : Delivery) : (s.package actual d).Alike (s'.package actual d) := by
  unfold package
  split
  · exact ⟨rfl, rfl, rfl, rfl, h⟩
  split
  · exact ⟨rfl, rfl, rfl, rfl, h⟩
  · exact ⟨rfl, rfl, rfl, rfl, h⟩
  split
  · exact ⟨rfl, rfl, rfl, rfl, h⟩
  split
  · exact ⟨rfl, rfl, rfl, rfl, h⟩
  · exact ⟨rfl, rfl, rfl, rfl, h⟩
  · exact receive_alike h actual _ _ _

end Slot

namespace Endpoint

/-- The endpoint with another slot. -/
def withSlot (e : Endpoint k) (s : Slot k) : Endpoint k := { e with slot := s }

@[simp] theorem withSlot_slot (e : Endpoint k) (s : Slot k) : (e.withSlot s).slot = s := rfl

@[simp] theorem withSlot_actual (e : Endpoint k) (s : Slot k) :
    (e.withSlot s).actual = e.actual := rfl

/-- The endpoint with a buffer that has never held a sample, and the memory that it had. -/
def renewed (e : Endpoint k) : Endpoint k := e.withSlot { e.slot with buffer := .empty k }

/-- The outcomes of a run in which the buffer is a new one for every call. -/
def runRenewed (e : Endpoint k) : List (Call k) → List (Outcome k)
  | [] => []
  | call :: calls => (e.renewed.step call).1 :: (e.renewed.step call).2.runRenewed calls

/-- Calls that deliver nothing pass the slot on. -/
theorem step_withSlot_of_no_delivery (e : Endpoint k) (s : Slot k) {call : Call k}
    (h : call.delivery? = none) :
    (e.withSlot s).step call = ((e.step call).1, (e.step call).2.withSlot s) := by
  cases Call.course h with
  | granted hc =>
    rw [step_of_granted _ hc, step_of_granted _ hc]
    rfl
  | refused hs hc =>
    rw [step_of_refused _ hs hc, step_of_refused _ hs hc]
    rfl
  | unreadable state hr =>
    rw [step_configureText_of_error _ state hr, step_configureText_of_error _ state hr]
  | accepted hn =>
    rw [step_propose_of_ok _ hn, step_propose_of_ok _ hn]
    rfl
  | rejected hn =>
    rw [step_propose_of_error _ hn, step_propose_of_error _ hn]
    rfl
  | enumerate | actual | requested | counters | channel =>
    simp only [step_enumerate, ask_actual, ask_requested, ask_counters, ask_channel]
    rfl

/-- A delivery is the same whatever the slot held before. -/
theorem deliver_withSlot (e : Endpoint k) {s : Slot k} (h : e.slot.capacity = s.capacity)
    (d : Delivery) :
    (e.withSlot s).deliver d =
      ((e.deliver d).1, (e.deliver d).2.withSlot (s.package e.actual d).slot) := by
  have ha := Slot.package_alike h e.actual d
  simp only [deliver_eq, withSlot_slot, withSlot_actual, ha.verdict, ha.queries, ha.handed,
    ha.record]
  rfl

/-- **A call is the same whatever the slot held before**, and so it goes on. -/
theorem step_withSlot (e : Endpoint k) {s : Slot k} (h : e.slot.capacity = s.capacity)
    (call : Call k) :
    ∃ s' : Slot k, (e.step call).2.slot.capacity = s'.capacity ∧
      (e.withSlot s).step call = ((e.step call).1, (e.step call).2.withSlot s') := by
  cases hc : call.delivery? with
  | none =>
    refine ⟨s, ?_, e.step_withSlot_of_no_delivery s hc⟩
    rw [step_slot, hc]
    exact h
  | some d =>
    obtain rfl := Call.eq_deliver_of_delivery? hc
    refine ⟨(s.package e.actual d).slot, ?_, ?_⟩
    · rw [step_slot]
      exact (Slot.package_alike h e.actual d).capacity
    · have hrecovered : (e.withSlot s).recovered = e.recovered.withSlot s := rfl
      rw [step_deliver_eq, step_deliver_eq, hrecovered, deliver_withSlot e.recovered h d]
      rfl

/-- **A run cannot be told from one in which the buffer is a new one for every call.** -/
theorem run_eq_runRenewed (e : Endpoint k) {s : Slot k} (h : e.slot.capacity = s.capacity)
    (calls : List (Call k)) : (e.run calls).1 = (e.withSlot s).runRenewed calls := by
  -- the two runs differ in their slots only, and these agree on their memory
  induction calls generalizing e s with
  | nil => rfl
  | cons call calls ih =>
    obtain ⟨s', hs', hstep⟩ := e.step_withSlot (s := ⟨.empty k, s.capacity⟩) h call
    have hrenewed : (e.withSlot s).renewed = e.withSlot ⟨.empty k, s.capacity⟩ := rfl
    rw [run_cons, runRenewed, hrenewed, hstep, ih _ hs']

end Endpoint

/-! ## What the consumer receives -/

/-- The buffer carries the sample that was delivered, in the format that was actual then. -/
def Exchange.HandsOver (x : Exchange k) (b : Buffer k) : Prop :=
  ∃ d payload times, x.call = .deliver d ∧ d.sample.HasPayload payload ∧
    d.sample.times = .answers times ∧ b.Carries x.before.actual times payload

namespace Endpoint

/-- A buffer that the consumer receives is the delivered sample's. -/
theorem exchange_handsOver {e : Endpoint k} {call : Call k} {b : Buffer k}
    (h : (e.exchange call).received? = some b) : (e.exchange call).HandsOver b := by
  cases hc : call.delivery? with
  | none =>
    have hr := (e.step_of_no_delivery hc).received
    rw [Exchange.received?, exchange] at h
    rw [hr] at h
    cases h
  | some d =>
    obtain rfl := Call.eq_deliver_of_delivery? hc
    have hcourse := e.slot.package_course e.actual d
    rw [Exchange.received?, exchange, step_deliver] at h
    dsimp only at h
    generalize e.slot.package e.actual d = p at h hcourse
    cases hv : p.verdict with
    | failed error =>
      rw [Packaging.handed, hv] at h
      cases h
    | unwound =>
      rw [Packaging.handed, hv] at h
      cases h
    | packaged =>
      obtain ⟨payload, times, hp, ht, hslot⟩ := hcourse.of_packaged hv
      rw [Packaging.handed, hv, hslot] at h
      obtain rfl := Option.some.inj h
      exact ⟨d, payload, times, rfl, hp, ht, Buffer.package_carries _ _ _⟩

/-- The buffers that the consumer receives in a run, in their order. -/
def received (k : Kind) (calls : List (Call k)) : List (Buffer k) :=
  ((init k).run calls).1.filterMap (·.received)

/-- The same buffers, read off the history. -/
theorem received_eq_filterMap (calls : List (Call k)) :
    received k calls = (history k calls).filterMap (·.received?) := by
  rw [received, ← map_outcome_exchanges, List.filterMap_map]
  rfl

/-- One buffer is received for each call of the consumer. -/
theorem forall₂_handsOver {log : List (Exchange k)}
    (hbuffers : ∀ x ∈ log, ∀ b, x.received? = some b → x.HandsOver b) :
    List.Forall₂ Exchange.HandsOver (log.filter (·.invoked)) (log.filterMap (·.received?)) := by
  induction log with
  | nil => exact .nil
  | cons x log ih =>
    have hrest := ih fun y hy => hbuffers y (List.mem_cons_of_mem x hy)
    cases hr : x.received? with
    | none =>
      have hi : ¬ x.invoked = true := by
        rw [Exchange.invoked, hr]
        exact Bool.false_ne_true
      rw [List.filter_cons_of_neg hi, List.filterMap_cons_none hr]
      exact hrest
    | some b =>
      have hi : x.invoked = true := by
        rw [Exchange.invoked, hr]
        rfl
      rw [List.filter_cons_of_pos hi, List.filterMap_cons_some hr]
      exact .cons (hbuffers x List.mem_cons_self b hr) hrest

theorem received_carries (calls : List (Call k)) :
    List.Forall₂ Exchange.HandsOver ((history k calls).filter (·.invoked)) (received k calls) := by
  rw [received_eq_filterMap]
  exact forall₂_handsOver (forall_history (fun e call b h => exchange_handsOver h) calls)

/-- **The reused buffer is as good as a new one for every sample.**  Nothing of a run shows that
the buffer was used before; the consumer is called for the deliveries that are done and for those
that a panic of it escapes from, and in their order it receives one buffer for each, which carries
the sample in the format that was actual at the delivery; and this settles the buffer, whatever else
the run has done.  Where no panic escapes, the deliveries that the consumer is called for are
exactly those that are done. -/
theorem reused_buffer_fresh (k : Kind) (calls : List (Call k)) :
    ((init k).run calls).1 = (init k).runRenewed calls ∧
    (∀ x ∈ history k calls, x.invoked = (x.succeeded || x.escaped) ∧
      x.escaped = (x.invoked && x.call.escapes)) ∧
    List.Forall₂ Exchange.HandsOver ((history k calls).filter (·.invoked)) (received k calls) ∧
    (Call.Caught calls →
      (∀ x ∈ history k calls, x.invoked = x.succeeded) ∧
      List.Forall₂ Exchange.HandsOver ((history k calls).filter (·.succeeded))
        (received k calls)) ∧
    ∀ (b b' : Buffer k) (format : k.Descriptor) (times times' : SampleTimes)
      (payload : ByteArray), b.Carries format times payload → b'.Carries format times' payload →
      times.start = times'.start → (k = .audio → times.stop = times'.stop) → b = b' := by
  refine ⟨?_, ?_, received_carries calls, ?_, ?_⟩
  · have hinit : (init k).withSlot (init k).slot = init k := rfl
    rw [run_eq_runRenewed (init k) (s := (init k).slot) rfl calls, hinit]
  · exact forall_history (fun e call =>
      ⟨(e.exchange_balanced call).invoked, (e.exchange_balanced call).escaped⟩) calls
  · intro hcaught
    have hinvoked := invoked_of_caught hcaught
    refine ⟨hinvoked, ?_⟩
    rw [← List.filter_congr hinvoked]
    exact received_carries calls
  · intro b b' format times times' payload h h' hstart hstop
    exact h.unique h' hstart hstop

/-- A consumer that takes a frame and then panics on a shorter one: each is handed to it as it was
delivered. -/
theorem two_frames_fresh :
    let frame (payload : List UInt8) (start : Int64) (reaction : Reaction) : Call .video :=
      .deliver
        { state := .running,
          sample := ⟨.answers ⟨payload.toArray⟩, .answers { start := ⟨start⟩ }⟩, reaction }
    let calls : List (Call .video) :=
      [.propose (VideoDescriptor.advertised ⟨2, 2⟩), frame [1, 2, 3, 4] 20000 .accepts,
       frame [9] (-59999) (.panics (.text "too dark"))]
    Call.Caught calls ∧
    (received .video calls).map (fun b => (b.data.data.toList, b.timestamp.count)) =
      [([1, 2, 3, 4], 2), ([9], -5)] ∧
    ((init .video).run calls).1 = (init .video).runRenewed calls ∧
    List.Forall₂ Exchange.HandsOver ((history .video calls).filter (·.succeeded))
      (received .video calls) := by
  intro frame calls
  have hcaught : Call.Caught calls := by decide
  obtain ⟨hrenewed, -, -, hdone, -⟩ := reused_buffer_fresh .video calls
  exact ⟨hcaught, by decide, hrenewed, (hdone hcaught).2⟩

/-- A panic that escapes: the consumer is called in a delivery that is not done. -/
theorem escaped_panic_received :
    let calls : List (Call .video) :=
      [.propose (VideoDescriptor.advertised ⟨2, 2⟩),
       .deliver
        { state := .running,
          sample := ⟨.answers ⟨#[1, 2, 3]⟩, .answers { start := ⟨20000⟩ }⟩,
          reaction := .panics (.other true) }]
    (received .video calls).map (·.data.data.toList) = [[1, 2, 3]] ∧
    ∃ x ∈ history .video calls, x.invoked = true ∧ x.succeeded = false := by
  decide

/-- A long frame, one that is refused for want of memory, and a short one. -/
example :
    let frame (payload : List UInt8) (start : Int64) : Sample :=
      ⟨.answers ⟨payload.toArray⟩, .answers { start := ⟨start⟩ }⟩
    (received .video
      [.propose (VideoDescriptor.advertised ⟨2, 2⟩),
       .deliver { state := .running, sample := frame [1, 2, 3, 4] 20000 },
       .deliver { state := .running, sample := frame [5, 6, 7, 8, 9] 30000, memoryRefused := true },
       .deliver { state := .running, sample := frame [9] (-59999) }]).map
      (fun b => (b.data.data.toList, b.timestamp.count)) = [([1, 2, 3, 4], 2), ([9], -5)] := by
  decide

end Endpoint
end MediaIntake
