import MediaIntake.Intake.Endpoint
/-! # One delivery

A delivered sample takes one of eight courses through the checks (`Course`), and which one is
settled by the graph's state, by what the sample answers, by the format and by memory
(`package_course`).  What the caller and the consumer see of a delivery, and what it leaves
behind, is read off its verdict and the consumer's reaction (`deliver_eq`).
-/
namespace MediaIntake
variable {k : Kind}

/-! ## Samples -/

/-- Whether asking ends in a panic. -/
def Reply.isPanic {α : Type} : Reply α → Bool
  | .answers _ => false
  | .declines => false
  | .panics => true

namespace Sample

/-- A payload with bytes in it. -/
def HasPayload (s : Sample) (payload : ByteArray) : Prop :=
  s.payload = .answers payload ∧ payload.isEmpty = false

/-- The payload query is answered by nothing, or by no bytes. -/
def LacksPayload (s : Sample) : Prop :=
  s.payload = .declines ∨ ∃ payload, s.payload = .answers payload ∧ payload.isEmpty = true

theorem LacksPayload.not_hasPayload {s : Sample} (h : s.LacksPayload) (payload : ByteArray) :
    ¬ s.HasPayload payload := by
  rintro ⟨hp, hbytes⟩
  obtain h | ⟨payload', h, hempty⟩ := h
  · rw [hp] at h
    cases h
  · rw [hp] at h
    cases h
    rw [hbytes] at hempty
    cases hempty

/-- Whether a question to the sample ends in a panic, if it is asked. -/
def panicsAt (s : Sample) : Query → Bool
  | .payload => s.payload.isPanic
  | .times => s.times.isPanic

end Sample

/-! ## Packaging -/

namespace Slot

/-- The courses that a delivery takes through the checks, in the order of the checks, with what
packaging comes to in each of them. -/
inductive Course (s : Slot k) (actual : k.Descriptor) (d : Delivery) : Packaging k → Prop where
  | stopped (hstate : d.state = .stopped) :
    Course s actual d ⟨.failed (.wrongState .stopped), [], [.sampleDropped .stopped], s⟩
  | payloadPanics (hstate : d.state ≠ .stopped) (hp : d.sample.payload = .panics) :
    Course s actual d ⟨.unwound, [.payload], [], s⟩
  | payloadMissing (hstate : d.state ≠ .stopped) (hp : d.sample.LacksPayload) :
    Course s actual d ⟨.failed .emptyPayload, [.payload], [.payloadMissing], s⟩
  | timesPanic {payload : ByteArray} (hstate : d.state ≠ .stopped)
    (hp : d.sample.HasPayload payload) (ht : d.sample.times = .panics) :
    Course s actual d ⟨.unwound, [.payload, .times], [], s⟩
  | timesMissing {payload : ByteArray} (hstate : d.state ≠ .stopped)
    (hp : d.sample.HasPayload payload) (ht : d.sample.times = .declines) :
    Course s actual d ⟨.failed .timesUnavailable, [.payload, .times], [.timesMissing], s⟩
  | unconnected {payload : ByteArray} {times : SampleTimes} (hstate : d.state ≠ .stopped)
    (hp : d.sample.HasPayload payload) (ht : d.sample.times = .answers times)
    (hactual : actual = k.empty) :
    Course s actual d ⟨.failed .notConnected, [.payload, .times], [.formatMissing], s⟩
  | memoryRefused {payload : ByteArray} {times : SampleTimes} (hstate : d.state ≠ .stopped)
    (hp : d.sample.HasPayload payload) (ht : d.sample.times = .answers times)
    (hactual : actual ≠ k.empty) (hm : (s.needsMemory payload && d.memoryRefused) = true) :
    Course s actual d ⟨.failed .outOfMemory, [.payload, .times],
      k.timeEvents times ++ [.bufferFailed .outOfMemory], { s with buffer := s.buffer.clear }⟩
  | packaged {payload : ByteArray} {times : SampleTimes} (hstate : d.state ≠ .stopped)
    (hp : d.sample.HasPayload payload) (ht : d.sample.times = .answers times)
    (hactual : actual ≠ k.empty) (hm : (s.needsMemory payload && d.memoryRefused) = false) :
    Course s actual d ⟨.packaged, [.payload, .times], k.timeEvents times,
      ⟨.package actual times payload, max s.capacity payload.size⟩⟩

/-- A sample with payload and times comes down to the format and to memory. -/
theorem receive_course (s : Slot k) (actual : k.Descriptor) {d : Delivery} {times : SampleTimes}
    {payload : ByteArray} (hstate : d.state ≠ .stopped) (hp : d.sample.HasPayload payload)
    (ht : d.sample.times = .answers times) :
    Course s actual d (s.receive actual times payload d.memoryRefused) := by
  unfold receive
  split
  · next hactual => exact .unconnected hstate hp ht hactual
  · next hactual =>
    rw [fill_eq]
    cases hm : s.needsMemory payload && d.memoryRefused with
    | true => exact .memoryRefused hstate hp ht hactual hm
    | false => exact .packaged hstate hp ht hactual hm

/-- **Every delivery takes one of the courses.** -/
theorem package_course (s : Slot k) (actual : k.Descriptor) (d : Delivery) :
    Course s actual d (s.package actual d) := by
  unfold package
  split
  · next h =>
    have hstate : d.state = .stopped := by simpa [GraphState.acceptsSamples] using h
    rw [hstate]
    exact .stopped hstate
  · next h =>
    have hstate : d.state ≠ .stopped := by simpa [GraphState.acceptsSamples] using h
    cases hp : d.sample.payload with
    | panics => exact .payloadPanics hstate hp
    | declines => exact .payloadMissing hstate (.inl hp)
    | answers payload =>
      dsimp only
      split
      · next he => exact .payloadMissing hstate (.inr ⟨payload, hp, he⟩)
      · next he =>
        have hp : d.sample.HasPayload payload := ⟨hp, by simpa using he⟩
        cases ht : d.sample.times with
        | panics => exact .timesPanic hstate hp ht
        | declines => exact .timesMissing hstate hp ht
        | answers times => exact s.receive_course actual hstate hp ht

namespace Course
variable {s : Slot k} {actual : k.Descriptor} {d : Delivery} {p : Packaging k}

/-- The payload is asked for unless the graph is stopped. -/
theorem payload_mem_queries_iff (h : Course s actual d p) :
    Query.payload ∈ p.queries ↔ d.state ≠ .stopped := by
  cases h with
  | stopped hstate => simp [hstate]
  | payloadPanics hstate | payloadMissing hstate | timesPanic hstate | timesMissing hstate
  | unconnected hstate | memoryRefused hstate | packaged hstate => simp [hstate]

/-- The times are asked for once there is a payload with bytes in it. -/
theorem times_mem_queries_iff (h : Course s actual d p) :
    Query.times ∈ p.queries ↔
      d.state ≠ .stopped ∧ ∃ payload, d.sample.HasPayload payload := by
  cases h with
  | stopped hstate => simp [hstate]
  | payloadPanics hstate hp => simp [hstate, Sample.HasPayload, hp]
  | payloadMissing hstate hp => simp [hstate, hp.not_hasPayload]
  | timesPanic hstate hp | timesMissing hstate hp | unconnected hstate hp
  | memoryRefused hstate hp | packaged hstate hp =>
    exact iff_of_true (List.mem_cons_of_mem _ List.mem_cons_self) ⟨hstate, _, hp⟩

/-- **Packaging unwinds exactly where a question that it asks meets a panic.** -/
theorem unwound_iff (h : Course s actual d p) :
    p.verdict = .unwound ↔ ∃ q ∈ p.queries, d.sample.panicsAt q = true := by
  cases h with
  | stopped => simp
  | payloadPanics _ hp => simp [Sample.panicsAt, Reply.isPanic, hp]
  | payloadMissing _ hp =>
    obtain hp | ⟨payload, hp, -⟩ := hp
    · simp [Sample.panicsAt, Reply.isPanic, hp]
    · simp [Sample.panicsAt, Reply.isPanic, hp]
  | timesPanic _ _ ht => simp [Sample.panicsAt, Reply.isPanic, ht]
  | timesMissing _ hp ht => simp [Sample.panicsAt, Reply.isPanic, hp.1, ht]
  | unconnected _ hp ht => simp [Sample.panicsAt, Reply.isPanic, hp.1, ht]
  | memoryRefused _ hp ht => simp [Sample.panicsAt, Reply.isPanic, hp.1, ht]
  | packaged _ hp ht => simp [Sample.panicsAt, Reply.isPanic, hp.1, ht]

/-- **What is packaged is the sample in the format**, whatever the slot held before. -/
theorem of_packaged (h : Course s actual d p) (hv : p.verdict = .packaged) :
    ∃ payload times, d.sample.HasPayload payload ∧ d.sample.times = .answers times ∧
      p.slot = ⟨.package actual times payload, max s.capacity payload.size⟩ := by
  cases h with
  | packaged _ hp ht => exact ⟨_, _, hp, ht, rfl⟩
  | _ => cases hv

/-- A sample that fails takes bytes from the slot at most, and never memory. -/
theorem capacity_of_failed (h : Course s actual d p) {error : DeliveryError}
    (hv : p.verdict = .failed error) : p.slot.capacity = s.capacity := by
  cases h with
  | packaged => cases hv
  | _ => rfl

/-- A sample that panics never gets to the slot. -/
theorem slot_of_unwound (h : Course s actual d p) (hv : p.verdict = .unwound) : p.slot = s := by
  cases h with
  | payloadPanics | timesPanic => rfl
  | _ => cases hv

/-- A sample with payload and times is told that there is no format exactly where there is
none. -/
theorem notConnected_iff (h : Course s actual d p) (hstate : d.state ≠ .stopped)
    {payload : ByteArray} {times : SampleTimes} (hp : d.sample.HasPayload payload)
    (ht : d.sample.times = .answers times) :
    p.verdict = .failed .notConnected ↔ actual = k.empty := by
  cases h with
  | stopped h => exact absurd h hstate
  | payloadPanics _ h =>
    rw [hp.1] at h
    cases h
  | payloadMissing _ h => exact absurd hp (h.not_hasPayload payload)
  | timesPanic _ _ h | timesMissing _ _ h =>
    rw [ht] at h
    cases h
  | unconnected _ _ _ hactual => exact ⟨fun _ => hactual, fun _ => rfl⟩
  | memoryRefused _ _ _ hactual _ | packaged _ _ _ hactual _ =>
    exact ⟨nofun, fun h => absurd h hactual⟩

end Course
end Slot

/-! ## Delivering -/

namespace Verdict

/-- What the caller is told where packaging ends so, if the consumer would react so. -/
def result (reaction : Reaction) : Verdict → Result k
  | .packaged => if reaction.escapes then .unwound else .done
  | .failed error => .dropped error
  | .unwound => .unwound

/-- Whether the delivery unwinds then: a question to the sample does it, or a panic of the consumer
that escapes. -/
def unwinds (reaction : Reaction) : Verdict → Bool
  | .packaged => reaction.escapes
  | .failed _ => false
  | .unwound => true

variable {verdict : Verdict} {reaction : Reaction}

theorem unwinds_iff : verdict.unwinds reaction = true ↔
    verdict = .unwound ∨ verdict = .packaged ∧ reaction.escapes = true := by
  cases verdict <;> simp [unwinds]

theorem result_eq_dropped_iff {error : DeliveryError} :
    (verdict.result reaction : Result k) = .dropped error ↔ verdict = .failed error := by
  cases verdict with
  | packaged => cases h : reaction.escapes <;> simp [result, h]
  | failed | unwound => simp [result]

theorem result_eq_unwound_iff :
    (verdict.result reaction : Result k) = .unwound ↔ verdict.unwinds reaction = true := by
  cases verdict <;> simp [result, unwinds]

theorem result_eq_done_iff :
    (verdict.result reaction : Result k) = .done ↔
      verdict = .packaged ∧ reaction.escapes = false := by
  cases verdict <;> simp [result]

end Verdict

/-- The counters after a delivery with this verdict, if the consumer would react so. -/
def Counters.tally (c : Counters) (verdict : Verdict) (reaction : Reaction) : Counters :=
  let c := { c with delivered := c.delivered + 1 }
  match verdict with
  | .packaged => c.count reaction
  | .failed _ => { c with rejected := c.rejected + 1 }
  | .unwound => c

/-- What a delivery records: a packaged sample and what the consumer makes of it come last. -/
def Packaging.record (p : Packaging k) (reaction : Reaction) : List (Event k) :=
  match p.verdict with
  | .packaged => p.events ++ .bufferFilled p.slot.buffer :: reaction.events
  | _ => p.events

/-- What the consumer is handed: what the slot holds, where the sample was packaged. -/
def Packaging.handed (p : Packaging k) : Option (Buffer k) :=
  match p.verdict with
  | .packaged => some p.slot.buffer
  | _ => none

namespace Endpoint

/-- **A delivery by the verdict on its sample and by what the consumer makes of it.** -/
theorem deliver_eq (e : Endpoint k) (d : Delivery) :
    let p := e.slot.package e.actual d
    e.deliver d =
      ({ result := p.verdict.result d.reaction, queries := p.queries,
         events := p.record d.reaction, received := p.handed },
        { e with
          slot := p.slot
          counters := e.counters.tally p.verdict d.reaction
          poisoned := e.poisoned || p.verdict.unwinds d.reaction }) := by
  unfold deliver
  generalize e.slot.package e.actual d = p
  obtain ⟨verdict, queries, events, slot⟩ := p
  cases verdict <;>
    simp [Verdict.result, Verdict.unwinds, Packaging.record, Packaging.handed, Counters.tally]

end Endpoint
end MediaIntake
