import MediaIntake.Proofs.Endpoint.Runs
/-! # What keeps a sample from the consumer

A delivery can have several faults at once.  Whether it has a fault is told of each by itself,
whatever else is wrong with the delivery (`Fault.holds`); **the first in order is the one that is
reported**, and it also settles what the sample has been asked by then (`Course.first?_eq`).  None
of this depends on what the consumer would do, and nothing that the consumer could notice has
happened when a fault is reported (`unnoticed_of_dropped`).  A delivery without a fault is done
whatever the consumer makes of it, unless a panic of it escapes (`escaped_panic_unwinds`).
-/
namespace MediaIntake
variable {k : Kind}

/-- What keeps a delivered sample from the consumer. -/
inductive Fault where
  | stopped
  /-- The sample has no payload, or one without bytes. -/
  | noPayload
  | noTimes
  /-- No format has been negotiated. -/
  | noFormat
  /-- The payload takes more memory than there is, and memory is refused. -/
  | noMemory
  deriving DecidableEq

namespace Fault

/-- All faults, in the order in which they are looked for. -/
def order : List Fault := [.stopped, .noPayload, .noTimes, .noFormat, .noMemory]

/-- Whether a delivery to an endpoint has a fault. -/
def holds (e : Endpoint k) (d : Delivery) : Fault → Bool
  | stopped => d.state = .stopped
  | noPayload =>
    match d.sample.payload with
    | .answers payload => payload.isEmpty
    | .declines => true
    | .panics => false
  | noTimes => d.sample.times = .declines
  | noFormat => e.actual = k.empty
  | noMemory =>
    match d.sample.payload with
    | .answers payload => e.slot.needsMemory payload && d.memoryRefused
    | _ => false

/-- The fault of a delivery that is found first. -/
def first? (e : Endpoint k) (d : Delivery) : Option Fault := order.find? (holds e d)

/-- What the caller is told. -/
def error : Fault → DeliveryError
  | stopped => .wrongState .stopped
  | noPayload => .emptyPayload
  | noTimes => .timesUnavailable
  | noFormat => .notConnected
  | noMemory => .outOfMemory

/-- What the sample has been asked when a fault is found. -/
def queries : Fault → List Query
  | stopped => []
  | noPayload => [.payload]
  | noTimes | noFormat | noMemory => [.payload, .times]

section
variable {e : Endpoint k} {d : Delivery} {payload : ByteArray} {times : SampleTimes}

theorem holds_noPayload (h : d.sample.LacksPayload) : noPayload.holds e d = true := by
  obtain h | ⟨payload, h, hempty⟩ := h
  · simp [holds, h]
  · simp [holds, h, hempty]

theorem not_holds_noPayload (h : d.sample.HasPayload payload) : ¬ noPayload.holds e d = true := by
  simp [holds, h.1, h.2]

theorem holds_noMemory (h : d.sample.HasPayload payload) :
    noMemory.holds e d = (e.slot.needsMemory payload && d.memoryRefused) := by
  simp [holds, h.1]

/-! A delivery that is not stopped at one fault is left to those after it. -/

theorem first?_of_running (hstate : d.state ≠ .stopped) :
    first? e d = [noPayload, noTimes, noFormat, noMemory].find? (holds e d) := by
  have hstopped : ¬ stopped.holds e d = true := by simp [holds, hstate]
  rw [first?, order, List.find?_cons_of_neg hstopped]

theorem first?_of_hasPayload (hstate : d.state ≠ .stopped) (hp : d.sample.HasPayload payload) :
    first? e d = [noTimes, noFormat, noMemory].find? (holds e d) := by
  rw [first?_of_running hstate, List.find?_cons_of_neg (not_holds_noPayload hp)]

theorem first?_of_times (hstate : d.state ≠ .stopped) (hp : d.sample.HasPayload payload)
    (ht : d.sample.times = .answers times) :
    first? e d = [noFormat, noMemory].find? (holds e d) := by
  have htimes : ¬ noTimes.holds e d = true := by simp [holds, ht]
  rw [first?_of_hasPayload hstate hp, List.find?_cons_of_neg htimes]

theorem first?_of_format (hstate : d.state ≠ .stopped) (hp : d.sample.HasPayload payload)
    (ht : d.sample.times = .answers times) (hactual : e.actual ≠ k.empty) :
    first? e d = if e.slot.needsMemory payload && d.memoryRefused then some noMemory else none := by
  have hformat : ¬ noFormat.holds e d = true := by simp [holds, hactual]
  rw [first?_of_times hstate hp ht, List.find?_cons_of_neg hformat, ← holds_noMemory hp]
  cases hm : noMemory.holds e d with
  | true => simp [hm]
  | false => simp [hm]

end
end Fault

namespace Delivery

/-- The questions that come up in a delivery: for the payload unless the graph is stopped, and for
the times once there is a payload with bytes in it. -/
def Reaches (d : Delivery) : Query → Prop
  | .payload => d.state ≠ .stopped
  | .times => d.state ≠ .stopped ∧ ∃ payload, d.sample.HasPayload payload

/-- No question that comes up meets a panic. -/
def Answered (d : Delivery) : Prop := ∀ q, d.Reaches q → d.sample.panicsAt q = false

end Delivery

namespace Slot.Course
variable {s : Slot k} {actual : k.Descriptor} {d : Delivery} {p : Packaging k}

/-- A sample is asked what comes up. -/
theorem mem_queries_iff (h : Course s actual d p) (q : Query) : q ∈ p.queries ↔ d.Reaches q := by
  cases q with
  | payload => exact h.payload_mem_queries_iff
  | times => exact h.times_mem_queries_iff

/-- Packaging comes back exactly where what comes up is answered. -/
theorem returns_iff (h : Course s actual d p) : p.verdict ≠ .unwound ↔ d.Answered := by
  rw [ne_eq, h.unwound_iff]
  constructor
  · intro hreturns q hq
    rw [Bool.eq_false_iff]
    intro hpanics
    exact hreturns ⟨q, (h.mem_queries_iff q).mpr hq, hpanics⟩
  · rintro hanswered ⟨q, hq, hpanics⟩
    rw [hanswered q ((h.mem_queries_iff q).mp hq)] at hpanics
    cases hpanics

/-- A failure is a race exactly where the graph was stopped. -/
theorem isBenign_iff (h : Course s actual d p) {error : DeliveryError}
    (hv : p.verdict = .failed error) : error.isBenign = true ↔ d.state = .stopped := by
  cases h with
  | stopped hstate =>
    cases hv
    exact iff_of_true rfl hstate
  | payloadMissing hstate | timesMissing hstate | unconnected hstate | memoryRefused hstate =>
    cases hv
    exact iff_of_false Bool.false_ne_true hstate
  | payloadPanics | timesPanic | packaged => cases hv

/-- **The first fault settles how packaging ends and what the sample is asked.** -/
theorem first?_eq {e : Endpoint k} {d : Delivery} {p : Packaging k}
    (h : Course e.slot e.actual d p) (hreturns : p.verdict ≠ .unwound) :
    match Fault.first? e d with
    | some fault => p.verdict = .failed fault.error ∧ p.queries = fault.queries
    | none => p.verdict = .packaged ∧ p.queries = [.payload, .times] := by
  cases h with
  | payloadPanics | timesPanic => exact absurd rfl hreturns
  | stopped hstate =>
    have hfirst : Fault.first? e d = some .stopped := List.find?_cons_of_pos (decide_eq_true hstate)
    rw [hfirst]
    exact ⟨rfl, rfl⟩
  | payloadMissing hstate hp =>
    rw [Fault.first?_of_running hstate, List.find?_cons_of_pos (Fault.holds_noPayload hp)]
    exact ⟨rfl, rfl⟩
  | timesMissing hstate hp ht =>
    have htimes : Fault.noTimes.holds e d = true := decide_eq_true ht
    rw [Fault.first?_of_hasPayload hstate hp, List.find?_cons_of_pos htimes]
    exact ⟨rfl, rfl⟩
  | unconnected hstate hp ht hactual =>
    have hformat : Fault.noFormat.holds e d = true := decide_eq_true hactual
    rw [Fault.first?_of_times hstate hp ht, List.find?_cons_of_pos hformat]
    exact ⟨rfl, rfl⟩
  | memoryRefused hstate hp ht hactual hm =>
    rw [Fault.first?_of_format hstate hp ht hactual, if_pos hm]
    exact ⟨rfl, rfl⟩
  | packaged hstate hp ht hactual hm =>
    rw [Fault.first?_of_format hstate hp ht hactual, if_neg (ne_true_of_eq_false hm)]
    exact ⟨rfl, rfl⟩

/-- A sample is packaged where there is no fault. -/
theorem packaged_iff_first? {e : Endpoint k} {d : Delivery} {p : Packaging k}
    (h : Course e.slot e.actual d p) (hreturns : p.verdict ≠ .unwound) :
    p.verdict = .packaged ↔ Fault.first? e d = none := by
  have hfirst := h.first?_eq hreturns
  cases hf : Fault.first? e d with
  | none =>
    rw [hf] at hfirst
    exact iff_of_true hfirst.1 rfl
  | some fault =>
    rw [hf] at hfirst
    rw [hfirst.1]
    simp

end Slot.Course

namespace Endpoint

/-- The consumer is not called in a delivery, and neither the descriptors nor the counts of what it
was called for change. -/
structure Unnoticed (e : Endpoint k) (d : Delivery) : Prop where
  received : (e.step (.deliver d)).1.received = none
  requested : (e.step (.deliver d)).2.requested = e.requested
  actual : (e.step (.deliver d)).2.actual = e.actual
  dispatched : (e.step (.deliver d)).2.counters.dispatched = e.counters.dispatched
  consumerFailures :
    (e.step (.deliver d)).2.counters.consumerFailures = e.counters.consumerFailures

/-- **No failure is noticed.** -/
theorem unnoticed_of_dropped {e : Endpoint k} {d : Delivery} {error : DeliveryError}
    (h : (e.step (.deliver d)).1.result = .dropped error) : e.Unnoticed d := by
  have hverdict := (e.step_deliver_dropped_iff d error).mp h
  have hcounters : (e.step (.deliver d)).2.counters =
      e.counters.tally (.failed error) d.reaction := by
    rw [step_counters, ← hverdict]
    rfl
  constructor
  · rw [step_deliver]
    dsimp only
    rw [Packaging.handed, hverdict]
  · rw [step_requested]
    rfl
  · rw [step_actual]
    rfl
  · rw [hcounters]
    rfl
  · rw [hcounters]
    rfl

/-- A delivery comes back exactly where what comes up is answered and no panic escapes from the
consumer, if it gets there. -/
theorem step_deliver_returns_iff (e : Endpoint k) (d : Delivery) :
    (e.step (.deliver d)).1.result ≠ .unwound ↔
      d.Answered ∧ (Fault.first? e d = none → d.reaction.escapes = false) := by
  have hcourse := e.slot.package_course e.actual d
  rw [ne_eq, step_deliver_unwound_iff, Verdict.unwinds_iff, not_or, not_and, Bool.not_eq_true,
    ← ne_eq, ← hcourse.returns_iff]
  refine and_congr_right fun hreturns => ?_
  rw [hcourse.packaged_iff_first? hreturns]

/-- **The first fault settles a delivery**, in whatever state the endpoint is.  A delivery comes
back exactly if no question that comes up meets a panic and no panic escapes from the consumer.  The
first fault in order is reported, whatever others there are, and the sample has been asked what
comes up before it; without a fault the delivery is done, whatever the consumer makes of the buffer
short of a panic that escapes.  A failure is benign exactly where the graph was stopped, and none is
noticed by the consumer or changes what was negotiated. -/
theorem delivery_settled (e : Endpoint k) (d : Delivery) :
    let outcome := (e.step (.deliver d)).1
    (outcome.result ≠ .unwound ↔
      d.Answered ∧ (Fault.first? e d = none → d.reaction.escapes = false)) ∧
    (d.reaction.escapes = false → (outcome.result ≠ .unwound ↔ d.Answered)) ∧
    (d.Answered →
      match Fault.first? e d with
      | some fault => outcome.result = .dropped fault.error ∧ outcome.queries = fault.queries
      | none =>
        (outcome.result = if d.reaction.escapes then .unwound else .done) ∧
          outcome.queries = [.payload, .times]) ∧
    ∀ error, outcome.result = .dropped error →
      (error.isBenign = true ↔ d.state = .stopped) ∧ e.Unnoticed d := by
  have hcourse := e.slot.package_course e.actual d
  have hreturns := e.step_deliver_returns_iff d
  refine ⟨hreturns, ?_, ?_, ?_⟩
  · intro hcaught
    rw [hreturns]
    exact and_iff_left fun _ => hcaught
  · intro hanswered
    have hfirst := hcourse.first?_eq (hcourse.returns_iff.mpr hanswered)
    rw [step_deliver]
    dsimp only
    cases hf : Fault.first? e d with
    | some fault =>
      rw [hf] at hfirst
      obtain ⟨hverdict, hqueries⟩ := hfirst
      rw [hverdict, hqueries]
      exact ⟨rfl, rfl⟩
    | none =>
      rw [hf] at hfirst
      obtain ⟨hverdict, hqueries⟩ := hfirst
      rw [hverdict, hqueries]
      exact ⟨rfl, rfl⟩
  · intro error herror
    have hverdict := (e.step_deliver_dropped_iff d error).mp herror
    exact ⟨hcourse.isBenign_iff hverdict, unnoticed_of_dropped herror⟩

/-- A sample without times, for an endpoint without format and memory. -/
theorem first_of_three_faults :
    let e := init .video
    let d : Delivery :=
      { state := .running, sample := ⟨.answers ⟨#[1, 2, 3]⟩, .declines⟩, memoryRefused := true,
        reaction := .panics (.other false) }
    Fault.order.filter (Fault.holds e d) = [.noTimes, .noFormat, .noMemory] ∧ d.Answered ∧
    (e.step (.deliver d)).1.result = .dropped .timesUnavailable ∧
    (e.step (.deliver d)).1.queries = [.payload, .times] ∧ e.Unnoticed d := by
  intro e d
  have hanswered : d.Answered := by
    intro q _
    cases q <;> rfl
  obtain ⟨-, -, hsettled, hunnoticed⟩ := delivery_settled e d
  have hfirst : Fault.first? e d = some .noTimes := by decide
  have hdropped := hsettled hanswered
  rw [hfirst] at hdropped
  obtain ⟨hresult, hqueries⟩ := hdropped
  exact ⟨by decide, hanswered, hresult, hqueries, (hunnoticed _ hresult).2⟩

/-- A panic that escapes: the delivery has no fault and all that comes up is answered, and yet it is
not done. -/
theorem escaped_panic_unwinds :
    let e := after .video [.propose (VideoDescriptor.advertised ⟨2, 2⟩)]
    let d : Delivery :=
      { state := .running, sample := ⟨.answers ⟨#[1, 2, 3]⟩, .answers { start := ⟨20000⟩ }⟩,
        reaction := .panics (.other true) }
    d.Answered ∧ Fault.first? e d = none ∧ (e.step (.deliver d)).1.result = .unwound := by
  intro e d
  refine ⟨?_, by decide, by decide⟩
  intro q _
  cases q <;> rfl

end Endpoint
end MediaIntake
