import MediaIntake.Proofs.Endpoint.Memory
import MediaIntake.Proofs.Negotiation.Accepted
import MediaIntake.Rehearsal.Script
/-! # The steps of a rehearsal

A rehearsal is a chain of calls.  Each either ends it or is followed by the rest, before whose
entries it puts its own (`attempt_of_done`, `attempt_of_failed`, `attempt_of_dropped`).  Once a
format has been negotiated and as long as nothing unwinds, an endpoint is **ready**: it takes every
sample with bytes in it, and is ready again with one more counted (`Ready.take`).  So a stretch of
samples is taken one by one, however long it is (`Ready.deliverAll`).
-/
namespace MediaIntake.Rehearsal
variable {k : Kind}

/-! ## Calls in a chain -/

/-- A report with entries before its own. -/
def Report.prepend (entries : List (Entry k)) (r : Report k) : Report k :=
  { r with entries := entries ++ r.entries }

theorem Report.prepend_prepend (entries later : List (Entry k)) (r : Report k) :
    (r.prepend later).prepend entries = r.prepend (entries ++ later) := by
  simp [prepend]

section Attempt
variable {e next : Endpoint k} {call : Call k} {outcome : Outcome k}

/-- A call that is done is followed by the rest. -/
theorem attempt_of_done (hstep : e.step call = (outcome, next)) (h : outcome.result = .done)
    (rest : Endpoint k → Report k) :
    attempt e call rest = (rest next).prepend (entriesOf outcome) := by
  rw [attempt, hstep]
  dsimp only
  rw [h]
  rfl

/-- A call that fails ends the rehearsal. -/
theorem attempt_of_failed (hstep : e.step call = (outcome, next)) {error : EndpointError}
    (h : outcome.result = .failed error) (rest : Endpoint k → Report k) :
    attempt e call rest = ⟨entriesOf outcome, some (.call error)⟩ := by
  rw [attempt, hstep]
  dsimp only
  rw [h]

/-- A sample that is dropped ends it as well. -/
theorem attempt_of_dropped (hstep : e.step call = (outcome, next)) {error : DeliveryError}
    (h : outcome.result = .dropped error) (rest : Endpoint k → Report k) :
    attempt e call rest = ⟨entriesOf outcome, some (.sample error)⟩ := by
  rw [attempt, hstep]
  dsimp only
  rw [h]

end Attempt

/-! ## What is advertised -/

section AskFrom
variable {e : Endpoint k} (h : e.poisoned = false) {index : Nat}
include h

/-- Asking changes nothing about an endpoint whose lock is in order. -/
theorem step_enumerate_of_not_poisoned (index : Nat) :
    e.step (.enumerate index) =
      ({ result := .mediaType (k.advertised? index e.requested),
         events := k.advertisingEvents index e.requested }, e) := by
  rw [e.step_enumerate, Endpoint.recovered_of_not_poisoned h, Endpoint.recovery, h]
  rfl

/-- Where a media type is advertised it is noted, and the next one is asked for. -/
theorem askFrom_of_some {t : MediaType} (ht : k.advertised? index e.requested = some t) :
    askFrom e index =
      ((k.advertisingEvents index e.requested).map .event ++
        .prefers t :: (askFrom e (index + 1)).1, (askFrom e (index + 1)).2) := by
  have hstep := step_enumerate_of_not_poisoned h index
  rw [ht] at hstep
  rw [askFrom]
  split
  · next t' hresult =>
    rw [hstep] at hresult
    cases hresult
    simp [hstep, entriesOf]
  · next hnone => exact absurd (congrArg (·.1.result) hstep) (hnone t)

/-- Where none is advertised, nothing else is asked for. -/
theorem askFrom_of_none (ht : k.advertised? index e.requested = none) :
    askFrom e index = ((k.advertisingEvents index e.requested).map .event, e) := by
  have hstep := step_enumerate_of_not_poisoned h index
  rw [ht] at hstep
  rw [askFrom]
  split
  · next t hresult =>
    rw [hstep] at hresult
    cases hresult
  · simp [hstep, entriesOf]

/-- **The questions end with the first one that is not answered**: whatever is advertised from an
index on is noted, in its order. -/
theorem askFrom_eq {offers : List MediaType}
    (hoffers : ∀ i, k.advertised? (index + i) e.requested = offers[i]?) :
    askFrom e index =
      ((List.range' index (offers.length + 1)).flatMap fun index =>
        (k.advertisingEvents index e.requested).map .event ++
          (k.advertised? index e.requested).toList.map .prefers, e) := by
  induction offers generalizing index with
  | nil =>
    have hnone : k.advertised? index e.requested = none := hoffers 0
    rw [askFrom_of_none h hnone]
    simp [hnone]
  | cons t offers ih =>
    have hsome : k.advertised? index e.requested = some t := hoffers 0
    have hrest (i : Nat) : k.advertised? (index + 1 + i) e.requested = offers[i]? := by
      rw [Nat.add_assoc, Nat.add_comm 1 i]
      exact hoffers (i + 1)
    have hrange : List.range' index ((t :: offers).length + 1) =
        index :: List.range' (index + 1) (offers.length + 1) := List.range'_succ ..
    rw [askFrom_of_some h hsome, ih hrest, hrange, List.flatMap_cons, hsome]
    simp

end AskFrom

/-! ## Samples -/

/-- A sample of these bytes and times, delivered while the graph is running. -/
def given (payload : ByteArray) (times : SampleTimes) : Delivery :=
  { state := .running, sample := ⟨.answers payload, .answers times⟩ }

/-- What is recorded of a sample that is taken in a format. -/
def taken (format : k.Descriptor) (payload : ByteArray) (times : SampleTimes) : List (Entry k) :=
  let buffer : Buffer k := .package format times payload
  (k.timeEvents times).map .event ++ [.event (.bufferFilled buffer), .received buffer]

/-- An endpoint that has negotiated a format and counted so far, with its lock in order. -/
structure Ready (e : Endpoint k) (format : k.Descriptor) (c : Counters) : Prop where
  actual : e.actual = format
  counters : e.counters = c
  poisoned : e.poisoned = false

/-- The counters after so many more samples that the consumer accepted. -/
def accepted (c : Counters) (samples : Nat) : Counters :=
  { c with delivered := c.delivered + samples, dispatched := c.dispatched + samples }

namespace Ready
variable {e : Endpoint k} {format : k.Descriptor} {c : Counters}

/-- A delivery to a ready endpoint comes down to how its sample is packaged. -/
theorem step_deliver (h : Ready e format c) {d : Delivery} {p : Packaging k}
    (hp : e.slot.package format d = p) :
    e.step (.deliver d) =
      ({ result := p.verdict.result d.reaction, queries := p.queries,
         events := p.record d.reaction, received := p.handed },
        { e with
          slot := p.slot
          counters := c.tally p.verdict d.reaction
          poisoned := p.verdict.unwinds d.reaction }) := by
  obtain ⟨rfl, rfl, hpoisoned⟩ := h
  have hsame := Endpoint.recovered_of_not_poisoned hpoisoned
  rw [e.step_deliver_eq, hsame, e.deliver_eq, hp, Endpoint.recovery, hpoisoned, Bool.false_or]
  rfl

/-- **A sample with bytes in it is taken**, and the endpoint is ready for the next one. -/
theorem take (h : Ready e format c) (hformat : format ≠ k.empty) {payload : ByteArray}
    (hpayload : payload.isEmpty = false) (times : SampleTimes) (rest : Endpoint k → Report k) :
    ∃ next, Ready next format (accepted c 1) ∧
      attempt e (.deliver (given payload times)) rest =
        (rest next).prepend (taken format payload times) := by
  have hpackage : e.slot.package format (given payload times) =
      ⟨.packaged, [.payload, .times], k.timeEvents times,
        ⟨.package format times payload, max e.slot.capacity payload.size⟩⟩ := by
    -- Whatever room the slot has, memory is not refused to a sample that is given here.
    have hrunning : (given payload times).state ≠ .stopped := by simp [given]
    rw [e.slot.package_of_complete format hrunning ⟨rfl, hpayload⟩ rfl, Slot.receive,
      if_neg hformat, Slot.fill_eq, given, Bool.and_false]
    rfl
  have hstep := h.step_deliver hpackage
  have hnext : Ready (e.step (.deliver (given payload times))).2 format (accepted c 1) := by
    rw [hstep]
    exact ⟨h.actual, rfl, rfl⟩
  refine ⟨_, hnext, ?_⟩
  rw [attempt_of_done hstep rfl, hstep]
  simp [entriesOf, taken, Packaging.record, Packaging.handed, given, Reaction.events]

/-- **A stretch of samples with bytes in them is taken one by one.** -/
theorem deliverAll (h : Ready e format c) (hformat : format ≠ k.empty) {payload : ByteArray}
    (hpayload : payload.isEmpty = false) (times : List SampleTimes)
    (rest : Endpoint k → Report k) :
    ∃ next, Ready next format (accepted c times.length) ∧
      Rehearsal.deliverAll e rest (times.map (given payload)) =
        (rest next).prepend (times.flatMap (taken format payload)) := by
  -- Each sample leaves another endpoint with more counted: what carries on is that it is ready.
  induction times generalizing e c with
  | nil => exact ⟨e, h, rfl⟩
  | cons first times ih =>
    obtain ⟨between, hbetween, hfirst⟩ := h.take hformat hpayload first
      fun e => Rehearsal.deliverAll e rest (times.map (given payload))
    obtain ⟨next, hnext, htimes⟩ := ih hbetween
    have hcount : accepted (accepted c 1) times.length = accepted c (first :: times).length := by
      simp only [accepted, List.length_cons, Nat.add_assoc, Nat.add_comm 1]
    rw [hcount] at hnext
    refine ⟨next, hnext, ?_⟩
    rw [List.map_cons, Rehearsal.deliverAll, hfirst, htimes, Report.prepend_prepend,
      List.flatMap_cons]

/-- A sample without bytes in it ends the rehearsal. -/
theorem refuse (h : Ready e format c) {payload : ByteArray} (hpayload : payload.isEmpty = true)
    (times : SampleTimes) (rest : Endpoint k → Report k) :
    attempt e (.deliver (given payload times)) rest =
      ⟨[.event .payloadMissing], some (.sample .emptyPayload)⟩ := by
  have hpackage : e.slot.package format (given payload times) =
      ⟨.failed .emptyPayload, [.payload], [.payloadMissing], e.slot⟩ := by
    rw [Slot.package]
    exact if_pos hpayload
  exact attempt_of_dropped (h.step_deliver hpackage) rfl rest

end Ready

/-! ## Sessions -/

/-- So many samples of the same bytes, each with the times of its index. -/
def stretch (payload : ByteArray) (times : Nat → SampleTimes) (samples : Nat) : List Delivery :=
  (List.range samples).map fun index => given payload (times index)

/-- A session proposes a format and delivers a stretch of samples in it. -/
def session (e : Endpoint k) (t : MediaType) (deliveries : List Delivery)
    (rest : Endpoint k → Report k) : Report k :=
  attempt e (.propose t) fun e => deliverAll e rest deliveries

section Session
variable {e : Endpoint k} {t : MediaType} {payload : ByteArray}

/-- A session ends where its format is rejected. -/
theorem session_of_error (h : e.poisoned = false) {reason : Rejection}
    (hnegotiate : k.negotiate t = .error reason) (deliveries : List Delivery)
    (rest : Endpoint k → Report k) :
    session e t deliveries rest =
      ⟨[.event (.proposalRejected t reason)], some (.call (.rejected reason))⟩ := by
  have hstep := e.step_propose_of_error hnegotiate
  rw [Endpoint.recovery, h] at hstep
  exact attempt_of_failed hstep rfl _

/-- One whose format is accepted makes the endpoint ready for its samples. -/
theorem session_of_ok (h : e.poisoned = false) {format : k.Descriptor}
    (hnegotiate : k.negotiate t = .ok format) (deliveries : List Delivery)
    (rest : Endpoint k → Report k) :
    ∃ next, Ready next format e.counters ∧
      session e t deliveries rest =
        (deliverAll next rest deliveries).prepend [.event (.negotiated format)] := by
  have hstep := e.step_propose_of_ok hnegotiate
  rw [Endpoint.recovery, h] at hstep
  exact ⟨{ e.recovered with actual := format }, ⟨rfl, rfl, rfl⟩, attempt_of_done hstep rfl _⟩

/-- It ends at the first of its samples if there are no bytes in them. -/
theorem session_of_empty (h : e.poisoned = false) {format : k.Descriptor}
    (hnegotiate : k.negotiate t = .ok format) (hpayload : payload.isEmpty = true) {samples : Nat}
    (hsamples : 0 < samples) (times : Nat → SampleTimes) (rest : Endpoint k → Report k) :
    session e t (stretch payload times samples) rest =
      ⟨[.event (.negotiated format), .event .payloadMissing], some (.sample .emptyPayload)⟩ := by
  obtain ⟨next, hready, hsession⟩ :=
    session_of_ok h hnegotiate (stretch payload times samples) rest
  obtain ⟨later, rfl⟩ := Nat.exists_eq_add_one_of_ne_zero (Nat.ne_of_gt hsamples)
  rw [hsession, stretch, List.range_succ_eq_map, List.map_cons, deliverAll, hready.refuse hpayload]
  rfl

/-- **Every sample of a session is taken** if there are bytes in them, or if there is none. -/
theorem session_of_taken (h : e.poisoned = false) {format : k.Descriptor}
    (hnegotiate : k.negotiate t = .ok format) {samples : Nat}
    (hpayload : samples = 0 ∨ payload.isEmpty = false) (times : Nat → SampleTimes)
    (rest : Endpoint k → Report k) :
    ∃ next, Ready next format (accepted e.counters samples) ∧
      session e t (stretch payload times samples) rest =
        (rest next).prepend ([.event (.negotiated format)] ++
          (List.range samples).flatMap fun index => taken format payload (times index)) := by
  have hformat : format ≠ k.empty := (Kind.valid_of_negotiate hnegotiate).ne_empty
  obtain ⟨between, hready, hsession⟩ :=
    session_of_ok h hnegotiate (stretch payload times samples) rest
  obtain ⟨next, hnext, hdeliver⟩ : ∃ next, Ready next format (accepted e.counters samples) ∧
      deliverAll between rest (stretch payload times samples) =
        (rest next).prepend
          ((List.range samples).flatMap fun index => taken format payload (times index)) := by
    obtain rfl | hpayload := hpayload
    · -- Without samples it does not matter that there may be no bytes to put in them.
      exact ⟨between, hready, rfl⟩
    · have hall := hready.deliverAll hformat hpayload ((List.range samples).map times) rest
      rw [List.length_map, List.length_range, List.map_map, List.flatMap_map] at hall
      exact hall
  refine ⟨next, hnext, ?_⟩
  rw [hsession, hdeliver, Report.prepend_prepend]

end Session
end MediaIntake.Rehearsal
