import MediaIntake.Proofs.Endpoint.Poison
/-! # What is recorded

Records are made all over an endpoint, some of them before a step that may still fail.  Yet the
levels of what one call records, in their order, are settled by what becomes of the call
(`Exchange.levels`): a warning for a lock that is recovered, one for an audio sample without a
stop time that gets as far as the buffer, a notice of what is requested, proposed or advertised,
a detail for each buffer and for each late sample, and **one error for whatever else goes
wrong**.  So the records of a run are counted by its exchanges, and those of deliveries by the
counters (`records_accounted`).
-/
namespace MediaIntake
variable {k : Kind}

/-! ## What a record is made of -/

namespace Call

def isProposal : Call k → Bool
  | .propose _ => true
  | _ => false

/-- The question that video answers with the type that it advertises. -/
def isAdvertisement : Call k → Bool
  | .enumerate index => k = .video ∧ index = 0
  | _ => false

/-- A call that something is noted of, however it ends. -/
def isNoted (call : Call k) : Bool :=
  call.configuration?.isSome || call.isProposal || call.isAdvertisement

end Call

/-- The sample tells when it starts, and not when it stops. -/
def Sample.lacksStop (s : Sample) : Bool :=
  match s.times with
  | .answers times => times.stop.isNone
  | _ => false

namespace Exchange

/-- The call took the lock where it was poisoned. -/
def recovers (x : Exchange k) : Bool := x.before.poisoned && x.call.takesLock

/-- The sample came after the graph had stopped. -/
def late (x : Exchange k) : Bool :=
  match x.outcome.result with
  | .dropped (.wrongState _) => true
  | _ => false

/-- The caller was told that nothing was amiss with the sample, though there may have been no memory
for it. -/
def buffered (x : Exchange k) : Bool :=
  match x.outcome.result with
  | .done => true
  | .dropped (.bufferUnavailable _) => true
  | _ => false

/-- An audio sample does not tell when it stops. -/
def lacksStop (x : Exchange k) : Bool :=
  k = .audio && x.call.delivery?.any (·.sample.lacksStop)

/-- An audio sample without a stop time got as far as the buffer, also where its caller was told of
nothing. -/
def untimed (x : Exchange k) : Bool := x.lacksStop && (x.buffered || x.escaped)

/-- The consumer failed, or the sample was dropped for another reason than being late. -/
def faulty (x : Exchange k) : Bool := x.consumerFailed || (x.dropped && !x.late)

/-- The levels of what an exchange records, in their order. -/
def levels (x : Exchange k) : List Level :=
  List.replicate x.recovers.toNat Level.warn ++ List.replicate x.untimed.toNat Level.warn ++
    List.replicate x.call.isNoted.toNat Level.info ++
    List.replicate (x.invoked || x.late).toNat Level.debug ++
    List.replicate x.faulty.toNat Level.error

end Exchange

/-! ## One call -/

theorem Kind.map_level_timeEvents (times : SampleTimes) :
    (k.timeEvents times).map Event.level =
      List.replicate (k = .audio && times.stop.isNone).toNat .warn := by
  cases k with
  | audio => cases h : times.stop <;> simp [Kind.timeEvents, h, Event.level]
  | video => rfl

theorem Kind.map_level_advertisingEvents (index : Nat) (requested : k.Descriptor) :
    (k.advertisingEvents index requested).map Event.level =
      List.replicate (Call.enumerate index : Call k).isAdvertisement.toNat .info := by
  cases k with
  | audio => simp [Kind.advertisingEvents, Call.isAdvertisement]
  | video => cases index <;> simp [Kind.advertisingEvents, Call.isAdvertisement, Event.level]

/-- Nothing is recorded of a sample in the wrong state but that. -/
theorem Slot.Course.record_of_wrongState {s : Slot k} {actual : k.Descriptor} {d : Delivery}
    {p : Packaging k} (h : s.Course actual d p) {state : GraphState}
    (hv : p.verdict = .failed (.wrongState state)) (reaction : Reaction) :
    p.record reaction = [.sampleDropped .stopped] := by
  cases h with
  | stopped => rfl
  | _ => cases hv

theorem Call.takesLock_of_configuration? {call : Call k} {state : GraphState} {d : k.Descriptor}
    (h : call.configuration? = some (state, d)) : call.takesLock = true := by
  obtain rfl | ⟨text, rfl, hr⟩ := eq_of_configuration? h
  · rfl
  · exact takesLock_of_read_ok state hr

namespace Exchange
variable {x : Exchange k}

theorem exists_of_late (h : x.late = true) :
    ∃ state, x.outcome.result = .dropped (.wrongState state) := by
  unfold late at h
  split at h
  · next state hr => exact ⟨state, hr⟩
  · cases h

theorem dropped_of_late (h : x.late = true) : x.dropped = true := by
  obtain ⟨state, hr⟩ := exists_of_late h
  rw [dropped, hr]

end Exchange

namespace Endpoint

theorem map_level_recovery (e : Endpoint k) :
    e.recovery.map Event.level = List.replicate e.poisoned.toNat .warn := by
  cases h : e.poisoned <;> simp [recovery, h, Event.level]

/-- How far a delivered sample got. -/
theorem exchange_deliver_reach (e : Endpoint k) (d : Delivery) :
    let x := e.exchange (.deliver d)
    let verdict := (e.slot.package e.actual d).verdict
    x.late = (verdict matches .failed (.wrongState _)) ∧
      (x.buffered || x.escaped) =
        (verdict matches .packaged | .failed (.bufferUnavailable _)) := by
  have hresult : (e.exchange (.deliver d)).outcome.result =
      (e.slot.package e.actual d).verdict.result d.reaction := by rw [exchange, step_deliver]
  obtain ⟨hescaped, -⟩ := e.exchange_deliver_unwinds d
  dsimp only
  rw [hescaped, Exchange.late, Exchange.buffered, hresult]
  cases (e.slot.package e.actual d).verdict with
  | packaged => cases h : d.reaction.escapes <;> simp [Verdict.result, h]
  | failed error => cases error <;> simp [Verdict.result]
  | unwound => simp [Verdict.result]

/-- What a delivery records. -/
theorem map_level_deliver (e : Endpoint k) (d : Delivery) :
    (e.exchange (.deliver d)).outcome.events.map Event.level =
      (e.exchange (.deliver d)).levels := by
  obtain ⟨-, -, hdropped, -, hinvoked, hfailed⟩ := e.exchange_deliver d
  obtain ⟨hlate, hbuffered⟩ := e.exchange_deliver_reach d
  have hrecovers : (e.exchange (.deliver d)).recovers = e.poisoned := Bool.and_true _
  have huntimed : (e.exchange (.deliver d)).untimed =
      (k = .audio && d.sample.lacksStop &&
        ((e.exchange (.deliver d)).buffered || (e.exchange (.deliver d)).escaped)) := rfl
  have hnoted : (e.exchange (.deliver d)).call.isNoted = false := rfl
  have hevents : (e.exchange (.deliver d)).outcome.events =
      e.recovery ++ (e.slot.package e.actual d).record d.reaction := by rw [exchange, step_deliver]
  rw [hevents, List.map_append, map_level_recovery, Exchange.levels, Exchange.faulty, hrecovers,
    huntimed, hbuffered, hnoted, hinvoked, hlate, hfailed, hdropped]
  have hcourse := e.slot.package_course e.actual d
  generalize e.slot.package e.actual d = p at hcourse ⊢
  cases hcourse with
  | stopped => simp [Packaging.record, Event.level]
  | payloadPanics | timesPanic => simp [Packaging.record]
  | payloadMissing | timesMissing | unconnected => simp [Packaging.record, Event.level]
  | memoryRefused _ _ ht =>
    simp [Packaging.record, Event.level, Kind.map_level_timeEvents, Sample.lacksStop, ht,
      DeliveryError.outOfMemory, -List.replicate_append_replicate]
  | packaged _ _ ht =>
    simp [Packaging.record, Event.level, Kind.map_level_timeEvents, Sample.lacksStop, ht,
      Reaction.map_level_events, -List.replicate_append_replicate]

/-- What a call without a delivery comes to, but for the lock. -/
theorem levels_of_no_delivery (e : Endpoint k) {call : Call k} (h : call.delivery? = none) :
    (e.exchange call).levels = List.replicate (e.poisoned && call.takesLock).toNat Level.warn ++
      List.replicate call.isNoted.toNat Level.info := by
  obtain ⟨-, -, hdropped, -, hinvoked, hfailed⟩ := e.exchange_of_no_delivery h
  have hlate : (e.exchange call).late = false := by
    rw [← Bool.not_eq_true]
    intro hlate
    rw [Exchange.dropped_of_late hlate] at hdropped
    cases hdropped
  have huntimed : (e.exchange call).untimed = false := by
    simp [Exchange.untimed, Exchange.lacksStop, exchange, h]
  rw [Exchange.levels, Exchange.faulty, huntimed, hinvoked, hlate, hfailed, hdropped]
  simp [Exchange.recovers, exchange]

/-- What a call without a delivery records. -/
theorem map_level_of_no_delivery (e : Endpoint k) {call : Call k} (h : call.delivery? = none) :
    (e.exchange call).outcome.events.map Event.level = (e.exchange call).levels := by
  rw [levels_of_no_delivery e h, exchange]
  cases Call.course h with
  | granted hc =>
    simp [e.step_of_granted hc, map_level_recovery, Event.level, Call.isNoted, hc,
      Call.takesLock_of_configuration? hc]
  | refused hs hc =>
    simp [e.step_of_refused hs hc, map_level_recovery, Event.level, Call.isNoted, hc,
      Call.takesLock_of_configuration? hc]
  | unreadable state hr =>
    simp [e.step_configureText_of_error state hr, Call.takesLock_of_read_error state hr,
      Call.isNoted, Call.configuration?_of_error state hr, Call.isProposal, Call.isAdvertisement]
  | accepted hn =>
    simp [e.step_propose_of_ok hn, map_level_recovery, Event.level, Call.isNoted, Call.takesLock,
      Call.isProposal]
  | rejected hn =>
    simp [e.step_propose_of_error hn, map_level_recovery, Event.level, Call.isNoted,
      Call.takesLock, Call.isProposal]
  | enumerate index =>
    simp [map_level_recovery, Kind.map_level_advertisingEvents, Call.isNoted,
      Call.takesLock, Call.configuration?, Call.isProposal]
  | actual | requested | counters | channel =>
    simp [map_level_recovery, Call.isNoted, Call.takesLock,
      Call.configuration?, Call.isProposal, Call.isAdvertisement]

/-- **What a call records is of the levels that its exchange says**, in this order. -/
theorem map_level_exchange (e : Endpoint k) (call : Call k) :
    (e.exchange call).outcome.events.map Event.level = (e.exchange call).levels := by
  cases hc : call.delivery? with
  | none => exact e.map_level_of_no_delivery hc
  | some d =>
    obtain rfl := Call.eq_deliver_of_delivery? hc
    exact e.map_level_deliver d

end Endpoint

/-! ## Runs -/

/-- How many records of a level were made. -/
def recorded (level : Level) (log : List (Exchange k)) : Nat :=
  ((log.flatMap (·.outcome.events)).map Event.level).count level

/-- The records of each level, counted by exchanges. -/
structure Leveled (log : List (Exchange k)) : Prop where
  error : recorded .error log + log.countP (·.late) =
    log.countP (·.consumerFailed) + log.countP (·.dropped)
  warn : recorded .warn log = log.countP (·.recovers) + log.countP (·.untimed)
  info : recorded .info log = log.countP (·.call.configuration?.isSome) +
    log.countP (·.call.isProposal) + log.countP (·.call.isAdvertisement)
  debug : recorded .debug log = log.countP (·.invoked) + log.countP (·.late)
  trace : recorded .trace log = 0

namespace Leveled

theorem nil : Leveled ([] : List (Exchange k)) := ⟨rfl, rfl, rfl, rfl, rfl⟩

theorem append {log log' : List (Exchange k)} (h : Leveled log) (h' : Leveled log') :
    Leveled (log ++ log') := by
  have hrecorded (level : Level) :
      recorded level (log ++ log') = recorded level log + recorded level log' := by
    simp [recorded]
  obtain ⟨herror, hwarn, hinfo, hdebug, htrace⟩ := h
  obtain ⟨herror', hwarn', hinfo', hdebug', htrace'⟩ := h'
  constructor <;> simp only [hrecorded, List.countP_append] <;> omega

end Leveled

theorem Call.toNat_isNoted (call : Call k) :
    call.isNoted.toNat = call.configuration?.isSome.toNat + call.isProposal.toNat +
      call.isAdvertisement.toNat := by
  cases call <;> simp [isNoted, configuration?, isProposal, isAdvertisement]

namespace Exchange
variable {x : Exchange k}

theorem Balanced.dropped_eq_false (hx : x.Balanced) (h : x.invoked = true) :
    x.dropped = false := by
  have hdelivery := hx.delivery
  cases hd : x.dropped with
  | false => rfl
  | true =>
    have hone := Bool.toNat_le x.isDelivery
    rw [h, hd, Bool.toNat_true] at hdelivery
    omega

/-- The consumer is not called with a sample that is late. -/
theorem Balanced.late_eq_false (hx : x.Balanced) (h : x.invoked = true) : x.late = false := by
  rw [← Bool.not_eq_true]
  intro hlate
  have hdropped := dropped_of_late hlate
  rw [hx.dropped_eq_false h] at hdropped
  cases hdropped

/-- Being late is no fault; besides, a fault of the consumer is none of the sample. -/
theorem Balanced.toNat_faulty (hx : x.Balanced) :
    x.faulty.toNat + x.late.toNat = x.consumerFailed.toNat + x.dropped.toNat := by
  cases hf : x.consumerFailed with
  | true =>
    have hinvoked := hx.failed_of_invoked hf
    simp [faulty, hf, hx.dropped_eq_false hinvoked, hx.late_eq_false hinvoked]
  | false =>
    cases hl : x.late with
    | true => simp [faulty, hf, hl, dropped_of_late hl]
    | false => simp [faulty, hf, hl]

theorem Balanced.toNat_invoked_or_late (hx : x.Balanced) :
    (x.invoked || x.late).toNat = x.invoked.toNat + x.late.toNat := by
  cases hi : x.invoked with
  | true => simp [hx.late_eq_false hi]
  | false => simp

end Exchange

namespace Endpoint

theorem recorded_exchange (e : Endpoint k) (call : Call k) (level : Level) :
    recorded level [e.exchange call] = (e.exchange call).levels.count level := by
  rw [← map_level_exchange, recorded, List.flatMap_singleton]

/-- **The records of one exchange.** -/
theorem leveled_exchange (e : Endpoint k) (call : Call k) : Leveled [e.exchange call] := by
  have hcount (p : Exchange k → Bool) :
      [e.exchange call].countP p = (p (e.exchange call)).toNat := by
    simpa using countP_concat p [] (e.exchange call)
  have hbalanced := e.exchange_balanced call
  constructor <;> simp only [recorded_exchange, hcount]
  · simpa [Exchange.levels, List.count_replicate] using hbalanced.toNat_faulty
  · simp [Exchange.levels, List.count_replicate]
  · simpa [Exchange.levels, List.count_replicate] using (e.exchange call).call.toNat_isNoted
  · simpa [Exchange.levels, List.count_replicate] using hbalanced.toNat_invoked_or_late
  · simp [Exchange.levels, List.count_replicate]

theorem leveled_history (calls : List (Call k)) : Leveled (history k calls) := by
  induction calls using List.reverseRecOn with
  | nil => exact .nil
  | append_singleton calls call ih =>
    rw [history_concat]
    exact ih.append (leveled_exchange _ call)

/-- Of a late sample one detail is recorded, and nothing else but the recovery of the lock. -/
theorem events_of_late {e : Endpoint k} {call : Call k} (h : (e.exchange call).late = true) :
    ∃ event : Event k, event.level = .debug ∧
      (e.exchange call).outcome.events = (e.exchange call).before.recovery ++ [event] := by
  cases hc : call.delivery? with
  | none =>
    obtain ⟨-, -, hdropped, -⟩ := e.exchange_of_no_delivery hc
    rw [Exchange.dropped_of_late h] at hdropped
    cases hdropped
  | some d =>
    obtain rfl := Call.eq_deliver_of_delivery? hc
    obtain ⟨state, hresult⟩ := Exchange.exists_of_late h
    have hverdict := (e.step_deliver_dropped_iff d (.wrongState state)).mp hresult
    have hrecord := (e.slot.package_course e.actual d).record_of_wrongState hverdict d.reaction
    refine ⟨.sampleDropped .stopped, rfl, ?_⟩
    rw [exchange, step_deliver, ← hrecord]

/-- Any other sample that is dropped is one error. -/
theorem count_error_of_dropped {e : Endpoint k} {call : Call k}
    (h : (e.exchange call).dropped = true) (hlate : (e.exchange call).late = false) :
    recorded .error [e.exchange call] = 1 := by
  rw [recorded_exchange]
  simp [Exchange.levels, List.count_replicate, Exchange.faulty, h, hlate]

/-- **The records of a run are accounted for**, level by level.  Errors are what the consumer
failed on and what was dropped but for late samples; a detail is recorded of whatever the
consumer was called with, and of late samples; a notice of each request, granted or refused, of
each proposal, accepted or rejected, and of what video advertises; and a warning of each recovery
of the lock, and of each audio sample without a stop time that got as far as the buffer.  Where no
panic of the consumer escapes, the callers of these samples are told that they are done or that
there was no memory for them.  A single record is made of each sample that is dropped, besides these
warnings: a detail if it was late, and an error otherwise. -/
theorem records_accounted (k : Kind) (calls : List (Call k)) :
    let log := history k calls
    let c := (after k calls).counters
    recorded .error log + log.countP (·.late) = c.consumerFailures + c.rejected ∧
    recorded .debug log = c.dispatched + c.consumerFailures + log.countP (·.late) ∧
    recorded .info log = calls.countP (·.configuration?.isSome) + calls.countP (·.isProposal) +
      calls.countP (·.isAdvertisement) ∧
    recorded .warn log = log.countP (·.recovers) + log.countP (·.untimed) ∧
    (Call.Caught calls → recorded .warn log =
      log.countP (·.recovers) + log.countP (fun x => x.lacksStop && x.buffered)) ∧
    recorded .trace log = 0 ∧
    ∀ x ∈ log,
      (x.late = true →
        ∃ event : Event k, event.level = .debug ∧ x.outcome.events = x.before.recovery ++ [event]) ∧
      (x.dropped = true → x.late = false → recorded .error [x] = 1) := by
  obtain ⟨herror, hwarn, hinfo, hdebug, htrace⟩ := leveled_history calls
  have haccounts := accounts_history calls
  rw [countP_call_history (·.configuration?.isSome), countP_call_history (·.isProposal),
    countP_call_history (·.isAdvertisement)] at hinfo
  refine ⟨?_, ?_, hinfo, hwarn, ?_, htrace, ?_⟩
  · rw [herror, haccounts.consumerFailures, haccounts.rejected]
  · rw [hdebug, haccounts.invoked]
  · intro hcaught
    have huntimed : (history k calls).countP (·.untimed) =
        (history k calls).countP (fun x => x.lacksStop && x.buffered) :=
      List.countP_congr fun x hx => by
        rw [Exchange.untimed, escaped_of_caught hcaught x hx, Bool.or_false]
    rw [hwarn, huntimed]
  · exact forall_history (fun e call => ⟨events_of_late, count_error_of_dropped⟩) calls

/-- The consumer fails on audio that has no stop time; then a sample is late, another panics, and a
request is refused while the graph is running. -/
theorem records_of_troubled_run :
    let sample : Sample := ⟨.answers ⟨#[1, 2, 3, 4]⟩, .answers { start := ⟨20000⟩ }⟩
    let calls : List (Call .audio) :=
      [.propose
        { major := some .audio, subtype := some .pcm, formatType := some .waveFormat,
          block := (WaveFormat.pcm 2 48000 16).encode },
       .deliver { state := .running, sample, reaction := .fails ⟨0⟩ },
       .deliver { state := .stopped, sample },
       .deliver { state := .running, sample := { sample with payload := .panics } },
       .configure .running AudioDescriptor.empty]
    let log := history .audio calls
    recorded .error log = 1 ∧ recorded .warn log = 2 ∧ recorded .info log = 2 ∧
    recorded .debug log = 2 ∧ recorded .trace log = 0 ∧
    ∃ x ∈ log, x.late = true ∧ ∃ event : Event .audio,
      event.level = .debug ∧ x.outcome.events = x.before.recovery ++ [event] := by
  intro sample calls log
  obtain ⟨herror, hdebug, hinfo, hwarn, -, htrace, hsingle⟩ := records_accounted .audio calls
  have hcounters : (after .audio calls).counters = ⟨3, 0, 1, 1⟩ := by decide
  have hlate : log.countP (·.late) = 1 := by decide
  rw [hcounters, hlate] at herror hdebug
  obtain ⟨x, hx, hxlate⟩ := List.countP_pos_iff.mp (Nat.lt_of_lt_of_eq Nat.one_pos hlate.symm)
  exact ⟨Nat.add_right_cancel herror, hwarn, hinfo, hdebug, htrace, x, hx, hxlate,
    (hsingle x hx).1 hxlate⟩

/-- A panic that escapes: the warning that an audio sample does not tell when it stops is made
before the consumer is called, and stays though the caller is not told that the sample is done. -/
theorem escaped_panic_recorded :
    let calls : List (Call .audio) :=
      [.propose
        { major := some .audio, subtype := some .pcm, formatType := some .waveFormat,
          block := (WaveFormat.pcm 2 48000 16).encode },
       .deliver
        { state := .running,
          sample := ⟨.answers ⟨#[1, 2, 3, 4]⟩, .answers { start := ⟨20000⟩ }⟩,
          reaction := .panics (.other true) }]
    let log := history .audio calls
    recorded .warn log = 1 ∧ log.countP (·.recovers) = 0 ∧
    log.countP (fun x => x.lacksStop && x.buffered) = 0 := by
  decide

end Endpoint
end MediaIntake
