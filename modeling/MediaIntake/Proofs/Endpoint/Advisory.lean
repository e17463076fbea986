import MediaIntake.Proofs.Endpoint.Poison
/-! # The consumer is advisory

What the consumer does with a buffer is recorded and counted, and goes nowhere else, short of a
panic that escapes.  Take two runs of the same calls, in which only the consumer reacts differently,
and panics escape from the same calls, or from none.  All along the two endpoints hold the same but
for how many of the buffers that the consumer was handed it has accepted (`Endpoint.UpToReaction`),
so corresponding calls have the same results and ask, record and hand over the same
(`Exchange.UpToReaction`): **one error record for each buffer that the consumer failed on is all that
tells the runs apart**, besides the two counts of its reactions.  A panic that escapes from one run
and not from the other shows in more (`escaped_panic_noticed`).
-/
namespace MediaIntake
variable {k : Kind}

/-! ## What a reaction changes -/

/-- The same call, but for what the consumer would do: whatever it is, as long as a panic would
escape from both calls or from neither. -/
inductive Call.UpToReaction : Call k → Call k → Prop where
  | refl (call : Call k) : UpToReaction call call
  | deliver (d : Delivery) (reaction : Reaction) (h : reaction.escapes = d.reaction.escapes) :
    UpToReaction (.deliver d) (.deliver { d with reaction })

/-- The same counts, but for how many of the buffers that it was handed the consumer accepted. -/
structure Counters.UpToReaction (c c' : Counters) : Prop where
  delivered : c.delivered = c'.delivered
  rejected : c.rejected = c'.rejected
  invoked : c.dispatched + c.consumerFailures = c'.dispatched + c'.consumerFailures

/-- The same result; where it tells the counters, the same but for the consumer's reactions. -/
inductive Result.UpToReaction : Result k → Result k → Prop where
  | refl (result : Result k) : UpToReaction result result
  | counters {c c' : Counters} (h : c.UpToReaction c') :
    UpToReaction (.counters c) (.counters c')

/-- The same state, but for how many of the buffers that it was handed the consumer accepted. -/
structure Endpoint.UpToReaction (e e' : Endpoint k) : Prop where
  requested : e.requested = e'.requested
  actual : e.actual = e'.actual
  slot : e.slot = e'.slot
  counters : e.counters.UpToReaction e'.counters
  poisoned : e.poisoned = e'.poisoned

namespace Exchange

/-- The call records these events, and after them one error where the consumer failed. -/
def Records (x : Exchange k) (shared : List (Event k)) : Prop :=
  ∃ complaints, x.outcome.events = shared ++ complaints ∧
    complaints.length = x.consumerFailed.toNat ∧ ∀ event ∈ complaints, event.level = .error

/-- The same exchange, but for what the consumer does. -/
structure UpToReaction (x x' : Exchange k) : Prop where
  call : x.call.UpToReaction x'.call
  result : x.outcome.result.UpToReaction x'.outcome.result
  queries : x.outcome.queries = x'.outcome.queries
  /-- The consumer is called in both or in neither, with the same buffer. -/
  received : x.outcome.received = x'.outcome.received
  events : ∃ shared, x.Records shared ∧ x'.Records shared
  leaves : x.leaves.UpToReaction x'.leaves

end Exchange

/-! ## Counters -/

namespace Counters.UpToReaction
variable {c c' : Counters}

theorem refl (c : Counters) : c.UpToReaction c := ⟨rfl, rfl, rfl⟩

/-- The same counted before does not matter. -/
theorem add_left (h : c.UpToReaction c') (base : Counters) :
    (base.add c).UpToReaction (base.add c') := by
  obtain ⟨hdelivered, hrejected, hinvoked⟩ := h
  constructor <;> dsimp only [Counters.add] <;> omega

/-- A delivery that ends alike is counted alike, however the consumer reacts. -/
theorem tally (h : c.UpToReaction c') (verdict : Verdict) (reaction reaction' : Reaction) :
    (c.tally verdict reaction).UpToReaction (c'.tally verdict reaction') := by
  obtain ⟨hdelivered, hrejected, hinvoked⟩ := h
  have hcount (c : Counters) (reaction : Reaction) :
      (c.count reaction).delivered = c.delivered ∧ (c.count reaction).rejected = c.rejected ∧
      (c.count reaction).dispatched + (c.count reaction).consumerFailures =
        c.dispatched + c.consumerFailures + 1 := by
    cases reaction <;> dsimp only [Counters.count] <;> omega
  cases verdict with
  | packaged =>
    have hc := hcount { c with delivered := c.delivered + 1 } reaction
    have hc' := hcount { c' with delivered := c'.delivered + 1 } reaction'
    constructor <;> dsimp only [Counters.tally] at hc hc' ⊢ <;> omega
  | failed error => constructor <;> dsimp only [Counters.tally] <;> omega
  | unwound => constructor <;> dsimp only [Counters.tally] <;> omega

end Counters.UpToReaction

/-- A result with more counted, the more being alike. -/
theorem Counters.UpToReaction.raised {c c' : Counters} (h : c.UpToReaction c')
    (result : Result k) : (result.raised c).UpToReaction (result.raised c') := by
  cases result with
  | counters base => exact .counters (h.add_left base)
  | done | descriptor | channel | mediaType | failed | dropped | unwound => exact .refl _

/-! ## One call -/

/-- What a reaction records. -/
theorem Reaction.events_spec (reaction : Reaction) :
    (reaction.events : List (Event k)).length = reaction.isFailure.toNat ∧
      ∀ event ∈ (reaction.events : List (Event k)), event.level = .error := by
  have hlevels := reaction.map_level_events (k := k)
  constructor
  · simpa using congrArg List.length hlevels
  · intro event hevent
    have hmem := List.mem_map_of_mem (f := Event.level) hevent
    rw [hlevels] at hmem
    exact List.eq_of_mem_replicate hmem

/-- All that a reaction settles of how a delivery ends is whether a panic escapes. -/
theorem Verdict.result_congr (verdict : Verdict) {reaction reaction' : Reaction}
    (h : reaction.escapes = reaction'.escapes) :
    (verdict.result reaction : Result k) = verdict.result reaction' := by
  cases verdict <;> simp [result, h]

theorem Verdict.unwinds_congr (verdict : Verdict) {reaction reaction' : Reaction}
    (h : reaction.escapes = reaction'.escapes) :
    verdict.unwinds reaction = verdict.unwinds reaction' := by
  cases verdict <;> simp [unwinds, h]

/-- A reaction is recorded last. -/
theorem Packaging.record_eq_append (p : Packaging k) (reaction : Reaction) :
    p.record reaction =
      p.record .accepts ++ if p.verdict = .packaged then reaction.events else [] := by
  obtain ⟨verdict, queries, events, slot⟩ := p
  cases verdict <;> simp [Packaging.record, Reaction.events]

namespace Endpoint

/-- What a delivery records, apart from the reaction of the consumer. -/
theorem exchange_deliver_records (e : Endpoint k) (d : Delivery) :
    (e.exchange (.deliver d)).Records
      (e.recovery ++ (e.slot.package e.actual d).record .accepts) := by
  obtain ⟨-, -, -, -, -, hfailed⟩ := e.exchange_deliver d
  obtain ⟨hlength, hlevel⟩ := d.reaction.events_spec (k := k)
  refine ⟨if (e.slot.package e.actual d).verdict = .packaged then d.reaction.events else [],
    ?_, ?_, ?_⟩
  · rw [exchange, step_deliver]
    dsimp only
    rw [Packaging.record_eq_append, List.append_assoc]
  · rw [hfailed]
    by_cases hv : (e.slot.package e.actual d).verdict = .packaged <;> simp [hv, hlength]
  · split
    · exact hlevel
    · exact List.forall_mem_nil _

/-- The endpoint before anything was counted. -/
def uncounted (e : Endpoint k) : Endpoint k := { e with counters := {} }

theorem raised_uncounted (e : Endpoint k) : e.uncounted.raised e.counters = e := by
  simp [uncounted, raised, Counters.add]

namespace UpToReaction
variable {e e' : Endpoint k}

theorem uncounted_eq (h : e.UpToReaction e') : e.uncounted = e'.uncounted := by
  obtain ⟨hrequested, hactual, hslot, -, hpoisoned⟩ := h
  unfold uncounted
  rw [hrequested, hactual, hslot, hpoisoned]

/-- A delivery, whatever the consumer does in either run short of a panic that escapes. -/
theorem exchange_deliver (h : e.UpToReaction e') (d : Delivery) (reaction : Reaction)
    (hescapes : reaction.escapes = d.reaction.escapes) :
    (e.exchange (.deliver d)).UpToReaction (e'.exchange (.deliver { d with reaction })) := by
  -- the sample is packaged before the consumer is called
  have hpackage : e'.slot.package e'.actual { d with reaction } = e.slot.package e.actual d := by
    rw [← h.slot, ← h.actual]
    rfl
  have hrecovery : e'.recovery = e.recovery := by rw [recovery, recovery, h.poisoned]
  have hrecords := e'.exchange_deliver_records { d with reaction }
  rw [hpackage, hrecovery] at hrecords
  have hstep := e'.step_deliver { d with reaction }
  have hstate := e'.step_deliver_state { d with reaction }
  dsimp only at hstep hstate
  rw [hpackage, Verdict.result_congr _ hescapes] at hstep
  rw [hpackage, Verdict.unwinds_congr _ hescapes] at hstate
  constructor
  · exact .deliver d reaction hescapes
  · rw [exchange, exchange, hstep, step_deliver]
    exact .refl _
  · rw [exchange, exchange, hstep, step_deliver]
  · rw [exchange, exchange, hstep, step_deliver]
  · exact ⟨_, e.exchange_deliver_records d, hrecords⟩
  · rw [Exchange.leaves, Exchange.leaves, exchange, exchange]
    dsimp only
    rw [hstate, step_deliver_state]
    exact ⟨h.requested, h.actual, rfl, h.counters.tally _ _ _, rfl⟩

/-- A call that delivers nothing: only the counters can tell the endpoints apart. -/
theorem exchange_of_no_delivery (h : e.UpToReaction e') {call : Call k}
    (hc : call.delivery? = none) : (e.exchange call).UpToReaction (e'.exchange call) := by
  have hstep : e.step call = ((e.uncounted.step call).1.raised e.counters,
      (e.uncounted.step call).2.raised e.counters) := by
    rw [← step_raised, raised_uncounted]
  have hstep' : e'.step call = ((e.uncounted.step call).1.raised e'.counters,
      (e.uncounted.step call).2.raised e'.counters) := by
    rw [h.uncounted_eq, ← step_raised, raised_uncounted]
  have hquiet (e : Endpoint k) : (e.exchange call).Records (e.step call).1.events := by
    obtain ⟨-, -, -, -, -, hfailed⟩ := e.exchange_of_no_delivery hc
    exact ⟨[], (List.append_nil _).symm, by rw [hfailed]; rfl, List.forall_mem_nil _⟩
  constructor
  · exact .refl call
  · rw [exchange, exchange, hstep, hstep']
    exact h.counters.raised _
  · rw [exchange, exchange, hstep, hstep']
    rfl
  · rw [exchange, exchange, hstep, hstep']
    rfl
  · have hevents : (e'.step call).1.events = (e.step call).1.events := by
      rw [hstep, hstep']
      rfl
    refine ⟨(e.step call).1.events, hquiet e, ?_⟩
    rw [← hevents]
    exact hquiet e'
  · rw [Exchange.leaves, Exchange.leaves, exchange, exchange]
    dsimp only
    rw [hstep, hstep']
    exact ⟨rfl, rfl, rfl, h.counters.add_left _, rfl⟩

/-- **No call tells the endpoints apart but by the counts of reactions.** -/
theorem exchange (h : e.UpToReaction e') {call call' : Call k} (hc : call.UpToReaction call') :
    (e.exchange call).UpToReaction (e'.exchange call') := by
  cases hc with
  | deliver d reaction hescapes => exact h.exchange_deliver d reaction hescapes
  | refl =>
    cases hd : call.delivery? with
    | none => exact h.exchange_of_no_delivery hd
    | some d =>
      obtain rfl := Call.eq_deliver_of_delivery? hd
      exact h.exchange_deliver d d.reaction rfl

end UpToReaction

/-- **The consumer is advisory**, short of a panic that escapes.  Two runs of the same calls, in
which the consumer reacts differently and panics escape from the same calls or from none, are the
same exchange by exchange, but for the counts of its reactions and for one error record wherever it
failed. -/
theorem consumer_advisory {calls calls' : List (Call k)}
    (h : List.Forall₂ Call.UpToReaction calls calls') :
    List.Forall₂ Exchange.UpToReaction (history k calls) (history k calls') := by
  have hinit : (init k).UpToReaction (init k) := ⟨rfl, rfl, rfl, .refl _, rfl⟩
  refine forall₂_exchanges (fun he hc => ?_) hinit h
  exact ⟨he.exchange hc, (he.exchange hc).leaves⟩

/-- In one run the consumer accepts a frame and panics on the next one; in the other it fails on
both, with status zero. -/
theorem failing_consumer_advisory :
    let frame (reaction : Reaction) : Call .video :=
      .deliver
        { state := .running,
          sample := ⟨.answers ⟨#[1, 2, 3]⟩, .answers { start := ⟨20000⟩ }⟩, reaction }
    let calls (first second : Reaction) : List (Call .video) :=
      [.propose (VideoDescriptor.advertised ⟨2, 2⟩), frame first, frame second, .counters]
    let kind := calls .accepts (.panics (.other false))
    let unkind := calls (.fails ⟨0⟩) (.fails ⟨0⟩)
    List.Forall₂ Call.UpToReaction kind unkind ∧
    ((init .video).run kind).1.map (·.result) = [.done, .done, .done, .counters ⟨2, 1, 1, 0⟩] ∧
    ((init .video).run unkind).1.map (·.result) = [.done, .done, .done, .counters ⟨2, 0, 2, 0⟩] ∧
    List.Forall₂ Exchange.UpToReaction (history .video kind) (history .video unkind) := by
  intro frame calls kind unkind
  have hcalls : List.Forall₂ Call.UpToReaction kind unkind :=
    .cons (.refl _) (.cons (.deliver _ _ rfl) (.cons (.deliver _ _ rfl) (.cons (.refl _) .nil)))
  exact ⟨hcalls, by decide, by decide, consumer_advisory hcalls⟩

/-- A consumer that accepts a frame is told apart from one whose panic escapes: by what the caller
of the delivery is told, by the lock, and by what the next call records. -/
theorem escaped_panic_noticed :
    let calls (reaction : Reaction) : List (Call .video) :=
      [.propose (VideoDescriptor.advertised ⟨2, 2⟩),
       .deliver
        { state := .running,
          sample := ⟨.answers ⟨#[1, 2, 3]⟩, .answers { start := ⟨20000⟩ }⟩, reaction },
       .actual]
    let log (reaction : Reaction) := history .video (calls reaction)
    (log .accepts).map (·.outcome.result) =
      [.done, .done, .descriptor (⟨2, 2⟩ : VideoDescriptor)] ∧
    (log (.panics (.other true))).map (·.outcome.result) =
      [.done, .unwound, .descriptor (⟨2, 2⟩ : VideoDescriptor)] ∧
    (log .accepts).map (·.leaves.poisoned) = [false, false, false] ∧
    (log (.panics (.other true))).map (·.leaves.poisoned) = [false, true, false] ∧
    (log .accepts).map (·.outcome.events.count .lockRecovered) = [0, 0, 0] ∧
    (log (.panics (.other true))).map (·.outcome.events.count .lockRecovered) = [0, 0, 1] := by
  decide

end Endpoint
end MediaIntake
