import MediaIntake.Proofs.Endpoint.Insertion
/-! # The poisoned lock

A call unwinds where a question to a delivered sample panics, and else only where the consumer was
called and a panic of it escapes: a panic that is caught for good unwinds nothing.  A call that a
question interrupts leaves the lock poisoned, and all else as it found it, but that one more
delivery is counted (`step_deliver_of_interrupted`).  The next call that takes the lock records that
it was recovered and then does what it would have done (`step_poison`), so **one record is made for
each call that unwound** (`recoveries_history`), and no other trace of an interrupted one is left in
the run (`unwound_delivery_recovered`).
-/
namespace MediaIntake
variable {k : Kind}

/-! ## Calls and the lock -/

/-- Whether a call takes the lock.  Only a configuration text that cannot be read never gets to
it. -/
def Call.takesLock : Call k → Bool
  | .configureText _ text => (k.schema.read text).isOk
  | _ => true

namespace Call

theorem takesLock_of_read_ok (state : GraphState) {text : String} {d : k.Descriptor}
    (h : k.schema.read text = .ok d) : (configureText state text : Call k).takesLock = true := by
  simp [takesLock, h, Except.isOk, Except.toBool]

theorem takesLock_of_read_error (state : GraphState) {text : String} {error : Json.Error}
    (h : k.schema.read text = .error error) :
    (configureText state text : Call k).takesLock = false := by
  simp [takesLock, h, Except.isOk, Except.toBool]

end Call

/-- The outcomes of some calls where the first one that takes the lock finds it poisoned. -/
def Outcome.recoverFirst : List (Call k) → List (Outcome k) → List (Outcome k)
  | call :: calls, o :: outcomes =>
    if call.takesLock then { o with events := .lockRecovered :: o.events } :: outcomes
    else o :: recoverFirst calls outcomes
  | _, outcomes => outcomes

/-- Packaging a sample records nothing of the lock, nor does what comes of it. -/
theorem Slot.Course.lockRecovered_not_mem {s : Slot k} {actual : k.Descriptor} {d : Delivery}
    {p : Packaging k} (h : s.Course actual d p) (reaction : Reaction) :
    Event.lockRecovered ∉ p.record reaction := by
  have htimes (times : SampleTimes) : Event.lockRecovered ∉ k.timeEvents times := by
    cases k with
    | audio => simp [Kind.timeEvents]
    | video => simp [Kind.timeEvents]
  cases h with
  | packaged =>
    cases reaction <;> simp [Packaging.record, Reaction.events, htimes]
  | stopped | payloadPanics | payloadMissing | timesPanic | timesMissing | unconnected
  | memoryRefused => simp [Packaging.record, htimes]

namespace Endpoint

/-- The endpoint with its lock poisoned. -/
def poison (e : Endpoint k) : Endpoint k := { e with poisoned := true }

theorem recovered_poison {e : Endpoint k} (h : e.poisoned = true) : e.recovered.poison = e := by
  cases e
  cases h
  rfl

/-- A call that takes the lock is made under it. -/
theorem exists_locked {call : Call k} (h : call.takesLock = true) :
    ∃ body : Endpoint k → Outcome k × Endpoint k, ∀ e : Endpoint k,
      e.step call = e.locked body := by
  cases call with
  | configureText state text =>
    cases hr : k.schema.read text with
    | ok d => exact ⟨(·.configure state d), fun e => e.step_configureText_of_ok state hr⟩
    | error error =>
      rw [Call.takesLock_of_read_error state hr] at h
      cases h
  | actual | requested | counters | configure | channel | enumerate | propose | deliver =>
    exact ⟨_, fun _ => rfl⟩

/-- A call that never gets to the lock fails, and leaves everything as it was. -/
theorem step_of_not_takesLock {call : Call k} (h : call.takesLock = false) :
    ∃ error, ∀ e : Endpoint k, e.step call = ({ result := .failed (.configuration error) }, e) := by
  cases call with
  | configureText state text =>
    cases hr : k.schema.read text with
    | ok d =>
      rw [Call.takesLock_of_read_ok state hr] at h
      cases h
    | error error => exact ⟨error, fun e => e.step_configureText_of_error state hr⟩
  | actual | requested | counters | configure | channel | enumerate | propose | deliver =>
    cases h

/-- **A call that finds the lock poisoned records that first**, and then does what it would have
done.  One that never gets to the lock leaves it poisoned. -/
theorem step_poison {e : Endpoint k} (he : e.poisoned = false) (call : Call k) :
    e.poison.step call =
      if call.takesLock then
        ({ (e.step call).1 with events := .lockRecovered :: (e.step call).1.events },
          (e.step call).2)
      else ((e.step call).1, e.poison) := by
  cases hc : call.takesLock with
  | true =>
    obtain ⟨body, hbody⟩ := exists_locked hc
    have hrecovered : e.poison.recovered = e.recovered := rfl
    have hrecovery : e.recovery = [] := by simp [recovery, he]
    rw [hbody, hbody, locked_eq, locked_eq, hrecovered, hrecovery]
    rfl
  | false =>
    obtain ⟨error, hstep⟩ := step_of_not_takesLock hc
    rw [hstep, hstep]
    rfl

theorem lockRecovered_not_mem {e : Endpoint k} (he : e.poisoned = false) (call : Call k) :
    Event.lockRecovered ∉ (e.step call).1.events := by
  have hrecovery : e.recovery = [] := by simp [recovery, he]
  cases hd : call.delivery? with
  | some d =>
    obtain rfl := Call.eq_deliver_of_delivery? hd
    rw [step_deliver, hrecovery]
    exact (e.slot.package_course e.actual d).lockRecovered_not_mem d.reaction
  | none =>
    cases Call.course hd with
    | granted hc => simp [e.step_of_granted hc, hrecovery]
    | refused hs hc => simp [e.step_of_refused hs hc, hrecovery]
    | unreadable state hr => simp [e.step_configureText_of_error state hr]
    | accepted hn => simp [e.step_propose_of_ok hn, hrecovery]
    | rejected hn => simp [e.step_propose_of_error hn, hrecovery]
    | enumerate index =>
      rw [step_enumerate, hrecovery]
      cases k with
      | audio => simp [Kind.advertisingEvents]
      | video => cases index <;> simp [Kind.advertisingEvents]
    | actual | requested | counters | channel => simp [hrecovery]

/-- **The lock is recovered once where it was poisoned**, by a call that takes it. -/
theorem count_lockRecovered (e : Endpoint k) (call : Call k) :
    (e.step call).1.events.count .lockRecovered = (e.poisoned && call.takesLock).toNat := by
  cases he : e.poisoned with
  | false =>
    rw [Bool.false_and]
    exact List.count_eq_zero.mpr (lockRecovered_not_mem he call)
  | true =>
    have hnone : (e.recovered.step call).1.events.count .lockRecovered = 0 :=
      List.count_eq_zero.mpr (lockRecovered_not_mem rfl call)
    rw [← recovered_poison he, step_poison rfl]
    cases call.takesLock <;> simp [hnone]

/-- A call that begins with the lock in order leaves it poisoned where it unwinds. -/
theorem step_poisoned_of_not_poisoned {e : Endpoint k} (he : e.poisoned = false)
    (call : Call k) : (e.step call).2.poisoned = (e.exchange call).unwound := by
  cases hc : call.delivery? with
  | some d =>
    obtain rfl := Call.eq_deliver_of_delivery? hc
    obtain ⟨-, -, -, hu, -⟩ := e.exchange_deliver d
    rw [hu, step_deliver_state]
  | none =>
    obtain ⟨-, -, -, hu, -⟩ := e.exchange_of_no_delivery hc
    rw [hu]
    obtain ⟨d, -, -, -, h⟩ | ⟨d, -, -, -, h⟩ | ⟨d, rfl, -⟩ | ⟨-, h | h⟩ := e.step_cases call
    · rw [h]
      rfl
    · rw [h]
      rfl
    · cases hc
    · rw [h]
      rfl
    · rw [h, he]

/-- **The lock is poisoned by a call that unwinds, and put in order by any other that takes
it.** -/
theorem step_poisoned (e : Endpoint k) (call : Call k) :
    (e.step call).2.poisoned =
      if call.takesLock then (e.exchange call).unwound else e.poisoned := by
  cases he : e.poisoned with
  | false =>
    rw [step_poisoned_of_not_poisoned he]
    cases hc : call.takesLock with
    | true => rfl
    | false =>
      obtain ⟨error, hstep⟩ := step_of_not_takesLock hc
      simp [Exchange.unwound, exchange, hstep]
  | true =>
    have hrecovered := step_poisoned_of_not_poisoned (e := e.recovered) rfl call
    rw [← recovered_poison he, exchange, step_poison rfl]
    cases call.takesLock with
    | true => exact hrecovered
    | false => rfl

theorem takesLock_of_unwound {e : Endpoint k} {call : Call k}
    (h : (e.exchange call).unwound = true) : call.takesLock = true := by
  cases hc : call.takesLock with
  | true => rfl
  | false =>
    obtain ⟨error, hstep⟩ := step_of_not_takesLock hc
    simp [Exchange.unwound, exchange, hstep] at h

/-- **The lock is recovered once for each call that unwound**, but for one that nothing has
followed yet. -/
theorem recoveries_history (calls : List (Call k)) :
    ((history k calls).flatMap (·.outcome.events)).count .lockRecovered +
      (after k calls).poisoned.toNat = (history k calls).countP (·.unwound) := by
  induction calls using List.reverseRecOn with
  | nil => rfl
  | append_singleton calls call ih =>
    have hrecovery := (after k calls).count_lockRecovered call
    have hpoisoned := (after k calls).step_poisoned call
    have htakes : ((after k calls).exchange call).unwound = true → call.takesLock = true :=
      takesLock_of_unwound
    rw [history_concat, after_concat, List.flatMap_append, List.count_append,
      countP_concat, ← ih, hpoisoned]
    have hevents : ([(after k calls).exchange call].flatMap (·.outcome.events)).count
        .lockRecovered = ((after k calls).poisoned && call.takesLock).toNat := by
      rw [List.flatMap_singleton]
      exact hrecovery
    rw [hevents]
    cases hc : call.takesLock with
    | true =>
      rw [Bool.and_true]
      exact rfl
    | false =>
      have hu : ((after k calls).exchange call).unwound = false := by
        rw [← Bool.not_eq_true]
        intro h
        rw [htakes h] at hc
        cases hc
      rw [hu, Bool.and_false]
      rfl

/-! ## Runs with the lock poisoned -/

/-- **Only the first call that takes a poisoned lock is different**, by one record. -/
theorem run_poison {e : Endpoint k} (he : e.poisoned = false) (calls : List (Call k)) :
    e.poison.run calls =
      (Outcome.recoverFirst calls (e.run calls).1,
        if calls.any (·.takesLock) then (e.run calls).2 else (e.run calls).2.poison) := by
  induction calls with
  | nil => rfl
  | cons call calls ih =>
    rw [run_cons, run_cons, step_poison he, Outcome.recoverFirst, List.any_cons]
    cases hc : call.takesLock with
    | true => rfl
    | false =>
      -- the call leaves the endpoint as it is, so the rest runs on it with and without poison
      obtain ⟨error, hstep⟩ := step_of_not_takesLock hc
      rw [hstep]
      simp only [Bool.false_eq_true, if_false, Bool.false_or, ih]

/-- The same where more was counted besides. -/
theorem run_raised_poison (extra : Counters) {e : Endpoint k} (he : e.poisoned = false)
    (calls : List (Call k)) :
    (e.raised extra).poison.run calls =
      ((Outcome.recoverFirst calls (e.run calls).1).map (Outcome.raised extra),
        Endpoint.raised extra
          (if calls.any (·.takesLock) then (e.run calls).2 else (e.run calls).2.poison)) := by
  have hraised : (e.raised extra).poison = e.poison.raised extra := rfl
  rw [hraised, run_raised, run_poison he]

/-! ## Deliveries that unwind -/

/-- A delivery that a question interrupts is counted as a delivery, poisons the lock, and does
nothing else. -/
theorem step_deliver_of_interrupted {e : Endpoint k} {d : Delivery}
    (h : (e.exchange (.deliver d)).interrupted = true) :
    (e.step (.deliver d)).2 = (e.raised { delivered := 1 }).poison := by
  have hverdict : (e.slot.package e.actual d).verdict = .unwound := by
    obtain ⟨-, hinterrupted⟩ := e.exchange_deliver_unwinds d
    rw [hinterrupted, decide_eq_true_iff] at h
    exact h
  have hslot := (e.slot.package_course e.actual d).slot_of_unwound hverdict
  rw [step_deliver_state, hslot, hverdict]
  rfl

end Endpoint

namespace Exchange

/-- The state that the call left. -/
def leaves (x : Exchange k) : Endpoint k := (x.before.step x.call).2

/-- Only a question to a delivered sample unwinds a call, or a panic of the consumer that escapes,
and only such a call poisons the lock. -/
structure Contained (x : Exchange k) : Prop where
  interrupted_iff : x.interrupted = true ↔
    ∃ d, x.call = .deliver d ∧ ∃ q ∈ x.outcome.queries, d.sample.panicsAt q = true
  unwound : x.unwound = (x.interrupted || (x.invoked && x.call.escapes))
  /-- The payload is asked for unless the graph is stopped. -/
  payload_asked_iff : ∀ d, x.call = .deliver d →
    (Query.payload ∈ x.outcome.queries ↔ d.state ≠ .stopped)
  /-- The times are asked for once there is a payload with bytes in it. -/
  times_asked_iff : ∀ d, x.call = .deliver d →
    (Query.times ∈ x.outcome.queries ↔
      d.state ≠ .stopped ∧ ∃ payload, d.sample.HasPayload payload)
  /-- A call that gets to the consumer comes back and keeps the lock in order, unless a panic of the
  consumer escapes. -/
  of_invoked : x.invoked = true →
    x.unwound = x.call.escapes ∧ x.leaves.poisoned = x.call.escapes
  poisoned : x.leaves.poisoned =
    if x.call.takesLock then x.unwound else x.before.poisoned
  recoveries : x.outcome.events.count .lockRecovered =
    (x.before.poisoned && x.call.takesLock).toNat

end Exchange

namespace Endpoint

/-- A call that gets to the consumer is a delivery, and comes back unless a panic escapes. -/
theorem unwound_of_invoked {e : Endpoint k} {call : Call k}
    (h : (e.exchange call).invoked = true) :
    call.takesLock = true ∧ (e.exchange call).unwound = call.escapes := by
  cases hc : call.delivery? with
  | none =>
    obtain ⟨-, -, -, -, hi, -⟩ := e.exchange_of_no_delivery hc
    rw [hi] at h
    cases h
  | some d =>
    obtain rfl := Call.eq_deliver_of_delivery? hc
    obtain ⟨-, -, -, hu, hi, -⟩ := e.exchange_deliver d
    rw [hi, decide_eq_true_iff] at h
    rw [hu, h]
    exact ⟨rfl, rfl⟩

/-- **Every call is contained**, in whatever state it is made. -/
theorem exchange_contained (e : Endpoint k) (call : Call k) : (e.exchange call).Contained := by
  refine ⟨e.exchange_interrupted_iff call, ?_, ?_, ?_, ?_, e.step_poisoned call,
    e.count_lockRecovered call⟩
  · rw [Exchange.unwound_eq, (e.exchange_balanced call).escaped]
  · rintro d rfl
    rw [queries_deliver]
    exact (e.slot.package_course e.actual d).payload_mem_queries_iff
  · rintro d rfl
    rw [queries_deliver]
    exact (e.slot.package_course e.actual d).times_mem_queries_iff
  · intro h
    obtain ⟨hc, hu⟩ := unwound_of_invoked h
    refine ⟨hu, ?_⟩
    have hp := e.step_poisoned call
    rw [hc, if_pos rfl, hu] at hp
    exact hp

/-- Where no panic escapes, only questions unwind, and the consumer leaves the lock in order. -/
theorem contained_of_caught {calls : List (Call k)} (h : Call.Caught calls) :
    ∀ x ∈ history k calls,
      (x.unwound = true ↔
        ∃ d, x.call = .deliver d ∧ ∃ q ∈ x.outcome.queries, d.sample.panicsAt q = true) ∧
      (x.invoked = true → x.unwound = false ∧ x.leaves.poisoned = false) := by
  intro x hx
  have hcontained := forall_history exchange_contained calls x hx
  have hcall := h x.call (mem_of_mem_history hx)
  constructor
  · rw [← interrupted_of_caught h x hx]
    exact hcontained.interrupted_iff
  · intro hinvoked
    rw [← hcall]
    exact hcontained.of_invoked hinvoked

/-- **An endpoint recovers from deliveries that unwind.**  In every run only a question to a
delivered sample unwinds a call, or a panic of the consumer that escapes, and the lock is recovered
once for each call that unwound; where no panic escapes, the consumer unwinds nothing and never
poisons the lock.  Put in anywhere in a run where the lock is in order, a delivery that a question
interrupts changes nothing of the other calls but that deliveries read one higher from there on, and
that the first call to take the lock records first that it was recovered; from that call on the
state is as it is without the delivery. -/
theorem unwound_delivery_recovered (k : Kind) :
    (Event.lockRecovered : Event k).level = .warn ∧
    (Event.lockRecovered : Event k).message =
      k.channelName ++ " lock poisoned by a panicking caller, recovering" ∧
    (∀ calls : List (Call k),
      (∀ x ∈ history k calls, x.Contained) ∧
      ((history k calls).flatMap (·.outcome.events)).count .lockRecovered +
        (after k calls).poisoned.toNat = (history k calls).countP (·.unwound) ∧
      (Call.Caught calls → ∀ x ∈ history k calls,
        (x.unwound = true ↔
          ∃ d, x.call = .deliver d ∧ ∃ q ∈ x.outcome.queries, d.sample.panicsAt q = true) ∧
        (x.invoked = true → x.unwound = false ∧ x.leaves.poisoned = false))) ∧
    ∀ (before later : List (Call k)) (d : Delivery), (after k before).poisoned = false →
      ((after k before).exchange (.deliver d)).interrupted = true →
      (let outcomes := ((init k).run (before ++ later)).1
       ((init k).run (before ++ .deliver d :: later)).1 =
         outcomes.take before.length ++ ((after k before).step (.deliver d)).1 ::
           (Outcome.recoverFirst later (outcomes.drop before.length)).map
             (Outcome.raised { delivered := 1 })) ∧
      after k (before ++ .deliver d :: later) =
        (let e := (after k (before ++ later)).raised { delivered := 1 }
         if later.any (·.takesLock) then e else e.poison) := by
  refine ⟨rfl, rfl, ?_, ?_⟩
  · intro calls
    exact ⟨forall_history exchange_contained calls, recoveries_history calls, contained_of_caught⟩
  · intro before later d hlock hinterrupted
    have hrun := run_raised_poison { delivered := 1 } hlock later
    constructor
    · dsimp only
      rw [run_insert, drop_run, step_deliver_of_interrupted hinterrupted, hrun]
    · rw [after_append, run_cons, step_deliver_of_interrupted hinterrupted, hrun, after_append]
      dsimp only
      split <;> rfl

/-- A frame panics when it is asked for its times.  The configuration text after it cannot be
read and never gets to the lock, so the next frame is the one to record the recovery. -/
theorem panicking_frame_recovered :
    let frame : Delivery :=
      { state := .running, sample := ⟨.answers ⟨#[1, 2, 3]⟩, .answers { start := ⟨20000⟩ }⟩ }
    let panicking : Delivery := { frame with sample := { frame.sample with times := .panics } }
    let before : List (Call .video) :=
      [.propose (VideoDescriptor.advertised ⟨2, 2⟩), .deliver frame]
    let later : List (Call .video) := [.configureText .stopped "", .deliver frame, .counters]
    (after .video before).poisoned = false ∧
    ((after .video before).exchange (.deliver panicking)).interrupted = true ∧
    ((init .video).run (before ++ .deliver panicking :: later)).1.map
        (·.events.count .lockRecovered) = [0, 0, 0, 0, 1, 0] ∧
    (let outcomes := ((init .video).run (before ++ later)).1
     ((init .video).run (before ++ .deliver panicking :: later)).1 =
       outcomes.take before.length ++ ((after .video before).step (.deliver panicking)).1 ::
         (Outcome.recoverFirst later (outcomes.drop before.length)).map
           (Outcome.raised { delivered := 1 })) ∧
    after .video (before ++ .deliver panicking :: later) =
      (after .video (before ++ later)).raised { delivered := 1 } := by
  intro frame panicking before later
  have hlock : (after .video before).poisoned = false := by decide
  have hinterrupted : ((after .video before).exchange (.deliver panicking)).interrupted = true := by
    decide
  have hevents : ((init .video).run (before ++ .deliver panicking :: later)).1.map
      (·.events.count .lockRecovered) = [0, 0, 0, 0, 1, 0] := by decide
  obtain ⟨-, -, -, hinsert⟩ := unwound_delivery_recovered .video
  exact ⟨hlock, hinterrupted, hevents, hinsert before later panicking hlock hinterrupted⟩

/-- A panic that escapes: the sample answers all that it is asked, and the consumer unwinds the
delivery and poisons the lock. -/
theorem escaped_panic_poisons :
    let d : Delivery :=
      { state := .running, sample := ⟨.answers ⟨#[1, 2, 3]⟩, .answers { start := ⟨20000⟩ }⟩,
        reaction := .panics (.other true) }
    let x := (after .video [.propose (VideoDescriptor.advertised ⟨2, 2⟩)]).exchange (.deliver d)
    (∀ q ∈ x.outcome.queries, d.sample.panicsAt q = false) ∧
    x.invoked = true ∧ x.unwound = true ∧ x.leaves.poisoned = true := by
  decide

end Endpoint
end MediaIntake
