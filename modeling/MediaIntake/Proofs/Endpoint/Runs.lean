import Mathlib.Data.List.Induction
import MediaIntake.Proofs.Endpoint.Deliveries
/-! # Runs of an endpoint

A **run** makes calls one after the other on a fresh endpoint.  What can be said of a run is
said of the state it leads to (`after`) and of its exchanges (`exchanges`): each call together
with the state that it found and the outcome that it had, in the order of the calls.

A call that delivers nothing takes one of a few courses, and the call alone settles which
(`Call.Course`); each has its own equation for `step`.  Only three kinds of calls change more
than the lock: a granted request changes both descriptors (`Call.request?`), an accepted
proposal the actual one (`Call.acceptance?`), and a delivery the reused buffer and the counters
(`Call.delivery?`).  That is proved once, for one call (`step_cases`), and read off field by field
(`step_requested`, `step_actual`, `step_slot`, `step_counters`); whatever holds of runs follows by
induction on the calls.

An exchange tells by itself whether the consumer was called and how the caller was answered.
In whatever state it begins, it is **balanced** (`exchange_balanced`): the consumer is called
for exactly those deliveries that are done, and for those that it unwinds itself, by a panic that
escapes.  Where no panic escapes (`Call.Caught`), these are the deliveries that are done and no
others (`invoked_of_caught`).
-/
namespace MediaIntake
variable {k : Kind}

/-! ## What a call asks for -/

namespace Call

/-- The descriptor that a call puts in the place of the requested one.  The graph has to be
stopped, and a configuration text has to be readable. -/
def request? : Call k → Option k.Descriptor
  | .configure .stopped d => some d
  | .configureText .stopped text => (k.schema.read text).toOption
  | _ => none

/-- The descriptor that a call asks to be put there, granted or not, with the state of the graph
that it tells. -/
def configuration? : Call k → Option (GraphState × k.Descriptor)
  | .configure state d => some (state, d)
  | .configureText state text => (k.schema.read text).toOption.map (state, ·)
  | _ => none

/-- The descriptor of a proposal that passes every rule. -/
def acceptance? : Call k → Option k.Descriptor
  | .propose t => (k.negotiate t).toOption
  | _ => none

/-- The delivery that a call makes. -/
def delivery? : Call k → Option Delivery
  | .deliver d => some d
  | _ => none

/-- Whether the consumer would unwind the call, if it were called. -/
def escapes (call : Call k) : Bool := call.delivery?.any (·.reaction.escapes)

/-- Whatever panics of the consumer there are in these calls, none escapes. -/
def Caught (calls : List (Call k)) : Prop := ∀ call ∈ calls, call.escapes = false

instance (calls : List (Call k)) : Decidable (Caught calls) :=
  inferInstanceAs (Decidable (∀ call ∈ calls, call.escapes = false))

/-- A call that asks for nothing new: a question, or a change that is refused. -/
structure Quiet (call : Call k) : Prop where
  request : call.request? = none
  acceptance : call.acceptance? = none
  delivery : call.delivery? = none

theorem eq_deliver_of_delivery? {call : Call k} {d : Delivery} (h : call.delivery? = some d) :
    call = .deliver d := by
  cases call <;> simp_all [delivery?]

section Configuration
variable {call : Call k} {state : GraphState} {d : k.Descriptor}

/-- A configuration is asked for with a descriptor, or with a text that holds one. -/
theorem eq_of_configuration? (h : call.configuration? = some (state, d)) :
    call = .configure state d ∨
      ∃ text, call = .configureText state text ∧ k.schema.read text = .ok d := by
  cases call with
  | configure =>
    cases h
    exact .inl rfl
  | configureText state text =>
    cases hr : k.schema.read text with
    | ok d =>
      simp only [configuration?, hr] at h
      cases h
      exact .inr ⟨text, rfl, hr⟩
    | error error =>
      simp only [configuration?, hr] at h
      cases h
  | actual | requested | counters | channel | enumerate | propose | deliver => cases h

theorem request?_of_configuration? (h : call.configuration? = some (state, d)) :
    call.request? = if state = .stopped then some d else none := by
  obtain rfl | ⟨text, rfl, hr⟩ := eq_of_configuration? h
  · cases state <;> rfl
  · cases state <;> simp [request?, hr, Except.toOption]

theorem acceptance?_of_configuration? (h : call.configuration? = some (state, d)) :
    call.acceptance? = none := by
  obtain rfl | ⟨text, rfl, -⟩ := eq_of_configuration? h
  · rfl
  · rfl

end Configuration

theorem configuration?_of_error (state : GraphState) {text : String} {error : Json.Error}
    (h : k.schema.read text = .error error) :
    (configureText state text : Call k).configuration? = none := by
  simp [configuration?, h, Except.toOption]

theorem request?_of_error (state : GraphState) {text : String} {error : Json.Error}
    (h : k.schema.read text = .error error) :
    (configureText state text : Call k).request? = none := by
  cases state <;> simp [request?, h, Except.toOption]

theorem acceptance?_of_ok {t : MediaType} {d : k.Descriptor} (h : k.negotiate t = .ok d) :
    (propose t : Call k).acceptance? = some d := by
  simp [acceptance?, h, Except.toOption]

theorem acceptance?_of_error {t : MediaType} {reason : Rejection}
    (h : k.negotiate t = .error reason) : (propose t : Call k).acceptance? = none := by
  simp [acceptance?, h, Except.toOption]

/-- **The courses of a call that delivers nothing.**  Which one it takes is settled by the call,
whatever the endpoint. -/
inductive Course : Call k → Prop where
  | granted {call : Call k} {d : k.Descriptor} (h : call.configuration? = some (.stopped, d)) :
    Course call
  | refused {call : Call k} {state : GraphState} {d : k.Descriptor} (hs : state ≠ .stopped)
    (h : call.configuration? = some (state, d)) : Course call
  | unreadable (state : GraphState) {text : String} {error : Json.Error}
    (h : k.schema.read text = .error error) : Course (.configureText state text)
  | accepted {t : MediaType} {d : k.Descriptor} (h : k.negotiate t = .ok d) : Course (.propose t)
  | rejected {t : MediaType} {reason : Rejection} (h : k.negotiate t = .error reason) :
    Course (.propose t)
  | enumerate (index : Nat) : Course (.enumerate index)
  | actual : Course .actual
  | requested : Course .requested
  | counters : Course .counters
  | channel (index : Nat) : Course (.channel index)

theorem course_of_configuration? {call : Call k} {state : GraphState} {d : k.Descriptor}
    (h : call.configuration? = some (state, d)) : call.Course := by
  by_cases hs : state = .stopped
  · subst hs
    exact .granted h
  · exact .refused hs h

/-- **Every call that delivers nothing takes one of the courses.** -/
theorem course {call : Call k} (h : call.delivery? = none) : call.Course := by
  cases call with
  | deliver => cases h
  | configure state d => exact course_of_configuration? rfl
  | configureText state text =>
    cases hr : k.schema.read text with
    | ok d =>
      have hc : (configureText state text : Call k).configuration? = some (state, d) := by
        simp only [configuration?, hr]
        rfl
      exact course_of_configuration? hc
    | error error => exact .unreadable state hr
  | propose t =>
    cases hn : k.negotiate t with
    | ok d => exact .accepted hn
    | error reason => exact .rejected hn
  | enumerate index => exact .enumerate index
  | actual => exact .actual
  | requested => exact .requested
  | counters => exact .counters
  | channel index => exact .channel index

end Call

/-- Nothing was asked of a sample, handed to the consumer or dropped, and nothing unwound. -/
structure Outcome.Uneventful (o : Outcome k) : Prop where
  queries : o.queries = []
  received : o.received = none
  not_dropped : ∀ error, o.result ≠ .dropped error
  not_unwound : o.result ≠ .unwound

namespace Endpoint

/-! ## The lock -/

/-- The endpoint with its lock in order. -/
def recovered (e : Endpoint k) : Endpoint k := { e with poisoned := false }

/-- What a call that takes the lock records before anything else. -/
def recovery (e : Endpoint k) : List (Event k) := if e.poisoned then [.lockRecovered] else []

@[simp] theorem recovered_requested (e : Endpoint k) : e.recovered.requested = e.requested := rfl

@[simp] theorem recovered_actual (e : Endpoint k) : e.recovered.actual = e.actual := rfl

@[simp] theorem recovered_slot (e : Endpoint k) : e.recovered.slot = e.slot := rfl

@[simp] theorem recovered_counters (e : Endpoint k) : e.recovered.counters = e.counters := rfl

theorem recovered_of_not_poisoned {e : Endpoint k} (h : e.poisoned = false) : e.recovered = e := by
  cases e
  cases h
  rfl

/-- **A call that takes the lock finds it in order**: where it was poisoned there is one more
record, and no other difference. -/
theorem locked_eq (e : Endpoint k) (call : Endpoint k → Outcome k × Endpoint k) :
    e.locked call =
      ({ (call e.recovered).1 with events := e.recovery ++ (call e.recovered).1.events },
        (call e.recovered).2) := by
  cases h : e.poisoned with
  | true => simp [locked, recovered, recovery, h]
  | false => simp [locked, recovery, h, recovered_of_not_poisoned h]

/-! ## One call -/

theorem step_configureText (e : Endpoint k) (state : GraphState) (text : String) :
    e.step (.configureText state text) =
      match k.schema.read text with
      | .ok d => e.step (.configure state d)
      | .error error => ({ result := .failed (.configuration error) }, e) := rfl

/-- A configuration text that can be read is a request for what it holds. -/
theorem step_configureText_of_ok (e : Endpoint k) (state : GraphState) {text : String}
    {d : k.Descriptor} (h : k.schema.read text = .ok d) :
    e.step (.configureText state text) = e.step (.configure state d) := by
  rw [step_configureText, h]

/-- One that cannot be read never gets to the lock: the state is not even recovered. -/
theorem step_configureText_of_error (e : Endpoint k) (state : GraphState) {text : String}
    {error : Json.Error} (h : k.schema.read text = .error error) :
    e.step (.configureText state text) = ({ result := .failed (.configuration error) }, e) := by
  rw [step_configureText, h]

/-- A request comes to the same whether it is made with a descriptor or with a text. -/
theorem step_of_configuration? (e : Endpoint k) {call : Call k} {state : GraphState}
    {d : k.Descriptor} (h : call.configuration? = some (state, d)) :
    e.step call = e.step (.configure state d) := by
  obtain rfl | ⟨text, rfl, hr⟩ := Call.eq_of_configuration? h
  · rfl
  · exact e.step_configureText_of_ok state hr

/-- A request is granted while the graph is stopped. -/
theorem step_of_granted (e : Endpoint k) {call : Call k} {d : k.Descriptor}
    (h : call.configuration? = some (.stopped, d)) :
    e.step call =
      ({ result := .done, events := e.recovery ++ [.requested d] },
        { e.recovered with requested := d, actual := k.empty }) := by
  rw [step_of_configuration? e h]
  exact e.locked_eq (·.configure .stopped d)

/-- A request is refused in every other state of the graph. -/
theorem step_of_refused (e : Endpoint k) {call : Call k} {state : GraphState} {d : k.Descriptor}
    (hs : state ≠ .stopped) (h : call.configuration? = some (state, d)) :
    e.step call =
      ({ result := .failed (.notStopped state),
         events := e.recovery ++ [.reconfigurationRefused state] }, e.recovered) := by
  rw [step_of_configuration? e h]
  cases state with
  | stopped => exact absurd rfl hs
  | transitioning => exact e.locked_eq (·.configure .transitioning d)
  | running => exact e.locked_eq (·.configure .running d)

/-- A proposal that passes every rule is the actual descriptor from then on. -/
theorem step_propose_of_ok (e : Endpoint k) {t : MediaType} {d : k.Descriptor}
    (h : k.negotiate t = .ok d) :
    e.step (.propose t) =
      ({ result := .done, events := e.recovery ++ [.negotiated d] },
        { e.recovered with actual := d }) := by
  have hstep : e.step (.propose t) = _ := e.locked_eq (·.propose t)
  rw [hstep, propose, h]

/-- A proposal that fails a rule is told the first one, and changes nothing. -/
theorem step_propose_of_error (e : Endpoint k) {t : MediaType} {reason : Rejection}
    (h : k.negotiate t = .error reason) :
    e.step (.propose t) =
      ({ result := .failed (.rejected reason),
         events := e.recovery ++ [.proposalRejected t reason] }, e.recovered) := by
  have hstep : e.step (.propose t) = _ := e.locked_eq (·.propose t)
  rw [hstep, propose, h]

@[simp] theorem step_enumerate (e : Endpoint k) (index : Nat) :
    e.step (.enumerate index) =
      ({ result := .mediaType (k.advertised? index e.requested),
         events := e.recovery ++ k.advertisingEvents index e.requested }, e.recovered) :=
  e.locked_eq fun e => (e.enumerate index, e)

/-- What is asked under the lock and changes nothing. -/
theorem locked_answer (e : Endpoint k) (answer : Endpoint k → Result k) :
    e.locked (fun e => ({ result := answer e }, e)) =
      ({ result := answer e.recovered, events := e.recovery }, e.recovered) := by
  rw [locked_eq, List.append_nil]

@[simp] theorem ask_actual (e : Endpoint k) :
    e.step .actual = ({ result := .descriptor e.actual, events := e.recovery }, e.recovered) :=
  e.locked_answer fun e => .descriptor e.actual

@[simp] theorem ask_requested (e : Endpoint k) :
    e.step .requested =
      ({ result := .descriptor e.requested, events := e.recovery }, e.recovered) :=
  e.locked_answer fun e => .descriptor e.requested

@[simp] theorem ask_counters (e : Endpoint k) :
    e.step .counters = ({ result := .counters e.counters, events := e.recovery }, e.recovered) :=
  e.locked_answer fun e => .counters e.counters

@[simp] theorem ask_channel (e : Endpoint k) (index : Nat) :
    e.step (.channel index) =
      ({ result := .channel (channel? k index), events := e.recovery }, e.recovered) :=
  e.locked_answer fun _ => .channel (channel? k index)

/-- A delivery finds the lock in order, too. -/
theorem step_deliver_eq (e : Endpoint k) (d : Delivery) :
    e.step (.deliver d) =
      ({ (e.recovered.deliver d).1 with
         events := e.recovery ++ (e.recovered.deliver d).1.events }, (e.recovered.deliver d).2) :=
  e.locked_eq (·.deliver d)

/-- **What one call can do to the state.** -/
theorem step_cases (e : Endpoint k) (call : Call k) :
    (∃ d, call.request? = some d ∧ call.acceptance? = none ∧ call.delivery? = none ∧
      (e.step call).2 = { e.recovered with requested := d, actual := k.empty }) ∨
    (∃ d, call.request? = none ∧ call.acceptance? = some d ∧ call.delivery? = none ∧
      (e.step call).2 = { e.recovered with actual := d }) ∨
    (∃ d, call = .deliver d ∧ (e.step call).2 = (e.recovered.deliver d).2) ∨
    (call.Quiet ∧ ((e.step call).2 = e.recovered ∨ (e.step call).2 = e)) := by
  cases hd : call.delivery? with
  | some d =>
    obtain rfl := Call.eq_deliver_of_delivery? hd
    exact .inr (.inr (.inl ⟨d, rfl, by rw [step_deliver_eq]⟩))
  | none =>
    cases Call.course hd with
    | @granted _ d h =>
      exact .inl ⟨d, Call.request?_of_configuration? h, Call.acceptance?_of_configuration? h, rfl,
        by rw [e.step_of_granted h]⟩
    | refused hs h =>
      have hr := Call.request?_of_configuration? h
      rw [if_neg hs] at hr
      exact .inr (.inr (.inr ⟨⟨hr, Call.acceptance?_of_configuration? h, hd⟩,
        .inl (by rw [e.step_of_refused hs h])⟩))
    | unreadable state h =>
      exact .inr (.inr (.inr ⟨⟨Call.request?_of_error state h, rfl, hd⟩,
        .inr (by rw [e.step_configureText_of_error state h])⟩))
    | @accepted t d h =>
      exact .inr (.inl ⟨d, rfl, Call.acceptance?_of_ok h, rfl, by rw [e.step_propose_of_ok h]⟩)
    | rejected h =>
      exact .inr (.inr (.inr ⟨⟨rfl, Call.acceptance?_of_error h, hd⟩,
        .inl (by rw [e.step_propose_of_error h])⟩))
    | enumerate | actual | requested | counters | channel =>
      exact .inr (.inr (.inr ⟨⟨rfl, rfl, hd⟩, .inl (by simp)⟩))

/-- A granted request is the requested descriptor from then on. -/
theorem step_requested (e : Endpoint k) (call : Call k) :
    (e.step call).2.requested = call.request?.getD e.requested := by
  obtain ⟨d, hr, -, -, h⟩ | ⟨d, hr, -, -, h⟩ | ⟨d, rfl, h⟩ | ⟨hq, h | h⟩ := e.step_cases call
  · simp [h, hr]
  · simp [h, hr]
  · simp [h, deliver_eq, Call.request?]
  · simp [h, hq.request]
  · simp [h, hq.request]

/-- A granted request clears the actual descriptor, and an accepted proposal replaces it. -/
theorem step_actual (e : Endpoint k) (call : Call k) :
    (e.step call).2.actual =
      if call.request?.isSome then k.empty else call.acceptance?.getD e.actual := by
  obtain ⟨d, hr, -, -, h⟩ | ⟨d, hr, ha, -, h⟩ | ⟨d, rfl, h⟩ | ⟨hq, h | h⟩ := e.step_cases call
  · simp [h, hr]
  · simp [h, hr, ha]
  · simp [h, deliver_eq, Call.request?, Call.acceptance?]
  · simp [h, hq.request, hq.acceptance]
  · simp [h, hq.request, hq.acceptance]

/-- Only deliveries touch the reused buffer. -/
theorem step_slot (e : Endpoint k) (call : Call k) :
    (e.step call).2.slot =
      match call.delivery? with
      | some d => (e.slot.package e.actual d).slot
      | none => e.slot := by
  obtain ⟨d, -, -, hd, h⟩ | ⟨d, -, -, hd, h⟩ | ⟨d, rfl, h⟩ | ⟨hq, h | h⟩ := e.step_cases call
  · simp [h, hd]
  · simp [h, hd]
  · simp [h, deliver_eq, Call.delivery?]
  · simp [h, hq.delivery]
  · simp [h, hq.delivery]

/-- Only deliveries count. -/
theorem step_counters (e : Endpoint k) (call : Call k) :
    (e.step call).2.counters =
      match call.delivery? with
      | some d => e.counters.tally (e.slot.package e.actual d).verdict d.reaction
      | none => e.counters := by
  obtain ⟨d, -, -, hd, h⟩ | ⟨d, -, -, hd, h⟩ | ⟨d, rfl, h⟩ | ⟨hq, h | h⟩ := e.step_cases call
  · simp [h, hd]
  · simp [h, hd]
  · simp [h, deliver_eq, Call.delivery?]
  · simp [h, hq.delivery]
  · simp [h, hq.delivery]

/-- **What can be seen of a delivery**, by the verdict on its sample and the consumer's
reaction. -/
theorem step_deliver (e : Endpoint k) (d : Delivery) :
    let p := e.slot.package e.actual d
    (e.step (.deliver d)).1 =
      { result := p.verdict.result d.reaction, queries := p.queries
        events := e.recovery ++ p.record d.reaction, received := p.handed } := by
  simp only [step_deliver_eq, deliver_eq, recovered_slot, recovered_actual]

/-- The state that a delivery leaves. -/
theorem step_deliver_state (e : Endpoint k) (d : Delivery) :
    let p := e.slot.package e.actual d
    (e.step (.deliver d)).2 =
      { e with
        slot := p.slot
        counters := e.counters.tally p.verdict d.reaction
        poisoned := p.verdict.unwinds d.reaction } := by
  simp only [step_deliver_eq, deliver_eq, recovered_slot, recovered_actual]
  rfl

section
variable (e : Endpoint k) (d : Delivery)

/-- The caller of a delivery is told why its sample failed. -/
theorem step_deliver_dropped_iff (error : DeliveryError) :
    (e.step (.deliver d)).1.result = .dropped error ↔
      (e.slot.package e.actual d).verdict = .failed error := by
  rw [step_deliver]
  exact Verdict.result_eq_dropped_iff

theorem step_deliver_unwound_iff :
    (e.step (.deliver d)).1.result = .unwound ↔
      (e.slot.package e.actual d).verdict.unwinds d.reaction = true := by
  rw [step_deliver]
  exact Verdict.result_eq_unwound_iff

/-- A delivery is done where its sample is packaged and the consumer does not unwind it. -/
theorem step_deliver_done_iff :
    (e.step (.deliver d)).1.result = .done ↔
      (e.slot.package e.actual d).verdict = .packaged ∧ d.reaction.escapes = false := by
  rw [step_deliver]
  exact Verdict.result_eq_done_iff

end

/-- **Only deliveries concern the consumer.** -/
theorem step_of_no_delivery (e : Endpoint k) {call : Call k} (h : call.delivery? = none) :
    (e.step call).1.Uneventful := by
  cases Call.course h with
  | granted hc =>
    rw [e.step_of_granted hc]
    constructor <;> simp
  | refused hs hc =>
    rw [e.step_of_refused hs hc]
    constructor <;> simp
  | unreadable state hr =>
    rw [e.step_configureText_of_error state hr]
    constructor <;> simp
  | accepted hn =>
    rw [e.step_propose_of_ok hn]
    constructor <;> simp
  | rejected hn =>
    rw [e.step_propose_of_error hn]
    constructor <;> simp
  | enumerate | actual | requested | counters | channel => constructor <;> simp

/-- **The caller is told that a change is done exactly where it was granted or accepted.** -/
theorem step_done_iff (e : Endpoint k) {call : Call k} (h : call.delivery? = none) :
    (e.step call).1.result = .done ↔
      call.request?.isSome = true ∨ call.acceptance?.isSome = true := by
  cases Call.course h with
  | granted hc => simp [e.step_of_granted hc, Call.request?_of_configuration? hc]
  | refused hs hc =>
    simp [e.step_of_refused hs hc, Call.request?_of_configuration? hc, hs,
      Call.acceptance?_of_configuration? hc]
  | unreadable state hr =>
    simp [e.step_configureText_of_error state hr, Call.request?_of_error state hr,
      Call.acceptance?]
  | accepted hn => simp [e.step_propose_of_ok hn, Call.acceptance?_of_ok hn]
  | rejected hn =>
    simp [e.step_propose_of_error hn, Call.request?, Call.acceptance?_of_error hn]
  | enumerate | actual | requested | counters | channel =>
    simp [Call.request?, Call.acceptance?]

end Endpoint

/-! ## Runs -/

/-- Whether the consumer fails, with whatever status, or panics. -/
def Reaction.isFailure : Reaction → Bool
  | .accepts => false
  | .fails _ => true
  | .panics _ => true

/-- A failure is recorded as one error. -/
theorem Reaction.map_level_events (reaction : Reaction) :
    (reaction.events : List (Event k)).map Event.level =
      List.replicate reaction.isFailure.toNat .error := by
  cases reaction <;> rfl

/-- One call of a run, with the state that it found and all that could be seen of it. -/
structure Exchange (k : Kind) where
  before : Endpoint k
  call : Call k
  outcome : Outcome k

namespace Exchange

/-- A sample was delivered. -/
def isDelivery (x : Exchange k) : Bool := x.call.delivery?.isSome

/-- A sample was delivered, and the caller was told that this is done. -/
def succeeded (x : Exchange k) : Bool := x.isDelivery && x.outcome.result = .done

/-- The caller was told why a sample did not reach the consumer. -/
def dropped (x : Exchange k) : Bool :=
  match x.outcome.result with
  | .dropped _ => true
  | _ => false

/-- The call did not come back. -/
def unwound (x : Exchange k) : Bool := x.outcome.result = .unwound

/-- The buffer that the consumer was called with. -/
def received? (x : Exchange k) : Option (Buffer k) := x.outcome.received

/-- The consumer was called. -/
def invoked (x : Exchange k) : Bool := x.received?.isSome

/-- The consumer was called, and the call did not come back. -/
def escaped (x : Exchange k) : Bool := x.invoked && x.unwound

/-- The call did not come back, and never got to the consumer. -/
def interrupted (x : Exchange k) : Bool := x.unwound && !x.invoked

/-- The consumer was called, and did not accept what it was handed. -/
def consumerFailed (x : Exchange k) : Bool :=
  x.invoked && x.call.delivery?.any (·.reaction.isFailure)

/-- The consumer is called exactly for the deliveries that are done and for those that it unwinds,
and a delivery that does not get there was dropped or interrupted. -/
structure Balanced (x : Exchange k) : Prop where
  invoked : x.invoked = (x.succeeded || x.escaped)
  escaped : x.escaped = (x.invoked && x.call.escapes)
  failed_of_invoked : x.consumerFailed = true → x.invoked = true
  delivery : x.isDelivery.toNat = x.invoked.toNat + x.dropped.toNat + x.interrupted.toNat

/-- Whatever unwinds a call does it before the consumer is called or after. -/
theorem unwound_eq (x : Exchange k) : x.unwound = (x.interrupted || x.escaped) := by
  unfold interrupted escaped
  cases x.unwound <;> cases x.invoked <;> rfl

/-- A call that came back has not unwound. -/
theorem escaped_of_succeeded {x : Exchange k} (h : x.succeeded = true) : x.escaped = false := by
  obtain ⟨-, hdone⟩ := Bool.and_eq_true_iff.mp h
  have hunwound : x.unwound = false := by
    rw [unwound, of_decide_eq_true hdone]
    rfl
  rw [escaped, hunwound, Bool.and_false]

theorem Balanced.toNat_invoked {x : Exchange k} (hx : x.Balanced) :
    x.invoked.toNat = x.succeeded.toNat + x.escaped.toNat := by
  rw [hx.invoked]
  cases hs : x.succeeded with
  | false => simp
  | true => simp [escaped_of_succeeded hs]

end Exchange

namespace Endpoint

/-- A call as an exchange. -/
def exchange (e : Endpoint k) (call : Call k) : Exchange k := ⟨e, call, (e.step call).1⟩

/-- An exchange without a delivery is nothing that is told of deliveries. -/
theorem exchange_of_no_delivery (e : Endpoint k) {call : Call k} (h : call.delivery? = none) :
    let x := e.exchange call
    x.isDelivery = false ∧ x.succeeded = false ∧ x.dropped = false ∧ x.unwound = false ∧
      x.invoked = false ∧ x.consumerFailed = false := by
  have hu := e.step_of_no_delivery h
  have hd : (e.exchange call).dropped = false := by
    unfold Exchange.dropped
    split
    · next error herror => exact absurd herror (hu.not_dropped error)
    · rfl
  refine ⟨?_, ?_, hd, ?_, ?_, ?_⟩
  · simp [Exchange.isDelivery, exchange, h]
  · simp [Exchange.succeeded, Exchange.isDelivery, exchange, h]
  · simp [Exchange.unwound, exchange, hu.not_unwound]
  · simp [Exchange.invoked, Exchange.received?, exchange, hu.received]
  · simp [Exchange.consumerFailed, exchange, h]

/-- What a delivered sample is asked. -/
theorem queries_deliver (e : Endpoint k) (d : Delivery) :
    (e.exchange (.deliver d)).outcome.queries = (e.slot.package e.actual d).queries := by
  rw [exchange, step_deliver]

/-- **An exchange with a delivery is of the kind that its verdict says**, and the consumer's
reaction where it is called. -/
theorem exchange_deliver (e : Endpoint k) (d : Delivery) :
    let x := e.exchange (.deliver d)
    let verdict := (e.slot.package e.actual d).verdict
    x.isDelivery = true ∧
      x.succeeded = (decide (verdict = .packaged) && !d.reaction.escapes) ∧
      x.dropped = (verdict matches .failed _) ∧ x.unwound = verdict.unwinds d.reaction ∧
      x.invoked = decide (verdict = .packaged) ∧
      x.consumerFailed = (decide (verdict = .packaged) && d.reaction.isFailure) := by
  have ho := e.step_deliver d
  dsimp only at ho ⊢
  -- nothing but the verdict matters from here on, and all that is asked of it is decided by cases
  generalize e.slot.package e.actual d = p at ho ⊢
  obtain ⟨verdict, queries, events, slot⟩ := p
  cases h : d.reaction.escapes <;> cases verdict <;>
    simp [Exchange.isDelivery, Exchange.succeeded, Exchange.dropped, Exchange.unwound,
      Exchange.received?, Exchange.invoked, Exchange.consumerFailed, exchange, ho, h,
      Verdict.result, Verdict.unwinds, Packaging.handed, Call.delivery?]

/-- **What unwinds a delivery is a panic that escapes or a question that is not answered**, as its
verdict says. -/
theorem exchange_deliver_unwinds (e : Endpoint k) (d : Delivery) :
    let x := e.exchange (.deliver d)
    let verdict := (e.slot.package e.actual d).verdict
    x.escaped = (decide (verdict = .packaged) && d.reaction.escapes) ∧
      x.interrupted = decide (verdict = .unwound) := by
  obtain ⟨-, -, -, hu, hi, -⟩ := e.exchange_deliver d
  dsimp only
  rw [Exchange.escaped, Exchange.interrupted, hu, hi]
  cases (e.slot.package e.actual d).verdict with
  | packaged => exact ⟨rfl, Bool.and_false _⟩
  | failed error => exact ⟨rfl, rfl⟩
  | unwound => exact ⟨rfl, rfl⟩

/-- **Every exchange is balanced**, in whatever state the call is made. -/
theorem exchange_balanced (e : Endpoint k) (call : Call k) : (e.exchange call).Balanced := by
  cases hc : call.delivery? with
  | none =>
    obtain ⟨hd, hs, hr, hu, hi, hf⟩ := e.exchange_of_no_delivery hc
    constructor
    · rw [Exchange.escaped, hi, hs]
      rfl
    · rw [Exchange.escaped, hi]
      rfl
    · rw [hf]
      exact nofun
    · rw [Exchange.interrupted, hd, hi, hr, hu]
      rfl
  | some d =>
    obtain rfl := Call.eq_deliver_of_delivery? hc
    obtain ⟨hd, hs, hr, hu, hi, hf⟩ := e.exchange_deliver d
    obtain ⟨he, hn⟩ := e.exchange_deliver_unwinds d
    constructor
    · rw [he, hi, hs, ← Bool.and_or_distrib_left, Bool.not_or_self, Bool.and_true]
    · rw [he, hi]
      rfl
    · rw [hf, hi]
      exact fun h => (Bool.and_eq_true_iff.mp h).1
    · rw [hd, hi, hr, hn]
      cases (e.slot.package e.actual d).verdict <;> rfl

/-- The exchanges of a run, in the order of its calls. -/
def exchanges (e : Endpoint k) : List (Call k) → List (Exchange k)
  | [] => []
  | call :: calls => e.exchange call :: (e.step call).2.exchanges calls

/-- The state that a run leads to. -/
def after (k : Kind) (calls : List (Call k)) : Endpoint k := ((init k).run calls).2

/-- The exchanges of a run on a fresh endpoint. -/
def history (k : Kind) (calls : List (Call k)) : List (Exchange k) := (init k).exchanges calls

theorem map_call_exchanges (e : Endpoint k) (calls : List (Call k)) :
    (e.exchanges calls).map Exchange.call = calls := by
  induction calls generalizing e with
  | nil => rfl
  | cons call calls ih => simp [exchanges, exchange, ih]

theorem map_outcome_exchanges (e : Endpoint k) (calls : List (Call k)) :
    (e.exchanges calls).map Exchange.outcome = (e.run calls).1 := by
  induction calls generalizing e with
  | nil => rfl
  | cons call calls ih => simp [exchanges, exchange, run_cons, ih]

theorem exchanges_append (e : Endpoint k) (before later : List (Call k)) :
    e.exchanges (before ++ later) = e.exchanges before ++ (e.run before).2.exchanges later := by
  induction before generalizing e with
  | nil => rfl
  | cons call calls ih => simp [exchanges, run_cons, ih]

theorem after_append (calls later : List (Call k)) :
    after k (calls ++ later) = ((after k calls).run later).2 := by
  rw [after, run_append]
  rfl

theorem after_concat (calls : List (Call k)) (call : Call k) :
    after k (calls ++ [call]) = ((after k calls).step call).2 := after_append calls [call]

@[simp] theorem history_nil : history k [] = [] := rfl

theorem history_concat (calls : List (Call k)) (call : Call k) :
    history k (calls ++ [call]) = history k calls ++ [(after k calls).exchange call] := by
  simp [history, after, exchanges_append, exchanges]

/-- Whatever holds of every exchange that can begin anywhere holds of those of a run. -/
theorem forall_history {P : Exchange k → Prop} (h : ∀ (e : Endpoint k) call, P (e.exchange call))
    (calls : List (Call k)) : ∀ x ∈ history k calls, P x := by
  induction calls using List.reverseRecOn with
  | nil => simp
  | append_singleton calls call ih =>
    intro x hx
    rw [history_concat, List.mem_append, List.mem_singleton] at hx
    obtain hx | rfl := hx
    · exact ih x hx
    · exact h _ call

theorem mem_of_mem_history {calls : List (Call k)} {x : Exchange k} (h : x ∈ history k calls) :
    x.call ∈ calls := by
  have hcall := List.mem_map_of_mem (f := Exchange.call) h
  rw [history, map_call_exchanges] at hcall
  exact hcall

/-- Where no panic escapes, the consumer unwinds no call. -/
theorem escaped_of_caught {calls : List (Call k)} (h : Call.Caught calls) :
    ∀ x ∈ history k calls, x.escaped = false := by
  intro x hx
  have hbalanced := forall_history exchange_balanced calls x hx
  rw [hbalanced.escaped, h x.call (mem_of_mem_history hx), Bool.and_false]

/-- **Where no panic escapes, the consumer is called for the deliveries that are done and for no
others.** -/
theorem invoked_of_caught {calls : List (Call k)} (h : Call.Caught calls) :
    ∀ x ∈ history k calls, x.invoked = x.succeeded := by
  intro x hx
  have hbalanced := forall_history exchange_balanced calls x hx
  rw [hbalanced.invoked, escaped_of_caught h x hx, Bool.or_false]

/-- A call that unwinds never got to the consumer then. -/
theorem interrupted_of_caught {calls : List (Call k)} (h : Call.Caught calls) :
    ∀ x ∈ history k calls, x.interrupted = x.unwound := by
  intro x hx
  have hescaped := escaped_of_caught h x hx
  unfold Exchange.escaped at hescaped
  unfold Exchange.interrupted
  cases hi : x.invoked with
  | false => exact Bool.and_true _
  | true =>
    rw [hi, Bool.true_and] at hescaped
    rw [hescaped]
    rfl

/-- **Two runs in step.**  Where corresponding calls on related endpoints are related exchanges
and leave the endpoints related, the exchanges of the runs are related one by one. -/
theorem forall₂_exchanges {R : Endpoint k → Endpoint k → Prop} {C : Call k → Call k → Prop}
    {X : Exchange k → Exchange k → Prop}
    (hstep : ∀ {e e' : Endpoint k} {call call' : Call k}, R e e' → C call call' →
      X (e.exchange call) (e'.exchange call') ∧ R (e.step call).2 (e'.step call').2)
    {e e' : Endpoint k} (h : R e e') {calls calls' : List (Call k)}
    (hcalls : List.Forall₂ C calls calls') :
    List.Forall₂ X (e.exchanges calls) (e'.exchanges calls') := by
  induction hcalls generalizing e e' with
  | nil => exact .nil
  | cons hcall _ ih =>
    obtain ⟨hexchange, hnext⟩ := hstep h hcall
    exact .cons hexchange (ih hnext)

end Endpoint
end MediaIntake
