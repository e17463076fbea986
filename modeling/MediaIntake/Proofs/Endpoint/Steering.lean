import Mathlib.Data.List.Forall2
import MediaIntake.Proofs.Endpoint.Poison
/-! # The requested descriptor steers what is advertised

An endpoint holds two descriptors of the same type side by side, and only one of them has to do
with samples.  Take two runs of the same calls, in which only other descriptors are requested.
All along the two endpoints hold the same but for the requested descriptor
(`Endpoint.UpToRequest`), so they negotiate, package and count alike.  What tells the runs apart
is the answer to whoever asks for that descriptor, **the size of the frames that a video endpoint
advertises**, and what is recorded of either (`Exchange.UpToRequest`).
-/
namespace MediaIntake
variable {k : Kind}

/-! ## What a request changes -/

/-- The same call, but for the descriptor that it asks to be put in the place of the requested
one. -/
inductive Call.UpToRequest : Call k → Call k → Prop where
  | refl (call : Call k) : UpToRequest call call
  | configure {call call' : Call k} {state : GraphState} {d d' : k.Descriptor}
    (h : call.configuration? = some (state, d)) (h' : call'.configuration? = some (state, d')) :
    UpToRequest call call'

/-- The same record, but for the descriptor that is requested, or for the header that a video
endpoint advertises. -/
inductive Event.UpToRequest : Event k → Event k → Prop where
  | refl (event : Event k) : UpToRequest event event
  | requested (d d' : k.Descriptor) : UpToRequest (.requested d) (.requested d')
  | advertised (hk : k = .video) (b b' : BitmapHeader) :
    UpToRequest (.advertised b) (.advertised b')

/-- The same state, but for the requested descriptor. -/
structure Endpoint.UpToRequest (e e' : Endpoint k) : Prop where
  actual : e.actual = e'.actual
  slot : e.slot = e'.slot
  counters : e.counters = e'.counters
  poisoned : e.poisoned = e'.poisoned

/-- The same exchange, but for what depends on the requested descriptor. -/
structure Exchange.UpToRequest (x x' : Exchange k) : Prop where
  call : x.call.UpToRequest x'.call
  result : x.call ≠ .requested → (∀ index, x.call ≠ .enumerate index) →
    x.outcome.result = x'.outcome.result
  /-- Audio advertises the same whatever is requested, and video that there is one type. -/
  advertised : ∀ index, x.call = .enumerate index → k = .audio ∨ 0 < index →
    x.outcome.result = x'.outcome.result
  queries : x.outcome.queries = x'.outcome.queries
  /-- The consumer is called in both or in neither, with the same buffer. -/
  received : x.outcome.received = x'.outcome.received
  events : List.Forall₂ Event.UpToRequest x.outcome.events x'.outcome.events
  leaves : x.leaves.UpToRequest x'.leaves

/-! ## Records -/

namespace Event.UpToRequest

/-- Records that differ in the descriptor only are of one level. -/
theorem level_eq {event event' : Event k} (h : event.UpToRequest event') :
    event.level = event'.level := by
  cases h <;> rfl

theorem map_level_eq {events events' : List (Event k)}
    (h : List.Forall₂ UpToRequest events events') :
    events.map Event.level = events'.map Event.level := by
  induction h with
  | nil => rfl
  | cons hevent _ ih => rw [List.map_cons, List.map_cons, hevent.level_eq, ih]

theorem forall₂_refl (events : List (Event k)) : List.Forall₂ UpToRequest events events :=
  List.forall₂_same.mpr fun event _ => .refl event

/-- What is recorded before does not matter. -/
theorem forall₂_append_left (before : List (Event k)) {events events' : List (Event k)}
    (h : List.Forall₂ UpToRequest events events') :
    List.Forall₂ UpToRequest (before ++ events) (before ++ events') :=
  List.rel_append (forall₂_refl before) h

theorem advertisingEvents (index : Nat) (d d' : k.Descriptor) :
    List.Forall₂ UpToRequest (k.advertisingEvents index d) (k.advertisingEvents index d') := by
  cases k with
  | audio => exact .nil
  | video =>
    cases index with
    | zero => exact .cons (.advertised rfl _ _) .nil
    | succ index => exact .nil

end Event.UpToRequest

/-- Only the first type that video advertises depends on what is requested. -/
theorem Kind.advertised?_eq {index : Nat} (h : k = .audio ∨ 0 < index) (d d' : k.Descriptor) :
    k.advertised? index d = k.advertised? index d' := by
  cases k with
  | audio => rfl
  | video =>
    cases index with
    | zero => simp at h
    | succ index => rfl

/-! ## One call -/

namespace Endpoint

/-- The endpoint with another descriptor requested. -/
def requesting (e : Endpoint k) (d : k.Descriptor) : Endpoint k := { e with requested := d }

/-- **A call that does not ask for the requested descriptor does the same whatever that is.** -/
theorem step_requesting (e : Endpoint k) (d : k.Descriptor) {call : Call k}
    (hrequested : call ≠ .requested) (hadvertised : ∀ index, call ≠ .enumerate index)
    (hnew : call.configuration? = none) :
    (e.requesting d).step call = ((e.step call).1, (e.step call).2.requesting d) := by
  have hrecovered : (e.requesting d).recovered = e.recovered.requesting d := rfl
  have hrecovery : (e.requesting d).recovery = e.recovery := rfl
  cases hd : call.delivery? with
  | some delivery =>
    obtain rfl := Call.eq_deliver_of_delivery? hd
    rw [step_deliver_eq, step_deliver_eq, hrecovered, hrecovery, deliver_eq, deliver_eq]
    rfl
  | none =>
    cases Call.course hd with
    | granted hc | refused _ hc =>
      rw [hc] at hnew
      cases hnew
    | unreadable state hr =>
      rw [step_configureText_of_error _ state hr, step_configureText_of_error _ state hr]
    | accepted hn =>
      rw [step_propose_of_ok _ hn, step_propose_of_ok _ hn]
      rfl
    | rejected hn =>
      rw [step_propose_of_error _ hn, step_propose_of_error _ hn]
      rfl
    | enumerate index => exact absurd rfl (hadvertised index)
    | requested => exact absurd rfl hrequested
    | actual | counters | channel =>
      simp only [ask_actual, ask_counters, ask_channel]
      rfl

namespace UpToRequest
variable {e e' : Endpoint k}

theorem eq_requesting (h : e.UpToRequest e') : e' = e.requesting e'.requested := by
  obtain ⟨hactual, hslot, hcounters, hpoisoned⟩ := h
  unfold requesting
  rw [hactual, hslot, hcounters, hpoisoned]

theorem recovery_eq (h : e.UpToRequest e') : e.recovery = e'.recovery := by
  rw [recovery, recovery, h.poisoned]

theorem recovered (h : e.UpToRequest e') : e.recovered.UpToRequest e'.recovered :=
  ⟨h.actual, h.slot, h.counters, rfl⟩

/-- Two requests in the same state of the graph: both are granted or both are refused. -/
theorem exchange_configure (h : e.UpToRequest e') {call call' : Call k} {state : GraphState}
    {d d' : k.Descriptor} (hc : call.configuration? = some (state, d))
    (hc' : call'.configuration? = some (state, d')) :
    (e.exchange call).UpToRequest (e'.exchange call') := by
  by_cases hs : state = .stopped
  · subst hs
    rw [exchange, exchange, e.step_of_granted hc, e'.step_of_granted hc', h.recovery_eq]
    refine ⟨.configure hc hc', fun _ _ => rfl, fun _ _ _ => rfl, rfl, rfl, ?_, ?_⟩
    · exact Event.UpToRequest.forall₂_append_left _ (.cons (.requested d d') .nil)
    · rw [Exchange.leaves, Exchange.leaves, e.step_of_granted hc, e'.step_of_granted hc']
      exact ⟨rfl, h.slot, h.counters, rfl⟩
  · rw [exchange, exchange, e.step_of_refused hs hc, e'.step_of_refused hs hc', h.recovery_eq]
    refine ⟨.configure hc hc', fun _ _ => rfl, fun _ _ _ => rfl, rfl, rfl, ?_, ?_⟩
    · exact Event.UpToRequest.forall₂_refl _
    · rw [Exchange.leaves, Exchange.leaves, e.step_of_refused hs hc, e'.step_of_refused hs hc']
      exact h.recovered

theorem exchange_enumerate (h : e.UpToRequest e') (index : Nat) :
    (e.exchange (.enumerate index)).UpToRequest (e'.exchange (.enumerate index)) := by
  rw [exchange, exchange, step_enumerate, step_enumerate, h.recovery_eq]
  refine ⟨.refl _, fun _ hne => absurd rfl (hne index), ?_, rfl, rfl, ?_, ?_⟩
  · intro index' hindex hk
    cases hindex
    exact congrArg Result.mediaType (Kind.advertised?_eq hk _ _)
  · exact Event.UpToRequest.forall₂_append_left _ (Event.UpToRequest.advertisingEvents _ _ _)
  · rw [Exchange.leaves, Exchange.leaves, step_enumerate, step_enumerate]
    exact h.recovered

theorem exchange_requested (h : e.UpToRequest e') :
    (e.exchange .requested).UpToRequest (e'.exchange .requested) := by
  rw [exchange, exchange, ask_requested, ask_requested, h.recovery_eq]
  refine ⟨.refl _, fun hne => absurd rfl hne, ?_, rfl, rfl, ?_, ?_⟩
  · intro index hindex
    cases hindex
  · exact Event.UpToRequest.forall₂_refl _
  · rw [Exchange.leaves, Exchange.leaves, ask_requested, ask_requested]
    exact h.recovered

/-- **No call tells the endpoints apart but by the requested descriptor.** -/
theorem exchange (h : e.UpToRequest e') {call call' : Call k} (hc : call.UpToRequest call') :
    (e.exchange call).UpToRequest (e'.exchange call') := by
  cases hc with
  | configure hc hc' => exact h.exchange_configure hc hc'
  | refl =>
    cases hnew : call.configuration? with
    | some request => exact h.exchange_configure hnew hnew
    | none =>
      by_cases hrequested : call = .requested
      · subst hrequested
        exact h.exchange_requested
      by_cases hadvertised : ∃ index, call = .enumerate index
      · obtain ⟨index, rfl⟩ := hadvertised
        exact h.exchange_enumerate index
      have hstep := e.step_requesting e'.requested hrequested (not_exists.mp hadvertised) hnew
      rw [← h.eq_requesting] at hstep
      rw [Endpoint.exchange, Endpoint.exchange, hstep]
      refine ⟨.refl call, fun _ _ => rfl, fun _ _ _ => rfl, rfl, rfl, ?_, ?_⟩
      · exact Event.UpToRequest.forall₂_refl _
      · rw [Exchange.leaves, Exchange.leaves, hstep]
        exact ⟨rfl, rfl, rfl, rfl⟩

end UpToRequest

/-- **The requested descriptor only steers what is advertised.**  Two runs of the same calls, in
which other descriptors are requested in the same states of the graph, are the same exchange by
exchange, but for the answers and the records that are about the requested descriptor; and these
records differ in their texts only. -/
theorem request_only_steers {calls calls' : List (Call k)}
    (h : List.Forall₂ Call.UpToRequest calls calls') :
    List.Forall₂ Exchange.UpToRequest (history k calls) (history k calls') ∧
    ((history k calls).flatMap (·.outcome.events)).map Event.level =
      ((history k calls').flatMap (·.outcome.events)).map Event.level := by
  have hinit : (init k).UpToRequest (init k) := ⟨rfl, rfl, rfl, rfl⟩
  have hlog : List.Forall₂ Exchange.UpToRequest (history k calls) (history k calls') :=
    forall₂_exchanges (fun he hc => ⟨he.exchange hc, (he.exchange hc).leaves⟩) hinit h
  refine ⟨hlog, Event.UpToRequest.map_level_eq ?_⟩
  exact List.rel_flatMap hlog fun _ _ hx => hx.events

/-- One consumer asks for large frames and the other, in a text, for tiny ones; the source connects
with frames of its own choice. -/
theorem smaller_request_same_frames :
    let sample : Sample := ⟨.answers ⟨#[1, 2, 3]⟩, .answers { start := ⟨20000⟩ }⟩
    let calls (request : Call .video) : List (Call .video) :=
      [request, .enumerate 0, .propose (VideoDescriptor.advertised ⟨2, 2⟩),
       .deliver { state := .running, sample }, .actual]
    let large := calls (.configure .stopped (⟨640, 480⟩ : VideoDescriptor))
    let small := calls (.configureText .stopped "[2,1]")
    List.Forall₂ Call.UpToRequest large small ∧
    (after .video large).requested = (⟨640, 480⟩ : VideoDescriptor) ∧
    (after .video small).requested = (⟨2, 1⟩ : VideoDescriptor) ∧
    (after .video small).counters = ⟨1, 1, 0, 0⟩ ∧
    List.Forall₂ Exchange.UpToRequest (history .video large) (history .video small) := by
  intro sample calls large small
  have htext : (Call.configureText .stopped "[2,1]" : Call .video).configuration? =
      some (.stopped, (⟨2, 1⟩ : VideoDescriptor)) := by decide
  have hcalls : List.Forall₂ Call.UpToRequest large small :=
    .cons (.configure rfl htext) (List.forall₂_same.mpr fun call _ => .refl call)
  exact ⟨hcalls, by decide, by decide, by decide, (request_only_steers hcalls).1⟩

end Endpoint
end MediaIntake
