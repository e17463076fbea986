import MediaIntake.Proofs.Endpoint.Accounts
import MediaIntake.Proofs.Endpoint.ReusedBuffer
/-! # Deliveries that fail

A delivery that fails may leave the buffer half changed.  What it leaves is still **alike** to
what it found (`Alike`): the two endpoints have the same descriptors and the same lock, their
buffers have the same memory, and only their counters differ.  No call tells alike endpoints
apart but by reading the counters, and it leaves them alike (`Alike.step`).  So a delivery that
fails can be put in anywhere in a run, or taken out, and **nothing else of the run changes**
(`dropped_delivery_invisible`).
-/
namespace MediaIntake
variable {k : Kind}

/-! ## Higher counts -/

/-- The result, with more counted wherever it tells the counters. -/
def Result.raised (extra : Counters) : Result k → Result k
  | .counters c => .counters (c.add extra)
  | result => result

/-- The outcome, with more counted wherever it tells the counters. -/
def Outcome.raised (extra : Counters) (o : Outcome k) : Outcome k :=
  { o with result := o.result.raised extra }

/-- What the caller of a delivery is told are no counters. -/
theorem Verdict.raised_result (extra : Counters) (verdict : Verdict) (reaction : Reaction) :
    (verdict.result reaction : Result k).raised extra = verdict.result reaction := by
  cases verdict with
  | packaged => cases h : reaction.escapes <;> simp [result, h, Result.raised]
  | failed | unwound => rfl

/-- What a delivery adds to the counters is the same wherever they stand. -/
theorem Counters.tally_add (c extra : Counters) (verdict : Verdict) (reaction : Reaction) :
    (c.add extra).tally verdict reaction = (c.tally verdict reaction).add extra := by
  cases verdict with
  | packaged => cases reaction <;> simp [tally, count, add, Nat.add_right_comm]
  | failed error => simp [tally, add, Nat.add_right_comm]
  | unwound => simp [tally, add, Nat.add_right_comm]

namespace Endpoint

/-- The endpoint with more counted. -/
def raised (extra : Counters) (e : Endpoint k) : Endpoint k :=
  { e with counters := e.counters.add extra }

theorem deliver_raised (extra : Counters) (e : Endpoint k) (d : Delivery) :
    (e.raised extra).deliver d = ((e.deliver d).1.raised extra, (e.deliver d).2.raised extra) := by
  have hslot : (e.raised extra).slot = e.slot := rfl
  have hactual : (e.raised extra).actual = e.actual := rfl
  have hcounters : (e.raised extra).counters = e.counters.add extra := rfl
  simp only [deliver_eq, hslot, hactual, hcounters, Counters.tally_add, Outcome.raised,
    Verdict.raised_result]
  rfl

/-- **A call does nothing else where more was counted before it.** -/
theorem step_raised (extra : Counters) (e : Endpoint k) (call : Call k) :
    (e.raised extra).step call =
      ((e.step call).1.raised extra, (e.step call).2.raised extra) := by
  have hrecovered : (e.raised extra).recovered = e.recovered.raised extra := rfl
  have hrecovery : (e.raised extra).recovery = e.recovery := rfl
  cases hd : call.delivery? with
  | some d =>
    obtain rfl := Call.eq_deliver_of_delivery? hd
    rw [step_deliver_eq, step_deliver_eq, hrecovered, hrecovery, deliver_raised]
    rfl
  | none =>
    cases Call.course hd with
    | granted hc =>
      rw [step_of_granted _ hc, step_of_granted _ hc]
      rfl
    | refused hs hc =>
      rw [step_of_refused _ hs hc, step_of_refused _ hs hc]
      rfl
    | unreadable state hr =>
      rw [step_configureText_of_error _ state hr, step_configureText_of_error _ state hr]
      rfl
    | accepted hn =>
      rw [step_propose_of_ok _ hn, step_propose_of_ok _ hn]
      rfl
    | rejected hn =>
      rw [step_propose_of_error _ hn, step_propose_of_error _ hn]
      rfl
    | enumerate | actual | requested | counters | channel =>
      simp only [step_enumerate, ask_actual, ask_requested, ask_counters, ask_channel]
      rfl

theorem run_raised (extra : Counters) (e : Endpoint k) (calls : List (Call k)) :
    (e.raised extra).run calls =
      ((e.run calls).1.map (Outcome.raised extra), (e.run calls).2.raised extra) := by
  induction calls generalizing e with
  | nil => rfl
  | cons call calls ih =>
    rw [run_cons, run_cons, step_raised, ih]
    rfl

/-! ## Alike endpoints -/

/-- The second endpoint is the first, but for what its buffer holds and for what it has counted
more. -/
structure Alike (extra : Counters) (e e' : Endpoint k) : Prop where
  requested : e'.requested = e.requested
  actual : e'.actual = e.actual
  counters : e'.counters = e.counters.add extra
  poisoned : e'.poisoned = e.poisoned
  capacity : e'.slot.capacity = e.slot.capacity

namespace Alike
variable {extra : Counters} {e e' : Endpoint k}

theorem eq_raised (h : Alike extra e e') : e' = (e.withSlot e'.slot).raised extra := by
  obtain ⟨hrequested, hactual, hcounters, hpoisoned, -⟩ := h
  cases e'
  cases hrequested
  cases hactual
  cases hcounters
  cases hpoisoned
  rfl

/-- **No call tells alike endpoints apart but by their counters**, and it leaves them alike. -/
theorem step (h : Alike extra e e') (call : Call k) :
    (e'.step call).1 = (e.step call).1.raised extra ∧
      Alike extra (e.step call).2 (e'.step call).2 := by
  obtain ⟨s, hs, hstep⟩ := e.step_withSlot h.capacity.symm call
  rw [h.eq_raised, step_raised, hstep]
  exact ⟨rfl, rfl, rfl, rfl, rfl, hs.symm⟩

theorem run (h : Alike extra e e') (calls : List (Call k)) :
    (e'.run calls).1 = (e.run calls).1.map (Outcome.raised extra) ∧
      Alike extra (e.run calls).2 (e'.run calls).2 := by
  induction calls generalizing e e' with
  | nil => exact ⟨rfl, h⟩
  | cons call calls ih =>
    obtain ⟨houtcome, hnext⟩ := h.step call
    obtain ⟨houtcomes, hlast⟩ := ih hnext
    rw [run_cons, run_cons, houtcome, houtcomes]
    exact ⟨rfl, hlast⟩

end Alike

/-! ## One call more -/

theorem length_run (e : Endpoint k) (calls : List (Call k)) :
    (e.run calls).1.length = calls.length := by
  induction calls generalizing e with
  | nil => rfl
  | cons call calls ih => rw [run_cons, List.length_cons, List.length_cons, ih]

/-- The outcomes of a run up to some point. -/
theorem take_run (before later : List (Call k)) :
    ((init k).run (before ++ later)).1.take before.length = ((init k).run before).1 := by
  rw [run_append, List.take_left' (length_run _ _)]

/-- The outcomes of a run from some point on. -/
theorem drop_run (before later : List (Call k)) :
    ((init k).run (before ++ later)).1.drop before.length = ((after k before).run later).1 := by
  rw [run_append, List.drop_left' (length_run _ _)]
  rfl

/-- **A run with one call more**: up to that call it is the run without it. -/
theorem run_insert (before later : List (Call k)) (call : Call k) :
    ((init k).run (before ++ call :: later)).1 =
      ((init k).run (before ++ later)).1.take before.length ++
        ((after k before).step call).1 :: (((after k before).step call).2.run later).1 := by
  rw [take_run, run_append, run_cons]
  rfl

/-- A call that leaves an endpoint alike is never seen again. -/
theorem Alike.insert {extra : Counters} {before : List (Call k)} {call : Call k}
    (h : Alike extra (after k before) ((after k before).step call).2) (later : List (Call k)) :
    (let outcomes := ((init k).run (before ++ later)).1
     ((init k).run (before ++ call :: later)).1 =
       outcomes.take before.length ++ ((after k before).step call).1 ::
         (outcomes.drop before.length).map (Outcome.raised extra)) ∧
    Alike extra (after k (before ++ later)) (after k (before ++ call :: later)) := by
  obtain ⟨houtcomes, hlast⟩ := h.run later
  constructor
  · dsimp only
    rw [run_insert, drop_run, houtcomes]
  · rw [after_append, after_append, run_cons]
    exact hlast

/-! ## Deliveries that fail -/

/-- A delivery that fails adds to two counters, and takes no memory from the buffer. -/
theorem alike_of_dropped {e : Endpoint k} {d : Delivery} {error : DeliveryError}
    (hlock : e.poisoned = false) (h : (e.step (.deliver d)).1.result = .dropped error) :
    Alike { delivered := 1, rejected := 1 } e (e.step (.deliver d)).2 := by
  have hverdict := (e.step_deliver_dropped_iff d error).mp h
  have hcapacity := (e.slot.package_course e.actual d).capacity_of_failed hverdict
  rw [step_deliver_state, hverdict]
  exact ⟨rfl, rfl, rfl, hlock.symm, hcapacity⟩

/-- **A delivery that fails is not seen again.**  Put in anywhere in a run where the lock is in
order, and however it fails, it changes no result, question, event or buffer of another call,
but that deliveries and rejections read one higher from there on; and it leaves the descriptors,
the lock and the memory of the buffer as they are without it. -/
theorem dropped_delivery_invisible (before later : List (Call k)) (d : Delivery)
    (error : DeliveryError) (hlock : (after k before).poisoned = false)
    (hdropped : ((after k before).step (.deliver d)).1.result = .dropped error) :
    (let outcomes := ((init k).run (before ++ later)).1
     ((init k).run (before ++ .deliver d :: later)).1 =
       outcomes.take before.length ++ ((after k before).step (.deliver d)).1 ::
         (outcomes.drop before.length).map (Outcome.raised { delivered := 1, rejected := 1 })) ∧
    Alike { delivered := 1, rejected := 1 } (after k (before ++ later))
      (after k (before ++ .deliver d :: later)) :=
  (alike_of_dropped hlock hdropped).insert later

/-- A long frame is refused between a shorter one that is taken and one that is refused too. -/
theorem refused_frame_invisible :
    let frame (payload : List UInt8) : Delivery :=
      { state := .running,
        sample := ⟨.answers ⟨payload.toArray⟩, .answers { start := ⟨20000⟩ }⟩ }
    let refused (payload : List UInt8) : Delivery := { frame payload with memoryRefused := true }
    let before : List (Call .video) :=
      [.propose (VideoDescriptor.advertised ⟨2, 2⟩), .deliver (frame [1, 2, 3])]
    let later : List (Call .video) :=
      [.deliver (refused [9, 8]), .deliver (refused [1, 2, 3, 4]), .counters]
    let call : Call .video := .deliver (refused [1, 2, 3, 4, 5])
    (after .video before).poisoned = false ∧
    ((after .video before).step call).1.result = .dropped .outOfMemory ∧
    ((init .video).run (before ++ later)).1.map (·.result) =
      [.done, .done, .done, .dropped .outOfMemory, .counters ⟨3, 2, 0, 1⟩] ∧
    (let outcomes := ((init .video).run (before ++ later)).1
     ((init .video).run (before ++ call :: later)).1 =
       outcomes.take before.length ++ ((after .video before).step call).1 ::
         (outcomes.drop before.length).map
           (Outcome.raised { delivered := 1, rejected := 1 })) ∧
    Alike { delivered := 1, rejected := 1 } (after .video (before ++ later))
      (after .video (before ++ call :: later)) := by
  intro frame refused before later call
  have hlock : (after .video before).poisoned = false := by decide
  have hdropped : ((after .video before).step call).1.result = .dropped .outOfMemory := by decide
  have hresults : ((init .video).run (before ++ later)).1.map (·.result) =
      [.done, .done, .done, .dropped .outOfMemory, .counters ⟨3, 2, 0, 1⟩] := by decide
  exact ⟨hlock, hdropped, hresults,
    dropped_delivery_invisible before later (refused [1, 2, 3, 4, 5]) _ hlock hdropped⟩

end Endpoint
end MediaIntake
