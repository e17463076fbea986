import MediaIntake.Proofs.Endpoint.Receipts
/-! # When memory is asked for

The reused buffer has memory for the longest payload that was ever copied into it: every call adds
to it what it hands over (`step_capacity_lt_iff`), and neither a delivery that fails nor one that is
interrupted, neither a request nor a proposal takes anything away (`capacity_lt_iff`).  So memory is
asked for **exactly where a payload is longer than all before it**, and only then does it matter
that it is refused.  A delivery from which a panic of the consumer escapes has been copied before
that (`escaped_panic_copied`).
-/
namespace MediaIntake
variable {k : Kind}

namespace Slot

/-- A sample that passes the checks on itself is received. -/
theorem package_of_complete (s : Slot k) (actual : k.Descriptor) {d : Delivery}
    {payload : ByteArray} {times : SampleTimes} (hstate : d.state ≠ .stopped)
    (hp : d.sample.HasPayload payload) (ht : d.sample.times = .answers times) :
    s.package actual d = s.receive actual times payload d.memoryRefused := by
  have haccepts : ¬ (!d.state.acceptsSamples) = true := by
    simp [GraphState.acceptsSamples, hstate]
  rw [package, if_neg haccepts, hp.1]
  dsimp only
  rw [if_neg (ne_true_of_eq_false hp.2), ht]

/-- With a format, only memory can be missing. -/
theorem verdict_receive (s : Slot k) {actual : k.Descriptor} (hactual : actual ≠ k.empty)
    (times : SampleTimes) (payload : ByteArray) (memoryRefused : Bool) :
    (s.receive actual times payload memoryRefused).verdict =
      if s.needsMemory payload && memoryRefused then .failed .outOfMemory else .packaged := by
  rw [receive, if_neg hactual, fill_eq]
  cases s.needsMemory payload && memoryRefused with
  | true => rfl
  | false => rfl

/-- A sample that passes the other checks fails where it needs memory that is refused. -/
theorem verdict_of_complete (s : Slot k) {actual : k.Descriptor} {d : Delivery}
    {payload : ByteArray} {times : SampleTimes} (hstate : d.state ≠ .stopped)
    (hp : d.sample.HasPayload payload) (ht : d.sample.times = .answers times)
    (hactual : actual ≠ k.empty) :
    (s.package actual d).verdict =
      if s.needsMemory payload && d.memoryRefused then .failed .outOfMemory else .packaged := by
  rw [s.package_of_complete actual hstate hp ht, s.verdict_receive hactual]

end Slot

namespace Endpoint

/-- **One call adds to the memory what it hands over.** -/
theorem step_capacity_lt_iff (e : Endpoint k) (call : Call k) (n : Nat) :
    (e.step call).2.slot.capacity < n ↔
      e.slot.capacity < n ∧ ∀ r ∈ (e.exchange call).receipt?.toList, r.payload.size < n := by
  cases e.handover call with
  | received hreceipt _ _ _ hcapacity =>
    rw [hcapacity, hreceipt, Option.toList_some, List.forall_mem_singleton]
    exact Nat.max_lt
  | nothing hreceipt _ _ hcapacity =>
    rw [hcapacity, hreceipt, Option.toList_none]
    exact (and_iff_left (List.forall_mem_nil _)).symm

/-- **The memory is that of the longest payload so far**, and none before there was one. -/
theorem capacity_lt_iff (calls : List (Call k)) (n : Nat) :
    (after k calls).slot.capacity < n ↔
      0 < n ∧ ∀ r ∈ receipts k calls, r.payload.size < n := by
  induction calls using List.reverseRecOn with
  | nil => exact (and_iff_left (List.forall_mem_nil _)).symm
  | append_singleton calls call ih =>
    rw [after_concat, step_capacity_lt_iff, ih, receipts_concat, List.forall_mem_append, and_assoc]

/-- A payload takes more memory than there is where it is longer than all before it. -/
theorem needsMemory_iff (calls : List (Call k)) {payload : ByteArray}
    (h : payload.isEmpty = false) :
    (after k calls).slot.needsMemory payload = true ↔
      ∀ r ∈ receipts k calls, r.payload.size < payload.size := by
  have hpos : 0 < payload.size := by
    rw [ByteArray.isEmpty, beq_eq_false_iff_ne] at h
    exact Nat.pos_of_ne_zero h
  rw [Slot.needsMemory, decide_eq_true_iff, capacity_lt_iff, and_iff_right hpos]

/-- **Memory is asked for exactly where a payload is longer than all before it.**  In every run, a
sample that passes all other checks needs memory exactly if its payload is longer than every
payload that was copied, and these are the payloads of the deliveries that the consumer was called
for.  Then it is dropped if memory is refused; in every other case it is done, unless a panic of the
consumer escapes.  Where none does, the payloads that were copied are those of the deliveries that
were done and no others. -/
theorem memory_asked_iff (calls : List (Call k)) (d : Delivery) {payload : ByteArray}
    {times : SampleTimes} (hstate : d.state ≠ .stopped) (hp : d.sample.HasPayload payload)
    (ht : d.sample.times = .answers times) (hactual : (after k calls).actual ≠ k.empty) :
    let e := after k calls
    let isLongest := ∀ r ∈ receipts k calls, r.payload.size < payload.size
    (e.slot.needsMemory payload = true ↔ isLongest) ∧
    ((e.step (.deliver d)).1.result = .dropped .outOfMemory ↔
      d.memoryRefused = true ∧ isLongest) ∧
    ((e.step (.deliver d)).1.result = .done ↔
      ¬ (d.memoryRefused = true ∧ isLongest) ∧ d.reaction.escapes = false) ∧
    (∀ x ∈ history k calls, x.receipt?.isSome = x.invoked) ∧
    (Call.Caught calls → ∀ x ∈ history k calls, x.receipt?.isSome = x.succeeded) := by
  intro e isLongest
  have hneeds : e.slot.needsMemory payload = true ↔ isLongest := needsMemory_iff calls hp.2
  have hmissing : (e.slot.needsMemory payload && d.memoryRefused) = true ↔
      d.memoryRefused = true ∧ isLongest := by
    rw [Bool.and_eq_true, hneeds, and_comm]
  have hverdict := e.slot.verdict_of_complete hstate hp ht hactual
  refine ⟨hneeds, ?_, ?_, isSome_receipt? calls, ?_⟩
  · rw [step_deliver_dropped_iff, hverdict, ← hmissing]
    split
    · next hm => exact iff_of_true rfl hm
    · next hm => simp [hm]
  · rw [step_deliver_done_iff, hverdict, ← hmissing]
    refine and_congr_left fun _ => ?_
    split
    · next hm => simp [hm]
    · next hm => exact iff_of_true rfl hm
  · intro hcaught x hx
    rw [isSome_receipt? calls x hx, invoked_of_caught hcaught x hx]

/-- Three bytes are copied, five are refused, and four are asked for their times in vain; then the
size of the frames is negotiated again.  Four bytes need memory for all that, and three do not. -/
theorem memory_asked_for_four_bytes :
    let frame (payload : List UInt8) : Delivery :=
      { state := .running,
        sample := ⟨.answers ⟨payload.toArray⟩, .answers { start := ⟨20000⟩ }⟩ }
    let refused (payload : List UInt8) : Delivery := { frame payload with memoryRefused := true }
    let panicking : Delivery := { state := .running, sample := ⟨.answers ⟨#[1, 2, 3, 4]⟩, .panics⟩ }
    let calls : List (Call .video) :=
      [.propose (VideoDescriptor.advertised ⟨2, 2⟩), .deliver (frame [1, 2, 3]),
       .deliver (refused [1, 2, 3, 4, 5]), .deliver panicking, .configure .stopped ⟨4, 4⟩,
       .propose (VideoDescriptor.advertised ⟨4, 4⟩)]
    (receipts .video calls).map (·.payload.size) = [3] ∧
    (after .video calls).actual ≠ Kind.video.empty ∧
    ((after .video calls).step (.deliver (refused [6, 7, 8, 9]))).1.result =
      .dropped .outOfMemory ∧
    ((after .video calls).step (.deliver (refused [6, 7, 8]))).1.result = .done := by
  intro frame refused panicking calls
  have hactual : (after .video calls).actual ≠ Kind.video.empty := by decide
  have hreceipts : (receipts .video calls).map (·.payload.size) = [3] := by decide
  have hsizes (n : Nat) : (∀ r ∈ receipts .video calls, r.payload.size < n) ↔ 3 < n := by
    have hmap := List.forall_mem_map (l := receipts .video calls) (f := (·.payload.size))
      (P := (· < n))
    rw [hreceipts, List.forall_mem_singleton] at hmap
    exact hmap.symm
  have hfour : (refused [6, 7, 8, 9]).sample.HasPayload ⟨#[6, 7, 8, 9]⟩ := ⟨rfl, rfl⟩
  have hthree : (refused [6, 7, 8]).sample.HasPayload ⟨#[6, 7, 8]⟩ := ⟨rfl, rfl⟩
  obtain ⟨-, hdropped, -⟩ :=
    memory_asked_iff calls (refused [6, 7, 8, 9]) nofun hfour rfl hactual
  obtain ⟨-, -, hdone, -⟩ := memory_asked_iff calls (refused [6, 7, 8]) nofun hthree rfl hactual
  refine ⟨hreceipts, hactual, hdropped.mpr ⟨rfl, ?_⟩, hdone.mpr ⟨?_, rfl⟩⟩
  · exact (hsizes 4).mpr (by decide)
  · rintro ⟨-, h⟩
    exact absurd ((hsizes 3).mp h) (by decide)

/-- A panic that escapes: four bytes that do without memory are not done for all that.  They are
copied, though, so four bytes more can do without memory where no delivery was done before. -/
theorem escaped_panic_copied :
    let frame (reaction : Reaction) (memoryRefused : Bool) : Call .video :=
      .deliver
        { state := .running,
          sample := ⟨.answers ⟨#[1, 2, 3, 4]⟩, .answers { start := ⟨20000⟩ }⟩, reaction,
          memoryRefused }
    let results (calls : List (Call .video)) :=
      ((init .video).run (.propose (VideoDescriptor.advertised ⟨2, 2⟩) :: calls)).1.map (·.result)
    let escaping := frame (.panics (.other true))
    results [frame .accepts false, escaping true] = [.done, .done, .unwound] ∧
    results [escaping false, frame .accepts true] = [.done, .unwound, .done] := by
  decide

end Endpoint
end MediaIntake
