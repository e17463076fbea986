import Mathlib.Data.List.Basic
import MediaIntake.Proofs.Endpoint.ReusedBuffer
/-! # What was received, and of what

A **receipt** sets a buffer that the consumer has received beside the payload and the times of the
sample that it was made of.  One call gives a receipt or none (`handover`): it gives one exactly
where the consumer is called, and only then can the memory of the reused buffer have grown.
The receipts of a run are its received buffers in their order (`map_buffer_receipts`), and each
buffer carries the sample that it stands beside (`genuine_of_mem_receipts`).
-/
namespace MediaIntake
variable {k : Kind}

/-- A buffer that the consumer received, with the sample that it was made of. -/
structure Receipt (k : Kind) where
  payload : ByteArray
  times : SampleTimes
  buffer : Buffer k

/-- The buffer carries the sample, in whatever format. -/
def Receipt.Genuine (r : Receipt k) : Prop :=
  ∃ format, r.buffer.Carries format r.times r.payload

/-- The payload and the times of a sample that answers both questions. -/
def Sample.content? (s : Sample) : Option (ByteArray × SampleTimes) :=
  match s.payload, s.times with
  | .answers payload, .answers times => some (payload, times)
  | _, _ => none

/-- The receipt of an exchange in which the consumer was called. -/
def Exchange.receipt? (x : Exchange k) : Option (Receipt k) :=
  x.received?.bind fun buffer =>
    (x.call.delivery?.bind (·.sample.content?)).map fun (payload, times) =>
      ⟨payload, times, buffer⟩

namespace Endpoint

/-! ## One call -/

/-- What a call can do to the receipts and to the memory of the reused buffer. -/
inductive Handover (e : Endpoint k) (call : Call k) : Prop where
  | received {r : Receipt k} (hreceipt : (e.exchange call).receipt? = some r)
    (hbuffer : (e.exchange call).received? = some r.buffer)
    (hinvoked : (e.exchange call).invoked = true) (hgenuine : r.Genuine)
    (hcapacity : (e.step call).2.slot.capacity = max e.slot.capacity r.payload.size)
  | nothing (hreceipt : (e.exchange call).receipt? = none)
    (hbuffer : (e.exchange call).received? = none)
    (hinvoked : (e.exchange call).invoked = false)
    (hcapacity : (e.step call).2.slot.capacity = e.slot.capacity)

/-- Where no buffer is received there is no receipt. -/
theorem handover_of_not_received {e : Endpoint k} {call : Call k}
    (hbuffer : (e.exchange call).received? = none)
    (hcapacity : (e.step call).2.slot.capacity = e.slot.capacity) : e.Handover call := by
  refine .nothing ?_ hbuffer ?_ hcapacity
  · rw [Exchange.receipt?, hbuffer, Option.bind_none]
  · rw [Exchange.invoked, hbuffer, Option.isSome_none]

theorem handover_deliver (e : Endpoint k) (d : Delivery) : e.Handover (.deliver d) := by
  have hcourse := e.slot.package_course e.actual d
  have hslot : (e.step (.deliver d)).2.slot = (e.slot.package e.actual d).slot :=
    e.step_slot (.deliver d)
  have hbuffer : (e.exchange (.deliver d)).received? = (e.slot.package e.actual d).handed :=
    congrArg Outcome.received (e.step_deliver d)
  cases hv : (e.slot.package e.actual d).verdict with
  | packaged =>
    obtain ⟨payload, times, hp, ht, hpackaged⟩ := hcourse.of_packaged hv
    rw [Packaging.handed, hv, hpackaged] at hbuffer
    have hreceipt : (e.exchange (.deliver d)).receipt? =
        some ⟨payload, times, .package e.actual times payload⟩ := by
      have hcontent : d.sample.content? = some (payload, times) := by
        rw [Sample.content?, hp.1, ht]
      rw [Exchange.receipt?, hbuffer]
      exact congrArg (Option.map _) hcontent
    refine .received hreceipt hbuffer ?_ ⟨_, Buffer.package_carries e.actual times payload⟩ ?_
    · rw [Exchange.invoked, hbuffer, Option.isSome_some]
    · rw [hslot, hpackaged]
  | failed error =>
    rw [Packaging.handed, hv] at hbuffer
    refine handover_of_not_received hbuffer ?_
    rw [hslot, hcourse.capacity_of_failed hv]
  | unwound =>
    rw [Packaging.handed, hv] at hbuffer
    refine handover_of_not_received hbuffer ?_
    rw [hslot, hcourse.slot_of_unwound hv]

/-- **Every call gives a receipt or none**, and with none it leaves the memory alone. -/
theorem handover (e : Endpoint k) (call : Call k) : e.Handover call := by
  cases hc : call.delivery? with
  | none =>
    refine handover_of_not_received (e.step_of_no_delivery hc).received ?_
    rw [step_slot, hc]
  | some d =>
    obtain rfl := Call.eq_deliver_of_delivery? hc
    exact e.handover_deliver d

/-! ## Runs -/

/-- The receipts of a run, in the order of its calls. -/
def receipts (k : Kind) (calls : List (Call k)) : List (Receipt k) :=
  (history k calls).filterMap (·.receipt?)

@[simp] theorem receipts_nil : receipts k [] = [] := rfl

theorem receipts_concat (calls : List (Call k)) (call : Call k) :
    receipts k (calls ++ [call]) =
      receipts k calls ++ ((after k calls).exchange call).receipt?.toList := by
  rw [receipts, history_concat, List.filterMap_append, List.filterMap_eq_flatMap_toList _ [_],
    List.flatMap_singleton]
  rfl

/-- **The receipts are the received buffers in their order.** -/
theorem map_buffer_receipts (calls : List (Call k)) :
    (receipts k calls).map Receipt.buffer = received k calls := by
  rw [receipts, received_eq_filterMap, List.map_filterMap]
  refine List.filterMap_congr (forall_history (fun e call => ?_) calls)
  cases e.handover call with
  | received hreceipt hbuffer =>
    rw [hreceipt, hbuffer]
    rfl
  | nothing hreceipt hbuffer =>
    rw [hreceipt, hbuffer]
    rfl

/-- A receipt is given for each delivery that the consumer is called for, and for no other call. -/
theorem isSome_receipt? (calls : List (Call k)) :
    ∀ x ∈ history k calls, x.receipt?.isSome = x.invoked := by
  refine forall_history (fun e call => ?_) calls
  cases e.handover call with
  | received hreceipt _ hinvoked =>
    rw [hreceipt, hinvoked]
    rfl
  | nothing hreceipt _ hinvoked =>
    rw [hreceipt, hinvoked]
    rfl

/-- **Every receipt is genuine.** -/
theorem genuine_of_mem_receipts {calls : List (Call k)} {r : Receipt k}
    (h : r ∈ receipts k calls) : r.Genuine := by
  obtain ⟨x, hx, hr⟩ := List.mem_filterMap.mp h
  have hall : ∀ x ∈ history k calls, ∀ r, x.receipt? = some r → r.Genuine := by
    refine forall_history (fun e call r hr => ?_) calls
    cases e.handover call with
    | received hreceipt _ _ hgenuine =>
      obtain rfl := Option.some.inj (hreceipt.symm.trans hr)
      exact hgenuine
    | nothing hreceipt =>
      rw [hreceipt] at hr
      cases hr
  exact hall x hx r hr

end Endpoint
end MediaIntake
