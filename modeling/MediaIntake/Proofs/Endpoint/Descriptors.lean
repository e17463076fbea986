import Mathlib.Data.List.DropRight
import MediaIntake.Proofs.Endpoint.Runs
/-! # What the two descriptors remember

The requested descriptor is that of the last granted request (`after_requested`).  The actual
one is that of the last proposal accepted **since** that request (`after_actual`): a request
forgets what was negotiated before it.  Everything else that happens to an endpoint (refused
requests, texts that cannot be read, rejected proposals, deliveries however they end) leaves
both alone.
-/
namespace MediaIntake
variable {k : Kind}

/-! ## Histories of calls -/

namespace Call

/-- The descriptor of the last granted request. -/
def lastRequest (calls : List (Call k)) : Option k.Descriptor :=
  (calls.filterMap request?).getLast?

/-- The descriptor of the last accepted proposal. -/
def lastAcceptance (calls : List (Call k)) : Option k.Descriptor :=
  (calls.filterMap acceptance?).getLast?

/-- The calls after the last granted request: all of them, where there was none. -/
def sinceRequest (calls : List (Call k)) : List (Call k) :=
  calls.rtakeWhile fun call => call.request?.isNone

theorem lastRequest_concat (calls : List (Call k)) (call : Call k) :
    lastRequest (calls ++ [call]) = call.request?.or (lastRequest calls) := by
  cases h : call.request? <;> simp [lastRequest, h]

theorem lastAcceptance_concat (calls : List (Call k)) (call : Call k) :
    lastAcceptance (calls ++ [call]) = call.acceptance?.or (lastAcceptance calls) := by
  cases h : call.acceptance? <;> simp [lastAcceptance, h]

theorem sinceRequest_concat (calls : List (Call k)) (call : Call k) :
    sinceRequest (calls ++ [call]) =
      if call.request?.isSome then [] else sinceRequest calls ++ [call] := by
  rw [sinceRequest, List.rtakeWhile_concat]
  cases h : call.request? <;> simp [sinceRequest]

theorem lastAcceptance_eq_none_iff {calls : List (Call k)} :
    lastAcceptance calls = none ↔ ∀ call ∈ calls, call.acceptance? = none := by
  simp [lastAcceptance]

end Call

/-! ## Descriptors after a run -/

namespace Endpoint

/-- The requested descriptor is that of the last granted request. -/
theorem after_requested (calls : List (Call k)) :
    (after k calls).requested = (Call.lastRequest calls).getD k.empty := by
  induction calls using List.reverseRecOn with
  | nil => rfl
  | append_singleton calls call ih =>
    rw [after_concat, step_requested, Call.lastRequest_concat, ih]
    cases call.request? <;> rfl

/-- The actual descriptor is that of the last proposal accepted since the last granted
request. -/
theorem after_actual (calls : List (Call k)) :
    (after k calls).actual =
      (Call.lastAcceptance (Call.sinceRequest calls)).getD k.empty := by
  induction calls using List.reverseRecOn with
  | nil => rfl
  | append_singleton calls call ih =>
    rw [after_concat, step_actual, Call.sinceRequest_concat, ih]
    -- a granted request clears the descriptor and forgets the calls before it at once
    split
    · rfl
    · rw [Call.lastAcceptance_concat]
      cases call.acceptance? <;> rfl

/-- **The descriptors after a run** are those of its last granted request and of the last
proposal accepted since; the two questions for them answer so; and no other call moves either
of them. -/
theorem descriptors_after (k : Kind) (calls : List (Call k)) :
    (after k calls).requested = (Call.lastRequest calls).getD k.empty ∧
    (after k calls).actual = (Call.lastAcceptance (Call.sinceRequest calls)).getD k.empty ∧
    ((after k calls).step .requested).1.result = .descriptor (after k calls).requested ∧
    ((after k calls).step .actual).1.result = .descriptor (after k calls).actual ∧
    (∀ call : Call k, call.request? = none →
      (after k (calls ++ [call])).requested = (after k calls).requested) ∧
    (∀ call : Call k, call.request? = none → call.acceptance? = none →
      (after k (calls ++ [call])).actual = (after k calls).actual) := by
  refine ⟨after_requested calls, after_actual calls, ?_, ?_, ?_, ?_⟩
  · rw [step, locked_eq, recovered_requested]
  · rw [step, locked_eq, recovered_actual]
  · intro call hr
    rw [after_concat, step_requested, hr]
    rfl
  · intro call hr ha
    rw [after_concat, step_actual, hr, ha]
    rfl

end Endpoint
end MediaIntake
