import MediaIntake.Proofs.Endpoint.Descriptors
import MediaIntake.Proofs.Negotiation.Accepted
/-! # Connected or not

An endpoint holds no mark of being connected: it compares its actual descriptor with the empty
one.  That is sound since an accepted descriptor is valid, a valid one is not empty, and what a
request puts in the place of an accepted one is empty (`Sound`).  So a sample that is complete
is refused for want of a format **exactly while nothing has been accepted** since the last
granted request (`step_deliver_notConnected_iff`, `after_actual_eq_empty_iff`).
-/
namespace MediaIntake
variable {k : Kind}

namespace Call

/-- What a proposal is accepted as is valid. -/
theorem valid_of_acceptance? {call : Call k} {d : k.Descriptor}
    (h : call.acceptance? = some d) : k.Valid d := by
  cases call with
  | propose t =>
    cases hn : k.negotiate t with
    | error reason =>
      rw [acceptance?, hn] at h
      cases h
    | ok accepted =>
      rw [acceptance?, hn] at h
      cases h
      exact Kind.valid_of_negotiate hn
  | _ => cases h

end Call

namespace Endpoint

/-- The actual descriptor is the empty one or a valid one. -/
def Sound (e : Endpoint k) : Prop := e.actual = k.empty ∨ k.Valid e.actual

/-- No call makes a connection unsound. -/
theorem Sound.step {e : Endpoint k} (h : e.Sound) (call : Call k) : (e.step call).2.Sound := by
  unfold Sound
  rw [step_actual]
  by_cases hr : call.request?.isSome = true
  · rw [if_pos hr]
    exact .inl rfl
  · rw [if_neg hr]
    cases ha : call.acceptance? with
    | none => exact h
    | some d => exact .inr (Call.valid_of_acceptance? ha)

theorem sound_after (calls : List (Call k)) : (after k calls).Sound := by
  induction calls using List.reverseRecOn with
  | nil => exact .inl rfl
  | append_singleton calls call ih =>
    rw [after_concat]
    exact ih.step call

/-- The actual descriptor is empty exactly while nothing has been accepted since the last
granted request. -/
theorem after_actual_eq_empty_iff {calls : List (Call k)} :
    (after k calls).actual = k.empty ↔
      ∀ call ∈ Call.sinceRequest calls, call.acceptance? = none := by
  rw [after_actual, ← Call.lastAcceptance_eq_none_iff]
  cases ha : Call.lastAcceptance (Call.sinceRequest calls) with
  | none => exact ⟨fun _ => rfl, fun _ => rfl⟩
  | some d =>
    obtain ⟨call, -, hd⟩ : ∃ call ∈ Call.sinceRequest calls, call.acceptance? = some d :=
      List.mem_filterMap.mp (List.mem_of_getLast? ha)
    exact ⟨fun h => absurd h (Call.valid_of_acceptance? hd).ne_empty, nofun⟩

/-- What a complete sample comes to, by the descriptor that it finds. -/
theorem step_deliver_notConnected_iff (e : Endpoint k) {d : Delivery} {payload : ByteArray}
    {times : SampleTimes} (hstate : d.state ≠ .stopped) (hp : d.sample.HasPayload payload)
    (ht : d.sample.times = .answers times) :
    (e.step (.deliver d)).1.result = .dropped .notConnected ↔ e.actual = k.empty := by
  rw [← (e.slot.package_course e.actual d).notConnected_iff hstate hp ht]
  exact e.step_deliver_dropped_iff d .notConnected

/-- **Being connected is sound.**  Accepted descriptors are valid, and none of them is empty;
the actual descriptor is the empty one or a valid one in every reachable state; and a complete
sample is refused as not connected exactly where no proposal has been accepted since the last
granted request. -/
theorem connection_sound (k : Kind) :
    (∀ (t : MediaType) (d : k.Descriptor), k.negotiate t = .ok d → k.Valid d ∧ d ≠ k.empty) ∧
    ∀ calls : List (Call k),
      ((after k calls).actual = k.empty ∨ k.Valid (after k calls).actual) ∧
      ∀ (d : Delivery) (payload : ByteArray) (times : SampleTimes), d.state ≠ .stopped →
        d.sample.HasPayload payload → d.sample.times = .answers times →
        (((after k calls).step (.deliver d)).1.result = .dropped .notConnected ↔
          ∀ call ∈ Call.sinceRequest calls, call.acceptance? = none) := by
  refine ⟨?_, fun calls => ⟨sound_after calls, ?_⟩⟩
  · intro t d h
    have hv := Kind.valid_of_negotiate h
    exact ⟨hv, hv.ne_empty⟩
  · intro d payload times hstate hp ht
    rw [step_deliver_notConnected_iff _ hstate hp ht]
    exact after_actual_eq_empty_iff

/-- A frame is taken once a proposal has been accepted, and refused after the next request. -/
theorem connected_frame_taken :
    let frame : Delivery :=
      { state := .running, sample := ⟨.answers ⟨#[1, 2, 3]⟩, .answers { start := ⟨20000⟩ }⟩ }
    let connected : List (Call .video) := [.propose (VideoDescriptor.advertised ⟨2, 2⟩)]
    let reset : List (Call .video) := connected ++ [.configure .stopped ⟨4, 4⟩]
    Kind.video.Valid (after .video connected).actual ∧
    ((after .video connected).step (.deliver frame)).1.result = .done ∧
    ¬ (∀ call ∈ Call.sinceRequest connected, call.acceptance? = none) ∧
    (∀ call ∈ Call.sinceRequest reset, call.acceptance? = none) ∧
    ((after .video reset).step (.deliver frame)).1.result = .dropped .notConnected := by
  intro frame connected reset
  obtain ⟨-, hruns⟩ := connection_sound .video
  obtain ⟨hsound, htaken⟩ := hruns connected
  obtain ⟨-, hrefused⟩ := hruns reset
  have hframe : frame.sample.HasPayload ⟨#[1, 2, 3]⟩ := ⟨rfl, rfl⟩
  have hdone : ((after .video connected).step (.deliver frame)).1.result = .done := by decide
  have haccepted := htaken frame _ _ (by decide) hframe rfl
  have hforgotten : ∀ call ∈ Call.sinceRequest reset, call.acceptance? = none := by decide
  refine ⟨hsound.resolve_left (by decide), hdone, ?_, hforgotten, ?_⟩
  · rw [← haccepted, hdone]
    exact nofun
  · exact (hrefused frame _ _ (by decide) hframe rfl).mpr hforgotten

end Endpoint
end MediaIntake
