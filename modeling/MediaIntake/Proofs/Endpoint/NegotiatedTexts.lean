import MediaIntake.Proofs.Descriptor.AudioText
import MediaIntake.Proofs.Endpoint.Connection
/-! # The records of negotiated formats

A descriptor that an endpoint has negotiated is recorded as a text, which leaves out the extension
of a format that has none.  An accepted descriptor has nothing there (`Actual.text_eq_iff`), so
**distinct formats that were negotiated never share a record**, in whatever runs of whatever
endpoints (`negotiated_texts_identify`).
-/
namespace MediaIntake
variable {k : Kind}

/-! ## Which formats are recorded -/

/-- The descriptor that an event tells to be negotiated. -/
def Event.negotiated? : Event k → Option k.Descriptor
  | .negotiated d => some d
  | _ => none

theorem Kind.negotiated_timeEvents (times : SampleTimes) :
    (k.timeEvents times).filterMap Event.negotiated? = [] := by
  cases k with
  | audio => cases h : times.stop <;> simp [Kind.timeEvents, h, Event.negotiated?]
  | video => rfl

theorem Kind.negotiated_advertisingEvents (index : Nat) (requested : k.Descriptor) :
    (k.advertisingEvents index requested).filterMap Event.negotiated? = [] := by
  cases k with
  | audio => rfl
  | video => cases index <;> rfl

/-- What becomes of a sample is no negotiation. -/
theorem Slot.Course.negotiated_record {s : Slot k} {actual : k.Descriptor} {d : Delivery}
    {p : Packaging k} (h : s.Course actual d p) (reaction : Reaction) :
    (p.record reaction).filterMap Event.negotiated? = [] := by
  cases h with
  | packaged =>
    cases reaction <;>
      simp [Packaging.record, Reaction.events, Kind.negotiated_timeEvents, Event.negotiated?]
  | stopped | payloadPanics | payloadMissing | timesPanic | timesMissing | unconnected
  | memoryRefused => simp [Packaging.record, Kind.negotiated_timeEvents, Event.negotiated?]

namespace Endpoint

theorem negotiated_recovery (e : Endpoint k) : e.recovery.filterMap Event.negotiated? = [] := by
  cases h : e.poisoned <;> simp [recovery, h, Event.negotiated?]

/-- **An accepted proposal leaves one record of what is negotiated**, and nothing else leaves
one. -/
theorem negotiated_exchange (e : Endpoint k) (call : Call k) :
    (e.exchange call).outcome.events.filterMap Event.negotiated? = call.acceptance?.toList := by
  cases hd : call.delivery? with
  | some d =>
    obtain rfl := Call.eq_deliver_of_delivery? hd
    have ho : (e.exchange (.deliver d)).outcome = _ := e.step_deliver d
    rw [ho, List.filterMap_append, negotiated_recovery,
      (e.slot.package_course e.actual d).negotiated_record]
    rfl
  | none =>
    rw [exchange]
    cases Call.course hd with
    | granted h =>
      simp [e.step_of_granted h, Call.acceptance?_of_configuration? h, negotiated_recovery,
        Event.negotiated?]
    | refused hs h =>
      simp [e.step_of_refused hs h, Call.acceptance?_of_configuration? h, negotiated_recovery,
        Event.negotiated?]
    | unreadable state h => simp [e.step_configureText_of_error state h, Call.acceptance?]
    | accepted h =>
      simp [e.step_propose_of_ok h, Call.acceptance?_of_ok h, negotiated_recovery,
        Event.negotiated?]
    | rejected h =>
      simp [e.step_propose_of_error h, Call.acceptance?_of_error h, negotiated_recovery,
        Event.negotiated?]
    | enumerate => simp [negotiated_recovery, Kind.negotiated_advertisingEvents, Call.acceptance?]
    | actual | requested | counters | channel => simp [negotiated_recovery, Call.acceptance?]

/-- What is recorded as negotiated is valid. -/
theorem valid_of_negotiated {calls : List (Call k)} {x : Exchange k} (hx : x ∈ history k calls)
    {d : k.Descriptor} (hd : Event.negotiated d ∈ x.outcome.events) : k.Valid d := by
  have hrecord (e : Endpoint k) (call : Call k)
      (hd : Event.negotiated d ∈ (e.exchange call).outcome.events) : k.Valid d := by
    have hmem : d ∈ (e.exchange call).outcome.events.filterMap Event.negotiated? :=
      List.mem_filterMap.mpr ⟨_, hd, rfl⟩
    rw [negotiated_exchange, Option.mem_toList] at hmem
    exact Call.valid_of_acceptance? hmem
  exact forall_history (P := fun x => Event.negotiated d ∈ x.outcome.events → k.Valid d) hrecord
    calls x hx hd

end Endpoint

/-! ## Texts of actual descriptors -/

namespace AudioDescriptor

/-- A descriptor that can be actual: of no format or of a valid one. -/
def Actual (d : AudioDescriptor) : Prop := d = empty ∨ d.Valid

/-- Without an extension there is nothing that is not printed. -/
theorem Actual.plain {d : AudioDescriptor} (h : d.Actual) (htag : d.tag ≠ .extensible) :
    d.validBits = 0 ∧ d.channelMask = 0 := by
  rcases h with rfl | hvalid
  · exact ⟨rfl, rfl⟩
  · apply hvalid.plain
    intro hcode
    exact htag (congrArg WaveTag.mk hcode)

/-- **The text of an actual descriptor says all of it.** -/
theorem Actual.text_eq_iff {d d' : AudioDescriptor} (h : d.Actual) (h' : d'.Actual) :
    d.text = d'.text ↔ d = d' := by
  constructor
  · intro htext
    obtain ⟨htag, hchannels, hrate, hbytes, hblock, hbits, hextension⟩ :=
      AudioDescriptor.text_eq_iff.mp htext
    have hrest : d.validBits = d'.validBits ∧ d.channelMask = d'.channelMask := by
      by_cases he : d.tag = .extensible
      · exact hextension he
      · obtain ⟨hvalidBits, hmask⟩ := h.plain he
        obtain ⟨hvalidBits', hmask'⟩ := h'.plain (htag ▸ he)
        exact ⟨hvalidBits.trans hvalidBits'.symm, hmask.trans hmask'.symm⟩
    cases d
    cases d'
    rw [mk.injEq]
    exact ⟨htag, hchannels, hrate, hbytes, hblock, hbits, hrest.1, hrest.2⟩
  · exact congrArg text

end AudioDescriptor

/-! ## Runs -/

namespace Endpoint
open AudioDescriptor (Actual)

theorem actual_after (calls : List (Call .audio)) : Actual (after .audio calls).actual :=
  sound_after calls

/-- **The record of a negotiated audio format identifies it.**  Two descriptors share a text just if
they agree on every field that is printed, and those of the extension are printed where there is
one.  Descriptors that are actual after any two runs share a text just if they are equal; and so do
those that any two runs have recorded as negotiated. -/
theorem negotiated_texts_identify :
    (∀ d d' : AudioDescriptor, d.text = d'.text ↔
      d.tag = d'.tag ∧ d.channels = d'.channels ∧ d.sampleRate = d'.sampleRate ∧
      d.byteRate = d'.byteRate ∧ d.blockAlign = d'.blockAlign ∧
      d.bitsPerSample = d'.bitsPerSample ∧
      (d.tag = .extensible → d.validBits = d'.validBits ∧ d.channelMask = d'.channelMask)) ∧
    (∀ calls calls' : List (Call .audio),
      AudioDescriptor.text (after .audio calls).actual =
          AudioDescriptor.text (after .audio calls').actual ↔
        (after .audio calls).actual = (after .audio calls').actual) ∧
    ∀ (calls calls' : List (Call .audio)), ∀ x ∈ history .audio calls,
      ∀ x' ∈ history .audio calls', ∀ d d' : AudioDescriptor,
        Event.negotiated d ∈ x.outcome.events → Event.negotiated d' ∈ x'.outcome.events →
          (Event.negotiated d : Event .audio).message = "actual AudioSink settings: " ++ d.text ∧
          ((Event.negotiated d : Event .audio).message =
            (Event.negotiated d' : Event .audio).message ↔ d = d') := by
  refine ⟨fun _ _ => AudioDescriptor.text_eq_iff, ?_, ?_⟩
  · intro calls calls'
    exact (actual_after calls).text_eq_iff (actual_after calls')
  · intro calls calls' x hx x' hx' d d' hd hd'
    have hmessage (d : AudioDescriptor) :
        (Event.negotiated d : Event .audio).message = "actual AudioSink settings: " ++ d.text := rfl
    have hactual : Actual d := .inr (valid_of_negotiated hx hd)
    have hactual' : Actual d' := .inr (valid_of_negotiated hx' hd')
    refine ⟨hmessage d, ?_⟩
    rw [hmessage, hmessage, String.append_right_inj]
    exact hactual.text_eq_iff hactual'

/-- Two extensible formats that differ only in the speakers are recorded differently. -/
theorem speakers_told_apart :
    let proposal (mask : UInt32) : MediaType :=
      { major := some .audio, subtype := some .pcm, formatType := some .waveFormat,
        block := ((WaveFormat.pcm 2 48000 32).extend ⟨24, mask, .pcm⟩).encode }
    let descriptor (mask : UInt32) : AudioDescriptor :=
      ⟨.extensible, 2, 48000, 384000, 8, 32, 24, mask⟩
    let x (mask : UInt32) : Exchange .audio := (init .audio).exchange (.propose (proposal mask))
    Event.negotiated (descriptor 0x3) ∈ (x 0x3).outcome.events ∧
    Event.negotiated (descriptor 0x30) ∈ (x 0x30).outcome.events ∧
    (Event.negotiated (descriptor 0x3) : Event .audio).message ≠
      (Event.negotiated (descriptor 0x30) : Event .audio).message := by
  intro proposal descriptor x
  have hfront : Event.negotiated (descriptor 0x3) ∈ (x 0x3).outcome.events := by decide
  have hback : Event.negotiated (descriptor 0x30) ∈ (x 0x30).outcome.events := by decide
  obtain ⟨-, -, hrecords⟩ := negotiated_texts_identify
  obtain ⟨-, hshared⟩ := hrecords [.propose (proposal 0x3)] [.propose (proposal 0x30)]
    (x 0x3) List.mem_cons_self (x 0x30) List.mem_cons_self _ _ hfront hback
  refine ⟨hfront, hback, fun h => ?_⟩
  exact absurd (hshared.mp h) (by decide)

end Endpoint
end MediaIntake
