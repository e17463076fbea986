import MediaIntake.Proofs.Negotiation.Built
import MediaIntake.Proofs.Rehearsal.Steps
/-! # What a rehearsal comes to

A rehearsal ends in one of few ways, and in each of them its report can be written down.  Audio is
stopped by a record that lacks a field, or else by the first block if a block has no bytes in it;
video is stopped by a frame without a size (`audio_of_flaw`, `audio_of_empty`,
`videoOf_of_rejected`).  In every other case **all samples are taken**, each one with the times of
its index, and the counters at the end tell exactly them and the late sample (`audio_of_taken`,
`videoOf_of_taken`).
-/
namespace MediaIntake.Rehearsal

/-! ## Ends of a script -/

/-- The late sample is dropped, which ends nothing. -/
theorem Ready.deliverLate {k : Kind} {e : Endpoint k} {format : k.Descriptor} {c : Counters}
    (h : Ready e format c) (payload : ByteArray) :
    Rehearsal.deliverLate e payload =
      ⟨[.event (.sampleDropped .stopped),
        .summary { c with delivered := c.delivered + 1, rejected := c.rejected + 1 }], none⟩ := by
  have hpackage : e.slot.package format (lateDelivery payload) =
      ⟨.failed (.wrongState .stopped), [], [.sampleDropped .stopped], e.slot⟩ := rfl
  rw [Rehearsal.deliverLate, h.step_deliver hpackage]
  rfl

/-- A running endpoint refuses to be reconfigured, as expected. -/
theorem Ready.reconfigure {e : Endpoint .video} {format : VideoDescriptor} {c : Counters}
    (h : Ready e format c) :
    Rehearsal.reconfigure e =
      ⟨[.event (.reconfigurationRefused .running), .refusedAsExpected, .summary c], none⟩ := by
  have hcall : (Call.configure .running VideoDescriptor.empty : Call .video).configuration? =
      some (.running, VideoDescriptor.empty) := rfl
  obtain ⟨-, rfl, hpoisoned⟩ := h
  rw [Rehearsal.reconfigure, e.step_of_refused (by decide) hcall, Endpoint.recovery, hpoisoned]
  rfl

/-! ## Audio -/

namespace Options
variable (o : Options)

/-- The format that an audio rehearsal negotiates. -/
def audioFormat : AudioDescriptor := .ofWave o.wave

/-- What is recorded of the types that an audio endpoint advertises. -/
def preferences : List (Entry .audio) :=
  [.prefers (AudioDescriptor.offer .ieeeFloat), .prefers (AudioDescriptor.offer .pcm)]

end Options

/-- The times of the audio block of an index. -/
def blockTimes (index : Nat) : SampleTimes :=
  ⟨ticksAt (index * audioBlock), some (ticksAt ((index + 1) * audioBlock))⟩

section Audio
variable {o : Options}

/-- Nothing but the flaws of its record keeps the proposal from being accepted. -/
theorem negotiate_audioProposal (o : Options) :
    Kind.audio.negotiate o.audioProposal =
      match o.wave.flaw? with
      | some flaw => .error (.invalidFormatBlock (.invalid .wave flaw))
      | none => .ok o.audioFormat := by
  have hsubtype : Guid.pcm ∈ AudioDescriptor.subtypes := by decide
  have htag : o.wave.tag ∈ AudioDescriptor.tags := by
    show WaveTag.pcm ∈ AudioDescriptor.tags
    decide
  show AudioDescriptor.ofMediaType { AudioDescriptor.offer .pcm with block := o.wave.encode } = _
  cases hflaw : o.wave.flaw? with
  | some flaw => exact AudioDescriptor.ofMediaType_offer_of_flaw hsubtype hflaw
  | none =>
    have hparse : WaveFormat.parse o.wave.encode = .ok o.wave.pruned := by
      rw [WaveFormat.parse_encode, hflaw]
    exact AudioDescriptor.ofMediaType_offer_encode hsubtype hparse htag

/-- The record has flaws where there are no channels or no rate. -/
theorem flaw?_wave_eq_none_iff (o : Options) :
    o.wave.flaw? = none ↔ 1 ≤ o.channels.toNat ∧ 1 ≤ o.rate.toNat := by
  let recipe : WaveFormat.Recipe := ⟨.integer 16, o.channels, o.rate, none⟩
  have hflaw : o.wave.flaw? = o.wave.lacking?.map (·.flaw) := recipe.flaw?_build
  have hlacking : o.wave.lacking? = none ↔
      1 ≤ o.channels.toNat ∧ 1 ≤ o.rate.toNat ∧ 8 ≤ 16 := recipe.lacking?_build_eq_none_iff
  rw [hflaw, Option.map_eq_none_iff, hlacking]
  omega

/-- A block holds the whole frames of ten milliseconds, of two bytes for each channel. -/
theorem size_audioPayload (o : Options) :
    o.audioPayload.size = o.rate.toNat / 100 * min 65535 (2 * o.channels.toNat) := by
  let recipe : WaveFormat.Recipe := ⟨.integer 16, o.channels, o.rate, none⟩
  have halign : o.wave.blockAlign.toNat = min 65535 (o.channels.toNat * (16 / 8)) :=
    recipe.toNat_blockAlign_build
  have hframes : o.rate.toNat * audioBlock / 1000 = o.rate.toNat / 100 := by
    rw [audioBlock]
    omega
  rw [Options.audioPayload, size_solid, halign, hframes, Nat.mul_comm o.channels.toNat]

/-- An audio rehearsal asks for what is advertised, and then holds a session with its record. -/
theorem audio_eq (o : Options) :
    audio o =
      (session (.init .audio) o.audioProposal (stretch o.audioPayload blockTimes o.samples.toNat)
        (deliverLate · o.audioPayload)).prepend Options.preferences := by
  have hoffers (i : Nat) : Kind.audio.advertised? (0 + i) (Endpoint.init .audio).requested =
      [AudioDescriptor.offer .ieeeFloat, AudioDescriptor.offer .pcm][i]? := by
    rw [Nat.zero_add]
    exact AudioDescriptor.advertised?_eq i
  have hasked : askFrom (.init .audio) 0 = (Options.preferences, .init .audio) :=
    askFrom_eq rfl hoffers
  rw [audio, hasked]
  rfl

/-- **A record that lacks something is refused.** -/
theorem audio_of_flaw {flaw : BlockFlaw} (h : o.wave.flaw? = some flaw) :
    let reason : Rejection := .invalidFormatBlock (.invalid .wave flaw)
    audio o =
      ⟨Options.preferences ++ [.event (.proposalRejected o.audioProposal reason)],
        some (.call (.rejected reason))⟩ := by
  have hnegotiate := negotiate_audioProposal o
  rw [h] at hnegotiate
  rw [audio_eq, session_of_error rfl hnegotiate]
  rfl

/-- **A block without bytes in it stops the rehearsal**, if there is one. -/
theorem audio_of_empty (h : o.wave.flaw? = none) (hsamples : 0 < o.samples.toNat)
    (hempty : o.audioPayload.isEmpty = true) :
    audio o =
      ⟨Options.preferences ++ [.event (.negotiated o.audioFormat), .event .payloadMissing],
        some (.sample .emptyPayload)⟩ := by
  have hnegotiate := negotiate_audioProposal o
  rw [h] at hnegotiate
  rw [audio_eq, session_of_empty rfl hnegotiate hempty hsamples]
  rfl

/-- **Otherwise every block is taken**, and then the late sample is dropped. -/
theorem audio_of_taken (h : o.wave.flaw? = none)
    (htaken : o.samples.toNat = 0 ∨ o.audioPayload.isEmpty = false) :
    audio o =
      ⟨(Options.preferences ++ [Entry.event (.negotiated o.audioFormat)]) ++
        (List.range o.samples.toNat).flatMap
          (fun index => taken o.audioFormat o.audioPayload (blockTimes index)) ++
        ([Entry.event (.sampleDropped .stopped)] ++
          [Entry.summary ⟨o.samples.toNat + 1, o.samples.toNat, 0, 1⟩]), none⟩ := by
  have hnegotiate := negotiate_audioProposal o
  rw [h] at hnegotiate
  obtain ⟨next, hnext, hsession⟩ := session_of_taken (e := .init .audio) rfl hnegotiate htaken
    blockTimes (deliverLate · o.audioPayload)
  have hcounters : accepted (Endpoint.init .audio).counters o.samples.toNat =
      ⟨o.samples.toNat, o.samples.toNat, 0, 0⟩ := by
    simp [accepted, Endpoint.init]
  rw [hcounters] at hnext
  rw [audio_eq, hsession, hnext.deliverLate, Report.prepend_prepend, ← List.append_assoc]
  rfl

end Audio

/-! ## Video -/

/-- The times of the frame of an index. -/
def frameTimes (index : Nat) : SampleTimes := ⟨ticksAt (index * framePeriod), none⟩

/-- What is recorded until a requested size is proposed. -/
def request (requested : VideoDescriptor) : List (Entry .video) :=
  [.event (.requested requested), .event (.advertised (VideoDescriptor.advertisedBitmap requested))]

section Video
variable {requested : VideoDescriptor}

/-- The bytes of a frame of the advertised size. -/
def framePayload (requested : VideoDescriptor) : ByteArray :=
  solid (VideoDescriptor.advertised requested).sampleSize.toNat 0x80

/-- A video rehearsal requests a size, and then holds a session with what is advertised for it. -/
theorem videoOf_eq (samples : Nat) (requested : VideoDescriptor) :
    videoOf samples requested =
      (session { Endpoint.init .video with requested } (VideoDescriptor.advertised requested)
        (stretch (framePayload requested) frameTimes samples) reconfigure).prepend
        (request requested) := by
  have hcall : (Call.configure .stopped requested : Call .video).configuration? =
      some (.stopped, requested) := rfl
  rw [videoOf, attempt_of_done ((Endpoint.init .video).step_of_granted hcall) rfl,
    Endpoint.step_enumerate]
  rfl

/-- **A frame without a size is refused.** -/
theorem videoOf_of_rejected (samples : Nat) {reason : Rejection}
    (h : VideoDescriptor.ofMediaType (VideoDescriptor.advertised requested) = .error reason) :
    videoOf samples requested =
      ⟨request requested ++
        [.event (.proposalRejected (VideoDescriptor.advertised requested) reason)],
        some (.call (.rejected reason))⟩ := by
  have hnegotiate : Kind.video.negotiate (VideoDescriptor.advertised requested) =
      .error reason := h
  rw [videoOf_eq, session_of_error rfl hnegotiate]
  rfl

/-- **Otherwise every frame is taken**, and then the endpoint refuses to be reconfigured. -/
theorem videoOf_of_taken (samples : Nat) {format : VideoDescriptor}
    (h : VideoDescriptor.ofMediaType (VideoDescriptor.advertised requested) = .ok format)
    (hpayload : (framePayload requested).isEmpty = false) :
    videoOf samples requested =
      ⟨(request requested ++ [Entry.event (.negotiated format)]) ++
        (List.range samples).flatMap
          (fun index => taken format (framePayload requested) (frameTimes index)) ++
        ([Entry.event (.reconfigurationRefused .running), .refusedAsExpected] ++
          [Entry.summary ⟨samples, samples, 0, 0⟩]), none⟩ := by
  have hnegotiate : Kind.video.negotiate (VideoDescriptor.advertised requested) = .ok format := h
  obtain ⟨next, hnext, hsession⟩ := session_of_taken
    (e := { Endpoint.init .video with requested }) rfl hnegotiate
    (.inr hpayload : samples = 0 ∨ _) frameTimes reconfigure
  have hcounters : accepted (Endpoint.init .video).counters samples =
      ⟨samples, samples, 0, 0⟩ := by
    simp [accepted, Endpoint.init]
  rw [hcounters] at hnext
  rw [videoOf_eq, hsession, hnext.reconfigure, Report.prepend_prepend, ← List.append_assoc]
  rfl

end Video
end MediaIntake.Rehearsal
