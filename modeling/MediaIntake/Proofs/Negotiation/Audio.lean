import MediaIntake.Proofs.Format.WaveFaults
import MediaIntake.Proofs.Negotiation.Rules
/-! # Acceptance of audio

An audio endpoint accepts a proposal by its identifiers and by the tag of the wave record in its
block (`Acceptable`).  What it takes from there is the record's head and, with the extensible tag
only, the precision and the speakers of its extension; each has its place in the block
(`ReadFrom`).  The rules decide just that (`audio_acceptance_exact`): they hold for what is
acceptable, and of anything else the first that fails is told.
-/
namespace MediaIntake

/-- What was read from a block as a wave record says what its head says. -/
theorem WaveFormat.standsIn_of_parse {block : List UInt8} {w : WaveFormat}
    (h : parse block = .ok w) : w.toWaveHead.StandsIn block := by
  rw [← (parse_eq_ok_iff.mp h).2.decode_head]
  exact standsIn_decode block

namespace AudioDescriptor

/-- The accepted tags, by their codes. -/
theorem code_mem_encodings_iff {tag : WaveTag} :
    tag.code.toNat ∈ Kind.audio.encodings ↔ tag ∈ tags := by
  have hcodes : Kind.audio.encodings = tags.map fun tag => tag.code.toNat := rfl
  have hinjective : Function.Injective fun tag : WaveTag => tag.code.toNat := by
    intro tag tag' h
    exact congrArg WaveTag.mk (UInt16.toNat_inj.mp h)
  rw [hcodes, List.mem_map_of_injective hinjective]

/-- The block of a proposal is read as a wave record, and accepted by its tag. -/
theorem reads (t : MediaType) :
    Kind.audio.Reads t (WaveFormat.parse t.block) (·.tag ∈ tags)
      fun w => .unsupportedTag w.tag := by
  have htag {w : WaveFormat} (hw : WaveFormat.parse t.block = .ok w) :
      Kind.audio.encodingIn t = w.tag.code.toNat := (WaveFormat.standsIn_of_parse hw).tag.symm
  constructor
  case blockError?_eq => rfl
  case accepts_iff =>
    intro w hw
    rw [htag hw, code_mem_encodings_iff]
  case refuse_eq =>
    intro w hw
    rw [htag hw, Kind.refuseEncoding, UInt16.ofNat_toNat]

/-- **A proposal to an audio endpoint is told the first rule that it fails.** -/
theorem ofMediaType_settled (t : MediaType) :
    SettledBy (Rule.order .audio) (Rule.fails .audio t) (Rule.report .audio t)
      (ofMediaType t) := by
  unfold ofMediaType
  refine .ite Rule.fails_major_iff rfl fun _ => ?_
  refine .ite Iff.rfl rfl fun _ => ?_
  cases hsubtype : t.subtype with
  | none => exact .stop (Rule.fails_identified_iff.mpr (.inl hsubtype)) rfl
  | some subtype =>
    cases hformat : t.formatType with
    | none => exact .stop (Rule.fails_identified_iff.mpr (.inr hformat)) rfl
    | some formatType =>
      refine .pass (by simp [Rule.fails, hsubtype, hformat]) ?_
      refine .ite ?_ (by rw [Rule.report, hformat, Option.map_some]) fun _ => ?_
      · rw [Rule.fails_formatType_iff hformat, Kind.formatTypes, List.mem_singleton]
      refine .ite (Rule.fails_subtype_iff hsubtype)
        (by rw [Rule.report, hsubtype, Option.map_some]) fun _ => ?_
      refine .ite Rule.fails_block_iff rfl fun _ => ?_
      refine (reads t).settled ofWave ?_ ?_
      · intro error herror
        rw [ofBlock, herror]
      · intro w hw
        rw [ofBlock, hw]

/-- What an audio endpoint accepts.  Subtype, tag and subformat need not correspond. -/
structure Acceptable (t : MediaType) : Prop where
  major : t.major = some .audio
  uncompressed : t.temporal = false
  formatType : t.formatType = some .waveFormat
  subtype : t.subtype = some .ieeeFloat ∨ t.subtype = some .pcm
  wave : ∃ w, WaveFormat.parse t.block = .ok w ∧ w.tag ∈ [.pcm, .ieeeFloat, .extensible]

/-- A descriptor of what stands in a block: an extension is looked for only where the tag is the
extensible one. -/
structure ReadFrom (d : AudioDescriptor) (block : List UInt8) : Prop where
  tag : d.tag.code.toNat = Word.toNat (block.extract 0 2)
  channels : d.channels.toNat = Word.toNat (block.extract 2 4)
  sampleRate : d.sampleRate.toNat = Word.toNat (block.extract 4 8)
  byteRate : d.byteRate.toNat = Word.toNat (block.extract 8 12)
  blockAlign : d.blockAlign.toNat = Word.toNat (block.extract 12 14)
  bitsPerSample : d.bitsPerSample.toNat = Word.toNat (block.extract 14 16)
  validBits : d.validBits.toNat =
    if Word.toNat (block.extract 0 2) = 0xfffe then Word.toNat (block.extract 18 20) else 0
  channelMask : d.channelMask.toNat =
    if Word.toNat (block.extract 0 2) = 0xfffe then Word.toNat (block.extract 20 24) else 0

theorem ReadFrom.unique {d d' : AudioDescriptor} {block : List UInt8} (h : d.ReadFrom block)
    (h' : d'.ReadFrom block) : d = d' := by
  have htag : d.tag = d'.tag :=
    congrArg WaveTag.mk (UInt16.toNat_inj.mp (h.tag.trans h'.tag.symm))
  have hchannels := UInt16.toNat_inj.mp (h.channels.trans h'.channels.symm)
  have hsampleRate := UInt32.toNat_inj.mp (h.sampleRate.trans h'.sampleRate.symm)
  have hbyteRate := UInt32.toNat_inj.mp (h.byteRate.trans h'.byteRate.symm)
  have hblockAlign := UInt16.toNat_inj.mp (h.blockAlign.trans h'.blockAlign.symm)
  have hbitsPerSample := UInt16.toNat_inj.mp (h.bitsPerSample.trans h'.bitsPerSample.symm)
  have hvalidBits := UInt16.toNat_inj.mp (h.validBits.trans h'.validBits.symm)
  have hchannelMask := UInt32.toNat_inj.mp (h.channelMask.trans h'.channelMask.symm)
  cases d
  cases d'
  rw [mk.injEq]
  exact ⟨htag, hchannels, hsampleRate, hbyteRate, hblockAlign, hbitsPerSample, hvalidBits,
    hchannelMask⟩

/-- The descriptor of a record that was read says what stands in the block. -/
theorem readFrom_ofWave {block : List UInt8} {w : WaveFormat}
    (h : WaveFormat.parse block = .ok w) : (ofWave w).ReadFrom block := by
  have hhead := WaveFormat.standsIn_decode block
  have hreading := WaveFormat.parse_reading block
  have htag := WaveFormat.tag_eq_extensible_iff hhead
  rw [h] at hreading
  -- only two ways of reading end with a record
  cases hreading with
  | extensible hlength hs ht hx =>
    have hextension : (WaveFormat.headCodec.decode block).tag.isExtensible = true :=
      decide_eq_true ht
    simp only [ofWave, if_pos hextension, WaveFormat.extensionCodec_decode, List.drop_drop]
    refine ⟨hhead.tag, hhead.channels, hhead.sampleRate, hhead.byteRate, hhead.blockAlign,
      hhead.bitsPerSample, ?_, ?_⟩
    · rw [if_pos (htag.mpr ht)]
      exact Word.toNat_decode_uint16 (block.drop 18)
    · rw [if_pos (htag.mpr ht)]
      exact Word.toNat_decode_uint32 (block.drop 20)
  | plain hlength hs ht =>
    refine ⟨hhead.tag, hhead.channels, hhead.sampleRate, hhead.byteRate, hhead.blockAlign,
      hhead.bitsPerSample, ?_, ?_⟩
    · rw [if_neg fun hcode => ht (htag.mp hcode)]
      rfl
    · rw [if_neg fun hcode => ht (htag.mp hcode)]
      rfl

theorem readFrom_of_ofMediaType {t : MediaType} {d : AudioDescriptor}
    (h : ofMediaType t = .ok d) : d.ReadFrom t.block := by
  obtain ⟨w, hparse, -, rfl⟩ := exists_wave_of_ofMediaType h
  exact readFrom_ofWave hparse

/-- **What is accepted fails no rule.** -/
theorem acceptable_iff (t : MediaType) :
    (∀ rule ∈ Rule.order .audio, rule.fails .audio t = false) ↔ Acceptable t := by
  simp only [Rule.order, List.forall_mem_cons]
  simp only [Rule.fails, decide_eq_false_iff_not, not_not, Option.isSome_eq_false_iff,
    Option.isNone_iff_eq_none]
  simp only [Kind.formatTypes, Kind.subtypes, List.map_cons, List.map_nil, List.mem_cons,
    List.not_mem_nil, or_false]
  constructor
  · rintro ⟨hmajor, htemporal, -, hformat, hsubtype, -, hread, hcode, -⟩
    exact ⟨hmajor, htemporal, hformat, hsubtype, (reads t).holds_iff.mp ⟨hread, hcode⟩⟩
  · rintro ⟨hmajor, htemporal, hformat, hsubtype, hwave⟩
    obtain ⟨hread, hcode⟩ := (reads t).holds_iff.mpr hwave
    -- what is there is not missing: the other two rules of form follow
    have hidentified : ¬ (t.subtype = none ∨ t.formatType = none) := by
      rintro (hnone | hnone)
      · rw [hnone] at hsubtype
        rcases hsubtype with hsubtype | hsubtype
        · cases hsubtype
        · cases hsubtype
      · rw [hnone] at hformat
        cases hformat
    have hblock : t.block ≠ [] := by
      intro hnil
      obtain ⟨w, hparse, -⟩ := hwave
      rw [hnil] at hparse
      cases hparse
    exact ⟨hmajor, htemporal, hidentified, hformat, hsubtype, hblock, hread, hcode,
      fun _ hnone => hnone.elim⟩

/-- **Acceptance of audio is exact.**  Whatever is proposed, it is accepted just if it is
acceptable, as the format that its block says.  Otherwise the rejection is that of the first rule
that the proposal fails, in the order of the rules for audio, and it is one of a malformed proposal
just if that rule is one of form: a subtype or a format type is missing, there is no block, or the
block cannot be read. -/
theorem audio_acceptance_exact (t : MediaType) :
    (∀ d, ofMediaType t = .ok d ↔ Acceptable t ∧ d.ReadFrom t.block) ∧
    ((∃ d, ofMediaType t = .ok d) ↔ Acceptable t) ∧
    (∀ reason, ofMediaType t = .error reason ↔
      ∃ rule, t.firstFailed? .audio = some rule ∧ rule.report .audio t = some reason) ∧
    ((∃ reason, ofMediaType t = .error reason ∧ reason.isMalformed = true) ↔
      ∃ rule, t.firstFailed? .audio = some rule ∧ rule ∈ Rule.ofForm) := by
  have hsettled := ofMediaType_settled t
  refine ⟨?_, hsettled.ok_iff.trans (acceptable_iff t), hsettled.error_iff, ?_⟩
  · exact hsettled.eq_ok_iff (acceptable_iff t) (fun _ h => readFrom_of_ofMediaType h)
      fun _ _ h h' => h.unique h'
  · exact hsettled.exists_error_iff fun _ _ h => Rule.isMalformed_iff h

/-- The subtype is looked at before the block. -/
example :
    ofMediaType { major := some .audio, subtype := some .i420, formatType := some .waveFormat } =
      .error (.unsupportedSubtype .i420) := by decide

end AudioDescriptor
end MediaIntake
