import MediaIntake.Proofs.Negotiation.Rules
/-! # Acceptance of video

A video endpoint accepts a proposal by its identifiers and by the compression of the frame in its
block (`Acceptable`).  The format type tells which version of the record the block is read as, and
so where its frame stands: the last forty bytes of 88 or of 112.  What is taken from there is the
size (`ReadFrom`).  The rules decide just that (`video_acceptance_exact`): they hold for what is
acceptable, and of anything else the first that fails is told.
-/
namespace MediaIntake

/-- What is read and then looked at in part is looked at in what was read. -/
theorem exists_map_eq_ok_iff {ε α β : Type} {result : Except ε α} {f : α → β} {p : β → Prop} :
    (∃ b, result.map f = .ok b ∧ p b) ↔ ∃ a, result = .ok a ∧ p (f a) := by
  cases result with
  | error error =>
    constructor
    · rintro ⟨b, h, -⟩
      cases h
    · rintro ⟨a, h, -⟩
      cases h
  | ok a =>
    constructor
    · rintro ⟨b, h, hp⟩
      cases h
      exact ⟨a, rfl, hp⟩
    · rintro ⟨a, h, hp⟩
      cases h
      exact ⟨f a, rfl, hp⟩

namespace MediaType

/-- The signed width of the frame in a block, in the version that the format type names. -/
def frameWidth (t : MediaType) : Int :=
  Word.toInt <|
    if t.formatType = some .videoInfo then t.block.extract 52 56 else t.block.extract 76 80

/-- The signed height of that frame, negative where it is stored from the top down. -/
def frameHeight (t : MediaType) : Int :=
  Word.toInt <|
    if t.formatType = some .videoInfo then t.block.extract 56 60 else t.block.extract 80 84

end MediaType

namespace VideoDescriptor

/-- The bytes of the record that a format type names. -/
def recordSize (formatType : Guid) : Nat := if formatType = .videoInfo then 88 else 112

theorem le_recordSize (formatType : Guid) : 40 ≤ recordSize formatType := by
  unfold recordSize
  split <;> decide

/-- A frame that was read stands at the end of its record. -/
theorem of_bitmapOf {formatType : Guid} {block : List UInt8} {b : BitmapHeader}
    (h : bitmapOf formatType block = .ok b) :
    recordSize formatType ≤ block.length ∧
      BitmapHeader.codec.decode (block.drop (recordSize formatType - 40)) = b := by
  unfold bitmapOf at h
  unfold recordSize
  by_cases hfirst : formatType = .videoInfo
  · rw [if_pos hfirst] at h ⊢
    exact of_map_parseVideo VideoInfo.bitmap_decode h
  · rw [if_neg hfirst] at h ⊢
    exact of_map_parseVideo VideoInfo2.bitmap_decode h

section
variable {t : MediaType} {formatType : Guid} (hformat : t.formatType = some formatType)
include hformat

/-- The format type tells what can be wrong with the block. -/
theorem blockError?_eq :
    Kind.video.blockError? t = errorOf? (bitmapOf formatType t.block) := by
  simp only [Kind.blockError?, bitmapOf, hformat, Option.some.injEq]
  split
  · cases VideoInfo.parse t.block <;> rfl
  · cases VideoInfo2.parse t.block <;> rfl

/-- The format type tells where the compression stands. -/
theorem encodingIn_eq :
    Kind.video.encodingIn t = BitmapHeader.compressionIn (recordSize formatType) t.block := by
  simp only [Kind.encodingIn, recordSize, hformat, Option.some.injEq]
  split
  · rfl
  · rfl

/-- The size of a frame that was read. -/
theorem frameSize_of_bitmapOf {b : BitmapHeader} (hb : bitmapOf formatType t.block = .ok b) :
    t.frameWidth = b.width.toInt ∧ t.frameHeight = b.height.toInt := by
  obtain ⟨hlength, hdecode⟩ := of_bitmapOf hb
  obtain ⟨hw, hh⟩ := BitmapHeader.size_decode (le_recordSize formatType) hlength
  rw [← hdecode, hw, hh]
  simp only [MediaType.frameWidth, MediaType.frameHeight, recordSize, hformat, Option.some.injEq]
  split
  · exact ⟨rfl, rfl⟩
  · exact ⟨rfl, rfl⟩

/-- The compression of a frame that was read. -/
theorem encodingIn_of_bitmapOf {b : BitmapHeader} (hb : bitmapOf formatType t.block = .ok b) :
    Kind.video.encodingIn t = b.compression.code.toNat := by
  rw [encodingIn_eq hformat, ← (of_bitmapOf hb).2, BitmapHeader.compression_decode]

end

/-- The accepted compression, by its code. -/
theorem code_mem_encodings_iff {compression : FourCC} :
    compression.code.toNat ∈ Kind.video.encodings ↔ compression = .i420 := by
  have hcodes : Kind.video.encodings = [FourCC.i420.code.toNat] := rfl
  rw [hcodes, List.mem_singleton, UInt32.toNat_inj]
  constructor
  · exact congrArg FourCC.mk
  · exact congrArg FourCC.code

/-- The block of a proposal is read as a frame, and accepted by its compression. -/
theorem reads {t : MediaType} {formatType : Guid} (hformat : t.formatType = some formatType) :
    Kind.video.Reads t (bitmapOf formatType t.block) (·.compression = .i420)
      fun b => .compressionMismatch .i420 b.compression := by
  constructor
  case blockError?_eq => exact blockError?_eq hformat
  case accepts_iff =>
    intro b hb
    rw [encodingIn_of_bitmapOf hformat hb, code_mem_encodings_iff]
  case refuse_eq =>
    intro b hb
    rw [encodingIn_of_bitmapOf hformat hb, Kind.refuseEncoding, UInt32.ofNat_toNat]

/-- **A proposal to a video endpoint is told the first rule that it fails.** -/
theorem ofMediaType_settled (t : MediaType) :
    SettledBy (Rule.order .video) (Rule.fails .video t) (Rule.report .video t)
      (ofMediaType t) := by
  unfold ofMediaType
  refine .ite Rule.fails_major_iff rfl fun _ => ?_
  cases hsubtype : t.subtype with
  | none => exact .stop (Rule.fails_identified_iff.mpr (.inl hsubtype)) rfl
  | some subtype =>
    cases hformat : t.formatType with
    | none => exact .stop (Rule.fails_identified_iff.mpr (.inr hformat)) rfl
    | some formatType =>
      refine .pass (by simp [Rule.fails, hsubtype, hformat]) ?_
      refine .ite ?_ (by rw [Rule.report, hformat, Option.map_some]) fun _ => ?_
      · rw [Rule.fails_formatType_iff hformat, Kind.formatTypes, List.mem_pair, not_or]
      refine .ite Rule.fails_block_iff rfl fun _ => ?_
      refine .ite ?_ (by rw [Rule.report, hsubtype, Option.map_some]) fun _ => ?_
      · rw [Rule.fails_subtype_iff hsubtype, Kind.subtypes, List.mem_singleton]
      refine (reads hformat).settled ofBitmap ?_ ?_
      · intro error herror
        rw [ofBlock, herror]
      · intro b hb
        rw [ofBlock, hb]

/-- What a video endpoint accepts, however the samples depend on each other and whatever sizes
they have. -/
structure Acceptable (t : MediaType) : Prop where
  major : t.major = some .video
  subtype : t.subtype = some .i420
  /-- The block holds a planar frame, in the version that the format type names. -/
  frame :
    (t.formatType = some .videoInfo ∧
      ∃ info, VideoInfo.parse t.block = .ok info ∧ info.bitmap.compression = .i420) ∨
    (t.formatType = some .videoInfo2 ∧
      ∃ info, VideoInfo2.parse t.block = .ok info ∧ info.bitmap.compression = .i420)

/-- A descriptor of the size that a block says, of which the height loses its sign. -/
structure ReadFrom (d : VideoDescriptor) (t : MediaType) : Prop where
  width : (d.width.toNat : Int) = t.frameWidth
  height : d.height.toNat = t.frameHeight.natAbs

theorem ReadFrom.unique {d d' : VideoDescriptor} {t : MediaType} (h : d.ReadFrom t)
    (h' : d'.ReadFrom t) : d = d' := by
  have hwidth : d.width.toNat = d'.width.toNat := Int.ofNat_inj.mp (h.width.trans h'.width.symm)
  exact eq_of_toNat_eq hwidth (h.height.trans h'.height.symm)

theorem readFrom_of_ofMediaType {t : MediaType} {d : VideoDescriptor}
    (h : ofMediaType t = .ok d) : d.ReadFrom t := by
  obtain ⟨formatType, b, hformat, hb, rfl⟩ := exists_bitmap_of_ofMediaType h
  obtain ⟨hpositive, -⟩ := size_of_bitmapOf hb
  obtain ⟨hwidth, hheight⟩ := toNat_ofBitmap b
  obtain ⟨hw, hh⟩ := frameSize_of_bitmapOf hformat hb
  constructor
  · rw [hwidth, hw, Int.natAbs_of_nonneg (Int.le_of_lt hpositive)]
  · rw [hheight, hh]

/-- The version of an accepted frame, by its format type. -/
theorem frame_iff (t : MediaType) :
    ((t.formatType = some .videoInfo ∧
        ∃ info, VideoInfo.parse t.block = .ok info ∧ info.bitmap.compression = .i420) ∨
      (t.formatType = some .videoInfo2 ∧
        ∃ info, VideoInfo2.parse t.block = .ok info ∧ info.bitmap.compression = .i420)) ↔
    ∃ formatType, t.formatType = some formatType ∧
      (formatType = .videoInfo ∨ formatType = .videoInfo2) ∧
      ∃ b, bitmapOf formatType t.block = .ok b ∧ b.compression = .i420 := by
  have hfirst : (∃ b, bitmapOf .videoInfo t.block = .ok b ∧ b.compression = .i420) ↔
      ∃ info, VideoInfo.parse t.block = .ok info ∧ info.bitmap.compression = .i420 :=
    exists_map_eq_ok_iff
  have hsecond : (∃ b, bitmapOf .videoInfo2 t.block = .ok b ∧ b.compression = .i420) ↔
      ∃ info, VideoInfo2.parse t.block = .ok info ∧ info.bitmap.compression = .i420 :=
    exists_map_eq_ok_iff
  constructor
  · rintro (⟨hformat, hinfo⟩ | ⟨hformat, hinfo⟩)
    · exact ⟨_, hformat, .inl rfl, hfirst.mpr hinfo⟩
    · exact ⟨_, hformat, .inr rfl, hsecond.mpr hinfo⟩
  · rintro ⟨formatType, hformat, rfl | rfl, hb⟩
    · exact .inl ⟨hformat, hfirst.mp hb⟩
    · exact .inr ⟨hformat, hsecond.mp hb⟩

/-- **What is accepted fails no rule.** -/
theorem acceptable_iff (t : MediaType) :
    (∀ rule ∈ Rule.order .video, rule.fails .video t = false) ↔ Acceptable t := by
  simp only [Rule.order, List.forall_mem_cons]
  simp only [Rule.fails, decide_eq_false_iff_not, not_not, Option.isSome_eq_false_iff,
    Option.isNone_iff_eq_none]
  simp only [Kind.formatTypes, Kind.subtypes, List.map_cons, List.map_nil, List.mem_cons,
    List.not_mem_nil, or_false]
  constructor
  · rintro ⟨hmajor, -, hformats, -, hsubtype, hread, hcode, -⟩
    refine ⟨hmajor, hsubtype, (frame_iff t).mpr ?_⟩
    obtain ⟨formatType, hformat, hversion⟩ : ∃ formatType, t.formatType = some formatType ∧
        (formatType = .videoInfo ∨ formatType = .videoInfo2) := by
      rcases hformats with hformat | hformat
      · exact ⟨_, hformat, .inl rfl⟩
      · exact ⟨_, hformat, .inr rfl⟩
    exact ⟨formatType, hformat, hversion, (reads hformat).holds_iff.mp ⟨hread, hcode⟩⟩
  · rintro ⟨hmajor, hsubtype, hframe⟩
    obtain ⟨formatType, hformat, hversion, hb⟩ := (frame_iff t).mp hframe
    obtain ⟨hread, hcode⟩ := (reads hformat).holds_iff.mpr hb
    -- what is there is not missing: the other two rules of form follow
    have hidentified : ¬ (t.subtype = none ∨ t.formatType = none) := by
      rw [hsubtype, hformat]
      rintro (hnone | hnone)
      · cases hnone
      · cases hnone
    have hformats : t.formatType = some .videoInfo ∨ t.formatType = some .videoInfo2 := by
      rw [hformat, Option.some_inj, Option.some_inj]
      exact hversion
    have hblock : t.block ≠ [] := by
      intro hnil
      obtain ⟨b, hb, -⟩ := hb
      have hlength := (of_bitmapOf hb).1
      have hsize := le_recordSize formatType
      rw [hnil, List.length_nil] at hlength
      omega
    exact ⟨hmajor, hidentified, hformats, hblock, hsubtype, hread, hcode,
      fun _ hnone => hnone.elim⟩

/-- **Acceptance of video is exact.**  Whatever is proposed, it is accepted just if it is
acceptable, as the size that its block says; how the samples depend on each other and what sizes
they have does not matter.  Otherwise the rejection is that of the first rule that the proposal
fails, in the order of the rules for video, and it is one of a malformed proposal just if that rule
is one of form: a subtype or a format type is missing, there is no block, or the block cannot be
read. -/
theorem video_acceptance_exact (t : MediaType) :
    (∀ d, ofMediaType t = .ok d ↔ Acceptable t ∧ d.ReadFrom t) ∧
    ((∃ d, ofMediaType t = .ok d) ↔ Acceptable t) ∧
    (∀ reason, ofMediaType t = .error reason ↔
      ∃ rule, t.firstFailed? .video = some rule ∧ rule.report .video t = some reason) ∧
    ((∃ reason, ofMediaType t = .error reason ∧ reason.isMalformed = true) ↔
      ∃ rule, t.firstFailed? .video = some rule ∧ rule ∈ Rule.ofForm) ∧
    ∀ temporal fixedSize sampleSize,
      ofMediaType { t with temporal, fixedSize, sampleSize } = ofMediaType t := by
  have hsettled := ofMediaType_settled t
  refine ⟨?_, hsettled.ok_iff.trans (acceptable_iff t), hsettled.error_iff, ?_, ?_⟩
  · exact hsettled.eq_ok_iff (acceptable_iff t) (fun _ h => readFrom_of_ofMediaType h)
      fun _ _ h h' => h.unique h'
  · exact hsettled.exists_error_iff fun _ _ h => Rule.isMalformed_iff h
  · intro temporal fixedSize sampleSize
    rfl

/-- The block is looked at before the subtype. -/
example :
    ofMediaType { major := some .video, subtype := some .pcm, formatType := some .videoInfo } =
      .error .missingFormatBlock := by decide

end VideoDescriptor
end MediaIntake
