import MediaIntake.Proofs.Endpoint.Runs
import MediaIntake.Proofs.Format.ImageSize
import MediaIntake.Proofs.Format.WaveRoundTrip
import MediaIntake.Proofs.Negotiation.Accepted
/-! # What is advertised can be proposed

A video endpoint advertises frames of the requested size, which its header says in signed fields
and so at most as `2 ^ 31 - 1`.  Proposed back this is accepted unless a side is zero, and then
the block is at fault and nothing else (`ofMediaType_advertised`).  An audio endpoint advertises
two subtypes without a block.  The source puts one in: the block of any record that can be read
and has an accepted tag makes them acceptable, **as the format of that very record**
(`ofWave_of_parse_encode`).
-/
namespace MediaIntake

/-! ## Video -/

namespace VideoDescriptor

/-- The header advertised for a requested size says it as far as a signed field can. -/
theorem toInt_signedLength (length : UInt32) :
    (signedLength length).toInt = (min length.toNat (2 ^ 31 - 1) : Nat) :=
  Int32.toInt_ofNat_of_lt (by omega)

/-- The block advertised for a requested size is read unless its header is flawed. -/
theorem parse_block_advertised (requested : VideoDescriptor) :
    VideoInfo.parse (advertised requested).block =
      match (advertisedBitmap requested).flaw? with
      | some flaw => .error (.invalid .videoInfo flaw)
      | none => .ok { bitmap := advertisedBitmap requested } :=
  parseVideo_encode .videoInfo VideoInfo.bitmap { bitmap := advertisedBitmap requested }

theorem length_block_advertised (requested : VideoDescriptor) :
    (advertised requested).block.length = 88 := VideoInfo.codec.length_encode _

/-- A planar frame in a video info block passes every rule before those on the block. -/
theorem ofMediaType_i420 {t : MediaType} (hmajor : t.major = some .video)
    (hsubtype : t.subtype = some .i420) (hformat : t.formatType = some .videoInfo) :
    ofMediaType t =
      if t.block.isEmpty then .error .missingFormatBlock else ofBlock .videoInfo t.block := by
  simp [ofMediaType, hmajor, hsubtype, hformat]

/-- **What is advertised passes every rule but that its frame has a size.** -/
theorem ofMediaType_advertised (requested : VideoDescriptor) :
    ofMediaType (advertised requested) =
      match (advertisedBitmap requested).flaw? with
      | some flaw => .error (.invalidFormatBlock (.invalid .videoInfo flaw))
      | none => .ok (ofBitmap (advertisedBitmap requested)) := by
  have hbytes : ¬ (advertised requested).block.isEmpty = true := by
    rw [List.isEmpty_iff_length_eq_zero, length_block_advertised]
    decide
  rw [ofMediaType_i420 rfl rfl rfl, if_neg hbytes, ofBlock, bitmapOf, if_pos rfl,
    parse_block_advertised]
  cases (advertisedBitmap requested).flaw? with
  | some flaw => rfl
  | none => rfl

/-- The size that an accepted advertisement has. -/
theorem toNat_ofBitmap_advertised (requested : VideoDescriptor) :
    (ofBitmap (advertisedBitmap requested)).width.toNat =
        min requested.width.toNat (2 ^ 31 - 1) ∧
      (ofBitmap (advertisedBitmap requested)).height.toNat =
        min requested.height.toNat (2 ^ 31 - 1) := by
  have hw : (advertisedBitmap requested).width.toInt = _ := toInt_signedLength requested.width
  have hh : (advertisedBitmap requested).height.toInt = _ := toInt_signedLength requested.height
  obtain ⟨hwidth, hheight⟩ := toNat_ofBitmap (advertisedBitmap requested)
  rw [hwidth, hheight, hw, hh]
  exact ⟨Int.natAbs_natCast _, Int.natAbs_natCast _⟩

/-- No more than the clamping keeps an accepted advertisement from being what was requested. -/
theorem ofBitmap_advertised_eq_iff (requested : VideoDescriptor) :
    ofBitmap (advertisedBitmap requested) = requested ↔
      requested.width.toNat ≤ 2 ^ 31 - 1 ∧ requested.height.toNat ≤ 2 ^ 31 - 1 := by
  obtain ⟨hwidth, hheight⟩ := toNat_ofBitmap_advertised requested
  generalize ofBitmap (advertisedBitmap requested) = actual at hwidth hheight ⊢
  constructor
  · rintro rfl
    omega
  · intro h
    exact eq_of_toNat_eq (by omega) (by omega)

/-- An advertisement is accepted where both sides were requested, and refused for its block
otherwise. -/
theorem ofMediaType_advertised_cases (requested : VideoDescriptor) :
    (0 < requested.width.toNat ∧ 0 < requested.height.toNat) ∧
        ofMediaType (advertised requested) = .ok (ofBitmap (advertisedBitmap requested)) ∨
      ¬ (0 < requested.width.toNat ∧ 0 < requested.height.toNat) ∧
        ∃ error, ofMediaType (advertised requested) = .error (.invalidFormatBlock error) := by
  have hw : (advertisedBitmap requested).width.toInt = _ := toInt_signedLength requested.width
  have hh : (advertisedBitmap requested).height.toInt = _ := toInt_signedLength requested.height
  rw [ofMediaType_advertised]
  obtain ⟨hw0, hf⟩ | ⟨-, hh0, hf⟩ | ⟨hw0, hh0, hf⟩ := (advertisedBitmap requested).flaw?_cases
  · rw [hf]
    exact .inr ⟨by omega, _, rfl⟩
  · rw [hf]
    exact .inr ⟨by omega, _, rfl⟩
  · rw [hf]
    exact .inl ⟨by omega, rfl⟩

/-- What is advertised for a requested size: an uncompressed planar frame, of the size that was
requested as far as a signed field can say it. -/
structure Advertises (requested : VideoDescriptor) (t : MediaType) : Prop where
  major : t.major = some .video
  subtype : t.subtype = some .i420
  formatType : t.formatType = some .videoInfo
  length_block : t.block.length = 88
  header : ∀ info, VideoInfo.parse t.block = .ok info →
    info.bitmap.width.toInt = (min requested.width.toNat (2 ^ 31 - 1) : Nat) ∧
    info.bitmap.height.toInt = (min requested.height.toNat (2 ^ 31 - 1) : Nat) ∧
    info.bitmap.compression = .i420 ∧ info.bitmap.imageSize = t.sampleSize
  /-- Rows are filled up to whole 32-bit words, and the size stops at what 32 bits can say. -/
  sampleSize : t.sampleSize.toNat =
    min (2 ^ 32 - 1) (4 * ((12 * min requested.width.toNat (2 ^ 31 - 1)) ⌈/⌉ 32) *
      min requested.height.toNat (2 ^ 31 - 1))
  fixedSize : t.fixedSize = true ↔ t.sampleSize ≠ 0

theorem advertises_advertised (requested : VideoDescriptor) :
    requested.Advertises (advertised requested) := by
  have hw : (advertisedBitmap requested).width.toInt = _ := toInt_signedLength requested.width
  have hh : (advertisedBitmap requested).height.toInt = _ := toInt_signedLength requested.height
  refine ⟨rfl, rfl, rfl, length_block_advertised requested, ?_, ?_, decide_eq_true_iff⟩
  · intro info hinfo
    rw [parse_block_advertised] at hinfo
    cases hf : (advertisedBitmap requested).flaw? with
    | some flaw =>
      rw [hf] at hinfo
      cases hinfo
    | none =>
      rw [hf] at hinfo
      cases hinfo
      exact ⟨hw, hh, rfl, rfl⟩
  · have hsize : (advertised requested).sampleSize.toNat = _ :=
      BitmapHeader.toNat_imageSize_i420 (signedLength requested.width)
        (signedLength requested.height)
    rw [hsize, toInt_signedLength, toInt_signedLength, Int.natAbs_natCast, Int.natAbs_natCast]

end VideoDescriptor

/-! ## Audio -/

namespace AudioDescriptor

/-- What is advertised for a subtype. Rate and layout are for the source to fill in. -/
def offer (subtype : Guid) : MediaType :=
  { major := some .audio, subtype := some subtype, formatType := some .waveFormat }

theorem advertised?_eq (index : Nat) :
    advertised? index = [offer .ieeeFloat, offer .pcm][index]? := by
  rw [advertised?, ← List.getElem?_map]
  rfl

/-- What is advertised passes every rule before those on the block. -/
theorem ofMediaType_offer {subtype : Guid} (h : subtype ∈ subtypes) (block : List UInt8) :
    ofMediaType { offer subtype with block } =
      if block.isEmpty then .error .missingFormatBlock else ofBlock block := by
  have hrules : ofMediaType { offer subtype with block } =
      if subtype ∉ subtypes then .error (.unsupportedSubtype subtype)
      else if block.isEmpty then .error .missingFormatBlock
      else ofBlock block := rfl
  rw [hrules, if_neg (not_not.mpr h)]

/-- **The block of a record completes what is advertised**, if the record can be read again and
has an accepted tag. -/
theorem ofMediaType_offer_encode {subtype : Guid} (h : subtype ∈ subtypes) {w w' : WaveFormat}
    (hparse : WaveFormat.parse w.encode = .ok w') (ht : w.tag ∈ tags) :
    ofMediaType { offer subtype with block := w.encode } = .ok (ofWave w) := by
  have ht' : w'.tag ∈ tags := by
    rw [WaveFormat.eq_pruned_of_parse_encode hparse, WaveFormat.toWaveHead_pruned]
    exact ht
  rw [ofMediaType_offer h, if_neg (ne_true_of_eq_false w.isEmpty_encode), ofBlock, hparse]
  dsimp only
  rw [if_pos ht', ofWave_of_parse_encode hparse]

end AudioDescriptor

/-! ## Endpoints -/

namespace Endpoint

/-- What comes of proposing to an endpoint what was advertised for a requested size. -/
structure Reaches (e : Endpoint .video) (requested : VideoDescriptor) (t : MediaType) : Prop where
  accepted_iff : (e.step (.propose t)).1.result = .done ↔
    0 < requested.width.toNat ∧ 0 < requested.height.toNat
  /-- An accepted size is the requested one, unless that is more than a signed field can say. -/
  accepted : (e.step (.propose t)).1.result = .done →
    let actual : VideoDescriptor := (e.step (.propose t)).2.actual
    actual.width.toNat = min requested.width.toNat (2 ^ 31 - 1) ∧
    actual.height.toNat = min requested.height.toNat (2 ^ 31 - 1) ∧
    (actual = requested ↔
      (1 ≤ requested.width.toNat ∧ requested.width.toNat ≤ 2 ^ 31 - 1) ∧
      (1 ≤ requested.height.toNat ∧ requested.height.toNat ≤ 2 ^ 31 - 1))
  rejected : (e.step (.propose t)).1.result ≠ .done →
    (∃ error, (e.step (.propose t)).1.result = .failed (.rejected (.invalidFormatBlock error))) ∧
    (e.step (.propose t)).2.actual = e.actual

theorem reaches_advertised (e : Endpoint .video) (requested : VideoDescriptor) :
    e.Reaches requested (VideoDescriptor.advertised requested) := by
  obtain ⟨hsize, hok⟩ | ⟨hsize, error, herror⟩ :=
    VideoDescriptor.ofMediaType_advertised_cases requested
  · have hstep := e.step_propose_of_ok (t := VideoDescriptor.advertised requested) hok
    obtain ⟨hwidth, hheight⟩ := VideoDescriptor.toNat_ofBitmap_advertised requested
    have hsame := VideoDescriptor.ofBitmap_advertised_eq_iff requested
    constructor
    · rw [hstep]
      exact iff_of_true rfl hsize
    · intro _
      rw [hstep]
      refine ⟨hwidth, hheight, hsame.trans ?_⟩
      omega
    · intro h
      rw [hstep] at h
      exact absurd rfl h
  · have hstep := e.step_propose_of_error (t := VideoDescriptor.advertised requested) herror
    constructor
    · rw [hstep]
      exact iff_of_false nofun hsize
    · intro h
      rw [hstep] at h
      cases h
    · intro _
      rw [hstep]
      exact ⟨⟨error, rfl⟩, rfl⟩

/-- **Advertisement and negotiation agree**, whatever is requested and whatever an endpoint has
done before.  A video endpoint advertises one type, and proposing that makes the requested size
actual, as far as a signed field can say it, unless a side of it is zero.  An audio endpoint
advertises two types whatever is requested; both lack a block, and completed with that of a
record (one that was read from some block, or whose own block can be read) they make its format
actual. -/
theorem advertised_negotiable :
    (∀ e : Endpoint .video,
      (∃ t, (e.step (.enumerate 0)).1.result = .mediaType (some t) ∧
        VideoDescriptor.Advertises e.requested t ∧
        ∀ later : Endpoint .video, later.Reaches e.requested t) ∧
      ∀ index, 0 < index → (e.step (.enumerate index)).1.result = .mediaType none) ∧
    ∀ e : Endpoint .audio,
      (∀ index, (e.step (.enumerate index)).1.result =
        .mediaType [AudioDescriptor.offer .ieeeFloat, AudioDescriptor.offer .pcm][index]?) ∧
      ∀ t ∈ [AudioDescriptor.offer .ieeeFloat, AudioDescriptor.offer .pcm],
        ∀ later : Endpoint .audio,
          (later.step (.propose t)).1.result = .failed (.rejected .missingFormatBlock) ∧
          ∀ w : WaveFormat,
            (∃ block, WaveFormat.parse block = .ok w) ∨ (∃ w', WaveFormat.parse w.encode = .ok w') →
            w.tag = .pcm ∨ w.tag = .ieeeFloat ∨ w.tag = .extensible →
            (later.step (.propose { t with block := w.encode })).1.result = .done ∧
            (later.step (.propose { t with block := w.encode })).2.actual =
              AudioDescriptor.ofWave w := by
  refine ⟨fun e => ⟨⟨VideoDescriptor.advertised e.requested, ?_, ?_, ?_⟩, ?_⟩,
    fun e => ⟨?_, ?_⟩⟩
  · rw [step_enumerate]
    rfl
  · exact VideoDescriptor.advertises_advertised e.requested
  · exact fun later => later.reaches_advertised e.requested
  · intro index hindex
    obtain ⟨index, rfl⟩ := Nat.exists_eq_succ_of_ne_zero (Nat.ne_of_gt hindex)
    rw [step_enumerate]
    rfl
  · intro index
    rw [step_enumerate, ← AudioDescriptor.advertised?_eq]
    rfl
  · intro t ht later
    obtain ⟨subtype, hsubtype, rfl⟩ : ∃ subtype ∈ AudioDescriptor.subtypes,
        AudioDescriptor.offer subtype = t := List.mem_map.mp ht
    constructor
    · have hmissing : Kind.audio.negotiate (AudioDescriptor.offer subtype) =
          .error .missingFormatBlock := AudioDescriptor.ofMediaType_offer hsubtype []
      rw [later.step_propose_of_error hmissing]
    · intro w hw htag
      have hparse : ∃ w', WaveFormat.parse w.encode = .ok w' := by
        obtain ⟨block, hblock⟩ | hown := hw
        · exact ⟨w, WaveFormat.parse_encode_of_parse hblock⟩
        · exact hown
      obtain ⟨w', hw'⟩ := hparse
      have htag' : w.tag ∈ AudioDescriptor.tags := by simpa [AudioDescriptor.tags] using htag
      have hok : Kind.audio.negotiate { AudioDescriptor.offer subtype with block := w.encode } =
          .ok (AudioDescriptor.ofWave w) :=
        AudioDescriptor.ofMediaType_offer_encode hsubtype hw' htag'
      rw [later.step_propose_of_ok hok]
      exact ⟨rfl, rfl⟩

/-- Frames higher than a signed field can say, which saturate the sample size as well, and six
channels in the extensible form. -/
theorem tall_frame_and_surround_negotiable :
    let tall : VideoDescriptor := ⟨3, 4294967295⟩
    let e : Endpoint .video := { init .video with requested := tall }
    let surround := (WaveFormat.pcm 6 48000 16).extend ⟨16, 0x3f, .pcm⟩
    let proposal := { AudioDescriptor.offer .ieeeFloat with block := surround.encode }
    (∃ t, (e.step (.enumerate 0)).1.result = .mediaType (some t) ∧ tall.Advertises t ∧
      (e.step (.propose t)).1.result = .done ∧
      (e.step (.propose t)).2.actual = (⟨3, 2147483647⟩ : VideoDescriptor)) ∧
    (e.step (.enumerate 1)).1.result = .mediaType none ∧
    WaveFormat.parse surround.encode = .ok surround ∧
    ((init .audio).step (.propose proposal)).1.result = .done ∧
    ((init .audio).step (.propose proposal)).2.actual = AudioDescriptor.ofWave surround := by
  intro tall e surround proposal
  obtain ⟨hvideo, haudio⟩ := advertised_negotiable
  obtain ⟨⟨t, ht, hadvertises, hreaches⟩, hend⟩ := hvideo e
  have hdone : (e.step (.propose t)).1.result = .done := (hreaches e).accepted_iff.mpr (by decide)
  obtain ⟨hwidth, hheight, -⟩ := (hreaches e).accepted hdone
  have hparse : WaveFormat.parse surround.encode = .ok surround := by decide
  obtain ⟨-, hcompleted⟩ :=
    (haudio (init .audio)).2 (AudioDescriptor.offer .ieeeFloat) List.mem_cons_self (init .audio)
  refine ⟨⟨t, ht, hadvertises, hdone, ?_⟩, hend 1 (by decide), hparse,
    hcompleted surround (.inr ⟨surround, hparse⟩) (by decide)⟩
  exact VideoDescriptor.eq_of_toNat_eq hwidth hheight

end Endpoint
end MediaIntake
