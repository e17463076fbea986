import MediaIntake.Proofs.Negotiation.Advertised
/-! # Records that are built

A source that fills in a wave record says how its samples are encoded, how many channels there are
and at which rate, and may add an extension (`Recipe`).  Frame size and data rate follow from that,
and stop at the largest value that their fields hold instead of wrapping around
(`toNat_blockAlign_build`, `toNat_byteRate_build`).  **What is built is what is negotiated**: a
built record can only lack what its recipe leaves at zero, and otherwise it is accepted as the
format that the recipe asks for (`built_wave_negotiated`).
-/
namespace MediaIntake
namespace WaveFormat

/-! ## What no record may lack -/

/-- A field that may not be zero. -/
structure Required where
  /-- What the field is called when it is reported. -/
  name : String
  value : Nat
  flaw : BlockFlaw

/-- The fields of a record that may not be zero, in the order in which they are looked at. -/
def required (w : WaveFormat) : List Required :=
  [⟨"nChannels", w.channels.toNat, .noChannels⟩,
    ⟨"nSamplesPerSec", w.sampleRate.toNat, .noSampleRate⟩,
    ⟨"nBlockAlign", w.blockAlign.toNat, .noBlockAlign⟩]

/-- The first field of a record that is zero and may not be. -/
def lacking? (w : WaveFormat) : Option Required := w.required.find? (·.value = 0)

/-- The fields are looked at one after the other. -/
theorem map_flaw_find? (field : Required) (fields : List Required) :
    ((field :: fields).find? (·.value = 0)).map (·.flaw) =
      if field.value = 0 then some field.flaw
      else (fields.find? (·.value = 0)).map (·.flaw) := by
  by_cases h : field.value = 0
  · rw [if_pos h, List.find?_cons_of_pos (by simpa using h), Option.map_some]
  · rw [if_neg h, List.find?_cons_of_neg (by simpa using h)]

/-- **A record whose tag finds its extension lacks nothing else**: its flaw is that of the first
field that is zero. -/
theorem flaw?_eq_lacking {w : WaveFormat} (h : w.tag = .extensible → w.extension.isSome = true) :
    w.flaw? = w.lacking?.map (·.flaw) := by
  have hc : w.channels.toNat = 0 ↔ w.channels = 0 := @UInt16.toNat_inj w.channels 0
  have hr : w.sampleRate.toNat = 0 ↔ w.sampleRate = 0 := @UInt32.toNat_inj w.sampleRate 0
  have ha : w.blockAlign.toNat = 0 ↔ w.blockAlign = 0 := @UInt16.toNat_inj w.blockAlign 0
  have hextension : ¬ (w.tag = .extensible ∧ w.extension = none) := by
    rintro ⟨htag, hnone⟩
    have hsome := h htag
    rw [hnone] at hsome
    cases hsome
  rw [lacking?, required, map_flaw_find?, map_flaw_find?, map_flaw_find?]
  simp only [hc, hr, ha, List.find?_nil, Option.map_none]
  rw [flaw?, if_neg hextension]

theorem lacking?_eq_none_iff {w : WaveFormat} :
    w.lacking? = none ↔
      w.channels.toNat ≠ 0 ∧ w.sampleRate.toNat ≠ 0 ∧ w.blockAlign.toNat ≠ 0 := by
  simp [lacking?, required]

/-! ## Recipes -/

/-- How the samples of a record that is built are encoded. -/
inductive Samples where
  /-- Integers in containers of so many bits. -/
  | integer (bits : UInt16)
  /-- Floating point numbers of 32 bits. -/
  | float

namespace Samples

def bits : Samples → UInt16
  | integer bits => bits
  | float => 32

def tag : Samples → WaveTag
  | integer _ => .pcm
  | float => .ieeeFloat

end Samples

/-- What a wave record is built from. -/
structure Recipe where
  samples : Samples
  channels : UInt16
  sampleRate : UInt32
  extension : Option WaveExtension

namespace Recipe

/-- The record without the extension. -/
def plain (p : Recipe) : WaveFormat :=
  match p.samples with
  | .integer bits => pcm p.channels p.sampleRate bits
  | .float => ieeeFloat p.channels p.sampleRate

/-- The record of a recipe. -/
def build (p : Recipe) : WaveFormat :=
  match p.extension with
  | some e => p.plain.extend e
  | none => p.plain

/-- The tag of the record, which an extension takes from the samples. -/
def tag (p : Recipe) : WaveTag := if p.extension.isSome then .extensible else p.samples.tag

/-- What the samples of one frame take, in whole bytes. -/
def frameBytes (p : Recipe) : Nat := p.channels.toNat * (p.samples.bits.toNat / 8)

/-- A descriptor that says what the recipe asks for. -/
structure DescribedBy (p : Recipe) (d : AudioDescriptor) : Prop where
  tag : d.tag = p.tag
  channels : d.channels = p.channels
  sampleRate : d.sampleRate = p.sampleRate
  bitsPerSample : d.bitsPerSample = p.samples.bits
  blockAlign : d.blockAlign.toNat = min 65535 p.frameBytes
  byteRate : d.byteRate.toNat = min 4294967295 (p.sampleRate.toNat * d.blockAlign.toNat)
  validBits : d.validBits = p.extension.elim 0 (·.validBits)
  channelMask : d.channelMask = p.extension.elim 0 (·.channelMask)

theorem DescribedBy.unique {p : Recipe} {d d' : AudioDescriptor} (h : p.DescribedBy d)
    (h' : p.DescribedBy d') : d = d' := by
  have hblockAlign := UInt16.toNat_inj.mp (h.blockAlign.trans h'.blockAlign.symm)
  have hbyteRate : d.byteRate = d'.byteRate := by
    rw [← UInt32.toNat_inj, h.byteRate, h'.byteRate, hblockAlign]
  cases d
  cases d'
  rw [AudioDescriptor.mk.injEq]
  exact ⟨h.tag.trans h'.tag.symm, h.channels.trans h'.channels.symm,
    h.sampleRate.trans h'.sampleRate.symm, hbyteRate, hblockAlign,
    h.bitsPerSample.trans h'.bitsPerSample.symm, h.validBits.trans h'.validBits.symm,
    h.channelMask.trans h'.channelMask.symm⟩

/-! ## What is built -/

section
variable (p : Recipe)

/-- **A built record in closed form**: interleaved samples, with an extension or without. -/
theorem build_eq :
    p.build =
      { interleaved p.tag p.channels p.sampleRate p.samples.bits with
        extension := p.extension } := by
  obtain ⟨samples, channels, sampleRate, extension⟩ := p
  cases samples with
  | integer bits => cases extension <;> rfl
  | float => cases extension <;> rfl

/-- The frame size says what a frame takes, as far as its field goes. -/
theorem toNat_blockAlign_build : p.build.blockAlign.toNat = min 65535 p.frameBytes := by
  rw [build_eq]
  exact UInt16.toNat_ofNat_of_lt' (Nat.lt_succ_of_le (Nat.min_le_left _ _))

/-- The data rate says what a second takes, as far as its field goes. -/
theorem toNat_byteRate_build :
    p.build.byteRate.toNat = min 4294967295 (p.sampleRate.toNat * p.build.blockAlign.toNat) := by
  rw [toNat_blockAlign_build, build_eq]
  exact UInt32.toNat_ofNat_of_lt' (Nat.lt_succ_of_le (Nat.min_le_left _ _))

theorem tag_build : p.build.tag = p.tag := by
  rw [build_eq]
  rfl

theorem extension_build : p.build.extension = p.extension := by
  rw [build_eq]

/-- The tag is the extensible one just if there is an extension. -/
theorem tag_eq_extensible_iff : p.tag = .extensible ↔ p.extension.isSome = true := by
  obtain ⟨samples, channels, sampleRate, extension⟩ := p
  cases extension with
  | some e => exact iff_of_true rfl rfl
  | none =>
    refine iff_of_false ?_ Bool.false_ne_true
    cases samples with
    | integer bits => exact (by decide : WaveTag.pcm ≠ .extensible)
    | float => exact (by decide : WaveTag.ieeeFloat ≠ .extensible)

theorem tag_mem_tags : p.tag ∈ AudioDescriptor.tags := by
  obtain ⟨samples, channels, sampleRate, extension⟩ := p
  cases extension with
  | some e => exact (by decide : WaveTag.extensible ∈ AudioDescriptor.tags)
  | none =>
    cases samples with
    | integer bits => exact (by decide : WaveTag.pcm ∈ AudioDescriptor.tags)
    | float => exact (by decide : WaveTag.ieeeFloat ∈ AudioDescriptor.tags)

/-- **A built record can only lack what its recipe leaves at zero.** -/
theorem flaw?_build : p.build.flaw? = p.build.lacking?.map (·.flaw) := by
  refine flaw?_eq_lacking ?_
  rw [tag_build, extension_build]
  exact p.tag_eq_extensible_iff.mp

/-- It lacks nothing where there are channels, a rate and a byte for each sample. -/
theorem lacking?_build_eq_none_iff :
    p.build.lacking? = none ↔
      1 ≤ p.channels.toNat ∧ 1 ≤ p.sampleRate.toNat ∧ 8 ≤ p.samples.bits.toNat := by
  have hfields : p.build.channels = p.channels ∧ p.build.sampleRate = p.sampleRate := by
    rw [build_eq]
    exact ⟨rfl, rfl⟩
  have hframe : min 65535 p.frameBytes ≠ 0 ↔
      p.channels.toNat ≠ 0 ∧ p.samples.bits.toNat / 8 ≠ 0 := by
    rw [← Nat.mul_ne_zero_iff, ← frameBytes]
    omega
  rw [lacking?_eq_none_iff, hfields.1, hfields.2, toNat_blockAlign_build, hframe]
  omega

/-- **The descriptor of a built record says what the recipe asks for.** -/
theorem describedBy_ofWave : p.DescribedBy (AudioDescriptor.ofWave p.build) := by
  have hblockAlign := p.toNat_blockAlign_build
  have hbyteRate := p.toNat_byteRate_build
  have htag := p.tag_eq_extensible_iff
  rw [build_eq] at hblockAlign hbyteRate ⊢
  cases he : p.extension with
  | none =>
    exact ⟨rfl, rfl, rfl, rfl, hblockAlign, hbyteRate, by rw [he]; rfl, by rw [he]; rfl⟩
  | some e =>
    have hext : p.tag.isExtensible = true := by
      rw [he] at htag
      exact decide_eq_true (htag.mpr rfl)
    have hdescriptor : AudioDescriptor.ofWave
        { interleaved p.tag p.channels p.sampleRate p.samples.bits with extension := some e } = _ :=
      if_pos hext
    rw [hdescriptor]
    exact ⟨rfl, rfl, rfl, rfl, hblockAlign, hbyteRate, by rw [he]; rfl, by rw [he]; rfl⟩

end

end Recipe
end WaveFormat

/-! ## Negotiation -/

namespace AudioDescriptor
open WaveFormat (Recipe)

/-- What completes an advertised type is refused for the flaw of its record. -/
theorem ofMediaType_offer_of_flaw {subtype : Guid} (h : subtype ∈ subtypes) {w : WaveFormat}
    {flaw : BlockFlaw} (hflaw : w.flaw? = some flaw) :
    ofMediaType { offer subtype with block := w.encode } =
      .error (.invalidFormatBlock (.invalid .wave flaw)) := by
  have hparse : WaveFormat.parse w.encode = .error (.invalid .wave flaw) := by
    rw [WaveFormat.parse_encode, hflaw]
  rw [ofMediaType_offer h, if_neg (ne_true_of_eq_false w.isEmpty_encode), ofBlock, hparse]

/-- What is reported of a field that is zero. -/
theorem message_of_required {w : WaveFormat} {field : WaveFormat.Required}
    (h : field ∈ w.required) :
    (Rejection.invalidFormatBlock (.invalid .wave field.flaw)).message =
      "invalid format block: Invalid WAVEFORMATEX: " ++ field.name ++ " is zero" := by
  simp only [WaveFormat.required, List.mem_cons, List.not_mem_nil, or_false] at h
  obtain rfl | rfl | rfl := h
  all_goals
    dsimp only
    decide

/-- **What is built is what is negotiated**, for whatever encoding, channels, rate and extension.
Frame size and data rate are those of the samples, as far as their fields go.  A proposal that
holds the record is accepted just if there are channels, a rate and at least a byte for each sample,
as the format that was asked for.  Any other is malformed, and told the first field that is
zero. -/
theorem built_wave_negotiated (p : Recipe) {subtype : Guid} (h : subtype ∈ subtypes)
    (fixedSize : Bool) (sampleSize : UInt32) :
    let w := p.build
    let t : MediaType := { offer subtype with fixedSize, sampleSize, block := w.encode }
    w.blockAlign.toNat = min 65535 (p.channels.toNat * (p.samples.bits.toNat / 8)) ∧
    w.byteRate.toNat = min 4294967295 (p.sampleRate.toNat * w.blockAlign.toNat) ∧
    ((∃ d, ofMediaType t = .ok d) ↔
      1 ≤ p.channels.toNat ∧ 1 ≤ p.sampleRate.toNat ∧ 8 ≤ p.samples.bits.toNat) ∧
    (∀ d, ofMediaType t = .ok d → p.DescribedBy d) ∧
    (∀ reason, ofMediaType t = .error reason →
      ∃ field, w.lacking? = some field ∧
        reason = .invalidFormatBlock (.invalid .wave field.flaw) ∧ reason.isMalformed = true ∧
        reason.message =
          "invalid format block: Invalid WAVEFORMATEX: " ++ field.name ++ " is zero") := by
  intro w t
  have hsame : ofMediaType t = ofMediaType { offer subtype with block := w.encode } := rfl
  refine ⟨p.toNat_blockAlign_build, p.toNat_byteRate_build, ?_⟩
  rw [hsame, ← p.lacking?_build_eq_none_iff]
  have hflaw := p.flaw?_build
  cases hlacking : p.build.lacking? with
  | none =>
    rw [hlacking, Option.map_none] at hflaw
    have hparse : WaveFormat.parse w.encode = .ok w.pruned := by
      rw [WaveFormat.parse_encode, hflaw]
    have htag : w.tag ∈ tags := by
      rw [p.tag_build]
      exact p.tag_mem_tags
    rw [ofMediaType_offer_encode h hparse htag]
    refine ⟨iff_of_true ⟨_, rfl⟩ rfl, ?_, nofun⟩
    intro d hd
    cases hd
    exact p.describedBy_ofWave
  | some field =>
    rw [hlacking, Option.map_some] at hflaw
    rw [ofMediaType_offer_of_flaw h hflaw]
    refine ⟨iff_of_false nofun nofun, nofun, ?_⟩
    intro reason hreason
    cases hreason
    exact ⟨field, rfl, rfl, rfl, message_of_required (List.mem_of_find?_eq_some hlacking)⟩

/-- The most channels at the highest rate are accepted with a frame size and a data rate that stop
at the end of their fields; samples of less than a byte leave the frame size at zero. -/
theorem widest_record_negotiated :
    let widest : Recipe := ⟨.integer 65535, 65535, 4294967295, some ⟨20, 0x3f, .pcm⟩⟩
    let narrow : Recipe := ⟨.integer 7, 2, 48000, none⟩
    Guid.pcm ∈ subtypes ∧
    (∃ d, ofMediaType { offer .pcm with block := widest.build.encode } = .ok d ∧
      d.tag = .extensible ∧ d.blockAlign.toNat = 65535 ∧ d.byteRate.toNat = 4294967295 ∧
      d.validBits = 20 ∧ d.channelMask = 0x3f) ∧
    ∃ reason, ofMediaType { offer .pcm with block := narrow.build.encode } = .error reason ∧
      reason.message = "invalid format block: Invalid WAVEFORMATEX: nBlockAlign is zero" := by
  intro widest narrow
  have hsubtype : Guid.pcm ∈ subtypes := by decide
  refine ⟨hsubtype, ?_, ?_⟩
  · obtain ⟨-, -, haccepted, hdescribed, -⟩ := built_wave_negotiated widest hsubtype false 0
    obtain ⟨d, hd⟩ := haccepted.mpr (by decide)
    have h := hdescribed d hd
    have hblockAlign : d.blockAlign.toNat = 65535 := h.blockAlign.trans (by decide)
    have hbyteRate : d.byteRate.toNat = 4294967295 := by
      rw [h.byteRate, hblockAlign]
      decide
    exact ⟨d, hd, h.tag, hblockAlign, hbyteRate, h.validBits, h.channelMask⟩
  · obtain ⟨-, -, -, -, hrejected⟩ := built_wave_negotiated narrow hsubtype false 0
    have hreason : ofMediaType { offer .pcm with block := narrow.build.encode } =
        .error (.invalidFormatBlock (.invalid .wave .noBlockAlign)) := by decide
    obtain ⟨field, hfield, -, -, hmessage⟩ := hrejected _ hreason
    cases hfield
    exact ⟨_, hreason, hmessage⟩

end AudioDescriptor
end MediaIntake
