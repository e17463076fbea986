import Mathlib.Algebra.Group.Nat.Defs
import MediaIntake.Intake.Kind
import MediaIntake.Proofs.Format.Video
import MediaIntake.Proofs.Format.Wave
/-! # What an accepted proposal describes

The descriptor of a proposal is made from a block that was read, and a block is only read if
the fields that no format can do without are there.  So an accepted descriptor is a valid one
(`valid_of_negotiate`): **no proposal is accepted as the empty descriptor**, which stands for no
format.
-/
namespace MediaIntake

/-! ## Valid descriptors -/

/-- An audio format that samples can be in. -/
structure AudioDescriptor.Valid (d : AudioDescriptor) : Prop where
  /-- Integer, floating point or extensible samples. -/
  tag : d.tag.code = 1 ∨ d.tag.code = 3 ∨ d.tag.code = 0xfffe
  channels : d.channels ≠ 0
  sampleRate : d.sampleRate ≠ 0
  blockAlign : d.blockAlign ≠ 0
  /-- The extension is described only where there is one. -/
  plain : d.tag.code ≠ 0xfffe → d.validBits = 0 ∧ d.channelMask = 0

/-- A frame size that a signed width and a signed height can say. -/
structure VideoDescriptor.Valid (d : VideoDescriptor) : Prop where
  width_pos : 1 ≤ d.width.toNat
  width_le : d.width.toNat ≤ 2 ^ 31 - 1
  height_pos : 1 ≤ d.height.toNat
  /-- A height can be the magnitude of the least signed number. -/
  height_le : d.height.toNat ≤ 2 ^ 31

namespace Kind

/-- A descriptor of a format. -/
def Valid : (k : Kind) → k.Descriptor → Prop
  | audio, d => AudioDescriptor.Valid d
  | video, d => VideoDescriptor.Valid d

/-- The empty descriptor is no format. -/
theorem Valid.ne_empty {k : Kind} {d : k.Descriptor} (h : k.Valid d) : d ≠ k.empty := by
  rintro rfl
  cases k with
  | audio => exact AudioDescriptor.Valid.channels h rfl
  | video => exact absurd (VideoDescriptor.Valid.width_pos h) (by decide)

end Kind

/-! ## Audio -/

namespace AudioDescriptor

/-- A wave record with an accepted tag, and with all that a format needs, is described by a
valid descriptor. -/
theorem valid_ofWave {w : WaveFormat} (htag : w.tag ∈ tags) (hw : w.Solid) :
    (ofWave w).Valid := by
  have hcode : w.tag.code = 1 ∨ w.tag.code = 3 ∨ w.tag.code = 0xfffe := by
    obtain h | h | h : w.tag = .pcm ∨ w.tag = .ieeeFloat ∨ w.tag = .extensible := by
      simpa [tags] using htag
    · exact .inl (congrArg WaveTag.code h)
    · exact .inr (.inl (congrArg WaveTag.code h))
    · exact .inr (.inr (congrArg WaveTag.code h))
  obtain ⟨hc, hr, ha⟩ := hw
  unfold ofWave
  cases w.extension with
  | none => exact ⟨hcode, hc, hr, ha, fun _ => ⟨rfl, rfl⟩⟩
  | some extension =>
    dsimp only
    by_cases he : w.tag.isExtensible = true
    · rw [if_pos he]
      have ht : w.tag = .extensible := by simpa [WaveTag.isExtensible] using he
      exact ⟨hcode, hc, hr, ha, fun hne => absurd (congrArg WaveTag.code ht) hne⟩
    · rw [if_neg he]
      exact ⟨hcode, hc, hr, ha, fun _ => ⟨rfl, rfl⟩⟩

/-- An accepted proposal holds a wave record with an accepted tag, and is described by it. -/
theorem exists_wave_of_ofMediaType {t : MediaType} {d : AudioDescriptor}
    (h : ofMediaType t = .ok d) :
    ∃ w, WaveFormat.parse t.block = .ok w ∧ w.tag ∈ tags ∧ d = ofWave w := by
  -- whatever the rules before the block say, the block is read last
  have hb : ofBlock t.block = .ok d := by
    unfold ofMediaType at h
    repeat' split at h
    all_goals first | exact h | cases h
  unfold ofBlock at hb
  cases hp : WaveFormat.parse t.block with
  | error e =>
    rw [hp] at hb
    cases hb
  | ok w =>
    rw [hp] at hb
    dsimp only at hb
    by_cases ht : w.tag ∈ tags
    · rw [if_pos ht] at hb
      cases hb
      exact ⟨w, rfl, ht, rfl⟩
    · rw [if_neg ht] at hb
      cases hb

end AudioDescriptor

/-! ## Video -/

namespace VideoDescriptor

theorem eq_of_toNat_eq {d d' : VideoDescriptor} (hwidth : d.width.toNat = d'.width.toNat)
    (hheight : d.height.toNat = d'.height.toNat) : d = d' := by
  obtain ⟨width, height⟩ := d
  obtain ⟨width', height'⟩ := d'
  obtain rfl : width = width' := UInt32.toNat_inj.mp hwidth
  obtain rfl : height = height' := UInt32.toNat_inj.mp hheight
  rfl

/-- The magnitude of a signed field fits an unsigned one, also that of the least number. -/
theorem toNat_ofBitmap (b : BitmapHeader) :
    (ofBitmap b).width.toNat = b.width.toInt.natAbs ∧
      (ofBitmap b).height.toNat = b.height.toInt.natAbs := by
  have hfits (n : Int32) : (UInt32.ofNat n.toInt.natAbs).toNat = n.toInt.natAbs := by
    have hl := n.le_toInt
    have hu := n.toInt_lt
    exact UInt32.toNat_ofNat_of_lt' (by rw [UInt32.size]; omega)
  exact ⟨hfits b.width, hfits b.height⟩

/-- A frame that has a size is described by a valid descriptor: dropping the sign of the height
loses nothing, not even of the least signed number. -/
theorem valid_ofBitmap {b : BitmapHeader} (hw : 0 < b.width.toInt) (hh : b.height.toInt ≠ 0) :
    (ofBitmap b).Valid := by
  have hw' := b.width.toInt_lt
  have hl' := b.height.le_toInt
  have hh' := b.height.toInt_lt
  obtain ⟨hwidth, hheight⟩ := toNat_ofBitmap b
  constructor
  · omega
  · omega
  · omega
  · omega

/-- Whichever version a block is of, its frame has a size if it was read. -/
theorem size_of_bitmapOf {formatType : Guid} {block : List UInt8} {b : BitmapHeader}
    (h : bitmapOf formatType block = .ok b) : 0 < b.width.toInt ∧ b.height.toInt ≠ 0 := by
  unfold bitmapOf at h
  split at h
  · cases hp : VideoInfo.parse block with
    | error e =>
      rw [hp] at h
      cases h
    | ok info =>
      rw [hp] at h
      cases h
      exact size_of_parseVideo hp
  · cases hp : VideoInfo2.parse block with
    | error e =>
      rw [hp] at h
      cases h
    | ok info =>
      rw [hp] at h
      cases h
      exact size_of_parseVideo hp

/-- An accepted proposal has a format type and holds a frame, and is described by it. -/
theorem exists_bitmap_of_ofMediaType {t : MediaType} {d : VideoDescriptor}
    (h : ofMediaType t = .ok d) :
    ∃ formatType b, t.formatType = some formatType ∧ bitmapOf formatType t.block = .ok b ∧
      d = ofBitmap b := by
  obtain ⟨formatType, hformat, hb⟩ :
      ∃ formatType, t.formatType = some formatType ∧ ofBlock formatType t.block = .ok d := by
    unfold ofMediaType at h
    repeat' split at h
    all_goals first | exact ⟨_, ‹t.formatType = some _›, h⟩ | cases h
  refine ⟨formatType, ?_⟩
  unfold ofBlock at hb
  cases hp : bitmapOf formatType t.block with
  | error e =>
    rw [hp] at hb
    cases hb
  | ok b =>
    rw [hp] at hb
    dsimp only at hb
    by_cases hc : b.compression = .i420
    · rw [if_pos hc] at hb
      cases hb
      exact ⟨b, hformat, rfl, rfl⟩
    · rw [if_neg hc] at hb
      cases hb

end VideoDescriptor

/-! ## Both kinds -/

/-- **An accepted proposal has a valid descriptor.** -/
theorem Kind.valid_of_negotiate {k : Kind} {t : MediaType} {d : k.Descriptor}
    (h : k.negotiate t = .ok d) : k.Valid d := by
  cases k with
  | audio =>
    obtain ⟨w, hw, htag, rfl⟩ := AudioDescriptor.exists_wave_of_ofMediaType h
    exact AudioDescriptor.valid_ofWave htag (WaveFormat.parse_eq_ok_iff.mp hw).1.solid
  | video =>
    obtain ⟨formatType, b, -, hb, rfl⟩ := VideoDescriptor.exists_bitmap_of_ofMediaType h
    obtain ⟨hw, hh⟩ := VideoDescriptor.size_of_bitmapOf hb
    exact VideoDescriptor.valid_ofBitmap hw hh

end MediaIntake
