import MediaIntake.Descriptor.Audio
import MediaIntake.Proofs.Format.WaveFaults
/-! # Wave records read back

Writing a wave record looks at its extension, reading the block looks at the tag.  The two may
disagree: an extension that the tag does not call for is written and then passed over (`pruned`),
and a tag that calls for an extension which is not there finds an extra size of zero (`flaw?`).
Nothing else can go wrong, so **the record alone settles what is read back** (`parse_encode`), and
its descriptor, which looks at the extension only where the tag does, is the same before and after
(`ofWave_of_parse_encode`).
-/
namespace MediaIntake

namespace WaveFormat

/-- The first flaw for which a record is not read from its own block. -/
def flaw? (w : WaveFormat) : Option BlockFlaw :=
  if w.channels = 0 then some .noChannels
  else if w.sampleRate = 0 then some .noSampleRate
  else if w.blockAlign = 0 then some .noBlockAlign
  else if w.tag = .extensible ∧ w.extension = none then some (.extraSize 0)
  else none

/-- The record without an extension that its tag does not call for. -/
def pruned (w : WaveFormat) : WaveFormat :=
  if w.tag = .extensible then w else { w with extension := none }

/-- With channels, a rate and a frame size only the extension can be missing. -/
theorem flaw?_of_solid {w : WaveFormat} (hs : w.Solid) :
    w.flaw? = if w.tag = .extensible ∧ w.extension = none then some (.extraSize 0) else none := by
  rw [flaw?, if_neg hs.channels, if_neg hs.sampleRate, if_neg hs.blockAlign]

/-- The written extra size leaves room for an extension where there is one. -/
theorem isSome_extension_iff (w : WaveFormat) :
    w.extension.isSome = true ↔ 22 ≤ Word.toNat (w.encode.extract 16 18) := by
  rw [extraSize_encode]
  cases w.extension with
  | none => simp
  | some e => simp

/-- **What is read back of a record**: its first flaw, or all that its tag calls for. -/
theorem parse_encode (w : WaveFormat) :
    parse w.encode =
      match w.flaw? with
      | some flaw => .error (.invalid .wave flaw)
      | none => .ok w.pruned := by
  have hreading := parse_reading w.encode
  have hextension := w.isSome_extension_iff
  rw [w.spelled_encode.decode_head] at hreading
  generalize parse w.encode = result at hreading ⊢
  cases hreading with
  | truncated hshort => exact absurd w.spelled_encode.length_le (Nat.not_le_of_lt hshort)
  | noChannels _ hc => rw [flaw?, if_pos hc]
  | noSampleRate _ hc hr => rw [flaw?, if_neg hc, if_pos hr]
  | noBlockAlign _ hc hr ha => rw [flaw?, if_neg hc, if_neg hr, if_pos ha]
  | @extraSize _ hs ht extra hquoted hx =>
    have he : w.extension = none := by
      rw [← Option.not_isSome_iff_eq_none, hextension]
      omega
    have hzero : extra = 0 := by
      rw [extraSize_encode, he] at hquoted
      exact UInt16.toNat_inj.mp hquoted
    rw [flaw?_of_solid hs, if_pos ⟨ht, he⟩, hzero]
  | truncatedExtension _ _ _ hx hshort =>
    -- an extra size that is large enough comes with an extension
    rw [length_encode, if_pos (hextension.mpr hx)] at hshort
    exact absurd hshort (by decide)
  | extensible hlong hs ht hx =>
    obtain ⟨e, he⟩ := Option.isSome_iff_exists.mp (hextension.mpr hx)
    have hread : extensionCodec.decode (w.encode.drop 18) = e := (extract_eq_iff he hlong).mp rfl
    have hflaw : ¬ (w.tag = .extensible ∧ w.extension = none) := by simp [he]
    rw [flaw?_of_solid hs, if_neg hflaw, pruned, if_pos ht, hread, ← he]
  | plain _ hs ht =>
    have hflaw : ¬ (w.tag = .extensible ∧ w.extension = none) := fun h => ht h.1
    rw [flaw?_of_solid hs, if_neg hflaw, pruned, if_neg ht]

/-- What is read back of a record is the record as its tag has it. -/
theorem eq_pruned_of_parse_encode {w w' : WaveFormat} (h : parse w.encode = .ok w') :
    w' = w.pruned := by
  rw [parse_encode] at h
  cases hf : w.flaw? with
  | some flaw =>
    rw [hf] at h
    cases h
  | none =>
    rw [hf] at h
    exact (Except.ok.inj h).symm

/-- A written record is not nothing. -/
theorem isEmpty_encode (w : WaveFormat) : w.encode.isEmpty = false := by
  have hlength := w.spelled_encode.length_le
  rw [List.isEmpty_eq_false_iff, ← List.length_pos_iff]
  omega

theorem toWaveHead_pruned (w : WaveFormat) : w.pruned.toWaveHead = w.toWaveHead := by
  unfold pruned
  split <;> rfl

end WaveFormat

namespace AudioDescriptor

/-- The extension of a record counts only where its tag is the extensible one. -/
theorem ofWave_pruned (w : WaveFormat) : ofWave w.pruned = ofWave w := by
  by_cases ht : w.tag = .extensible
  · rw [WaveFormat.pruned, if_pos ht]
  · have hext : ¬ w.tag.isExtensible = true := by
      rw [WaveTag.isExtensible, decide_eq_true_iff]
      exact ht
    rw [WaveFormat.pruned, if_neg ht]
    unfold ofWave
    cases w.extension with
    | none => rfl
    | some e =>
      dsimp only
      rw [if_neg hext]

/-- **A record and what is read from its block have the same descriptor**, also where the record
has an extension that its tag does not allow. -/
theorem ofWave_of_parse_encode {w w' : WaveFormat} (h : WaveFormat.parse w.encode = .ok w') :
    ofWave w' = ofWave w := by
  rw [WaveFormat.eq_pruned_of_parse_encode h, ofWave_pruned]

end AudioDescriptor

/-- **What is read back of a written record is settled by the record**, whether or not its tag and
its extension agree.  The block has forty bytes with an extension and eighteen without.  Reading it
reports the first flaw of the record, and of a record without a flaw it gives all but an extension
that the tag does not call for.  So a record comes back as it was exactly if it has channels, a
rate and a frame size and its tag and extension agree; and whatever comes back has the same
descriptor. -/
theorem WaveFormat.round_trip_settled (w : WaveFormat) :
    w.encode.length = (if w.extension.isSome then 40 else 18) ∧
    (parse w.encode =
      match w.flaw? with
      | some flaw => .error (.invalid .wave flaw)
      | none => .ok w.pruned) ∧
    (BlockError.invalid .wave (.extraSize 0)).message =
      "Invalid WAVEFORMATEX: cbSize 0 too small for WAVE_FORMAT_EXTENSIBLE (need 22)" ∧
    (parse w.encode = .ok w ↔
      (w.channels ≠ 0 ∧ w.sampleRate ≠ 0 ∧ w.blockAlign ≠ 0) ∧
      (w.extension.isSome = true ↔ w.tag = .extensible)) ∧
    ∀ w', parse w.encode = .ok w' → AudioDescriptor.ofWave w = AudioDescriptor.ofWave w' := by
  refine ⟨w.length_encode, w.parse_encode, BlockError.message_extraSize 0, ?_, ?_⟩
  · rw [parse_eq_ok_iff, and_iff_left w.spelled_encode]
    constructor
    · intro h
      exact ⟨⟨h.solid.channels, h.solid.sampleRate, h.solid.blockAlign⟩, h.extended⟩
    · rintro ⟨⟨hc, hr, ha⟩, hextended⟩
      exact ⟨⟨hc, hr, ha⟩, hextended⟩
  · intro w' h
    exact (AudioDescriptor.ofWave_of_parse_encode h).symm

/-- An extension that the tag does not call for is written, and not read back. -/
theorem WaveFormat.stray_extension_read_past :
    let w : WaveFormat := { pcm 6 48000 16 with extension := some ⟨16, 0x3f, .pcm⟩ }
    w.encode.length = 40 ∧ parse w.encode = .ok (pcm 6 48000 16) ∧ parse w.encode ≠ .ok w ∧
    AudioDescriptor.ofWave w = AudioDescriptor.ofWave (pcm 6 48000 16) := by
  intro w
  obtain ⟨hlength, hparse, -, hback, hdescriptor⟩ := WaveFormat.round_trip_settled w
  have hread : parse w.encode = .ok (pcm 6 48000 16) := hparse.trans rfl
  refine ⟨hlength, hread, ?_, hdescriptor _ hread⟩
  intro h
  obtain ⟨-, hagree⟩ := hback.mp h
  exact absurd (hagree.mp rfl) (by decide)

end MediaIntake
