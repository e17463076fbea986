import MediaIntake.Format.Wave
import MediaIntake.Json.Record
/-! # Audio descriptors

The descriptor of an audio format serves both ends of a negotiation: what a consumer asks for
and what a source has connected with.  The empty descriptor stands for no format.  The two
fields of the extension are filled in for extensible formats only, and only then printed.
-/
namespace MediaIntake

structure AudioDescriptor where
  tag : WaveTag := .unknown
  channels : UInt16 := 0
  sampleRate : UInt32 := 0
  byteRate : UInt32 := 0
  blockAlign : UInt16 := 0
  bitsPerSample : UInt16 := 0
  validBits : UInt16 := 0
  channelMask : UInt32 := 0
  deriving DecidableEq, Repr

namespace AudioDescriptor

/-- No format. -/
def empty : AudioDescriptor := {}

def isEmpty (d : AudioDescriptor) : Bool := d = empty

/-- The descriptor of a wave record. -/
def ofWave (w : WaveFormat) : AudioDescriptor :=
  let plain : AudioDescriptor :=
    { tag := w.tag, channels := w.channels, sampleRate := w.sampleRate, byteRate := w.byteRate,
      blockAlign := w.blockAlign, bitsPerSample := w.bitsPerSample }
  match w.extension with
  | some e =>
    if w.tag.isExtensible then { plain with validBits := e.validBits, channelMask := e.channelMask }
    else plain
  | none => plain

def text (d : AudioDescriptor) : String :=
  let extension :=
    if d.tag.isExtensible then
      " valid_bits_per_sample=" ++ toString d.validBits.toNat
        ++ " channel_mask=0x" ++ Digits.hexShort d.channelMask.toNat
    else ""
  "format_tag=" ++ d.tag.text ++ " channels=" ++ toString d.channels.toNat
    ++ " sample_rate=" ++ toString d.sampleRate.toNat
    ++ " bytes_per_second=" ++ toString d.byteRate.toNat
    ++ " block_align=" ++ toString d.blockAlign.toNat
    ++ " bits_per_sample=" ++ toString d.bitsPerSample.toNat ++ extension

/-- How descriptors are stored. -/
def schema : Json.Schema AudioDescriptor where
  name := "AudioConfig"
  empty := empty
  fields := [
    ⟨"format_tag", .bits16, (·.tag.code.toNat), fun n d => { d with tag := ⟨UInt16.ofNat n⟩ }⟩,
    ⟨"channels", .bits16, (·.channels.toNat), fun n d => { d with channels := UInt16.ofNat n }⟩,
    ⟨"sample_rate", .bits32, (·.sampleRate.toNat),
      fun n d => { d with sampleRate := UInt32.ofNat n }⟩,
    ⟨"bytes_per_second", .bits32, (·.byteRate.toNat),
      fun n d => { d with byteRate := UInt32.ofNat n }⟩,
    ⟨"block_align", .bits16, (·.blockAlign.toNat),
      fun n d => { d with blockAlign := UInt16.ofNat n }⟩,
    ⟨"bits_per_sample", .bits16, (·.bitsPerSample.toNat),
      fun n d => { d with bitsPerSample := UInt16.ofNat n }⟩,
    ⟨"valid_bits_per_sample", .bits16, (·.validBits.toNat),
      fun n d => { d with validBits := UInt16.ofNat n }⟩,
    ⟨"channel_mask", .bits32, (·.channelMask.toNat),
      fun n d => { d with channelMask := UInt32.ofNat n }⟩]

end AudioDescriptor
end MediaIntake
