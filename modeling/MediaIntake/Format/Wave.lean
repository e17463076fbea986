import MediaIntake.Format.BlockError
import MediaIntake.Media.Guid
/-! # Wave format blocks

A wave block starts with a head of sixteen bytes and the size of what is extra, two bytes.
With the extensible tag an extension of 22 bytes follows:

    offset  size  field                     offset  size  field
         0     2  format tag                    14     2  bits per sample
         2     2  channels                      16     2  extra size
         4     4  sample frames a second        18     2  valid bits    (extensible only)
         8     4  bytes a second                20     4  channel mask  (extensible only)
        12     2  bytes of a sample frame       24    16  subformat     (extensible only)

Reading checks the length, then channels, rate and frame size against zero, then what the
extension needs.  The extra size is checked but not kept: writing puts in 22 or 0.
-/
namespace MediaIntake

/-- The tag that names the encoding of a wave record. -/
structure WaveTag where
  code : UInt16
  deriving DecidableEq, Repr

namespace WaveTag

/-- No format. -/
def unknown : WaveTag := ⟨0x0000⟩

/-- Integer samples. -/
def pcm : WaveTag := ⟨0x0001⟩

/-- Floating point samples. -/
def ieeeFloat : WaveTag := ⟨0x0003⟩

/-- The encoding stands in the subformat of the extension. -/
def extensible : WaveTag := ⟨0xfffe⟩

def isExtensible (t : WaveTag) : Bool := t = extensible

def text (t : WaveTag) : String :=
  if t = unknown then "UNKNOWN"
  else if t = pcm then "PCM"
  else if t = ieeeFloat then "IEEE_FLOAT"
  else if t = extensible then "EXTENSIBLE"
  else "0x" ++ Digits.hex 4 t.code.toNat

end WaveTag

/-- The part of a wave record that only extensible formats have. -/
structure WaveExtension where
  /-- Bits of precision in each container sample. -/
  validBits : UInt16
  /-- Speaker positions, one bit each. -/
  channelMask : UInt32
  /-- Encoding of the samples. -/
  subformat : Guid
  deriving DecidableEq, Repr

/-- The fields that every wave record starts with. -/
structure WaveHead where
  tag : WaveTag
  channels : UInt16
  /-- Sample frames a second. -/
  sampleRate : UInt32
  /-- Average bytes a second. -/
  byteRate : UInt32
  /-- Bytes of one sample frame. -/
  blockAlign : UInt16
  /-- Container size of one sample in bits. -/
  bitsPerSample : UInt16
  deriving DecidableEq, Repr

/-- A wave record. One that was read has an extension exactly when its tag is extensible. -/
structure WaveFormat extends WaveHead where
  extension : Option WaveExtension
  deriving DecidableEq, Repr

namespace WaveFormat

/-! ## Building records -/

/-- Interleaved samples of a whole number of bytes; frame size and data rate stop at the
largest value that their fields hold. -/
def interleaved (tag : WaveTag) (channels : UInt16) (sampleRate : UInt32)
    (bitsPerSample : UInt16) : WaveFormat :=
  let blockAlign := min 65535 (channels.toNat * (bitsPerSample.toNat / 8))
  let byteRate := min 4294967295 (sampleRate.toNat * blockAlign)
  { tag, channels, sampleRate, byteRate := UInt32.ofNat byteRate,
    blockAlign := UInt16.ofNat blockAlign, bitsPerSample, extension := none }

/-- Interleaved integer samples. -/
def pcm (channels : UInt16) (sampleRate : UInt32) (bitsPerSample : UInt16) : WaveFormat :=
  interleaved .pcm channels sampleRate bitsPerSample

/-- Interleaved floating point samples of 32 bits. -/
def ieeeFloat (channels : UInt16) (sampleRate : UInt32) : WaveFormat :=
  interleaved .ieeeFloat channels sampleRate 32

/-- The extensible form of a record, with the same rate and layout. -/
def extend (w : WaveFormat) (e : WaveExtension) : WaveFormat :=
  { w with tag := .extensible, extension := some e }

/-! ## Blocks -/

/-- Size of a record without extension. -/
def plainSize : Nat := 18

/-- Size of a record with extension. -/
def extensibleSize : Nat := 40

/-- Extra size of a record with extension. -/
def extensionSize : UInt16 := 22

/-- The sixteen bytes of a head. -/
def headCodec : Codec WaveHead :=
  (Word.uint16.prod <| Word.uint16.prod <| Word.uint32.prod <| Word.uint32.prod <|
    Word.uint16.prod Word.uint16).imap
    (fun p => ⟨⟨p.1⟩, p.2.1, p.2.2.1, p.2.2.2.1, p.2.2.2.2.1, p.2.2.2.2.2⟩)
    (fun h => (h.tag.code, h.channels, h.sampleRate, h.byteRate, h.blockAlign, h.bitsPerSample))
    (fun _ => rfl) (fun _ => rfl)

/-- The 22 bytes of an extension. -/
def extensionCodec : Codec WaveExtension :=
  (Word.uint16.prod <| Word.uint32.prod Guid.codec).imap
    (fun p => ⟨p.1, p.2.1, p.2.2⟩) (fun e => (e.validBits, e.channelMask, e.subformat))
    (fun _ => rfl) (fun _ => rfl)

/-- The block of a record: 40 bytes with an extension, 18 without. -/
def encode (w : WaveFormat) : List UInt8 :=
  headCodec.encode w.toWaveHead ++
    match w.extension with
    | some e => Word.uint16.encode extensionSize ++ extensionCodec.encode e
    | none => Word.uint16.encode 0

/-- The record that a block starts with. -/
def parse (block : List UInt8) : Except BlockError WaveFormat :=
  if block.length < plainSize then
    .error (.truncated .wave plainSize block.length)
  else
    let head := headCodec.decode block
    let extra := Word.uint16.decode (block.drop headCodec.width)
    if head.channels = 0 then .error (.invalid .wave .noChannels)
    else if head.sampleRate = 0 then .error (.invalid .wave .noSampleRate)
    else if head.blockAlign = 0 then .error (.invalid .wave .noBlockAlign)
    else if head.tag.isExtensible then
      if extra < extensionSize then .error (.invalid .wave (.extraSize extra))
      else if block.length < extensibleSize then
        .error (.truncated .waveExtensible extensibleSize block.length)
      else .ok { head with extension := some (extensionCodec.decode (block.drop plainSize)) }
    else .ok { head with extension := none }

theorem headCodec_width : headCodec.width = 16 := rfl

theorem extensionCodec_width : extensionCodec.width = 22 := rfl

theorem length_encode (w : WaveFormat) :
    w.encode.length = if w.extension.isSome then extensibleSize else plainSize := by
  unfold encode
  cases w.extension <;>
    simp [headCodec.length_encode, extensionCodec.length_encode, Word.uint16.length_encode,
      headCodec_width, extensionCodec_width] <;> rfl

end WaveFormat
end MediaIntake
