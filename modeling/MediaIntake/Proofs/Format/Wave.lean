import MediaIntake.Format.Wave
/-! # Reading and writing wave blocks

Reading a wave block ends in one of eight ways (`Reading`), and the head, the extra size and the
length settle which one.  What is read is told **exactly**: a block is read as a record where the
record could have been read at all, and where the block agrees with the written record on every
byte that is kept (`parse_exact`).  So writing a record that was read gives the canonical form of
its block, in which the extra size is the least possible and nothing trails.
-/
namespace MediaIntake

/-! ## The bytes of a record -/

/-- The stored form of an identifier, field by field. -/
def Guid.fields (g : Guid) : List (List UInt8) :=
  [Word.ofNat 4 g.data1.toNat, Word.ofNat 2 g.data2.toNat, Word.ofNat 2 g.data3.toNat,
    (Word.ofNat 8 g.data4.toNat).reverse]

/-- The sixteen bytes of a head, field by field. -/
def WaveHead.fields (h : WaveHead) : List (List UInt8) :=
  [Word.ofNat 2 h.tag.code.toNat, Word.ofNat 2 h.channels.toNat, Word.ofNat 4 h.sampleRate.toNat,
    Word.ofNat 4 h.byteRate.toNat, Word.ofNat 2 h.blockAlign.toNat,
    Word.ofNat 2 h.bitsPerSample.toNat]

/-- The 22 bytes of an extension, field by field. -/
def WaveExtension.fields (e : WaveExtension) : List (List UInt8) :=
  [Word.ofNat 2 e.validBits.toNat, Word.ofNat 4 e.channelMask.toNat] ++ e.subformat.fields

/-- The bytes of a record, field by field, with the extra size between head and extension. -/
def WaveFormat.fields (w : WaveFormat) : List (List UInt8) :=
  w.toWaveHead.fields ++
    match w.extension with
    | some e => Word.ofNat 2 22 :: e.fields
    | none => [Word.ofNat 2 0]

/-- A head with all that no format can do without. -/
structure WaveHead.Solid (h : WaveHead) : Prop where
  channels : h.channels ≠ 0
  sampleRate : h.sampleRate ≠ 0
  blockAlign : h.blockAlign ≠ 0

namespace WaveFormat

/-- **A record is written as its fields in order**, each word least significant byte first. -/
theorem encode_eq_flatten (w : WaveFormat) : w.encode = w.fields.flatten := by
  unfold encode fields
  cases w.extension with
  | none => rfl
  | some e => rfl

/-! ## Reading -/

/-- The ways that reading a block with this head ends, in the order of the checks. -/
inductive Reading (block : List UInt8) (head : WaveHead) : Except BlockError WaveFormat → Prop where
  | truncated (hlength : block.length < 18) :
    Reading block head (.error (.truncated .wave 18 block.length))
  | noChannels (hlength : 18 ≤ block.length) (hc : head.channels = 0) :
    Reading block head (.error (.invalid .wave .noChannels))
  | noSampleRate (hlength : 18 ≤ block.length) (hc : head.channels ≠ 0)
    (hr : head.sampleRate = 0) :
    Reading block head (.error (.invalid .wave .noSampleRate))
  | noBlockAlign (hlength : 18 ≤ block.length) (hc : head.channels ≠ 0)
    (hr : head.sampleRate ≠ 0) (ha : head.blockAlign = 0) :
    Reading block head (.error (.invalid .wave .noBlockAlign))
  | extraSize (hlength : 18 ≤ block.length) (hs : head.Solid) (ht : head.tag = .extensible)
    {extra : UInt16} (hextra : extra.toNat = Word.toNat (block.extract 16 18))
    (hx : Word.toNat (block.extract 16 18) < 22) :
    Reading block head (.error (.invalid .wave (.extraSize extra)))
  | truncatedExtension (hlength : 18 ≤ block.length) (hs : head.Solid)
    (ht : head.tag = .extensible) (hx : 22 ≤ Word.toNat (block.extract 16 18))
    (hshort : block.length < 40) :
    Reading block head (.error (.truncated .waveExtensible 40 block.length))
  | extensible (hlength : 40 ≤ block.length) (hs : head.Solid) (ht : head.tag = .extensible)
    (hx : 22 ≤ Word.toNat (block.extract 16 18)) :
    Reading block head
      (.ok { head with extension := some (extensionCodec.decode (block.drop 18)) })
  | plain (hlength : 18 ≤ block.length) (hs : head.Solid) (ht : head.tag ≠ .extensible) :
    Reading block head (.ok { head with extension := none })

/-- **Reading ends in one of these ways.** -/
theorem parse_reading (block : List UInt8) :
    Reading block (headCodec.decode block) (parse block) := by
  have hextra : (Word.uint16.decode (block.drop headCodec.width)).toNat =
      Word.toNat (block.extract 16 18) := Word.toNat_decode_uint16 _
  unfold parse
  by_cases hlength : block.length < plainSize
  · rw [if_pos hlength]
    exact .truncated hlength
  have hlength' : 18 ≤ block.length := Nat.le_of_not_lt hlength
  rw [if_neg hlength]
  dsimp only
  generalize headCodec.decode block = head
  generalize Word.uint16.decode (block.drop headCodec.width) = extra at hextra ⊢
  by_cases hc : head.channels = 0
  · rw [if_pos hc]
    exact .noChannels hlength' hc
  by_cases hr : head.sampleRate = 0
  · rw [if_neg hc, if_pos hr]
    exact .noSampleRate hlength' hc hr
  by_cases ha : head.blockAlign = 0
  · rw [if_neg hc, if_neg hr, if_pos ha]
    exact .noBlockAlign hlength' hc hr ha
  rw [if_neg hc, if_neg hr, if_neg ha]
  have hs : head.Solid := ⟨hc, hr, ha⟩
  by_cases ht : head.tag = .extensible
  · have hext : head.tag.isExtensible = true := decide_eq_true ht
    rw [if_pos hext]
    by_cases hx : extra < extensionSize
    · rw [if_pos hx]
      have hx' : Word.toNat (block.extract 16 18) < 22 := by
        rw [← hextra]
        exact hx
      exact .extraSize hlength' hs ht hextra hx'
    have hx' : 22 ≤ Word.toNat (block.extract 16 18) := by
      rw [← hextra]
      exact Nat.le_of_not_lt hx
    rw [if_neg hx]
    by_cases hshort : block.length < extensibleSize
    · rw [if_pos hshort]
      exact .truncatedExtension hlength' hs ht hx' hshort
    · rw [if_neg hshort]
      exact .extensible (Nat.le_of_not_lt hshort) hs ht hx'
  · have hext : ¬ head.tag.isExtensible = true := by
      rw [WaveTag.isExtensible, decide_eq_true_iff]
      exact ht
    rw [if_neg hext]
    exact .plain hlength' hs ht

/-! ## Reading and writing -/

/-- The written head. -/
theorem take_encode (w : WaveFormat) : w.encode.take 16 = headCodec.encode w.toWaveHead :=
  List.take_left' (headCodec.length_encode _)

/-- The written extension. -/
theorem extract_encode {w : WaveFormat} {e : WaveExtension} (h : w.extension = some e) :
    w.encode.extract 18 40 = extensionCodec.encode e := by
  have hhead : (headCodec.encode w.toWaveHead ++ Word.uint16.encode extensionSize).length = 18 := by
    rw [List.length_append, headCodec.length_encode, Word.uint16.length_encode]
    rfl
  have hlength : (extensionCodec.encode e).length = 22 := extensionCodec.length_encode e
  have hsplit : w.encode =
      headCodec.encode w.toWaveHead ++ Word.uint16.encode extensionSize ++
        extensionCodec.encode e := by
    rw [encode, h, List.append_assoc]
  rw [hsplit, List.extract, List.drop_left' hhead]
  exact List.take_of_length_le (Nat.le_of_eq hlength)

/-- The written extra size. -/
theorem extraSize_encode (w : WaveFormat) :
    Word.toNat (w.encode.extract 16 18) = if w.extension.isSome then 22 else 0 := by
  have hhead : (headCodec.encode w.toWaveHead).length = 16 := headCodec.length_encode _
  rw [encode, List.extract, List.drop_left' hhead]
  cases w.extension with
  | none => rfl
  | some e => rfl

/-- The first bytes of a block are the written head where the head is read from them. -/
theorem take_eq_iff {w : WaveFormat} {block : List UInt8} (h : 18 ≤ block.length) :
    block.take 16 = w.encode.take 16 ↔ headCodec.decode block = w.toWaveHead := by
  have hwidth : headCodec.width ≤ block.length := Nat.le_trans (by decide) h
  rw [take_encode]
  exact (headCodec.decode_eq_iff hwidth).symm

/-- The later bytes of a block are the written extension where that is read from them. -/
theorem extract_eq_iff {w : WaveFormat} {e : WaveExtension} {block : List UInt8}
    (he : w.extension = some e) (h : 40 ≤ block.length) :
    block.extract 18 40 = w.encode.extract 18 40 ↔
      extensionCodec.decode (block.drop 18) = e := by
  have hwidth : extensionCodec.width ≤ (block.drop 18).length := by
    rw [extensionCodec_width, List.length_drop]
    omega
  rw [extract_encode he]
  exact (extensionCodec.decode_eq_iff hwidth).symm

/-- A block that says what a record holds, in every byte that reading keeps. -/
def Spelled (w : WaveFormat) (block : List UInt8) : Prop :=
  if w.extension.isSome then
    40 ≤ block.length ∧ 22 ≤ Word.toNat (block.extract 16 18) ∧
      block.take 16 = w.encode.take 16 ∧ block.extract 18 40 = w.encode.extract 18 40
  else 18 ≤ block.length ∧ block.take 16 = w.encode.take 16

/-- A record that can be read: it has what every format needs, and an extension exactly where
its tag says so. -/
structure Readable (w : WaveFormat) : Prop where
  solid : w.Solid
  extended : w.extension.isSome = true ↔ w.tag = .extensible

namespace Spelled
variable {w : WaveFormat} {block : List UInt8}

theorem of_isSome (h : w.Spelled block) (he : w.extension.isSome = true) :
    40 ≤ block.length ∧ 22 ≤ Word.toNat (block.extract 16 18) ∧
      block.take 16 = w.encode.take 16 ∧ block.extract 18 40 = w.encode.extract 18 40 := by
  rw [Spelled, if_pos he] at h
  exact h

theorem length_le (h : w.Spelled block) : 18 ≤ block.length := by
  unfold Spelled at h
  split at h
  · omega
  · exact h.1

theorem decode_head (h : w.Spelled block) : headCodec.decode block = w.toWaveHead := by
  rw [← take_eq_iff h.length_le]
  unfold Spelled at h
  split at h
  · exact h.2.2.1
  · exact h.2

end Spelled

/-- **A block is read as exactly the record that it spells**, and only if that record can be
read. -/
theorem parse_eq_ok_iff {block : List UInt8} {w : WaveFormat} :
    parse block = .ok w ↔ w.Readable ∧ w.Spelled block := by
  have hreading := parse_reading block
  constructor
  · intro h
    rw [h] at hreading
    cases hreading with
    | extensible hlength hs ht hx =>
      have hlength' : 18 ≤ block.length := Nat.le_trans (by decide) hlength
      refine ⟨⟨hs, iff_of_true rfl ht⟩, ?_⟩
      show 40 ≤ block.length ∧ _ ∧ _ ∧ _
      exact ⟨hlength, hx, (take_eq_iff hlength').mpr rfl, (extract_eq_iff rfl hlength).mpr rfl⟩
    | plain hlength hs ht =>
      refine ⟨⟨hs, iff_of_false Bool.false_ne_true ht⟩, ?_⟩
      show 18 ≤ block.length ∧ _
      exact ⟨hlength, (take_eq_iff hlength).mpr rfl⟩
  · rintro ⟨⟨hs, hextended⟩, hspelled⟩
    have hlength := hspelled.length_le
    rw [hspelled.decode_head] at hreading
    -- the record excludes every way to fail, and settles what is read in the other two
    generalize parse block = result at hreading ⊢
    cases hreading with
    | truncated hshort => omega
    | noChannels _ hc => exact absurd hc hs.channels
    | noSampleRate _ _ hr => exact absurd hr hs.sampleRate
    | noBlockAlign _ _ _ ha => exact absurd ha hs.blockAlign
    | extraSize _ _ ht _ hx =>
      obtain ⟨-, hx', -⟩ := hspelled.of_isSome (hextended.mpr ht)
      omega
    | truncatedExtension _ _ ht _ hshort =>
      obtain ⟨hlength', -⟩ := hspelled.of_isSome (hextended.mpr ht)
      omega
    | extensible hlength' _ ht _ =>
      obtain ⟨e, he⟩ := Option.isSome_iff_exists.mp (hextended.mpr ht)
      obtain ⟨-, -, -, hextension⟩ := hspelled.of_isSome (hextended.mpr ht)
      rw [(extract_eq_iff he hlength').mp hextension, ← he]
    | plain _ _ ht =>
      have he : w.extension = none := by
        rw [← Option.not_isSome_iff_eq_none, hextended]
        exact ht
      rw [← he]

/-! ## Canonical blocks -/

/-- The canonical form of a block, with an extension or without: the extra size is the least
possible, and nothing trails. -/
def canonical (extended : Bool) (block : List UInt8) : List UInt8 :=
  if extended then block.take 16 ++ Word.ofNat 2 22 ++ block.extract 18 40
  else block.take 16 ++ Word.ofNat 2 0

/-- A record is written in canonical form. -/
theorem encode_eq_canonical (w : WaveFormat) :
    w.encode = canonical w.extension.isSome w.encode := by
  cases he : w.extension with
  | none =>
    rw [canonical, Option.isSome_none, if_neg Bool.false_ne_true, take_encode, encode, he]
    rfl
  | some e =>
    rw [canonical, Option.isSome_some, if_pos rfl, take_encode, extract_encode he, encode, he,
      List.append_assoc]
    rfl

/-- A record that a block spells is written as the canonical form of that block. -/
theorem Spelled.encode_eq {w : WaveFormat} {block : List UInt8} (h : w.Spelled block) :
    w.encode = canonical w.extension.isSome block := by
  rw [encode_eq_canonical]
  unfold canonical Spelled at *
  cases he : w.extension.isSome with
  | true =>
    rw [he, if_pos rfl] at h
    obtain ⟨-, -, hhead, hextension⟩ := h
    rw [hhead, hextension]
  | false =>
    rw [he, if_neg Bool.false_ne_true] at h
    rw [h.2]
    rfl

/-- A written record spells itself. -/
theorem spelled_encode (w : WaveFormat) : w.Spelled w.encode := by
  have hlength := w.length_encode
  have hextra := w.extraSize_encode
  unfold Spelled
  split at hlength
  · next he =>
    rw [if_pos he] at hextra ⊢
    exact ⟨Nat.le_of_eq hlength.symm, Nat.le_of_eq hextra.symm, rfl, rfl⟩
  · next he =>
    rw [if_neg he]
    exact ⟨Nat.le_of_eq hlength.symm, rfl⟩

/-- A record that was read is read again from its own block. -/
theorem parse_encode_of_parse {block : List UInt8} {w : WaveFormat} (h : parse block = .ok w) :
    parse w.encode = .ok w :=
  parse_eq_ok_iff.mpr ⟨(parse_eq_ok_iff.mp h).1, w.spelled_encode⟩

/-- **The layout of wave blocks is exact.**  A record is written as its fields in order.  A block
is read as a record exactly where the record has channels, a rate and a frame size, has an
extension just if its tag is the extensible one, and is spelled by the block: in the first 16
bytes and, with an extension, in bytes 18 to 40, where the extra size has to be large enough but
is not kept.  What was read is written as the canonical form of its block, of 18 or 40 bytes, and
read from that again. -/
theorem parse_exact (block : List UInt8) (w : WaveFormat) :
    w.encode = w.fields.flatten ∧
    (parse block = .ok w ↔
      (w.channels ≠ 0 ∧ w.sampleRate ≠ 0 ∧ w.blockAlign ≠ 0) ∧
      (w.extension.isSome = true ↔ w.tag = .extensible) ∧
      if w.extension.isSome then
        40 ≤ block.length ∧ 22 ≤ Word.toNat (block.extract 16 18) ∧
          block.take 16 = w.encode.take 16 ∧ block.extract 18 40 = w.encode.extract 18 40
      else 18 ≤ block.length ∧ block.take 16 = w.encode.take 16) ∧
    (parse block = .ok w →
      w.encode = canonical w.extension.isSome block ∧
      w.encode.length = (if w.extension.isSome then 40 else 18) ∧
      parse w.encode = .ok w) := by
  refine ⟨w.encode_eq_flatten, ?_, ?_⟩
  · rw [parse_eq_ok_iff]
    constructor
    · rintro ⟨⟨hs, hextended⟩, hspelled⟩
      exact ⟨⟨hs.channels, hs.sampleRate, hs.blockAlign⟩, hextended, hspelled⟩
    · rintro ⟨⟨hc, hr, ha⟩, hextended, hspelled⟩
      exact ⟨⟨⟨hc, hr, ha⟩, hextended⟩, hspelled⟩
  · intro h
    obtain ⟨-, hspelled⟩ := parse_eq_ok_iff.mp h
    exact ⟨hspelled.encode_eq, w.length_encode, parse_encode_of_parse h⟩

end WaveFormat
end MediaIntake
