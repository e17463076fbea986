import MediaIntake.Format.BlockCursor
import MediaIntake.Proofs.Format.Wave
import MediaIntake.Proofs.Rules
/-! # What is wrong with a wave block

A block that cannot be read as a wave record fails one of six demands, which its bytes alone decide
(`Demand.fails`).  **What is reported is the first of them that it fails** (`parse_settled`).

The fields could also be read one after the other, with a cursor that looks for itself whether the
block goes on (`BlockCursor`).  Both lengths are demanded before the fields are read that they are
for, so that cursor never comes to the end of a block, and reading with it is the same
(`parseFieldwise_eq_parse`).
-/
namespace MediaIntake

/-! ## Where the fields stand -/

/-- The fields of a head as numbers, each in its place of a block. -/
structure WaveHead.StandsIn (h : WaveHead) (block : List UInt8) : Prop where
  tag : h.tag.code.toNat = Word.toNat (block.extract 0 2)
  channels : h.channels.toNat = Word.toNat (block.extract 2 4)
  sampleRate : h.sampleRate.toNat = Word.toNat (block.extract 4 8)
  byteRate : h.byteRate.toNat = Word.toNat (block.extract 8 12)
  blockAlign : h.blockAlign.toNat = Word.toNat (block.extract 12 14)
  bitsPerSample : h.bitsPerSample.toNat = Word.toNat (block.extract 14 16)

namespace WaveFormat

/-- The fields of a head start at 0, 2, 4, 8, 12 and 14. -/
theorem headCodec_decode (block : List UInt8) :
    headCodec.decode block =
      ⟨⟨Word.uint16.decode block⟩, Word.uint16.decode (block.drop 2),
        Word.uint32.decode (block.drop 4), Word.uint32.decode (block.drop 8),
        Word.uint16.decode (block.drop 12), Word.uint16.decode (block.drop 14)⟩ := by
  have h16 : Word.uint16.width = 2 := rfl
  have h32 : Word.uint32.width = 4 := rfl
  simp only [headCodec, Codec.imap, Codec.prod, h16, h32, List.drop_drop]

/-- The fields of an extension start at 0, 2 and 6. -/
theorem extensionCodec_decode (block : List UInt8) :
    extensionCodec.decode block =
      ⟨Word.uint16.decode block, Word.uint32.decode (block.drop 2),
        Guid.codec.decode (block.drop 6)⟩ := by
  have h16 : Word.uint16.width = 2 := rfl
  have h32 : Word.uint32.width = 4 := rfl
  simp only [extensionCodec, Codec.imap, Codec.prod, h16, h32, List.drop_drop]

/-- What is read as a head stands in the first sixteen bytes. -/
theorem standsIn_decode (block : List UInt8) : (headCodec.decode block).StandsIn block := by
  rw [headCodec_decode]
  constructor
  · exact Word.toNat_decode_uint16 block
  · exact Word.toNat_decode_uint16 (block.drop 2)
  · exact Word.toNat_decode_uint32 (block.drop 4)
  · exact Word.toNat_decode_uint32 (block.drop 8)
  · exact Word.toNat_decode_uint16 (block.drop 12)
  · exact Word.toNat_decode_uint16 (block.drop 14)

end WaveFormat

/-! ## Reading field by field -/

namespace WaveFormat
open BlockCursor (Reader next next_bind_of_le)

/-- Reads a head and the extra size that stands behind it. -/
def readHead : Reader (WaveHead × UInt16) := do
  let tag ← next Word.uint16
  let channels ← next Word.uint16
  let sampleRate ← next Word.uint32
  let byteRate ← next Word.uint32
  let blockAlign ← next Word.uint16
  let bitsPerSample ← next Word.uint16
  let extra ← next Word.uint16
  return (⟨⟨tag⟩, channels, sampleRate, byteRate, blockAlign, bitsPerSample⟩, extra)

def readExtension : Reader WaveExtension := do
  let validBits ← next Word.uint16
  let channelMask ← next Word.uint32
  let subformat ← next Guid.codec
  return ⟨validBits, channelMask, subformat⟩

/-- The record that a block starts with, read field by field. -/
def parseFieldwise (block : List UInt8) : Except BlockError WaveFormat :=
  if block.length < plainSize then .error (.truncated .wave plainSize block.length)
  else
    match readHead ⟨.wave, block, 0⟩ with
    | .error e => .error e
    | .ok ((head, extra), cursor) =>
      if head.channels = 0 then .error (.invalid .wave .noChannels)
      else if head.sampleRate = 0 then .error (.invalid .wave .noSampleRate)
      else if head.blockAlign = 0 then .error (.invalid .wave .noBlockAlign)
      else if head.tag.isExtensible then
        if extra < extensionSize then .error (.invalid .wave (.extraSize extra))
        else if block.length < extensibleSize then
          .error (.truncated .waveExtensible extensibleSize block.length)
        else
          match readExtension cursor with
          | .error e => .error e
          | .ok (extension, _) => .ok { head with extension := some extension }
      else .ok { head with extension := none }

/-- A block as long as a plain record has all of a head. -/
theorem readHead_of_le {record : BlockRecord} {block : List UInt8} (h : 18 ≤ block.length) :
    readHead ⟨record, block, 0⟩ =
      .ok ((headCodec.decode block, Word.uint16.decode (block.drop headCodec.width)),
        ⟨record, block, 18⟩) := by
  have h16 : Word.uint16.width = 2 := rfl
  have h32 : Word.uint32.width = 4 := rfl
  unfold readHead
  -- the seven fields end at 2, 4, 8, 12, 14, 16 and 18
  rw [next_bind_of_le, next_bind_of_le, next_bind_of_le, next_bind_of_le, next_bind_of_le,
    next_bind_of_le, next_bind_of_le]
  · rw [headCodec_decode]
    rfl
  all_goals
    simp only [h16, h32]
    omega

/-- A block that ends inside a field is too short for that field. -/
example : readHead ⟨.wave, [1, 0, 2], 0⟩ = .error (.truncated .wave 4 3) := rfl

/-- A block as long as an extensible record has all of an extension. -/
theorem readExtension_of_le {record : BlockRecord} {block : List UInt8} (h : 40 ≤ block.length) :
    readExtension ⟨record, block, 18⟩ =
      .ok (extensionCodec.decode (block.drop 18), ⟨record, block, 40⟩) := by
  have h16 : Word.uint16.width = 2 := rfl
  have h32 : Word.uint32.width = 4 := rfl
  have hguid : Guid.codec.width = 16 := rfl
  unfold readExtension
  rw [next_bind_of_le, next_bind_of_le, next_bind_of_le]
  · rw [extensionCodec_decode, List.drop_drop, List.drop_drop]
    rfl
  all_goals
    simp only [h16, h32, hguid]
    omega

/-- **The cursor never comes to the end of a block.** -/
theorem parseFieldwise_eq_parse (block : List UInt8) : parseFieldwise block = parse block := by
  unfold parseFieldwise parse
  by_cases hlength : block.length < plainSize
  · rw [if_pos hlength, if_pos hlength]
  rw [if_neg hlength, if_neg hlength, readHead_of_le (Nat.le_of_not_lt hlength)]
  dsimp only
  by_cases hlong : block.length < extensibleSize
  · rw [if_pos hlong, if_pos hlong]
  · rw [if_neg hlong, if_neg hlong, readExtension_of_le (Nat.le_of_not_lt hlong)]
    rfl

/-! ## Demands -/

end WaveFormat

/-- An extra size that is too small is quoted. -/
theorem BlockError.message_extraSize (declared : UInt16) :
    (BlockError.invalid .wave (.extraSize declared)).message =
      "Invalid WAVEFORMATEX: cbSize " ++ toString declared.toNat
        ++ " too small for WAVE_FORMAT_EXTENSIBLE (need 22)" := by
  have htext : "Invalid " ++ BlockRecord.wave.name ++ ": " ++ "cbSize " =
      "Invalid WAVEFORMATEX: cbSize " := by decide
  have hmessage (flaw : BlockFlaw) : (BlockError.invalid .wave flaw).message =
      "Invalid " ++ BlockRecord.wave.name ++ ": " ++ flaw.text := rfl
  have hflaw : (BlockFlaw.extraSize declared).text =
      "cbSize " ++ toString declared.toNat
        ++ " too small for WAVE_FORMAT_EXTENSIBLE (need 22)" := rfl
  rw [hmessage, hflaw, ← htext]
  simp only [String.append_assoc]

namespace WaveFormat

/-- What a block has to bring along to be read. -/
inductive Demand where
  /-- The bytes of a plain record. -/
  | length
  | channels
  | sampleRate
  | blockAlign
  /-- With the extensible tag, an extra size that an extension fits in. -/
  | extraSize
  /-- With the extensible tag, the bytes of an extensible record. -/
  | extensibleLength
  deriving DecidableEq

namespace Demand

/-- All demands, in the order in which they are made. -/
def all : List Demand :=
  [.length, .channels, .sampleRate, .blockAlign, .extraSize, .extensibleLength]

/-- Whether a block fails a demand. -/
def fails (block : List UInt8) : Demand → Bool
  | length => block.length < 18
  | channels => Word.toNat (block.extract 2 4) = 0
  | sampleRate => Word.toNat (block.extract 4 8) = 0
  | blockAlign => Word.toNat (block.extract 12 14) = 0
  | extraSize =>
    Word.toNat (block.extract 0 2) = 0xfffe ∧ Word.toNat (block.extract 16 18) < 22
  | extensibleLength => Word.toNat (block.extract 0 2) = 0xfffe ∧ block.length < 40

/-- What is reported of a block that fails a demand. -/
def report (block : List UInt8) : Demand → BlockError
  | length => .truncated .wave 18 block.length
  | channels => .invalid .wave .noChannels
  | sampleRate => .invalid .wave .noSampleRate
  | blockAlign => .invalid .wave .noBlockAlign
  | extraSize =>
    .invalid .wave (.extraSize (UInt16.ofNat (Word.toNat (block.extract 16 18))))
  | extensibleLength => .truncated .waveExtensible 40 block.length

/-- How that is worded. -/
def text (block : List UInt8) : Demand → String
  | length =>
    "Truncated WAVEFORMATEX: expected at least 18 bytes, got " ++ toString block.length
  | channels => "Invalid WAVEFORMATEX: nChannels is zero"
  | sampleRate => "Invalid WAVEFORMATEX: nSamplesPerSec is zero"
  | blockAlign => "Invalid WAVEFORMATEX: nBlockAlign is zero"
  | extraSize =>
    "Invalid WAVEFORMATEX: cbSize " ++ toString (Word.toNat (block.extract 16 18))
      ++ " too small for WAVE_FORMAT_EXTENSIBLE (need 22)"
  | extensibleLength =>
    "Truncated WAVEFORMATEXTENSIBLE: expected at least 40 bytes, got " ++ toString block.length

/-- The extra size is quoted as the block says it. -/
theorem toNat_extraSize (block : List UInt8) :
    (UInt16.ofNat (Word.toNat (block.extract 16 18))).toNat =
      Word.toNat (block.extract 16 18) := by
  have hextra : (Word.uint16.decode (block.drop 16)).toNat = Word.toNat (block.extract 16 18) :=
    Word.toNat_decode_uint16 _
  rw [← hextra, UInt16.ofNat_toNat]

theorem message_report (block : List UInt8) (demand : Demand) :
    (demand.report block).message = demand.text block := by
  cases demand with
  | length =>
    have htext : "Truncated " ++ BlockRecord.wave.name ++ ": expected at least " ++ toString 18
        ++ " bytes, got " = "Truncated WAVEFORMATEX: expected at least 18 bytes, got " := by decide
    exact congrArg (· ++ toString block.length) htext
  | channels =>
    show (BlockError.invalid .wave .noChannels).message = "Invalid WAVEFORMATEX: nChannels is zero"
    decide
  | sampleRate =>
    show (BlockError.invalid .wave .noSampleRate).message =
      "Invalid WAVEFORMATEX: nSamplesPerSec is zero"
    decide
  | blockAlign =>
    show (BlockError.invalid .wave .noBlockAlign).message =
      "Invalid WAVEFORMATEX: nBlockAlign is zero"
    decide
  | extraSize =>
    have hmessage :=
      BlockError.message_extraSize (UInt16.ofNat (Word.toNat (block.extract 16 18)))
    rw [toNat_extraSize] at hmessage
    exact hmessage
  | extensibleLength =>
    have htext : "Truncated " ++ BlockRecord.waveExtensible.name ++ ": expected at least "
        ++ toString 40 ++ " bytes, got " =
        "Truncated WAVEFORMATEXTENSIBLE: expected at least 40 bytes, got " := by decide
    exact congrArg (· ++ toString block.length) htext

end Demand

section
variable {block : List UInt8} {head : WaveHead}

theorem fails_channels_iff (h : head.StandsIn block) :
    Demand.channels.fails block = true ↔ head.channels = 0 := by
  rw [Demand.fails, decide_eq_true_iff, ← h.channels, ← UInt16.toNat_inj]
  rfl

theorem fails_sampleRate_iff (h : head.StandsIn block) :
    Demand.sampleRate.fails block = true ↔ head.sampleRate = 0 := by
  rw [Demand.fails, decide_eq_true_iff, ← h.sampleRate, ← UInt32.toNat_inj]
  rfl

theorem fails_blockAlign_iff (h : head.StandsIn block) :
    Demand.blockAlign.fails block = true ↔ head.blockAlign = 0 := by
  rw [Demand.fails, decide_eq_true_iff, ← h.blockAlign, ← UInt16.toNat_inj]
  rfl

theorem tag_eq_extensible_iff (h : head.StandsIn block) :
    Word.toNat (block.extract 0 2) = 0xfffe ↔ head.tag = .extensible := by
  rw [← h.tag]
  constructor
  · intro hcode
    exact congrArg WaveTag.mk (UInt16.toNat_inj.mp hcode)
  · intro ht
    rw [ht]
    rfl

/-- The demands on an extension are made of a block with the extensible tag. -/
theorem fails_extraSize_iff (h : head.StandsIn block) (ht : head.tag = .extensible) :
    Demand.extraSize.fails block = true ↔ Word.toNat (block.extract 16 18) < 22 := by
  rw [Demand.fails, decide_eq_true_iff, and_iff_right ((tag_eq_extensible_iff h).mpr ht)]

theorem fails_extensibleLength_iff (h : head.StandsIn block) (ht : head.tag = .extensible) :
    Demand.extensibleLength.fails block = true ↔ block.length < 40 := by
  rw [Demand.fails, decide_eq_true_iff, and_iff_right ((tag_eq_extensible_iff h).mpr ht)]

/-- They are not made of any other. -/
theorem holds_extension (h : head.StandsIn block) (ht : head.tag ≠ .extensible) :
    Demand.extraSize.fails block = false ∧ Demand.extensibleLength.fails block = false := by
  have htag : ¬ Word.toNat (block.extract 0 2) = 0xfffe := by
    rw [tag_eq_extensible_iff h]
    exact ht
  exact ⟨decide_eq_false fun hf => htag hf.1, decide_eq_false fun hf => htag hf.1⟩

end

/-- **A block that is not read is told the first demand that it fails.** -/
theorem parse_settled (block : List UInt8) :
    SettledBy Demand.all (Demand.fails block) (fun d => some (d.report block)) (parse block) := by
  have hhead := standsIn_decode block
  have hextra : (Word.uint16.decode (block.drop headCodec.width)).toNat =
      Word.toNat (block.extract 16 18) := Word.toNat_decode_uint16 _
  unfold parse
  refine .ite decide_eq_true_iff rfl fun _ => ?_
  dsimp only
  -- from here on only the values of the head and of the extra size matter
  generalize headCodec.decode block = head at hhead ⊢
  generalize Word.uint16.decode (block.drop headCodec.width) = extra at hextra ⊢
  refine .ite (fails_channels_iff hhead) rfl fun _ => ?_
  refine .ite (fails_sampleRate_iff hhead) rfl fun _ => ?_
  refine .ite (fails_blockAlign_iff hhead) rfl fun _ => ?_
  by_cases ht : head.tag = .extensible
  · have hext : head.tag.isExtensible = true := decide_eq_true ht
    rw [if_pos hext]
    refine .ite ?_ ?_ fun _ => ?_
    · rw [fails_extraSize_iff hhead ht, ← hextra]
      rfl
    · rw [Demand.report, ← hextra, UInt16.ofNat_toNat]
    exact .ite (fails_extensibleLength_iff hhead ht) rfl fun _ => .nil _
  · have hext : ¬ head.tag.isExtensible = true := by
      rw [WaveTag.isExtensible, decide_eq_true_iff]
      exact ht
    rw [if_neg hext]
    obtain ⟨hextraSize, hlength⟩ := holds_extension hhead ht
    exact .pass hextraSize (.pass hlength (.nil _))

/-- **What is wrong with a wave block is told exactly.**  A block is read where it fails no demand;
otherwise the first demand that it fails is reported, and worded as `Demand.text` says.  The cursor
that looks for itself where a block ends reads the same, so that of the ways to be too short only
the two that are demands are ever reported. -/
theorem wave_faults_exact (block : List UInt8) :
    ((∃ w, parse block = .ok w) ↔ ∀ demand ∈ Demand.all, demand.fails block = false) ∧
    (∀ error, parse block = .error error ↔
      ∃ demand, Demand.all.find? (Demand.fails block) = some demand ∧
        demand.report block = error) ∧
    (∀ demand : Demand, (demand.report block).message = demand.text block) ∧
    parseFieldwise block = parse block ∧
    ∀ record expected actual,
      parseFieldwise block = .error (.truncated record expected actual) →
        (record = .wave ∧ expected = 18 ∨ record = .waveExtensible ∧ expected = 40) ∧
        actual = block.length := by
  have hsettled := parse_settled block
  have herror (error : BlockError) : parse block = .error error ↔
      ∃ demand, Demand.all.find? (Demand.fails block) = some demand ∧
        demand.report block = error := by
    rw [hsettled.error_iff]
    simp only [Option.some.injEq]
  refine ⟨hsettled.ok_iff, herror, Demand.message_report block, parseFieldwise_eq_parse block, ?_⟩
  intro record expected actual h
  rw [parseFieldwise_eq_parse, herror] at h
  obtain ⟨demand, -, hreport⟩ := h
  cases demand with
  | length =>
    cases hreport
    exact ⟨.inl ⟨rfl, rfl⟩, rfl⟩
  | extensibleLength =>
    cases hreport
    exact ⟨.inr ⟨rfl, rfl⟩, rfl⟩
  | channels => cases hreport
  | sampleRate => cases hreport
  | blockAlign => cases hreport
  | extraSize => cases hreport

end WaveFormat
end MediaIntake
