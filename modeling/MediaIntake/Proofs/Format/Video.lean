import MediaIntake.Format.Video
/-! # Reading and writing video info blocks

Both versions of the record are read in the same way: the length is checked first, then the
width of the frame, then its height, and nothing else can be wrong (`BitmapHeader.flaw?_cases`).
The two sizes are read from fixed places at the end of the record.  What was read is written as
the bytes it was read from, and a written record is read again just if its frame has a size, so
**each version reads and writes exactly** (`ExactVideo`, `video_blocks_exact`).
-/
namespace MediaIntake

/-! ## The bytes of a record -/

/-- The sixteen bytes of a rectangle, field by field. -/
def Rect.fields (r : Rect) : List (List UInt8) :=
  [Word.ofNat 4 r.left.toUInt32.toNat, Word.ofNat 4 r.top.toUInt32.toNat,
    Word.ofNat 4 r.right.toUInt32.toNat, Word.ofNat 4 r.bottom.toUInt32.toNat]

/-- The forty bytes of a bitmap header, field by field. -/
def BitmapHeader.fields (b : BitmapHeader) : List (List UInt8) :=
  [Word.ofNat 4 b.size.toNat, Word.ofNat 4 b.width.toUInt32.toNat,
    Word.ofNat 4 b.height.toUInt32.toNat, Word.ofNat 2 b.planes.toNat,
    Word.ofNat 2 b.bitCount.toNat, Word.ofNat 4 b.compression.code.toNat,
    Word.ofNat 4 b.imageSize.toNat, Word.ofNat 4 b.horizontalResolution.toUInt32.toNat,
    Word.ofNat 4 b.verticalResolution.toUInt32.toNat, Word.ofNat 4 b.colorsUsed.toNat,
    Word.ofNat 4 b.colorsImportant.toNat]

/-- The 48 bytes that both versions start with, field by field. -/
def VideoHead.fields (h : VideoHead) : List (List UInt8) :=
  h.source.fields ++ h.target.fields ++
    [Word.ofNat 4 h.bitRate.toNat, Word.ofNat 4 h.bitErrorRate.toNat,
      Word.ofNat 8 h.frameTime.count.toUInt64.toNat]

/-- The 24 bytes that only the second version has, field by field. -/
def PictureWords.fields (w : PictureWords) : List (List UInt8) :=
  [Word.ofNat 4 w.interlaceFlags.toNat, Word.ofNat 4 w.copyProtectFlags.toNat,
    Word.ofNat 4 w.aspectRatioX.toNat, Word.ofNat 4 w.aspectRatioY.toNat,
    Word.ofNat 4 w.controlFlags.toNat, Word.ofNat 4 w.reserved.toNat]

def VideoInfo.fields (v : VideoInfo) : List (List UInt8) := v.head.fields ++ v.bitmap.fields

def VideoInfo2.fields (v : VideoInfo2) : List (List UInt8) :=
  v.head.fields ++ v.picture.fields ++ v.bitmap.fields

theorem Rect.encode_eq_flatten (r : Rect) : Rect.codec.encode r = r.fields.flatten := rfl

theorem BitmapHeader.encode_eq_flatten (b : BitmapHeader) :
    BitmapHeader.codec.encode b = b.fields.flatten := rfl

theorem VideoHead.encode_eq_flatten (h : VideoHead) :
    VideoHead.codec.encode h = h.fields.flatten := by
  have hwords : Word.uint32.encode h.bitRate ++
      (Word.uint32.encode h.bitErrorRate ++ Word.int64.encode h.frameTime.count) =
      [Word.ofNat 4 h.bitRate.toNat, Word.ofNat 4 h.bitErrorRate.toNat,
        Word.ofNat 8 h.frameTime.count.toUInt64.toNat].flatten := rfl
  rw [fields, List.flatten_append, List.flatten_append, ← hwords, ← Rect.encode_eq_flatten,
    ← Rect.encode_eq_flatten, List.append_assoc]
  rfl

theorem PictureWords.encode_eq_flatten (w : PictureWords) :
    PictureWords.codec.encode w = w.fields.flatten := rfl

/-- **A record of the first version is written as its fields in order.** -/
theorem VideoInfo.encode_eq_flatten (v : VideoInfo) : v.encode = v.fields.flatten := by
  rw [fields, List.flatten_append, ← VideoHead.encode_eq_flatten,
    ← BitmapHeader.encode_eq_flatten]
  rfl

/-- **A record of the second version is written as its fields in order.** -/
theorem VideoInfo2.encode_eq_flatten (v : VideoInfo2) : v.encode = v.fields.flatten := by
  rw [fields, List.flatten_append, List.flatten_append, ← VideoHead.encode_eq_flatten,
    ← PictureWords.encode_eq_flatten, ← BitmapHeader.encode_eq_flatten, List.append_assoc]
  rfl

/-! ## The size of a frame -/

namespace BitmapHeader

/-- **What can be wrong with the size of a frame**, and when: the width comes first. -/
theorem flaw?_cases (b : BitmapHeader) :
    (b.width.toInt ≤ 0 ∧ b.flaw? = some (.width b.width)) ∨
    (0 < b.width.toInt ∧ b.height.toInt = 0 ∧ b.flaw? = some .noHeight) ∨
    (0 < b.width.toInt ∧ b.height.toInt ≠ 0 ∧ b.flaw? = none) := by
  unfold flaw?
  by_cases hw : b.width ≤ 0
  · rw [if_pos hw]
    exact .inl ⟨Int32.le_iff_toInt_le.mp hw, rfl⟩
  have hw' : 0 < b.width.toInt := by
    rw [Int32.not_le, Int32.lt_iff_toInt_lt] at hw
    exact hw
  rw [if_neg hw]
  by_cases hh : b.height = 0
  · rw [if_pos hh]
    exact .inr (.inl ⟨hw', congrArg Int32.toInt hh, rfl⟩)
  · rw [if_neg hh]
    exact .inr (.inr ⟨hw', fun h0 => hh (Int32.toInt_inj.mp h0), rfl⟩)

/-- A frame without width is told by its width. -/
theorem flaw?_eq_width_iff {b : BitmapHeader} {width : Int32} :
    b.flaw? = some (.width width) ↔ width = b.width ∧ b.width.toInt ≤ 0 := by
  obtain ⟨hw, hf⟩ | ⟨hw, -, hf⟩ | ⟨hw, -, hf⟩ := b.flaw?_cases
  · simp [hf, hw, eq_comm]
  · simp [hf, hw]
  · simp [hf, hw]

/-- A height is only looked at where there is a width. -/
theorem flaw?_eq_noHeight_iff {b : BitmapHeader} :
    b.flaw? = some .noHeight ↔ 0 < b.width.toInt ∧ b.height.toInt = 0 := by
  obtain ⟨hw, hf⟩ | ⟨hw, hh, hf⟩ | ⟨hw, hh, hf⟩ := b.flaw?_cases
  · simp [hf, Int.not_lt.mpr hw]
  · simp [hf, hw, hh]
  · simp [hf, hh]

theorem flaw?_eq_none_iff {b : BitmapHeader} :
    b.flaw? = none ↔ 0 < b.width.toInt ∧ b.height.toInt ≠ 0 := by
  obtain ⟨hw, hf⟩ | ⟨-, hh, hf⟩ | ⟨hw, hh, hf⟩ := b.flaw?_cases
  · simp [hf, Int.not_lt.mpr hw]
  · simp [hf, hh]
  · simp [hf, hw, hh]

/-- The width that a block says for a record of `size` bytes, which ends with a bitmap header. -/
def widthIn (size : Nat) (block : List UInt8) : Int :=
  Word.toInt (block.extract (size - 40 + 4) (size - 40 + 8))

/-- The height that a block says for a record of `size` bytes. -/
def heightIn (size : Nat) (block : List UInt8) : Int :=
  Word.toInt (block.extract (size - 40 + 8) (size - 40 + 12))

/-- The two sizes stand at fixed places of the header. -/
theorem size_decode {size : Nat} {block : List UInt8} (hsize : 40 ≤ size)
    (h : size ≤ block.length) :
    (codec.decode (block.drop (size - 40))).width.toInt = widthIn size block ∧
    (codec.decode (block.drop (size - 40))).height.toInt = heightIn size block := by
  have hfield (offset : Nat) (hoffset : offset + 4 ≤ 40) :
      (Word.int32.decode (block.drop (size - 40 + offset))).toInt =
        Word.toInt (block.extract (size - 40 + offset) (size - 40 + (offset + 4))) := by
    have hlength : 4 ≤ (block.drop (size - 40 + offset)).length := by
      rw [List.length_drop]
      omega
    have hwidth : size - 40 + (offset + 4) - (size - 40 + offset) = 4 := by omega
    rw [List.extract, hwidth, Word.toInt_decode_int32 hlength]
  constructor
  · have hdrop : (block.drop (size - 40)).drop 4 = block.drop (size - 40 + 4) := List.drop_drop
    rw [widthIn, ← hfield 4 (by decide), ← hdrop]
    rfl
  · have hdrop : ((block.drop (size - 40)).drop 4).drop 4 = block.drop (size - 40 + 8) := by
      rw [List.drop_drop, List.drop_drop]
    rw [heightIn, ← hfield 8 (by decide), ← hdrop]
    rfl

/-- The compression that a block says for a record of `size` bytes. -/
def compressionIn (size : Nat) (block : List UInt8) : Nat :=
  Word.toNat (block.extract (size - 40 + 16) (size - 40 + 20))

/-- The compression stands at a fixed place of the header. -/
theorem compression_decode (size : Nat) (block : List UInt8) :
    (codec.decode (block.drop (size - 40))).compression.code.toNat = compressionIn size block := by
  -- size, width, height, planes and bit count come before it
  have hdrop : (((((block.drop (size - 40)).drop 4).drop 4).drop 4).drop 2).drop 2 =
      block.drop (size - 40 + 16) := by
    simp only [List.drop_drop]
  have hwidth : size - 40 + 20 - (size - 40 + 16) = 4 := by omega
  rw [compressionIn, List.extract, hwidth, ← Word.toNat_decode_uint32, ← hdrop]
  rfl

end BitmapHeader

/-! ## Both versions -/

/-- A record that is read and written exactly: `size` bytes that end with a bitmap header. -/
structure ExactVideo {α : Type} (record : BlockRecord) (size : Nat) (bitmap : α → BitmapHeader)
    (parse : List UInt8 → Except BlockError α) (encode : α → List UInt8) : Prop where
  truncated_iff : ∀ block,
    parse block = .error (.truncated record size block.length) ↔ block.length < size
  /-- The width comes first, and is told as the block says it. -/
  width_iff : ∀ block, size ≤ block.length →
    ((∃ width : Int32, width.toInt = BitmapHeader.widthIn size block ∧
        parse block = .error (.invalid record (.width width))) ↔
      BitmapHeader.widthIn size block ≤ 0)
  height_iff : ∀ block, size ≤ block.length →
    (parse block = .error (.invalid record .noHeight) ↔
      0 < BitmapHeader.widthIn size block ∧ BitmapHeader.heightIn size block = 0)
  /-- Any other block is read as the record that is written as its first bytes. -/
  ok_iff : ∀ block, size ≤ block.length →
    ((∃ a, parse block = .ok a ∧ encode a = block.take size) ↔
      0 < BitmapHeader.widthIn size block ∧ BitmapHeader.heightIn size block ≠ 0)
  length_encode : ∀ a, (encode a).length = size
  /-- A written record is read again if its frame has a size. -/
  parse_encode_iff : ∀ a, parse (encode a) = .ok a ↔
    0 < (bitmap a).width.toInt ∧ (bitmap a).height.toInt ≠ 0

section
variable {α : Type} (record : BlockRecord) {codec : Codec α} (bitmap : α → BitmapHeader)

theorem parseVideo_of_short {block : List UInt8} (h : block.length < codec.width) :
    parseVideo record codec bitmap block =
      .error (.truncated record codec.width block.length) := by
  rw [parseVideo, if_pos h]

/-- A block that is long enough is decided by the frame that it says. -/
theorem parseVideo_of_le {block : List UInt8} (h : codec.width ≤ block.length) :
    parseVideo record codec bitmap block =
      match (bitmap (codec.decode block)).flaw? with
      | some flaw => .error (.invalid record flaw)
      | none => .ok (codec.decode block) :=
  if_neg (Nat.not_lt_of_le h)

theorem parseVideo_truncated_iff {block : List UInt8} :
    parseVideo record codec bitmap block =
      .error (.truncated record codec.width block.length) ↔ block.length < codec.width := by
  refine ⟨?_, parseVideo_of_short record bitmap⟩
  intro hp
  refine Nat.lt_of_not_le fun h => ?_
  rw [parseVideo_of_le record bitmap h] at hp
  cases hf : (bitmap (codec.decode block)).flaw? with
  | some flaw =>
    rw [hf] at hp
    cases hp
  | none =>
    rw [hf] at hp
    cases hp

/-- A long enough block is told the flaw of its frame. -/
theorem parseVideo_invalid_iff {block : List UInt8} (h : codec.width ≤ block.length)
    {flaw : BlockFlaw} :
    parseVideo record codec bitmap block = .error (.invalid record flaw) ↔
      (bitmap (codec.decode block)).flaw? = some flaw := by
  rw [parseVideo_of_le record bitmap h]
  cases (bitmap (codec.decode block)).flaw? with
  | some flaw' => simp
  | none => simp

/-- A long enough block is read just if its frame has a size, and is read in full. -/
theorem parseVideo_eq_ok_iff {block : List UInt8} (h : codec.width ≤ block.length) {a : α} :
    parseVideo record codec bitmap block = .ok a ↔
      codec.decode block = a ∧ 0 < (bitmap a).width.toInt ∧ (bitmap a).height.toInt ≠ 0 := by
  rw [parseVideo_of_le record bitmap h, ← BitmapHeader.flaw?_eq_none_iff]
  constructor
  · intro hp
    cases hf : (bitmap (codec.decode block)).flaw? with
    | some flaw =>
      rw [hf] at hp
      cases hp
    | none =>
      rw [hf] at hp
      cases hp
      exact ⟨rfl, hf⟩
  · rintro ⟨rfl, hf⟩
    rw [hf]

/-- The frame of a record that was read has a size. -/
theorem size_of_parseVideo {record : BlockRecord} {bitmap : α → BitmapHeader}
    {block : List UInt8} {a : α} (h : parseVideo record codec bitmap block = .ok a) :
    0 < (bitmap a).width.toInt ∧ (bitmap a).height.toInt ≠ 0 := by
  by_cases hlength : codec.width ≤ block.length
  · exact ((parseVideo_eq_ok_iff record bitmap hlength).mp h).2
  · rw [parseVideo_of_short record bitmap (Nat.lt_of_not_le hlength)] at h
    cases h

/-- The frame of a record that was read stands at the end of the record. -/
theorem of_map_parseVideo {record : BlockRecord} {bitmap : α → BitmapHeader}
    {block : List UInt8} {b : BitmapHeader}
    (hbitmap : ∀ block, bitmap (codec.decode block) =
      BitmapHeader.codec.decode (block.drop (codec.width - 40)))
    (h : (parseVideo record codec bitmap block).map bitmap = .ok b) :
    codec.width ≤ block.length ∧
      BitmapHeader.codec.decode (block.drop (codec.width - 40)) = b := by
  by_cases hlength : codec.width ≤ block.length
  · cases hparse : parseVideo record codec bitmap block with
    | error error =>
      rw [hparse] at h
      cases h
    | ok info =>
      obtain ⟨rfl, -⟩ := (parseVideo_eq_ok_iff record bitmap hlength).mp hparse
      rw [hparse] at h
      cases h
      exact ⟨hlength, (hbitmap block).symm⟩
  · rw [parseVideo_of_short record bitmap (Nat.lt_of_not_le hlength)] at h
    cases h

/-- A written record is decided by its own frame. -/
theorem parseVideo_encode (a : α) :
    parseVideo record codec bitmap (codec.encode a) =
      match (bitmap a).flaw? with
      | some flaw => .error (.invalid record flaw)
      | none => .ok a := by
  have hlength : codec.width ≤ (codec.encode a).length :=
    Nat.le_of_eq (codec.length_encode a).symm
  have hdecode : codec.decode (codec.encode a) = a := by
    have h := codec.decode_encode a []
    rwa [List.append_nil] at h
  rw [parseVideo_of_le record bitmap hlength, hdecode]

variable (codec) {bitmap}

/-- **Reading a record that ends with a bitmap header is exact.** -/
theorem parseVideo_exact (hwidth : 40 ≤ codec.width)
    (hbitmap : ∀ block, bitmap (codec.decode block) =
      BitmapHeader.codec.decode (block.drop (codec.width - 40))) :
    ExactVideo record codec.width bitmap (parseVideo record codec bitmap) codec.encode := by
  -- the two sizes that are checked are those that the block says
  have hsize {block : List UInt8} (h : codec.width ≤ block.length) :
      BitmapHeader.widthIn codec.width block = (bitmap (codec.decode block)).width.toInt ∧
      BitmapHeader.heightIn codec.width block = (bitmap (codec.decode block)).height.toInt := by
    obtain ⟨hw, hh⟩ := BitmapHeader.size_decode hwidth h
    rw [hbitmap]
    exact ⟨hw.symm, hh.symm⟩
  constructor
  case truncated_iff => exact fun block => parseVideo_truncated_iff record bitmap
  case width_iff =>
    intro block h
    rw [(hsize h).1]
    constructor
    · rintro ⟨width, -, hp⟩
      exact (BitmapHeader.flaw?_eq_width_iff.mp ((parseVideo_invalid_iff record bitmap h).mp hp)).2
    · intro hw
      have hf := BitmapHeader.flaw?_eq_width_iff.mpr ⟨rfl, hw⟩
      exact ⟨_, rfl, (parseVideo_invalid_iff record bitmap h).mpr hf⟩
  case height_iff =>
    intro block h
    rw [(hsize h).1, (hsize h).2, parseVideo_invalid_iff record bitmap h]
    exact BitmapHeader.flaw?_eq_noHeight_iff
  case ok_iff =>
    intro block h
    rw [(hsize h).1, (hsize h).2]
    constructor
    · rintro ⟨a, hp, -⟩
      obtain ⟨rfl, hsizes⟩ := (parseVideo_eq_ok_iff record bitmap h).mp hp
      exact hsizes
    · intro hsizes
      have hp := (parseVideo_eq_ok_iff record bitmap h).mpr ⟨rfl, hsizes⟩
      exact ⟨_, hp, codec.encode_decode block h⟩
  case length_encode => exact codec.length_encode
  case parse_encode_iff =>
    intro a
    have hlength : (codec.encode a).length = codec.width := codec.length_encode a
    have hlong : codec.width ≤ (codec.encode a).length := Nat.le_of_eq hlength.symm
    have hdecode : codec.decode (codec.encode a) = a :=
      (codec.decode_eq_iff hlong).mpr (List.take_of_length_le (Nat.le_of_eq hlength))
    rw [parseVideo_eq_ok_iff record bitmap hlong]
    exact and_iff_right hdecode

end

/-- The first version ends with its bitmap header. -/
theorem VideoInfo.bitmap_decode (block : List UInt8) :
    (codec.decode block).bitmap = BitmapHeader.codec.decode (block.drop 48) := rfl

/-- The second version ends with its bitmap header. -/
theorem VideoInfo2.bitmap_decode (block : List UInt8) :
    (codec.decode block).bitmap = BitmapHeader.codec.decode (block.drop 72) :=
  congrArg BitmapHeader.codec.decode List.drop_drop

/-- **The layouts of video info blocks are exact.**  Each version is written as its fields in
order, and is read and written exactly, in 88 bytes or in 112; the errors name the record, and
say the width as the block says it. -/
theorem video_blocks_exact :
    ExactVideo .videoInfo 88 VideoInfo.bitmap VideoInfo.parse VideoInfo.encode ∧
    ExactVideo .videoInfo2 112 VideoInfo2.bitmap VideoInfo2.parse VideoInfo2.encode ∧
    (∀ v : VideoInfo, v.encode = v.fields.flatten) ∧
    (∀ v : VideoInfo2, v.encode = v.fields.flatten) ∧
    BlockRecord.videoInfo.name = "VIDEOINFOHEADER" ∧
    BlockRecord.videoInfo2.name = "VIDEOINFOHEADER2" ∧
    (∀ width : Int32,
      (BlockFlaw.width width).text = "biWidth " ++ toString width.toInt ++ " is not positive") ∧
    BlockFlaw.noHeight.text = "biHeight is zero" := by
  refine ⟨?_, ?_, VideoInfo.encode_eq_flatten, VideoInfo2.encode_eq_flatten, rfl, rfl, ?_, rfl⟩
  · have hwidth : 40 ≤ VideoInfo.codec.width := by decide
    exact parseVideo_exact .videoInfo VideoInfo.codec hwidth VideoInfo.bitmap_decode
  · have hwidth : 40 ≤ VideoInfo2.codec.width := by decide
    exact parseVideo_exact .videoInfo2 VideoInfo2.codec hwidth VideoInfo2.bitmap_decode
  · intro width
    rfl

end MediaIntake
