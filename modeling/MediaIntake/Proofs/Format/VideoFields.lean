import MediaIntake.Format.BlockCursor
import MediaIntake.Format.Video
/-! # Reading video info blocks field by field

A video info record is read a field at a time: two rectangles, two rates and a frame time, the
words of the second version, and a bitmap header, which is rejected as soon as its fields are there
and its frame has no size.  The length of a block is demanded before the first of them is read, so
the cursor never comes to the end of a block, and **reading a field at a time is the same**
(`VideoInfo.parseFieldwise_eq_parse`, `VideoInfo2.parseFieldwise_eq_parse`).
-/
namespace MediaIntake
open BlockCursor (Reader Reads next next_bind_of_le)

/-! ## Parts of a record -/

def Rect.read : Reader Rect := do
  let left ← next Word.int32
  let top ← next Word.int32
  let right ← next Word.int32
  let bottom ← next Word.int32
  return ⟨left, top, right, bottom⟩

theorem Rect.reads_read : Reads read codec := by
  intro c h
  have h32 : Word.int32.width = 4 := rfl
  have hwidth : codec.width = 16 := rfl
  rw [hwidth] at h
  unfold read
  -- the four fields end at 4, 8, 12 and 16
  rw [next_bind_of_le, next_bind_of_le, next_bind_of_le, next_bind_of_le]
  · simp only [codec, Codec.imap, Codec.prod, h32, List.drop_drop]
    rfl
  all_goals
    simp only [h32]
    omega

namespace VideoHead

def read : Reader VideoHead := do
  let source ← Rect.read
  let target ← Rect.read
  let bitRate ← next Word.uint32
  let bitErrorRate ← next Word.uint32
  let frameTime ← next Word.int64
  return ⟨source, target, bitRate, bitErrorRate, ⟨frameTime⟩⟩

theorem reads_read : Reads read codec := by
  intro c h
  have hrect : Rect.codec.width = 16 := rfl
  have h32 : Word.uint32.width = 4 := rfl
  have h64 : Word.int64.width = 8 := rfl
  have hwidth : codec.width = 48 := rfl
  rw [hwidth] at h
  unfold read
  -- the five fields end at 16, 32, 36, 40 and 48
  rw [Rect.reads_read.bind_of_le, Rect.reads_read.bind_of_le, next_bind_of_le, next_bind_of_le,
    next_bind_of_le]
  · simp only [codec, Codec.imap, Codec.prod, hrect, h32, List.drop_drop]
    rfl
  all_goals
    simp only [hrect, h32, h64]
    omega

end VideoHead

namespace PictureWords

def read : Reader PictureWords := do
  let interlaceFlags ← next Word.uint32
  let copyProtectFlags ← next Word.uint32
  let aspectRatioX ← next Word.uint32
  let aspectRatioY ← next Word.uint32
  let controlFlags ← next Word.uint32
  let reserved ← next Word.uint32
  return ⟨interlaceFlags, copyProtectFlags, aspectRatioX, aspectRatioY, controlFlags, reserved⟩

theorem reads_read : Reads read codec := by
  intro c h
  have h32 : Word.uint32.width = 4 := rfl
  have hwidth : codec.width = 24 := rfl
  rw [hwidth] at h
  unfold read
  -- six fields of four bytes
  rw [next_bind_of_le, next_bind_of_le, next_bind_of_le, next_bind_of_le, next_bind_of_le,
    next_bind_of_le]
  · simp only [codec, Codec.imap, Codec.prod, h32, List.drop_drop]
    rfl
  all_goals
    simp only [h32]
    omega

end PictureWords

/-! ## Bitmap headers -/

namespace BitmapHeader

def readFields : Reader BitmapHeader := do
  let size ← next Word.uint32
  let width ← next Word.int32
  let height ← next Word.int32
  let planes ← next Word.uint16
  let bitCount ← next Word.uint16
  let compression ← next Word.uint32
  let imageSize ← next Word.uint32
  let horizontalResolution ← next Word.int32
  let verticalResolution ← next Word.int32
  let colorsUsed ← next Word.uint32
  let colorsImportant ← next Word.uint32
  return ⟨size, width, height, planes, bitCount, ⟨compression⟩, imageSize, horizontalResolution,
    verticalResolution, colorsUsed, colorsImportant⟩

/-- Rejects a header whose frame has no size. -/
def demandSize (b : BitmapHeader) : Reader Unit :=
  match b.flaw? with
  | some flaw => BlockCursor.reject flaw
  | none => return ()

def read : Reader BitmapHeader := do
  let header ← readFields
  header.demandSize
  return header

theorem reads_readFields : Reads readFields codec := by
  intro c h
  have h16 : Word.uint16.width = 2 := rfl
  have h32 : Word.uint32.width = 4 := rfl
  have hi32 : Word.int32.width = 4 := rfl
  have hwidth : codec.width = 40 := rfl
  rw [hwidth] at h
  unfold readFields
  -- the eleven fields end at 4, 8, 12, 14, 16, 20, 24, 28, 32, 36 and 40
  rw [next_bind_of_le, next_bind_of_le, next_bind_of_le, next_bind_of_le, next_bind_of_le,
    next_bind_of_le, next_bind_of_le, next_bind_of_le, next_bind_of_le, next_bind_of_le,
    next_bind_of_le]
  · simp only [codec, Codec.imap, Codec.prod, h16, h32, hi32, List.drop_drop]
    rfl
  all_goals
    simp only [h16, h32, hi32]
    omega

/-- All of a header is read before it can be rejected. -/
theorem read_bind_of_le {β : Type} {c : BlockCursor}
    (h : c.offset + codec.width ≤ c.block.length) (rest : BitmapHeader → Reader β) :
    let header := codec.decode (c.block.drop c.offset)
    (read >>= rest) c =
      (header.demandSize >>= fun _ => rest header) { c with offset := c.offset + codec.width } := by
  unfold read
  rw [bind_assoc, reads_readFields.bind_of_le h, bind_assoc]
  rfl

end BitmapHeader

/-! ## Records -/

/-- Where the block goes on for long enough, the reader reads the layout, and rejects the record if
its frame has no size. -/
def ReadsSized {α : Type} (reader : Reader α) (layout : Codec α) (bitmap : α → BitmapHeader) :
    Prop :=
  ∀ c : BlockCursor, c.offset + layout.width ≤ c.block.length →
    let info := layout.decode (c.block.drop c.offset)
    reader c =
      ((bitmap info).demandSize >>= fun _ => pure info)
        { c with offset := c.offset + layout.width }

/-- The record that a block starts with, read field by field, if the block is long enough. -/
def parseVideoFieldwise {α : Type} (record : BlockRecord) (size : Nat) (reader : Reader α)
    (block : List UInt8) : Except BlockError α :=
  if block.length < size then .error (.truncated record size block.length)
  else (reader ⟨record, block, 0⟩).map (·.1)

/-- **Reading a layout field by field parses it.** -/
theorem ReadsSized.parseVideo_eq {α : Type} {reader : Reader α} {layout : Codec α}
    {bitmap : α → BitmapHeader} (h : ReadsSized reader layout bitmap) (record : BlockRecord)
    (block : List UInt8) :
    parseVideoFieldwise record layout.width reader block =
      parseVideo record layout bitmap block := by
  unfold parseVideoFieldwise parseVideo
  by_cases hlength : block.length < layout.width
  · rw [if_pos hlength, if_pos hlength]
  · have hle : 0 + layout.width ≤ block.length := by omega
    rw [if_neg hlength, if_neg hlength, h ⟨record, block, 0⟩ hle, List.drop_zero]
    dsimp only
    unfold BitmapHeader.demandSize
    cases (bitmap (layout.decode block)).flaw? with
    | some flaw => rfl
    | none => rfl

namespace VideoInfo

def read : Reader VideoInfo := do
  let head ← VideoHead.read
  let bitmap ← BitmapHeader.read
  return ⟨head, bitmap⟩

theorem reads_read : ReadsSized read codec bitmap := by
  intro c h
  have hhead : VideoHead.codec.width = 48 := rfl
  have hbitmap : BitmapHeader.codec.width = 40 := rfl
  have hwidth : codec.width = 88 := rfl
  rw [hwidth] at h
  unfold read
  -- the head ends at 48, and the bitmap header at 88
  rw [VideoHead.reads_read.bind_of_le, BitmapHeader.read_bind_of_le]
  · simp only [codec, Codec.imap, Codec.prod, List.drop_drop]
    rfl
  all_goals
    simp only [hhead, hbitmap]
    omega

/-- The record that a block starts with, read field by field. -/
def parseFieldwise (block : List UInt8) : Except BlockError VideoInfo :=
  parseVideoFieldwise .videoInfo 88 read block

/-- **The cursor never comes to the end of a block.** -/
theorem parseFieldwise_eq_parse (block : List UInt8) : parseFieldwise block = parse block :=
  reads_read.parseVideo_eq .videoInfo block

end VideoInfo

namespace VideoInfo2

def read : Reader VideoInfo2 := do
  let head ← VideoHead.read
  let picture ← PictureWords.read
  let bitmap ← BitmapHeader.read
  return ⟨head, picture, bitmap⟩

theorem reads_read : ReadsSized read codec bitmap := by
  intro c h
  have hhead : VideoHead.codec.width = 48 := rfl
  have hpicture : PictureWords.codec.width = 24 := rfl
  have hbitmap : BitmapHeader.codec.width = 40 := rfl
  have hwidth : codec.width = 112 := rfl
  rw [hwidth] at h
  unfold read
  -- the head ends at 48, the words of the second version at 72, and the bitmap header at 112
  rw [VideoHead.reads_read.bind_of_le, PictureWords.reads_read.bind_of_le,
    BitmapHeader.read_bind_of_le]
  · simp only [codec, Codec.imap, Codec.prod, hhead, hpicture, List.drop_drop]
    rfl
  all_goals
    simp only [hhead, hpicture, hbitmap]
    omega

/-- The record that a block starts with, read field by field. -/
def parseFieldwise (block : List UInt8) : Except BlockError VideoInfo2 :=
  parseVideoFieldwise .videoInfo2 112 read block

/-- **The cursor never comes to the end of a block.** -/
theorem parseFieldwise_eq_parse (block : List UInt8) : parseFieldwise block = parse block :=
  reads_read.parseVideo_eq .videoInfo2 block

end VideoInfo2
end MediaIntake
