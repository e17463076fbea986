import MediaIntake.Format.BlockError
import MediaIntake.Media.FourCC
import MediaIntake.Media.Time
/-! # Video info blocks

Both versions of the record start with the same head of 48 bytes and end with a bitmap header
of 40; the second version has six words between them:

    first version   head 48, bitmap header 40                     =  88 bytes
    second version  head 48, picture words 24, bitmap header 40   = 112 bytes

The height in a bitmap header is signed: positive for images stored from the bottom up,
negative for images stored from the top down.
-/
namespace MediaIntake

/-! ## Rectangles -/

/-- A rectangle in pixels. -/
structure Rect where
  left : Int32 := 0
  top : Int32 := 0
  right : Int32 := 0
  bottom : Int32 := 0
  deriving DecidableEq, Repr

namespace Rect

/-- An empty rectangle stands for the whole image. -/
def isEmpty (r : Rect) : Bool := r.right ≤ r.left || r.bottom ≤ r.top

def codec : Codec Rect :=
  (Word.int32.prod <| Word.int32.prod <| Word.int32.prod Word.int32).imap
    (fun p => ⟨p.1, p.2.1, p.2.2.1, p.2.2.2⟩) (fun r => (r.left, r.top, r.right, r.bottom))
    (fun _ => rfl) (fun _ => rfl)

end Rect

/-! ## Bitmap headers -/

/-- The description of a frame that both versions end with. -/
structure BitmapHeader where
  size : UInt32 := 0
  width : Int32 := 0
  /-- Negative for images stored from the top down. -/
  height : Int32 := 0
  planes : UInt16 := 0
  bitCount : UInt16 := 0
  compression : FourCC := ⟨0⟩
  imageSize : UInt32 := 0
  horizontalResolution : Int32 := 0
  verticalResolution : Int32 := 0
  colorsUsed : UInt32 := 0
  colorsImportant : UInt32 := 0
  deriving DecidableEq, Repr

namespace BitmapHeader

/-- The length of a signed number as a 64-bit word. -/
def lengthWord (x : Int32) : UInt64 := UInt64.ofNat x.toInt.natAbs

/-- The bytes of one image row, in 64-bit words: its bits are rounded up to whole 32-bit words by
clearing the five lowest bits of a sum. -/
def rowBytesWord (width : Int32) (bitCount : UInt16) : UInt64 :=
  ((lengthWord width * bitCount.toUInt64 + 31) &&& ~~~31) / 8

/-- The bytes of the image, at most what 32 bits can say.  The size is worked out in a 64-bit word
and narrowed at the end: the word is not checked for wrapping around. -/
def dibSizeWord (b : BitmapHeader) : UInt32 :=
  let size := rowBytesWord b.width b.bitCount * lengthWord b.height
  if size ≤ 4294967295 then size.toUInt32 else 4294967295

/-- The header of a planar YUV 4:2:0 frame: twelve bits a pixel, with its image size. -/
def i420 (width height : Int32) : BitmapHeader :=
  let header : BitmapHeader :=
    { size := 40, width, height, planes := 1, bitCount := 12, compression := .i420 }
  { header with imageSize := header.dibSizeWord }

def codec : Codec BitmapHeader :=
  (Word.uint32.prod <| Word.int32.prod <| Word.int32.prod <| Word.uint16.prod <|
    Word.uint16.prod <| Word.uint32.prod <| Word.uint32.prod <| Word.int32.prod <|
    Word.int32.prod <| Word.uint32.prod Word.uint32).imap
    (fun (size, width, height, planes, bitCount, compression, imageSize, horizontalResolution,
        verticalResolution, colorsUsed, colorsImportant) =>
      ⟨size, width, height, planes, bitCount, ⟨compression⟩, imageSize, horizontalResolution,
        verticalResolution, colorsUsed, colorsImportant⟩)
    (fun b => (b.size, b.width, b.height, b.planes, b.bitCount, b.compression.code, b.imageSize,
      b.horizontalResolution, b.verticalResolution, b.colorsUsed, b.colorsImportant))
    (fun _ => rfl) (fun _ => rfl)

/-- What is wrong with the size of a frame, the width first. -/
def flaw? (b : BitmapHeader) : Option BlockFlaw :=
  if b.width ≤ 0 then some (.width b.width)
  else if b.height = 0 then some .noHeight
  else none

end BitmapHeader

/-! ## Records -/

/-- The fields that both versions start with. -/
structure VideoHead where
  /-- The part of the source image that is used. -/
  source : Rect := {}
  /-- The part of the target image that is filled. -/
  target : Rect := {}
  bitRate : UInt32 := 0
  bitErrorRate : UInt32 := 0
  /-- Average time of a frame. -/
  frameTime : Ticks := ⟨0⟩
  deriving DecidableEq, Repr

/-- The words that only the second version has. -/
structure PictureWords where
  interlaceFlags : UInt32 := 0
  copyProtectFlags : UInt32 := 0
  aspectRatioX : UInt32 := 0
  aspectRatioY : UInt32 := 0
  controlFlags : UInt32 := 0
  reserved : UInt32 := 0
  deriving DecidableEq, Repr

/-- A video info record of the first version. -/
structure VideoInfo where
  head : VideoHead := {}
  bitmap : BitmapHeader
  deriving DecidableEq, Repr

/-- A video info record of the second version. -/
structure VideoInfo2 where
  head : VideoHead := {}
  picture : PictureWords := {}
  bitmap : BitmapHeader
  deriving DecidableEq, Repr

def VideoHead.codec : Codec VideoHead :=
  (Rect.codec.prod <| Rect.codec.prod <| Word.uint32.prod <| Word.uint32.prod Word.int64).imap
    (fun p => ⟨p.1, p.2.1, p.2.2.1, p.2.2.2.1, ⟨p.2.2.2.2⟩⟩)
    (fun h => (h.source, h.target, h.bitRate, h.bitErrorRate, h.frameTime.count))
    (fun _ => rfl) (fun _ => rfl)

def PictureWords.codec : Codec PictureWords :=
  (Word.uint32.prod <| Word.uint32.prod <| Word.uint32.prod <| Word.uint32.prod <|
    Word.uint32.prod Word.uint32).imap
    (fun p => ⟨p.1, p.2.1, p.2.2.1, p.2.2.2.1, p.2.2.2.2.1, p.2.2.2.2.2⟩)
    (fun w => (w.interlaceFlags, w.copyProtectFlags, w.aspectRatioX, w.aspectRatioY,
      w.controlFlags, w.reserved))
    (fun _ => rfl) (fun _ => rfl)

/-- The record that a block starts with, if the block is long enough and the frame has a
size.  Both versions are read this way. -/
def parseVideo {α : Type} (record : BlockRecord) (codec : Codec α) (bitmap : α → BitmapHeader)
    (block : List UInt8) : Except BlockError α :=
  if block.length < codec.width then .error (.truncated record codec.width block.length)
  else
    let info := codec.decode block
    match (bitmap info).flaw? with
    | some flaw => .error (.invalid record flaw)
    | none => .ok info

namespace VideoInfo

def codec : Codec VideoInfo :=
  (VideoHead.codec.prod BitmapHeader.codec).imap (fun p => ⟨p.1, p.2⟩)
    (fun v => (v.head, v.bitmap)) (fun _ => rfl) (fun _ => rfl)

def encode (v : VideoInfo) : List UInt8 := codec.encode v

def parse (block : List UInt8) : Except BlockError VideoInfo :=
  parseVideo .videoInfo codec bitmap block

theorem codec_width : codec.width = 88 := rfl

end VideoInfo

namespace VideoInfo2

def codec : Codec VideoInfo2 :=
  (VideoHead.codec.prod <| PictureWords.codec.prod BitmapHeader.codec).imap
    (fun p => ⟨p.1, p.2.1, p.2.2⟩) (fun v => (v.head, v.picture, v.bitmap))
    (fun _ => rfl) (fun _ => rfl)

def encode (v : VideoInfo2) : List UInt8 := codec.encode v

def parse (block : List UInt8) : Except BlockError VideoInfo2 :=
  parseVideo .videoInfo2 codec bitmap block

theorem codec_width : codec.width = 112 := rfl

end VideoInfo2
end MediaIntake
