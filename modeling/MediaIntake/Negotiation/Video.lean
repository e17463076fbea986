import MediaIntake.Descriptor.Video
import MediaIntake.Format.Video
import MediaIntake.Media.MediaType
import MediaIntake.Negotiation.Rejection
/-! # Video negotiation

Accepted are planar YUV 4:2:0 frames described by a video info block of either version.  The
rules are tried in a fixed order and **the first rule that fails is the one reported**; marks
of temporal compression do not matter.  Advertised is one media type, frames of the requested
size.
-/
namespace MediaIntake.VideoDescriptor

/-- The bitmap header of a block whose version the format type tells. -/
def bitmapOf (formatType : Guid) (block : List UInt8) : Except BlockError BitmapHeader :=
  if formatType = .videoInfo then (VideoInfo.parse block).map (·.bitmap)
  else (VideoInfo2.parse block).map (·.bitmap)

/-- The size in a bitmap header, without the direction in which the image is stored. -/
def ofBitmap (b : BitmapHeader) : VideoDescriptor :=
  ⟨UInt32.ofNat b.width.toInt.natAbs, UInt32.ofNat b.height.toInt.natAbs⟩

/-- The descriptor of the frames that a video info block describes. -/
def ofBlock (formatType : Guid) (block : List UInt8) : Except Rejection VideoDescriptor :=
  match bitmapOf formatType block with
  | .error e => .error (.invalidFormatBlock e)
  | .ok bitmap =>
    if bitmap.compression = .i420 then .ok (ofBitmap bitmap)
    else .error (.compressionMismatch .i420 bitmap.compression)

/-- The descriptor of a proposal, or the first rule that it fails. -/
def ofMediaType (t : MediaType) : Except Rejection VideoDescriptor :=
  if t.major ≠ some .video then .error (.wrongMajorType .video)
  else
    match t.subtype, t.formatType with
    | some subtype, some formatType =>
      if formatType ≠ .videoInfo ∧ formatType ≠ .videoInfo2 then
        .error (.unsupportedFormatType formatType)
      else if t.block.isEmpty then .error .missingFormatBlock
      else if subtype ≠ .i420 then .error (.unsupportedSubtype subtype)
      else ofBlock formatType t.block
    | _, _ => .error .missingSubtypeOrFormatType

/-- A length as a signed field holds it, at most the largest it can hold. -/
def signedLength (length : UInt32) : Int32 := Int32.ofNat (min length.toNat 2147483647)

/-- The header advertised for a requested size. -/
def advertisedBitmap (requested : VideoDescriptor) : BitmapHeader :=
  .i420 (signedLength requested.width) (signedLength requested.height)

/-- The media type advertised for a requested size. -/
def advertised (requested : VideoDescriptor) : MediaType :=
  let bitmap := advertisedBitmap requested
  let mediaType : MediaType :=
    { major := some .video, subtype := some .i420, formatType := some .videoInfo,
      block := VideoInfo.encode { bitmap } }
  mediaType.withSampleSize bitmap.imageSize

end MediaIntake.VideoDescriptor
