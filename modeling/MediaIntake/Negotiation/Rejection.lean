import MediaIntake.Format.Wave
/-! # Rejections

Why a proposed media type is refused.  A proposal is malformed when it lacks what every
proposal has, or when its format block cannot be read; the other rejections are of proposals
that are in order and not supported.
-/
namespace MediaIntake

inductive Rejection where
  /-- The major type is missing or another one; `expected` names the accepted one. -/
  | wrongMajorType (expected : Guid)
  | temporallyCompressed
  | missingSubtypeOrFormatType
  | unsupportedFormatType (formatType : Guid)
  | unsupportedSubtype (subtype : Guid)
  | missingFormatBlock
  | invalidFormatBlock (error : BlockError)
  | unsupportedTag (tag : WaveTag)
  /-- The frame header names another pixel layout than the subtype. -/
  | compressionMismatch (expected actual : FourCC)
  deriving DecidableEq, Repr

namespace Rejection

/-- Whether the proposal itself is at fault. -/
def isMalformed : Rejection → Bool
  | .missingSubtypeOrFormatType => true
  | .missingFormatBlock => true
  | .invalidFormatBlock _ => true
  | _ => false

def message : Rejection → String
  | .wrongMajorType expected => s!"major type is not {expected.name}"
  | .temporallyCompressed => "temporally compressed streams are not accepted"
  | .missingSubtypeOrFormatType => "missing subtype or format type"
  | .unsupportedFormatType formatType => "format type " ++ formatType.name ++ " not supported"
  | .unsupportedSubtype subtype => "subtype " ++ subtype.name ++ " not supported"
  | .missingFormatBlock => "missing format block"
  | .invalidFormatBlock error => s!"invalid format block: {error.message}"
  | .unsupportedTag tag => s!"wave format tag {tag.text} not supported"
  | .compressionMismatch expected actual =>
    s!"compression {actual.text} does not match subtype {expected.text}"

end Rejection
end MediaIntake
