/-! # Errors of format blocks

A format block is an opaque range of bytes.  It can be shorter than the record it should
hold, or long enough with a field that no record may have.
-/
namespace MediaIntake

/-- The records that a format block can hold. -/
inductive BlockRecord where
  | wave
  | waveExtensible
  | videoInfo
  | videoInfo2
  deriving DecidableEq, Repr

/-- The name a record is documented under. -/
def BlockRecord.name : BlockRecord → String
  | .wave => "WAVEFORMATEX"
  | .waveExtensible => "WAVEFORMATEXTENSIBLE"
  | .videoInfo => "VIDEOINFOHEADER"
  | .videoInfo2 => "VIDEOINFOHEADER2"

/-- A field that is out of range. -/
inductive BlockFlaw where
  | noChannels
  | noSampleRate
  | noBlockAlign
  /-- The extra size of an extensible wave record is below what its extension takes. -/
  | extraSize (declared : UInt16)
  | width (width : Int32)
  | noHeight
  deriving DecidableEq, Repr

def BlockFlaw.text : BlockFlaw → String
  | .noChannels => "nChannels is zero"
  | .noSampleRate => "nSamplesPerSec is zero"
  | .noBlockAlign => "nBlockAlign is zero"
  | .extraSize declared =>
    s!"cbSize {declared.toNat} too small for WAVE_FORMAT_EXTENSIBLE (need 22)"
  | .width w => s!"biWidth {w.toInt} is not positive"
  | .noHeight => "biHeight is zero"

/-- Why a block could not be read. -/
inductive BlockError where
  /-- The block has fewer bytes than the record. -/
  | truncated (record : BlockRecord) (expected actual : Nat)
  /-- The block is long enough and one of its fields is out of range. -/
  | invalid (record : BlockRecord) (flaw : BlockFlaw)
  deriving DecidableEq, Repr

namespace BlockError

/-- The record that was being read. -/
def record : BlockError → BlockRecord
  | .truncated record _ _ => record
  | .invalid record _ => record

def message : BlockError → String
  | .truncated record expected actual =>
    s!"Truncated {record.name}: expected at least {expected} bytes, got {actual}"
  | .invalid record flaw => s!"Invalid {record.name}: {flaw.text}"

end BlockError
end MediaIntake
