import MediaIntake.Media.Guid
/-! # Media types

The record that two parties exchange while they negotiate a format.  A source may leave
identifiers out; whoever receives such a proposal treats it as malformed and does not guess.
-/
namespace MediaIntake

/-- A proposed or advertised sample format. -/
structure MediaType where
  /-- Audio, video or something else. -/
  major : Option Guid := none
  /-- Encoding of the samples. -/
  subtype : Option Guid := none
  /-- The record that the format block holds. -/
  formatType : Option Guid := none
  /-- Samples depend on each other. -/
  temporal : Bool := false
  /-- Every sample has `sampleSize` bytes. -/
  fixedSize : Bool := false
  /-- Bytes of a sample, zero where they vary. -/
  sampleSize : UInt32 := 0
  /-- The format block. -/
  block : List UInt8 := []
  deriving DecidableEq, Repr

namespace MediaType

/-- A declared sample size other than zero makes the samples fixed in size. -/
def withSampleSize (t : MediaType) (size : UInt32) : MediaType :=
  { t with fixedSize := size ≠ 0, sampleSize := size }

/-- The name of an identifier that may be absent. -/
def nameOf : Option Guid → String
  | some g => g.name
  | none => "none"

def text (t : MediaType) : String :=
  s!"major={nameOf t.major} subtype={nameOf t.subtype} format={nameOf t.formatType} ({t.block.length} bytes)"

end MediaType
end MediaIntake
