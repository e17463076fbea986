import MediaIntake.Descriptor.Audio
import MediaIntake.Media.MediaType
import MediaIntake.Negotiation.Rejection
/-! # Audio negotiation

Accepted is uncompressed audio in a wave block with integer, floating point or extensible
samples.  The rules are tried in a fixed order and **the first rule that fails is the one
reported**.  Advertised are floating point and integer samples, in this order and without a
format block: rate and layout are for the source to fill in.
-/
namespace MediaIntake.AudioDescriptor

/-- The subtypes that are accepted, the preferred one first. -/
def subtypes : List Guid := [.ieeeFloat, .pcm]

/-- The wave format tags that are accepted. -/
def tags : List WaveTag := [.pcm, .ieeeFloat, .extensible]

/-- The descriptor of the format that a wave block holds. -/
def ofBlock (block : List UInt8) : Except Rejection AudioDescriptor :=
  match WaveFormat.parse block with
  | .error e => .error (.invalidFormatBlock e)
  | .ok w => if w.tag ∈ tags then .ok (ofWave w) else .error (.unsupportedTag w.tag)

/-- The descriptor of a proposal, or the first rule that it fails. -/
def ofMediaType (t : MediaType) : Except Rejection AudioDescriptor :=
  if t.major ≠ some .audio then .error (.wrongMajorType .audio)
  else if t.temporal then .error .temporallyCompressed
  else
    match t.subtype, t.formatType with
    | some subtype, some formatType =>
      if formatType ≠ .waveFormat then .error (.unsupportedFormatType formatType)
      else if subtype ∉ subtypes then .error (.unsupportedSubtype subtype)
      else if t.block.isEmpty then .error .missingFormatBlock
      else ofBlock t.block
    | _, _ => .error .missingSubtypeOrFormatType

/-- The media type advertised at an index. -/
def advertised? (index : Nat) : Option MediaType :=
  subtypes[index]?.map fun subtype =>
    { major := some .audio, subtype := some subtype, formatType := some .waveFormat }

end MediaIntake.AudioDescriptor
