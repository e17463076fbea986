import MediaIntake.Negotiation.Audio
import MediaIntake.Negotiation.Video
/-! # Kinds of media

Endpoints for audio and for video behave alike; what differs is collected here.  A kind has
its type of descriptors with the empty one among them, the rules by which it accepts
proposals, and its part in buffers: audio buffers have a duration, video buffers a pixel
layout.
-/
namespace MediaIntake

/-- The pixel layouts of video buffers. -/
inductive PixelLayout where
  /-- Planar YUV 4:2:0. -/
  | i420
  deriving DecidableEq, Repr

/-- The code that names a pixel layout. -/
def PixelLayout.fourcc : PixelLayout → FourCC
  | .i420 => FourCC.i420

inductive Kind where
  | audio
  | video
  deriving DecidableEq, Repr

namespace Kind

/-- The formats that endpoints of a kind negotiate. -/
abbrev Descriptor : Kind → Type
  | audio => AudioDescriptor
  | video => VideoDescriptor

instance (k : Kind) : DecidableEq k.Descriptor :=
  match k with
  | audio => inferInstanceAs (DecidableEq AudioDescriptor)
  | video => inferInstanceAs (DecidableEq VideoDescriptor)

/-- How long a buffer lasts, for the kind that says so. -/
abbrev Duration : Kind → Type
  | audio => Millis
  | video => Unit

instance (k : Kind) : DecidableEq k.Duration :=
  match k with
  | audio => inferInstanceAs (DecidableEq Millis)
  | video => inferInstanceAs (DecidableEq Unit)

/-- How the pixels of a buffer are laid out, for the kind that has pixels. -/
abbrev Layout : Kind → Type
  | audio => Unit
  | video => PixelLayout

instance (k : Kind) : DecidableEq k.Layout :=
  match k with
  | audio => inferInstanceAs (DecidableEq Unit)
  | video => inferInstanceAs (DecidableEq PixelLayout)

/-- The name of the single channel of an endpoint. -/
def channelName : Kind → String
  | audio => "AudioSink"
  | video => "VideoSink"

/-- The major type of the media. -/
def major : Kind → Guid
  | audio => .audio
  | video => .video

/-- The descriptor of no format. -/
def empty : (k : Kind) → k.Descriptor
  | audio => AudioDescriptor.empty
  | video => VideoDescriptor.empty

/-- The duration of a buffer that has never held a sample. -/
def noDuration : (k : Kind) → k.Duration
  | audio => ⟨0⟩
  | video => ()

/-- The only layout of a buffer. -/
def layout : (k : Kind) → k.Layout
  | audio => ()
  | video => .i420

def descriptorText : (k : Kind) → k.Descriptor → String
  | audio, d => AudioDescriptor.text d
  | video, d => VideoDescriptor.text d

/-- How descriptors are stored. -/
def schema : (k : Kind) → Json.Schema k.Descriptor
  | audio => AudioDescriptor.schema
  | video => VideoDescriptor.schema

/-- The descriptor of a proposal, or the first rule that it fails. -/
def negotiate : (k : Kind) → MediaType → Except Rejection k.Descriptor
  | audio, t => AudioDescriptor.ofMediaType t
  | video, t => VideoDescriptor.ofMediaType t

/-- The media type advertised at an index: video advertises the requested size, audio does not
look at what is requested. -/
def advertised? : (k : Kind) → Nat → k.Descriptor → Option MediaType
  | audio, index, _ => AudioDescriptor.advertised? index
  | video, 0, requested => some (VideoDescriptor.advertised requested)
  | video, _ + 1, _ => none

end Kind
end MediaIntake
