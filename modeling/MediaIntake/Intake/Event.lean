import MediaIntake.Intake.Buffer
import MediaIntake.Intake.Error
/-! # Events

Everything an endpoint records while it works.  An event says what happened; its level and its
text follow from that.
-/
namespace MediaIntake

/-- How important a record is, the most important level first. -/
inductive Level where
  | error
  | warn
  | info
  | debug
  | trace
  deriving DecidableEq, Repr

namespace Level

def rank : Level → Nat
  | error => 0
  | warn => 1
  | info => 2
  | debug => 3
  | trace => 4

/-- Whether records of this level are shown where `limit` is the last level shown. -/
def isShown (limit level : Level) : Bool := level.rank ≤ limit.rank

end Level

inductive Event (k : Kind) where
  /-- A call found the lock poisoned by one that had unwound, and cleared it. -/
  | lockRecovered
  | reconfigurationRefused (state : GraphState)
  | requested (descriptor : k.Descriptor)
  | negotiated (descriptor : k.Descriptor)
  | proposalRejected (mediaType : MediaType) (reason : Rejection)
  | advertised (bitmap : BitmapHeader)
  | sampleDropped (state : GraphState)
  | payloadMissing
  | timesMissing
  | formatMissing
  | stopTimeMissing
  | bufferFailed (error : DeliveryError)
  | bufferFilled (buffer : Buffer k)
  | consumerFailed (status : ConsumerStatus)
  /-- The consumer panicked, with a message if it left one. -/
  | consumerPanicked (message : Option String)
  deriving DecidableEq

namespace Event
variable {k : Kind}

def level : Event k → Level
  | .lockRecovered => .warn
  | .reconfigurationRefused _ => .info
  | .requested _ => .info
  | .negotiated _ => .info
  | .proposalRejected _ _ => .info
  | .advertised _ => .info
  | .sampleDropped _ => .debug
  | .payloadMissing => .error
  | .timesMissing => .error
  | .formatMissing => .error
  | .stopTimeMissing => .warn
  | .bufferFailed _ => .error
  | .bufferFilled _ => .debug
  | .consumerFailed _ => .error
  | .consumerPanicked _ => .error

def message : Event k → String
  | .lockRecovered => k.channelName ++ " lock poisoned by a panicking caller, recovering"
  | .reconfigurationRefused state =>
    k.channelName ++ " configuration change refused while " ++ state.text
  | .requested d => "requested " ++ k.channelName ++ " settings: " ++ k.descriptorText d
  | .negotiated d => "actual " ++ k.channelName ++ " settings: " ++ k.descriptorText d
  | .proposalRejected t reason =>
    k.channelName ++ " rejecting type (" ++ t.text ++ "): " ++ reason.message
  | .advertised b =>
    "advertising video format 0: " ++ toString b.width.toInt ++ "x" ++ toString b.height.toInt
      ++ " " ++ b.compression.text ++ " (" ++ toString b.imageSize.toNat ++ " bytes)"
  | .sampleDropped state => k.channelName ++ " sample dropped, endpoint is " ++ state.text
  | .payloadMissing => k.channelName ++ " sample delivered without a payload"
  | .timesMissing => k.channelName ++ " sample time query failed"
  | .formatMissing => k.channelName ++ " sample delivered before a format was negotiated"
  | .stopTimeMissing => "audio sample has no stop time, duration set to 0"
  | .bufferFailed error => k.channelName ++ " sample buffer init failed: " ++ error.message
  | .bufferFilled b => b.text
  | .consumerFailed status => k.channelName ++ " consumer failed: " ++ status.message
  | .consumerPanicked message =>
    k.channelName ++ " consumer panicked: " ++ message.getD "non-string panic payload"

end Event

/-- What advertising a media type records: video tells the size of its frames. -/
def Kind.advertisingEvents : (k : Kind) → Nat → k.Descriptor → List (Event k)
  | video, 0, requested => [.advertised (VideoDescriptor.advertisedBitmap requested)]
  | _, _, _ => []

/-- What is recorded about the times of a sample: audio misses a stop time. -/
def Kind.timeEvents : (k : Kind) → SampleTimes → List (Event k)
  | audio, times => if times.stop.isNone then [.stopTimeMissing] else []
  | video, _ => []

end MediaIntake
