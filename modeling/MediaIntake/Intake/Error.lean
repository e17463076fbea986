import MediaIntake.Intake.GraphState
import MediaIntake.Negotiation.Rejection
/-! # Errors of endpoints

A delivered sample can fail on its own (`DeliveryError`); such a failure concerns that sample
only.  Calls that negotiate or configure fail with an `EndpointError`.  What a consumer reports
is advisory: it is recorded and counted, and no caller is told.
-/
namespace MediaIntake

/-- Why one delivered sample did not reach the consumer. -/
inductive DeliveryError where
  /-- The sample has no payload, or one without bytes. -/
  | emptyPayload
  /-- The sample could not say its times. -/
  | timesUnavailable
  /-- The buffer could not be made ready; `detail` says why. -/
  | bufferUnavailable (detail : String)
  /-- No format has been negotiated. -/
  | notConnected
  /-- The graph was stopped. -/
  | wrongState (state : GraphState)
  deriving DecidableEq, Repr

namespace DeliveryError

/-- Whether the failure is an expected race: a source may deliver one last sample right after
the graph has stopped. -/
def isBenign : DeliveryError → Bool
  | .wrongState _ => true
  | _ => false

def message : DeliveryError → String
  | .emptyPayload => "sample has no payload"
  | .timesUnavailable => "sample time query failed"
  | .bufferUnavailable detail => "sample buffer init failed: " ++ detail
  | .notConnected => "endpoint is not connected"
  | .wrongState state => "sample delivered while " ++ state.text

/-- The failure of a buffer for which there is no memory. -/
def outOfMemory : DeliveryError :=
  .bufferUnavailable "memory allocation failed because the memory allocator returned an error"

end DeliveryError

/-- The status that a consumer reports. -/
structure ConsumerStatus where
  code : Int32
  deriving DecidableEq, Repr

def ConsumerStatus.message (s : ConsumerStatus) : String :=
  s!"consumer returned status {s.code.toInt}"

/-- Why a call to an endpoint failed. -/
inductive EndpointError where
  /-- The proposed format is not acceptable; what was negotiated stays. -/
  | rejected (reason : Rejection)
  /-- The configuration was to change while the graph was not stopped. -/
  | notStopped (state : GraphState)
  | delivery (error : DeliveryError)
  /-- A configuration text could not be read. -/
  | configuration (error : Json.Error)
  deriving DecidableEq, Repr

def EndpointError.message : EndpointError → String
  | .rejected reason => "Format rejected: " ++ reason.message
  | .notStopped state =>
    "Invalid state: configuration requires a stopped endpoint, endpoint is " ++ state.text
  | .delivery error => "Ingest failed: " ++ error.message
  | .configuration error => "Invalid configuration: " ++ error.message

end MediaIntake
