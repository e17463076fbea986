import MediaIntake.Intake.Slot
/-! # Delivered samples

A source hands over samples that it owns: the payload and the times are asked for, and each
question is answered, not answered, or ends in a panic.  A delivery goes through fixed checks,
**each made only if those before it passed**: the graph is not stopped, there is a payload,
there are times, a format has been negotiated, and the buffer can be filled.
-/
namespace MediaIntake

/-- What asking a sample leads to. -/
inductive Reply (α : Type) where
  | answers (a : α)
  | declines
  | panics
  deriving DecidableEq

/-- The two questions that a sample is asked. -/
inductive Query where
  | payload
  | times
  deriving DecidableEq, Repr

def Query.text : Query → String
  | .payload => "payload"
  | .times => "times"

/-- A sample by the replies it gives. -/
structure Sample where
  payload : Reply ByteArray
  times : Reply SampleTimes
  deriving DecidableEq

/-- What a panic of the consumer carries. -/
inductive PanicValue where
  | text (message : String)
  /-- Anything else.  It may bring code of its own that runs when it is dropped, and that code can
  panic as well. -/
  | other (panicsOnDrop : Bool)
  deriving DecidableEq, Repr

/-- The message that is read off it, if it is one. -/
def PanicValue.message? : PanicValue → Option String
  | .text message => some message
  | .other _ => none

/-- What the consumer does with a buffer. -/
inductive Reaction where
  | accepts
  | fails (status : ConsumerStatus)
  | panics (value : PanicValue)
  deriving DecidableEq, Repr

/-- Whether the consumer unwinds the delivery.  A panic of its own is caught; the value that it
carries is dropped once the panic has been recorded, and a panic of that is not. -/
def Reaction.escapes : Reaction → Bool
  | .panics (.other panicsOnDrop) => panicsOnDrop
  | _ => false

/-- A delivered sample with all that happens around it. -/
structure Delivery where
  /-- The state of the graph. -/
  state : GraphState
  sample : Sample
  /-- Whether memory is refused while the sample is packaged. -/
  memoryRefused : Bool := false
  /-- What the consumer does if it is called. -/
  reaction : Reaction := .accepts
  deriving DecidableEq

/-- How packaging a sample ends. -/
inductive Verdict where
  /-- The buffer holds the sample. -/
  | packaged
  | failed (error : DeliveryError)
  /-- A reply of the sample was a panic. -/
  | unwound
  deriving DecidableEq, Repr

/-- Packaging a sample: how it ends, the questions asked, the events, and the buffer after. -/
structure Packaging (k : Kind) where
  verdict : Verdict
  queries : List Query
  events : List (Event k)
  slot : Slot k

namespace Slot
variable {k : Kind}

/-- Packages a sample with a payload and times, if a format has been negotiated. -/
def receive (s : Slot k) (actual : k.Descriptor) (times : SampleTimes) (payload : ByteArray)
    (memoryRefused : Bool) : Packaging k :=
  let queries := [.payload, .times]
  if actual = k.empty then ⟨.failed .notConnected, queries, [.formatMissing], s⟩
  else
    match s.fill actual times payload memoryRefused with
    | (.ok (), s) => ⟨.packaged, queries, k.timeEvents times, s⟩
    | (.error e, s) => ⟨.failed e, queries, k.timeEvents times ++ [.bufferFailed e], s⟩

/-- Checks and packages a delivered sample. -/
def package (s : Slot k) (actual : k.Descriptor) (d : Delivery) : Packaging k :=
  if !d.state.acceptsSamples then
    ⟨.failed (.wrongState d.state), [], [.sampleDropped d.state], s⟩
  else
    match d.sample.payload with
    | .panics => ⟨.unwound, [.payload], [], s⟩
    | .declines => ⟨.failed .emptyPayload, [.payload], [.payloadMissing], s⟩
    | .answers payload =>
      if payload.isEmpty then ⟨.failed .emptyPayload, [.payload], [.payloadMissing], s⟩
      else
        match d.sample.times with
        | .panics => ⟨.unwound, [.payload, .times], [], s⟩
        | .declines => ⟨.failed .timesUnavailable, [.payload, .times], [.timesMissing], s⟩
        | .answers times => s.receive actual times payload d.memoryRefused

end Slot

/-- What the consumer's reaction records. -/
def Reaction.events {k : Kind} : Reaction → List (Event k)
  | .accepts => []
  | .fails status => [.consumerFailed status]
  | .panics value => [.consumerPanicked value.message?]

end MediaIntake
