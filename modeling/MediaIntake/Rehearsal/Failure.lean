import MediaIntake.Intake.Error
import MediaIntake.Rehearsal.FileTree
/-! # Failures of a rehearsal

A rehearsal stops at the first call that fails.  The failure is reported in a form for
developers: the kind of each error by name, with what it carries in parentheses or braces and
texts in quotes.
-/
namespace MediaIntake.Rehearsal

/-- Why a rehearsal stopped. -/
inductive Failure where
  | file (fault : FileFault)
  | call (error : EndpointError)
  /-- A sample was dropped that should have been taken. -/
  | sample (error : DeliveryError)
  /-- There was no video format to propose. -/
  | unadvertised
  deriving DecidableEq, Repr

/-- The name of a kind of error with what it carries by name. -/
def withFields (name : String) (fields : List (String × String)) : String :=
  name ++ " \x7b " ++ String.intercalate ", " (fields.map fun f => f.1 ++ ": " ++ f.2) ++ " \x7d"

/-- The name of a kind of error with the one thing it carries. -/
def withValue (name value : String) : String := name ++ "(" ++ value ++ ")"

def inspectBlockError : BlockError → String
  | .truncated record expected actual =>
    withFields "Truncated" [("record", Quoted.quote record.name),
      ("expected", toString expected), ("actual", toString actual)]
  | .invalid record flaw =>
    withFields "Invalid" [("record", Quoted.quote record.name),
      ("reason", Quoted.quote flaw.text)]

def inspectCode (c : FourCC) : String := withValue "FourCc" (toString c.code.toNat)

def inspectRejection : Rejection → String
  | .wrongMajorType expected =>
    withFields "WrongMajorType" [("expected", Quoted.quote expected.name)]
  | .temporallyCompressed => "TemporallyCompressed"
  | .missingSubtypeOrFormatType => "MissingSubtypeOrFormatType"
  | .unsupportedFormatType formatType => withValue "UnsupportedFormatType" formatType.text
  | .unsupportedSubtype subtype => withValue "UnsupportedSubtype" subtype.text
  | .missingFormatBlock => "MissingFormatBlock"
  | .invalidFormatBlock error => withValue "InvalidFormatBlock" (inspectBlockError error)
  | .unsupportedTag tag =>
    withValue "UnsupportedFormatTag" (withValue "WaveFormatTag" (toString tag.code.toNat))
  | .compressionMismatch expected actual =>
    withFields "FourCcMismatch" [("expected", inspectCode expected), ("actual", inspectCode actual)]

def inspectState : GraphState → String
  | .stopped => "Stopped"
  | .transitioning => "Transitioning"
  | .running => "Running"

def inspectDeliveryError : DeliveryError → String
  | .emptyPayload => "EmptyPayload"
  | .timesUnavailable => "TimeQueryFailed"
  | .bufferUnavailable detail => withValue "BufferInitFailed" (Quoted.quote detail)
  | .notConnected => "NotConnected"
  | .wrongState state => withValue "WrongState" (inspectState state)

def inspectJsonError (e : Json.Error) : String :=
  s!"Error({Quoted.quote e.fault.text}, line: {e.position.line}, column: {e.position.column})"

def inspectEndpointError : EndpointError → String
  | .rejected reason => withValue "FormatRejected" (inspectRejection reason)
  | .notStopped state => withValue "InvalidState" (inspectState state)
  | .delivery error => withValue "Ingest" (inspectDeliveryError error)
  | .configuration error => withValue "Config" (inspectJsonError error)

/-- A fault that the operating system reports by a code. -/
def inspectSystemFault (code : Nat) (kind description : String) : String :=
  withFields "Os" [("code", toString code), ("kind", kind), ("message", Quoted.quote description)]

def FileFault.inspect : FileFault → String
  | .notFound => inspectSystemFault 2 "NotFound" "No such file or directory"
  | .accessDenied => inspectSystemFault 13 "PermissionDenied" "Permission denied"
  | .notDirectory => inspectSystemFault 20 "NotADirectory" "Not a directory"
  | .isDirectory => inspectSystemFault 21 "IsADirectory" "Is a directory"
  | .nameTooLong => inspectSystemFault 36 "InvalidFilename" "File name too long"
  | .notText =>
    withFields "Error" [("kind", "InvalidData"),
      ("message", Quoted.quote "stream did not contain valid UTF-8")]
  | .other code description => inspectSystemFault code "Uncategorized" description

def Failure.inspect : Failure → String
  | .file fault => fault.inspect
  | .call error => inspectEndpointError error
  | .sample error => inspectDeliveryError error
  | .unadvertised => Quoted.quote "video endpoint advertised no format"

end MediaIntake.Rehearsal
