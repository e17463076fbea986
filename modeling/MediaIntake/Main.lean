import MediaIntake.Rehearsal.Script
/-! # The command line

Reads the options and the configuration file, runs the rehearsal, and prints its records.  The
environment variable `MEDIA_LOG` names the last level that is shown.
-/
namespace MediaIntake.Rehearsal

def usage : String :=
  "Push synthetic samples through an endpoint\n\n" ++
  "Options: --kind audio|video --samples N --rate N --channels N\n" ++
  "         --width N --height N --config FILE_PATH --help --version"

def levels : List (String × Level) :=
  [("error", .error), ("warn", .warn), ("info", .info), ("debug", .debug), ("trace", .trace)]

/-- The fault that an error of the operating system stands for, whichever sign its code has. -/
def faultOf : IO.Error → FileFault
  | .noFileOrDirectory .. => .notFound
  | .permissionDenied .. => .accessDenied
  | .inappropriateType _ code description => ofCode code.toInt32.toInt.natAbs description
  | .invalidArgument _ code description => ofCode code.toInt32.toInt.natAbs description
  | .otherError code description => ofCode code.toInt32.toInt.natAbs description
  | error => .other 0 error.toString
where
  ofCode (code : Nat) (description : String) : FileFault :=
    if code = 20 then .notDirectory
    else if code = 21 then .isDirectory
    else if code = 36 then .nameTooLong
    else .other code description

/-- Reads a file as text. -/
def readConfig (path : String) : IO (Except FileFault String) := do
  try
    let bytes ← IO.FS.readBinFile path
    match String.fromUTF8? bytes with
    | some text => return .ok text
    | none => return .error .notText
  catch error => return .error (faultOf error)

def runOptions (options : Options) : IO UInt32 := do
  let named := (← IO.getEnv "MEDIA_LOG").bind fun name => levels.lookup name
  let limit := named.getD .info
  let file ← match options.kind, options.config with
    | .video, some path => some <$> readConfig path
    | _, _ => pure none
  let result := options.rehearse file limit
  for record in result.records do
    let name := ((levels.find? (·.2 = record.level)).map (·.1)).getD ""
    IO.println s!"{name}: {record.message}"
  IO.eprint result.errorText
  return UInt32.ofNat result.exitCode

end MediaIntake.Rehearsal

def main (arguments : List String) : IO UInt32 := do
  match MediaIntake.Rehearsal.Request.ofArguments arguments with
  | .run options => MediaIntake.Rehearsal.runOptions options
  | .information =>
    IO.println MediaIntake.Rehearsal.usage
    return 0
  | .misuse =>
    IO.eprintln MediaIntake.Rehearsal.usage
    return 2
