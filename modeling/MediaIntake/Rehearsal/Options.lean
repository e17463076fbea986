import MediaIntake.Intake.Kind
/-! # Options of a rehearsal

The command line takes long options only, each at most once, with the value either behind an
equals sign or as the next argument; a value of its own may not look like an option.  Numbers
are read as signed 64-bit decimals and must lie in the range of their option.  Arguments are
taken from left to right, so a fault wins over a later request for help.
-/
namespace MediaIntake.Rehearsal

structure Options where
  kind : Kind := .audio
  /-- Samples to deliver. -/
  samples : UInt32 := 10
  /-- Audio sample rate. -/
  rate : UInt32 := 48000
  /-- Audio channels. -/
  channels : UInt16 := 2
  /-- Requested width of video frames. -/
  width : UInt32 := 320
  /-- Requested height of video frames. -/
  height : UInt32 := 240
  /-- A file with the requested video descriptor, instead of width and height. -/
  config : Option String := none
  deriving DecidableEq, Repr

/-- The options by name; each takes a value. -/
inductive Setting where
  | kind
  | samples
  | rate
  | channels
  | width
  | height
  | config
  deriving DecidableEq, Repr

/-- The settings under the names that follow the two dashes. -/
def settings : List (String × Setting) :=
  [("kind", .kind), ("samples", .samples), ("rate", .rate), ("channels", .channels),
    ("width", .width), ("height", .height), ("config", .config)]

/-- What a command line asks for. -/
inductive Request where
  | run (options : Options)
  /-- Help or the version is asked for. -/
  | information
  /-- The command line cannot be understood. -/
  | misuse
  deriving DecidableEq, Repr

/-! ## Values -/

/-- A decimal without a sign, of at least one digit. -/
def readDigits? (digits : List Char) : Option Nat :=
  if digits.isEmpty || !digits.all Char.isDigit then none
  else some (digits.foldl (fun n c => n * 10 + Json.digitValue c) 0)

/-- A decimal with an optional sign. -/
def readInteger? : List Char → Option Int
  | '+' :: digits => (readDigits? digits).map fun n => (n : Int)
  | '-' :: digits => (readDigits? digits).map fun n => -(n : Int)
  | digits => (readDigits? digits).map fun n => (n : Int)

/-- A decimal between zero and `limit`. -/
def readNatural? (limit : Nat) (value : List Char) : Option Nat :=
  match readInteger? value with
  | some i => if 0 ≤ i ∧ i ≤ limit then some i.toNat else none
  | none => none

/-- The options with one setting changed, if the value suits it. -/
def Options.assign? (o : Options) (setting : Setting) (value : List Char) : Option Options :=
  let word (put : UInt32 → Options) : Option Options :=
    (readNatural? 4294967295 value).map fun n => put (UInt32.ofNat n)
  match setting with
  | .kind =>
    if value = "audio".toList then some { o with kind := .audio }
    else if value = "video".toList then some { o with kind := .video }
    else none
  | .samples => word fun n => { o with samples := n }
  | .rate => word fun n => { o with rate := n }
  | .channels => (readNatural? 65535 value).map fun n => { o with channels := UInt16.ofNat n }
  | .width => word fun n => { o with width := n }
  | .height => word fun n => { o with height := n }
  | .config => if value.isEmpty then none else some { o with config := some (String.ofList value) }

/-! ## Arguments -/

/-- A command line argument by its form. -/
inductive Argument where
  /-- Two dashes alone: no options follow. -/
  | separator
  /-- Two dashes and a name, with the value behind an equals sign if there is one. -/
  | long (name : List Char) (value : Option (List Char))
  /-- One dash and a letter. -/
  | short (letter : Char)
  | word (text : List Char)
  deriving DecidableEq, Repr

def Argument.ofText (text : String) : Argument :=
  match text.toList with
  | ['-', '-'] => .separator
  | '-' :: '-' :: body =>
    match body.dropWhile (· ≠ '=') with
    | [] => .long body none
    | _ :: value => .long (body.takeWhile (· ≠ '=')) (some value)
  | '-' :: letter :: _ => .short letter
  | body => .word body

/-- Takes the arguments from left to right; `seen` are the settings that were made. -/
def readArguments (o : Options) (seen : List Setting) : List Argument → Request
  | [] => .run o
  | .separator :: rest => if rest.isEmpty then .run o else .misuse
  | .short letter :: _ => if letter = 'h' ∨ letter = 'V' then .information else .misuse
  | .word _ :: _ => .misuse
  | .long name value :: rest =>
    match settings.find? (·.1.toList = name) with
    | none =>
      if (name = "help".toList ∨ name = "version".toList) ∧ value = none then .information
      else .misuse
    | some (_, setting) =>
      if setting ∈ seen then .misuse
      else
        match value, rest with
        | some value, rest =>
          match o.assign? setting value with
          | some o => readArguments o (setting :: seen) rest
          | none => .misuse
        | none, .word value :: rest =>
          match o.assign? setting value with
          | some o => readArguments o (setting :: seen) rest
          | none => .misuse
        | none, _ => .misuse

/-- What a command line asks for. -/
def Request.ofArguments (arguments : List String) : Request :=
  readArguments {} [] (arguments.map Argument.ofText)

end MediaIntake.Rehearsal
