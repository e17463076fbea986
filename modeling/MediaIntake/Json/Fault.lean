import MediaIntake.Number.Shortest
import MediaIntake.Text.Quoted
/-! # Errors of JSON texts

A reader that fails says what it found wrong (`Fault`) and how many bytes of the text it had
not consumed by then (`Failure`).  The place in lines and columns is worked out once, from
the whole text and that number (`Position.at`): **a column counts the bytes of the line up to
there**, and a line break begins the next line at column zero.
-/
namespace MediaIntake.Json

/-- The unsigned integers that a field may hold. -/
inductive Width where
  | bits16
  | bits32
  deriving DecidableEq, Repr

/-- The largest integer of a width. -/
def Width.max : Width → Nat
  | .bits16 => 65535
  | .bits32 => 4294967295

def Width.text : Width → String
  | .bits16 => "u16"
  | .bits32 => "u32"

/-- What a reader wanted. -/
inductive Expected where
  | unsigned (width : Width)
  | record (name : String)
  | unit
  deriving DecidableEq, Repr

def Expected.text : Expected → String
  | .unsigned width => width.text
  | .record name => s!"struct {name}"
  | .unit => "unit"

/-- The numbers of JSON texts as they are told apart: an integer that fits 64 bits, the
negative ones with a sign, or a floating point number. -/
inductive Number where
  | unsigned (n : Nat)
  /-- The integer `-n`. -/
  | negative (n : Nat)
  | float (x : Binary64)
  deriving DecidableEq, Repr

/-- A value that stood where another kind of value was wanted. -/
inductive Found where
  | null
  | boolean (b : Bool)
  | number (n : Number)
  | string (text : List Char)
  | sequence
  | map
  deriving DecidableEq, Repr

/-- How a floating point number is quoted: its shortest digits with at least one decimal place
from 10^-5 up to below 10^16, with a signed exponent outside. -/
def floatText (x : Binary64) : String :=
  let sign := if x.negative then "-" else ""
  if x.isZero then sign ++ "0.0"
  else
    let short := x.shortest
    let digits := Nat.toDigits 10 short.digits
    let point : Int := (digits.length : Int) + short.exponent
    let zeros (n : Int) : List Char := List.replicate n.toNat '0'
    let body : List Char :=
      if 0 ≤ short.exponent ∧ point ≤ 16 then digits ++ zeros short.exponent ++ ['.', '0']
      else if 0 < point ∧ point ≤ 16 then
        digits.take point.toNat ++ '.' :: digits.drop point.toNat
      else if -5 < point ∧ point ≤ 0 then '0' :: '.' :: zeros (-point) ++ digits
      else
        let power := (point - 1).natAbs
        let fraction := digits.drop 1
        digits.take 1 ++ (if fraction.isEmpty then [] else '.' :: fraction)
          ++ 'e' :: (if point - 1 < 0 then '-' else '+') :: Nat.toDigits 10 power
    sign ++ String.ofList body

def Number.text : Number → String
  | .unsigned n => s!"integer `{n}`"
  | .negative n => s!"integer `-{n}`"
  | .float x => s!"floating point `{floatText x}`"

def Found.text : Found → String
  | .null => "null"
  | .boolean b => s!"boolean `{b}`"
  | .number n => n.text
  | .string text => "string " ++ Quoted.quote (String.ofList text)
  | .sequence => "sequence"
  | .map => "map"

/-- What is wrong with a text. -/
inductive Fault where
  | eofValue
  | eofList
  | eofObject
  | eofString
  | value
  | literal
  | key
  | colon
  | commaOrBrace
  | commaOrBracket
  | trailingComma
  | trailingCharacters
  | number
  | numberRange
  | escape
  | endOfHexEscape
  | loneSurrogate
  | controlCharacter
  | invalidType (found : Found) (expected : Expected)
  | invalidValue (found : Number) (expected : Expected)
  | unknownVariant (name : List Char) (known : List String)
  | duplicateField (name : String)
  deriving DecidableEq, Repr

def Fault.text : Fault → String
  | .eofValue => "EOF while parsing a value"
  | .eofList => "EOF while parsing a list"
  | .eofObject => "EOF while parsing an object"
  | .eofString => "EOF while parsing a string"
  | .value => "expected value"
  | .literal => "expected ident"
  | .key => "key must be a string"
  | .colon => "expected `:`"
  | .commaOrBrace => "expected `,` or `\x7d`"
  | .commaOrBracket => "expected `,` or `]`"
  | .trailingComma => "trailing comma"
  | .trailingCharacters => "trailing characters"
  | .number => "invalid number"
  | .numberRange => "number out of range"
  | .escape => "invalid escape"
  | .endOfHexEscape => "unexpected end of hex escape"
  | .loneSurrogate => "lone leading surrogate in hex escape"
  | .controlCharacter => "control character (\\u0000-\\u001F) found while parsing a string"
  | .invalidType found expected => s!"invalid type: {found.text}, expected {expected.text}"
  | .invalidValue found expected => s!"invalid value: {found.text}, expected {expected.text}"
  | .unknownVariant name known =>
    let alternatives := String.intercalate ", " (known.map fun k => s!"`{k}`")
    s!"unknown variant `{String.ofList name}`, expected one of {alternatives}"
  | .duplicateField name => s!"duplicate field `{name}`"

/-! ## Places -/

/-- The bytes of a text in UTF-8. -/
def byteLength : List Char → Nat
  | [] => 0
  | c :: text => c.utf8Size + byteLength text

/-- A place in a text. -/
structure Position where
  line : Nat
  column : Nat
  deriving DecidableEq, Repr

/-- The place `count` bytes further on in a text. -/
def Position.advance : Nat → Position → List Char → Position
  | _, p, [] => p
  | count, p, c :: rest =>
    if c.utf8Size ≤ count then
      advance (count - c.utf8Size)
        (if c = '\n' then ⟨p.line + 1, 0⟩ else ⟨p.line, p.column + c.utf8Size⟩) rest
    else ⟨p.line, p.column + count⟩

/-- The place in a text where `left` bytes are left of it. -/
def Position.at (text : List Char) (left : Nat) : Position :=
  advance (byteLength text - left) ⟨1, 0⟩ text

/-- Why a reader stopped, and how many bytes it had not consumed. -/
structure Failure where
  fault : Fault
  left : Nat
  deriving DecidableEq, Repr

/-- A fault at its place in the text. -/
structure Error where
  fault : Fault
  position : Position
  deriving DecidableEq, Repr

def Error.message (e : Error) : String :=
  s!"{e.fault.text} at line {e.position.line} column {e.position.column}"

end MediaIntake.Json
