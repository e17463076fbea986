import MediaIntake.Json.Cursor
/-! # Strings in JSON texts

Strings are read one character at a time by a scanner that remembers where in an escape it
stands.  A string whose value is wanted must be well formed throughout: surrogate escapes come
in pairs.  A string that is only skipped may hold lone surrogates; the two scanners also differ
in where they place a control character.
-/
namespace MediaIntake.Json

/-- Where the scanner of a wanted string stands. -/
inductive StringState where
  /-- Outside an escape. -/
  | plain
  /-- After a backslash. -/
  | escape
  /-- Inside `\uXXXX`: the digits still to come, the value so far, and the leading surrogate
  that this escape has to complete. -/
  | unit (count value : Nat) (lead : Option Nat)
  /-- After a leading surrogate. -/
  | lead (value : Nat)
  /-- After a leading surrogate and a backslash. -/
  | leadEscape (value : Nat)

/-- The character of a one-letter escape. -/
def simpleEscape? (c : Char) : Option Char :=
  match c with
  | '"' => some '"'
  | '\\' => some '\\'
  | '/' => some '/'
  | 'b' => some '\x08'
  | 'f' => some '\x0c'
  | 'n' => some '\n'
  | 'r' => some '\r'
  | 't' => some '\t'
  | _ => none

/-- Whether a UTF-16 unit is the first of a pair. -/
def isLeading (unit : Nat) : Bool := 0xD800 ≤ unit && unit ≤ 0xDBFF

/-- Whether a UTF-16 unit is the second of a pair. -/
def isTrailing (unit : Nat) : Bool := 0xDC00 ≤ unit && unit ≤ 0xDFFF

/-- The character of a surrogate pair. -/
def pairChar (leading trailing : Nat) : Char :=
  Char.ofNat ((leading - 0xD800) * 0x400 + (trailing - 0xDC00) + 0x10000)

/-- Puts a character before what a reader of the rest gives. -/
def consChar (c : Char) (result : Except Failure (List Char × List Char)) :
    Except Failure (List Char × List Char) :=
  result.map fun (text, rest) => (c :: text, rest)

/-- Reads a string up to its closing quote. -/
def scanString : StringState → Reader (List Char)
  | _, [] => failHere .eofString []
  | .plain, c :: rest =>
    if c = '"' then .ok ([], rest)
    else if c = '\\' then scanString .escape rest
    else if c.toNat < 0x20 then failHere .controlCharacter rest
    else consChar c (scanString .plain rest)
  | .escape, c :: rest =>
    if c = 'u' then scanString (.unit 4 0 none) rest
    else
      match simpleEscape? c with
      | some d => consChar d (scanString .plain rest)
      | none => failNext .escape (c :: rest)
  | .unit count value lead, c :: rest =>
    match hexValue? c with
    | none => failHex count (c :: rest)
    | some digit =>
      let value := value * 16 + digit
      if 1 < count then scanString (.unit (count - 1) value lead) rest
      else
        match lead with
        | some leading =>
          if isTrailing value then consChar (pairChar leading value) (scanString .plain rest)
          else failHere .loneSurrogate rest
        | none =>
          if isTrailing value then failHere .loneSurrogate rest
          else if isLeading value then scanString (.lead value) rest
          else consChar (Char.ofNat value) (scanString .plain rest)
  | .lead value, c :: rest =>
    if c = '\\' then scanString (.leadEscape value) rest else failNext .endOfHexEscape (c :: rest)
  | .leadEscape value, c :: rest =>
    if c = 'u' then scanString (.unit 4 0 (some value)) rest
    else failNext .endOfHexEscape (c :: rest)

/-- Reads a wanted string, its opening quote already taken. -/
def readString : Reader (List Char) := scanString .plain

/-- Where the scanner of a skipped string stands. -/
inductive SkipState where
  | plain
  | escape
  /-- Inside `\uXXXX`, with so many digits still to come. -/
  | unit (count : Nat)

/-- Skips a string up to its closing quote. -/
def scanSkipped : SkipState → List Char → Except Failure (List Char)
  | _, [] => failHere .eofString []
  | .plain, c :: rest =>
    if c = '"' then .ok rest
    else if c = '\\' then scanSkipped .escape rest
    else if c.toNat < 0x20 then failHere .controlCharacter (c :: rest)
    else scanSkipped .plain rest
  | .escape, c :: rest =>
    if c = 'u' then scanSkipped (.unit 4) rest
    else if (simpleEscape? c).isSome then scanSkipped .plain rest
    else failNext .escape (c :: rest)
  | .unit count, c :: rest =>
    match hexValue? c with
    | none => failHex count (c :: rest)
    | some _ => if 1 < count then scanSkipped (.unit (count - 1)) rest else scanSkipped .plain rest

/-- Skips a string, its opening quote already taken. -/
def skipString : List Char → Except Failure (List Char) := scanSkipped .plain

end MediaIntake.Json
