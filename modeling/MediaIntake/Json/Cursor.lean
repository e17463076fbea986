import MediaIntake.Json.Fault
/-! # Reading JSON texts

A reader takes the characters that are left and gives a value with those after it.  A failure
is placed in one of two ways: where the reader stands (`failHere`), or one byte further on,
past the byte it could not accept (`failNext`; at the end of the text the two agree).
-/
namespace MediaIntake.Json

/-- A reader of values of type `α`. -/
abbrev Reader (α : Type) : Type := List Char → Except Failure (α × List Char)

/-- Fails where the reader stands. -/
def failHere {α : Type} (fault : Fault) (rest : List Char) : Except Failure α :=
  .error ⟨fault, byteLength rest⟩

/-- Fails with the next byte counted as consumed. -/
def failNext {α : Type} (fault : Fault) (rest : List Char) : Except Failure α :=
  .error ⟨fault, byteLength rest - 1⟩

/-- White space between tokens: space, tab, line feed and carriage return. -/
def isBlank (c : Char) : Bool := c = ' ' || c = '\t' || c = '\n' || c = '\r'

/-- What is left after white space. -/
def skipBlanks (rest : List Char) : List Char := rest.dropWhile isBlank

/-- The colon between a key and its value. -/
def readColon (rest : List Char) : Except Failure (List Char) :=
  match skipBlanks rest with
  | [] => failNext .eofObject []
  | ':' :: rest => .ok rest
  | rest => failNext .colon rest

/-- The remaining letters of `null`, `true` or `false`. -/
def readLetters : List Char → List Char → Except Failure (List Char)
  | [], rest => .ok rest
  | _ :: _, [] => failHere .eofValue []
  | letter :: letters, c :: rest =>
    if c = letter then readLetters letters rest else failNext .literal (c :: rest)

/-- The value of a hexadecimal digit. -/
def hexValue? (c : Char) : Option Nat :=
  if '0' ≤ c ∧ c ≤ '9' then some (c.toNat - 48)
  else if 'a' ≤ c ∧ c ≤ 'f' then some (c.toNat - 87)
  else if 'A' ≤ c ∧ c ≤ 'F' then some (c.toNat - 55)
  else none

/-- The failure of an escape whose four bytes, of which `count` are still to come, are not
hexadecimal digits: it stands behind the four, or at the end of a text that has fewer. -/
def failHex {α : Type} (count : Nat) (rest : List Char) : Except Failure α :=
  if byteLength rest < count then failHere .eofString []
  else .error ⟨.escape, byteLength rest - count⟩

/-- Reads a whole text: one value, and nothing but white space after it. -/
def readAll {α : Type} (reader : Reader α) (text : String) : Except Error α :=
  let result : Except Failure α :=
    match reader text.toList with
    | .error e => .error e
    | .ok (value, rest) =>
      match skipBlanks rest with
      | [] => .ok value
      | rest => failNext .trailingCharacters rest
  match result with
  | .ok value => .ok value
  | .error e => .error ⟨e.fault, Position.at text.toList e.left⟩

end MediaIntake.Json
