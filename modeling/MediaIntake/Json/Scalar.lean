import MediaIntake.Json.Number
import MediaIntake.Json.Text
/-! # Single values

Readers of an unsigned integer of a given width, of `null`, and of one choice by its name.
Where another kind of value stands, it is read to its end first, except that arrays and
objects are named without being entered; the failure then says what was found.
-/
namespace MediaIntake.Json

/-- Fails because another kind of value stands where `expected` was wanted. -/
def failType {α : Type} (expected : Expected) (rest : List Char) : Except Failure α :=
  let found (f : Found) (rest : List Char) : Except Failure α :=
    failHere (.invalidType f expected) rest
  let after {β : Type} (read : Except Failure β) (k : β → Except Failure α) :=
    match read with
    | .error e => .error e
    | .ok b => k b
  match rest with
  | 'n' :: r => after (readLetters ['u', 'l', 'l'] r) (found .null)
  | 't' :: r => after (readLetters ['r', 'u', 'e'] r) (found (.boolean true))
  | 'f' :: r => after (readLetters ['a', 'l', 's', 'e'] r) (found (.boolean false))
  | '-' :: r => after (readNumber true r) fun (n, r) => found (.number n) r
  | '"' :: r => after (readString r) fun (text, r) => found (.string text) r
  | '[' :: r => found .sequence ('[' :: r)
  | '{' :: r => found .map ('{' :: r)
  | c :: r =>
    if c.isDigit then after (readNumber false (c :: r)) fun (n, r) => found (.number n) r
    else failNext .value (c :: r)
  | [] => failNext .value []

/-- An unsigned integer of a width, from a number that was read. -/
def toUnsigned (width : Width) (n : Number) : Reader Nat := fun rest =>
  match n with
  | .unsigned value =>
    if value ≤ width.max then .ok (value, rest)
    else failHere (.invalidValue n (.unsigned width)) rest
  | .negative _ => failHere (.invalidValue n (.unsigned width)) rest
  | .float _ => failHere (.invalidType (.number n) (.unsigned width)) rest

/-- An unsigned integer of a width. -/
def readUnsigned (width : Width) : Reader Nat := fun rest =>
  match skipBlanks rest with
  | [] => failNext .eofValue []
  | c :: rest =>
    if c = '-' ∨ c.isDigit then
      match readNumber (c = '-') (if c = '-' then rest else c :: rest) with
      | .error e => .error e
      | .ok (n, rest) => toUnsigned width n rest
    else failType (.unsigned width) (c :: rest)

/-- The value `null`. -/
def readNull (rest : List Char) : Except Failure (List Char) :=
  match skipBlanks rest with
  | [] => failNext .eofValue []
  | 'n' :: rest => readLetters ['u', 'l', 'l'] rest
  | rest => failType .unit rest

/-- The name of one of the choices, its opening quote already taken. -/
def readName {α : Type} (choices : List (String × α)) : Reader α := fun rest =>
  match readString rest with
  | .error e => .error e
  | .ok (text, rest) =>
    match choices.find? (·.1.toList = text) with
    | some choice => .ok (choice.2, rest)
    | none => failHere (.unknownVariant text (choices.map (·.1))) rest

/-- The key of an object that names one of the choices, the brace already taken. An object
without a key lacks a value; anything but a string is no key. -/
def readChoiceKey {α : Type} (choices : List (String × α)) : Reader α := fun rest =>
  match skipBlanks rest with
  | [] => failNext .eofObject []
  | '"' :: rest => readName choices rest
  | '}' :: rest => failNext .value ('}' :: rest)
  | rest => failNext .key rest

/-- One of the choices: its name as a string, or as the only key of an object, with `null` for
a value. -/
def readChoice {α : Type} (choices : List (String × α)) : Reader α := fun rest =>
  match skipBlanks rest with
  | [] => failNext .eofValue []
  | '"' :: rest => readName choices rest
  | '{' :: rest => do
    let (choice, rest) ← readChoiceKey choices rest
    let rest ← readColon rest
    let rest ← readNull rest
    match skipBlanks rest with
    | [] => failHere .eofObject []
    | '}' :: rest => .ok (choice, rest)
    | rest => failHere .value rest
  | rest => failNext .value rest

end MediaIntake.Json
