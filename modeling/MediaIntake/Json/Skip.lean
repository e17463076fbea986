import MediaIntake.Json.Number
import MediaIntake.Json.Text
/-! # Skipped values

The value of an unknown key is skipped, whatever it is and however deep it nests.  The frames
that are open are kept on a stack, so skipping needs no nesting limit; every step takes at
least one character, and `skipValue` allows as many steps as there are characters.
-/
namespace MediaIntake.Json

/-- An open array or object. -/
inductive Frame where
  | array
  | object
  deriving DecidableEq, Repr

/-- What the skipper does next. -/
inductive SkipStep where
  /-- A value is due. -/
  | value
  /-- The innermost frame was just opened: it may close, or a first entry follows. -/
  | opened
  /-- A value has ended: a comma or the end of the innermost frame is due. -/
  | ended
  /-- An entry of the innermost frame is due. -/
  | entry

/-- A skipped key and its colon. -/
def skipKey (rest : List Char) : Except Failure (List Char) :=
  match skipBlanks rest with
  | [] => failNext .eofObject []
  | '"' :: rest =>
    match skipString rest with
    | .error e => .error e
    | .ok rest => readColon rest
  | rest => failNext .key rest

/-- A skipped value that is no array or object; `c` is its first character. -/
def skipScalar (c : Char) (rest : List Char) : Except Failure (List Char) :=
  if c = 'n' then readLetters ['u', 'l', 'l'] rest
  else if c = 't' then readLetters ['r', 'u', 'e'] rest
  else if c = 'f' then readLetters ['a', 'l', 's', 'e'] rest
  else if c = '-' then skipNumber rest
  else if c.isDigit then skipNumber (c :: rest)
  else if c = '"' then skipString rest
  else failNext .value (c :: rest)

/-- Takes steps until no frame is open and the value has ended. -/
def skipSteps : Nat → SkipStep → List Frame → List Char → Except Failure (List Char)
  | 0, _, _, rest => failNext .value rest
  | _ + 1, .ended, [], rest => .ok rest
  | fuel + 1, .value, frames, rest =>
    match skipBlanks rest with
    | [] => failNext .eofValue []
    | '[' :: rest => skipSteps fuel .opened (.array :: frames) rest
    | '{' :: rest => skipSteps fuel .opened (.object :: frames) rest
    | c :: rest =>
      match skipScalar c rest with
      | .error e => .error e
      | .ok rest => skipSteps fuel .ended frames rest
  | fuel + 1, .opened, frames, rest =>
    match frames, skipBlanks rest with
    | .array :: _, [] => failNext .eofList []
    | _, [] => failNext .eofObject []
    | .array :: frames, ']' :: rest => skipSteps fuel .ended frames rest
    | .object :: frames, '}' :: rest => skipSteps fuel .ended frames rest
    | frames, rest => skipSteps fuel .entry frames rest
  | fuel + 1, .ended, .array :: frames, rest =>
    match skipBlanks rest with
    | [] => failNext .eofList []
    | ',' :: rest => skipSteps fuel .entry (.array :: frames) rest
    | ']' :: rest => skipSteps fuel .ended frames rest
    | rest => failNext .commaOrBracket rest
  | fuel + 1, .ended, .object :: frames, rest =>
    match skipBlanks rest with
    | [] => failNext .eofObject []
    | ',' :: rest => skipSteps fuel .entry (.object :: frames) rest
    | '}' :: rest => skipSteps fuel .ended frames rest
    | rest => failNext .commaOrBrace rest
  | fuel + 1, .entry, .object :: frames, rest =>
    match skipKey rest with
    | .error e => .error e
    | .ok rest => skipSteps fuel .value (.object :: frames) rest
  | fuel + 1, .entry, frames, rest => skipSteps fuel .value frames rest

/-- Skips one value. Three steps serve each character: opening a frame, turning to its entry
and turning to the value of that entry. -/
def skipValue (rest : List Char) : Except Failure (List Char) :=
  skipSteps (3 * rest.length + 3) .value [] rest

end MediaIntake.Json
