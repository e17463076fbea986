import MediaIntake.Json.Scalar
import MediaIntake.Json.Skip
/-! # Records of unsigned integers

A `Schema` says which fields a record has, how wide each one is, and how it is read off and
put into a value; reading and writing both follow it.  A record is read from an object, in any
order and with unknown keys skipped, or from an array in the order of the fields.  Fields that
do not occur keep the value they have in the empty record; a field that occurs twice is an
error, placed behind the second key.
-/
namespace MediaIntake.Json

/-- A field of records of type `σ`. -/
structure Field (σ : Type) where
  name : String
  width : Width
  get : σ → Nat
  /-- Puts in a value that the width admits. -/
  set : Nat → σ → σ

/-- A record type as it is read and written. -/
structure Schema (σ : Type) where
  name : String
  empty : σ
  fields : List (Field σ)

namespace Schema
variable {σ : Type}

/-! ## Objects -/

/-- The next key of an object with its opening quote taken, or the end of the object. -/
def readKey (first : Bool) (rest : List Char) : Except Failure (Option (List Char) × List Char) :=
  let key (rest : List Char) : Except Failure (Option (List Char) × List Char) :=
    match readString rest with
    | .error e => .error e
    | .ok (text, rest) => .ok (some text, rest)
  match skipBlanks rest with
  | [] => failNext .eofObject []
  | '}' :: rest => .ok (none, rest)
  | c :: rest =>
    if first then
      if c = '"' then key rest else failNext .key (c :: rest)
    else if c = ',' then
      match skipBlanks rest with
      | '"' :: rest => key rest
      | '}' :: rest => failNext .trailingComma ('}' :: rest)
      | [] => failNext .eofValue []
      | rest => failNext .key rest
    else failNext .commaOrBrace (c :: rest)

/-- Fails because of a second key of the same name; a brace right after it still counts as
consumed. -/
def failDuplicate {α : Type} (name : String) (rest : List Char) : Except Failure α :=
  match skipBlanks rest with
  | '}' :: rest => failHere (.duplicateField name) rest
  | rest => failHere (.duplicateField name) rest

/-- The members of an object, its opening brace taken: `seen` are the fields that occurred.
Every member takes characters, so the number of those left bounds the members. -/
def readMembers (s : Schema σ) :
    Nat → Bool → List String → σ → List Char → Except Failure (σ × List Char)
  | 0, _, _, _, rest => failNext .commaOrBrace rest
  | fuel + 1, first, seen, value, rest =>
    match readKey first rest with
    | .error e => .error e
    | .ok (none, rest) => .ok (value, rest)
    | .ok (some key, rest) =>
      match s.fields.find? (·.name.toList = key) with
      | some field =>
        if field.name ∈ seen then failDuplicate field.name rest
        else do
          let rest ← readColon rest
          let (n, rest) ← readUnsigned field.width rest
          readMembers s fuel false (field.name :: seen) (field.set n value) rest
      | none => do
        let rest ← readColon rest
        let rest ← skipValue rest
        readMembers s fuel false seen value rest

/-! ## Arrays -/

/-- The end of an array that has given a value for every field. -/
def readArrayEnd (value : σ) : Reader σ := fun rest =>
  match skipBlanks rest with
  | [] => failNext .eofList []
  | ']' :: rest => .ok (value, rest)
  | ',' :: rest =>
    match skipBlanks rest with
    | ']' :: rest => failNext .trailingComma (']' :: rest)
    | rest => failNext .trailingCharacters rest
  | rest => failNext .trailingCharacters rest

/-- The elements of an array, for the fields that are left. -/
def readElements : List (Field σ) → Bool → σ → Reader σ
  | [], _, value, rest => readArrayEnd value rest
  | field :: fields, first, value, rest =>
    let element (rest : List Char) : Except Failure (σ × List Char) :=
      match readUnsigned field.width rest with
      | .error e => .error e
      | .ok (n, rest) => readElements fields false (field.set n value) rest
    match skipBlanks rest with
    | [] => failNext .eofList []
    | ']' :: rest => .ok (value, rest)
    | c :: rest =>
      if first then element (c :: rest)
      else if c = ',' then
        match skipBlanks rest with
        | ']' :: rest => failNext .trailingComma (']' :: rest)
        | [] => failNext .eofValue []
        | rest => element rest
      else failNext .commaOrBracket (c :: rest)

/-! ## Records -/

/-- A record. -/
def reader (s : Schema σ) : Reader σ := fun rest =>
  match skipBlanks rest with
  | [] => failNext .eofValue []
  | '[' :: rest => readElements s.fields true s.empty rest
  | '{' :: rest => s.readMembers (rest.length + 1) true [] s.empty rest
  | rest => failType (.record s.name) rest

/-- The record that a text holds. -/
def read (s : Schema σ) (text : String) : Except Error σ := readAll s.reader text

/-- An object of unsigned integers, without white space. -/
def object (members : List (String × Nat)) : String :=
  let member (m : String × Nat) : String := "\"" ++ m.1 ++ "\":" ++ toString m.2
  "\x7b" ++ String.intercalate "," (members.map member) ++ "\x7d"

/-- A record as an object with its fields in order. -/
def write (s : Schema σ) (value : σ) : String :=
  object (s.fields.map fun field => (field.name, field.get value))

end Schema
end MediaIntake.Json
