import MediaIntake.Json.Cursor
/-! # Numbers in JSON texts

The digits of a number are gathered into a significand as long as 64 bits hold it; later
digits only move the decimal point.  An integer that fits stays an integer.  Everything else
becomes a floating point number from significand and power of ten with two roundings: the
significand is rounded first, then its product with, or quotient by, the rounded power.
-/
namespace MediaIntake.Json

/-- The digits at the front, and what follows them. -/
def splitDigits (rest : List Char) : List Char × List Char :=
  (rest.takeWhile Char.isDigit, rest.dropWhile Char.isDigit)

/-- The value of a decimal digit. -/
def digitValue (c : Char) : Nat := c.toNat - 48

/-- Appends digits to `n` while the result stays within `limit`; gives what was gathered and
the digits that were left out. -/
def gather (limit n : Nat) : List Char → Nat × List Char
  | [] => (n, [])
  | c :: digits =>
    let next := n * 10 + digitValue c
    if next ≤ limit then gather limit next digits else (n, c :: digits)

/-- The largest significand. -/
def maxSignificand : Nat := 18446744073709551615

/-- The largest exponent that can be written. -/
def maxExponent : Nat := 2147483647

/-- The power of ten nearest to `10^k`. -/
def powerOfTen (k : Nat) : Binary64 := Binary64.ofRatio false (Nat.pow 10 k) 1

/-- The largest power of ten that binary64 holds is `10^308`. -/
def maxPower : Nat := 308

/-- `x` divided by `10^k`, in steps of the largest power that there is. -/
def divPower (x : Binary64) (k : Nat) : Binary64 :=
  if k ≤ maxPower then x.div (powerOfTen k)
  else if x.isZero then x
  else divPower (x.div (powerOfTen maxPower)) (k - maxPower)
termination_by k
decreasing_by
  unfold maxPower at *
  omega

/-- `x` multiplied by `10^k`, unless the result is beyond binary64. -/
def mulPower? (x : Binary64) (k : Nat) : Option Binary64 :=
  if k ≤ maxPower then
    let product := x.mul (powerOfTen k)
    if product.overflows then none else some product
  else if x.isZero then some x
  else none

/-- A floating point number from its parts; `rest` is what follows it. -/
def makeFloat (negative : Bool) (significand : Nat) (exponent : Int) : Reader Number :=
  fun rest =>
    let x := Binary64.ofRatio false significand 1
    let result := if 0 ≤ exponent then mulPower? x exponent.toNat
      else some (divPower x exponent.natAbs)
    match result with
    | some x => .ok (.float { x with negative }, rest)
    | none => failHere .numberRange rest

/-- The part of a number from its exponent's sign on. -/
def readExponent (negative : Bool) (significand : Nat) (exponent : Int) : Reader Number :=
  fun rest =>
    let (down, rest) : Bool × List Char :=
      match rest with
      | '+' :: rest => (false, rest)
      | '-' :: rest => (true, rest)
      | rest => (false, rest)
    match splitDigits rest with
    | ([], []) => failHere .eofValue []
    | ([], rest) => failNext .number rest
    | (digits, rest) =>
      match gather maxExponent 0 digits with
      | (power, []) =>
        makeFloat negative significand (if down then exponent - power else exponent + power) rest
      | (_, _ :: ignored) =>
        if significand ≠ 0 ∧ !down then failHere .numberRange (ignored ++ rest)
        else .ok (.float ⟨negative, 0, Binary64.minExponent⟩, rest)

/-- The part of a number after its decimal point. -/
def readFraction (negative : Bool) (significand : Nat) (exponent : Int) : Reader Number :=
  fun rest =>
    match splitDigits rest with
    | ([], []) => failHere .eofValue []
    | ([], rest) => failNext .number rest
    | (digits, rest) =>
      let (significand, ignored) := gather maxSignificand significand digits
      let exponent := exponent - ((digits.length - ignored.length : Nat) : Int)
      match rest with
      | 'e' :: rest => readExponent negative significand exponent rest
      | 'E' :: rest => readExponent negative significand exponent rest
      | rest => makeFloat negative significand exponent rest

/-- An integer with its sign. Minus zero, and what is below the signed 64-bit integers, are
floating point numbers. -/
def makeInteger (negative : Bool) (n : Nat) : Number :=
  if !negative then .unsigned n
  else if n = 0 ∨ 9223372036854775808 < n then .float (Binary64.ofRatio true n 1)
  else .negative n

/-- A number without its sign. -/
def readNumber (negative : Bool) : Reader Number := fun rest =>
  match splitDigits rest with
  | ([], []) => failHere .eofValue []
  | ([], rest) => failNext .number rest
  | ('0' :: c :: digits, rest) => failNext .number (c :: digits ++ rest)
  | (digits, rest) =>
    let (significand, ignored) := gather maxSignificand 0 digits
    let exponent : Int := ignored.length
    match rest with
    | '.' :: rest => readFraction negative significand exponent rest
    | 'e' :: rest => readExponent negative significand exponent rest
    | 'E' :: rest => readExponent negative significand exponent rest
    | rest =>
      if ignored.isEmpty then .ok (makeInteger negative significand, rest)
      else makeFloat negative significand exponent rest

/-! ## Skipped numbers -/

/-- The exponent of a skipped number, from its sign on. -/
def skipExponent (rest : List Char) : Except Failure (List Char) :=
  let rest :=
    match rest with
    | '+' :: rest => rest
    | '-' :: rest => rest
    | rest => rest
  match splitDigits rest with
  | ([], rest) => failNext .number rest
  | (_, rest) => .ok rest

/-- A skipped number without its sign: only its form matters, not its size. -/
def skipNumber (rest : List Char) : Except Failure (List Char) :=
  match splitDigits rest with
  | ([], rest) => failNext .number rest
  | ('0' :: c :: digits, rest) => failNext .number (c :: digits ++ rest)
  | (_, '.' :: rest) =>
    match splitDigits rest with
    | ([], rest) => failNext .number rest
    | (_, 'e' :: rest) => skipExponent rest
    | (_, 'E' :: rest) => skipExponent rest
    | (_, rest) => .ok rest
  | (_, 'e' :: rest) => skipExponent rest
  | (_, 'E' :: rest) => skipExponent rest
  | (_, rest) => .ok rest

end MediaIntake.Json
