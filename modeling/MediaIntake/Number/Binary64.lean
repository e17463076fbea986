import MediaIntake.Number.Rounding
import MediaIntake.Text.Digits
/-! # Binary64 numbers

A `Binary64` is a sign, a whole significand and a power of two.  Every operation here forms
its exact result as a quotient of naturals and rounds that once, to a nearest number of 53
significant bits, ties to the even significand (`ofRatio`); below 2^-1022 the spacing stays
at 2^-1074.  **The top of the range is not closed**: a result from 2^1024 on is kept as it
is, and `overflows` says where the format has no finite number for it.

Printing works on the exact value: `toFixed` rounds it to a number of decimal places.
-/
namespace MediaIntake

/-- The number `(-1)^negative * significand * 2^exponent`. -/
structure Binary64 where
  negative : Bool
  significand : Nat
  exponent : Int
  deriving DecidableEq, Repr

namespace Binary64

/-- The exponent of a number whose significand is a subnormal one. -/
def minExponent : Int := -1074

/-- `num` and `den` with the power of two `2^-exponent` put into their quotient. -/
def scale (num den : Nat) (exponent : Int) : Nat × Nat :=
  (num * Nat.pow 2 (-exponent).toNat, den * Nat.pow 2 exponent.toNat)

/-- The largest `k` with `2^k ≤ num / den`, for a positive quotient. -/
def floorLog2 (num den : Nat) : Int :=
  let k : Int := (num.log2 : Int) - (den.log2 : Int)
  let (n, d) := scale num den k
  if n < d then k - 1 else k

/-- `num / den` rounded to 53 significant bits, ties to even, with the given sign. -/
def ofRatio (negative : Bool) (num den : Nat) : Binary64 :=
  if num = 0 then ⟨negative, 0, minExponent⟩
  else
    let exponent := max minExponent (floorLog2 num den - 52)
    let (n, d) := scale num den exponent
    let significand := roundHalfEven n d
    if significand = Nat.pow 2 53 then ⟨negative, Nat.pow 2 52, exponent + 1⟩
    else ⟨negative, significand, exponent⟩

/-- The nearest number to an integer. -/
def ofInt (i : Int) : Binary64 := ofRatio (i < 0) i.natAbs 1

/-- The exact magnitude as a quotient. -/
def ratio (x : Binary64) : Nat × Nat :=
  (x.significand * Nat.pow 2 x.exponent.toNat, Nat.pow 2 (-x.exponent).toNat)

/-- Whether the magnitude is zero. -/
def isZero (x : Binary64) : Bool := x.significand == 0

/-- Whether the number lies beyond the largest finite one. -/
def overflows (x : Binary64) : Bool := !x.isZero && decide (971 < x.exponent)

def mul (x y : Binary64) : Binary64 :=
  ofRatio (x.negative != y.negative) (x.ratio.1 * y.ratio.1) (x.ratio.2 * y.ratio.2)

/-- The quotient by a number other than zero. -/
def div (x y : Binary64) : Binary64 :=
  ofRatio (x.negative != y.negative) (x.ratio.1 * y.ratio.2) (x.ratio.2 * y.ratio.1)

/-- The interchange encoding of a finite number: sign, biased exponent, fraction.  The leading
bit of a normal significand carries into the exponent field, so one sum serves both cases. -/
def bits (x : Binary64) : UInt64 :=
  let sign := if x.negative then Nat.pow 2 63 else 0
  UInt64.ofNat (sign + (x.exponent - minExponent).toNat * Nat.pow 2 52 + x.significand)

/-- The exact value rounded to `places` decimal places (at least one), a half going to the
even last digit; a minus sign stands before every negative number. -/
def toFixed (places : Nat) (x : Binary64) : String :=
  let (num, den) := x.ratio
  let scaled := roundHalfEven (num * Nat.pow 10 places) den
  (if x.negative then "-" else "") ++ toString (scaled / Nat.pow 10 places) ++ "."
    ++ Digits.decimal places (scaled % Nat.pow 10 places)

end Binary64
end MediaIntake
