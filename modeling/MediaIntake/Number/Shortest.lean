import MediaIntake.Number.Binary64
/-! # The shortest decimal of a binary64 number

Among the decimals that round to a given number the one with the fewest digits is chosen, and
of several with that many digits the nearest.  The decimals that round to `x` fill an interval
around it, its ends included iff the significand of `x` is even.  For one digit, two digits and
so on up to seventeen, the two neighbours of `x` on the grid of that many digits are compared
with the interval in exact arithmetic; the first grid with a hit decides.
-/
namespace MediaIntake

/-- The decimal `digits * 10^exponent`. -/
structure ShortDecimal where
  digits : Nat
  exponent : Int
  deriving DecidableEq, Repr

namespace ShortDecimal

/-- The same number without trailing zeros; `fuel` bounds how many are taken away. -/
def trim : Nat → ShortDecimal → ShortDecimal
  | 0, d => d
  | fuel + 1, d =>
    if d.digits ≠ 0 ∧ d.digits % 10 = 0 then trim fuel ⟨d.digits / 10, d.exponent + 1⟩ else d

end ShortDecimal

namespace Binary64

/-- The quarter units between which the decimals of a number lie: below and above its fourfold
significand. A significand at the bottom of its binade has its lower neighbour half as far. -/
def reach (x : Binary64) : Nat × Nat :=
  (if x.significand = Nat.pow 2 52 ∧ minExponent < x.exponent then 1 else 2, 2)

/-- Whether `digits * 10^exponent` rounds to `x`. -/
def roundsTo (x : Binary64) (d : ShortDecimal) : Bool :=
  let (below, above) := x.reach
  let (quarterNum, quarterDen) :=
    (Nat.pow 2 (x.exponent - 2).toNat, Nat.pow 2 (2 - x.exponent).toNat)
  let num := d.digits * Nat.pow 10 d.exponent.toNat * quarterDen
  let den := Nat.pow 10 (-d.exponent).toNat * quarterNum
  let low := (4 * x.significand - below) * den
  let high := (4 * x.significand + above) * den
  if x.significand % 2 = 0 then decide (low ≤ num ∧ num ≤ high)
  else decide (low < num ∧ num < high)

/-- The place of the leading decimal digit of a positive number: the largest `k` with
`10^k ≤ x`. -/
def floorLog10 (x : Binary64) : Int :=
  let (num, den) := x.ratio
  if den ≤ num then (((Nat.toDigits 10 (num / den)).length - 1 : Nat) : Int)
  else -(((Nat.toDigits 10 ((den - 1) / num)).length : Nat) : Int)

/-- The decimal with `count` digits that rounds to `x`, the nearer one if there are two. -/
def decimalOf? (x : Binary64) (count : Nat) : Option ShortDecimal :=
  let exponent : Int := x.floorLog10 - (count : Int) + 1
  let (num, den) := x.ratio
  let n := num * Nat.pow 10 (-exponent).toNat
  let d := den * Nat.pow 10 exponent.toNat
  let below : ShortDecimal := ⟨n / d, exponent⟩
  let above : ShortDecimal := ⟨n / d + 1, exponent⟩
  let nearest : ShortDecimal := ⟨roundHalfEven n d, exponent⟩
  match x.roundsTo below, x.roundsTo above with
  | true, true => some nearest
  | true, false => some below
  | false, true => some above
  | false, false => none

/-- The shortest decimal that rounds to `x`, without trailing zeros. -/
def shortest (x : Binary64) : ShortDecimal :=
  match (List.range' 1 17).findSome? x.decimalOf? with
  | some d => d.trim 20
  | none => ⟨0, 0⟩

end Binary64
end MediaIntake
