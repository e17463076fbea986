/-! # Numerals of fixed width

Decimal and unpadded hexadecimal numerals are the core library's (`Nat.repr`, `Nat.toDigits`).
This module adds the numerals that always take the same number of places, with leading zeros:
the fields of an identifier and the places after a decimal point.
-/
namespace MediaIntake.Digits

/-- The last `width` digits of `n` in base `base`, most significant first. -/
def fixed (base : Nat) : Nat → Nat → List Char
  | 0, _ => []
  | width + 1, n => fixed base width (n / base) ++ [Nat.digitChar (n % base)]

@[simp] theorem length_fixed (base width n : Nat) : (fixed base width n).length = width := by
  induction width generalizing n with
  | zero => rfl
  | succ width ih => simp [fixed, ih]

/-- `width` decimal digits. -/
def decimal (width n : Nat) : String :=
  String.ofList (fixed 10 width n)

/-- `width` hexadecimal digits. -/
def hex (width n : Nat) : String :=
  String.ofList (fixed 16 width n)

/-- As many hexadecimal digits as the number has. -/
def hexShort (n : Nat) : String :=
  String.ofList (Nat.toDigits 16 n)

end MediaIntake.Digits
