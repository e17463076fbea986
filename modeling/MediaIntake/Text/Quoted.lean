import MediaIntake.Text.Digits
import MediaIntake.Text.Unprintable
/-! # Quoted text

Text that a message quotes stands between double quotes.  The quote and the backslash get a
backslash, four control characters have a letter of their own, and every other character that
cannot be shown is written by its code point in hexadecimal between braces.
-/
namespace MediaIntake.Quoted

/-- One character between the quotes. -/
def escape (c : Char) : List Char :=
  if c = '"' then ['\\', '"']
  else if c = '\\' then ['\\', '\\']
  else if c = '\n' then ['\\', 'n']
  else if c = '\r' then ['\\', 'r']
  else if c = '\t' then ['\\', 't']
  else if c = '\x00' then ['\\', '0']
  else if isUnprintable c then
    ['\\', 'u', '\x7b'] ++ Nat.toDigits 16 c.toNat ++ ['\x7d']
  else [c]

/-- The text in double quotes. -/
def quote (text : String) : String :=
  String.ofList ('"' :: text.toList.flatMap escape ++ ['"'])

end MediaIntake.Quoted
