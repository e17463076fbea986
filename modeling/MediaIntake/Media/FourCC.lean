import MediaIntake.Bytes.Word
import MediaIntake.Text.Digits
/-! # Four-character codes

A pixel layout is named by four characters packed into a 32-bit word, the first character in
the lowest byte.
-/
namespace MediaIntake

/-- A four-character code as the word that holds it. -/
structure FourCC where
  code : UInt32
  deriving DecidableEq, Repr

namespace FourCC

/-- Planar YUV 4:2:0: the luma plane, then both chroma planes at half the size. -/
def i420 : FourCC := ⟨0x30323449⟩

/-- The four characters in order. -/
def bytes (c : FourCC) : List UInt8 := Word.uint32.encode c.code

/-- The code whose characters are the first four bytes of a list. -/
def ofBytes (bytes : List UInt8) : FourCC := ⟨Word.uint32.decode bytes⟩

/-- Whether a byte is a printable character: a letter, digit, punctuation mark or space. -/
def isPrintable (b : UInt8) : Bool := 0x20 ≤ b && b ≤ 0x7e

/-- The four characters if all of them can be printed, the word in hexadecimal otherwise. -/
def text (c : FourCC) : String :=
  if c.bytes.all isPrintable then String.ofList (c.bytes.map fun b => Char.ofNat b.toNat)
  else "0x" ++ Digits.hex 8 c.code.toNat

/-- **A code is what its characters say.** -/
theorem ofBytes_bytes (c : FourCC) : ofBytes c.bytes = c := by
  have h := Word.uint32.decode_encode c.code []
  rw [List.append_nil] at h
  rw [ofBytes, bytes, h]

end FourCC
end MediaIntake
