import Mathlib.Algebra.Order.Floor.Div
import Mathlib.GroupTheory.GroupAction.Ring
import Mathlib.Order.Bounds.Defs
import MediaIntake.Format.Video
/-! # The size of an image

An image is stored in rows of whole 32-bit words, so its size is a ceiling times its height, and
stops at what 32 bits can say (`rowBytes`, `dibSize`).  It is worked out in 64-bit words, where a
sum and two products could wrap around, and the bits of a row are rounded up by a mask
(`rowBytesWord`, `dibSizeWord`).  **For a row nothing wraps**, whatever its width and depth, and the
mask rounds up as a ceiling does (`toNat_rowBytesWord`).  The product with the height can wrap;
where it does not, the size is the exact one, or the largest one that 32 bits can say
(`dibSizeWord_eq`), and for frames of twelve bits a pixel it never does (`i420Bytes_lt`).
-/
namespace MediaIntake

/-- Clearing the low bits of a number rounds it down to a multiple. -/
theorem and_two_pow_sub_two_pow {n k w : ℕ} (hn : n < 2 ^ w) (hk : k ≤ w) :
    n &&& (2 ^ w - 2 ^ k) = n / 2 ^ k * 2 ^ k := by
  have hmask : 2 ^ w - 2 ^ k = (2 ^ (w - k) - 1) * 2 ^ k := by
    rw [Nat.sub_mul, ← Nat.pow_add, Nat.sub_add_cancel hk, Nat.one_mul]
  apply Nat.eq_of_testBit_eq
  intro i
  rw [Nat.testBit_and, hmask, Nat.testBit_mul_two_pow, Nat.testBit_mul_two_pow,
    Nat.testBit_two_pow_sub_one, Nat.testBit_div_two_pow]
  by_cases hi : k ≤ i
  · rw [Nat.sub_add_cancel hi]
    by_cases hw : i < w
    · have hlow : i - k < w - k := by omega
      simp [hi, hlow]
    · have hzero : n.testBit i = false :=
        Nat.testBit_lt_two_pow (hn.trans_le (Nat.pow_le_pow_right (by decide) (by omega)))
      simp [hzero]
  · simp [hi]

namespace BitmapHeader

/-! ## Rows -/

/-- The bytes of one image row: its bits filled up to whole 32-bit words. -/
def rowBytes (width : Int32) (bitCount : UInt16) : Nat :=
  (width.toInt.natAbs * bitCount.toNat + 31) / 32 * 4

/-- The smallest signed number is the longest. -/
theorem natAbs_le (x : Int32) : x.toInt.natAbs ≤ 2 ^ 31 := by
  have hlow := x.le_toInt
  have hhigh := x.toInt_lt
  omega

theorem toNat_lengthWord (x : Int32) : (lengthWord x).toNat = x.toInt.natAbs := by
  have hle := natAbs_le x
  apply UInt64.toNat_ofNat_of_lt'
  rw [UInt64.size]
  omega

/-- The bits of the longest and deepest row stay far from the end of a 64-bit word. -/
theorem rowBits_le (width : Int32) (bitCount : UInt16) :
    width.toInt.natAbs * bitCount.toNat ≤ 2 ^ 47 := by
  have hdepth : bitCount.toNat ≤ 2 ^ 16 := Nat.le_of_lt bitCount.toNat_lt
  exact (Nat.mul_le_mul (natAbs_le width) hdepth).trans_eq (Nat.pow_add 2 31 16).symm

/-- **The mask rounds up as a ceiling does**, and nothing wraps on the way. -/
theorem toNat_rowBytesWord (width : Int32) (bitCount : UInt16) :
    (rowBytesWord width bitCount).toNat = rowBytes width bitCount := by
  have hle := rowBits_le width bitCount
  have hbits : (lengthWord width * bitCount.toUInt64 + 31).toNat =
      width.toInt.natAbs * bitCount.toNat + 31 := by
    rw [UInt64.toNat_add, UInt64.toNat_mul, toNat_lengthWord, UInt16.toNat_toUInt64]
    rw [Nat.mod_eq_of_lt (by omega : width.toInt.natAbs * bitCount.toNat < 2 ^ 64)]
    exact Nat.mod_eq_of_lt (by simp only [UInt64.reduceToNat]; omega)
  have hmask : (~~~31 : UInt64).toNat = 2 ^ 64 - 2 ^ 5 := by decide
  have hlt : width.toInt.natAbs * bitCount.toNat + 31 < 2 ^ 64 := by omega
  rw [rowBytesWord, UInt64.toNat_div, UInt64.toNat_and, hbits, hmask,
    and_two_pow_sub_two_pow hlt (by decide), rowBytes]
  show _ / 2 ^ 5 * 2 ^ 5 / 8 = _ / 32 * 4
  omega

/-- A row has as many whole 32-bit words as its bits take. -/
theorem rowBytes_eq_ceilDiv (width : Int32) (bitCount : UInt16) :
    rowBytes width bitCount = 4 * ((width.toInt.natAbs * bitCount.toNat) ⌈/⌉ 32) := by
  rw [rowBytes, Nat.ceilDiv_eq_add_pred_div, Nat.mul_comm 4]
  rfl

/-- A row is the least multiple of four bytes that its bits fit into. -/
theorem isLeast_rowBytes (width : Int32) (bitCount : UInt16) :
    IsLeast {n : ℕ | 4 ∣ n ∧ width.toInt.natAbs * bitCount.toNat ≤ 8 * n}
      (rowBytes width bitCount) := by
  unfold rowBytes
  constructor
  · constructor
    · exact Nat.dvd_mul_left ..
    · omega
  · rintro n ⟨⟨words, rfl⟩, hfits⟩
    omega

/-! ## Images -/

/-- The bytes of the image, at most what 32 bits can say. -/
def dibSize (b : BitmapHeader) : UInt32 :=
  UInt32.ofNat (min 4294967295 (rowBytes b.width b.bitCount * b.height.toInt.natAbs))

/-- The size is kept as it is, or as the largest number there is room for. -/
theorem toNat_dibSize (b : BitmapHeader) :
    b.dibSize.toNat =
      min (2 ^ 32 - 1) (rowBytes b.width b.bitCount * b.height.toInt.natAbs) := by
  have hlt : min 4294967295 (rowBytes b.width b.bitCount * b.height.toInt.natAbs)
      < UInt32.size := by
    rw [UInt32.size]
    omega
  rw [dibSize, UInt32.toNat_ofNat_of_lt' hlt]
  rfl

/-- A product that does not wrap is narrowed to the exact size, or to the largest there is. -/
theorem dibSizeWord_eq {b : BitmapHeader}
    (h : rowBytes b.width b.bitCount * b.height.toInt.natAbs < 2 ^ 64) :
    b.dibSizeWord = b.dibSize := by
  have hsize : (rowBytesWord b.width b.bitCount * lengthWord b.height).toNat =
      rowBytes b.width b.bitCount * b.height.toInt.natAbs := by
    rw [UInt64.toNat_mul, toNat_rowBytesWord, toNat_lengthWord]
    exact Nat.mod_eq_of_lt h
  rw [← UInt32.toNat_inj, toNat_dibSize, dibSizeWord]
  split
  · next hle =>
    rw [UInt64.le_iff_toNat_le, hsize] at hle
    change _ ≤ 2 ^ 32 - 1 at hle
    rw [UInt64.toNat_toUInt32, hsize, Nat.min_eq_right hle]
    omega
  · next hgt =>
    rw [UInt64.le_iff_toNat_le, hsize] at hgt
    change ¬ _ ≤ 2 ^ 32 - 1 at hgt
    rw [Nat.min_eq_left (by omega)]
    rfl

/-! ## Frames of twelve bits a pixel -/

/-- The bytes of a planar YUV 4:2:0 frame, by the lengths of its sides. -/
def i420Bytes (width height : ℕ) : ℕ := 4 * ((12 * width) ⌈/⌉ 32) * height

theorem i420Bytes_eq (width height : ℕ) :
    i420Bytes width height = 4 * ((12 * width + 31) / 32) * height := by
  rw [i420Bytes, Nat.ceilDiv_eq_add_pred_div]
  rfl

theorem i420Bytes_mono {width width' height height' : ℕ} (hw : width ≤ width')
    (hh : height ≤ height') : i420Bytes width height ≤ i420Bytes width' height' := by
  rw [i420Bytes_eq, i420Bytes_eq]
  apply Nat.mul_le_mul _ hh
  omega

/-- The largest frame that signed sides can say keeps its size within a 64-bit word. -/
theorem i420Bytes_lt {width height : ℕ} (hw : width ≤ 2 ^ 31) (hh : height ≤ 2 ^ 31) :
    i420Bytes width height < 2 ^ 64 := by
  have hle := i420Bytes_mono hw hh
  have hlargest : i420Bytes (2 ^ 31) (2 ^ 31) < 2 ^ 64 := by
    rw [i420Bytes_eq]
    decide
  exact hle.trans_lt hlargest

/-- A frame has room for a byte and a half of each pixel. -/
theorem ceilDiv_le_i420Bytes (width height : ℕ) :
    (3 * width * height) ⌈/⌉ 2 ≤ i420Bytes width height := by
  have hrow : 3 * width ≤ 2 * (4 * ((12 * width + 31) / 32)) := by omega
  have hpixels := Nat.mul_le_mul_right height hrow
  rw [Nat.mul_assoc 2] at hpixels
  rw [i420Bytes_eq, Nat.ceilDiv_eq_add_pred_div]
  omega

/-- Rows of whole 32-bit words are not filled up. -/
theorem i420Bytes_of_dvd {width : ℕ} (h : 8 ∣ width) (height : ℕ) :
    i420Bytes width height = 3 * width * height / 2 := by
  obtain ⟨n, rfl⟩ := h
  have hrow : 4 * ((12 * (8 * n) + 31) / 32) = 12 * n := by omega
  have hpixels : 3 * (8 * n) = 2 * (12 * n) := by omega
  rw [i420Bytes_eq, hrow, hpixels, Nat.mul_assoc 2, Nat.mul_div_cancel_left _ (by decide)]

section
variable (width height : Int32)

theorem rowBytes_mul_natAbs :
    rowBytes width 12 * height.toInt.natAbs =
      i420Bytes width.toInt.natAbs height.toInt.natAbs := by
  rw [rowBytes_eq_ceilDiv, Nat.mul_comm width.toInt.natAbs]
  rfl

/-- The size of a frame: its product with the height does not wrap. -/
theorem toNat_imageSize_i420 :
    (i420 width height).imageSize.toNat =
      min (2 ^ 32 - 1) (4 * ((12 * width.toInt.natAbs) ⌈/⌉ 32) * height.toInt.natAbs) := by
  have hlt := i420Bytes_lt (natAbs_le width) (natAbs_le height)
  rw [← rowBytes_mul_natAbs] at hlt
  have hword : (i420 width height).imageSize = (i420 width height).dibSize := dibSizeWord_eq hlt
  have hsize : (i420 width height).dibSize.toNat =
      min (2 ^ 32 - 1) (rowBytes width 12 * height.toInt.natAbs) := toNat_dibSize _
  rw [hword, hsize, rowBytes_mul_natAbs, i420Bytes]

end

/-- Sides of the same length make frames of the same size. -/
theorem imageSize_congr {width height width' height' : Int32}
    (hw : width.toInt.natAbs = width'.toInt.natAbs)
    (hh : height.toInt.natAbs = height'.toInt.natAbs) :
    (i420 width height).imageSize = (i420 width' height').imageSize := by
  rw [← UInt32.toNat_inj, toNat_imageSize_i420, toNat_imageSize_i420, hw, hh]

/-- Turning the sign around keeps the length, also of the smallest number, which stays as it is. -/
theorem natAbs_neg (x : Int32) : (-x).toInt.natAbs = x.toInt.natAbs := by
  have hlow := x.le_toInt
  have hhigh := x.toInt_lt
  rw [Int32.toInt_neg]
  by_cases hmin : x.toInt = -2 ^ 31
  · rw [hmin]
    decide
  · rw [Int.bmod_eq_of_le (by omega) (by omega), Int.natAbs_neg]

/-- **Image sizes are exact and never wrap.**  A row takes the least multiple of four bytes that its
bits fit into, and 64-bit words work it out without wrapping, by a mask.  An image takes its rows,
as long as their product fits a 64-bit word, up to the largest size that 32 bits can say.  That is
always so for frames of twelve bits a pixel.  Their size does not depend on the signs of the sides,
grows with their lengths, has room for a byte and a half of each pixel, and is exactly that where
rows are whole 32-bit words. -/
theorem image_sizes_exact :
    (∀ (width : Int32) (bitCount : UInt16),
      width.toInt.natAbs * bitCount.toNat + 31 < 2 ^ 64 ∧
      (rowBytesWord width bitCount).toNat = rowBytes width bitCount ∧
      IsLeast {n : ℕ | 4 ∣ n ∧ width.toInt.natAbs * bitCount.toNat ≤ 8 * n}
        (rowBytes width bitCount)) ∧
    (∀ b : BitmapHeader, rowBytes b.width b.bitCount * b.height.toInt.natAbs < 2 ^ 64 →
      b.dibSizeWord = b.dibSize ∧
      b.dibSize.toNat =
        min (2 ^ 32 - 1) (rowBytes b.width b.bitCount * b.height.toInt.natAbs)) ∧
    ∀ width height : Int32,
      let w := width.toInt.natAbs
      let h := height.toInt.natAbs
      let size := (i420 width height).imageSize
      rowBytes width 12 * h = 4 * ((12 * w) ⌈/⌉ 32) * h ∧
      4 * ((12 * w) ⌈/⌉ 32) * h < 2 ^ 64 ∧
      size = (i420 width height).dibSizeWord ∧
      size.toNat = min (2 ^ 32 - 1) (4 * ((12 * w) ⌈/⌉ 32) * h) ∧
      (i420 (-width) height).imageSize = size ∧
      (i420 width (-height)).imageSize = size ∧
      (∀ width' height' : Int32, w ≤ width'.toInt.natAbs → h ≤ height'.toInt.natAbs →
        size ≤ (i420 width' height').imageSize) ∧
      min (2 ^ 32 - 1) ((3 * w * h) ⌈/⌉ 2) ≤ size.toNat ∧
      (8 ∣ width.toInt → 3 * w * h / 2 < 2 ^ 32 → size.toNat = 3 * w * h / 2) := by
  refine ⟨?row, ?image, ?frame⟩
  case row =>
    intro width bitCount
    have hle := rowBits_le width bitCount
    exact ⟨by omega, toNat_rowBytesWord width bitCount, isLeast_rowBytes width bitCount⟩
  case image =>
    intro b h
    exact ⟨dibSizeWord_eq h, toNat_dibSize b⟩
  case frame =>
    intro width height w h size
    have hsize : size.toNat = min (2 ^ 32 - 1) (i420Bytes w h) :=
      toNat_imageSize_i420 width height
    refine ⟨rowBytes_mul_natAbs width height, i420Bytes_lt (natAbs_le width) (natAbs_le height),
      rfl, hsize, ?_, ?_, ?_, ?_, ?_⟩
    · exact imageSize_congr (natAbs_neg width) rfl
    · exact imageSize_congr rfl (natAbs_neg height)
    · intro width' height' hw hh
      have hmono := i420Bytes_mono hw hh
      rw [UInt32.le_iff_toNat_le, hsize, toNat_imageSize_i420, ← i420Bytes]
      omega
    · have hpixels := ceilDiv_le_i420Bytes w h
      rw [hsize]
      omega
    · intro hwhole hfits
      have hbytes : i420Bytes w h = 3 * w * h / 2 := i420Bytes_of_dvd (Int.natCast_dvd.mp hwhole) h
      rw [hsize, hbytes]
      omega

/-- A million of the longest and deepest rows fit a 64-bit word, and more than 32 bits can say. -/
theorem deepest_rows_exact :
    let b : BitmapHeader := { width := Int32.minValue, height := -1000000, bitCount := 65535 }
    rowBytes b.width b.bitCount = 17591917608960 ∧
    rowBytes b.width b.bitCount * b.height.toInt.natAbs < 2 ^ 64 ∧
    b.dibSizeWord = 4294967295 := by
  intro b
  have hrow : rowBytes b.width b.bitCount = 17591917608960 := by decide
  have hlines : b.height.toInt.natAbs = 1000000 := by decide
  have hfits : rowBytes b.width b.bitCount * b.height.toInt.natAbs < 2 ^ 64 := by
    rw [hrow, hlines]
    decide
  obtain ⟨-, himage, -⟩ := image_sizes_exact
  obtain ⟨hword, hsize⟩ := himage b hfits
  refine ⟨hrow, hfits, ?_⟩
  rw [hword, ← UInt32.toNat_inj, hsize, hrow, hlines]
  rfl

end BitmapHeader
end MediaIntake
