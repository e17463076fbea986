import MediaIntake.Bytes.Codec
/-! # Words of two, four and eight bytes

The integer fields of a format block are little-endian: `ofNat` lists the low bytes of a
number, least significant first, and `toNat` reads them back.  Signed words are the unsigned
ones read in two's complement.  One field of an identifier is written the other way round,
most significant byte first (`bigEndian`).
-/
namespace MediaIntake.Word

/-! ## Bytes of a number -/

/-- The `width` low bytes of `n`, least significant first. -/
def ofNat : Nat → Nat → List UInt8
  | 0, _ => []
  | width + 1, n => UInt8.ofNat (n % 256) :: ofNat width (n / 256)

/-- The number whose bytes these are, least significant first. -/
def toNat : List UInt8 → Nat
  | [] => 0
  | b :: bytes => b.toNat + 256 * toNat bytes

@[simp] theorem length_ofNat (width n : Nat) : (ofNat width n).length = width := by
  induction width generalizing n with
  | zero => rfl
  | succ width ih => simp [ofNat, ih]

theorem toNat_ofNat {width n : Nat} (h : n < Nat.pow 256 width) : toNat (ofNat width n) = n := by
  induction width generalizing n with
  | zero => simp_all [ofNat, toNat]
  | succ width ih =>
    have hq : n / 256 < Nat.pow 256 width := by
      rw [Nat.div_lt_iff_lt_mul (by decide)]
      exact h
    have hb : (UInt8.ofNat (n % 256)).toNat = n % 256 := by
      rw [UInt8.toNat_ofNat']
      omega
    rw [ofNat, toNat, ih hq, hb]
    omega

theorem toNat_lt (bytes : List UInt8) : toNat bytes < Nat.pow 256 bytes.length := by
  induction bytes with
  | nil => simp [toNat]
  | cons b bytes ih =>
    have hb := b.toNat_lt
    have hpow : Nat.pow 256 (bytes.length + 1) = Nat.pow 256 bytes.length * 256 := rfl
    rw [toNat, List.length_cons, hpow]
    omega

theorem ofNat_toNat {width : Nat} {bytes : List UInt8} (h : bytes.length = width) :
    ofNat width (toNat bytes) = bytes := by
  induction bytes generalizing width with
  | nil => subst h; rfl
  | cons b bytes ih =>
    subst h
    have hb := b.toNat_lt
    have hm : (b.toNat + 256 * toNat bytes) % 256 = b.toNat := by omega
    have hd : (b.toNat + 256 * toNat bytes) / 256 = toNat bytes := by omega
    rw [List.length_cons, toNat, ofNat, hm, hd, ih rfl, UInt8.ofNat_toNat]

/-- The signed number whose bytes these are in two's complement, least significant first. -/
def toInt (bytes : List UInt8) : Int := Int.bmod (toNat bytes) (Nat.pow 256 bytes.length)

/-! ## Layouts -/

variable {α : Type}

/-- A word of `width` bytes, least significant byte first. -/
def littleEndian (width : Nat) (value : α → Nat) (word : Nat → α)
    (value_lt : ∀ a, value a < Nat.pow 256 width) (word_value : ∀ a, word (value a) = a)
    (value_word : ∀ n, n < Nat.pow 256 width → value (word n) = n) : Codec α where
  width := width
  encode a := ofNat width (value a)
  decode block := word (toNat (block.take width))
  length_encode a := length_ofNat _ _
  decode_encode a rest := by
    rw [List.take_left' (length_ofNat _ _), toNat_ofNat (value_lt a), word_value]
  encode_decode block h := by
    have hlen : (block.take width).length = width := by simp [h]
    have hlt := toNat_lt (block.take width)
    rw [hlen] at hlt
    rw [value_word _ hlt, ofNat_toNat hlen]

/-- The value of a word is the number that its bytes say, even where some are missing. -/
theorem value_decode_littleEndian {width : Nat} {value : α → Nat} {word : Nat → α}
    (value_lt : ∀ a, value a < Nat.pow 256 width) (word_value : ∀ a, word (value a) = a)
    (value_word : ∀ n, n < Nat.pow 256 width → value (word n) = n) (block : List UInt8) :
    value ((littleEndian width value word value_lt word_value value_word).decode block) =
      toNat (block.take width) := by
  have hlen : (block.take width).length ≤ width := List.length_take_le _ _
  have hpow : Nat.pow 256 (block.take width).length ≤ Nat.pow 256 width :=
    Nat.pow_le_pow_right (by decide) hlen
  exact value_word _ (Nat.lt_of_lt_of_le (toNat_lt _) hpow)

/-- A word of `width` bytes, most significant byte first. -/
def bigEndian (width : Nat) (value : α → Nat) (word : Nat → α)
    (value_lt : ∀ a, value a < Nat.pow 256 width) (word_value : ∀ a, word (value a) = a)
    (value_word : ∀ n, n < Nat.pow 256 width → value (word n) = n) : Codec α where
  width := width
  encode a := (ofNat width (value a)).reverse
  decode block := word (toNat (block.take width).reverse)
  length_encode a := by simp
  decode_encode a rest := by
    rw [List.take_left' (by simp), List.reverse_reverse, toNat_ofNat (value_lt a), word_value]
  encode_decode block h := by
    have hlen : (block.take width).reverse.length = width := by simp [h]
    have hlt := toNat_lt (block.take width).reverse
    rw [hlen] at hlt
    rw [value_word _ hlt, ofNat_toNat hlen, List.reverse_reverse]

def uint16 : Codec UInt16 :=
  littleEndian 2 UInt16.toNat UInt16.ofNat (fun a => a.toNat_lt) (fun _ => UInt16.ofNat_toNat)
    (fun _ h => UInt16.toNat_ofNat_of_lt' h)

def uint32 : Codec UInt32 :=
  littleEndian 4 UInt32.toNat UInt32.ofNat (fun a => a.toNat_lt) (fun _ => UInt32.ofNat_toNat)
    (fun _ h => UInt32.toNat_ofNat_of_lt' h)

def uint64 : Codec UInt64 :=
  littleEndian 8 UInt64.toNat UInt64.ofNat (fun a => a.toNat_lt) (fun _ => UInt64.ofNat_toNat)
    (fun _ h => UInt64.toNat_ofNat_of_lt' h)

/-- Eight bytes with the most significant first. -/
def uint64BigEndian : Codec UInt64 :=
  bigEndian 8 UInt64.toNat UInt64.ofNat (fun a => a.toNat_lt) (fun _ => UInt64.ofNat_toNat)
    (fun _ h => UInt64.toNat_ofNat_of_lt' h)

def int32 : Codec Int32 :=
  uint32.imap UInt32.toInt32 Int32.toUInt32 (fun _ => rfl) (fun _ => rfl)

def int64 : Codec Int64 :=
  uint64.imap UInt64.toInt64 Int64.toUInt64 (fun _ => rfl) (fun _ => rfl)

theorem toNat_decode_uint16 (block : List UInt8) :
    (uint16.decode block).toNat = toNat (block.take 2) :=
  value_decode_littleEndian _ _ _ block

theorem toNat_decode_uint32 (block : List UInt8) :
    (uint32.decode block).toNat = toNat (block.take 4) :=
  value_decode_littleEndian _ _ _ block

theorem toInt_decode_int32 {block : List UInt8} (h : 4 ≤ block.length) :
    (int32.decode block).toInt = toInt (block.take 4) := by
  have hlen : (block.take 4).length = 4 := by simp [h]
  have hsigned (n : UInt32) : n.toInt32.toInt = Int.bmod n.toNat (Nat.pow 256 4) :=
    BitVec.toInt_eq_toNat_bmod n.toBitVec
  rw [toInt, hlen, ← toNat_decode_uint32]
  exact hsigned _

end MediaIntake.Word
