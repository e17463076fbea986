/-! # Fixed-width byte layouts

A `Codec α` writes a value as a fixed number of bytes and reads it back from the front of a
block, whatever follows there. **The two directions come with their laws**: a written value
is read back from any block that starts with it (`decode_encode`), and what is read from a
long enough block is written as the bytes it was read from (`encode_decode`).

Layouts are put together with `prod`, one after the other, and moved to another type with
`imap`; both carry the laws along, so a record's layout needs no proof of its own.  What a
layout reads is settled by its first bytes: `decode_append` says that a suffix is never
looked at.
-/
namespace MediaIntake

/-- A layout of fixed width. On a block shorter than `width` the value of `decode` carries
no meaning: readers compare the length first. -/
structure Codec (α : Type) where
  /-- Number of bytes of every written value. -/
  width : Nat
  encode : α → List UInt8
  /-- Reads a value from the first `width` bytes. -/
  decode : List UInt8 → α
  length_encode : ∀ a, (encode a).length = width
  decode_encode : ∀ a rest, decode (encode a ++ rest) = a
  encode_decode : ∀ block, width ≤ block.length → encode (decode block) = block.take width

namespace Codec
variable {α β : Type}

/-- One layout followed by another. -/
def prod (c : Codec α) (d : Codec β) : Codec (α × β) where
  width := c.width + d.width
  encode p := c.encode p.1 ++ d.encode p.2
  decode block := (c.decode block, d.decode (block.drop c.width))
  length_encode p := by simp [c.length_encode, d.length_encode]
  decode_encode p rest := by
    have h : (c.encode p.1).length = c.width := c.length_encode _
    rw [List.append_assoc, c.decode_encode, List.drop_left' h, d.decode_encode]
  encode_decode block h := by
    have hd : d.width ≤ (block.drop c.width).length := by
      rw [List.length_drop]
      omega
    rw [c.encode_decode block (by omega), d.encode_decode _ hd, List.take_add]

/-- The same bytes read as another type, along a bijection. -/
def imap (c : Codec α) (f : α → β) (g : β → α) (f_g : ∀ b, f (g b) = b)
    (g_f : ∀ a, g (f a) = a) : Codec β where
  width := c.width
  encode b := c.encode (g b)
  decode block := f (c.decode block)
  length_encode b := c.length_encode _
  decode_encode b rest := by rw [c.decode_encode, f_g]
  encode_decode block h := by rw [g_f, c.encode_decode block h]

/-- **A suffix is never looked at.** -/
theorem decode_append (c : Codec α) {block : List UInt8} (h : c.width ≤ block.length)
    (rest : List UInt8) : c.decode (block ++ rest) = c.decode block := by
  conv => lhs; rw [← List.take_append_drop c.width block, ← c.encode_decode block h,
    List.append_assoc, c.decode_encode]

/-- What a long enough block is read as is told by its first bytes. -/
theorem decode_eq_iff (c : Codec α) {block : List UInt8} {a : α} (h : c.width ≤ block.length) :
    c.decode block = a ↔ block.take c.width = c.encode a := by
  constructor
  · rintro rfl
    rw [c.encode_decode block h]
  · intro htake
    rw [← List.take_append_drop c.width block, htake, c.decode_encode]

end Codec
end MediaIntake
