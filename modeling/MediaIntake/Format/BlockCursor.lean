import MediaIntake.Bytes.Codec
import MediaIntake.Format.BlockError
/-! # Reading a block field by field

A record can be read one field after the other, with a cursor that looks for itself whether the
block goes on for long enough (`next`).  A reader that asks for one layout after another reads what
the layouts together say, and **comes to the end of no block that is long enough for them**
(`Reads`).
-/
namespace MediaIntake

/-- A block with the place that reading has come to. -/
structure BlockCursor where
  /-- The record that is read, for the errors. -/
  record : BlockRecord
  block : List UInt8
  offset : Nat

namespace BlockCursor
variable {α β : Type}

/-- Reading that goes on from a cursor. -/
abbrev Reader := StateT BlockCursor (Except BlockError)

/-- Reads what comes next.  Where the block ends before, the error says how long it would have to
be. -/
def next (layout : Codec α) : Reader α := fun c =>
  if c.block.length < c.offset + layout.width then
    .error (.truncated c.record (c.offset + layout.width) c.block.length)
  else .ok (layout.decode (c.block.drop c.offset), { c with offset := c.offset + layout.width })

/-- Ends reading with a flaw of the record. -/
def reject (flaw : BlockFlaw) : Reader α := fun c => .error (.invalid c.record flaw)

/-- Where the block goes on for long enough, the reader reads the layout and comes to rest behind
it. -/
def Reads (reader : Reader α) (layout : Codec α) : Prop :=
  ∀ c : BlockCursor, c.offset + layout.width ≤ c.block.length →
    reader c = .ok (layout.decode (c.block.drop c.offset),
      { c with offset := c.offset + layout.width })

theorem reads_next (layout : Codec α) : Reads (next layout) layout :=
  fun _ h => if_neg (Nat.not_lt_of_le h)

/-- What is read first is followed by the rest. -/
theorem Reads.bind_of_le {reader : Reader α} {layout : Codec α} (hreads : Reads reader layout)
    {c : BlockCursor} (h : c.offset + layout.width ≤ c.block.length) (rest : α → Reader β) :
    (reader >>= rest) c =
      rest (layout.decode (c.block.drop c.offset))
        { c with offset := c.offset + layout.width } := by
  show (reader c >>= _) = _
  rw [hreads c h]
  rfl

/-- Where the block goes on for long enough, the layout is read and the rest comes after it. -/
theorem next_bind_of_le {layout : Codec α} {c : BlockCursor}
    (h : c.offset + layout.width ≤ c.block.length) (rest : α → Reader β) :
    (next layout >>= rest) c =
      rest (layout.decode (c.block.drop c.offset))
        { c with offset := c.offset + layout.width } :=
  (reads_next layout).bind_of_le h rest

end BlockCursor
end MediaIntake
