import MediaIntake.Intake.Event
/-! # The reused buffer

An endpoint packages every sample into the same buffer and keeps the memory of the largest
payload it has copied so far.  Memory is asked for only where a payload is larger than that,
and then for exactly its size.  **A refused sample leaves the buffer half changed**: its bytes
are gone, and the format and times of the sample before still stand.
-/
namespace MediaIntake

/-- A buffer with the number of bytes that it has memory for. -/
structure Slot (k : Kind) where
  buffer : Buffer k
  capacity : Nat

namespace Slot
variable {k : Kind}

/-- No sample yet and no memory. -/
def empty (k : Kind) : Slot k := ⟨.empty k, 0⟩

/-- Whether a payload takes more memory than there is. -/
def needsMemory (s : Slot k) (payload : ByteArray) : Bool := s.capacity < payload.size

/-- Puts a payload in the place of the bytes, unless it takes memory and `memoryRefused`.  The
old bytes are gone before memory is asked for. -/
def copy (s : Slot k) (payload : ByteArray) (memoryRefused : Bool) :
    Except DeliveryError Unit × Slot k :=
  let buffer := s.buffer.clear
  if s.needsMemory payload && memoryRefused then (.error .outOfMemory, { s with buffer })
  else (.ok (), ⟨buffer.extend payload, max s.capacity payload.size⟩)

/-- Packages a sample.  Format and times are written only where the payload was copied. -/
def fill (s : Slot k) (format : k.Descriptor) (times : SampleTimes) (payload : ByteArray)
    (memoryRefused : Bool) : Except DeliveryError Unit × Slot k :=
  match s.copy payload memoryRefused with
  | (.ok (), s) => (.ok (), { s with buffer := s.buffer.stamp format times })
  | (.error e, s) => (.error e, s)

/-- **A filled slot holds a fresh buffer**; a refused one has lost its bytes. -/
theorem fill_eq (s : Slot k) (format : k.Descriptor) (times : SampleTimes) (payload : ByteArray)
    (memoryRefused : Bool) :
    s.fill format times payload memoryRefused =
      if s.needsMemory payload && memoryRefused then
        (.error .outOfMemory, { s with buffer := s.buffer.clear })
      else (.ok (), ⟨.package format times payload, max s.capacity payload.size⟩) := by
  unfold fill copy
  split
  · next h =>
    split at h
    · cases h
    · next hr =>
      cases h
      rw [if_neg hr, Buffer.stamp_extend_clear]
  · next h =>
    split at h
    · next hr =>
      cases h
      rw [if_pos hr]
    · cases h

end Slot
end MediaIntake
