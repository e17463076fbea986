import MediaIntake.Json.Record
/-! # Video descriptors

The descriptor of a video format is the size of its frames; their layout is always planar YUV
4:2:0.  The height is a magnitude: whether the source stores images from the top down or from
the bottom up is not kept.  The empty descriptor stands for no format.
-/
namespace MediaIntake

structure VideoDescriptor where
  width : UInt32 := 0
  height : UInt32 := 0
  deriving DecidableEq, Repr

namespace VideoDescriptor

/-- No format. -/
def empty : VideoDescriptor := {}

def isEmpty (d : VideoDescriptor) : Bool := d = empty

def text (d : VideoDescriptor) : String :=
  s!"width={d.width.toNat} height={d.height.toNat}"

/-- How descriptors are stored. -/
def schema : Json.Schema VideoDescriptor where
  name := "VideoConfig"
  empty := empty
  fields := [
    ⟨"width", .bits32, (·.width.toNat), fun n d => { d with width := UInt32.ofNat n }⟩,
    ⟨"height", .bits32, (·.height.toNat), fun n d => { d with height := UInt32.ofNat n }⟩]

end VideoDescriptor
end MediaIntake
