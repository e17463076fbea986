import MediaIntake.Intake.Kind
/-! # Buffers

What a consumer is handed: the bytes of one sample, the format they are in, and when they
were captured, in milliseconds.  An audio buffer lasts from its start to its stop, both
converted before they are subtracted; without a stop time it lasts no time at all.

A used buffer is filled again in three steps: its bytes are dropped (`clear`), those of the
next sample go in (`extend`), and then format and times are written over (`stamp`).  **Nothing
of the earlier sample is left** (`stamp_extend_clear`).
-/
namespace MediaIntake

/-- Bytes are compared as the core library does it, also where there is another way. -/
instance (priority := 2000) ByteArray.coreDecidableEq : DecidableEq ByteArray :=
  ByteArray.instDecidableEq

/-- When a sample starts and, if its source says so, stops. -/
structure SampleTimes where
  start : Ticks
  stop : Option Ticks := none
  deriving DecidableEq, Repr

/-- How long a sample with these times lasts. -/
def Kind.duration : (k : Kind) → SampleTimes → k.Duration
  | audio, times =>
    match times.stop with
    | some stop => stop.toMillis.since times.start.toMillis
    | none => ⟨0⟩
  | video, _ => ()

/-- One packaged sample. -/
structure Buffer (k : Kind) where
  descriptor : k.Descriptor
  layout : k.Layout
  timestamp : Millis
  duration : k.Duration
  data : ByteArray
  deriving DecidableEq

namespace Buffer

/-- A buffer that has never held a sample. -/
def empty (k : Kind) : Buffer k := ⟨k.empty, k.layout, ⟨0⟩, k.noDuration, .empty⟩

variable {k : Kind}

/-- The buffer for a sample in a format. -/
def package (format : k.Descriptor) (times : SampleTimes) (payload : ByteArray) : Buffer k :=
  ⟨format, k.layout, times.start.toMillis, k.duration times, payload⟩

/-- Without its bytes; format and times stay. -/
def clear (b : Buffer k) : Buffer k := { b with data := .empty }

/-- With more bytes at the end. -/
def extend (b : Buffer k) (payload : ByteArray) : Buffer k := { b with data := b.data ++ payload }

/-- With another format and other times. -/
def stamp (b : Buffer k) (format : k.Descriptor) (times : SampleTimes) : Buffer k :=
  { b with
    descriptor := format
    layout := k.layout
    timestamp := times.start.toMillis
    duration := k.duration times }

/-- **A buffer that was used before is filled like one that was not.** -/
theorem stamp_extend_clear (b : Buffer k) (format : k.Descriptor) (times : SampleTimes)
    (payload : ByteArray) :
    ((b.clear.extend payload).stamp format times) = .package format times payload := by
  simp [clear, extend, stamp, package]

/-- A time in milliseconds and in seconds. -/
def timeText (m : Millis) : String := m.text ++ "ms (" ++ m.secondsText ++ "s)"

def text : {k : Kind} → Buffer k → String
  | .audio, b =>
    "audio buffer: " ++ AudioDescriptor.text b.descriptor ++ " timestamp=" ++ timeText b.timestamp
      ++ " duration=" ++ timeText b.duration ++ " size=" ++ toString b.data.size
  | .video, b =>
    let size : VideoDescriptor := b.descriptor
    let layout : PixelLayout := b.layout
    "video frame: " ++ toString size.width.toNat ++ "x" ++ toString size.height.toNat ++ " "
      ++ layout.fourcc.text ++ " timestamp=" ++ timeText b.timestamp
      ++ " size=" ++ toString b.data.size

end Buffer
end MediaIntake
