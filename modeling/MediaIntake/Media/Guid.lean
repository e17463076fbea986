import MediaIntake.Media.FourCC
/-! # Media type identifiers

Major types, subtypes and format types are 128-bit identifiers.  Subtypes of uncompressed
formats carry a code in their first field, a four-character code or a wave format tag, on a
fixed base (`ofCode`); `code?` reads it back, and answers exactly on those.
-/
namespace MediaIntake

/-- A 128-bit identifier by its four fields. -/
structure Guid where
  data1 : UInt32
  data2 : UInt16
  data3 : UInt16
  /-- The eight bytes of the last field, the first one most significant. -/
  data4 : UInt64
  deriving DecidableEq, Repr

namespace Guid

/-- The stored form: three little-endian fields, then eight bytes in order. -/
def codec : Codec Guid :=
  (Word.uint32.prod <| Word.uint16.prod <| Word.uint16.prod Word.uint64BigEndian).imap
    (fun p => ⟨p.1, p.2.1, p.2.2.1, p.2.2.2⟩) (fun g => (g.data1, g.data2, g.data3, g.data4))
    (fun _ => rfl) (fun _ => rfl)

/-- The hyphenated text, in lower-case hexadecimal digits. -/
def text (g : Guid) : String :=
  Digits.hex 8 g.data1.toNat ++ "-" ++ Digits.hex 4 g.data2.toNat ++ "-"
    ++ Digits.hex 4 g.data3.toNat ++ "-" ++ Digits.hex 4 (g.data4.toNat / Nat.pow 2 48) ++ "-"
    ++ Digits.hex 12 (g.data4.toNat % Nat.pow 2 48)

/-- The last field of the identifiers on the common base. -/
def baseTail : UInt64 := 0x800000aa00389b71

/-- The identifier with the given code on the common base. -/
def ofCode (code : UInt32) : Guid := ⟨code, 0x0000, 0x0010, baseTail⟩

/-- The code of an identifier on the common base: its first field, if the other three are those of
the base. -/
def code? (g : Guid) : Option FourCC :=
  if g.data2 = 0x0000 ∧ g.data3 = 0x0010 ∧ g.data4 = baseTail then some ⟨g.data1⟩ else none

/-- **The identifiers on the common base are exactly the coded ones.** -/
theorem code?_eq_some_iff {g : Guid} {c : FourCC} : g.code? = some c ↔ g = ofCode c.code := by
  obtain ⟨data1, data2, data3, data4⟩ := g
  constructor
  · intro h
    unfold code? at h
    split at h
    · next hbase =>
      obtain ⟨rfl, rfl, rfl⟩ := hbase
      cases h
      rfl
    · cases h
  · intro h
    cases h
    exact if_pos ⟨rfl, rfl, rfl⟩

/-! ## Well-known identifiers -/

/-- Major type of audio, the code of `auds`. -/
def audio : Guid := ofCode 0x73647561

/-- Major type of video, the code of `vids`. -/
def video : Guid := ofCode 0x73646976

/-- Subtype of integer samples, wave format tag 1. -/
def pcm : Guid := ofCode 0x0001

/-- Subtype of floating point samples, wave format tag 3. -/
def ieeeFloat : Guid := ofCode 0x0003

/-- Subtype of planar YUV 4:2:0 frames. -/
def i420 : Guid := ofCode FourCC.i420.code

/-- Format type of a wave format block. -/
def waveFormat : Guid := ⟨0x05589f81, 0xc356, 0x11ce, 0xbf0100aa0055595a⟩

/-- Format type of a video info block. -/
def videoInfo : Guid := ⟨0x05589f80, 0xc356, 0x11ce, 0xbf0100aa0055595a⟩

/-- Format type of a video info block of the second version. -/
def videoInfo2 : Guid := ⟨0xf72a76a0, 0xeb0a, 0x11d0, 0xace40000c0cc16ba⟩

/-- The identifiers that have names of their own. -/
def wellKnown : List (Guid × String) :=
  [(audio, "MEDIATYPE_Audio"), (video, "MEDIATYPE_Video"), (pcm, "MEDIASUBTYPE_PCM"),
    (ieeeFloat, "MEDIASUBTYPE_IEEE_FLOAT"), (i420, "MEDIASUBTYPE_I420"),
    (waveFormat, "FORMAT_WaveFormatEx"), (videoInfo, "FORMAT_VideoInfo"),
    (videoInfo2, "FORMAT_VideoInfo2")]

/-- The name of an identifier: its own, else one made of its code, else its hyphenated text. -/
def name (g : Guid) : String :=
  match wellKnown.lookup g with
  | some name => name
  | none =>
    match g.code? with
    | some code => "MEDIASUBTYPE_" ++ code.text
    | none => g.text

end Guid
end MediaIntake
