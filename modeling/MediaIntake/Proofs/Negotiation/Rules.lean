import Mathlib.Data.List.Basic
import MediaIntake.Proofs.Negotiation.Accepted
import MediaIntake.Proofs.Rules
/-! # The rules of a negotiation

Both kinds of endpoint hold a proposal to rules and report the first that it fails.  The rules are
the same but for what they accept, and audio has one more, that the samples do not depend on each
other; **the order differs** (`Rule.order`): audio looks at the subtype before it asks for a format
block, video asks for the block first.  What a proposal fails is told by its fields and by the bytes
of its block, and so is what an accepted proposal describes.
-/
namespace MediaIntake

/-! ## Rules -/

/-- What a proposal is held to. -/
inductive Rule where
  /-- It is of the kind of media that the endpoint takes. -/
  | major
  /-- Its samples do not depend on each other. -/
  | uncompressed
  /-- It has a subtype and a format type. -/
  | identified
  | formatType
  | subtype
  /-- It has a format block. -/
  | block
  /-- The format block can be read as the record that the format type names. -/
  | readable
  /-- The record names an encoding that is supported. -/
  | encoding
  deriving DecidableEq

/-- The error of a result, if it is one. -/
def errorOf? {ε α : Type} : Except ε α → Option ε
  | .ok _ => none
  | .error error => some error

namespace Kind

def formatTypes : Kind → List Guid
  | audio => [.waveFormat]
  | video => [.videoInfo, .videoInfo2]

def subtypes : Kind → List Guid
  | audio => [.ieeeFloat, .pcm]
  | video => [.i420]

/-- What is wrong with the record in the block of a proposal. -/
def blockError? : Kind → MediaType → Option BlockError
  | audio, t => errorOf? (WaveFormat.parse t.block)
  | video, t =>
    if t.formatType = some .videoInfo then errorOf? (VideoInfo.parse t.block)
    else errorOf? (VideoInfo2.parse t.block)

/-- The number that names the encoding: the tag of a wave record, the compression of a frame. -/
def encodingIn : Kind → MediaType → Nat
  | audio, t => Word.toNat (t.block.extract 0 2)
  | video, t =>
    Word.toNat <|
      if t.formatType = some .videoInfo then t.block.extract 64 68 else t.block.extract 88 92

def encodings : Kind → List Nat
  | audio => [1, 3, 0xfffe]
  | video => [0x30323449]

/-- How another encoding is refused. -/
def refuseEncoding : Kind → Nat → Rejection
  | audio, code => .unsupportedTag ⟨UInt16.ofNat code⟩
  | video, code => .compressionMismatch .i420 ⟨UInt32.ofNat code⟩

end Kind

namespace Rule

/-- The rules of a kind, in the order in which they are tried. -/
def order : Kind → List Rule
  | .audio =>
    [.major, .uncompressed, .identified, .formatType, .subtype, .block, .readable, .encoding]
  | .video => [.major, .identified, .formatType, .block, .subtype, .readable, .encoding]

/-- Whether a proposal fails a rule. -/
def fails (k : Kind) (t : MediaType) : Rule → Bool
  | major => t.major ≠ some k.major
  | uncompressed => t.temporal
  | identified => t.subtype = none ∨ t.formatType = none
  | formatType => t.formatType ∉ k.formatTypes.map some
  | subtype => t.subtype ∉ k.subtypes.map some
  | block => t.block = []
  | readable => (k.blockError? t).isSome
  | encoding => k.encodingIn t ∉ k.encodings

/-- What is reported of a proposal that fails a rule. -/
def report (k : Kind) (t : MediaType) : Rule → Option Rejection
  | major => some (.wrongMajorType k.major)
  | uncompressed => some .temporallyCompressed
  | identified => some .missingSubtypeOrFormatType
  | formatType => t.formatType.map .unsupportedFormatType
  | subtype => t.subtype.map .unsupportedSubtype
  | block => some .missingFormatBlock
  | readable => (k.blockError? t).map .invalidFormatBlock
  | encoding => some (k.refuseEncoding (k.encodingIn t))

/-- The rules that a proposal is malformed by. -/
def ofForm : List Rule := [.identified, .block, .readable]

/-- **A rejection is one of a malformed proposal just if its rule is one of form.** -/
theorem isMalformed_iff {k : Kind} {t : MediaType} {rule : Rule} {reason : Rejection}
    (h : rule.report k t = some reason) : reason.isMalformed = true ↔ rule ∈ ofForm := by
  cases rule with
  | major =>
    cases h
    exact iff_of_false Bool.false_ne_true (by decide)
  | uncompressed =>
    cases h
    decide
  | identified =>
    cases h
    decide
  | formatType =>
    obtain ⟨g, -, rfl⟩ := Option.map_eq_some_iff.mp h
    exact iff_of_false Bool.false_ne_true (by decide)
  | subtype =>
    obtain ⟨g, -, rfl⟩ := Option.map_eq_some_iff.mp h
    exact iff_of_false Bool.false_ne_true (by decide)
  | block =>
    cases h
    decide
  | readable =>
    obtain ⟨error, -, rfl⟩ := Option.map_eq_some_iff.mp h
    exact iff_of_true rfl (by decide)
  | encoding =>
    cases h
    cases k with
    | audio => exact iff_of_false Bool.false_ne_true (by decide)
    | video => exact iff_of_false Bool.false_ne_true (by decide)

section
variable {k : Kind} {t : MediaType} {g : Guid}

theorem fails_major_iff : major.fails k t = true ↔ t.major ≠ some k.major := decide_eq_true_iff

theorem fails_identified_iff :
    identified.fails k t = true ↔ t.subtype = none ∨ t.formatType = none := decide_eq_true_iff

theorem fails_formatType_iff (h : t.formatType = some g) :
    formatType.fails k t = true ↔ g ∉ k.formatTypes := by
  rw [fails, h, decide_eq_true_iff, List.mem_map_of_injective fun _ _ => Option.some.inj]

theorem fails_subtype_iff (h : t.subtype = some g) :
    subtype.fails k t = true ↔ g ∉ k.subtypes := by
  rw [fails, h, decide_eq_true_iff, List.mem_map_of_injective fun _ _ => Option.some.inj]

theorem fails_block_iff : block.fails k t = true ↔ t.block.isEmpty = true := by
  rw [fails, decide_eq_true_iff, List.isEmpty_iff]

theorem fails_encoding_iff : encoding.fails k t = true ↔ k.encodingIn t ∉ k.encodings :=
  decide_eq_true_iff

end

end Rule

/-- The first rule that a proposal to an endpoint of a kind fails. -/
def MediaType.firstFailed? (t : MediaType) (k : Kind) : Option Rule :=
  (Rule.order k).find? (Rule.fails k t)

/-! ## The rules on a block -/

/-- A block that is read as a record, of which some are accepted: what the two rules on a block look
at. -/
structure Kind.Reads (k : Kind) (t : MediaType) {ρ : Type} (read : Except BlockError ρ)
    (accepts : ρ → Prop) (refuse : ρ → Rejection) : Prop where
  blockError?_eq : k.blockError? t = errorOf? read
  accepts_iff : ∀ record, read = .ok record → (k.encodingIn t ∈ k.encodings ↔ accepts record)
  refuse_eq : ∀ record, read = .ok record → k.refuseEncoding (k.encodingIn t) = refuse record

namespace Kind.Reads
variable {k : Kind} {t : MediaType} {ρ α : Type} {read : Except BlockError ρ}
  {accepts : ρ → Prop} {refuse : ρ → Rejection}

/-- The rules on a block hold just if an accepted record is read from it. -/
theorem holds_iff (h : k.Reads t read accepts refuse) :
    (k.blockError? t = none ∧ k.encodingIn t ∈ k.encodings) ↔
      ∃ record, read = .ok record ∧ accepts record := by
  rw [h.blockError?_eq]
  cases hread : read with
  | error error =>
    constructor
    · rintro ⟨hnone, -⟩
      cases hnone
    · rintro ⟨record, hok, -⟩
      cases hok
  | ok record =>
    rw [h.accepts_iff record hread]
    constructor
    · rintro ⟨-, haccepts⟩
      exact ⟨record, rfl, haccepts⟩
    · rintro ⟨record', h', haccepts⟩
      cases h'
      exact ⟨rfl, haccepts⟩

/-- The rules on a block settle what comes of it. -/
theorem settled [DecidablePred accepts] {result : Except Rejection α}
    (h : k.Reads t read accepts refuse) (describe : ρ → α)
    (herror : ∀ error, read = .error error → result = .error (.invalidFormatBlock error))
    (hok : ∀ record, read = .ok record →
      result = if accepts record then .ok (describe record) else .error (refuse record)) :
    SettledBy [.readable, .encoding] (Rule.fails k t) (Rule.report k t) result := by
  cases hread : read with
  | error error =>
    have hfails : k.blockError? t = some error := h.blockError?_eq.trans (congrArg errorOf? hread)
    rw [herror error hread]
    refine .stop ?_ ?_
    · rw [Rule.fails, hfails, Option.isSome_some]
    · rw [Rule.report, hfails, Option.map_some]
  | ok record =>
    have hholds : k.blockError? t = none := h.blockError?_eq.trans (congrArg errorOf? hread)
    rw [hok record hread, ← ite_not]
    refine .pass (by rw [Rule.fails, hholds, Option.isSome_none]) ?_
    refine .ite ?_ ?_ fun _ => .nil _
    · rw [Rule.fails_encoding_iff, h.accepts_iff record hread]
    · rw [Rule.report, h.refuse_eq record hread]

end Kind.Reads
end MediaIntake
