import MediaIntake.Proofs.Negotiation.Audio
import MediaIntake.Proofs.Negotiation.Video
/-! # Blocks that go on

A format block may go on behind the record that it starts with, and whatever follows there is not
looked at.  So what is said of a block that is long enough is said of every longer one, and **a
reader that asks for more bytes says how many it takes** (`FrontReader`): it asks again until they
are there, and never after that.  A negotiation reads at most one record.  Its answer is final, for
proposals that only go on, just if it does not ask for bytes (`negotiate_final_iff`).
-/
namespace MediaIntake

/-! ## Answers that stand -/

/-- How long a block would have to be, of which an error says that it is too short. -/
def BlockError.asked? : BlockError → Option Nat
  | .truncated _ expected _ => some expected
  | .invalid _ _ => none

/-- How long the block would have to be of a proposal that is rejected for want of bytes: it has no
block at all, or one that ends inside its record. -/
def Rejection.asked? : Rejection → Option Nat
  | .missingFormatBlock => some 1
  | .invalidFormatBlock error => error.asked?
  | _ => none

/-- A result that is repeated, unless it is an error that asks for something. -/
def Stands {ε α : Type} (asked? : ε → Option Nat) (first second : Except ε α) : Prop :=
  (∀ error, first = .error error → asked? error = none) → second = first

namespace Stands
variable {ε α β : Type} {asked? : ε → Option Nat} {first second : Except ε α} {p p' : Prop}
  [Decidable p] [Decidable p'] {error error' : ε}

theorem of_eq (h : second = first) : Stands asked? first second := fun _ => h

/-- Nothing is said of an error that asks for something. -/
theorem of_asked {n : Nat} (h : asked? error = some n) :
    Stands asked? (.error error) second := by
  intro hfinal
  rw [hfinal error rfl] at h
  cases h

/-- A check that comes out alike. -/
theorem ite (hp : p' ↔ p) (h : ¬ p → Stands asked? first second) :
    Stands asked? (if p then .error error else first) (if p' then .error error else second) := by
  by_cases hfails : p
  · rw [if_pos hfails, if_pos (hp.mpr hfails)]
    exact .of_eq rfl
  · rw [if_neg hfails, if_neg (mt hp.mp hfails)]
    exact h hfails

/-- A check whose error asks for something: it only has to hold again where it held. -/
theorem ite_asked {n : Nat} (hasked : asked? error = some n) (hp : ¬ p → ¬ p')
    (h : ¬ p → Stands asked? first second) :
    Stands asked? (if p then .error error else first) (if p' then .error error' else second) := by
  by_cases hfails : p
  · rw [if_pos hfails]
    exact .of_asked hasked
  · rw [if_neg hfails, if_neg (hp hfails)]
    exact h hfails

theorem map (h : Stands asked? first second) (f : α → β) :
    Stands asked? (first.map f) (second.map f) := by
  intro hfinal
  refine congrArg (Except.map f) (h ?_)
  rintro error rfl
  exact hfinal error rfl

/-- What is made of a record stands if its reading does. -/
theorem of_read {ρ : Type} {read read' : Except BlockError ρ} {result result' : Except Rejection α}
    (h : Stands BlockError.asked? read read')
    (herror : ∀ error, read = .error error → result = .error (.invalidFormatBlock error))
    (heq : read' = read → result' = result) : Stands Rejection.asked? result result' := by
  intro hfinal
  refine heq (h ?_)
  intro error hread
  exact hfinal _ (herror error hread)

end Stands

/-! ## Readers -/

/-- A reader that looks at the front of a block and asks for more where there is too little. -/
structure FrontReader {α : Type} (parse : List UInt8 → Except BlockError α) : Prop where
  /-- What does not ask for bytes is said of every longer block. -/
  stands : ∀ block suffix,
    (∀ error, parse block = .error error → error.asked? = none) →
      parse (block ++ suffix) = parse block
  /-- The bytes that are asked for are not all there. -/
  length_lt : ∀ block error n, parse block = .error error → error.asked? = some n →
    block.length < n
  /-- They are asked for again until they are there, and not after that. -/
  asked_again_iff : ∀ block error n, parse block = .error error → error.asked? = some n →
    ∀ suffix,
      (∃ error', parse (block ++ suffix) = .error error' ∧ error'.asked? = some n) ↔
        (block ++ suffix).length < n

/-- A block that is long enough is so whatever follows. -/
theorem not_length_append_lt {block : List UInt8} {n : Nat} (h : ¬ block.length < n)
    (suffix : List UInt8) : ¬ (block ++ suffix).length < n := by
  rw [List.length_append]
  omega

section
variable {α : Type} (record : BlockRecord) (codec : Codec α) (bitmap : α → BitmapHeader)

/-- A reader of video info records asks for the whole record. -/
theorem parseVideo_asked {block : List UInt8} {error : BlockError} {n : Nat}
    (h : parseVideo record codec bitmap block = .error error) (hn : error.asked? = some n) :
    n = codec.width ∧ block.length < codec.width := by
  rcases Nat.lt_or_ge block.length codec.width with hshort | hlength
  · rw [parseVideo_of_short record bitmap hshort] at h
    cases h
    cases hn
    exact ⟨rfl, hshort⟩
  · rw [parseVideo_of_le record bitmap hlength] at h
    cases hf : (bitmap (codec.decode block)).flaw? with
    | none =>
      rw [hf] at h
      cases h
    | some flaw =>
      rw [hf] at h
      cases h
      cases hn

/-- **Video info records of either version are read from the front of a block.** -/
theorem parseVideo_frontReader : FrontReader (parseVideo record codec bitmap) := by
  constructor
  case stands =>
    intro block suffix
    refine Stands.ite_asked rfl (not_length_append_lt · suffix) fun hlength => .of_eq ?_
    rw [codec.decode_append (Nat.le_of_not_lt hlength)]
  case length_lt =>
    intro block error n h hn
    obtain ⟨rfl, hshort⟩ := parseVideo_asked record codec bitmap h hn
    exact hshort
  case asked_again_iff =>
    intro block error n h hn suffix
    obtain ⟨rfl, -⟩ := parseVideo_asked record codec bitmap h hn
    constructor
    · rintro ⟨error', h', hn'⟩
      exact (parseVideo_asked record codec bitmap h' hn').2
    · intro hshort
      exact ⟨_, parseVideo_of_short record bitmap hshort, rfl⟩

end

namespace WaveFormat
variable {block : List UInt8}

/-- A reader of wave records asks for bytes in one of two places. -/
theorem asked_cases {error : BlockError} {n : Nat} (h : parse block = .error error)
    (hn : error.asked? = some n) :
    (n = 18 ∧ block.length < 18) ∨
    (n = 40 ∧ 18 ≤ block.length ∧ block.length < 40 ∧ (headCodec.decode block).Solid ∧
      (headCodec.decode block).tag = .extensible ∧ 22 ≤ Word.toNat (block.extract 16 18)) := by
  have hreading := parse_reading block
  rw [h] at hreading
  cases hreading with
  | truncated hshort =>
    cases hn
    exact .inl ⟨rfl, hshort⟩
  | truncatedExtension hlength hs ht hx hshort =>
    cases hn
    exact .inr ⟨rfl, hlength, hshort, hs, ht, hx⟩
  | noChannels | noSampleRate | noBlockAlign | extraSize => cases hn

theorem length_lt_of_asked {error : BlockError} {n : Nat} (h : parse block = .error error)
    (hn : error.asked? = some n) : block.length < n := by
  obtain ⟨rfl, hshort⟩ | ⟨rfl, -, hshort, -⟩ := asked_cases h hn
  · exact hshort
  · exact hshort

/-- With the extensible tag an extension is asked for until it is there. -/
theorem parse_of_short_extension (hlength : 18 ≤ block.length) (hshort : block.length < 40)
    (hs : (headCodec.decode block).Solid) (ht : (headCodec.decode block).tag = .extensible)
    (hx : 22 ≤ Word.toNat (block.extract 16 18)) :
    parse block = .error (.truncated .waveExtensible 40 block.length) := by
  have hreading := parse_reading block
  generalize parse block = result at hreading ⊢
  cases hreading with
  | truncated h => omega
  | noChannels _ hc => exact absurd hc hs.channels
  | noSampleRate _ _ hr => exact absurd hr hs.sampleRate
  | noBlockAlign _ _ _ ha => exact absurd ha hs.blockAlign
  | extraSize _ _ _ _ h => omega
  | truncatedExtension => rfl
  | extensible h => omega
  | plain _ _ h => exact absurd ht h

/-- What comes after a plain record does not change its extra size. -/
theorem extraSize_append (h : 18 ≤ block.length) (suffix : List UInt8) :
    (block ++ suffix).extract 16 18 = block.extract 16 18 := by
  have hlength : 18 - 16 ≤ (block.drop 16).length := by
    rw [List.length_drop]
    omega
  rw [List.extract, List.extract, List.drop_append_of_le_length (by omega),
    List.take_append_of_le_length hlength]

theorem decode_head_append (h : 18 ≤ block.length) (suffix : List UInt8) :
    headCodec.decode (block ++ suffix) = headCodec.decode block :=
  headCodec.decode_append (Nat.le_trans (by decide) h) suffix

theorem stands_parse (block suffix : List UInt8) :
    Stands BlockError.asked? (parse block) (parse (block ++ suffix)) := by
  refine .ite_asked rfl (not_length_append_lt · suffix) fun hlength => ?_
  have hlength' : 18 ≤ block.length := Nat.le_of_not_lt hlength
  have hextra : Word.uint16.decode ((block ++ suffix).drop headCodec.width) =
      Word.uint16.decode (block.drop headCodec.width) := by
    rw [← UInt16.toNat_inj, Word.toNat_decode_uint16, Word.toNat_decode_uint16]
    exact congrArg Word.toNat (extraSize_append hlength' suffix)
  dsimp only
  rw [decode_head_append hlength', hextra]
  refine .ite .rfl fun _ => .ite .rfl fun _ => .ite .rfl fun _ => ?_
  by_cases hext : (headCodec.decode block).tag.isExtensible = true
  · rw [if_pos hext, if_pos hext]
    refine .ite .rfl fun _ => .ite_asked rfl (not_length_append_lt · suffix) fun hlong => ?_
    have hwidth : extensionCodec.width ≤ (block.drop plainSize).length := by
      have hlong' : 40 ≤ block.length := Nat.le_of_not_lt hlong
      rw [extensionCodec_width, List.length_drop, plainSize]
      omega
    have hdrop : (block ++ suffix).drop plainSize = block.drop plainSize ++ suffix :=
      List.drop_append_of_le_length hlength'
    rw [hdrop, extensionCodec.decode_append hwidth]
    exact .of_eq rfl
  · rw [if_neg hext, if_neg hext]
    exact .of_eq rfl

/-- **Wave records are read from the front of a block.** -/
theorem parse_frontReader : FrontReader parse := by
  constructor
  case stands => exact stands_parse
  case length_lt =>
    intro block error n h hn
    exact length_lt_of_asked h hn
  case asked_again_iff =>
    intro block error n h hn suffix
    constructor
    · rintro ⟨error', h', hn'⟩
      exact length_lt_of_asked h' hn'
    · intro hshort
      obtain ⟨rfl, -⟩ | ⟨rfl, hlength, -, hs, ht, hx⟩ := asked_cases h hn
      · exact ⟨_, if_pos hshort, rfl⟩
      · have hlength' : 18 ≤ (block ++ suffix).length :=
          Nat.le_of_not_lt (not_length_append_lt (Nat.not_lt_of_le hlength) suffix)
        rw [← decode_head_append hlength suffix] at hs ht
        rw [← extraSize_append hlength suffix] at hx
        exact ⟨_, parse_of_short_extension hlength' hshort hs ht hx, rfl⟩

end WaveFormat

/-! ## Negotiations -/

/-- A proposal that agrees with another in all that endpoints of a kind look at, except that its
block goes on. -/
structure MediaType.Continues (k : Kind) (t t' : MediaType) : Prop where
  major : t'.major = t.major
  subtype : t'.subtype = t.subtype
  formatType : t'.formatType = t.formatType
  /-- Video endpoints do not look at marks of temporal compression. -/
  temporal : k = .audio → t'.temporal = t.temporal
  block : t.block <+: t'.block

namespace MediaType.Continues
variable {k : Kind} {t t' : MediaType}

/-- A block that is there is there in what continues it. -/
theorem block_isEmpty (h : t.Continues k t') (hblock : ¬ t.block.isEmpty = true) :
    ¬ t'.block.isEmpty = true := by
  have hprefix := h.block
  rw [List.isEmpty_iff] at hblock ⊢
  intro hnil
  rw [hnil, List.prefix_nil] at hprefix
  exact hblock hprefix

/-- Reading the block stands. -/
theorem stands_parse {α : Type} {parse : List UInt8 → Except BlockError α}
    (hparse : FrontReader parse) (h : t.Continues k t') :
    Stands BlockError.asked? (parse t.block) (parse t'.block) := by
  obtain ⟨suffix, hsuffix⟩ := h.block
  rw [← hsuffix]
  exact hparse.stands t.block suffix

end MediaType.Continues

section
variable {t t' : MediaType}

theorem AudioDescriptor.stands_ofMediaType (h : t.Continues .audio t') :
    Stands Rejection.asked? (ofMediaType t) (ofMediaType t') := by
  unfold ofMediaType
  rw [h.major, h.temporal rfl, h.subtype, h.formatType]
  refine .ite .rfl fun _ => .ite .rfl fun _ => ?_
  cases t.subtype with
  | none => exact .of_eq rfl
  | some subtype =>
    cases t.formatType with
    | none => exact .of_eq rfl
    | some formatType =>
      refine .ite .rfl fun _ => .ite .rfl fun _ => .ite_asked rfl h.block_isEmpty fun _ => ?_
      refine .of_read (h.stands_parse WaveFormat.parse_frontReader) ?_ ?_
      · intro error hread
        rw [ofBlock, hread]
      · intro hread
        rw [ofBlock, ofBlock, hread]

theorem VideoDescriptor.stands_bitmapOf (h : t.Continues .video t') (formatType : Guid) :
    Stands BlockError.asked? (bitmapOf formatType t.block) (bitmapOf formatType t'.block) := by
  unfold bitmapOf
  by_cases hfirst : formatType = .videoInfo
  · rw [if_pos hfirst, if_pos hfirst]
    exact (h.stands_parse (parseVideo_frontReader _ _ _)).map _
  · rw [if_neg hfirst, if_neg hfirst]
    exact (h.stands_parse (parseVideo_frontReader _ _ _)).map _

theorem VideoDescriptor.stands_ofMediaType (h : t.Continues .video t') :
    Stands Rejection.asked? (ofMediaType t) (ofMediaType t') := by
  unfold ofMediaType
  rw [h.major, h.subtype, h.formatType]
  refine .ite .rfl fun _ => ?_
  cases t.subtype with
  | none => exact .of_eq rfl
  | some subtype =>
    cases t.formatType with
    | none => exact .of_eq rfl
    | some formatType =>
      refine .ite .rfl fun _ => .ite_asked rfl h.block_isEmpty fun _ => .ite .rfl fun _ => ?_
      refine .of_read (stands_bitmapOf h formatType) ?_ ?_
      · intro error hread
        rw [ofBlock, hread]
      · intro hread
        rw [ofBlock, ofBlock, hread]

end

namespace Kind
variable {k : Kind} {t t' : MediaType}

/-- **An answer that does not ask for bytes is given again** to whatever continues the proposal. -/
theorem stands_negotiate (h : t.Continues k t') :
    Stands Rejection.asked? (k.negotiate t) (k.negotiate t') := by
  cases k with
  | audio => exact AudioDescriptor.stands_ofMediaType h
  | video => exact VideoDescriptor.stands_ofMediaType h

/-- A proposal is told its rules. -/
theorem negotiate_settled (k : Kind) (t : MediaType) :
    SettledBy (Rule.order k) (Rule.fails k t) (Rule.report k t) (k.negotiate t) := by
  cases k with
  | audio => exact AudioDescriptor.ofMediaType_settled t
  | video => exact VideoDescriptor.ofMediaType_settled t

/-- A block is read as one record, and has fewer bytes than are asked for it. -/
theorem length_lt_of_blockError? {error : BlockError} {n : Nat}
    (h : k.blockError? t = some error) (hn : error.asked? = some n) : t.block.length < n := by
  have hread {α : Type} {parse : List UInt8 → Except BlockError α} (hparse : FrontReader parse)
      (h : errorOf? (parse t.block) = some error) : t.block.length < n := by
    cases hresult : parse t.block with
    | ok a =>
      rw [hresult] at h
      cases h
    | error error' =>
      rw [hresult] at h
      cases h
      exact hparse.length_lt t.block error n hresult hn
  cases k with
  | audio => exact hread WaveFormat.parse_frontReader h
  | video =>
    rw [blockError?] at h
    split at h
    · exact hread (parseVideo_frontReader _ _ _) h
    · exact hread (parseVideo_frontReader _ _ _) h

/-- **A rejection that asks for bytes asks for more than there are.** -/
theorem length_lt_of_negotiate {reason : Rejection} {n : Nat}
    (h : k.negotiate t = .error reason) (hn : reason.asked? = some n) : t.block.length < n := by
  obtain ⟨rule, hrule, hreport⟩ := ((k.negotiate_settled t).error_iff reason).mp h
  cases rule with
  | block =>
    have hfails : Rule.block.fails k t = true := List.find?_some hrule
    have hnil : t.block = [] := List.isEmpty_iff.mp (Rule.fails_block_iff.mp hfails)
    cases hreport
    cases hn
    rw [hnil]
    exact Nat.zero_lt_one
  | readable =>
    obtain ⟨error, herror, rfl⟩ := Option.map_eq_some_iff.mp hreport
    exact length_lt_of_blockError? herror hn
  | major | uncompressed | identified =>
    cases hreport
    cases hn
  | formatType | subtype =>
    obtain ⟨g, -, rfl⟩ := Option.map_eq_some_iff.mp hreport
    cases hn
  | encoding =>
    cases hreport
    cases k with
    | audio => cases hn
    | video => cases hn

/-- **Trailing bytes and unused fields never matter.**  Each of the three records is read from the
front of a block, and bytes are asked for exactly as long as they are missing.  So a proposal gets
the same answer however it is continued, and whatever it says of sample sizes or, for video, of
temporal compression, exactly if that answer is not a rejection for want of bytes. -/
theorem negotiate_final_iff (k : Kind) (t : MediaType) :
    FrontReader WaveFormat.parse ∧ FrontReader VideoInfo.parse ∧ FrontReader VideoInfo2.parse ∧
    ((∀ t', t.Continues k t' → k.negotiate t' = k.negotiate t) ↔
      ∀ reason, k.negotiate t = .error reason → reason.asked? = none) := by
  refine ⟨WaveFormat.parse_frontReader, parseVideo_frontReader _ _ _,
    parseVideo_frontReader _ _ _, ?_⟩
  constructor
  · intro hfinal reason hreason
    cases hn : reason.asked? with
    | none => rfl
    | some n =>
      -- with as many bytes as were asked for, the answer cannot be the same
      let t' : MediaType := { t with block := t.block ++ List.replicate n 0 }
      have hcontinues : t.Continues k t' := ⟨rfl, rfl, rfl, fun _ => rfl, List.prefix_append _ _⟩
      have hsame : k.negotiate t' = .error reason := (hfinal t' hcontinues).trans hreason
      have hshort := length_lt_of_negotiate hsame hn
      rw [List.length_append, List.length_replicate] at hshort
      omega
  · intro hreason t' hcontinues
    exact stands_negotiate hcontinues hreason

/-- An accepted proposal is accepted as the same format with two more bytes in its block and a
sample size. -/
theorem longer_wave_block_accepted :
    let t : MediaType :=
      { major := some .audio, subtype := some .pcm, formatType := some .waveFormat,
        block := (WaveFormat.pcm 2 48000 16).encode }
    let t' : MediaType := { t with fixedSize := true, sampleSize := 4, block := t.block ++ [1, 2] }
    t.Continues .audio t' ∧ audio.negotiate t = .ok (AudioDescriptor.ofWave (.pcm 2 48000 16)) ∧
    audio.negotiate t' = audio.negotiate t := by
  intro t t'
  have hcontinues : t.Continues .audio t' :=
    ⟨rfl, rfl, rfl, fun _ => rfl, List.prefix_append _ _⟩
  have haccepted : audio.negotiate t = .ok (AudioDescriptor.ofWave (.pcm 2 48000 16)) := by
    decide
  obtain ⟨-, -, -, hfinal⟩ := negotiate_final_iff audio t
  refine ⟨hcontinues, haccepted, hfinal.mpr ?_ t' hcontinues⟩
  intro reason hreason
  rw [haccepted] at hreason
  cases hreason

end Kind
end MediaIntake
