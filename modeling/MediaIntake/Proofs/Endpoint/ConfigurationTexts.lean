import MediaIntake.Proofs.Endpoint.Runs
import MediaIntake.Proofs.Json.Record
/-! # Texts of requested descriptors

A consumer may hand in what it requests as a text.  The fields of both kinds of descriptors do not
interfere with one another (`Kind.lawful_schema`), so what holds of records in general holds of
them: **a text names fields in any order, and is taken just if every integer fits the field that it
is for**; what is not named is zero, and whatever is not taken is refused as a configuration
(`configuration_texts_exact`).
-/
namespace MediaIntake
open Json (Spaced Member IntegerLiteral Plain objectTokens arrayTokens)

/-! ## Schemas of descriptors -/

theorem AudioDescriptor.lawful_schema : AudioDescriptor.schema.Lawful where
  names_nodup := by decide
  plain := by
    have hall : (schema.fields.all fun f => f.name.toList.all fun c => Plain c) = true := by decide
    simpa only [List.all_eq_true, decide_eq_true_eq] using hall
  get_set := by
    simp only [schema, List.forall_mem_cons]
    refine ⟨?_, ?_, ?_, ?_, ?_, ?_, ?_, ?_, fun f hf => absurd hf List.not_mem_nil⟩
    all_goals
      intro n hn d
      first
        | exact UInt16.toNat_ofNat_of_lt' (Nat.lt_succ_of_le hn)
        | exact UInt32.toNat_ofNat_of_lt' (Nat.lt_succ_of_le hn)
  get_set_of_ne := by
    intro f hf g hg hne n d
    simp only [schema, List.mem_cons, List.not_mem_nil, or_false] at hf hg
    rcases hf with rfl | rfl | rfl | rfl | rfl | rfl | rfl | rfl
    all_goals rcases hg with rfl | rfl | rfl | rfl | rfl | rfl | rfl | rfl
    all_goals first | rfl | exact absurd rfl hne
  get_le := by
    simp only [schema, List.forall_mem_cons]
    refine ⟨?_, ?_, ?_, ?_, ?_, ?_, ?_, ?_, fun f hf => absurd hf List.not_mem_nil⟩
    all_goals
      intro d
      first
        | exact Nat.le_of_lt_succ (UInt16.toNat_lt _)
        | exact Nat.le_of_lt_succ (UInt32.toNat_lt _)
  get_empty := by decide
  ext := by
    intro d d' h
    simp only [schema, List.forall_mem_cons, UInt16.toNat_inj, UInt32.toNat_inj] at h
    obtain ⟨htag, hchannels, hrate, hbytes, hblock, hbits, hvalidBits, hmask, -⟩ := h
    cases d
    cases d'
    rw [mk.injEq]
    exact ⟨congrArg WaveTag.mk htag, hchannels, hrate, hbytes, hblock, hbits, hvalidBits, hmask⟩

theorem VideoDescriptor.lawful_schema : VideoDescriptor.schema.Lawful where
  names_nodup := by decide
  plain := by
    have hall : (schema.fields.all fun f => f.name.toList.all fun c => Plain c) = true := by decide
    simpa only [List.all_eq_true, decide_eq_true_eq] using hall
  get_set := by
    simp only [schema, List.forall_mem_cons]
    refine ⟨?_, ?_, fun f hf => absurd hf List.not_mem_nil⟩
    all_goals
      intro n hn d
      exact UInt32.toNat_ofNat_of_lt' (Nat.lt_succ_of_le hn)
  get_set_of_ne := by
    intro f hf g hg hne n d
    simp only [schema, List.mem_cons, List.not_mem_nil, or_false] at hf hg
    rcases hf with rfl | rfl
    all_goals rcases hg with rfl | rfl
    all_goals first | rfl | exact absurd rfl hne
  get_le := by
    simp only [schema, List.forall_mem_cons]
    refine ⟨?_, ?_, fun f hf => absurd hf List.not_mem_nil⟩
    all_goals
      intro d
      exact Nat.le_of_lt_succ (UInt32.toNat_lt _)
  get_empty := by decide
  ext := by
    intro d d' h
    simp only [schema, List.forall_mem_cons, UInt32.toNat_inj] at h
    obtain ⟨hwidth, hheight, -⟩ := h
    cases d
    cases d'
    rw [mk.injEq]
    exact ⟨hwidth, hheight⟩

namespace Kind

theorem lawful_schema (k : Kind) : k.schema.Lawful := by
  cases k with
  | audio => exact AudioDescriptor.lawful_schema
  | video => exact VideoDescriptor.lawful_schema

/-- The fields of a descriptor in their order: what each is named, the largest integer that it
holds, and what it holds. -/
def table : (k : Kind) → k.Descriptor → List (String × ℕ × ℕ)
  | audio, d => [
    ("format_tag", 65535, d.tag.code.toNat),
    ("channels", 65535, d.channels.toNat),
    ("sample_rate", 4294967295, d.sampleRate.toNat),
    ("bytes_per_second", 4294967295, d.byteRate.toNat),
    ("block_align", 65535, d.blockAlign.toNat),
    ("bits_per_sample", 65535, d.bitsPerSample.toNat),
    ("valid_bits_per_sample", 65535, d.validBits.toNat),
    ("channel_mask", 4294967295, d.channelMask.toNat)]
  | video, d => [
    ("width", 4294967295, d.width.toNat),
    ("height", 4294967295, d.height.toNat)]

/-- A schema has the fields of the table. -/
theorem map_fields_schema (k : Kind) (d : k.Descriptor) :
    (k.schema.fields.map fun f => (f.name, f.width.max, f.get d)) = k.table d := by
  cases k <;> rfl

end Kind

/-! ## Texts -/

namespace Endpoint

/-- **A text is read for what its tokens say, or refused.**  The fields are those of the table.  An
object of fields in any order, with any integers and any white space, is read just if no field
occurs twice and every integer lies in the range of its field; the descriptor then has these
integers in these fields and zeros in all others.  A descriptor that is written is read again.  An
array is read as the object that names the first fields, and one of more elements than fields is
refused.  What is refused is a fault of the configuration, and changes nothing. -/
theorem configuration_texts_exact (k : Kind) :
    (∀ d : k.Descriptor,
      (k.schema.fields.map fun f => (f.name, f.width.max, f.get d)) = k.table d) ∧
    (∀ (ms : List (Member k.schema)) (text : String), Spaced (objectTokens ms) text.toList →
      ((∃ d, k.schema.read text = .ok d) ↔ (ms.map Member.name).Nodup ∧
        ∀ m ∈ ms, 0 ≤ m.literal.value ∧ m.literal.value ≤ m.field.width.max) ∧
      ∀ d, k.schema.read text = .ok d →
        (∀ m ∈ ms, (m.field.get d : ℤ) = m.literal.value) ∧
        ∀ f ∈ k.schema.fields, f.name ∉ ms.map Member.name → f.get d = 0) ∧
    (∀ d : k.Descriptor, k.schema.read (k.schema.write d) = .ok d) ∧
    (∀ (ms : List (Member k.schema)) (array object : String),
      ms.map (·.field) <+: k.schema.fields →
      Spaced (arrayTokens (ms.map (·.literal))) array.toList →
      Spaced (objectTokens ms) object.toList →
        ∀ d, k.schema.read array = .ok d ↔ k.schema.read object = .ok d) ∧
    (∀ (ls : List IntegerLiteral) (text : String), Spaced (arrayTokens ls) text.toList →
      k.schema.fields.length < ls.length → ∃ error, k.schema.read text = .error error) ∧
    ∀ (e : Endpoint k) (state : GraphState) (text : String) (error : Json.Error),
      k.schema.read text = .error error →
        e.step (.configureText state text) = ({ result := .failed (.configuration error) }, e) := by
  have hs := k.lawful_schema
  refine ⟨k.map_fields_schema, ?_, Json.Schema.read_write hs, ?_, ?_, ?_⟩
  · intro ms text h
    have hread := Json.Schema.read_object hs h
    refine ⟨⟨?_, ?_⟩, ?_⟩
    · rintro ⟨d, hd⟩
      exact ((hread d).mp hd).1
    · rintro ⟨hnames, hfits⟩
      have hholds := Json.Schema.holds_storeMembers hs hnames hfits
      exact ⟨_, (hread _).mpr ⟨⟨hnames, hfits⟩, hholds⟩⟩
    · intro d hd
      have hholds := ((hread d).mp hd).2
      exact ⟨hholds.value, hholds.zero⟩
  · intro ms array object hms harray hobject
    exact Json.Schema.read_array_iff_read_object hs hms harray hobject
  · intro ls text h hlt
    exact Json.Schema.read_array_of_lt h hlt
  · intro e state text error hread
    exact e.step_configureText_of_error state hread

/-- A width that 32 bits do not hold is refused, where cut off it would be zero. -/
theorem widest_text_refused :
    let text := "\x7b\"height\":720,\"width\":4294967296\x7d"
    ∃ error, (init .video).step (.configureText .stopped text) =
      ({ result := .failed (.configuration error) }, init .video) := by
  intro text
  obtain ⟨-, hobjects, -, -, -, hrefused⟩ := configuration_texts_exact .video
  let width : Member Kind.video.schema := ⟨_, List.mem_cons_self, .ofNat 4294967296⟩
  let height : Member Kind.video.schema :=
    ⟨_, List.mem_cons_of_mem _ List.mem_cons_self, .ofNat 720⟩
  have htext : text.toList = (objectTokens [height, width]).flatten := by decide
  have hspaced : Spaced (objectTokens [height, width]) text.toList := by
    rw [htext]
    exact Spaced.flatten _
  obtain ⟨hread, -⟩ := hobjects [height, width] text hspaced
  have hwide : ¬ width.literal.value ≤ width.field.width.max := by decide
  cases h : Kind.video.schema.read text with
  | ok d =>
    obtain ⟨-, hfits⟩ := hread.mp ⟨d, h⟩
    have hmem : width ∈ [height, width] := List.mem_cons_of_mem _ List.mem_cons_self
    exact absurd (hfits width hmem).2 hwide
  | error error => exact ⟨error, hrefused (init .video) .stopped text error h⟩

end Endpoint
end MediaIntake
