import MediaIntake.Descriptor.Audio
import MediaIntake.Proofs.Text.Distinct
/-! # Texts of audio descriptors

The text of an audio descriptor is made of words, one for each field, and of two more where the tag
is the extensible one (`text_eq_intercalate`).  No word holds a space, so the text says its words,
and each word says its field: **two descriptors share a text just if they agree on what is printed**
(`text_eq_iff`).
-/
namespace MediaIntake

/-! ## Tags -/

namespace WaveTag

/-- The tags that have names. -/
def names : List (WaveTag × String) :=
  [(unknown, "UNKNOWN"), (pcm, "PCM"), (ieeeFloat, "IEEE_FLOAT"), (extensible, "EXTENSIBLE")]

/-- The digits of a tag. -/
def digits (t : WaveTag) : String := "0x" ++ Digits.hex 4 t.code.toNat

theorem text_eq (t : WaveTag) : t.text = (names.lookup t).getD t.digits := by
  unfold text
  split
  · next h => rw [h]; rfl
  split
  · next h => rw [h]; rfl
  split
  · next h => rw [h]; rfl
  split
  · next h => rw [h]; rfl
  · next hunknown hpcm hfloat hextensible =>
    have hnone : names.lookup t = none := by
      rw [List.lookup_eq_none_iff]
      simp [names, hunknown, hpcm, hfloat, hextensible]
    rw [hnone]
    rfl

theorem digits_injective : Function.Injective digits := by
  intro t u h
  have hcode := Digits.hex_inj t.code.toNat_lt u.code.toNat_lt (String.append_right_inj _ |>.mp h)
  exact congrArg mk (UInt16.toNat_inj.mp hcode)

/-- No name starts with a digit. -/
theorem digits_ne_name {p : WaveTag × String} (hp : p ∈ names) (t : WaveTag) : t.digits ≠ p.2 := by
  intro h
  have hfirst : t.digits.toList.head? = some '0' := Digits.head?_marked _
  have hnames : ∀ p ∈ names, p.2.toList.head? ≠ some '0' := by decide
  rw [h] at hfirst
  exact hnames p hp hfirst

/-- **A tag is known from its text.** -/
theorem text_injective : Function.Injective text := by
  rw [funext text_eq]
  apply lookup_getD_injective
  · decide
  · exact digits_injective
  · intro p hp t h
    exact absurd h (digits_ne_name hp t)

theorem notMem_text (t : WaveTag) : ' ' ∉ t.text.toList := by
  rw [text_eq]
  cases h : names.lookup t with
  | some name =>
    have hnames : ∀ p ∈ names, ' ' ∉ p.2.toList := by decide
    exact hnames _ (mem_of_lookup h)
  | none =>
    rw [Option.getD_none, digits, String.toList_append, List.mem_append]
    rintro (hzero | hdigit)
    · exact absurd hzero (by decide)
    · exact Digits.notMem_hex (by decide) _ _ hdigit

end WaveTag

/-! ## Descriptors -/

namespace AudioDescriptor

/-- The words of what only extensible formats have. -/
def extensionWords (d : AudioDescriptor) : List String :=
  if d.tag.isExtensible then
    ["valid_bits_per_sample=" ++ toString d.validBits.toNat,
      "channel_mask=0x" ++ Digits.hexShort d.channelMask.toNat]
  else []

/-- The words of a text, one for each field that is printed. -/
def words (d : AudioDescriptor) : List String :=
  ["format_tag=" ++ d.tag.text, "channels=" ++ toString d.channels.toNat,
    "sample_rate=" ++ toString d.sampleRate.toNat,
    "bytes_per_second=" ++ toString d.byteRate.toNat,
    "block_align=" ++ toString d.blockAlign.toNat,
    "bits_per_sample=" ++ toString d.bitsPerSample.toNat] ++ d.extensionWords

theorem text_eq_intercalate (d : AudioDescriptor) : d.text = " ".intercalate d.words := by
  unfold text words extensionWords
  rw [← String.toList_inj, String.toList_intercalate]
  split
  · simp
  · simp

theorem notMem_word {d : AudioDescriptor} {w : String} (h : w ∈ d.words) : ' ' ∉ w.toList := by
  have happend {label value : String} (hlabel : ' ' ∉ label.toList) (hvalue : ' ' ∉ value.toList) :
      ' ' ∉ (label ++ value).toList := by
    rw [String.toList_append, List.mem_append]
    exact not_or.mpr ⟨hlabel, hvalue⟩
  have hdecimal (n : ℕ) := Digits.notMem_toString (c := ' ') (by decide) n
  have hextension {w : String} (h : w ∈ d.extensionWords) : ' ' ∉ w.toList := by
    unfold extensionWords at h
    split at h
    · simp only [List.mem_cons, List.not_mem_nil, or_false] at h
      rcases h with rfl | rfl
      · exact happend (by decide) (hdecimal _)
      · exact happend (by decide) (Digits.notMem_hexShort (by decide) _)
    · cases h
  rw [words, List.mem_append] at h
  rcases h with h | h
  · simp only [List.mem_cons, List.not_mem_nil, or_false] at h
    rcases h with rfl | rfl | rfl | rfl | rfl | rfl
    · exact happend (by decide) d.tag.notMem_text
    all_goals exact happend (by decide) (hdecimal _)
  · exact hextension h

/-- **The words of two descriptors agree just if what is printed does.** -/
theorem words_eq_iff {d d' : AudioDescriptor} :
    d.words = d'.words ↔
      d.tag = d'.tag ∧ d.channels = d'.channels ∧ d.sampleRate = d'.sampleRate ∧
      d.byteRate = d'.byteRate ∧ d.blockAlign = d'.blockAlign ∧
      d.bitsPerSample = d'.bitsPerSample ∧
      (d.tag = .extensible → d.validBits = d'.validBits ∧ d.channelMask = d'.channelMask) := by
  have h16 {a b : UInt16} : toString a.toNat = toString b.toNat ↔ a = b :=
    Digits.toString_inj.trans UInt16.toNat_inj
  have h32 {a b : UInt32} : toString a.toNat = toString b.toNat ↔ a = b :=
    Digits.toString_inj.trans UInt32.toNat_inj
  have hmask {a b : UInt32} : Digits.hexShort a.toNat = Digits.hexShort b.toNat ↔ a = b :=
    Digits.hexShort_inj.trans UInt32.toNat_inj
  have hextension : d.tag = d'.tag → (d.extensionWords = d'.extensionWords ↔
      (d.tag = .extensible → d.validBits = d'.validBits ∧ d.channelMask = d'.channelMask)) := by
    intro htag
    unfold extensionWords
    rw [← htag]
    by_cases he : d.tag = .extensible
    · have hext : d.tag.isExtensible = true := decide_eq_true he
      rw [if_pos hext, if_pos hext, forall_prop_of_true he]
      simp only [List.cons.injEq, String.append_right_inj, h16, hmask, and_true]
    · have hext : ¬ d.tag.isExtensible = true := fun h => he (of_decide_eq_true h)
      rw [if_neg hext, if_neg hext, eq_self_iff_true, forall_prop_of_false he]
  simp only [words, List.cons_append, List.nil_append, List.cons.injEq, String.append_right_inj,
    WaveTag.text_injective.eq_iff, h16, h32]
  constructor
  · rintro ⟨htag, hchannels, hrate, hbytes, hblock, hbits, hext⟩
    exact ⟨htag, hchannels, hrate, hbytes, hblock, hbits, (hextension htag).mp hext⟩
  · rintro ⟨htag, hchannels, hrate, hbytes, hblock, hbits, hext⟩
    exact ⟨htag, hchannels, hrate, hbytes, hblock, hbits, (hextension htag).mpr hext⟩

/-- **Two descriptors share a text just if they agree on what is printed.** -/
theorem text_eq_iff {d d' : AudioDescriptor} :
    d.text = d'.text ↔
      d.tag = d'.tag ∧ d.channels = d'.channels ∧ d.sampleRate = d'.sampleRate ∧
      d.byteRate = d'.byteRate ∧ d.blockAlign = d'.blockAlign ∧
      d.bitsPerSample = d'.bitsPerSample ∧
      (d.tag = .extensible → d.validBits = d'.validBits ∧ d.channelMask = d'.channelMask) := by
  rw [← words_eq_iff, text_eq_intercalate, text_eq_intercalate]
  constructor
  · apply intercalate_inj
    · intro w
      exact notMem_word
    · intro w
      exact notMem_word
    · exact List.cons_ne_nil _ _
    · exact List.cons_ne_nil _ _
  · exact congrArg _

end AudioDescriptor
end MediaIntake
