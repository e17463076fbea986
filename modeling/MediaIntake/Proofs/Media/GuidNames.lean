import Mathlib.Data.List.Basic
import MediaIntake.Negotiation.Rejection
import MediaIntake.Proofs.Text.Distinct
/-! # Names of identifiers

An identifier is printed under a name: one of its own, one made of the code in its first field, or
its hyphenated digits.  **No two identifiers share a name** (`names_identify`).  The two kinds of
names that are made from fields differ in length, and within a kind a name says every field
(`spelled_injective`).  A name made from a code can be that of a listed identifier, but only of
the one that carries the code (`eq_i420_of_spelled`).
-/
namespace MediaIntake

/-! ## Codes -/

namespace FourCC

/-- The four characters of a code, if all of them can be printed. -/
def characters? (c : FourCC) : Option String :=
  if c.bytes.all isPrintable then some (String.ofList (c.bytes.map fun b => Char.ofNat b.toNat))
  else none

/-- The digits of a code that cannot be printed. -/
def digits (c : FourCC) : String := "0x" ++ Digits.hex 8 c.code.toNat

theorem text_eq (c : FourCC) : c.text = c.characters?.getD c.digits := by
  unfold text characters?
  split <;> rfl

theorem bytes_injective : Function.Injective bytes := by
  intro c d h
  rw [← ofBytes_bytes c, ← ofBytes_bytes d, h]

theorem charOfByte_injective : Function.Injective fun b : UInt8 => Char.ofNat b.toNat := by
  intro a b h
  have htoNat (x : UInt8) : (Char.ofNat x.toNat).toNat = x.toNat := by
    have hlt := x.toNat_lt
    have hvalid : x.toNat.isValidChar := .inl (by omega)
    rw [Char.ofNat, dif_pos hvalid]
    rfl
  apply UInt8.toNat_inj.mp
  rw [← htoNat a, ← htoNat b]
  exact congrArg Char.toNat h

theorem eq_of_characters? {c d : FourCC} {s : String} (hc : c.characters? = some s)
    (hd : d.characters? = some s) : c = d := by
  unfold characters? at hc hd
  split at hc
  · split at hd
    · cases hc
      have hchars := String.ofList_injective (Option.some.inj hd)
      exact (bytes_injective (List.map_injective_iff.mpr charOfByte_injective hchars)).symm
    · cases hd
  · cases hc

theorem length_of_characters? {c : FourCC} {s : String} (h : c.characters? = some s) :
    s.length = 4 := by
  unfold characters? at h
  split at h
  · cases h
    rw [String.length_ofList, List.length_map]
    exact Word.uint32.length_encode c.code
  · cases h

theorem length_digits (c : FourCC) : c.digits.length = 10 := by
  rw [digits, String.length_append, Digits.length_hex]
  rfl

theorem digits_injective : Function.Injective digits := by
  intro c d h
  have hdigits := Digits.hex_inj c.code.toNat_lt d.code.toNat_lt (String.append_right_inj _ |>.mp h)
  exact congrArg mk (UInt32.toNat_inj.mp hdigits)

/-- **A code is known from its text**: characters and digits differ in length. -/
theorem text_injective : Function.Injective text := by
  rw [funext text_eq]
  apply getD_injective
  · intro c d s
    exact eq_of_characters?
  · exact digits_injective
  · intro c d s hc _ h
    have hlength := length_of_characters? hc
    rw [← h, length_digits] at hlength
    cases hlength

/-- A text is of four characters or of digits. -/
theorem text_cases (c : FourCC) : c.text.length = 4 ∨ c.text = c.digits := by
  rw [text_eq]
  cases h : c.characters? with
  | some s => exact .inl (length_of_characters? h)
  | none => exact .inr rfl

/-- A text that is not of four characters starts with the mark of digits. -/
theorem length_text_or_head (c : FourCC) :
    c.text.length = 4 ∨ c.text.toList.head? = some '0' := by
  rcases c.text_cases with h | h
  · exact .inl h
  · rw [h]
    exact .inr (Digits.head?_marked _)

end FourCC

/-! ## Identifiers -/

namespace Guid

theorem length_text (g : Guid) : g.text.length = 36 := by
  have hdash : "-".length = 1 := rfl
  simp only [text, String.length_append, Digits.length_hex, hdash]

/-- **The hyphenated digits say every field.** -/
theorem text_injective : Function.Injective text := by
  intro g h heq
  simp only [text, String.append_assoc] at heq
  have hg := g.data4.toNat_lt
  have hh := h.data4.toNat_lt
  -- every field has its number of places, so the text comes apart from the left
  obtain ⟨hdata1, heq⟩ := Digits.hex_append_inj g.data1.toNat_lt h.data1.toNat_lt heq
  rw [String.append_right_inj] at heq
  obtain ⟨hdata2, heq⟩ := Digits.hex_append_inj g.data2.toNat_lt h.data2.toNat_lt heq
  rw [String.append_right_inj] at heq
  obtain ⟨hdata3, heq⟩ := Digits.hex_append_inj g.data3.toNat_lt h.data3.toNat_lt heq
  rw [String.append_right_inj, Nat.pow_eq] at heq
  obtain ⟨hhigh, heq⟩ := Digits.hex_append_inj (by omega) (by omega) heq
  rw [String.append_right_inj] at heq
  have hlow := Digits.hex_inj (by omega) (by omega) heq
  have hdata4 : g.data4.toNat = h.data4.toNat := by omega
  cases g
  cases h
  rw [mk.injEq]
  exact ⟨UInt32.toNat_inj.mp hdata1, UInt16.toNat_inj.mp hdata2, UInt16.toNat_inj.mp hdata3,
    UInt64.toNat_inj.mp hdata4⟩

/-- The name that is made from the fields of an identifier. -/
def spelled (g : Guid) : String :=
  match g.code? with
  | some code => "MEDIASUBTYPE_" ++ code.text
  | none => g.text

theorem name_eq (g : Guid) : g.name = (wellKnown.lookup g).getD g.spelled := by
  unfold name
  cases wellKnown.lookup g <;> rfl

theorem spelled_of_code? {g : Guid} {c : FourCC} (h : g.code? = some c) :
    g.spelled = "MEDIASUBTYPE_" ++ c.text := by
  rw [spelled, h]

theorem spelled_of_no_code {g : Guid} (h : g.code? = none) : g.spelled = g.text := by
  rw [spelled, h]

/-- A name made of a code is shorter than hyphenated digits. -/
theorem length_code_lt (c : FourCC) : ("MEDIASUBTYPE_" ++ c.text).length < 36 := by
  have hbeginning : "MEDIASUBTYPE_".length = 13 := by decide
  rw [String.length_append, hbeginning]
  rcases c.text_cases with h | h
  · omega
  · rw [h, FourCC.length_digits]
    omega

theorem spelled_eq (g : Guid) :
    g.spelled = (g.code?.map fun c => "MEDIASUBTYPE_" ++ c.text).getD g.text := by
  unfold spelled
  cases g.code? <;> rfl

/-- **A name that is made from fields says them**: codes and hyphenated digits differ in length. -/
theorem spelled_injective : Function.Injective spelled := by
  rw [funext spelled_eq]
  apply getD_injective
  · intro g h name hg hh
    obtain ⟨c, hc, rfl⟩ := Option.map_eq_some_iff.mp hg
    obtain ⟨d, hd, htext⟩ := Option.map_eq_some_iff.mp hh
    rw [String.append_right_inj] at htext
    obtain rfl := FourCC.text_injective htext
    rw [code?_eq_some_iff.mp hc, code?_eq_some_iff.mp hd]
  · exact text_injective
  · intro g h name hg _ htext
    obtain ⟨c, -, rfl⟩ := Option.map_eq_some_iff.mp hg
    have hlt := length_code_lt c
    rw [← htext, length_text] at hlt
    exact absurd hlt (Nat.lt_irrefl 36)

/-! ## Listed names -/

/-- The names in the list differ from one another. -/
theorem eq_of_wellKnown {p q : Guid × String} (hp : p ∈ wellKnown) (hq : q ∈ wellKnown)
    (h : p.2 = q.2) : p.1 = q.1 := by
  have hdiffer : ∀ p ∈ wellKnown, ∀ q ∈ wellKnown, p.2 = q.2 → p.1 = q.1 := by decide
  exact hdiffer p hp q hq h

/-- A listed name is made of a code only where it is made of the code that it names. -/
theorem eq_i420_of_code {p : Guid × String} (hp : p ∈ wellKnown) {c : FourCC}
    (h : "MEDIASUBTYPE_" ++ c.text = p.2) : c = .i420 := by
  have hchars : "MEDIASUBTYPE_".toList ++ c.text.toList = p.2.toList := by
    rw [← String.toList_append, h]
  have hbeginning : p.2.toList.take 13 = "MEDIASUBTYPE_".toList := by
    rw [← hchars]
    exact List.take_left' (by decide)
  have hrest : p.2.toList.drop 13 = c.text.toList := by
    rw [← hchars]
    exact List.drop_left' (by decide)
  have hlisted : ∀ p ∈ wellKnown, p.2.toList.take 13 = "MEDIASUBTYPE_".toList →
      p.2.toList.drop 13 = "PCM".toList ∨ p.2.toList.drop 13 = "IEEE_FLOAT".toList ∨
        p.2.toList.drop 13 = "I420".toList := by decide
  have htext := hlisted p hp hbeginning
  rw [hrest, String.toList_inj, String.toList_inj, String.toList_inj] at htext
  have hkind := c.length_text_or_head
  rcases htext with hpcm | hfloat | hi420
  · rw [hpcm] at hkind
    exact absurd hkind (by decide)
  · rw [hfloat] at hkind
    exact absurd hkind (by decide)
  · apply FourCC.text_injective
    rw [hi420]
    decide

/-- **A listed name is no other identifier's**: what is spelled like one is the identifier of the
code that it spells. -/
theorem eq_i420_of_spelled {p : Guid × String} (hp : p ∈ wellKnown) {g : Guid}
    (h : g.spelled = p.2) : g = .i420 := by
  cases hg : g.code? with
  | some c =>
    rw [spelled_of_code? hg] at h
    rw [code?_eq_some_iff.mp hg, eq_i420_of_code hp h]
    rfl
  | none =>
    have hshort : ∀ p ∈ wellKnown, p.2.length ≠ 36 := by decide
    rw [spelled_of_no_code hg] at h
    exact absurd (h ▸ g.length_text) (hshort p hp)

/-- **No two identifiers share a name.** -/
theorem name_injective : Function.Injective name := by
  rw [funext name_eq]
  apply lookup_getD_injective
  · intro p hp q hq h
    exact eq_of_wellKnown hp hq h
  · exact spelled_injective
  · intro p hp g h
    rw [eq_i420_of_spelled hp h]
    decide

/-- **Names identify.**  No two of the 128-bit identifiers share a name, whether it is listed, made
of a code or hyphenated digits; an identifier has a code exactly if it is the one on the common base
that carries it; and so two rejections of subtypes, or of format types, read the same just if they
are of the same identifier. -/
theorem names_identify :
    Function.Injective Guid.name ∧
    (∀ (g : Guid) (c : FourCC), g.code? = some c ↔ g = ofCode c.code) ∧
    (∀ g h : Guid, (Rejection.unsupportedSubtype g).message =
      (Rejection.unsupportedSubtype h).message ↔ g = h) ∧
    (∀ g h : Guid, (Rejection.unsupportedFormatType g).message =
      (Rejection.unsupportedFormatType h).message ↔ g = h) := by
  have hquoted (before after : String) (g h : Guid) :
      before ++ g.name ++ after = before ++ h.name ++ after ↔ g = h := by
    rw [String.append_left_inj, String.append_right_inj]
    exact name_injective.eq_iff
  refine ⟨name_injective, fun _ _ => code?_eq_some_iff, ?_, ?_⟩
  · exact hquoted "subtype " " not supported"
  · exact hquoted "format type " " not supported"

end Guid
end MediaIntake
