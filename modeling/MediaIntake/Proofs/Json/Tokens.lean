import Mathlib.Algebra.Order.Group.Int
import MediaIntake.Json.Scalar
import MediaIntake.Json.Record
/-! # Texts made of tokens

A text is spaced out from tokens if they stand in it in their order with any white space between
them (`Spaced`).  Readers skip white space before they look, so what a reader does with such a text
is settled by its first token, and what it leaves is spaced out from the others (`Spaced.next`).
The tokens of interest are integers (`IntegerLiteral`), of any length: **a reader of unsigned
integers takes exactly those that fit its width** (`readUnsigned_of_fits`,
`readUnsigned_of_not_fits`), and neither wraps nor cuts off the others.
-/
namespace MediaIntake.Json

/-! ## White space -/

/-- A text of white space. -/
def Blank (text : List Char) : Prop := ∀ c ∈ text, isBlank c = true

/-- Text in which tokens stand with white space before, between and after them. -/
inductive Spaced : List (List Char) → List Char → Prop where
  | nil {blanks : List Char} (h : Blank blanks) : Spaced [] blanks
  | cons {blanks token text : List Char} {tokens : List (List Char)} (h : Blank blanks)
    (rest : Spaced tokens text) : Spaced (token :: tokens) (blanks ++ (token ++ text))

/-- What can be seen to start behind white space. -/
def Visible (token : List Char) : Prop := ∃ c rest, token = c :: rest ∧ isBlank c = false

theorem visible_singleton {c : Char} (h : isBlank c = false) : Visible [c] := ⟨c, [], rfl, h⟩

theorem skipBlanks_append {blanks : List Char} (h : Blank blanks) (text : List Char) :
    skipBlanks (blanks ++ text) = skipBlanks text :=
  List.dropWhile_append_of_pos h

theorem skipBlanks_blank {blanks : List Char} (h : Blank blanks) : skipBlanks blanks = [] := by
  rw [← List.append_nil blanks, skipBlanks_append h]
  rfl

theorem skipBlanks_visible {token : List Char} (h : Visible token) (text : List Char) :
    skipBlanks (token ++ text) = token ++ text := by
  obtain ⟨c, rest, rfl, hc⟩ := h
  rw [skipBlanks, List.cons_append, List.dropWhile_cons_of_neg (by simp [hc])]

namespace Spaced

theorem skipBlanks_nil {text : List Char} (h : Spaced [] text) : skipBlanks text = [] := by
  cases h with
  | nil hblank => exact skipBlanks_blank hblank

/-- **The next token** stands first once white space is skipped. -/
theorem next {token text : List Char} {tokens : List (List Char)}
    (h : Spaced (token :: tokens) text) (htoken : Visible token) : ∃ rest, skipBlanks text = token ++ rest ∧ Spaced tokens rest := by
  cases h with
  | @cons blanks _ rest _ hblank hrest =>
    refine ⟨rest, ?_, hrest⟩
    rw [skipBlanks_append hblank, skipBlanks_visible htoken]

/-- Tokens with nothing between them. -/
theorem flatten (tokens : List (List Char)) : Spaced tokens tokens.flatten := by
  have hnone : Blank [] := fun _ hc => absurd hc List.not_mem_nil
  induction tokens with
  | nil => exact .nil hnone
  | cons token tokens ih => exact .cons hnone ih

/-- A text holds at least as many characters as tokens. -/
theorem length_le {tokens : List (List Char)} {text : List Char} (h : Spaced tokens text)
    (htokens : ∀ token ∈ tokens, token ≠ []) : tokens.length ≤ text.length := by
  induction h with
  | nil => exact Nat.zero_le _
  | @cons blanks token text tokens _ _ ih =>
    rw [List.forall_mem_cons] at htokens
    have hone := List.length_pos_iff.mpr htokens.1
    have hrest := ih htokens.2
    rw [List.length_append, List.length_append, List.length_cons]
    omega

end Spaced

/-! ## Integers -/

/-- An integer as it is written: digits with a minus sign or without. A zero only stands alone, and
without a sign: minus zero is no integer. -/
structure IntegerLiteral where
  negative : Bool
  digits : List Char
  isDigit : ∀ c ∈ digits, c.isDigit = true
  nonempty : digits ≠ []
  leading : digits.head? = some '0' → digits = ['0'] ∧ negative = false

namespace IntegerLiteral

def text (l : IntegerLiteral) : List Char := if l.negative then '-' :: l.digits else l.digits

def magnitude (l : IntegerLiteral) : ℕ := Nat.ofDigitChars 10 l.digits 0

def value (l : IntegerLiteral) : ℤ := if l.negative then -(l.magnitude : ℤ) else l.magnitude

/-- The integer is one that a field of this width may hold. -/
def Fits (l : IntegerLiteral) (width : Width) : Prop := 0 ≤ l.value ∧ l.value ≤ width.max

instance (l : IntegerLiteral) (width : Width) : Decidable (l.Fits width) :=
  inferInstanceAs (Decidable (_ ∧ _))

end IntegerLiteral

/-! ### Digits -/

/-- More digits make a larger number. -/
theorem le_ofDigitChars (digits : List Char) (n : ℕ) : n ≤ Nat.ofDigitChars 10 digits n := by
  induction digits generalizing n with
  | nil => exact Nat.le_refl n
  | cons c digits ih =>
    have hnext := ih (10 * n + (c.toNat - '0'.toNat))
    rw [Nat.ofDigitChars_cons]
    omega

/-- Digits are gathered completely just if their number is within the limit. -/
theorem gather_of_le {limit : ℕ} {digits : List Char} {n : ℕ}
    (h : Nat.ofDigitChars 10 digits n ≤ limit) :
    gather limit n digits = (Nat.ofDigitChars 10 digits n, []) := by
  induction digits generalizing n with
  | nil => rfl
  | cons c digits ih =>
    have hvalue : n * 10 + digitValue c = 10 * n + (c.toNat - '0'.toNat) := by
      rw [Nat.mul_comm]
      rfl
    rw [Nat.ofDigitChars_cons] at h ⊢
    rw [gather, hvalue, if_pos ((le_ofDigitChars digits _).trans h), ih h]

theorem gather_of_lt {limit : ℕ} {digits : List Char} {n : ℕ} (hn : n ≤ limit)
    (h : limit < Nat.ofDigitChars 10 digits n) : (gather limit n digits).2 ≠ [] := by
  induction digits generalizing n with
  | nil => exact absurd h (Nat.not_lt.mpr hn)
  | cons c digits ih =>
    have hvalue : n * 10 + digitValue c = 10 * n + (c.toNat - '0'.toNat) := by
      rw [Nat.mul_comm]
      rfl
    rw [Nat.ofDigitChars_cons] at h
    rw [gather, hvalue]
    by_cases hnext : 10 * n + (c.toNat - '0'.toNat) ≤ limit
    · rw [if_pos hnext]
      exact ih hnext h
    · rw [if_neg hnext]
      exact List.cons_ne_nil c digits

/-- Text with which no number goes on. -/
def EndsNumber (text : List Char) : Prop :=
  ∀ c ∈ text.head?, c.isDigit = false ∧ c ≠ '.' ∧ c ≠ 'e' ∧ c ≠ 'E'

theorem endsNumber_cons {c : Char} (h : c.isDigit = false ∧ c ≠ '.' ∧ c ≠ 'e' ∧ c ≠ 'E')
    (text : List Char) : EndsNumber (c :: text) := by
  intro c' hc'
  obtain rfl : c = c' := Option.some.inj hc'
  exact h

/-- A number ends where a character stands next that none can go on with. -/
theorem Spaced.endsNumber {c : Char} {text : List Char} {tokens : List (List Char)}
    (h : Spaced ([c] :: tokens) text)
    (hc : c.isDigit = false ∧ c ≠ '.' ∧ c ≠ 'e' ∧ c ≠ 'E') : EndsNumber text := by
  cases h with
  | @cons blanks _ rest _ hblank _ =>
    cases blanks with
    | nil => exact endsNumber_cons hc rest
    | cons blank blanks =>
      have hblank : isBlank blank = true := hblank blank List.mem_cons_self
      simp only [isBlank, Bool.or_eq_true, decide_eq_true_eq] at hblank
      apply endsNumber_cons
      rcases hblank with ((rfl | rfl) | rfl) | rfl
      all_goals decide

theorem splitDigits_append {digits rest : List Char} (hdigits : ∀ c ∈ digits, c.isDigit = true)
    (hrest : EndsNumber rest) : splitDigits (digits ++ rest) = (digits, rest) := by
  rw [splitDigits, List.takeWhile_append_of_pos hdigits, List.dropWhile_append_of_pos hdigits]
  cases rest with
  | nil => simp
  | cons c rest =>
    have hc : ¬ c.isDigit = true := by simp [(hrest c rfl).1]
    rw [List.takeWhile_cons_of_neg hc, List.dropWhile_cons_of_neg hc, List.append_nil]

/-! ### Numbers -/

theorem Width.max_le (width : Width) : width.max ≤ maxSignificand := by
  cases width <;> decide

namespace IntegerLiteral
variable (l : IntegerLiteral)

/-- The digits of an integer are read as a number with nothing left over from them, whatever
becomes of those that 64 bits do not hold. -/
theorem readNumber_digits (negative : Bool) {rest : List Char} (hrest : EndsNumber rest) :
    readNumber negative (l.digits ++ rest) =
      let gathered := gather maxSignificand 0 l.digits
      if gathered.2.isEmpty then .ok (makeInteger negative gathered.1, rest)
      else makeFloat negative gathered.1 gathered.2.length rest := by
  rw [readNumber, splitDigits_append l.isDigit hrest]
  split
  · next heq => exact absurd (congrArg Prod.fst heq) l.nonempty
  · next heq => exact absurd (congrArg Prod.fst heq) l.nonempty
  · next c digits _ heq =>
    have hdigits : l.digits = '0' :: c :: digits := congrArg Prod.fst heq
    have halone := (l.leading (by rw [hdigits]; rfl)).1
    rw [hdigits] at halone
    cases halone
  · next heq =>
    obtain ⟨rfl, rfl⟩ := Prod.mk.inj heq
    dsimp only
    split
    · exact absurd rfl (hrest '.' rfl).2.1
    · exact absurd rfl (hrest 'e' rfl).2.2.1
    · exact absurd rfl (hrest 'E' rfl).2.2.2
    · rfl

/-- An integer that 64 bits hold is read as that integer. -/
theorem readNumber_of_le (negative : Bool) {rest : List Char} (hrest : EndsNumber rest)
    (h : l.magnitude ≤ maxSignificand) :
    readNumber negative (l.digits ++ rest) = .ok (makeInteger negative l.magnitude, rest) := by
  rw [l.readNumber_digits negative hrest, gather_of_le h]
  rfl

/-- Any other becomes a floating point number, or is out of the range of those. -/
theorem readNumber_of_lt (negative : Bool) {rest : List Char} (hrest : EndsNumber rest)
    (h : maxSignificand < l.magnitude) :
    (∃ x, readNumber negative (l.digits ++ rest) = .ok (.float x, rest)) ∨
      ∃ e, readNumber negative (l.digits ++ rest) = .error e := by
  have hignored := gather_of_lt (Nat.zero_le _) h
  rw [l.readNumber_digits negative hrest]
  dsimp only
  rw [if_neg (by simpa using hignored), makeFloat]
  split
  · exact .inl ⟨_, rfl⟩
  · exact .inr ⟨_, rfl⟩

/-! ### Unsigned integers -/

/-- A minus sign stands before digits that are not zero. -/
theorem magnitude_pos (h : l.negative = true) : 0 < l.magnitude := by
  obtain ⟨c, digits, hdigits⟩ := List.exists_cons_of_ne_nil l.nonempty
  have hc : c.isDigit = true := l.isDigit c (by rw [hdigits]; exact List.mem_cons_self)
  have hne : c ≠ '0' := by
    rintro rfl
    have hplus := (l.leading (by rw [hdigits]; rfl)).2
    rw [h] at hplus
    cases hplus
  have hvalue : 0 < c.toNat - '0'.toNat := by
    have hzero : c.toNat ≠ '0'.toNat := fun he => hne (Char.toNat_inj.mp he)
    have hlow : '0'.toNat ≤ c.toNat := by
      rw [Char.isDigit, Bool.and_eq_true, decide_eq_true_eq] at hc
      exact UInt32.le_iff_toNat_le.mp hc.1
    omega
  have hle := le_ofDigitChars digits (10 * 0 + (c.toNat - '0'.toNat))
  rw [magnitude, hdigits, Nat.ofDigitChars_cons]
  omega

theorem fits_iff (width : Width) : l.Fits width ↔ l.negative = false ∧ l.magnitude ≤ width.max := by
  unfold Fits value
  cases hsign : l.negative with
  | true =>
    have hpos := l.magnitude_pos hsign
    simp only [if_true, Bool.true_eq_false, false_and, iff_false]
    omega
  | false =>
    simp only [Bool.false_eq_true, if_false, true_and]
    omega

theorem value_of_fits {width : Width} (h : l.Fits width) : l.value = l.magnitude := by
  rw [value, ((l.fits_iff width).mp h).1]
  rfl

/-- The sign settles where the digits start. -/
theorem readUnsigned_eq (width : Width) {text rest : List Char}
    (h : skipBlanks text = l.text ++ rest) :
    readUnsigned width text = (readNumber l.negative (l.digits ++ rest)).bind fun read =>
      toUnsigned width read.1 read.2 := by
  rw [IntegerLiteral.text] at h
  cases hsign : l.negative with
  | true =>
    rw [hsign, if_pos rfl, List.cons_append] at h
    cases hread : readNumber true (l.digits ++ rest) <;>
      simp [readUnsigned, h, hread, Except.bind]
  | false =>
    obtain ⟨c, digits, hdigits⟩ := List.exists_cons_of_ne_nil l.nonempty
    have hc : c.isDigit = true := l.isDigit c (by rw [hdigits]; exact List.mem_cons_self)
    have hminus : c ≠ '-' := by
      rintro rfl
      exact absurd hc (by decide)
    rw [hsign, if_neg Bool.false_ne_true, hdigits, List.cons_append] at h
    rw [hdigits, List.cons_append]
    cases hread : readNumber false (c :: (digits ++ rest)) <;>
      simp [readUnsigned, h, hc, hminus, hread, Except.bind]

/-- An integer starts with its sign or with its first digit. -/
theorem text_eq_cons : ∃ c rest, l.text = c :: rest ∧ (c = '-' ∨ c.isDigit = true) := by
  obtain ⟨c, digits, hdigits⟩ := List.exists_cons_of_ne_nil l.nonempty
  have hc : c.isDigit = true := l.isDigit c (by rw [hdigits]; exact List.mem_cons_self)
  rw [text, hdigits]
  cases l.negative with
  | true => exact ⟨_, c :: digits, rfl, .inl rfl⟩
  | false => exact ⟨c, digits, rfl, .inr hc⟩

/-- What an integer starts with is none of these characters. -/
theorem ne_of_starts {c other : Char} (h : c = '-' ∨ c.isDigit = true) (hminus : '-' ≠ other)
    (hdigit : other.isDigit = false) : c ≠ other := by
  rintro rfl
  rcases h with h | h
  · exact hminus h.symm
  · rw [hdigit] at h
    cases h

theorem visible_text : Visible l.text := by
  obtain ⟨c, rest, htext, hc⟩ := l.text_eq_cons
  refine ⟨c, rest, htext, ?_⟩
  have hspace : c ≠ ' ' := ne_of_starts hc (by decide) (by decide)
  have htab : c ≠ '\t' := ne_of_starts hc (by decide) (by decide)
  have hfeed : c ≠ '\n' := ne_of_starts hc (by decide) (by decide)
  have hreturn : c ≠ '\r' := ne_of_starts hc (by decide) (by decide)
  simp [isBlank, hspace, htab, hfeed, hreturn]

/-- **An integer that fits is read as it is.** -/
theorem readUnsigned_of_fits {width : Width} (hfits : l.Fits width) {text rest : List Char}
    (h : skipBlanks text = l.text ++ rest) (hrest : EndsNumber rest) :
    readUnsigned width text = .ok (l.magnitude, rest) := by
  obtain ⟨hsign, hle⟩ := (l.fits_iff width).mp hfits
  rw [l.readUnsigned_eq width h,
    l.readNumber_of_le l.negative hrest (hle.trans (Width.max_le width)), hsign]
  exact if_pos hle

/-- **An integer that does not fit is refused**, however long it is. -/
theorem readUnsigned_of_not_fits {width : Width} (hfits : ¬ l.Fits width) {text rest : List Char}
    (h : skipBlanks text = l.text ++ rest) (hrest : EndsNumber rest) :
    ∃ e, readUnsigned width text = .error e := by
  rw [l.readUnsigned_eq width h]
  rw [l.fits_iff] at hfits
  by_cases hle : l.magnitude ≤ maxSignificand
  · rw [l.readNumber_of_le l.negative hrest hle]
    cases hsign : l.negative with
    | false =>
      have hgt : ¬ l.magnitude ≤ width.max := fun hle => hfits ⟨hsign, hle⟩
      exact ⟨_, if_neg hgt⟩
    | true =>
      rw [makeInteger]
      simp only [Bool.not_true, Bool.false_eq_true, if_false]
      split
      · exact ⟨_, rfl⟩
      · exact ⟨_, rfl⟩
  · rcases l.readNumber_of_lt l.negative hrest (Nat.not_le.mp hle) with ⟨x, hx⟩ | ⟨e, he⟩
    · rw [hx]
      exact ⟨_, rfl⟩
    · rw [he]
      exact ⟨_, rfl⟩

/-! ### Natural numbers -/

/-- Only zero is written with a zero in front. -/
theorem eq_zero_of_head_toDigits {n : ℕ} (h : (Nat.toDigits 10 n).head? = some '0') : n = 0 := by
  induction n using Nat.strongRecOn with
  | ind n ih =>
    by_cases hn : n < 10
    · rw [Nat.toDigits_of_lt_base hn] at h
      exact Nat.digitChar_eq_zero.mp (Option.some.inj h)
    · rw [Nat.toDigits_of_base_le (by decide) (Nat.not_lt.mp hn)] at h
      have hfront : (Nat.toDigits 10 (n / 10)).head? = some '0' := by
        obtain ⟨c, digits, hdigits⟩ :=
          List.exists_cons_of_ne_nil (Nat.toDigits_ne_nil (n := n / 10) (b := 10))
        rw [hdigits] at h ⊢
        exact h
      have hzero := ih (n / 10) (by omega) hfront
      omega

/-- The digits of a natural number. -/
def ofNat (n : ℕ) : IntegerLiteral where
  negative := false
  digits := Nat.toDigits 10 n
  isDigit c hc := Nat.isDigit_of_mem_toDigits (by decide) (by decide) hc
  nonempty := Nat.toDigits_ne_nil
  leading h := by
    rw [eq_zero_of_head_toDigits h]
    exact ⟨rfl, rfl⟩

@[simp] theorem text_ofNat (n : ℕ) : (ofNat n).text = Nat.toDigits 10 n := rfl

@[simp] theorem value_ofNat (n : ℕ) : (ofNat n).value = n :=
  congrArg Nat.cast Nat.ofDigitChars_ten_toDigits

theorem fits_ofNat {n : ℕ} {width : Width} : (ofNat n).Fits width ↔ n ≤ width.max := by
  rw [Fits, value_ofNat]
  omega

end IntegerLiteral

/-! ## Strings and colons -/

/-- A character that stands for itself in a string. -/
def Plain (c : Char) : Prop := c ≠ '"' ∧ c ≠ '\\' ∧ 0x20 ≤ c.toNat

instance (c : Char) : Decidable (Plain c) := inferInstanceAs (Decidable (_ ∧ _))

theorem readString_plain {name : List Char} (h : ∀ c ∈ name, Plain c) (rest : List Char) :
    readString (name ++ '"' :: rest) = .ok (name, rest) := by
  induction name with
  | nil => rfl
  | cons c name ih =>
    rw [List.forall_mem_cons] at h
    obtain ⟨⟨hquote, hescape, hvisible⟩, hname⟩ := h
    have hrest : scanString .plain (name ++ '"' :: rest) = .ok (name, rest) := ih hname
    rw [readString, List.cons_append, scanString, if_neg hquote, if_neg hescape,
      if_neg (Nat.not_lt.mpr hvisible), hrest]
    rfl

/-- A string of such characters. -/
def quoted (name : String) : List Char := '"' :: (name.toList ++ ['"'])

theorem visible_quoted (name : String) : Visible (quoted name) := ⟨_, _, rfl, by decide⟩

theorem readColon_spaced {text : List Char} {tokens : List (List Char)}
    (h : Spaced ([':'] :: tokens) text) :
    ∃ rest, readColon text = .ok rest ∧ Spaced tokens rest := by
  obtain ⟨rest, hskip, hrest⟩ := h.next (visible_singleton (by decide))
  refine ⟨rest, ?_, hrest⟩
  rw [readColon, hskip]
  rfl

end MediaIntake.Json
