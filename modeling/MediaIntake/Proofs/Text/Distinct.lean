import Mathlib.Algebra.Group.Nat.Defs
import Mathlib.Logic.Function.Basic
import MediaIntake.Text.Digits
/-! # Texts told apart

When do two values share a text?  Numbers share a numeral only if they are the same number, whether
it takes a fixed number of places (`fixed_inj`) or as many as the number has (`toDigits_inj`).
Values with names of two kinds are told apart if no name is of both kinds (`getD_injective`), as
where a list names some of them and the others are spelled out (`lookup_getD_injective`).  And a
text that is made of words comes apart into the same words (`intercalate_inj`).
-/
namespace MediaIntake

/-! ## Numerals -/

namespace Digits

/-- The digits up to fifteen differ. -/
theorem digitChar_inj {m n : ℕ} (hm : m < 16) (hn : n < 16)
    (h : Nat.digitChar m = Nat.digitChar n) : m = n := by
  have hdiffer : ∀ m < 16, ∀ n < 16, Nat.digitChar m = Nat.digitChar n → m = n := by decide
  exact hdiffer m hm n hn h

variable {base : ℕ}

/-- A number is known from its last digit and what stands before it. -/
theorem eq_of_last_digit (hpos : 0 < base) (hbase : base ≤ 16) {m n : ℕ}
    (hfront : m / base = n / base)
    (hlast : [Nat.digitChar (m % base)] = [Nat.digitChar (n % base)]) : m = n := by
  have hm := Nat.mod_lt m hpos
  have hn := Nat.mod_lt n hpos
  have hdigit : m % base = n % base :=
    digitChar_inj (by omega) (by omega) (List.singleton_inj.mp hlast)
  rw [← Nat.div_add_mod m base, ← Nat.div_add_mod n base, hfront, hdigit]

/-- Where all digits are kept, they say the number. -/
theorem fixed_inj (hbase : base ≤ 16) {width m n : ℕ} (hm : m < base ^ width)
    (hn : n < base ^ width) (h : fixed base width m = fixed base width n) : m = n := by
  induction width generalizing m n with
  | zero =>
    rw [Nat.pow_zero] at hm hn
    omega
  | succ width ih =>
    rw [Nat.pow_succ'] at hm hn
    obtain ⟨hfront, hlast⟩ := List.append_inj' h rfl
    have hpos : 0 < base := Nat.pos_of_mul_pos_right (Nat.zero_lt_of_lt hm)
    have hquotient := ih (Nat.div_lt_of_lt_mul hm) (Nat.div_lt_of_lt_mul hn) hfront
    exact eq_of_last_digit hpos hbase hquotient hlast

theorem mem_fixed (hpos : 0 < base) {width n : ℕ} {c : Char} (h : c ∈ fixed base width n) :
    ∃ digit < base, c = Nat.digitChar digit := by
  induction width generalizing n with
  | zero => cases h
  | succ width ih =>
    rcases List.mem_append.mp h with hfront | hlast
    · exact ih hfront
    · exact ⟨n % base, Nat.mod_lt n hpos, List.mem_singleton.mp hlast⟩

/-- Hexadecimal digits of a fixed number of places say the number that fits them. -/
theorem hex_inj {width m n : ℕ} (hm : m < 16 ^ width) (hn : n < 16 ^ width)
    (h : hex width m = hex width n) : m = n :=
  fixed_inj (Nat.le_refl 16) hm hn (String.ofList_injective h)

/-- Digits of a fixed number of places come off the front of a text. -/
theorem hex_append_inj {width m n : ℕ} {s t : String} (hm : m < 16 ^ width) (hn : n < 16 ^ width)
    (h : hex width m ++ s = hex width n ++ t) : m = n ∧ s = t := by
  have hchars := congrArg String.toList h
  rw [String.toList_append, String.toList_append] at hchars
  have hlength : (hex width m).toList.length = (hex width n).toList.length := by simp [hex]
  obtain ⟨hfront, hback⟩ := List.append_inj hchars hlength
  exact ⟨hex_inj hm hn (String.toList_inj.mp hfront), String.toList_inj.mp hback⟩

@[simp] theorem length_hex (width n : ℕ) : (hex width n).length = width := by
  simp [hex]

theorem toDigits_inj (hone : 1 < base) (hbase : base ≤ 16) {m n : ℕ}
    (h : Nat.toDigits base m = Nat.toDigits base n) : m = n := by
  induction m using Nat.strongRecOn generalizing n with
  | ind m ih =>
    by_cases hm : m < base
    · rw [Nat.toDigits_of_lt_base hm] at h
      by_cases hn : n < base
      · rw [Nat.toDigits_of_lt_base hn] at h
        exact digitChar_inj (by omega) (by omega) (List.singleton_inj.mp h)
      · -- a single digit against a numeral of at least two
        rw [Nat.toDigits_of_base_le hone (by omega)] at h
        obtain ⟨hnil, -⟩ := List.append_inj' ((List.nil_append _).trans h) rfl
        exact absurd hnil.symm Nat.toDigits_ne_nil
    · rw [Nat.toDigits_of_base_le hone (Nat.not_lt.mp hm)] at h
      by_cases hn : n < base
      · rw [Nat.toDigits_of_lt_base hn] at h
        obtain ⟨hnil, -⟩ := List.append_inj' (h.trans (List.nil_append _).symm) rfl
        exact absurd hnil Nat.toDigits_ne_nil
      · rw [Nat.toDigits_of_base_le hone (Nat.not_lt.mp hn)] at h
        obtain ⟨hfront, hlast⟩ := List.append_inj' h rfl
        have hquotient := ih (m / base) (Nat.div_lt_self (by omega) hone) hfront
        exact eq_of_last_digit (by omega) hbase hquotient hlast

theorem mem_toDigits (hone : 1 < base) {n : ℕ} {c : Char} (h : c ∈ Nat.toDigits base n) :
    ∃ digit < base, c = Nat.digitChar digit := by
  induction n using Nat.strongRecOn with
  | ind n ih =>
    by_cases hn : n < base
    · rw [Nat.toDigits_of_lt_base hn] at h
      exact ⟨n, hn, List.mem_singleton.mp h⟩
    · rw [Nat.toDigits_of_base_le hone (by omega)] at h
      rcases List.mem_append.mp h with hfront | hlast
      · exact ih (n / base) (Nat.div_lt_self (by omega) hone) hfront
      · exact ⟨n % base, Nat.mod_lt n (by omega), List.mem_singleton.mp hlast⟩

theorem toString_inj {m n : ℕ} : toString m = toString n ↔ m = n := by
  refine ⟨fun h => ?_, congrArg toString⟩
  rw [Nat.toString_eq_ofList_toDigits, Nat.toString_eq_ofList_toDigits] at h
  exact toDigits_inj (by decide) (by decide) (String.ofList_injective h)

theorem hexShort_inj {m n : ℕ} : hexShort m = hexShort n ↔ m = n := by
  refine ⟨fun h => ?_, congrArg hexShort⟩
  exact toDigits_inj (by decide) (by decide) (String.ofList_injective h)

/-- No other character stands in a numeral. -/
theorem notMem_toString {c : Char} (hc : ∀ digit < 10, c ≠ Nat.digitChar digit) (n : ℕ) :
    c ∉ (toString n).toList := by
  intro h
  rw [Nat.toString_eq_ofList_toDigits, String.toList_ofList] at h
  obtain ⟨digit, hlt, rfl⟩ := mem_toDigits (by decide) h
  exact hc digit hlt rfl

theorem notMem_hexShort {c : Char} (hc : ∀ digit < 16, c ≠ Nat.digitChar digit) (n : ℕ) :
    c ∉ (hexShort n).toList := by
  intro h
  rw [hexShort, String.toList_ofList] at h
  obtain ⟨digit, hlt, rfl⟩ := mem_toDigits (by decide) h
  exact hc digit hlt rfl

theorem notMem_hex {c : Char} (hc : ∀ digit < 16, c ≠ Nat.digitChar digit) (width n : ℕ) :
    c ∉ (hex width n).toList := by
  intro h
  rw [hex, String.toList_ofList] at h
  obtain ⟨digit, hlt, rfl⟩ := mem_fixed (by decide) h
  exact hc digit hlt rfl

/-- Digits behind a mark start with its zero. -/
theorem head?_marked (digits : String) : ("0x" ++ digits).toList.head? = some '0' := by
  rw [String.toList_append]
  rfl

end Digits

/-! ## Names of two kinds -/

section
variable {α β : Type}

/-- **Names of two kinds tell values apart** if those of either kind do and no name is of both. -/
theorem getD_injective {name? : α → Option β} {spell : α → β}
    (hname : ∀ ⦃a b name⦄, name? a = some name → name? b = some name → a = b)
    (hspell : Function.Injective spell)
    (hapart : ∀ ⦃a b name⦄, name? a = some name → name? b = none → spell b ≠ name) :
    Function.Injective fun a => (name? a).getD (spell a) := by
  intro a b h
  dsimp only at h
  cases ha : name? a with
  | some m =>
    rw [ha, Option.getD_some] at h
    cases hb : name? b with
    | some n =>
      rw [hb, Option.getD_some] at h
      exact hname ha (h ▸ hb)
    | none =>
      rw [hb, Option.getD_none] at h
      exact absurd h.symm (hapart ha hb)
  | none =>
    rw [ha, Option.getD_none] at h
    cases hb : name? b with
    | some n =>
      rw [hb, Option.getD_some] at h
      exact absurd h (hapart hb ha)
    | none =>
      rw [hb, Option.getD_none] at h
      exact hspell h

variable [BEq α] [LawfulBEq α] {names : List (α × β)}

theorem mem_of_lookup {a : α} {name : β} (h : names.lookup a = some name) :
    (a, name) ∈ names := by
  obtain ⟨before, after, hnames, -⟩ := List.lookup_eq_some_iff.mp h
  rw [hnames]
  exact List.mem_append_right _ List.mem_cons_self

/-- **Listed names and spelled ones differ** if the names in the list do, if what is spelled says
the value, and if nothing outside the list is spelled like a name in it. -/
theorem lookup_getD_injective {spell : α → β}
    (hnames : ∀ p ∈ names, ∀ q ∈ names, p.2 = q.2 → p.1 = q.1)
    (hspell : Function.Injective spell)
    (hapart : ∀ p ∈ names, ∀ a, spell a = p.2 → names.lookup a ≠ none) :
    Function.Injective fun a => (names.lookup a).getD (spell a) := by
  apply getD_injective
  · intro a b name ha hb
    exact hnames _ (mem_of_lookup ha) _ (mem_of_lookup hb) rfl
  · exact hspell
  · intro a b name ha hb h
    exact hapart _ (mem_of_lookup ha) b h hb

end

/-! ## Words -/

/-- A text comes apart at its spaces into the words that it was made of. -/
theorem intercalate_inj {words words' : List String} (hwords : ∀ w ∈ words, ' ' ∉ w.toList)
    (hwords' : ∀ w ∈ words', ' ' ∉ w.toList) (hne : words ≠ []) (hne' : words' ≠ [])
    (h : " ".intercalate words = " ".intercalate words') : words = words' := by
  have hsplit {words : List String} (hwords : ∀ w ∈ words, ' ' ∉ w.toList) (hne : words ≠ []) :
      (" ".intercalate words).toList.splitOn ' ' = words.map String.toList := by
    rw [String.toList_intercalate]
    apply List.splitOn_intercalate
    · simpa using hwords
    · simpa using hne
  apply List.map_inj_right (fun _ _ => String.toList_inj.mp) |>.mp
  rw [← hsplit hwords hne, ← hsplit hwords' hne', h]

end MediaIntake
