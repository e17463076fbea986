import Mathlib.Data.List.Nodup
import MediaIntake.Proofs.Json.Tokens
/-! # Records read off their tokens

A record is read from an object, whose members name fields in any order, or from an array of
integers for the first fields in theirs.  Reading goes one entry after the other, and so does what
the entries come to (`storeMembers?`, `storeElements?`): **an object is read just if no field occurs
twice and every integer fits its field** (`read_object`), and an array is read as the object is that
names the first fields (`read_array_iff_read_object`).  A schema whose fields do not interfere
(`Schema.Lawful`) reads back what it writes (`read_write`).
-/
namespace MediaIntake.Json
variable {σ : Type}

/-! ## Schemas -/

/-- The fields of a schema are told apart by plain names, hold what their width admits, do not
interfere with one another, and make up the record. -/
structure Schema.Lawful (s : Schema σ) : Prop where
  names_nodup : (s.fields.map (·.name)).Nodup
  plain : ∀ f ∈ s.fields, ∀ c ∈ f.name.toList, Plain c
  get_set : ∀ f ∈ s.fields, ∀ n ≤ f.width.max, ∀ a, f.get (f.set n a) = n
  get_set_of_ne : ∀ f ∈ s.fields, ∀ g ∈ s.fields, f.name ≠ g.name →
    ∀ n a, g.get (f.set n a) = g.get a
  get_le : ∀ f ∈ s.fields, ∀ a, f.get a ≤ f.width.max
  /-- Nothing stands in the empty record. -/
  get_empty : ∀ f ∈ s.fields, f.get s.empty = 0
  ext : ∀ a b, (∀ f ∈ s.fields, f.get a = f.get b) → a = b

/-- A field of a schema with an integer for it. -/
structure Member (s : Schema σ) where
  field : Field σ
  known : field ∈ s.fields
  literal : IntegerLiteral

variable {s : Schema σ}

namespace Member

def name (m : Member s) : String := m.field.name

/-- The integer is one that the field may hold. -/
def Fits (m : Member s) : Prop := m.literal.Fits m.field.width

instance (m : Member s) : Decidable m.Fits := inferInstanceAs (Decidable (IntegerLiteral.Fits _ _))

/-- A member as it is written: the name of the field, a colon, and the integer. -/
def tokens (m : Member s) : List (List Char) := [quoted m.name, [':'], m.literal.text]

/-- Puts the integer into the field. -/
def store (m : Member s) (a : σ) : σ := m.field.set m.literal.magnitude a

theorem ne_nil_of_mem_tokens (m : Member s) : ∀ token ∈ m.tokens, token ≠ [] := by
  obtain ⟨c, rest, htext, -⟩ := m.literal.text_eq_cons
  simp [tokens, quoted, htext]

end Member

/-! ## Tokens between brackets -/

/-- Entries between brackets, with commas between them. -/
def bracketed (opening closing : Char) (entries : List (List (List Char))) : List (List Char) :=
  [opening] :: ([[',']].intercalate entries ++ [[closing]])

def objectTokens (ms : List (Member s)) : List (List Char) :=
  bracketed '{' '}' (ms.map Member.tokens)

def arrayTokens (ls : List IntegerLiteral) : List (List Char) :=
  bracketed '[' ']' (ls.map fun l => [l.text])

/-- What stands up to the closing bracket, from the first entry on or from a later one. -/
def entries (closing : Char) : Bool → List (List (List Char)) → List (List Char)
  | _, [] => [[closing]]
  | true, entry :: rest => entry ++ entries closing false rest
  | false, entry :: rest => [','] :: (entry ++ entries closing false rest)

theorem bracketed_eq (opening closing : Char) (list : List (List (List Char))) :
    bracketed opening closing list = [opening] :: entries closing true list := by
  have hlater (entry : List (List Char)) (rest : List (List (List Char))) :
      [[',']].intercalate (entry :: rest) ++ [[closing]] = entry ++ entries closing false rest := by
    induction rest generalizing entry with
    | nil => rw [List.intercalate_singleton]; rfl
    | cons next rest ih =>
      rw [List.intercalate_cons_cons, List.append_assoc, List.append_assoc, ih]
      rfl
  rw [bracketed]
  cases list with
  | nil => rfl
  | cons entry rest => rw [hlater]; rfl

/-- A token starts an entry: it stands next, or behind a comma. -/
def Starts (first : Bool) (token text rest : List Char) : Prop :=
  if first then skipBlanks text = token ++ rest
  else ∃ later, skipBlanks text = ',' :: later ∧ skipBlanks later = token ++ rest

/-- The next entry is where its first token says. -/
theorem starts_entry {closing : Char} {first : Bool} {token text : List Char}
    {entry : List (List Char)} {list : List (List (List Char))}
    (h : Spaced (entries closing first ((token :: entry) :: list)) text) (htoken : Visible token) :
    ∃ rest, Starts first token text rest ∧ Spaced (entry ++ entries closing false list) rest := by
  cases first with
  | true => exact h.next htoken
  | false =>
    obtain ⟨later, hcomma, hlater⟩ := h.next (visible_singleton (by decide))
    obtain ⟨rest, hskip, hrest⟩ := hlater.next htoken
    exact ⟨rest, ⟨later, hcomma, hskip⟩, hrest⟩

/-- The end is where the closing bracket says. -/
theorem spaced_closing {closing : Char} {first : Bool} {text : List Char}
    (h : Spaced (entries closing first []) text) (hclosing : isBlank closing = false) :
    ∃ rest, skipBlanks text = closing :: rest ∧ Spaced [] rest := by
  have hentries : entries closing first [] = [[closing]] := by cases first <;> rfl
  rw [hentries] at h
  exact h.next (visible_singleton hclosing)

/-! ## What a reader gives -/

/-- A reader's result: a value with nothing but white space behind it, or a failure. -/
def Gives (result : Except Failure (σ × List Char)) : Option σ → Prop
  | some a => ∃ rest, result = .ok (a, rest) ∧ Spaced [] rest
  | none => ∃ failure, result = .error failure

/-- A whole text is read as what its reader gives. -/
theorem readAll_eq_ok_iff {reader : Reader σ} {text : String} {a? : Option σ}
    (h : Gives (reader text.toList) a?) (a : σ) : readAll reader text = .ok a ↔ a? = some a := by
  unfold readAll
  cases a? with
  | some b =>
    obtain ⟨rest, hread, hrest⟩ := h
    rw [hread]
    dsimp only
    rw [hrest.skipBlanks_nil]
    simp
  | none =>
    obtain ⟨failure, hread⟩ := h
    rw [hread]
    simp

/-! ## Objects -/

namespace Schema

/-- The string that starts an entry is its key. -/
theorem readKey_of_starts {first : Bool} {name : String} (hname : ∀ c ∈ name.toList, Plain c)
    {text rest : List Char} (h : Starts first (quoted name) text rest) :
    readKey first text = .ok (some name.toList, rest) := by
  have hquoted : quoted name ++ rest = '"' :: (name.toList ++ '"' :: rest) := by
    rw [quoted, List.cons_append, List.append_assoc, List.singleton_append]
  have hstring := readString_plain hname rest
  cases first with
  | true =>
    have hquote : skipBlanks text = quoted name ++ rest := h
    rw [hquoted] at hquote
    simp [readKey, hquote, hstring]
  | false =>
    obtain ⟨later, hcomma, hquote⟩ := h
    rw [hquoted] at hquote
    simp [readKey, hcomma, hquote, hstring]

/-- The closing brace is read as the end. -/
theorem readKey_end {first : Bool} {text rest : List Char} (h : skipBlanks text = '}' :: rest) :
    readKey first text = .ok (none, rest) := by
  rw [readKey, h]
  rfl

/-- A name finds the field that it is the name of. -/
theorem find?_name (hs : s.Lawful) (m : Member s) :
    s.fields.find? (·.name.toList = m.name.toList) = some m.field := by
  rw [List.find?_eq_some_iff_append]
  obtain ⟨before, after, hfields⟩ := List.append_of_mem m.known
  refine ⟨by simp [Member.name], before, after, hfields, ?_⟩
  intro f hf
  have hnodup := hs.names_nodup
  rw [hfields, List.map_append, List.map_cons, List.nodup_append] at hnodup
  have hne : f.name ≠ m.field.name :=
    hnodup.2.2 _ (List.mem_map_of_mem hf) _ List.mem_cons_self
  simp [Member.name, String.toList_inj, hne]

/-- What members come to, put in one after the other: nothing, if a field occurs for the second time
or an integer does not fit its field. -/
def storeMembers? : List String → List (Member s) → σ → Option σ
  | _, [], a => some a
  | seen, m :: ms, a =>
    if m.name ∈ seen ∨ ¬ m.Fits then none else storeMembers? (m.name :: seen) ms (m.store a)

theorem storeMembers?_of_stop {seen : List String} {m : Member s} (h : m.name ∈ seen ∨ ¬ m.Fits)
    (ms : List (Member s)) (a : σ) : storeMembers? seen (m :: ms) a = none :=
  if_pos h

theorem storeMembers?_of_fits {seen : List String} {m : Member s} (hseen : m.name ∉ seen)
    (hfits : m.Fits) (ms : List (Member s)) (a : σ) :
    storeMembers? seen (m :: ms) a = storeMembers? (m.name :: seen) ms (m.store a) :=
  if_neg (not_or.mpr ⟨hseen, not_not.mpr hfits⟩)

/-- An integer ends where an entry does. -/
theorem endsNumber_entries {closing : Char} (hclosing : closing = '}' ∨ closing = ']')
    {rest : List (List (List Char))} {text : List Char}
    (h : Spaced (entries closing false rest) text) : EndsNumber text := by
  cases rest with
  | nil =>
    rcases hclosing with rfl | rfl
    · exact h.endsNumber (by decide)
    · exact h.endsNumber (by decide)
  | cons entry rest =>
    exact h.endsNumber (by decide)

/-- **Members are read for what they come to**, one after the other. -/
theorem readMembers_gives (hs : s.Lawful) {fuel : ℕ} {first : Bool} {seen : List String} {a : σ}
    (ms : List (Member s)) (hfuel : ms.length < fuel) {text : List Char}
    (h : Spaced (entries '}' first (ms.map Member.tokens)) text) :
    Gives (s.readMembers fuel first seen a text) (storeMembers? seen ms a) := by
  induction ms generalizing fuel first seen a text with
  | nil =>
    obtain ⟨fuel, rfl⟩ := Nat.exists_eq_succ_of_ne_zero (Nat.ne_zero_of_lt hfuel)
    obtain ⟨text', hskip, htext'⟩ := spaced_closing h (by decide)
    refine ⟨text', ?_, htext'⟩
    rw [readMembers, readKey_end hskip]
  | cons m ms ih =>
    obtain ⟨fuel, rfl⟩ := Nat.exists_eq_succ_of_ne_zero (Nat.ne_zero_of_lt hfuel)
    obtain ⟨text₁, hstarts, htext₁⟩ := starts_entry h (visible_quoted m.name)
    have hkey : readKey first text = .ok (some m.name.toList, text₁) :=
      readKey_of_starts (hs.plain m.field m.known) hstarts
    obtain ⟨text₂, hcolon, htext₂⟩ := readColon_spaced htext₁
    obtain ⟨text₃, hskip, htext₃⟩ := htext₂.next m.literal.visible_text
    have hends := endsNumber_entries (.inl rfl) htext₃
    rw [readMembers, hkey]
    dsimp only
    rw [find?_name hs m]
    dsimp only
    -- a key is refused before the integer behind it is looked at
    by_cases hseen : m.name ∈ seen
    · have htwice : m.field.name ∈ seen := hseen
      rw [storeMembers?_of_stop (.inl hseen), if_pos htwice, failDuplicate]
      split
      · exact ⟨_, rfl⟩
      · exact ⟨_, rfl⟩
    · have hnew : m.field.name ∉ seen := hseen
      rw [if_neg hnew, hcolon]
      simp only [bind, Except.bind]
      by_cases hfits : m.Fits
      · rw [storeMembers?_of_fits hseen hfits, m.literal.readUnsigned_of_fits hfits hskip hends]
        exact ih (Nat.lt_of_succ_lt_succ hfuel) htext₃
      · obtain ⟨failure, hread⟩ := m.literal.readUnsigned_of_not_fits hfits hskip hends
        rw [storeMembers?_of_stop (.inr hfits), hread]
        exact ⟨failure, rfl⟩

/-! ### What members come to -/

/-- The members one after the other, whether they fit or not. -/
def storeMembers (ms : List (Member s)) (a : σ) : σ := ms.foldl (fun a m => m.store a) a

/-- Nothing stops the members just if no field occurs twice, those before them included, and every
integer fits. -/
theorem storeMembers?_eq_some_iff {seen : List String} (hseen : seen.Nodup) {ms : List (Member s)}
    {a b : σ} : storeMembers? seen ms a = some b ↔
      ((seen.reverse ++ ms.map Member.name).Nodup ∧ ∀ m ∈ ms, m.Fits) ∧ storeMembers ms a = b := by
  induction ms generalizing seen a with
  | nil => simp [storeMembers?, storeMembers, hseen]
  | cons m ms ih =>
    rw [List.forall_mem_cons, List.map_cons]
    by_cases hstop : m.name ∈ seen ∨ ¬ m.Fits
    · rw [storeMembers?_of_stop hstop]
      refine ⟨nofun, ?_⟩
      rintro ⟨⟨hnames, hfits, -⟩, -⟩
      rcases hstop with h | h
      · have hne := (List.nodup_append.mp hnames).2.2
        exact absurd rfl (hne m.name (List.mem_reverse.mpr h) m.name List.mem_cons_self)
      · exact absurd hfits h
    · obtain ⟨hnew, hunfit⟩ := not_or.mp hstop
      have hfits : m.Fits := not_not.mp hunfit
      -- the names keep their order: one moves over to those that occurred
      have hnames : (m.name :: seen).reverse ++ ms.map Member.name =
          seen.reverse ++ m.name :: ms.map Member.name := by
        rw [List.reverse_cons, List.append_assoc, List.singleton_append]
      rw [storeMembers?_of_fits hnew hfits, ih (List.nodup_cons.mpr ⟨hnew, hseen⟩), hnames,
        storeMembers, storeMembers, List.foldl_cons, and_iff_right hfits]

/-- A field that is not named stays as it is. -/
theorem get_storeMembers_of_notMem (hs : s.Lawful) {f : Field σ} (hf : f ∈ s.fields)
    {ms : List (Member s)} (h : f.name ∉ ms.map Member.name) (a : σ) :
    f.get (storeMembers ms a) = f.get a := by
  induction ms generalizing a with
  | nil => rfl
  | cons m ms ih =>
    rw [List.map_cons, List.mem_cons, not_or] at h
    have hother : f.get (m.store a) = f.get a :=
      hs.get_set_of_ne m.field m.known f hf (fun hname => h.1 hname.symm) m.literal.magnitude a
    exact (ih h.2 (m.store a)).trans hother

/-- A field that is named holds its integer. -/
theorem get_storeMembers (hs : s.Lawful) {ms : List (Member s)}
    (hnames : (ms.map Member.name).Nodup)
    (hfits : ∀ m ∈ ms, m.Fits) {m : Member s} (hm : m ∈ ms) (a : σ) :
    m.field.get (storeMembers ms a) = m.literal.magnitude := by
  induction ms generalizing a with
  | nil => exact absurd hm List.not_mem_nil
  | cons m' ms ih =>
    rw [List.map_cons, List.nodup_cons] at hnames
    rcases List.mem_cons.mp hm with rfl | hlater
    · have hle : m.literal.magnitude ≤ m.field.width.max :=
        ((m.literal.fits_iff m.field.width).mp (hfits m List.mem_cons_self)).2
      have hstay := get_storeMembers_of_notMem hs m.known hnames.1 (m.store a)
      exact hstay.trans (hs.get_set m.field m.known m.literal.magnitude hle a)
    · exact ih hnames.2 (fun m hm => hfits m (List.mem_cons_of_mem _ hm)) hlater (m'.store a)

/-- A record with the integers of the members in the fields that they name, and nothing in the
others. -/
structure Holds (ms : List (Member s)) (a : σ) : Prop where
  value : ∀ m ∈ ms, (m.field.get a : ℤ) = m.literal.value
  zero : ∀ f ∈ s.fields, f.name ∉ ms.map Member.name → f.get a = 0

/-- One name belongs to one field. -/
theorem field_eq_of_name_eq (hs : s.Lawful) {f g : Field σ} (hf : f ∈ s.fields) (hg : g ∈ s.fields)
    (h : f.name = g.name) : f = g :=
  List.inj_on_of_nodup_map hs.names_nodup hf hg h

/-- Members leave no choice. -/
theorem Holds.unique (hs : s.Lawful) {ms : List (Member s)} {a b : σ} (ha : Holds ms a)
    (hb : Holds ms b) : a = b := by
  apply hs.ext
  intro f hf
  by_cases hnamed : f.name ∈ ms.map Member.name
  · obtain ⟨m, hm, hname⟩ := List.mem_map.mp hnamed
    obtain rfl : m.field = f := field_eq_of_name_eq hs m.known hf hname
    exact Int.natCast_inj.mp ((ha.value m hm).trans (hb.value m hm).symm)
  · exact (ha.zero f hf hnamed).trans (hb.zero f hf hnamed).symm

theorem holds_storeMembers (hs : s.Lawful) {ms : List (Member s)}
    (hnames : (ms.map Member.name).Nodup) (hfits : ∀ m ∈ ms, m.Fits) :
    Holds ms (storeMembers ms s.empty) := by
  constructor
  · intro m hm
    rw [get_storeMembers hs hnames hfits hm, m.literal.value_of_fits (hfits m hm)]
  · intro f hf hnamed
    rw [get_storeMembers_of_notMem hs hf hnamed, hs.get_empty f hf]

/-- **Members put into the empty record come to the one that holds them.** -/
theorem storeMembers?_empty_iff (hs : s.Lawful) {ms : List (Member s)} {a : σ} :
    storeMembers? [] ms s.empty = some a ↔
      ((ms.map Member.name).Nodup ∧ ∀ m ∈ ms, m.Fits) ∧ Holds ms a := by
  rw [storeMembers?_eq_some_iff List.nodup_nil, List.reverse_nil, List.nil_append]
  apply and_congr_right
  rintro ⟨hnames, hfits⟩
  have hholds := holds_storeMembers hs hnames hfits
  constructor
  · rintro rfl
    exact hholds
  · exact hholds.unique hs

/-! ### Whole objects -/

theorem length_le_entries {closing : Char} {first : Bool} {list : List (List (List Char))}
    (h : ∀ entry ∈ list, entry ≠ []) : list.length ≤ (entries closing first list).length := by
  induction list generalizing first with
  | nil => exact Nat.zero_le _
  | cons entry rest ih =>
    rw [List.forall_mem_cons] at h
    have hone : 0 < entry.length := List.length_pos_iff.mpr h.1
    have hrest := @ih false h.2
    cases first <;> simp only [entries, List.length_append, List.length_cons] <;> omega

theorem ne_nil_of_mem_entries {closing : Char} {first : Bool} {list : List (List (List Char))}
    (h : ∀ entry ∈ list, ∀ token ∈ entry, token ≠ []) :
    ∀ token ∈ entries closing first list, token ≠ [] := by
  induction list generalizing first with
  | nil => cases first <;> simp [entries]
  | cons entry rest ih =>
    rw [List.forall_mem_cons] at h
    have hrest := @ih false h.2
    cases first with
    | true => simpa only [entries, List.forall_mem_append] using ⟨h.1, hrest⟩
    | false =>
      simpa only [entries, List.forall_mem_cons, List.forall_mem_append] using
        ⟨List.cons_ne_nil ',' [], h.1, hrest⟩

/-- A text has more characters than members. -/
theorem length_le_of_spaced {first : Bool} {ms : List (Member s)} {text : List Char}
    (h : Spaced (entries '}' first (ms.map Member.tokens)) text) : ms.length ≤ text.length := by
  have htokens : ∀ entry ∈ ms.map Member.tokens, ∀ token ∈ entry, token ≠ [] := by
    rw [List.forall_mem_map]
    exact fun m _ => m.ne_nil_of_mem_tokens
  have hentries : ∀ entry ∈ ms.map Member.tokens, entry ≠ [] := by
    rw [List.forall_mem_map]
    exact fun m _ => List.cons_ne_nil _ _
  have hle := @length_le_entries '}' first _ hentries
  rw [List.length_map] at hle
  exact hle.trans (h.length_le (ne_nil_of_mem_entries htokens))

/-- **A text of an object is read just if its members are told apart and fit**, and then as the
record that holds them. -/
theorem read_object (hs : s.Lawful) {ms : List (Member s)} {text : String}
    (h : Spaced (objectTokens ms) text.toList) (a : σ) :
    s.read text = .ok a ↔ ((ms.map Member.name).Nodup ∧ ∀ m ∈ ms, m.Fits) ∧ Holds ms a := by
  rw [objectTokens, bracketed_eq] at h
  obtain ⟨text', hskip, htext'⟩ := h.next (visible_singleton (by decide))
  have hfuel : ms.length < text'.length + 1 := Nat.lt_succ_of_le (length_le_of_spaced htext')
  have hgives : Gives (s.reader text.toList) (storeMembers? [] ms s.empty) := by
    rw [reader, hskip]
    exact readMembers_gives hs ms hfuel htext'
  exact (readAll_eq_ok_iff hgives a).trans (storeMembers?_empty_iff hs)

/-! ## Arrays -/

/-- What elements come to, put into the fields one after the other: nothing, if there are more of
them than fields or an integer does not fit its field. -/
def storeElements? : List IntegerLiteral → List (Field σ) → σ → Option σ
  | [], _, a => some a
  | _ :: _, [], _ => none
  | l :: ls, f :: fields, a =>
    if l.Fits f.width then storeElements? ls fields (f.set l.magnitude a) else none

/-- More elements than fields come to nothing. -/
theorem storeElements?_of_lt {fields : List (Field σ)} {ls : List IntegerLiteral}
    (h : fields.length < ls.length) (a : σ) : storeElements? ls fields a = none := by
  induction fields generalizing ls a with
  | nil =>
    cases ls with
    | nil => exact absurd h (Nat.lt_irrefl 0)
    | cons l ls => rfl
  | cons f fields ih =>
    cases ls with
    | nil => exact absurd h (Nat.not_lt_zero _)
    | cons l ls =>
      rw [storeElements?, ih (Nat.lt_of_succ_lt_succ h)]
      exact ite_self none

/-- Elements come to what members come to that name the same fields. -/
theorem storeElements?_eq_storeMembers? {fields : List (Field σ)}
    {ms : List (Member s)} (hfields : ms.map (·.field) <+: fields)
    (hnames : (fields.map (·.name)).Nodup) {seen : List String}
    (hseen : ∀ f ∈ fields, f.name ∉ seen) (a : σ) :
    storeElements? (ms.map (·.literal)) fields a = storeMembers? seen ms a := by
  induction ms generalizing fields seen a with
  | nil => rfl
  | cons m ms ih =>
    obtain ⟨fields, rfl, hrest⟩ : ∃ rest, fields = m.field :: rest ∧ ms.map (·.field) <+: rest := by
      obtain ⟨after, rfl⟩ := hfields
      exact ⟨_, rfl, _, rfl⟩
    rw [List.map_cons, List.nodup_cons] at hnames
    rw [List.forall_mem_cons] at hseen
    have hlater : ∀ f ∈ fields, f.name ∉ m.name :: seen := by
      intro f hf
      rw [List.mem_cons, not_or]
      refine ⟨fun hname => hnames.1 ?_, hseen.2 f hf⟩
      exact List.mem_map.mpr ⟨f, hf, hname⟩
    rw [List.map_cons, storeElements?]
    by_cases hfits : m.literal.Fits m.field.width
    · rw [if_pos hfits, storeMembers?_of_fits hseen.1 hfits]
      exact ih hrest hnames.2 hlater (m.store a)
    · rw [if_neg hfits, storeMembers?_of_stop (.inr hfits)]

/-- No element may follow once every field has its value. -/
theorem readArrayEnd_of_starts {first : Bool} {l : IntegerLiteral} {text rest : List Char}
    (h : Starts first l.text text rest) (a : σ) :
    readArrayEnd a text = failNext .trailingCharacters (l.text ++ rest) := by
  obtain ⟨c, tail, htext, hc⟩ := l.text_eq_cons
  have hclosing : c ≠ ']' := IntegerLiteral.ne_of_starts hc (by decide) (by decide)
  have hcomma : c ≠ ',' := IntegerLiteral.ne_of_starts hc (by decide) (by decide)
  rw [Starts, htext] at h
  rw [htext]
  cases first with
  | true =>
    have hskip : skipBlanks text = c :: (tail ++ rest) := h
    simp [readArrayEnd, hskip, hclosing, hcomma]
  | false =>
    obtain ⟨later, hlater, hskip⟩ := h
    simp [readArrayEnd, hlater, hskip, hclosing]

/-- The element that stands next is read for the field that is next. -/
theorem readElements_of_starts {f : Field σ} {fields : List (Field σ)} {first : Bool}
    {l : IntegerLiteral} {text rest : List Char} (h : Starts first l.text text rest) (a : σ) :
    readElements (f :: fields) first a text =
      (readUnsigned f.width (l.text ++ rest)).bind fun read =>
        readElements fields false (f.set read.1 a) read.2 := by
  obtain ⟨c, tail, htext, hc⟩ := l.text_eq_cons
  have hclosing : c ≠ ']' := IntegerLiteral.ne_of_starts hc (by decide) (by decide)
  rw [Starts, htext] at h
  rw [htext]
  cases first with
  | true =>
    have hskip : skipBlanks text = c :: (tail ++ rest) := h
    cases hread : readUnsigned f.width (c :: (tail ++ rest)) <;>
      simp [readElements, hskip, hread, Except.bind]
  | false =>
    obtain ⟨later, hcomma, hskip⟩ := h
    cases hread : readUnsigned f.width (c :: (tail ++ rest)) <;>
      simp [readElements, hcomma, hskip, hclosing, hread, Except.bind]

/-- **Elements are read for what they come to**, one after the other. -/
theorem readElements_gives {fields : List (Field σ)} {first : Bool} (ls : List IntegerLiteral)
    {text : List Char}
    (h : Spaced (entries ']' first (ls.map fun l => [l.text])) text) (a : σ) :
    Gives (readElements fields first a text) (storeElements? ls fields a) := by
  induction ls generalizing fields first text a with
  | nil =>
    obtain ⟨text', hskip, htext'⟩ := spaced_closing h (by decide)
    refine ⟨text', ?_, htext'⟩
    cases fields <;> simp [readElements, readArrayEnd, hskip]
  | cons l ls ih =>
    obtain ⟨rest, hstarts, hrest⟩ := starts_entry h l.visible_text
    cases fields with
    | nil => exact ⟨_, readArrayEnd_of_starts hstarts a⟩
    | cons f fields =>
      have hends := endsNumber_entries (.inr rfl) hrest
      have hvisible := skipBlanks_visible l.visible_text rest
      rw [readElements_of_starts hstarts, storeElements?]
      by_cases hfits : l.Fits f.width
      · rw [l.readUnsigned_of_fits hfits hvisible hends, if_pos hfits]
        exact ih hrest (f.set l.magnitude a)
      · obtain ⟨failure, hread⟩ := l.readUnsigned_of_not_fits hfits hvisible hends
        rw [hread, if_neg hfits]
        exact ⟨failure, rfl⟩

/-- What an array is read as. -/
theorem read_array {text : String} {ls : List IntegerLiteral}
    (h : Spaced (arrayTokens ls) text.toList) (a : σ) :
    s.read text = .ok a ↔ storeElements? ls s.fields s.empty = some a := by
  rw [arrayTokens, bracketed_eq] at h
  obtain ⟨text', hskip, htext'⟩ := h.next (visible_singleton (by decide))
  have hgives : Gives (s.reader text.toList) (storeElements? ls s.fields s.empty) := by
    rw [reader, hskip]
    exact readElements_gives ls htext' s.empty
  exact readAll_eq_ok_iff hgives a

/-- **An array is read as the object is that names the first fields.** -/
theorem read_array_iff_read_object (hs : s.Lawful) {ms : List (Member s)}
    (hms : ms.map (·.field) <+: s.fields) {array object : String}
    (harray : Spaced (arrayTokens (ms.map (·.literal))) array.toList)
    (hobject : Spaced (objectTokens ms) object.toList) (a : σ) :
    s.read array = .ok a ↔ s.read object = .ok a := by
  have hunseen : ∀ f ∈ s.fields, f.name ∉ ([] : List String) := fun f _ => List.not_mem_nil
  rw [read_array harray, read_object hs hobject, ← storeMembers?_empty_iff hs,
    storeElements?_eq_storeMembers? hms hs.names_nodup hunseen]

/-- **An array of more elements than fields is refused.** -/
theorem read_array_of_lt {text : String} {ls : List IntegerLiteral}
    (h : Spaced (arrayTokens ls) text.toList) (hlt : s.fields.length < ls.length) :
    ∃ error, s.read text = .error error := by
  cases hread : s.read text with
  | error error => exact ⟨error, rfl⟩
  | ok a =>
    rw [read_array h, storeElements?_of_lt hlt] at hread
    cases hread

/-! ## Writing -/

/-- The members that a record has. -/
def members (s : Schema σ) (a : σ) : List (Member s) :=
  s.fields.attach.map fun f => ⟨f.1, f.2, .ofNat (f.1.get a)⟩

/-- What is read off the members of a record is read off its fields. -/
theorem map_members {α : Type} (g : Field σ → IntegerLiteral → α) (a : σ) :
    (s.members a).map (fun m => g m.field m.literal) =
      s.fields.map fun f => g f (.ofNat (f.get a)) := by
  conv_rhs => rw [← List.attach_map_subtype_val s.fields, List.map_map]
  rw [members, List.map_map]
  rfl

theorem map_name_members (a : σ) :
    (s.members a).map Member.name = s.fields.map (·.name) :=
  map_members (fun f _ => f.name) a

theorem fits_members (hs : s.Lawful) (a : σ) : ∀ m ∈ s.members a, m.Fits := by
  rw [members, List.forall_mem_map]
  intro f _
  exact IntegerLiteral.fits_ofNat.mpr (hs.get_le f.1 f.2 a)

theorem holds_members (a : σ) : Holds (s.members a) a := by
  constructor
  · rw [members, List.forall_mem_map]
    intro f _
    exact (IntegerLiteral.value_ofNat (f.1.get a)).symm
  · intro f hf hnamed
    rw [map_name_members] at hnamed
    exact absurd (List.mem_map_of_mem hf) hnamed

theorem flatten_intercalate (separator : List (List Char)) (list : List (List (List Char))) :
    (separator.intercalate list).flatten =
      separator.flatten.intercalate (list.map List.flatten) := by
  induction list with
  | nil => rfl
  | cons entry rest ih =>
    cases rest with
    | nil => simp
    | cons next rest =>
      rw [List.intercalate_cons_cons, List.flatten_append, List.flatten_append, ih]
      simp only [List.map_cons, List.intercalate_cons_cons]

/-- **A record is written as its members**, without white space. -/
theorem toList_write (a : σ) : (s.write a).toList = (objectTokens (s.members a)).flatten := by
  have hmember (f : Field σ) :
      ("\"" ++ f.name ++ "\":" ++ toString (f.get a)).toList =
        [quoted f.name, [':'], (IntegerLiteral.ofNat (f.get a)).text].flatten := by
    simp [quoted]
  have hmembers : ((s.members a).map Member.tokens).map List.flatten =
      s.fields.map fun f => ("\"" ++ f.name ++ "\":" ++ toString (f.get a)).toList := by
    simp only [hmember]
    rw [List.map_map]
    exact map_members (fun f l => [quoted f.name, [':'], l.text].flatten) a
  rw [objectTokens, bracketed, List.flatten_cons, List.flatten_append, flatten_intercalate,
    hmembers]
  simp [write, object, String.toList_intercalate, Function.comp_def]

/-- **What is written of a record is read as that record.** -/
theorem read_write (hs : s.Lawful) (a : σ) : s.read (s.write a) = .ok a := by
  have hspaced : Spaced (objectTokens (s.members a)) (s.write a).toList := by
    rw [toList_write]
    exact Spaced.flatten _
  have hnames : ((s.members a).map Member.name).Nodup := by
    rw [map_name_members]
    exact hs.names_nodup
  exact (read_object hs hspaced a).mpr ⟨⟨hnames, fits_members hs a⟩, holds_members a⟩

end Schema
end MediaIntake.Json
