import MediaIntake.Proofs.Rehearsal.Reports
/-! # The records of a rehearsal

A rehearsal leaves texts.  Those of its consumer begin in a way of their own (`opening`): whatever a
record of the endpoint says later on, it begins otherwise (`apart_message`).  So the consumer's
records can be told from the others by their text, and **they are those of the buffers that it was
handed** (`filter_isReceipt_records`).
-/
namespace MediaIntake.Rehearsal
variable {k : Kind}

/-! ## How texts begin -/

/-- How a consumer's records begin. -/
def opening : List Char := "received ".toList

/-- Whether a record is one of the consumer's. -/
def Record.isReceipt (r : Record) : Bool := opening <+: r.message.toList

/-- A text that begins otherwise, and goes on doing so whatever is added to it. -/
def Apart (s : String) : Prop := ¬ opening <+: s.toList ∧ ¬ s.toList <+: opening

instance (s : String) : Decidable (Apart s) :=
  inferInstanceAs (Decidable (¬ _ ∧ ¬ _))

theorem toList_prefix_append (s rest : String) : s.toList <+: (s ++ rest).toList := by
  rw [String.toList_append]
  exact List.prefix_append _ _

theorem Apart.append {s : String} (h : Apart s) (rest : String) : Apart (s ++ rest) := by
  have hbegins := toList_prefix_append s rest
  constructor
  · intro hopening
    exact (List.prefix_or_prefix_of_prefix hopening hbegins).elim h.1 h.2
  · intro hshort
    exact h.2 (hbegins.trans hshort)

theorem Apart.join {s : String} (h : Apart s) (parts : List String) :
    Apart (parts.foldl (· ++ ·) s) := by
  induction parts generalizing s with
  | nil => exact h
  | cons part parts ih => exact ih (h.append part)

theorem apart_channelName (k : Kind) : Apart k.channelName := by
  cases k <;> decide

theorem apart_text (b : Buffer k) : Apart b.text := by
  cases k with
  | audio =>
    have h : Apart "audio buffer: " := by decide
    exact h.join [_, _, _, _, _, _, _]
  | video =>
    obtain ⟨format, layout, timestamp, duration, data⟩ := b
    have h : Apart "video frame: " := by decide
    exact h.join [_, _, _, _, _, _, _, _, _]

/-- **No record of an endpoint begins like one of its consumer's.** -/
theorem apart_message (e : Event k) : Apart e.message := by
  -- Where nothing else is said, a record begins with the name of the channel.
  have h := apart_channelName k
  cases e with
  | lockRecovered => exact h.join [_]
  | reconfigurationRefused => exact h.join [_, _]
  | requested =>
    have h : Apart "requested " := by decide
    exact h.join [_, _, _]
  | negotiated =>
    have h : Apart "actual " := by decide
    exact h.join [_, _, _]
  | proposalRejected => exact h.join [_, _, _, _]
  | advertised =>
    have h : Apart "advertising video format 0: " := by decide
    exact h.join [_, _, _, _, _, _, _, _]
  | sampleDropped => exact h.join [_, _]
  | payloadMissing => exact h.join [_]
  | timesMissing => exact h.join [_]
  | formatMissing => exact h.join [_]
  | stopTimeMissing =>
    show Apart "audio sample has no stop time, duration set to 0"
    decide
  | bufferFailed => exact h.join [_, _]
  | bufferFilled b => exact apart_text b
  | consumerFailed => exact h.join [_, _]
  | consumerPanicked => exact h.join [_, _]

/-! ## The consumer's records -/

/-- A text begins as it did whatever is added to it. -/
theorem opening_join {s : String} (h : opening <+: s.toList) (parts : List String) :
    opening <+: (parts.foldl (· ++ ·) s).toList := by
  induction parts generalizing s with
  | nil => exact h
  | cons part parts ih => exact ih (h.trans (toList_prefix_append s part))

theorem opening_receivedText (b : Buffer k) : opening <+: (Entry.receivedText b).toList := by
  have h : opening <+: "received ".toList := List.prefix_rfl
  cases k with
  | audio =>
    exact opening_join h [_, _, _, _, _, _]
  | video =>
    obtain ⟨format, layout, timestamp, duration, data⟩ := b
    exact opening_join h [_, _, _, _, _, _, _, _, _, _]

/-- The buffer that an entry says the consumer received. -/
def Entry.received? : Entry k → Option (Buffer k)
  | .received b => some b
  | _ => none

/-- The record of an entry. -/
def Entry.record (e : Entry k) : Record := ⟨e.level, e.message⟩

/-- **The consumer's entries are told by how their records begin.** -/
theorem Entry.isReceipt_record (e : Entry k) : e.record.isReceipt = e.received?.isSome := by
  cases e with
  | event e => exact decide_eq_false (apart_message e).1
  | prefers =>
    have h : Apart "endpoint prefers " := by decide
    exact decide_eq_false (h.append _).1
  | received b => exact decide_eq_true (opening_receivedText b)
  | refusedAsExpected =>
    have h : Apart "reconfiguration while running was refused, as expected" := by decide
    exact decide_eq_false h.1
  | summary =>
    have h : Apart "ingest stats: " := by decide
    exact decide_eq_false (h.append _).1

/-- **The consumer's records are those of the buffers that it was handed**, where they are shown. -/
theorem filter_isReceipt_records (r : Report k) {limit : Level}
    (hshown : limit.isShown .info = true) :
    (r.result limit).records.filter (·.isReceipt) =
      (r.entries.filterMap Entry.received?).map fun b => ⟨.info, Entry.receivedText b⟩ := by
  show ((r.entries.map Entry.record).filter (limit.isShown ·.level)).filter (·.isReceipt) = _
  rw [List.filter_filter]
  induction r.entries with
  | nil => rfl
  | cons e entries ih =>
    have hreceipt := e.isReceipt_record
    rw [List.map_cons, List.filter_cons, ih, List.filterMap_cons, hreceipt]
    -- Only of a receipt does it matter that its level is shown.
    cases e with
    | received b =>
      have hlevel : limit.isShown (Entry.received b).record.level = true := hshown
      rw [hlevel]
      rfl
    | event => rfl
    | prefers => rfl
    | refusedAsExpected => rfl
    | summary => rfl

/-- A summary at the end of a report is the last of its records. -/
theorem getLast?_records {r : Report k} {entries : List (Entry k)} {c : Counters} {limit : Level}
    (hlast : r.entries = entries ++ [.summary c]) (hshown : limit.isShown .info = true) :
    (r.result limit).records.getLast? = some ⟨.info, "ingest stats: " ++ c.write⟩ := by
  show ((r.entries.map Entry.record).filter (limit.isShown ·.level)).getLast? = _
  have hsummary : [(Entry.summary c : Entry k).record].filter (limit.isShown ·.level) =
      [⟨.info, "ingest stats: " ++ c.write⟩] := List.filter_cons_of_pos hshown
  rw [hlast, List.map_append, List.filter_append, List.map_singleton, hsummary,
    List.getLast?_concat]

end MediaIntake.Rehearsal
