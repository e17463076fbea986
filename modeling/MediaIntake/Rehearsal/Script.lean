import MediaIntake.Intake.Endpoint
import MediaIntake.Rehearsal.Failure
import MediaIntake.Rehearsal.Options
/-! # Rehearsals

A rehearsal plays the part of a source for one endpoint: it negotiates a format, delivers a
number of synthetic samples while the graph is running, and ends with the endpoint's counters.

* **Audio** proposes interleaved 16-bit samples and delivers blocks of ten milliseconds of
  silence, then one late sample after the graph has stopped.
* **Video** requests a size, proposes what the endpoint advertises for it, delivers a grey
  frame every forty milliseconds, and tries to reconfigure while the graph is running.

The consumer takes every buffer and records what it received.
-/
namespace MediaIntake.Rehearsal

/-- What a rehearsal records: the events of its endpoint and notes of its own. -/
inductive Entry (k : Kind) where
  | event (e : Event k)
  | prefers (mediaType : MediaType)
  | received (buffer : Buffer k)
  | refusedAsExpected
  | summary (counters : Counters)
  deriving DecidableEq

namespace Entry
variable {k : Kind}

def level : Entry k → Level
  | .event e => e.level
  | .prefers _ => .info
  | .received _ => .info
  | .refusedAsExpected => .warn
  | .summary _ => .info

def receivedText : {k : Kind} → Buffer k → String
  | .audio, b =>
    "received " ++ toString b.data.size ++ " bytes at " ++ b.timestamp.text ++ " ms for "
      ++ Millis.text b.duration ++ " ms"
  | .video, b =>
    let size : VideoDescriptor := b.descriptor
    "received " ++ toString size.width.toNat ++ "x" ++ toString size.height.toNat ++ " "
      ++ FourCC.i420.text ++ " frame of " ++ toString b.data.size ++ " bytes at "
      ++ b.timestamp.text ++ " ms"

def message : Entry k → String
  | .event e => e.message
  | .prefers t => "endpoint prefers " ++ t.text
  | .received b => receivedText b
  | .refusedAsExpected => "reconfiguration while running was refused, as expected"
  | .summary c => "ingest stats: " ++ c.write

end Entry

/-- A rehearsal that has ended: all it recorded, and why it stopped early if it did. -/
structure Report (k : Kind) where
  entries : List (Entry k)
  failure : Option Failure
  deriving DecidableEq

/-- The exit status that a report leads to. -/
def Report.exitCode {k : Kind} (r : Report k) : Nat := if r.failure.isSome then 1 else 0

/-- What a report leaves on standard error. -/
def Report.errorText {k : Kind} (r : Report k) : String :=
  match r.failure with
  | some f => "Error: " ++ f.inspect ++ "\n"
  | none => ""

/-! ## Steps -/

variable {k : Kind}

/-- What a call records, the consumer's note last. -/
def entriesOf (o : Outcome k) : List (Entry k) :=
  o.events.map .event ++ o.received.toList.map .received

/-- Makes a call; an error of it ends the rehearsal. -/
def attempt (e : Endpoint k) (call : Call k)
    (next : Endpoint k → Report k) : Report k :=
  let (outcome, e) := e.step call
  match outcome.result with
  | .failed error => ⟨entriesOf outcome, some (.call error)⟩
  | .dropped error => ⟨entriesOf outcome, some (.sample error)⟩
  | _ =>
    let report := next e
    { report with entries := entriesOf outcome ++ report.entries }

/-- Delivers samples one after the other. -/
def deliverAll (e : Endpoint k) (next : Endpoint k → Report k) : List Delivery → Report k
  | [] => next e
  | d :: ds => attempt e (.deliver d) fun e => deliverAll e next ds

/-- How many media types the endpoints of a kind advertise. -/
def offerCount : Kind → Nat
  | .audio => AudioDescriptor.subtypes.length
  | .video => 1

theorem lt_offerCount {index : Nat} {requested : k.Descriptor} {t : MediaType}
    (h : k.advertised? index requested = some t) : index < offerCount k := by
  cases k with
  | audio =>
    obtain ⟨subtype, hsubtype, -⟩ := Option.map_eq_some_iff.mp h
    exact (List.getElem?_eq_some_iff.mp hsubtype).1
  | video =>
    cases index with
    | zero => exact Nat.one_pos
    | succ index => cases h

/-- Only so many questions for a media type are answered with one. -/
theorem lt_offerCount_of_step {e : Endpoint k} {index : Nat} {t : MediaType}
    (h : (e.step (.enumerate index)).1.result = .mediaType (some t)) : index < offerCount k := by
  have hlocked : e.step (.enumerate index) = e.locked fun e => (e.enumerate index, e) := rfl
  have hresult : (e.step (.enumerate index)).1.result =
      .mediaType (k.advertised? index e.requested) := by
    rw [hlocked, Endpoint.locked]
    split <;> rfl
  rw [hresult] at h
  injection h with hadvertised
  exact lt_offerCount hadvertised

/-- Asks for the media types from an index on and notes each, until there is none. -/
def askFrom (e : Endpoint k) (index : Nat) : List (Entry k) × Endpoint k :=
  let asked := e.step (.enumerate index)
  match h : asked.1.result with
  | .mediaType (some t) =>
    have : index < offerCount k := lt_offerCount_of_step h
    let (entries, last) := askFrom asked.2 (index + 1)
    (entriesOf asked.1 ++ .prefers t :: entries, last)
  | _ => (entriesOf asked.1, asked.2)
termination_by offerCount k - index

/-- The last entry of a rehearsal: what the endpoint has counted. -/
def summarize (e : Endpoint k) : Report k := ⟨[.summary e.counters], none⟩

/-- So many equal bytes. -/
def solid (size : Nat) (byte : UInt8) : ByteArray :=
  size.fold (fun _ _ bytes => bytes.push byte) (.emptyWithCapacity size)

@[simp] theorem size_solid (size : Nat) (byte : UInt8) : (solid size byte).size = size := by
  have h (count capacity : Nat) :
      (count.fold (fun _ _ bytes => bytes.push byte) (ByteArray.emptyWithCapacity capacity)).size
        = count := by
    induction count with
    | zero => rfl
    | succ count ih => rw [Nat.fold_succ, ByteArray.size_push, ih]
  exact h size size

/-! ## Audio -/

/-- Length of an audio block in milliseconds. -/
def audioBlock : Nat := 10

/-- The wave record that the options propose. -/
def Options.wave (o : Options) : WaveFormat := .pcm o.channels o.rate 16

/-- The proposal of an audio rehearsal. -/
def Options.audioProposal (o : Options) : MediaType :=
  { major := some .audio, subtype := some .pcm, formatType := some .waveFormat,
    block := o.wave.encode }

/-- The bytes of one audio block. -/
def Options.audioPayload (o : Options) : ByteArray :=
  solid (o.rate.toNat * audioBlock / 1000 * o.wave.blockAlign.toNat) 0

/-- The ticks at a time in milliseconds. -/
def ticksAt (millis : Nat) : Ticks := Millis.toTicks ⟨Int64.ofNat millis⟩

/-- The audio block of an index. -/
def audioDelivery (payload : ByteArray) (index : Nat) : Delivery :=
  { state := .running,
    sample := ⟨.answers payload,
      .answers ⟨ticksAt (index * audioBlock), some (ticksAt ((index + 1) * audioBlock))⟩⟩ }

/-- A sample that arrives after the graph has stopped. -/
def lateDelivery (payload : ByteArray) : Delivery :=
  { state := .stopped, sample := ⟨.answers payload, .answers ⟨⟨0⟩, none⟩⟩ }

/-- The late sample: only a benign failure lets the rehearsal go on. -/
def deliverLate (e : Endpoint k) (payload : ByteArray) : Report k :=
  let (outcome, e) := e.step (.deliver (lateDelivery payload))
  match outcome.result with
  | .dropped error =>
    if error.isBenign then
      let report := summarize e
      { report with entries := entriesOf outcome ++ report.entries }
    else ⟨entriesOf outcome, some (.sample error)⟩
  | _ =>
    let report := summarize e
    { report with entries := entriesOf outcome ++ report.entries }

def audio (o : Options) : Report .audio :=
  let payload := o.audioPayload
  let (asked, e) := askFrom (.init .audio) 0
  let report := attempt e (.propose o.audioProposal) fun e =>
    deliverAll e (deliverLate · payload)
      ((List.range o.samples.toNat).map (audioDelivery payload))
  { report with entries := asked ++ report.entries }

/-! ## Video -/

/-- Time between frames in milliseconds. -/
def framePeriod : Nat := 40

/-- The frame of an index. -/
def videoDelivery (payload : ByteArray) (index : Nat) : Delivery :=
  { state := .running,
    sample := ⟨.answers payload, .answers ⟨ticksAt (index * framePeriod), none⟩⟩ }

/-- The attempt to reconfigure a running endpoint. -/
def reconfigure (e : Endpoint .video) : Report .video :=
  let (outcome, e) := e.step (.configure .running VideoDescriptor.empty)
  let noted : List (Entry .video) :=
    match outcome.result with
    | .failed _ => [.refusedAsExpected]
    | _ => []
  let report := summarize e
  { report with entries := entriesOf outcome ++ noted ++ report.entries }

/-- A video rehearsal with the size to request. -/
def videoOf (samples : Nat) (requested : VideoDescriptor) : Report .video :=
  attempt (.init .video) (.configure .stopped requested) fun e =>
    let (offer, e) := e.step (.enumerate 0)
    let report : Report .video :=
      match offer.result with
      | .mediaType (some t) =>
        let payload := solid t.sampleSize.toNat 0x80
        attempt e (.propose t) fun e =>
          deliverAll e reconfigure ((List.range samples).map (videoDelivery payload))
      | _ => ⟨[], some .unadvertised⟩
    { report with entries := entriesOf offer ++ report.entries }

/-- A video rehearsal: a configuration file, read beforehand, overrides the options. -/
def video (o : Options) (file : Option (Except FileFault String)) : Report .video :=
  match file with
  | none => videoOf o.samples.toNat ⟨o.width, o.height⟩
  | some (.error fault) => ⟨[], some (.file fault)⟩
  | some (.ok text) =>
    match VideoDescriptor.schema.read text with
    | .error error => ⟨[], some (.call (.configuration error))⟩
    | .ok requested => videoOf o.samples.toNat requested

/-! ## Results -/

/-- A record of the log. -/
structure Record where
  level : Level
  message : String
  deriving DecidableEq, Repr

/-- What a rehearsal leaves behind. -/
structure Result where
  exitCode : Nat
  records : List Record
  errorText : String
  deriving DecidableEq, Repr

/-- The result of a report, with the records up to a level. -/
def Report.result (r : Report k) (limit : Level) : Result :=
  let record (e : Entry k) : Record := ⟨e.level, e.message⟩
  ⟨r.exitCode, (r.entries.map record).filter (limit.isShown ·.level), r.errorText⟩

/-- Runs a rehearsal. `file` is what reading the configuration file gave, if one is named. -/
def Options.rehearse (o : Options) (file : Option (Except FileFault String)) (limit : Level) :
    Result :=
  match o.kind with
  | .audio => (audio o).result limit
  | .video => (video o file).result limit

end MediaIntake.Rehearsal
