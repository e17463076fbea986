import Mathlib.Algebra.Group.Nat.Defs
import MediaIntake.Proofs.Media.Conversions
import MediaIntake.Proofs.Rehearsal.Records
/-! # The results of a rehearsal

A rehearsal succeeds **just where its format is accepted and there are bytes in the samples that it
sends** (`audio_cases`, `video_cases`).  The times of its samples are small, so they come back from
ticks as they were (`toInt_toMillis_ticksAt`), and what the consumer notes of a sample follows from
its index.
-/
namespace MediaIntake.Rehearsal
variable {k : Kind}

/-! ## Notes -/

/-- A time within the range of ticks comes back as it was. -/
theorem toInt_toMillis_ticksAt {millis : Nat} (h : millis ≤ 922337203685477) :
    (ticksAt millis).toMillis.count.toInt = millis := by
  have hmillis : (Int64.ofNat millis).toInt = millis := Int64.toInt_ofNat_of_lt (by omega)
  rw [ticksAt, Millis.toInt_toMillis_toTicks, hmillis]
  omega

theorem text_of_toInt {m : Millis} {n : Nat} (h : m.count.toInt = n) : m.text = toString n :=
  congrArg Int.repr h

/-- What the consumer notes of the audio block of an index. -/
def blockNote (bytes index : Nat) : String :=
  "received " ++ toString bytes ++ " bytes at " ++ toString (10 * index) ++ " ms for "
    ++ toString 10 ++ " ms"

/-- **A block begins ten milliseconds after the one before it, and lasts as long.** -/
theorem receivedText_block (format : AudioDescriptor) (payload : ByteArray) {index : Nat}
    (h : index < 2 ^ 32) :
    Entry.receivedText (.package format (blockTimes index) payload : Buffer .audio) =
      blockNote payload.size index := by
  let start := ticksAt (index * audioBlock)
  let stop := ticksAt ((index + 1) * audioBlock)
  let duration : Millis := Kind.audio.duration ⟨start, some stop⟩
  have hlong (index : Nat) : index * audioBlock = 10 * index := Nat.mul_comm index 10
  have hstart : start.toMillis.count.toInt = _ :=
    toInt_toMillis_ticksAt (by rw [hlong]; omega)
  have hstop : stop.toMillis.count.toInt = _ :=
    toInt_toMillis_ticksAt (by rw [hlong]; omega)
  rw [hlong] at hstart hstop
  have hduration : duration.count.toInt = (10 : Nat) := by
    have hdifference : duration.count.toInt = _ := Kind.toInt_duration_audio start stop
    omega
  have htext : Entry.receivedText (.package format (blockTimes index) payload : Buffer .audio) =
      "received " ++ toString payload.size ++ " bytes at " ++ start.toMillis.text ++ " ms for "
        ++ duration.text ++ " ms" := rfl
  rw [htext, text_of_toInt hstart, text_of_toInt hduration]
  -- Unfolding the note by its equation would take the text apart letter by letter.
  rfl

/-- What the consumer notes of the video frame of an index. -/
def frameNote (width height bytes index : Nat) : String :=
  "received " ++ toString width ++ "x" ++ toString height ++ " " ++ "I420" ++ " frame of "
    ++ toString bytes ++ " bytes at " ++ toString (40 * index) ++ " ms"

/-- **A frame begins forty milliseconds after the one before it.** -/
theorem receivedText_frame (format : VideoDescriptor) (payload : ByteArray) {index : Nat}
    (h : index < 2 ^ 32) :
    Entry.receivedText (.package format (frameTimes index) payload : Buffer .video) =
      frameNote format.width.toNat format.height.toNat payload.size index := by
  let start := ticksAt (index * framePeriod)
  have hlong : index * framePeriod = 40 * index := Nat.mul_comm index 40
  have hstart : start.toMillis.count.toInt = _ :=
    toInt_toMillis_ticksAt (by rw [hlong]; omega)
  rw [hlong] at hstart
  have hcode : FourCC.i420.text = "I420" := by decide
  have htext : Entry.receivedText (.package format (frameTimes index) payload : Buffer .video) =
      "received " ++ toString format.width.toNat ++ "x" ++ toString format.height.toNat ++ " "
        ++ FourCC.i420.text ++ " frame of " ++ toString payload.size ++ " bytes at "
        ++ start.toMillis.text ++ " ms" := rfl
  rw [htext, hcode, text_of_toInt hstart]
  rfl

/-! ## What a result tells -/

/-- A result that tells of so many samples, each with the note of its index and in their order, and
of the counters at the end. -/
structure Result.Tells (r : Result) (samples : Nat) (note : Nat → String) (c : Counters) :
    Prop where
  receipts : r.records.filter (·.isReceipt) =
    (List.range samples).map fun index => ⟨.info, note index⟩
  summary : r.records.getLast? = some ⟨.info, "ingest stats: " ++ c.write⟩

/-- A sample that is taken is received once. -/
theorem filterMap_received?_taken (format : k.Descriptor) (payload : ByteArray)
    (times : SampleTimes) :
    (taken format payload times).filterMap Entry.received? = [.package format times payload] := by
  have hevents : ((k.timeEvents times).map Entry.event).filterMap Entry.received? = [] := by
    rw [List.filterMap_map]
    exact List.filterMap_eq_nil_iff.mpr fun _ _ => rfl
  rw [taken, List.filterMap_append, hevents]
  rfl

/-- **A report of samples that are all taken tells of them**, whatever else is in it. -/
theorem tells_of_taken {r : Report k} {before after : List (Entry k)} {format : k.Descriptor}
    {payload : ByteArray} {times : Nat → SampleTimes} {samples : Nat} {c : Counters}
    (hentries : r.entries = before ++
      (List.range samples).flatMap (fun index => taken format payload (times index)) ++
        (after ++ [.summary c]))
    (hbefore : before.filterMap Entry.received? = [])
    (hafter : after.filterMap Entry.received? = []) {note : Nat → String}
    (hnote : ∀ index < samples,
      Entry.receivedText (.package format (times index) payload) = note index)
    {limit : Level} (hshown : limit.isShown .info = true) :
    (r.result limit).Tells samples note c := by
  constructor
  · have hreceived : r.entries.filterMap Entry.received? =
        (List.range samples).map fun index => .package format (times index) payload := by
      rw [hentries, List.filterMap_append, List.filterMap_append, List.filterMap_append, hbefore,
        hafter, List.filterMap_flatMap]
      simp only [filterMap_received?_taken, List.map_eq_flatMap]
      exact List.append_nil _
    rw [filter_isReceipt_records r hshown, hreceived, List.map_map]
    refine List.map_congr_left fun index hindex => ?_
    exact congrArg (Record.mk .info) (hnote index (List.mem_range.mp hindex))
  · rw [← List.append_assoc] at hentries
    exact getLast?_records hentries hshown

/-! ## Audio -/

theorem isEmpty_eq_false_iff (bytes : ByteArray) : bytes.isEmpty = false ↔ 0 < bytes.size := by
  rw [ByteArray.isEmpty, beq_eq_false_iff_ne]
  omega

section Audio
variable (o : Options)

/-- A block has bytes in it if the rate gives it a whole frame. -/
theorem isEmpty_audioPayload_iff (hchannels : 1 ≤ o.channels.toNat) :
    o.audioPayload.isEmpty = false ↔ 100 ≤ o.rate.toNat := by
  have hframe : 0 < min 65535 (2 * o.channels.toNat) := by omega
  rw [isEmpty_eq_false_iff, size_audioPayload, Nat.mul_pos_iff_of_pos_right hframe]
  omega

/-- **An audio rehearsal succeeds just where its record lacks nothing and its blocks have bytes in
them, if it sends any.** -/
theorem exitCode_audio_eq_zero_iff :
    (audio o).exitCode = 0 ↔
      1 ≤ o.channels.toNat ∧ 1 ≤ o.rate.toNat ∧ (o.samples.toNat = 0 ∨ 100 ≤ o.rate.toNat) := by
  have hsound := flaw?_wave_eq_none_iff o
  cases hflaw : o.wave.flaw? with
  | some flaw =>
    have hlacks : ¬ (1 ≤ o.channels.toNat ∧ 1 ≤ o.rate.toNat) := by
      rw [← hsound, hflaw]
      exact Option.some_ne_none flaw
    rw [audio_of_flaw hflaw]
    exact ⟨fun h => absurd h Nat.one_ne_zero, fun h => absurd ⟨h.1, h.2.1⟩ hlacks⟩
  | none =>
    -- A rate too low for a frame is found out with the first block, so not where there is none.
    obtain ⟨hchannels, hrate⟩ := hsound.mp hflaw
    have hbytes := isEmpty_audioPayload_iff o hchannels
    by_cases htaken : o.samples.toNat = 0 ∨ 100 ≤ o.rate.toNat
    · rw [audio_of_taken hflaw (htaken.imp_right hbytes.mpr)]
      exact ⟨fun _ => ⟨hchannels, hrate, htaken⟩, fun _ => rfl⟩
    · obtain ⟨hsamples, hslow⟩ := not_or.mp htaken
      have hempty : o.audioPayload.isEmpty = true :=
        (Bool.eq_false_or_eq_true _).resolve_right fun h => hslow (hbytes.mp h)
      rw [audio_of_empty hflaw (Nat.pos_of_ne_zero hsamples) hempty]
      exact ⟨fun h => absurd h Nat.one_ne_zero, fun h => absurd h.2.2 htaken⟩

/-- **An audio rehearsal that succeeds tells of every block**, and counts the late sample too. -/
theorem tells_audio (h : (audio o).exitCode = 0) {limit : Level}
    (hshown : limit.isShown .info = true) :
    ((audio o).result limit).Tells o.samples.toNat
      (blockNote (o.rate.toNat / 100 * min 65535 (2 * o.channels.toNat)))
      ⟨o.samples.toNat + 1, o.samples.toNat, 0, 1⟩ := by
  obtain ⟨hchannels, hrate, htaken⟩ := (exitCode_audio_eq_zero_iff o).mp h
  have hflaw : o.wave.flaw? = none := (flaw?_wave_eq_none_iff o).mpr ⟨hchannels, hrate⟩
  have hreport := audio_of_taken hflaw (htaken.imp_right (isEmpty_audioPayload_iff o hchannels).mpr)
  refine tells_of_taken (congrArg Report.entries hreport) rfl rfl ?_ hshown
  intro index hindex
  rw [receivedText_block _ _ (hindex.trans o.samples.toNat_lt), size_audioPayload]

end Audio

/-! ## Video -/

/-- The size that a video rehearsal requests: that of the options, or in its place that of the
configuration file if there is one.  A file that cannot be read gives none. -/
def Options.size? (o : Options) (file : Option (Except FileFault String)) :
    Option VideoDescriptor :=
  match file with
  | none => some ⟨o.width, o.height⟩
  | some (.error _) => none
  | some (.ok text) => (VideoDescriptor.schema.read text).toOption

section Video
variable {requested : VideoDescriptor}

/-- A frame of a size has bytes in it. -/
theorem isEmpty_framePayload (h : 0 < requested.width.toNat ∧ 0 < requested.height.toNat) :
    (framePayload requested).isEmpty = false := by
  have hrow : 0 < (12 * min requested.width.toNat (2 ^ 31 - 1)) ⌈/⌉ 32 := by
    rw [Nat.ceilDiv_eq_add_pred_div]
    omega
  have hheight : 0 < min requested.height.toNat (2 ^ 31 - 1) := by omega
  rw [isEmpty_eq_false_iff, framePayload, size_solid,
    (VideoDescriptor.advertises_advertised requested).sampleSize]
  exact Nat.lt_min.mpr ⟨by decide, Nat.mul_pos (Nat.mul_pos (by decide) hrow) hheight⟩

theorem exitCode_videoOf_eq_zero_iff (samples : Nat) (requested : VideoDescriptor) :
    (videoOf samples requested).exitCode = 0 ↔
      1 ≤ requested.width.toNat ∧ 1 ≤ requested.height.toNat := by
  obtain ⟨hsize, haccepted⟩ | ⟨hsize, reason, hrejected⟩ :=
    VideoDescriptor.ofMediaType_advertised_cases requested
  · rw [videoOf_of_taken samples haccepted (isEmpty_framePayload hsize)]
    exact ⟨fun _ => hsize, fun _ => rfl⟩
  · rw [videoOf_of_rejected samples hrejected]
    exact ⟨fun h => absurd h Nat.one_ne_zero, fun h => absurd h hsize⟩

theorem tells_videoOf {samples : Nat} (hsamples : samples ≤ 2 ^ 32)
    (h : (videoOf samples requested).exitCode = 0) {limit : Level}
    (hshown : limit.isShown .info = true) :
    ((videoOf samples requested).result limit).Tells samples
      (frameNote (min requested.width.toNat (2 ^ 31 - 1)) (min requested.height.toNat (2 ^ 31 - 1))
        (VideoDescriptor.advertised requested).sampleSize.toNat)
      ⟨samples, samples, 0, 0⟩ := by
  have hsize := (exitCode_videoOf_eq_zero_iff samples requested).mp h
  obtain ⟨-, haccepted⟩ | ⟨hnone, -⟩ := VideoDescriptor.ofMediaType_advertised_cases requested
  · have hreport := videoOf_of_taken samples haccepted (isEmpty_framePayload hsize)
    obtain ⟨hwidth, hheight⟩ := VideoDescriptor.toNat_ofBitmap_advertised requested
    refine tells_of_taken (congrArg Report.entries hreport) rfl rfl ?_ hshown
    intro index hindex
    rw [receivedText_frame _ _ (hindex.trans_le hsamples), hwidth, hheight, framePayload,
      size_solid]
  · exact absurd hsize hnone

/-- A video rehearsal without a size to request ends at once. -/
theorem video_cases (o : Options) (file : Option (Except FileFault String)) :
    (∃ size, o.size? file = some size ∧ video o file = videoOf o.samples.toNat size) ∨
      o.size? file = none ∧ (video o file).exitCode = 1 := by
  cases file with
  | none => exact .inl ⟨_, rfl, rfl⟩
  | some content =>
    cases content with
    | error fault => exact .inr ⟨rfl, rfl⟩
    | ok text =>
      rw [Options.size?, video]
      cases VideoDescriptor.schema.read text with
      | error error => exact .inr ⟨rfl, rfl⟩
      | ok size => exact .inl ⟨size, rfl, rfl⟩

/-- **A video rehearsal succeeds just where there is a size to request**, with both sides. -/
theorem exitCode_video_eq_zero_iff (o : Options) (file : Option (Except FileFault String)) :
    (video o file).exitCode = 0 ↔
      ∃ size, o.size? file = some size ∧ 1 ≤ size.width.toNat ∧ 1 ≤ size.height.toNat := by
  obtain ⟨size, hsize, hvideo⟩ | ⟨hsize, hexit⟩ := video_cases o file
  · rw [hvideo, exitCode_videoOf_eq_zero_iff, hsize]
    simp
  · rw [hexit, hsize]
    simp

/-- **A video rehearsal that succeeds tells of every frame**, all of the size that it requested as
far as a signed field can say it. -/
theorem tells_video {o : Options} {file : Option (Except FileFault String)}
    (hsize : o.size? file = some requested) (h : (video o file).exitCode = 0) {limit : Level}
    (hshown : limit.isShown .info = true) :
    ((video o file).result limit).Tells o.samples.toNat
      (frameNote (min requested.width.toNat (2 ^ 31 - 1)) (min requested.height.toNat (2 ^ 31 - 1))
        (VideoDescriptor.advertised requested).sampleSize.toNat)
      ⟨o.samples.toNat, o.samples.toNat, 0, 0⟩ := by
  obtain ⟨size, hsame, hvideo⟩ | ⟨hnone, -⟩ := video_cases o file
  · obtain rfl : requested = size := Option.some.inj (hsize.symm.trans hsame)
    rw [hvideo] at h ⊢
    exact tells_videoOf (Nat.le_of_lt o.samples.toNat_lt) h hshown
  · exact absurd (hsize.symm.trans hnone) (Option.some_ne_none requested)

end Video

/-! ## All options -/

/-- **What becomes of a rehearsal, whatever its options and its file.**  One of audio succeeds just
where there are channels, a rate, and whole frames in ten milliseconds if there are blocks to fill
with them; it then tells of a block every ten milliseconds, and of one more sample that came too
late.  One of video succeeds just where it has a size to request, with both sides; it then tells of
a frame every forty milliseconds, of that size as far as a signed field can say it, and with as many
bytes as were advertised for it. -/
theorem rehearse_settled (o : Options) (file : Option (Except FileFault String)) (limit : Level) :
    let result := o.rehearse file limit
    let samples := o.samples.toNat
    (o.kind = .audio →
      (result.exitCode = 0 ↔
        1 ≤ o.channels.toNat ∧ 1 ≤ o.rate.toNat ∧ (samples = 0 ∨ 100 ≤ o.rate.toNat)) ∧
      (result.exitCode = 0 → limit.isShown .info = true →
        result.Tells samples
          (blockNote (o.rate.toNat / 100 * min 65535 (2 * o.channels.toNat)))
          { delivered := samples + 1, dispatched := samples, consumerFailures := 0,
            rejected := 1 })) ∧
    (o.kind = .video →
      (result.exitCode = 0 ↔
        ∃ size, o.size? file = some size ∧ 1 ≤ size.width.toNat ∧ 1 ≤ size.height.toNat) ∧
      ∀ size, o.size? file = some size → result.exitCode = 0 → limit.isShown .info = true →
        result.Tells samples
          (frameNote (min size.width.toNat (2 ^ 31 - 1)) (min size.height.toNat (2 ^ 31 - 1))
            (VideoDescriptor.advertised size).sampleSize.toNat)
          { delivered := samples, dispatched := samples, consumerFailures := 0,
            rejected := 0 }) := by
  intro result samples
  constructor
  · intro hkind
    have hresult : result = (audio o).result limit := by
      show o.rehearse file limit = _
      rw [Options.rehearse, hkind]
    rw [hresult]
    exact ⟨exitCode_audio_eq_zero_iff o, fun hexit hshown => tells_audio o hexit hshown⟩
  · intro hkind
    have hresult : result = (video o file).result limit := by
      show o.rehearse file limit = _
      rw [Options.rehearse, hkind]
    rw [hresult]
    exact ⟨exitCode_video_eq_zero_iff o file,
      fun size hsize hexit hshown => tells_video hsize hexit hshown⟩

/-- Two blocks at a rate that leaves part of a frame over, and two frames of a size from a file. -/
theorem short_rehearsals :
    let sound : Options := { samples := 2, rate := 44130, channels := 1 }
    let picture : Options := { kind := .video, samples := 2 }
    let file : Option (Except FileFault String) := some (.ok "\x7b\"width\":6,\"height\":2\x7d")
    (sound.kind = .audio ∧ (sound.rehearse none .info).exitCode = 0 ∧
      (sound.rehearse none .info).records.filter (·.isReceipt) =
        [⟨.info, "received 882 bytes at 0 ms for 10 ms"⟩,
          ⟨.info, "received 882 bytes at 10 ms for 10 ms"⟩]) ∧
    (picture.kind = .video ∧ picture.size? file = some ⟨6, 2⟩ ∧
      (picture.rehearse file .info).exitCode = 0 ∧ Level.info.isShown .info = true ∧
      (picture.rehearse file .info).records.filter (·.isReceipt) =
        [⟨.info, "received 6x2 I420 frame of 24 bytes at 0 ms"⟩,
          ⟨.info, "received 6x2 I420 frame of 24 bytes at 40 ms"⟩] ∧
      (picture.rehearse file .info).records.getLast? =
        some ⟨.info, "ingest stats: \x7b\"delivered\":2,\"dispatched\":2,"
          ++ "\"callback_failures\":0,\"rejected\":0\x7d"⟩) := by
  intro sound picture file
  have hshown : Level.info.isShown .info = true := rfl
  have hsize : picture.size? file = some ⟨6, 2⟩ := by decide
  obtain ⟨hsound, -⟩ := rehearse_settled sound none .info
  obtain ⟨-, hpicture⟩ := rehearse_settled picture file .info
  obtain ⟨hstarts, hblocks⟩ := hsound rfl
  obtain ⟨hopens, hframes⟩ := hpicture rfl
  have hstarted := hstarts.mpr (by decide)
  have hblock := hblocks hstarted hshown
  have hopened := hopens.mpr ⟨_, hsize, by decide⟩
  have hframe := hframes _ hsize hopened hshown
  refine ⟨⟨rfl, hstarted, ?_⟩, rfl, hsize, hopened, hshown, ?_, ?_⟩
  · rw [hblock.receipts]
    decide
  · rw [hframe.receipts]
    decide
  · rw [hframe.summary]
    decide

end MediaIntake.Rehearsal
