import MediaIntake.Proofs.Negotiation.Advertised
import MediaIntake.Proofs.Negotiation.Video
/-! # Negotiated sizes that are asked for again

The size that a video endpoint has negotiated can be made the requested one, and what is then
advertised can be proposed.  The size goes through signed fields twice: the negotiation drops the
sign of a height, and the advertisement stops at what a signed field can say.  **The size comes back
as it was unless the height was the least signed number** (`readvertised_size`): the magnitude of
that is one more than a signed field can say, and one is lost.
-/
namespace MediaIntake

namespace VideoDescriptor

/-- A valid size is advertised so that it can be negotiated. -/
theorem Valid.ofMediaType_advertised {c : VideoDescriptor} (h : c.Valid) :
    ofMediaType (advertised c) = .ok (ofBitmap (advertisedBitmap c)) := by
  obtain ⟨-, hok⟩ | ⟨hsize, -⟩ := ofMediaType_advertised_cases c
  · exact hok
  · exact absurd ⟨h.width_pos, h.height_pos⟩ hsize

/-- A valid size comes back unless it has the largest height that is valid. -/
theorem Valid.ofBitmap_advertised_eq_iff {c : VideoDescriptor} (h : c.Valid) :
    ofBitmap (advertisedBitmap c) = c ↔ c.height.toNat ≠ 2 ^ 31 := by
  have hwidth := h.width_le
  have hheight := h.height_le
  rw [VideoDescriptor.ofBitmap_advertised_eq_iff]
  omega

/-- The largest valid height comes back as one less. -/
theorem Valid.ofBitmap_advertised_of_height {c : VideoDescriptor} (h : c.Valid)
    (hheight : c.height.toNat = 2 ^ 31) :
    (ofBitmap (advertisedBitmap c)).width = c.width ∧
      (ofBitmap (advertisedBitmap c)).height.toNat = 2 ^ 31 - 1 := by
  obtain ⟨hw, hh⟩ := toNat_ofBitmap_advertised c
  constructor
  · exact UInt32.toNat_inj.mp (hw.trans (Nat.min_eq_left h.width_le))
  · rw [hh, hheight]
    rfl

/-- The magnitude of a height is the largest just if the height is the least signed number. -/
theorem height_eq_iff {t : MediaType} {c : VideoDescriptor} (h : ofMediaType t = .ok c) :
    c.height.toNat = 2 ^ 31 ↔ t.frameHeight = -2 ^ 31 := by
  obtain ⟨formatType, b, hformat, hb, rfl⟩ := exists_bitmap_of_ofMediaType h
  have hupper := b.height.toInt_lt
  obtain ⟨-, hheight⟩ := toNat_ofBitmap b
  rw [hheight, (frameSize_of_bitmapOf hformat hb).2]
  -- the signed range goes one further down than up
  omega

end VideoDescriptor

namespace Endpoint

/-- Where what is advertised can be negotiated, proposing it makes it the actual descriptor. -/
theorem proposeAdvertised_of_ok (e : Endpoint .video) {d : VideoDescriptor}
    (h : VideoDescriptor.ofMediaType (VideoDescriptor.advertised e.requested) = .ok d) :
    (e.proposeAdvertised 0).1.result = .done ∧ (e.proposeAdvertised 0).2.actual = d := by
  have hoffer : Kind.video.advertised? 0 e.requested =
      some (VideoDescriptor.advertised e.requested) := rfl
  have hpropose := e.recovered.step_propose_of_ok (t := VideoDescriptor.advertised e.requested) h
  rw [proposeAdvertised, step_enumerate, hoffer]
  dsimp only
  rw [hpropose]
  exact ⟨rfl, rfl⟩

/-- A valid size that is asked for is advertised, and negotiated as far as it can be said. -/
theorem proposeAdvertised_of_valid (e : Endpoint .video) {c : VideoDescriptor} (h : c.Valid) :
    (e.step (.configure .stopped c)).1.result = .done ∧
    ((e.step (.configure .stopped c)).2.proposeAdvertised 0).1.result = .done ∧
    ((e.step (.configure .stopped c)).2.proposeAdvertised 0).2.actual =
      VideoDescriptor.ofBitmap (VideoDescriptor.advertisedBitmap c) := by
  have hcall : (Call.configure .stopped c : Call .video).configuration? = some (.stopped, c) := rfl
  rw [e.step_of_granted hcall]
  refine ⟨rfl, ?_⟩
  exact proposeAdvertised_of_ok _ h.ofMediaType_advertised

/-- **A negotiated size comes back when it is asked for again**, on whatever endpoint, unless the
block that it was negotiated with says the least signed number for the height.  Of the height
`2 ^ 31` that this is read as, all but one comes back. -/
theorem readvertised_size {e : Endpoint .video} {t : MediaType}
    (h : (e.step (.propose t)).1.result = .done) (later : Endpoint .video) :
    let c : VideoDescriptor := (e.step (.propose t)).2.actual
    let configured := later.step (.configure .stopped c)
    let proposed := configured.2.proposeAdvertised 0
    let again : VideoDescriptor := proposed.2.actual
    configured.1.result = .done ∧ proposed.1.result = .done ∧
      (t.frameHeight ≠ -2 ^ 31 → again = c) ∧
      (t.frameHeight = -2 ^ 31 →
        c.height.toNat = 2 ^ 31 ∧ again.width = c.width ∧ again.height.toNat = 2 ^ 31 - 1) := by
  cases hn : VideoDescriptor.ofMediaType t with
  | error reason =>
    rw [e.step_propose_of_error (t := t) hn] at h
    cases h
  | ok c =>
    have hvalid : c.Valid := Kind.valid_of_negotiate (k := .video) hn
    have hheight := VideoDescriptor.height_eq_iff hn
    obtain ⟨hconfigured, hproposed, hagain⟩ := later.proposeAdvertised_of_valid hvalid
    rw [e.step_propose_of_ok (t := t) hn]
    refine ⟨hconfigured, hproposed, ?_, ?_⟩
    · intro hne
      rw [hagain, hvalid.ofBitmap_advertised_eq_iff, ne_eq, hheight]
      exact hne
    · intro heq
      have hc := hheight.mpr heq
      rw [hagain]
      exact ⟨hc, hvalid.ofBitmap_advertised_of_height hc⟩

/-- A frame that is stored from the top down comes back with the magnitude of its height. -/
theorem top_down_frame_readvertised :
    let bitmap := BitmapHeader.i420 640 (-480)
    let t := { VideoDescriptor.advertised {} with block := VideoInfo.encode { bitmap } }
    let c : VideoDescriptor := ⟨640, 480⟩
    ((init .video).step (.propose t)).1.result = .done ∧
    ((init .video).step (.propose t)).2.actual = c ∧
    (((init .video).step (.configure .stopped c)).2.proposeAdvertised 0).2.actual = c := by
  intro bitmap t c
  have hn : VideoDescriptor.ofMediaType t = .ok c := by decide
  have hstep := (init .video).step_propose_of_ok (t := t) hn
  have hdone : ((init .video).step (.propose t)).1.result = .done := by rw [hstep]
  have hactual : ((init .video).step (.propose t)).2.actual = c := by rw [hstep]
  have hheight : t.frameHeight ≠ -2 ^ 31 := by
    rw [ne_eq, ← VideoDescriptor.height_eq_iff hn]
    decide
  have hsize := readvertised_size hdone (init .video)
  rw [hactual] at hsize
  dsimp only at hsize
  exact ⟨hdone, hactual, hsize.2.2.1 hheight⟩

/-- **Not every negotiated size comes back.** -/
theorem least_height_not_readvertised :
    ¬ ∀ (e : Endpoint .video) (t : MediaType), (e.step (.propose t)).1.result = .done →
      let c := (e.step (.propose t)).2.actual
      let configured := (e.step (.propose t)).2.step (.configure .stopped c)
      let proposed := configured.2.proposeAdvertised 0
      configured.1.result = .done ∧ proposed.1.result = .done ∧ proposed.2.actual = c := by
  intro h
  let bitmap := BitmapHeader.i420 16 Int32.minValue
  let t := { VideoDescriptor.advertised {} with block := VideoInfo.encode { bitmap } }
  let c : VideoDescriptor := ⟨16, 2147483648⟩
  have hn : VideoDescriptor.ofMediaType t = .ok c := by decide
  have hstep := (init .video).step_propose_of_ok (t := t) hn
  have hactual : ((init .video).step (.propose t)).2.actual = c := by rw [hstep]
  -- the same endpoint goes on, and comes to one less than it started from
  have hagain := h (init .video) t (by rw [hstep])
  obtain ⟨-, -, hclamped⟩ := ((init .video).step (.propose t)).2.proposeAdvertised_of_valid
    (Kind.valid_of_negotiate (k := .video) hn)
  rw [hactual] at hagain
  dsimp only at hagain
  rw [hclamped] at hagain
  exact absurd hagain.2.2 (by decide)

end Endpoint
end MediaIntake
