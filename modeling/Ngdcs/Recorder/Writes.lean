import Ngdcs.Recorder.OpenFiles

/-! Failed writes. A short write of the GPS or PPS words of a frame should end the recording
every time, as a short write of its image does. -/
namespace Recorder
open Runs DisplayTab

/-- `fwrite` would take fewer words than line 1 holds for the file. -/
def shortWrite (fp : Bool) (image : ℕ → UInt16) (imageOffset maxByteCount accepted : ℕ) : Bool :=
  fp && (line1Words image imageOffset maxByteCount).any fun words =>
    decide (accepted < words.length)

theorem writeDataFromLine1_eq (fp : Bool) (image : ℕ → UInt16)
    (imageOffset maxByteCount : ℕ) (suppression : Bool) (accepted : ℕ) :
    writeDataFromLine1 fp image imageOffset maxByteCount suppression accepted =
      (shortWrite fp image imageOffset maxByteCount accepted && !suppression,
        shortWrite fp image imageOffset maxByteCount accepted || suppression) := by
  unfold writeDataFromLine1 shortWrite
  cases fp with
  | false => simp
  | true =>
    rcases line1Words image imageOffset maxByteCount with _ | words
    · simp
    · by_cases h : accepted < words.length
      · have hne : min accepted words.length ≠ words.length := by omega
        cases suppression <;> simp [h, hne]
      · have heq : min accepted words.length = words.length := by omega
        simp [h, heq]

namespace DisplayTab

variable (cfg : Settings) (s : DisplayTab)

def shortGPSWrite (image : ℕ → UInt16) (w : WriteOutcome) : Bool :=
  shortWrite s.files.gpsFP.isSome image gpsImageOffset maxGPSDataBytes w.gps

def shortPPSWrite (image : ℕ → UInt16) (w : WriteOutcome) : Bool :=
  shortWrite s.files.ppsFP.isSome image ppsImageOffset maxPPSDataBytes w.pps

/-- Some write of the frame fails and is not silenced by an earlier failure of its kind. -/
def reportedFailure (image : ℕ → UInt16) (w : WriteOutcome) : Bool :=
  s.shortGPSWrite image w && !s.suppress.gps || s.shortPPSWrite image w && !s.suppress.pps ||
    decide (w.image < cfg.frameHeightLines)

/-- The frame is written only while recording with space on the disk. -/
def writesFrames : Bool := decide (s.recordState ≠ .notRecording) && !s.outOfSpace

theorem writeImageFrame_failed {w : WriteOutcome} {failed : Bool} {t : DisplayTab}
    (h : s.writeImageFrame cfg w = some (failed, t)) :
    failed = decide (w.image < cfg.frameHeightLines) ∧ t.outOfSpace = s.outOfSpace := by
  unfold writeImageFrame at h
  obtain ⟨n, -, h⟩ := Option.map_eq_some_iff.mp h
  split_ifs at h with hshort
  · obtain ⟨rfl, rfl⟩ := Prod.mk.inj h
    exact ⟨(decide_eq_true (by omega)).symm, rfl⟩
  · obtain ⟨rfl, rfl⟩ := Prod.mk.inj h
    exact ⟨(decide_eq_false (by omega)).symm, rfl⟩

theorem writeFrame_failed {image : ℕ → UInt16} {w : WriteOutcome} {failed : Bool}
    {t : DisplayTab} (h : s.writeFrame cfg image w = some (failed, t)) :
    failed = s.reportedFailure cfg image w ∧ t.outOfSpace = s.outOfSpace := by
  have hgps : s.writeFlightlineGPSData image w = (s.shortGPSWrite image w && !s.suppress.gps,
      { s with suppress :=
        { s.suppress with gps := s.shortGPSWrite image w || s.suppress.gps } }) := by
    rw [writeFlightlineGPSData, writeDataFromLine1_eq]
    rfl
  have hpps (g : Bool) :
      { s with suppress := { s.suppress with gps := g } }.writePPSData image w =
        (s.shortPPSWrite image w && !s.suppress.pps, { s with suppress :=
          { s.suppress with
            gps := g
            pps := s.shortPPSWrite image w || s.suppress.pps } }) := by
    rw [writePPSData, writeDataFromLine1_eq]
    rfl
  unfold writeFrame at h
  rw [hgps] at h
  unfold reportedFailure
  cases hg : s.shortGPSWrite image w && !s.suppress.gps with
  | true =>
    rw [hg] at h
    obtain ⟨rfl, rfl⟩ := Prod.mk.inj (Option.some.inj h)
    simp
  | false =>
    rw [hg] at h
    simp only [hpps] at h
    cases hp : s.shortPPSWrite image w && !s.suppress.pps with
    | true =>
      rw [hp] at h
      obtain ⟨rfl, rfl⟩ := Prod.mk.inj (Option.some.inj h)
      simp
    | false =>
      rw [hp] at h
      simpa using writeImageFrame_failed cfg _ h

theorem advance_outOfSpace : (s.advance cfg).outOfSpace = s.outOfSpace := by
  have hcount (next : DisplayTab → DisplayTab) (st : RecordState)
      (hnext : ∀ u, next u = u.enterPhase cfg st) :
      (s.countDown next).outOfSpace = s.outOfSpace := by
    unfold countDown
    simp only
    split_ifs
    · rw [hnext, enterPhase_outOfSpace]
    · rfl
  unfold advance
  split
  · exact hcount _ .science fun _ => rfl
  · split_ifs
    · rw [stopScience_eq, enterPhase_outOfSpace]
    · rfl
  · exact hcount _ _ (afterDark2_eq cfg)
  · exact hcount _ _ (afterMedium_eq cfg)
  · exact hcount _ _ (afterBright_eq cfg)
  · exact hcount _ .notRecording fun _ => rfl
  · rfl

theorem goesOn_outOfSpace :
    (if s.stopRequested && s.stopIsAbort then ({ s with stopRequested := false }).enterIdleState cfg
      else s.advance cfg).outOfSpace = s.outOfSpace := by
  split_ifs
  · rfl
  · exact advance_outOfSpace cfg s

/-- A frame ends the recording for want of space exactly when one of its writes fails and is
not silenced. -/
theorem imageFrame_outOfSpace {image : ℕ → UInt16} {w : WriteOutcome} {t : DisplayTab}
    (hwrites : s.writesFrames = true) (h : s.imageFrame cfg image w = some t) :
    t.recordState = .notRecording ∧ t.outOfSpace = true ↔
      s.reportedFailure cfg image w = true := by
  simp only [writesFrames, Bool.and_eq_true, decide_eq_true_eq, Bool.not_eq_true'] at hwrites
  obtain ⟨hrec, hspace⟩ := hwrites
  have hrec' : (s.noteFrame cfg image).recordState ≠ .notRecording := hrec
  have hspace' : (s.noteFrame cfg image).outOfSpace = false := hspace
  have hreported : ((s.noteFrame cfg image).writeEndToEndData image w).reportedFailure cfg
      image w = s.reportedFailure cfg image w := rfl
  simp only [imageFrame, hspace', Bool.false_eq_true, if_false, if_neg hrec', recordFrame] at h
  obtain ⟨⟨failed, u⟩, hwritten, rfl⟩ := Option.map_eq_some_iff.mp h
  obtain ⟨hfailed, hu⟩ := writeFrame_failed cfg _ hwritten
  rw [← hreported, ← hfailed]
  cases failed with
  | true => exact iff_of_true ⟨rfl, rfl⟩ rfl
  | false =>
    refine iff_of_false (?_) (by simp)
    intro hends
    have hfull : u.outOfSpace = true := (goesOn_outOfSpace cfg u).symm.trans hends.2
    have hspace'' : u.outOfSpace = false := hu.trans hspace
    simp [hspace''] at hfull

end DisplayTab

variable {cfg : Settings} {s t : DisplayTab} {e : RecorderEvent}

/-- The GPS or the PPS words of the frame are cut short by `fwrite`. -/
def shortLine1Write (s : DisplayTab) : RecorderEvent → Bool
  | .imageFrame image w =>
    s.writesFrames && (s.shortGPSWrite image w || s.shortPPSWrite image w)
  | _ => false

def ShortWriteEndsRecording (s : DisplayTab) (e : RecorderEvent) (t : DisplayTab) : Prop :=
  shortLine1Write s e = true → t.recordState = .notRecording ∧ t.outOfSpace = true

instance : Decidable (ShortWriteEndsRecording s e t) := inferInstanceAs (Decidable (_ → _))

/-- Some failed write of the frame is the first of its kind since the program started, or is
that of the image. -/
def failureReported (cfg : Settings) (s : DisplayTab) : RecorderEvent → Bool
  | .imageFrame image w => s.reportedFailure cfg image w
  | _ => false

/-- No short write comes after another of its kind, unless the same frame has a failed write
that does not. -/
def ShortWriteReported (cfg : Settings) (s : DisplayTab) (e : RecorderEvent)
    (_ : DisplayTab) : Prop :=
  shortLine1Write s e = true → failureReported cfg s e = true

theorem step_shortWrite (h : step cfg s e = some t) :
    ShortWriteEndsRecording s e t ↔ ShortWriteReported cfg s e t := by
  unfold ShortWriteEndsRecording ShortWriteReported
  cases e with
  | imageFrame image w =>
    apply imp_congr_right
    intro hshort
    have hwrites : s.writesFrames = true := (Bool.and_eq_true_iff.mp hshort).1
    exact imageFrame_outOfSpace cfg s hwrites h
  | _ => simp [shortLine1Write]

/-- In every run of the program, the short writes of GPS and PPS words end the recording as
long as none of them is silenced by an earlier one; the first that is silenced does not. -/
theorem short_write_ends_recording_iff (cfg : Settings) (u : StartUp)
    (es : List RecorderEvent) :
    EachStep (step cfg) ShortWriteEndsRecording (initial cfg u) es ↔
      EachStep (step cfg) (ShortWriteReported cfg) (initial cfg u) es := by
  apply eachStep_congr
  exact fun _ _ _ h => step_shortWrite h

/-- Two words of GPS data, and no PPS data. -/
def twoGPSWords : ℕ → UInt16 := fun i =>
  if i = gpsImageOffset / 2 then 1 else if i = gpsImageOffset / 2 + 1 then 2 else 0xDEAD

/-- The second recording goes on without its GPS data. -/
theorem second_short_write_is_silent :
    ¬EachStep (step dark2Only) ShortWriteEndsRecording (initial dark2Only plainStart)
      [.onRecordButton .ok yesToAll, .imageFrame twoGPSWords { allWritten with gps := 1 },
        .updateResourcesDisplay (some false), .callback .ok yesToAll, .callback .ok yesToAll,
        .onRecordButton .ok yesToAll, .imageFrame twoGPSWords { allWritten with gps := 1 }] := by
  decide +kernel

end Recorder
