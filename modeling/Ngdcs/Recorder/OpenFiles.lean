import Ngdcs.Recorder.Steps

/-! Which files are open in which state. The four flight-line files should be open exactly
while a recording is in progress. -/
namespace Recorder
open Runs DisplayTab

variable {cfg : Settings} {s t : DisplayTab} {e : RecorderEvent}

/-- The files are open exactly while recording, and only `recordButtonWork` starts a recording,
with the files open. -/
def FilesFollowRecording (s : DisplayTab) (e : RecorderEvent) (t : DisplayTab) : Prop :=
  (t.recordState ≠ .notRecording ↔ t.files.AllOpen) ∧
    (s.recordState = .notRecording → t.recordState ≠ .notRecording →
      (recordPress s e).map (fun p => p.2.1) = some .ok)

instance : Decidable (FilesFollowRecording s e t) := inferInstanceAs (Decidable (_ ∧ _))

/-- Some ending calibration phase is not switched off. -/
def HasEndingPhase (cfg : Settings) : Prop :=
  0 < cfg.dark2CalPeriodInSecs ∨ 0 < cfg.mediumCalPeriodInSecs ∨
    0 < cfg.brightCalPeriodInSecs ∨ 0 < cfg.laserCalPeriodInSecs

instance : Decidable (HasEndingPhase cfg) := inferInstanceAs (Decidable (_ ∨ _))

/-- A stop is still pending after the recording has ended by itself, and a poll without data
would take it for the stop of a recording. -/
def StopOutlivedRecording (cfg : Settings) (s : DisplayTab) : Prop :=
  s.recordState = .notRecording ∧ s.stopRequested = true ∧ s.stopIsAbort = false ∧
    s.obcFollows cfg = true ∧ HasEndingPhase cfg

instance : Decidable (StopOutlivedRecording cfg s) := inferInstanceAs (Decidable (_ ∧ _))

/-- A poll without data finds no such stop, and `openFiles` does not fail in the middle of a
recording. -/
def NoStrayStopOrOpen (cfg : Settings) (s : DisplayTab) (e : RecorderEvent)
    (_ : DisplayTab) : Prop :=
  (e = .noImageData → ¬StopOutlivedRecording cfg s) ∧
    ∀ u r a, recordPress s e = some (u, r, a) →
      s.recordState = .notRecording ∨ r = .ok ∨ UserCancels cfg u a

/-- The invariant behind the property: also, no file is open when idle. -/
def FilesMatch (s : DisplayTab) : Prop :=
  if s.recordState = .notRecording then s.files = .closed else s.files.AllOpen

theorem filesMatch_initial (cfg : Settings) (u : StartUp) : FilesMatch (initial cfg u) := rfl

theorem FilesMatch.iff (h : FilesMatch s) : s.recordState ≠ .notRecording ↔ s.files.AllOpen := by
  unfold FilesMatch at h
  split_ifs at h with hs
  · simp [hs, h, OutputFiles.not_allOpen_closed]
  · exact iff_of_true hs h

theorem FilesMatch.of_same (h : FilesMatch s) (hstate : t.recordState = s.recordState)
    (hfiles : t.files = s.files) : FilesMatch t := by
  unfold FilesMatch at h ⊢
  rw [hstate, hfiles]
  exact h

theorem filesMatch_enterPhase {st : RecordState} (h : st = .notRecording ∨ s.files.AllOpen) :
    FilesMatch (s.enterPhase cfg st) := by
  unfold FilesMatch
  rw [enterPhase_recordState]
  split_ifs with hst
  · subst hst
    rfl
  · rw [enterPhase_files cfg s hst]
    exact h.resolve_left hst

theorem DisplayTab.FrameEffect.filesMatch (h : FrameEffect cfg s t) (hs : FilesMatch s)
    (hrec : s.recordState ≠ .notRecording) : FilesMatch t := by
  cases h with
  | stays same => exact hs.of_same same.recordState same.files
  | enters st u before stop target after =>
    have hopen : u.files.AllOpen := by
      rw [before.files]
      exact hs.iff.mp hrec
    exact (filesMatch_enterPhase (Or.inr hopen)).of_same after.recordState after.files

theorem nextPhase_science_eq : nextPhase cfg .science = .notRecording ↔ ¬HasEndingPhase cfg := by
  simp only [nextPhase, laterPhases, List.find?, calPeriod, HasEndingPhase]
  by_cases h2 : 0 < cfg.dark2CalPeriodInSecs
  · simp [h2]
  by_cases hm : 0 < cfg.mediumCalPeriodInSecs
  · simp [h2, hm]
  by_cases hb : 0 < cfg.brightCalPeriodInSecs
  · simp [h2, hm, hb]
  by_cases hl : 0 < cfg.laserCalPeriodInSecs <;> simp [h2, hm, hb, hl]

theorem stopPhase_eq_notRecording :
    s.stopPhase cfg = .notRecording ↔ ¬(s.obcFollows cfg = true ∧ HasEndingPhase cfg) := by
  unfold stopPhase
  split_ifs with h
  · simp [h, nextPhase_science_eq]
  · simp [h]

/-- Any other stop found by a poll in the idle state leads to the idle state again. -/
theorem noImageData_idle (hs : s.recordState = .notRecording) (h : ¬StopOutlivedRecording cfg s) :
    s.noImageData cfg = s ∨
      s.noImageData cfg = { s with stopRequested := false }.enterIdleState cfg := by
  by_cases hstop : s.stopRequested = true
  · right
    have htarget : (if s.stopIsAbort then RecordState.notRecording else s.stopPhase cfg) =
        .notRecording := by
      split_ifs with habort
      · rfl
      · rw [stopPhase_eq_notRecording]
        exact fun hphase => h ⟨hs, hstop, by simpa using habort, hphase⟩
    rw [noImageData_eq cfg s hstop, htarget]
    rfl
  · left
    rw [noImageData, if_neg hstop]

/-- A stop that outlived its recording leads out of the idle state, with the files as they
were. -/
theorem noImageData_stopOutlived (h : StopOutlivedRecording cfg s) :
    (s.noImageData cfg).recordState ≠ .notRecording ∧ (s.noImageData cfg).files = s.files := by
  obtain ⟨hs, hstop, habort, hphase⟩ := h
  have hne : s.stopPhase cfg ≠ .notRecording := by
    rw [ne_eq, stopPhase_eq_notRecording, not_not]
    exact hphase
  rw [noImageData_eq cfg s hstop, habort]
  exact ⟨by simpa using hne, enterPhase_files cfg _ hne⟩

theorem openFiles_files_of_closed {r : OpenResult} (h : r ≠ .ok) (hfiles : s.files = .closed) :
    (s.openFiles r).files = .closed := by
  cases r <;> simp_all [openFiles, OutputFiles.closed]

theorem openFiles_imageFP {r : OpenResult} (h : r ≠ .ok) :
    (s.openFiles r).files.imageFP = none := by
  cases r <;> simp_all [openFiles, OutputFiles.closed]

@[simp] theorem openFiles_recordState {r : OpenResult} :
    (s.openFiles r).recordState = s.recordState := by cases r <;> rfl

/-- `recordButtonWork` breaks the property only by failing to open files while recording. -/
theorem RecordEffect.filesFollow {r : OpenResult} {a : RecordReplies}
    (h : RecordEffect cfg s r a t) (hs : FilesMatch s) :
    ((t.recordState ≠ .notRecording ↔ t.files.AllOpen) ∧
        (s.recordState = .notRecording → t.recordState ≠ .notRecording → r = .ok) ↔
      s.recordState = .notRecording ∨ r = .ok ∨ UserCancels cfg s a) ∧
    (s.recordState = .notRecording ∨ r = .ok ∨ UserCancels cfg s a →
      FilesMatch t) := by
  cases h with
  | cancelled given after =>
    subst after
    simp only [given, or_true, iff_true, hs.iff, true_and]
    exact ⟨fun h hne => absurd h (hs.iff.mpr hne), fun _ => hs⟩
  | failed u given same files after =>
    subst after
    by_cases hidle : s.recordState = .notRecording
    · have hu : u.recordState = .notRecording := same.recordState.trans hidle
      have hclosed : u.files = .closed := by
        rw [same.files]
        simpa [FilesMatch, hidle] using hs
      have hfiles := openFiles_files_of_closed files hclosed
      simp [hu, hidle, hfiles, OutputFiles.not_allOpen_closed, FilesMatch]
    · have hu : u.recordState ≠ .notRecording := by rwa [same.recordState]
      have hnone := openFiles_imageFP (s := u) files
      simp [hu, hidle, files, given, hnone, OutputFiles.AllOpen]
  | started u st given same files phase after =>
    subst after files
    have hopen : ((u.openFiles .ok).leaveIdleForRecording cfg).files.AllOpen :=
      OutputFiles.allOpen_openedBy _
    have hmatch : FilesMatch (((u.openFiles .ok).leaveIdleForRecording cfg).enterPhase cfg st) :=
      filesMatch_enterPhase (Or.inr hopen)
    simpa [hmatch] using hmatch.iff

theorem filesFollowRecording_of_press {u : DisplayTab} {r : OpenResult} {a : RecordReplies}
    (press : recordPress s e = some (u, r, a)) : FilesFollowRecording s e t ↔
      (t.recordState ≠ .notRecording ↔ t.files.AllOpen) ∧
        (s.recordState = .notRecording → t.recordState ≠ .notRecording → r = .ok) := by
  simp [FilesFollowRecording, press]

theorem noStrayStopOrOpen_of_press {u : DisplayTab} {r : OpenResult} {a : RecordReplies}
    (press : recordPress s e = some (u, r, a)) : NoStrayStopOrOpen cfg s e t ↔
      s.recordState = .notRecording ∨ r = .ok ∨ UserCancels cfg u a := by
  have hpoll : e ≠ .noImageData := by
    rintro rfl
    simp [recordPress] at press
  simp [NoStrayStopOrOpen, press, hpoll]

/-- Where nothing is pressed and the state stays as it is, the property is that of the files. -/
theorem filesFollowRecording_of_match (ht : FilesMatch t)
    (hstays : s.recordState = .notRecording → t.recordState = .notRecording) :
    FilesFollowRecording s e t :=
  ⟨ht.iff, fun hs hne => absurd (hstays hs) hne⟩

theorem noStrayStopOrOpen_of_quiet (press : recordPress s e = none) (event : e ≠ .noImageData) :
    NoStrayStopOrOpen cfg s e t := by
  exact ⟨fun h => absurd h event, by simp [press]⟩

/-- What one step does to the property, from a state in which the files match. -/
theorem step_filesFollow (hs : FilesMatch s) (h : step cfg s e = some t) :
    (FilesFollowRecording s e t ↔ NoStrayStopOrOpen cfg s e t) ∧
      (NoStrayStopOrOpen cfg s e t → FilesMatch t) := by
  cases step_effect h with
  | records u r a press after =>
    obtain ⟨cs, rfl⟩ := recordPress_eq press
    have hu : FilesMatch { s with callbacks := cs } := hs.of_same rfl rfl
    rw [filesFollowRecording_of_press press, noStrayStopOrOpen_of_press press, after]
    exact (recordButtonWork_effect cfg _ r a).filesFollow hu
  | frame image w event effect idle =>
    have ht : FilesMatch t := by
      by_cases hidle : s.recordState = .notRecording
      · exact hs.of_same (idle hidle).recordState (idle hidle).files
      · exact effect.filesMatch hs hidle
    have hstays : s.recordState = .notRecording → t.recordState = .notRecording :=
      fun hidle => (idle hidle).recordState.trans hidle
    subst event
    exact ⟨iff_of_true (filesFollowRecording_of_match ht hstays)
      (noStrayStopOrOpen_of_quiet rfl (by simp)), fun _ => ht⟩
  | poll event after =>
    subst event after
    by_cases hidle : s.recordState = .notRecording
    · have hclosed : s.files = .closed := by simpa [FilesMatch, hidle] using hs
      by_cases hstop : StopOutlivedRecording cfg s
      · obtain ⟨hleaves, hfiles⟩ := noImageData_stopOutlived hstop
        have hbreaks : ¬FilesFollowRecording s .noImageData (s.noImageData cfg) := by
          intro hfollow
          have hopen := hfollow.1.mp hleaves
          rw [hfiles, hclosed] at hopen
          exact OutputFiles.not_allOpen_closed hopen
        have hguard : ¬NoStrayStopOrOpen cfg s .noImageData (s.noImageData cfg) :=
          fun hguard => hguard.1 rfl hstop
        exact ⟨iff_of_false hbreaks hguard, fun h => absurd h hguard⟩
      · have ht : (s.noImageData cfg).recordState = .notRecording ∧
            (s.noImageData cfg).files = .closed := by
          rcases noImageData_idle hidle hstop with h | h <;> rw [h]
          · exact ⟨hidle, hclosed⟩
          · exact ⟨rfl, rfl⟩
        have hmatch : FilesMatch (s.noImageData cfg) := by simp [FilesMatch, ht]
        have hguard : NoStrayStopOrOpen cfg s .noImageData (s.noImageData cfg) :=
          ⟨fun _ => hstop, by simp [recordPress]⟩
        exact ⟨iff_of_true (filesFollowRecording_of_match hmatch fun _ => ht.1) hguard,
          fun _ => hmatch⟩
    · have ht := (noImageData_effect cfg s).filesMatch hs hidle
      have hguard : NoStrayStopOrOpen cfg s .noImageData (s.noImageData cfg) :=
        ⟨fun _ hstop => hidle hstop.1, by simp [recordPress]⟩
      exact ⟨iff_of_true (filesFollowRecording_of_match ht (absurd · hidle)) hguard,
        fun _ => ht⟩
  | side press event frame effect =>
    have same := effect.sameFiles
    have ht := hs.of_same same.recordState same.files
    exact ⟨iff_of_true (filesFollowRecording_of_match ht (same.recordState.trans ·))
      (noStrayStopOrOpen_of_quiet press event), fun _ => ht⟩

/-- In every run of the program from its start, the files are open exactly while recording,
and only `recordButtonWork` leaves the idle state, as long as no stop outlives its recording
until a poll finds no data and `openFiles` does not fail in the middle of a recording; the
first step of either kind breaks it. -/
theorem files_follow_recording_iff (cfg : Settings) (u : StartUp) (es : List RecorderEvent) :
    EachStep (step cfg) FilesFollowRecording (initial cfg u) es ↔
      EachStep (step cfg) (NoStrayStopOrOpen cfg) (initial cfg u) es :=
  eachStep_iff_of_invariant (fun _ _ _ hs h => (step_filesFollow hs h).1)
    (fun _ _ _ hs hguard h => (step_filesFollow hs h).2 hguard) (filesMatch_initial cfg u)

/-- Automatic OBC, no starting calibration, one second of dark 2 at one frame a second. -/
def dark2Only : Settings where
  headless := false
  operationalMode := true
  obcInterface := true
  mountUsed := false
  fmsControl := false
  dark1CalPeriodInSecs := 0
  dark2CalPeriodInSecs := 1
  mediumCalPeriodInSecs := 0
  brightCalPeriodInSecs := 0
  laserCalPeriodInSecs := 0
  frameHeightLines := 481
  frameWidthSamples := 640
  availableFrameRatesInHz := fun _ => 1

/-- A start with space on the disk, the maximal frame rate and the FMS line low. -/
def plainStart : StartUp where
  outOfSpace := false
  allgpsFP := true
  allppsFP := true
  blockFrameRate := numFrameRates - 1
  fbFrameRate := numFrameRates - 1
  lineHigh := false
  darkFrame := fun _ => 0
  darkFrameBuffered := false

def yesToAll : RecordReplies := ⟨true, true, true, none⟩

/-- A frame without GPS or PPS words. -/
def emptyLine1 : ℕ → UInt16 := fun _ => 0xDEAD

def allWritten : WriteOutcome := ⟨1000, 1000, 1000, 1000, 1000⟩

/-- The image write fails on the frame behind the stop, which ends the recording but leaves
the stop pending; the next poll without data enters dark 2 without files. -/
theorem stray_stop_enters_dark2 : ¬EachStep (step dark2Only) FilesFollowRecording
    (initial dark2Only plainStart)
    [.onRecordButton .ok yesToAll, .callback .ok yesToAll, .onStopButton,
      .imageFrame emptyLine1 { allWritten with image := 0 }, .noImageData] := by
  decide +kernel

end Recorder
