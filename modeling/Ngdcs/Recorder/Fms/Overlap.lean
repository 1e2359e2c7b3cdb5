import Ngdcs.Recorder.Fms.Presses

/-! Recordings that the FMS line starts should not overlap: each set of files is closed, with
its header, before the next is opened. -/
namespace Recorder
open Runs DisplayTab

variable {cfg : Settings} {s t : DisplayTab} {e : RecorderEvent} {w v : FmsWindow} {k : ℕ}

/-- Every set of files that was opened has its header, but for the one that is open. -/
def HeadersWritten (s : DisplayTab) : Prop :=
  s.history.opened = s.history.headers.map Prod.fst ++ s.files.imageHdrFP.toList

instance : Decidable (HeadersWritten s) := inferInstanceAs (Decidable (_ = _))

/-- `recordButtonWork` runs in the idle state from its call to its end, with every set of files
closed that was opened. -/
def RecordingsDontOverlap (w : FmsWindow) (e : FmsEvent) (v : FmsWindow) : Prop :=
  (w.inRecordButtonWork e = true →
      w.tab.recordState = .notRecording ∧ w.tab.files = .closed) ∧ HeadersWritten v.tab

instance {e : FmsEvent} : Decidable (RecordingsDontOverlap w e v) :=
  inferInstanceAs (Decidable (_ ∧ _))

/-- No sample presses the record button while an earlier press waits for the main thread or for
the user, and no stop outlives its recording until a poll finds no data. -/
def OnePressAtATime (cfg : Settings) (w : FmsWindow) (e : FmsEvent) (_ : FmsWindow) : Prop :=
  (e.samplesHigh = true → w.tab.recordState = .notRecording → w.tab.lineHigh = false →
      w.pendingPresses = 0) ∧
    (e.findsNoData = true → ¬StopOutlivedRecording cfg w.tab)

instance {e : FmsEvent} : Decidable (OnePressAtATime cfg w e v) :=
  inferInstanceAs (Decidable (_ ∧ _))

/-- The invariant: at most one press is pending, `k` of them before the user, and only in the
idle state. -/
structure PressesWhenIdle (cfg : Settings) (k : ℕ) (s : DisplayTab) : Prop where
  byLine : RecordedByLine cfg s
  single : undeliveredPresses s + k ≤ 1
  idle : undeliveredPresses s + k ≠ 0 → s.recordState = .notRecording
  files : FilesMatch s
  headers : HeadersWritten s

theorem headersWritten_enterPhase {st : RecordState} (hs : HeadersWritten s) :
    HeadersWritten (s.enterPhase cfg st) := by
  unfold HeadersWritten at hs ⊢
  by_cases hst : st = .notRecording
  · subst hst
    have hfst : Prod.fst ∘ (fun n : ℕ => (n, s.framesWritten)) = id := rfl
    rw [enterPhase_opened, hs]
    simp [enterPhase, enterIdleState_headers, OutputFiles.closed, hfst]
  · rw [enterPhase_opened, enterPhase_headers cfg s hst, enterPhase_files cfg s hst, hs]

theorem HeadersWritten.of_same (hs : HeadersWritten s) (h : SameFiles s t) :
    HeadersWritten t := by
  unfold HeadersWritten at hs ⊢
  rw [h.opened, h.headers, h.files, hs]

theorem DisplayTab.FrameEffect.headersWritten (h : FrameEffect cfg s t) (hs : HeadersWritten s) :
    HeadersWritten t := by
  cases h with
  | stays same => exact hs.of_same same.sameFiles
  | enters st u before stop target after =>
    have hu : HeadersWritten u := hs.of_same
      ⟨before.recordState, before.files, before.currentRecording, before.opened, before.headers,
        before.ended, before.unlinked⟩
    exact (headersWritten_enterPhase hu).of_same after.sameFiles

/-- With no file open the next set may be opened. -/
theorem RecordEffect.headersWritten {r : OpenResult} {a : RecordReplies}
    (h : RecordEffect cfg s r a t) (hclosed : s.files = .closed) (hs : HeadersWritten s) :
    HeadersWritten t := by
  cases h with
  | cancelled given after => exact after ▸ hs
  | failed u given same files after =>
    subst after
    have hu := hs.of_same same.sameFiles
    have hfiles := openFiles_files_of_closed files (same.files.trans hclosed)
    unfold HeadersWritten at hu ⊢
    rw [same.files.trans hclosed] at hu
    rw [hfiles]
    cases r <;> first | exact hu | contradiction
  | started u st given same files phase after =>
    subst after
    apply headersWritten_enterPhase
    have hu := hs.of_same same.sameFiles
    unfold HeadersWritten at hu ⊢
    rw [same.files.trans hclosed] at hu
    simpa [DisplayTab.openFiles, leaveIdleForRecording, leaveIdleState, setMountIfFollowing,
      OutputFiles.openedBy, OutputFiles.closed] using hu

theorem PressesWhenIdle.closed (hs : PressesWhenIdle cfg k s)
    (hpending : undeliveredPresses s + k ≠ 0) :
    s.recordState = .notRecording ∧ s.files = .closed := by
  have hidle := hs.idle hpending
  exact ⟨hidle, by simpa [FilesMatch, hidle] using hs.files⟩

/-- A press is taken up, and no other is pending then. -/
theorem PressesWhenIdle.takesUp {cs : List Callback} {r : OpenResult} {out : Option Bool} {j : ℕ}
    {p : DisplayTab × Option Question} (hs : PressesWhenIdle cfg k s)
    (hpending : undeliveredPresses s + k = undeliveredPresses { s with callbacks := cs } + j + 1)
    (h : CallEffect cfg { s with callbacks := cs } r out p) :
    PressesWhenIdle cfg (p.2.toList.length + j) p.1 := by
  have hline := h.recordedByLine (show RecordedByLine cfg { s with callbacks := cs } from hs.byLine)
  have hpresses := h.undeliveredPresses_eq
  obtain ⟨hidle, hclosed⟩ := hs.closed (by omega)
  have hsingle := hs.single
  have hu : FilesMatch { s with callbacks := cs } := hs.files.of_same rfl rfl
  have hheaders : HeadersWritten { s with callbacks := cs } := hs.headers
  have hnone : undeliveredPresses p.1 = 0 ∧ j = 0 := by omega
  cases h with
  | asks t q same test =>
    exact
      { byLine := hline
        single := by simp [hnone.1, hnone.2]
        idle := fun _ => same.recordState.trans hidle
        files := hu.of_same same.recordState same.files
        headers := hheaders.of_same same.sameFiles }
  | ends t effect =>
    exact
      { byLine := hline
        single := by simp [hnone.1, hnone.2]
        idle := fun hne => absurd (by simp [hnone.1, hnone.2]) hne
        files := (effect.filesFollow hu).2 (Or.inl hidle)
        headers := effect.headersWritten hclosed hheaders }

/-- A call is cancelled. -/
theorem PressesWhenIdle.cancels (hs : PressesWhenIdle cfg (k + 1) s) : PressesWhenIdle cfg k s where
  byLine := hs.byLine
  single := by
    have := hs.single
    omega
  idle _ := hs.idle (by omega)
  files := hs.files
  headers := hs.headers

theorem PressesWhenIdle.of_same (hs : PressesWhenIdle cfg k s) (h : SameRecording s t) :
    PressesWhenIdle cfg k t where
  byLine := hs.byLine.of_controls (congrArg Controls.recordSensitive h.controls)
  single := h.undeliveredPresses_eq ▸ hs.single
  idle hne := h.recordState.trans (hs.idle (h.undeliveredPresses_eq ▸ hne))
  files := hs.files.of_same h.recordState h.files
  headers := hs.headers.of_same h.sameFiles

theorem PressesWhenIdle.frame (hs : PressesWhenIdle cfg k s)
    (hrec : s.recordState ≠ .notRecording) (h : FrameEffect cfg s t) :
    PressesWhenIdle cfg k t where
  byLine := hs.byLine.of_controls (congrArg Controls.recordSensitive h.controls_eq)
  single := h.undeliveredPresses_eq ▸ hs.single
  idle hne := absurd (hs.idle (h.undeliveredPresses_eq ▸ hne)) hrec
  files := h.filesMatch hs.files hrec
  headers := h.headersWritten hs.headers

/-- A poll finds nothing in the idle state, or closes no files. -/
theorem PressesWhenIdle.poll (hs : PressesWhenIdle cfg k s)
    (hno : ¬StopOutlivedRecording cfg s) : PressesWhenIdle cfg k (s.noImageData cfg) := by
  by_cases hidle : s.recordState = .notRecording
  · rcases noImageData_idle hidle hno with h | h
    · exact h.symm ▸ hs
    · have heffect := noImageData_effect cfg s
      exact
        { byLine := hs.byLine.of_controls (congrArg Controls.recordSensitive heffect.controls_eq)
          single := heffect.undeliveredPresses_eq ▸ hs.single
          idle := fun _ => by rw [h]; rfl
          files := by rw [h]; rfl
          headers := heffect.headersWritten hs.headers }
  · exact hs.frame hidle (noImageData_effect cfg s)

/-- The recorder does something else than taking up a press. -/
theorem PressesWhenIdle.goesOn (hs : PressesWhenIdle cfg k s)
    (hhigh : e.samplesHigh = true → s.recordState = .notRecording → s.lineHigh = false →
      undeliveredPresses s + k = 0)
    (hpoll : e.findsNoData = true → ¬StopOutlivedRecording cfg s)
    (hpress : recordPress s e = none) (h : step cfg s e = some t) : PressesWhenIdle cfg k t := by
  have hline := step_recordedByLine hs.byLine h
  cases step_effect h with
  | records u r a press after => simp [hpress] at press
  | frame image w event effect idle =>
    by_cases hidle : s.recordState = .notRecording
    · exact hs.of_same (idle hidle)
    · exact hs.frame hidle effect
  | poll event after =>
    subst event after
    exact hs.poll (hpoll rfl)
  | side press event frame effect =>
    have hfiles := effect.sameFiles
    have hpresses : undeliveredPresses t + k ≤ 1 ∧
        (undeliveredPresses t + k ≠ 0 → t.recordState = .notRecording) := by
      rw [hfiles.recordState]
      rcases effect.undeliveredPresses_eq with hsame | ⟨hmore, hsample, hidle, hlow, -⟩
      · rw [hsame]
        exact ⟨hs.single, hs.idle⟩
      · have hnone := hhigh hsample hidle hlow
        exact ⟨by omega, fun _ => hidle⟩
    exact
      { byLine := hline
        single := hpresses.1
        idle := hpresses.2
        files := hs.files.of_same hfiles.recordState hfiles.files
        headers := hs.headers.of_same hfiles }

theorem window_pressesWhenIdle {e : FmsEvent}
    (hw : PressesWhenIdle cfg w.questions.length w.tab) (hone : OnePressAtATime cfg w e v)
    (h : w.step cfg e = some v) : PressesWhenIdle cfg v.questions.length v.tab := by
  cases window_effect hw.byLine h with
  | takesUp cs qs r out p pending effect =>
    rw [List.length_append]
    exact hw.takesUp pending effect
  | cancels q qs asked =>
    rw [asked] at hw
    exact hw.cancels
  | goesOn e' t event press after =>
    subst event
    exact hw.goesOn hone.1 hone.2 press after

/-- Inside of `recordButtonWork` a press is pending. -/
theorem pendingPresses_of_inRecordButtonWork {e : FmsEvent} (hw : RecordedByLine cfg w.tab)
    (h : w.step cfg e = some v) (hin : w.inRecordButtonWork e = true) : w.pendingPresses ≠ 0 := by
  have hasked (hquestions : (!w.questions.isEmpty) = true) : w.pendingPresses ≠ 0 := by
    cases hqs : w.questions <;> simp [hqs, FmsWindow.pendingPresses] at hquestions ⊢
  cases e with
  | answered yes r out => exact hasked hin
  | recorder e =>
    rcases Bool.or_eq_true_iff.mp hin with hsome | hquestions
    · obtain ⟨⟨u, r, a⟩, hpress⟩ := Option.isSome_iff_exists.mp hsome
      simp only [FmsWindow.step, hpress, Option.ite_none_left_eq_some,
        Option.ite_none_right_eq_some] at h
      obtain ⟨t, ht⟩ := Option.isSome_iff_exists.mp h.2.1
      obtain ⟨cs, hqueue, -⟩ := hw.press ht hpress
      simp [FmsWindow.pendingPresses, undeliveredPresses, hqueue]
    · exact hasked hquestions

/-- Under control of the line, recordings do not overlap in any run in which no second press is
sent off before the first is delivered and its questions are answered. -/
theorem fms_recordings_dont_overlap (cfg : Settings) (u : StartUp) (es : List FmsEvent)
    (hwindow : cfg.headless = false) (hfms : cfg.fmsControl = true)
    (hone : EachStep (FmsWindow.step cfg) (OnePressAtATime cfg) (FmsWindow.initial cfg u) es) :
    EachStep (FmsWindow.step cfg) RecordingsDontOverlap (FmsWindow.initial cfg u) es := by
  have hinit : PressesWhenIdle cfg 0 (initial cfg u) :=
    { byLine := recordedByLine_initial u hwindow hfms
      single := by simp [undeliveredPresses, initial]
      idle := fun _ => rfl
      files := filesMatch_initial cfg u
      headers := rfl }
  have hkeep (w : FmsWindow) (e : FmsEvent) (v : FmsWindow)
      (hw : PressesWhenIdle cfg w.questions.length w.tab) (hq : OnePressAtATime cfg w e v)
      (h : w.step cfg e = some v) : PressesWhenIdle cfg v.questions.length v.tab :=
    window_pressesWhenIdle hw hq h
  refine EachStep.of_invariant hkeep ?_ hinit hone
  intro w e v hw hq h
  refine ⟨fun hin => ?_, (window_pressesWhenIdle hw hq h).headers⟩
  exact hw.closed (pendingPresses_of_inRecordButtonWork hw.byLine h hin)

/-- A recording in test mode, whose question is answered after a frame and a sample, and a second
one. -/
def testModeTalk : List FmsEvent :=
  [.recorder (.testDigitalLineTransition true true), .recorder (.callback .ok yesToAll),
    .recorder (.imageFrame emptyLine1 allWritten),
    .recorder (.testDigitalLineTransition true true), .answered true .ok none,
    .recorder (.callback .ok yesToAll), .recorder (.imageFrame emptyLine1 allWritten),
    .recorder (.testDigitalLineTransition false false), .recorder (.callback .ok yesToAll),
    .recorder (.imageFrame emptyLine1 allWritten), .recorder (.imageFrame emptyLine1 allWritten),
    .recorder (.callback .ok yesToAll), .recorder (.testDigitalLineTransition true true),
    .recorder (.callback .ok yesToAll), .answered true .ok none]

theorem fms_recordings_dont_overlap_twice :
    (run (FmsWindow.step testByLine) (FmsWindow.initial testByLine slowStart)
        testModeTalk).isSome = true ∧
      EachStep (FmsWindow.step testByLine) RecordingsDontOverlap
        (FmsWindow.initial testByLine slowStart) testModeTalk :=
  ⟨by decide +kernel,
    fms_recordings_dont_overlap testByLine slowStart _ rfl rfl (by decide +kernel)⟩

/-- The line goes high, low and high again before the first press is delivered, or before its
question is answered. The second press opens a second set of files during the recording, and the
first is never closed. -/
theorem fms_glitch_overlaps_recordings :
    ¬EachStep (FmsWindow.step dark2ByLine) RecordingsDontOverlap
        (FmsWindow.initial dark2ByLine plainStart)
        [.recorder (.testDigitalLineTransition true true),
          .recorder (.testDigitalLineTransition false false),
          .recorder (.testDigitalLineTransition true true),
          .recorder (.callback .ok yesToAll), .recorder (.callback .ok yesToAll)] ∧
      ¬EachStep (FmsWindow.step testByLine) RecordingsDontOverlap
        (FmsWindow.initial testByLine slowStart)
        [.recorder (.testDigitalLineTransition true true), .recorder (.callback .ok yesToAll),
          .recorder (.testDigitalLineTransition false false),
          .recorder (.testDigitalLineTransition true true),
          .recorder (.callback .ok yesToAll), .answered true .ok none,
          .answered true .ok none] :=
  ⟨by decide +kernel, by decide +kernel⟩

end Recorder
