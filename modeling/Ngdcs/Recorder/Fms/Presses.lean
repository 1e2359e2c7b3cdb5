import Ngdcs.Recorder.Fms.Questions

/-! Recording under the control of the FMS line. The data thread decides from the state at
the time of a sample, the main thread acts when the press is delivered and the questions of
test mode are answered. -/
namespace Recorder
open Runs DisplayTab

variable {cfg : Settings} {s t : DisplayTab} {e : RecorderEvent}

/-- Record presses that wait for the main thread. -/
def undeliveredPresses (s : DisplayTab) : ℕ := s.callbacks.count .pressRecordButton

/-- Record presses that wait for the main thread, or for the user. -/
def FmsWindow.pendingPresses (w : FmsWindow) : ℕ := undeliveredPresses w.tab + w.questions.length

/-- The window under FMS control has no record button to press. -/
def RecordedByLine (cfg : Settings) (s : DisplayTab) : Prop :=
  cfg.headless = false ∧ cfg.fmsControl = true ∧ s.controls.recordSensitive = false

/-- So only a callback records. -/
theorem RecordedByLine.press {u : DisplayTab} {r : OpenResult} {a : RecordReplies}
    (hs : RecordedByLine cfg s) (h : step cfg s e = some t)
    (press : recordPress s e = some (u, r, a)) :
    ∃ cs, s.callbacks = .pressRecordButton :: cs ∧ u = { s with callbacks := cs } := by
  obtain ⟨hwindow, -, hbutton⟩ := hs
  cases e with
  | onRecordButton r a => simp [step, hbutton] at h
  | headlessRecord r a => simp [step, hwindow] at h
  | callback r a =>
    simp only [recordPress, Option.ite_none_right_eq_some, Option.some.injEq,
      Prod.mk.injEq] at press
    obtain ⟨hhead, rfl, -, -⟩ := press
    obtain ⟨cs, hcs⟩ := List.head?_eq_some_iff.mp hhead
    exact ⟨cs, hcs, by rw [hcs, List.tail_cons]⟩
  | _ => simp [recordPress] at press

theorem RecordedByLine.of_controls (hs : RecordedByLine cfg s)
    (h : t.controls.recordSensitive = s.controls.recordSensitive) : RecordedByLine cfg t :=
  ⟨hs.1, hs.2.1, h.trans hs.2.2⟩

theorem RecordEffect.recordedByLine {r : OpenResult} {a : RecordReplies}
    (hs : RecordedByLine cfg s) (h : RecordEffect cfg s r a t) : RecordedByLine cfg t := by
  cases h with
  | cancelled given after => exact after ▸ hs
  | failed u given same files after =>
    subst after
    apply hs.of_controls
    cases r <;> exact congrArg Controls.recordSensitive same.controls
  | started u st given same files phase after =>
    subst after
    refine ⟨hs.1, hs.2.1, ?_⟩
    rw [enterPhase_controls]
    simp [leaveIdleForRecording, leaveIdleState, setMountIfFollowing, hs.1]

theorem DisplayTab.FrameEffect.controls_eq (h : FrameEffect cfg s t) :
    t.controls = s.controls := by
  cases h with
  | stays same => exact same.controls
  | enters st u before stop target after =>
    rw [after.controls, enterPhase_controls]
    exact before.controls

theorem SideEffect.recordSensitive_eq (hfms : cfg.fmsControl = true)
    (h : SideEffect cfg s e t) : t.controls.recordSensitive = s.controls.recordSensitive := by
  cases h with
  | quiet same calibration record stop => exact record
  | abort c event record after =>
    subst after
    exact record
  | refreshRecord cs queue after =>
    subst after
    simp [recordControlsUpdateWork, hfms]
  | sample first second event effect => cases effect <;> rfl
  | stop cs queue request after | stopIgnored cs queue insensitive after
  | refreshStop cs queue after =>
    subst after
    rfl

theorem step_recordedByLine (hs : RecordedByLine cfg s) (h : step cfg s e = some t) :
    RecordedByLine cfg t := by
  cases step_effect h with
  | records u r a press after =>
    obtain ⟨cs, rfl⟩ := recordPress_eq press
    have hu : RecordedByLine cfg { s with callbacks := cs } := hs
    exact (after ▸ recordButtonWork_effect cfg _ r a).recordedByLine hu
  | frame image w event effect idle =>
    exact hs.of_controls (congrArg Controls.recordSensitive effect.controls_eq)
  | poll event after =>
    subst after
    have heffect := noImageData_effect cfg s
    exact hs.of_controls (congrArg Controls.recordSensitive heffect.controls_eq)
  | side press event frame effect => exact hs.of_controls (effect.recordSensitive_eq hs.2.1)

theorem recordedByLine_initial (u : StartUp) (hwindow : cfg.headless = false)
    (hfms : cfg.fmsControl = true) : RecordedByLine cfg (initial cfg u) :=
  ⟨hwindow, hfms, by simp [initial, hfms]⟩

/-! ### How the queue of callbacks changes -/

theorem undeliveredPresses_enterPhase {st : RecordState} :
    undeliveredPresses (s.enterPhase cfg st) = undeliveredPresses s := by
  unfold undeliveredPresses
  rw [enterPhase_callbacks]
  cases st <;> cases cfg.headless <;> simp [phaseNotice]

theorem SameRecording.undeliveredPresses_eq (h : SameRecording s t) :
    undeliveredPresses t = undeliveredPresses s := by
  rw [undeliveredPresses, h.callbacks, undeliveredPresses]

theorem DisplayTab.FrameEffect.undeliveredPresses_eq (h : FrameEffect cfg s t) :
    undeliveredPresses t = undeliveredPresses s := by
  cases h with
  | stays same => exact same.undeliveredPresses_eq
  | enters st u before stop target after =>
    rw [after.undeliveredPresses_eq, undeliveredPresses_enterPhase]
    exact before.undeliveredPresses_eq

theorem RecordEffect.undeliveredPresses_eq {r : OpenResult} {a : RecordReplies}
    (h : RecordEffect cfg s r a t) : undeliveredPresses t = undeliveredPresses s := by
  cases h with
  | cancelled given after => rw [after]
  | failed u given same files after =>
    subst after
    cases r <;> exact same.undeliveredPresses_eq
  | started u st given same files phase after =>
    subst after
    rw [undeliveredPresses_enterPhase]
    exact same.undeliveredPresses_eq

/-- Only a sample of the high line, remembered as low, adds a press. -/
theorem SideEffect.undeliveredPresses_eq (h : SideEffect cfg s e t) :
    undeliveredPresses t = undeliveredPresses s ∨
      undeliveredPresses t = undeliveredPresses s + 1 ∧ e.samplesHigh = true ∧
        s.recordState = .notRecording ∧ s.lineHigh = false ∧ t.lineHigh = true := by
  cases h with
  | quiet same calibration record stop => exact Or.inl same.undeliveredPresses_eq
  | stop cs queue request after =>
    subst after
    left
    rcases queue with queue | queue <;> simp [undeliveredPresses, queue, stopButtonWork]
  | abort c event record after =>
    subst after
    exact Or.inl rfl
  | stopIgnored cs queue insensitive after | refreshRecord cs queue after
  | refreshStop cs queue after =>
    subst after
    left
    simp [undeliveredPresses, queue, recordControlsUpdateWork, stopButtonUpdateWork]
  | sample first second event effect =>
    subst event
    cases effect with
    | pressesRecord l low sampled state =>
      exact Or.inr ⟨by simp [undeliveredPresses, dispatch], sampled, state, low, rfl⟩
    | pressesStop l high sampled state =>
      left
      simp [undeliveredPresses, dispatch]
    | ignored l | raised l low state | lowered l high sampled state => exact Or.inl rfl

theorem CallEffect.undeliveredPresses_eq {r : OpenResult} {out : Option Bool}
    {p : DisplayTab × Option Question} (h : CallEffect cfg s r out p) :
    undeliveredPresses p.1 = undeliveredPresses s := by
  cases h with
  | asks t q same test => exact same.undeliveredPresses_eq
  | ends t effect => exact effect.undeliveredPresses_eq

theorem CallEffect.recordedByLine {r : OpenResult} {out : Option Bool}
    {p : DisplayTab × Option Question} (h : CallEffect cfg s r out p)
    (hs : RecordedByLine cfg s) : RecordedByLine cfg p.1 := by
  cases h with
  | asks t q same test => exact hs.of_controls (congrArg Controls.recordSensitive same.controls)
  | ends t effect => exact effect.recordedByLine hs

/-! ### Steps of the window -/

/-- What a step of the window does under control of the line: a pending press is taken up, from
the queue `cs` is left of or from the questions `qs` are left of, a recording is cancelled, or
the recorder does something else. -/
inductive FmsEffect (cfg : Settings) (w : FmsWindow) (e : FmsEvent) : FmsWindow → Prop where
  | takesUp (cs : List Callback) (qs : List Question) (r : OpenResult) (out : Option Bool)
      (p : DisplayTab × Option Question)
      (pending : w.pendingPresses =
        (⟨{ w.tab with callbacks := cs }, qs⟩ : FmsWindow).pendingPresses + 1)
      (effect : CallEffect cfg { w.tab with callbacks := cs } r out p) :
      FmsEffect cfg w e ⟨p.1, p.2.toList ++ qs⟩
  | cancels (q : Question) (qs : List Question) (asked : w.questions = q :: qs) :
      FmsEffect cfg w e ⟨w.tab, qs⟩
  | goesOn (e' : RecorderEvent) (t : DisplayTab) (event : e = .recorder e')
      (press : recordPress w.tab e' = none) (after : step cfg w.tab e' = some t) :
      FmsEffect cfg w e ⟨t, w.questions⟩

theorem window_effect {w v : FmsWindow} {e : FmsEvent} (hw : RecordedByLine cfg w.tab)
    (h : w.step cfg e = some v) : FmsEffect cfg w e v := by
  cases e with
  | recorder e =>
    simp only [FmsWindow.step, Option.ite_none_left_eq_some] at h
    obtain ⟨-, h⟩ := h
    split at h
    next hpress =>
      obtain ⟨t, ht, rfl⟩ := Option.map_eq_some_iff.mp h
      exact .goesOn e t rfl hpress ht
    next u r a hpress =>
      simp only [Option.ite_none_right_eq_some, Option.some.injEq] at h
      obtain ⟨hstep, rfl⟩ := h
      obtain ⟨t, ht⟩ := Option.isSome_iff_exists.mp hstep
      obtain ⟨cs, hqueue, rfl⟩ := hw.press ht hpress
      apply FmsEffect.takesUp cs w.questions r a.outOfSpace _ _ (recordFromOBC_effect cfg _ r _)
      simp [FmsWindow.pendingPresses, undeliveredPresses, hqueue]
      omega
  | answered yes r out =>
    simp only [FmsWindow.step] at h
    split at h
    · simp at h
    next q qs hasked =>
      obtain rfl := Option.some.inj h
      split_ifs
      · apply FmsEffect.takesUp w.tab.callbacks qs r out _ _ (q.confirmed_effect cfg _ r out)
        simp [FmsWindow.pendingPresses, hasked, undeliveredPresses]
        omega
      · exact .cancels q qs hasked

/-- As `dark2Only`, with the line in control. -/
def dark2ByLine : Settings := { dark2Only with fmsControl := true }

/-- As `dark2ByLine`, in test mode. -/
def testByLine : Settings := { dark2ByLine with operationalMode := false }

/-- A start at the lowest frame rate, which test mode asks about. -/
def slowStart : StartUp := { plainStart with blockFrameRate := 0, fbFrameRate := 0 }

end Recorder
