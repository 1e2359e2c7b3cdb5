import Ngdcs.Recorder.Fms.Presses

/-! A recording that the FMS line starts should be stopped when the line drops. -/
namespace Recorder
open Runs DisplayTab

variable {cfg : Settings} {s t : DisplayTab} {e : RecorderEvent} {w v : FmsWindow} {k : ℕ}

/-- A recording that no sample of the low line will stop any more: nothing is requested or on
its way, and the line is remembered as low. -/
def StopLost (s : DisplayTab) : Prop :=
  (s.recordState = .dark1Cal ∨ s.recordState = .science) ∧ s.lineHigh = false ∧
    s.stopRequested = false ∧ .pressRecordButton ∉ s.callbacks ∧ .pressStopButton ∉ s.callbacks

instance : Decidable (StopLost s) := inferInstanceAs (Decidable (_ ∧ _))

/-- The line is not read as low while a record press waits for the main thread or for the user. -/
def LineHeldUntilRecord (w : FmsWindow) (e : FmsEvent) (_ : FmsWindow) : Prop :=
  e.samplesLow = true → w.pendingPresses = 0

instance {e : FmsEvent} : Decidable (LineHeldUntilRecord w e v) :=
  inferInstanceAs (Decidable (_ → _))

/-- The sensitivity of the stop button after a callback that does not request a stop. -/
def sensitiveAfter (sensitive : Bool) : Callback → Bool
  | .refreshRecordControls => false
  | .refreshStopButton => true
  | .pressRecordButton | .pressStopButton => sensitive

/-- Some stop press in the queue will find the stop button sensitive. -/
def stopWillTakeEffect : Bool → List Callback → Bool
  | _, [] => false
  | sensitive, c :: cs =>
    (sensitive && decide (c = .pressStopButton)) ||
      stopWillTakeEffect (sensitiveAfter sensitive c) cs

theorem stopWillTakeEffect_append (sensitive : Bool) (cs ds : List Callback) :
    stopWillTakeEffect sensitive (cs ++ ds) =
      (stopWillTakeEffect sensitive cs ||
        stopWillTakeEffect (cs.foldl sensitiveAfter sensitive) ds) := by
  induction cs generalizing sensitive with
  | nil => rfl
  | cons c cs ih => simp [stopWillTakeEffect, ih, Bool.or_assoc]

theorem pressStop_mem_of_stopWillTakeEffect {sensitive : Bool} {cs : List Callback}
    (h : stopWillTakeEffect sensitive cs = true) : .pressStopButton ∈ cs := by
  induction cs generalizing sensitive with
  | nil => simp [stopWillTakeEffect] at h
  | cons c cs ih =>
    simp only [stopWillTakeEffect, Bool.or_eq_true, Bool.and_eq_true, decide_eq_true_eq] at h
    rcases h with ⟨-, rfl⟩ | h
    · exact List.mem_cons_self
    · exact List.mem_cons_of_mem c (ih h)

/-- A stop is on its way, or the next sample of the low line sends one that will be heard. -/
def StopComes (s : DisplayTab) : Prop :=
  stopWillTakeEffect s.controls.stopSensitive s.callbacks = true ∨
    s.lineHigh = true ∧ s.callbacks.foldl sensitiveAfter s.controls.stopSensitive = true

/-- The invariant: the line is remembered as high from the press on, which waits for the main
thread or is one of `k` before the user, until a stop comes. -/
structure StopNotLost (cfg : Settings) (k : ℕ) (s : DisplayTab) : Prop where
  byLine : RecordedByLine cfg s
  single : undeliveredPresses s + k ≤ 1
  press : undeliveredPresses s + k ≠ 0 →
    s.lineHigh = true ∧ s.recordState ≠ .dark1Cal ∧ s.recordState ≠ .science
  dark1 : s.recordState = .dark1Cal → s.lineHigh = true
  science : s.recordState = .science → s.stopRequested = false → StopComes s

theorem StopNotLost.not_stopLost (hs : StopNotLost cfg k s) : ¬StopLost s := by
  rintro ⟨hrec | hrec, hlow, hstop, -, hpress⟩
  · simp [hs.dark1 hrec] at hlow
  · rcases hs.science hrec hstop with h | ⟨hhigh, -⟩
    · exact hpress (pressStop_mem_of_stopWillTakeEffect h)
    · simp [hhigh] at hlow

/-- Science is announced to the window, which makes the stop button sensitive. -/
theorem stopComes_enterScience (hwindow : cfg.headless = false) (hhigh : s.lineHigh = true) :
    StopComes (s.enterPhase cfg .science) := by
  refine Or.inr ⟨by simpa using hhigh, ?_⟩
  rw [enterPhase_callbacks, hwindow]
  simp [phaseNotice, sensitiveAfter]

theorem StopComes.of_same (hs : StopComes s) (hstop : t.controls.stopSensitive =
    s.controls.stopSensitive) (hqueue : t.callbacks = s.callbacks)
    (hline : s.lineHigh = true → t.lineHigh = true) : StopComes t := by
  unfold StopComes at hs ⊢
  rw [hstop, hqueue]
  exact hs.imp_right fun h => ⟨hline h.1, h.2⟩

/-- A callback that is not a stop press which is heard. -/
theorem StopComes.deliver {c : Callback} {cs : List Callback} (hs : StopComes s)
    (hqueue : s.callbacks = c :: cs)
    (hunheard : c = .pressStopButton → s.controls.stopSensitive = false)
    (hcs : t.callbacks = cs)
    (hstop : t.controls.stopSensitive = sensitiveAfter s.controls.stopSensitive c)
    (hline : t.lineHigh = s.lineHigh) : StopComes t := by
  have hhead : (s.controls.stopSensitive && decide (c = .pressStopButton)) = false := by
    by_cases hc : c = .pressStopButton
    · simp [hunheard hc]
    · simp [hc]
  unfold StopComes at hs ⊢
  rw [hqueue, stopWillTakeEffect, hhead, Bool.false_or, List.foldl_cons] at hs
  rw [hcs, hstop, hline]
  exact hs

/-- The stop press that a low sample sends will be heard, if no other is. -/
theorem StopComes.pressStop (hs : StopComes s) (l : Bool) :
    StopComes ({ s with lastResult := l, lineHigh := false }.dispatch .pressStopButton) := by
  apply Or.inl
  simp only [dispatch, stopWillTakeEffect_append, Bool.or_eq_true]
  apply hs.imp_right
  intro h
  rw [h.2]
  rfl

theorem SideEffect.stopComes (h : SideEffect cfg s e t) (hs : s.stopRequested = false → StopComes s)
    (hsci : s.recordState = .science) (hstop : t.stopRequested = false) : StopComes t := by
  cases h with
  | quiet same calibration record stop =>
    have hstop' : s.stopRequested = false := same.stopRequested ▸ hstop
    exact (hs hstop').of_same stop same.callbacks fun h => same.lineHigh ▸ h
  | stop cs queue request after | abort c event record after =>
    subst after
    cases hstop
  | stopIgnored cs queue insensitive after =>
    subst after
    exact (hs hstop).deliver queue (fun _ => insensitive) rfl rfl rfl
  | refreshRecord cs queue after | refreshStop cs queue after =>
    subst after
    exact (hs hstop).deliver queue (by simp) rfl rfl rfl
  | sample first second event effect =>
    cases effect with
    | ignored l => exact (hs hstop).of_same rfl rfl id
    | raised l low state => exact (hs hstop).of_same rfl rfl fun _ => rfl
    | pressesRecord l low sampled state => simp [hsci] at state
    | lowered l high sampled state => exact absurd hsci state.2
    | pressesStop l high sampled state => exact (hs hstop).pressStop l

/-- The remembered level drops only at a low sample, and never in dark 1. -/
theorem SideEffect.lineHigh (h : SideEffect cfg s e t) : (s.lineHigh = true → t.lineHigh = true) ∨
    e.samplesLow = true ∧ s.recordState ≠ .dark1Cal := by
  cases h with
  | quiet same calibration record stop => exact Or.inl fun h => same.lineHigh ▸ h
  | sample first second event effect =>
    subst event
    cases effect with
    | lowered l high sampled state =>
      exact Or.inr ⟨by simp [RecorderEvent.samplesLow, sampled], state.1⟩
    | pressesStop l high sampled state =>
      exact Or.inr ⟨by simp [RecorderEvent.samplesLow, sampled], by simp [state]⟩
    | ignored l => exact Or.inl id
    | raised l low state | pressesRecord l low sampled state => exact Or.inl fun _ => rfl
  | stop cs queue request after | stopIgnored cs queue insensitive after
  | abort c event record after | refreshRecord cs queue after | refreshStop cs queue after =>
    subst after
    exact Or.inl id

theorem StopNotLost.side (hs : StopNotLost cfg k s)
    (hheld : e.samplesLow = true → undeliveredPresses s + k = 0)
    (hline : RecordedByLine cfg t) (h : SideEffect cfg s e t) : StopNotLost cfg k t := by
  have hstate := h.sameFiles.recordState
  have hpresses : undeliveredPresses t + k ≤ 1 ∧ (undeliveredPresses t + k ≠ 0 →
      t.lineHigh = true ∧ s.recordState ≠ .dark1Cal ∧ s.recordState ≠ .science) := by
    rcases h.undeliveredPresses_eq with hsame | ⟨hmore, -, hidle, hlow, hhigh⟩
    · rw [hsame]
      refine ⟨hs.single, ?_⟩
      intro hne
      obtain ⟨hhigh, hstates⟩ := hs.press hne
      rcases h.lineHigh with hkeeps | ⟨hsample, -⟩
      · exact ⟨hkeeps hhigh, hstates⟩
      · exact absurd (hheld hsample) hne
    · have hnone : undeliveredPresses s + k = 0 := by
        by_contra hne
        simp [(hs.press hne).1] at hlow
      exact ⟨by omega, fun _ => ⟨hhigh, by simp [hidle]⟩⟩
  exact
    { byLine := hline
      single := hpresses.1
      press := hstate ▸ hpresses.2
      dark1 := fun hdark => by
        rw [hstate] at hdark
        rcases h.lineHigh with hkeeps | ⟨-, hne⟩
        · exact hkeeps (hs.dark1 hdark)
        · exact absurd hdark hne
      science := fun hsci hstop =>
        h.stopComes (hs.science (hstate ▸ hsci)) (hstate ▸ hsci) hstop }

theorem StopNotLost.of_same (hs : StopNotLost cfg k s) (h : SameRecording s t) :
    StopNotLost cfg k t := by
  have hpresses := h.undeliveredPresses_eq
  refine ⟨hs.byLine.of_controls (congrArg Controls.recordSensitive h.controls),
    hpresses ▸ hs.single, ?_, ?_, ?_⟩
  · intro hne
    rw [h.lineHigh, h.recordState]
    exact hs.press (hpresses ▸ hne)
  · intro hdark
    rw [h.lineHigh]
    exact hs.dark1 (h.recordState ▸ hdark)
  · intro hsci hstop
    have hcomes := hs.science (h.recordState ▸ hsci) (h.stopRequested ▸ hstop)
    exact hcomes.of_same (congrArg Controls.stopSensitive h.controls) h.callbacks
      fun hhigh => h.lineHigh ▸ hhigh

/-- A frame or a poll leaves dark 1 and science for good, or dark 1 for science. -/
theorem StopNotLost.frame (hs : StopNotLost cfg k s) (h : FrameEffect cfg s t) :
    StopNotLost cfg k t := by
  have hpresses := h.undeliveredPresses_eq
  have hline := hs.byLine.of_controls (congrArg Controls.recordSensitive h.controls_eq)
  cases h with
  | stays same => exact hs.of_same same
  | enters st u before stop target after =>
    have hhigh : t.lineHigh = s.lineHigh := by
      rw [after.lineHigh, enterPhase_lineHigh]
      exact before.lineHigh
    have hstate : t.recordState = st := by rw [after.recordState, enterPhase_recordState]
    refine ⟨hline, hpresses ▸ hs.single, ?_, ?_, ?_⟩
    · intro hne
      obtain ⟨hpress, hnotDark, -⟩ := hs.press (hpresses ▸ hne)
      rw [hhigh, hstate]
      rcases target with hending | ⟨-, hdark⟩
      · exact ⟨hpress, hending⟩
      · exact absurd hdark hnotDark
    · intro hdark
      rw [hstate] at hdark
      rcases target with hending | ⟨hsci, -⟩
      · exact absurd hdark hending.1
      · simp [hdark] at hsci
    · intro hsci _
      rw [hstate] at hsci
      subst hsci
      rcases target with hending | ⟨-, hdark⟩
      · exact absurd rfl hending.2
      · have hu : u.lineHigh = true := before.lineHigh.trans (hs.dark1 hdark)
        have hcomes := stopComes_enterScience hs.byLine.1 hu
        exact hcomes.of_same (congrArg Controls.stopSensitive after.controls) after.callbacks
          fun h => after.lineHigh ▸ h

/-- A recording that starts in dark 1 starts with the line remembered as high. -/
theorem RecordEffect.lineHigh_of_dark1 {r : OpenResult} {a : RecordReplies}
    (h : RecordEffect cfg s r a t) (hnot : s.recordState ≠ .dark1Cal) (hhigh : s.lineHigh = true)
    (hdark : t.recordState = .dark1Cal) : t.lineHigh = true := by
  cases h with
  | cancelled given after => exact after ▸ hhigh
  | failed u given same files after =>
    rw [after, openFiles_recordState, same.recordState] at hdark
    exact absurd hdark hnot
  | started u st given same files phase after =>
    rw [after, enterPhase_lineHigh]
    exact same.lineHigh.trans hhigh

theorem RecordEffect.stopComes {r : OpenResult} {a : RecordReplies}
    (h : RecordEffect cfg s r a t) (hwindow : cfg.headless = false)
    (hnot : s.recordState ≠ .science) (hhigh : s.lineHigh = true)
    (hsci : t.recordState = .science) : StopComes t := by
  cases h with
  | cancelled given after =>
    rw [after] at hsci
    exact absurd hsci hnot
  | failed u given same files after =>
    rw [after, openFiles_recordState, same.recordState] at hsci
    exact absurd hsci hnot
  | started u st given same files phase after =>
    subst after
    rw [enterPhase_recordState] at hsci
    subst hsci
    exact stopComes_enterScience hwindow (same.lineHigh.trans hhigh)

/-- The press is taken up while the line is still remembered as high. -/
theorem StopNotLost.takesUp {cs : List Callback} {r : OpenResult} {out : Option Bool} {j : ℕ}
    {p : DisplayTab × Option Question} (hs : StopNotLost cfg k s)
    (hpending : undeliveredPresses s + k = undeliveredPresses { s with callbacks := cs } + j + 1)
    (h : CallEffect cfg { s with callbacks := cs } r out p) :
    StopNotLost cfg (p.2.toList.length + j) p.1 := by
  have hline := h.recordedByLine (show RecordedByLine cfg { s with callbacks := cs } from hs.byLine)
  have hpresses := h.undeliveredPresses_eq
  obtain ⟨hhigh, hnotDark, hnotSci⟩ := hs.press (by omega)
  have hsingle := hs.single
  have hnone : undeliveredPresses p.1 = 0 ∧ j = 0 := by omega
  cases h with
  | asks t q same test =>
    have hstate : t.recordState = s.recordState := same.recordState
    exact
      { byLine := hline
        single := by simp [hnone.1, hnone.2]
        press := fun _ => ⟨same.lineHigh.trans hhigh, hstate ▸ hnotDark, hstate ▸ hnotSci⟩
        dark1 := fun hdark => absurd (hstate.symm.trans hdark) hnotDark
        science := fun hsci => absurd (hstate.symm.trans hsci) hnotSci }
  | ends t effect =>
    exact
      { byLine := hline
        single := by simp [hnone.1, hnone.2]
        press := fun hne => absurd (by simp [hnone.1, hnone.2]) hne
        dark1 := fun hdark => effect.lineHigh_of_dark1 hnotDark hhigh hdark
        science := fun hsci _ => effect.stopComes hs.byLine.1 hnotSci hhigh hsci }

/-- A call is cancelled. -/
theorem StopNotLost.cancels (hs : StopNotLost cfg (k + 1) s) : StopNotLost cfg k s where
  byLine := hs.byLine
  single := by
    have := hs.single
    omega
  press _ := hs.press (by omega)
  dark1 := hs.dark1
  science := hs.science

/-- The recorder does something else than taking up a press. -/
theorem StopNotLost.goesOn (hs : StopNotLost cfg k s)
    (hheld : e.samplesLow = true → undeliveredPresses s + k = 0)
    (hpress : recordPress s e = none) (h : step cfg s e = some t) : StopNotLost cfg k t := by
  have hline := step_recordedByLine hs.byLine h
  cases step_effect h with
  | records u r a press after => simp [hpress] at press
  | frame image w event effect idle => exact hs.frame effect
  | poll event after =>
    subst after
    exact hs.frame (noImageData_effect cfg s)
  | side press event frame effect => exact hs.side hheld hline effect

theorem window_stopNotLost {e : FmsEvent} (hw : StopNotLost cfg w.questions.length w.tab)
    (hheld : LineHeldUntilRecord w e v) (h : w.step cfg e = some v) :
    StopNotLost cfg v.questions.length v.tab := by
  cases window_effect hw.byLine h with
  | takesUp cs qs r out p pending effect =>
    rw [List.length_append]
    exact hw.takesUp pending effect
  | cancels q qs asked =>
    rw [asked] at hw
    exact hw.cancels
  | goesOn e' t event press after =>
    subst event
    exact hw.goesOn hheld press after

/-- Under control of the line, no stop is lost in any run in which the line is not read as low
while a record press waits for the main thread or for the user. -/
theorem fms_stop_not_lost (cfg : Settings) (u : StartUp) (es : List FmsEvent)
    (hwindow : cfg.headless = false) (hfms : cfg.fmsControl = true)
    (hheld : EachStep (FmsWindow.step cfg) LineHeldUntilRecord (FmsWindow.initial cfg u) es) :
    EachStep (FmsWindow.step cfg) (fun _ _ v => ¬StopLost v.tab) (FmsWindow.initial cfg u) es := by
  have hinit : StopNotLost cfg 0 (initial cfg u) :=
    { byLine := recordedByLine_initial u hwindow hfms
      single := by simp [undeliveredPresses, initial]
      press := fun hne => absurd rfl hne
      dark1 := fun hdark => by simp [initial] at hdark
      science := fun hsci => by simp [initial] at hsci }
  have hkeep (w : FmsWindow) (e : FmsEvent) (v : FmsWindow)
      (hw : StopNotLost cfg w.questions.length w.tab) (hq : LineHeldUntilRecord w e v)
      (h : w.step cfg e = some v) : StopNotLost cfg v.questions.length v.tab :=
    window_stopNotLost hw hq h
  refine EachStep.of_invariant hkeep ?_ hinit hheld
  exact fun _ _ _ hw hq h => (window_stopNotLost hw hq h).not_stopLost

/-- A recording that the line starts, in test mode, and stops. -/
def startedAndStopped : List FmsEvent :=
  [.recorder (.testDigitalLineTransition true true), .recorder (.callback .ok yesToAll),
    .recorder (.imageFrame emptyLine1 allWritten), .answered true .ok none,
    .recorder (.imageFrame emptyLine1 allWritten),
    .recorder (.testDigitalLineTransition false false), .recorder (.callback .ok yesToAll),
    .recorder (.callback .ok yesToAll), .recorder (.imageFrame emptyLine1 allWritten)]

theorem fms_stop_not_lost_once :
    (run (FmsWindow.step testByLine) (FmsWindow.initial testByLine slowStart)
        startedAndStopped).isSome = true ∧
      EachStep (FmsWindow.step testByLine) (fun _ _ v => ¬StopLost v.tab)
        (FmsWindow.initial testByLine slowStart) startedAndStopped :=
  ⟨by decide +kernel, fms_stop_not_lost testByLine slowStart _ rfl rfl (by decide +kernel)⟩

/-- The line is low again before the record press is delivered; and in test mode, before its
question is answered. -/
theorem fms_glitch_loses_stop :
    (∃ w, run (FmsWindow.step dark2ByLine) (FmsWindow.initial dark2ByLine plainStart)
        [.recorder (.testDigitalLineTransition true true),
          .recorder (.testDigitalLineTransition false false),
          .recorder (.callback .ok yesToAll)] = some w ∧
      StopLost w.tab ∧ w.tab.lastResult = false) ∧
    ∃ w, run (FmsWindow.step testByLine) (FmsWindow.initial testByLine slowStart)
        [.recorder (.testDigitalLineTransition true true), .recorder (.callback .ok yesToAll),
          .recorder (.testDigitalLineTransition false false), .answered true .ok none] = some w ∧
      StopLost w.tab ∧ w.tab.lastResult = false :=
  ⟨⟨_, rfl, by decide +kernel, by decide +kernel⟩,
    ⟨_, rfl, by decide +kernel, by decide +kernel⟩⟩

end Recorder
