import Ngdcs.Recorder.Machine

/-! What the functions of the recording code do to the state machine, said once for each of
them. The ladders of the source all pick the next phase in the order dark 2, medium, bright,
laser, idle. -/
namespace Recorder

/-- The members on which recording as such depends; a frame also changes others. -/
structure SameRecording (s t : DisplayTab) : Prop where
  recordState : t.recordState = s.recordState
  files : t.files = s.files
  stopRequested : t.stopRequested = s.stopRequested
  stopIsAbort : t.stopIsAbort = s.stopIsAbort
  controls : t.controls = s.controls
  callbacks : t.callbacks = s.callbacks
  currentRecording : t.currentRecording = s.currentRecording
  lineHigh : t.lineHigh = s.lineHigh
  lastResult : t.lastResult = s.lastResult
  opened : t.history.opened = s.history.opened
  headers : t.history.headers.map Prod.fst = s.history.headers.map Prod.fst
  ended : t.history.ended = s.history.ended
  unlinked : t.history.unlinked = s.history.unlinked
  added : t.history.added = s.history.added
  abortConfirmed : t.history.abortConfirmed = s.history.abortConfirmed

theorem SameRecording.refl (s : DisplayTab) : SameRecording s s := by constructor <;> rfl

theorem SameRecording.trans {s t u : DisplayTab} (h : SameRecording s t)
    (h' : SameRecording t u) : SameRecording s u where
  recordState := h'.recordState.trans h.recordState
  files := h'.files.trans h.files
  stopRequested := h'.stopRequested.trans h.stopRequested
  stopIsAbort := h'.stopIsAbort.trans h.stopIsAbort
  controls := h'.controls.trans h.controls
  callbacks := h'.callbacks.trans h.callbacks
  currentRecording := h'.currentRecording.trans h.currentRecording
  lineHigh := h'.lineHigh.trans h.lineHigh
  lastResult := h'.lastResult.trans h.lastResult
  opened := h'.opened.trans h.opened
  headers := h'.headers.trans h.headers
  ended := h'.ended.trans h.ended
  unlinked := h'.unlinked.trans h.unlinked
  added := h'.added.trans h.added
  abortConfirmed := h'.abortConfirmed.trans h.abortConfirmed

/-- The calibration period of a phase. -/
def calPeriod (cfg : Settings) : RecordState → ℕ
  | .dark1Cal => cfg.dark1CalPeriodInSecs
  | .dark2Cal => cfg.dark2CalPeriodInSecs
  | .mediumCal => cfg.mediumCalPeriodInSecs
  | .brightCal => cfg.brightCalPeriodInSecs
  | .laserCal => cfg.laserCalPeriodInSecs
  | .notRecording | .science => 0

/-- The ending calibration phases that may follow. -/
def laterPhases : RecordState → List RecordState
  | .science => [.dark2Cal, .mediumCal, .brightCal, .laserCal]
  | .dark2Cal => [.mediumCal, .brightCal, .laserCal]
  | .mediumCal => [.brightCal, .laserCal]
  | .brightCal => [.laserCal]
  | .notRecording | .dark1Cal | .laserCal => []

/-- The first of them that is not switched off, else idle. -/
def nextPhase (cfg : Settings) (st : RecordState) : RecordState :=
  ((laterPhases st).find? fun p => decide (0 < calPeriod cfg p)).getD .notRecording

/-- The phase that a calibration phase gives way to. -/
def succPhase (cfg : Settings) : RecordState → RecordState
  | .dark1Cal => .science
  | st => nextPhase cfg st

def IsEnding (st : RecordState) : Prop := st ≠ .dark1Cal ∧ st ≠ .science

instance (st : RecordState) : Decidable (IsEnding st) := inferInstanceAs (Decidable (_ ∧ _))

theorem isEnding_nextPhase (cfg : Settings) (st : RecordState) : IsEnding (nextPhase cfg st) := by
  unfold nextPhase
  rcases h : (laterPhases st).find? fun p => decide (0 < calPeriod cfg p) with _ | p
  · exact ⟨by simp, by simp⟩
  · have hmem := List.mem_of_find?_eq_some h
    cases st <;> simp only [laterPhases, List.mem_cons, List.not_mem_nil, or_false] at hmem
    all_goals
      rw [Option.getD_some]
      rcases hmem with rfl | rfl | rfl | rfl <;> exact ⟨by simp, by simp⟩

namespace DisplayTab

variable (cfg : Settings) (s : DisplayTab)

def enterPhase : RecordState → DisplayTab
  | .notRecording => s.enterIdleState cfg
  | .dark1Cal => s.enterDark1CalState cfg
  | .science => s.enterScienceState cfg
  | .dark2Cal => s.enterDark2CalState cfg
  | .mediumCal => s.enterMediumCalState cfg
  | .brightCal => s.enterBrightCalState cfg
  | .laserCal => s.enterLaserCalState cfg

section EnterPhase

variable (st : RecordState)

@[simp] theorem enterPhase_recordState : (s.enterPhase cfg st).recordState = st := by
  cases st <;> rfl

@[simp] theorem enterPhase_stopRequested :
    (s.enterPhase cfg st).stopRequested = s.stopRequested := by cases st <;> rfl

@[simp] theorem enterPhase_stopIsAbort :
    (s.enterPhase cfg st).stopIsAbort = s.stopIsAbort := by cases st <;> rfl

@[simp] theorem enterPhase_outOfSpace :
    (s.enterPhase cfg st).outOfSpace = s.outOfSpace := by cases st <;> rfl

@[simp] theorem enterPhase_suppress :
    (s.enterPhase cfg st).suppress = s.suppress := by cases st <;> rfl

@[simp] theorem enterPhase_controls :
    (s.enterPhase cfg st).controls = s.controls := by cases st <;> rfl

@[simp] theorem enterPhase_lineHigh :
    (s.enterPhase cfg st).lineHigh = s.lineHigh := by cases st <;> rfl

@[simp] theorem enterPhase_lastResult :
    (s.enterPhase cfg st).lastResult = s.lastResult := by cases st <;> rfl

@[simp] theorem enterPhase_currentRecording :
    (s.enterPhase cfg st).currentRecording = s.currentRecording := by cases st <;> rfl

@[simp] theorem enterPhase_mostRecentOBCMode :
    (s.enterPhase cfg st).mostRecentOBCMode = s.mostRecentOBCMode := by cases st <;> rfl

@[simp] theorem enterPhase_fbFrameRate :
    (s.enterPhase cfg st).fbFrameRate = s.fbFrameRate := by cases st <;> rfl

@[simp] theorem enterPhase_opened :
    (s.enterPhase cfg st).history.opened = s.history.opened := by cases st <;> rfl

@[simp] theorem enterPhase_written :
    (s.enterPhase cfg st).history.written = s.history.written := by cases st <;> rfl

@[simp] theorem enterPhase_entered :
    (s.enterPhase cfg st).history.entered = s.history.entered ++ [st] := by cases st <;> rfl

@[simp] theorem enterPhase_added :
    (s.enterPhase cfg st).history.added = s.history.added := by cases st <;> rfl

@[simp] theorem enterPhase_abortConfirmed :
    (s.enterPhase cfg st).history.abortConfirmed = s.history.abortConfirmed := by
  cases st <;> rfl

/-- The callback by which a phase tells the window about itself. -/
def phaseNotice : RecordState → List Callback
  | .notRecording => [.refreshRecordControls]
  | .science => [.refreshStopButton]
  | .dark1Cal | .dark2Cal | .mediumCal | .brightCal | .laserCal => []

theorem enterPhase_callbacks : (s.enterPhase cfg st).callbacks =
    s.callbacks ++ if cfg.headless then [] else phaseNotice st := by
  cases st <;>
    simp [enterPhase, phaseNotice, enterIdleState, enterDark1CalState, enterScienceState,
      enterDark2CalState, enterMediumCalState, enterBrightCalState, enterLaserCalState,
      enterCalState, enterState, restartDark, setOBC, setOBCIfFollowing, setMountIfFollowing,
      dispatchInWindow, closeFiles]
  all_goals split_ifs <;> simp

variable {st}

/-- Only going idle closes the files. -/
theorem enterPhase_files (h : st ≠ .notRecording) : (s.enterPhase cfg st).files = s.files := by
  cases st <;> first | rfl | contradiction

theorem enterPhase_headers (h : st ≠ .notRecording) :
    (s.enterPhase cfg st).history.headers = s.history.headers := by
  cases st <;> first | rfl | contradiction

theorem enterPhase_ended (h : st ≠ .notRecording) :
    (s.enterPhase cfg st).history.ended = s.history.ended := by
  cases st <;> first | rfl | contradiction

theorem enterPhase_unlinked (h : st ≠ .notRecording) :
    (s.enterPhase cfg st).history.unlinked = s.history.unlinked := by
  cases st <;> first | rfl | contradiction

/-- A calibration phase sets its countdown, and only that. -/
theorem enterPhase_wait (h : 0 < calPeriod cfg st) :
    (s.enterPhase cfg st).wait = s.calFrames cfg (calPeriod cfg st) := by
  cases st <;> first | rfl | simp [calPeriod] at h

end EnterPhase

@[simp] theorem enterIdleState_files : (s.enterIdleState cfg).files = .closed := rfl

theorem enterIdleState_headers : (s.enterIdleState cfg).history.headers =
    s.history.headers ++ s.files.imageHdrFP.toList.map (·, s.framesWritten) := rfl

theorem enterIdleState_ended : (s.enterIdleState cfg).history.ended =
    if s.recordState ≠ .notRecording then
      s.history.ended ++ [(s.currentRecording, s.stopIsAbort)]
    else s.history.ended := by
  by_cases h : s.recordState = .notRecording <;>
    simp [enterIdleState, enterState, setOBCIfFollowing, setMountIfFollowing, dispatchInWindow,
      closeFiles, h]

theorem enterIdleState_unlinked : (s.enterIdleState cfg).history.unlinked =
    if s.stopIsAbort then s.history.unlinked ++ [s.currentRecording] else s.history.unlinked :=
  rfl

/-! ### The ladders -/

theorem afterDark2_eq : s.afterDark2 cfg = s.enterPhase cfg (nextPhase cfg .dark2Cal) := by
  simp only [afterDark2, nextPhase, laterPhases, List.find?, calPeriod]
  split_ifs <;> simp_all [enterPhase]

theorem afterMedium_eq : s.afterMedium cfg = s.enterPhase cfg (nextPhase cfg .mediumCal) := by
  simp only [afterMedium, nextPhase, laterPhases, List.find?, calPeriod]
  split_ifs <;> simp_all [enterPhase]

theorem afterBright_eq : s.afterBright cfg = s.enterPhase cfg (nextPhase cfg .brightCal) := by
  simp only [afterBright, nextPhase, laterPhases, List.find?, calPeriod]
  split_ifs <;> simp_all [enterPhase]

/-- Where a stop leads: to the ending calibration only if the OBC follows the recording. -/
def stopPhase : RecordState :=
  if s.obcFollows cfg then nextPhase cfg .science else .notRecording

theorem isEnding_stopPhase : IsEnding (s.stopPhase cfg) := by
  unfold stopPhase
  split_ifs
  · exact isEnding_nextPhase cfg _
  · exact ⟨by simp, by simp⟩

theorem obcFollows_of_stopPhase (h : s.stopPhase cfg = .dark2Cal) : s.obcFollows cfg = true := by
  unfold stopPhase at h
  split_ifs at h with hfollows
  exact hfollows

theorem stopScience_eq : s.stopScience cfg = s.enterPhase cfg (s.stopPhase cfg) := by
  unfold stopPhase
  by_cases hobc : s.mostRecentOBCMode = .auto ∧ cfg.obcInterface = true
  · have hfollows : s.obcFollows cfg = true := by simp [obcFollows, hobc]
    rw [stopScience, if_neg (by simp [hobc]), if_pos hfollows]
    simp only [nextPhase, laterPhases, List.find?, calPeriod]
    split_ifs <;> simp_all [enterPhase]
  · have hfollows : s.obcFollows cfg = false := by
      simp only [obcFollows, Bool.and_eq_false_iff, decide_eq_false_iff_not]
      cases hc : cfg.obcInterface <;> simp_all
    rw [stopScience, if_pos (by cases hc : cfg.obcInterface <;> simp_all), hfollows]
    rfl

/-- Without data the same ladder is used, except that an abort goes straight to idle. -/
theorem stopWithoutData_eq : s.stopWithoutData cfg =
    s.enterPhase cfg (if s.stopIsAbort then .notRecording else s.stopPhase cfg) := by
  have hladder : s.stopWithoutData cfg =
      if s.stopIsAbort then s.enterIdleState cfg else s.stopScience cfg := by
    unfold stopWithoutData stopScience
    cases s.stopIsAbort <;> simp
  rw [hladder, stopScience_eq]
  cases s.stopIsAbort <;> rfl

theorem noImageData_eq (h : s.stopRequested = true) : s.noImageData cfg =
    { s with stopRequested := false }.enterPhase cfg
      (if s.stopIsAbort then .notRecording else s.stopPhase cfg) := by
  rw [noImageData, if_pos h, stopWithoutData_eq]
  rfl

/-! ### Frames and polls -/

/-- The frames that a frame adds to the image file, and the new value of `m_framesWritten`. -/
def AppendedBy (s : DisplayTab) (failed : Bool) (framesWritten : ℕ) (frames : List WrittenFrame) :
    Prop :=
  if failed then framesWritten = s.framesWritten ∧ frames = []
  else ∃ n, s.files.imageFP = some n ∧ framesWritten = s.framesWritten + 1 ∧
    frames = [⟨n, s.recordState, s.frameCount⟩]

/-- What the writes of a frame change; if all of them work, the frame is in the image file. -/
theorem writeFrame_eq {image : ℕ → UInt16} {w : WriteOutcome} {failed : Bool} {t : DisplayTab}
    (h : s.writeFrame cfg image w = some (failed, t)) :
    ∃ suppress framesWritten frames, t = { s with
        suppress := suppress
        framesWritten := framesWritten
        history := { s.history with written := s.history.written ++ frames } } ∧
      s.AppendedBy failed framesWritten frames := by
  have hkeep {g : Suppression} {u : DisplayTab}
      (h : (some (true, { s with suppress := g }) : Option (Bool × DisplayTab)) =
        some (failed, u)) :
      ∃ suppress framesWritten frames, u = { s with
          suppress := suppress
          framesWritten := framesWritten
          history := { s.history with written := s.history.written ++ frames } } ∧
        s.AppendedBy failed framesWritten frames := by
    obtain ⟨rfl, rfl⟩ := Prod.mk.inj (Option.some.inj h)
    exact ⟨_, _, [], by rw [List.append_nil], rfl, rfl⟩
  unfold writeFrame writeFlightlineGPSData writePPSData at h
  split at h
  next heq =>
    obtain ⟨-, rfl⟩ := Prod.mk.inj heq
    exact hkeep h
  next heq =>
    obtain ⟨-, rfl⟩ := Prod.mk.inj heq
    split at h
    next heq =>
      obtain ⟨-, rfl⟩ := Prod.mk.inj heq
      exact hkeep h
    next heq =>
      obtain ⟨-, rfl⟩ := Prod.mk.inj heq
      obtain ⟨n, himage, h⟩ := Option.map_eq_some_iff.mp h
      split_ifs at h
      · exact hkeep (congrArg some h)
      · obtain ⟨rfl, rfl⟩ := Prod.mk.inj h
        exact ⟨_, _, _, rfl, n, himage, rfl, rfl⟩

theorem writeFrame_same {image : ℕ → UInt16} {w : WriteOutcome} {failed : Bool}
    {t : DisplayTab} (h : s.writeFrame cfg image w = some (failed, t)) : SameRecording s t := by
  obtain ⟨_, _, _, rfl, -⟩ := s.writeFrame_eq cfg h
  constructor <;> rfl

/-- What a frame or a poll does to the recording: nothing, or one change of state. A request
to stop is dropped only on the way to an ending phase. -/
inductive FrameEffect (s t : DisplayTab) : Prop where
  | stays (same : SameRecording s t)
  | enters (st : RecordState) (u : DisplayTab)
      (before : SameRecording { s with stopRequested := u.stopRequested } u)
      (stop : u.stopRequested = s.stopRequested ∨ u.stopRequested = false ∧ IsEnding st)
      (target : IsEnding st ∨ st = .science ∧ s.recordState = .dark1Cal)
      (after : SameRecording (u.enterPhase cfg st) t)

theorem FrameEffect.of_same {cfg : Settings} {s s' t t' : DisplayTab} (h : SameRecording s s')
    (he : FrameEffect cfg s' t) (h' : SameRecording t t') : FrameEffect cfg s t' := by
  cases he with
  | stays same => exact .stays ((h.trans same).trans h')
  | enters st u before stop target after =>
    have hs : SameRecording { s with stopRequested := u.stopRequested }
        { s' with stopRequested := u.stopRequested } := { h with stopRequested := rfl }
    exact .enters st u (hs.trans before) (h.stopRequested ▸ stop) (h.recordState ▸ target)
      (after.trans h')

theorem frameEffect_countDown {next : DisplayTab → DisplayTab} (st : RecordState)
    (hnext : ∀ u, next u = u.enterPhase cfg st)
    (target : IsEnding st ∨ st = .science ∧ s.recordState = .dark1Cal) :
    FrameEffect cfg s (s.countDown next) := by
  have hwait : SameRecording s { s with wait := s.wait - 1 } := by constructor <;> rfl
  unfold countDown
  simp only
  split_ifs
  · rw [hnext]
    exact .enters st { s with wait := s.wait - 1 } hwait (Or.inl rfl) target (.refl _)
  · exact .stays hwait

/-- A calibration phase counts its frames, whichever it is. -/
theorem advance_cal (hsci : s.recordState ≠ .science) (hidle : s.recordState ≠ .notRecording) :
    s.advance cfg = s.countDown (enterPhase cfg · (succPhase cfg s.recordState)) := by
  have h2 : afterDark2 cfg = (enterPhase cfg · (nextPhase cfg .dark2Cal)) :=
    funext (afterDark2_eq cfg)
  have hm : afterMedium cfg = (enterPhase cfg · (nextPhase cfg .mediumCal)) :=
    funext (afterMedium_eq cfg)
  have hb : afterBright cfg = (enterPhase cfg · (nextPhase cfg .brightCal)) :=
    funext (afterBright_eq cfg)
  unfold advance
  split <;> simp_all [succPhase]
  · rfl
  · rfl

theorem advance_science (hsci : s.recordState = .science) : s.advance cfg =
    if s.stopRequested then { s with stopRequested := false }.enterPhase cfg (s.stopPhase cfg)
    else s := by
  unfold advance
  rw [hsci]
  simp only [stopScience_eq]
  rfl

theorem succPhase_target : IsEnding (succPhase cfg s.recordState) ∨
    succPhase cfg s.recordState = .science ∧ s.recordState = .dark1Cal := by
  by_cases hdark : s.recordState = .dark1Cal
  · exact Or.inr ⟨by rw [hdark]; rfl, hdark⟩
  · left
    have hnext : succPhase cfg s.recordState = nextPhase cfg s.recordState := by
      unfold succPhase
      split
      · contradiction
      · rfl
    rw [hnext]
    exact isEnding_nextPhase cfg _

/-- The second dark phase follows only a stop. -/
theorem succPhase_ne_dark2 {st : RecordState} (h : st ≠ .science) :
    succPhase cfg st ≠ .dark2Cal := by
  have hlater : RecordState.dark2Cal ∉ laterPhases st := by
    cases st <;> simp [laterPhases] at h ⊢
  cases st with
  | dark1Cal => simp [succPhase]
  | _ =>
    simp only [succPhase, nextPhase]
    rcases hfind : (laterPhases _).find? fun p => decide (0 < calPeriod cfg p) with _ | p
    · simp
    · rintro rfl
      exact hlater (List.mem_of_find?_eq_some hfind)

/-- The switch counts down or drops a request to stop, and then enters a state or does not. The
second dark phase is entered only where the OBC follows. -/
theorem advance_eq : ∃ wait stop, s.advance cfg = { s with wait := wait, stopRequested := stop } ∨
    ∃ st, (st ≠ .dark1Cal ∧ (st = .dark2Cal → s.obcFollows cfg = true)) ∧
      s.advance cfg = { s with wait := wait, stopRequested := stop }.enterPhase cfg st := by
  by_cases hidle : s.recordState = .notRecording
  · have hsame : s.advance cfg = s := by rw [advance, hidle]
    exact ⟨s.wait, s.stopRequested, Or.inl hsame⟩
  by_cases hsci : s.recordState = .science
  · rw [advance_science cfg s hsci]
    split_ifs
    · exact ⟨s.wait, false, Or.inr ⟨_, ⟨(isEnding_stopPhase cfg s).1,
        obcFollows_of_stopPhase cfg s⟩, rfl⟩⟩
    · exact ⟨s.wait, s.stopRequested, Or.inl rfl⟩
  · rw [advance_cal cfg s hsci hidle]
    refine ⟨s.wait - 1, s.stopRequested, ?_⟩
    unfold countDown
    simp only
    split_ifs
    · refine Or.inr ⟨_, ⟨?_, fun hdark => absurd hdark (succPhase_ne_dark2 cfg hsci)⟩, rfl⟩
      rcases succPhase_target cfg s with hending | ⟨hscience, -⟩
      · exact hending.1
      · simp [hscience]
    · exact Or.inl rfl

theorem advance_effect : FrameEffect cfg s (s.advance cfg) := by
  by_cases hidle : s.recordState = .notRecording
  · rw [advance, hidle]
    exact .stays (.refl s)
  by_cases hsci : s.recordState = .science
  · rw [advance_science cfg s hsci]
    split_ifs
    · exact .enters _ _ (.refl _) (Or.inr ⟨rfl, isEnding_stopPhase cfg s⟩)
        (Or.inl (isEnding_stopPhase cfg s)) (.refl _)
    · exact .stays (.refl s)
  · rw [advance_cal cfg s hsci hidle]
    exact s.frameEffect_countDown cfg _ (fun _ => rfl) (succPhase_target cfg s)

theorem enterIdle_effect {t : DisplayTab} (h : SameRecording (s.enterIdleState cfg) t) :
    FrameEffect cfg s t :=
  .enters .notRecording s (.refl s) (Or.inl rfl) (Or.inl ⟨by simp, by simp⟩) h

theorem recordFrame_effect {image : ℕ → UInt16} {w : WriteOutcome} {t : DisplayTab}
    (h : s.recordFrame cfg image w = some t) : FrameEffect cfg s t := by
  unfold recordFrame at h
  obtain ⟨⟨failed, u⟩, hw, rfl⟩ := Option.map_eq_some_iff.mp h
  have hsame := s.writeFrame_same cfg hw
  cases failed with
  | true =>
    have hout : SameRecording (u.enterIdleState cfg)
        { u.enterIdleState cfg with outOfSpace := true } := by constructor <;> rfl
    exact .of_same hsame (u.enterIdle_effect cfg hout) (.refl _)
  | false =>
    simp only
    split_ifs
    · refine .of_same hsame ?_ (.refl _)
      exact .enters .notRecording _ (.refl _) (Or.inr ⟨rfl, by simp, by simp⟩)
        (Or.inl ⟨by simp, by simp⟩) (.refl _)
    · exact .of_same hsame (u.advance_effect cfg) (.refl _)

/-- A frame leaves an idle recorder idle. -/
theorem imageFrame_effect {image : ℕ → UInt16} {w : WriteOutcome} {t : DisplayTab}
    (h : s.imageFrame cfg image w = some t) :
    FrameEffect cfg s t ∧ (s.recordState = .notRecording → SameRecording s t) := by
  unfold imageFrame at h
  have hnote : SameRecording s (s.noteFrame cfg image) := by constructor <;> rfl
  have hwrite : SameRecording s ((s.noteFrame cfg image).writeEndToEndData image w) := by
    constructor <;> rfl
  simp only at h
  split_ifs at h with hout hrec hrec
  · obtain rfl := Option.some.inj h
    refine ⟨.of_same hnote (enterIdle_effect cfg _ (.refl _)) (.refl _), ?_⟩
    intro hs
    exact absurd (hnote.recordState.trans hs) hrec
  · obtain rfl := Option.some.inj h
    exact ⟨.stays hnote, fun _ => hnote⟩
  · obtain rfl := Option.some.inj h
    exact ⟨.stays hwrite, fun _ => hwrite⟩
  · refine ⟨.of_same hwrite (recordFrame_effect cfg _ h) (.refl _), ?_⟩
    intro hs
    exact absurd (hnote.recordState.trans hs) hrec

/-- What a frame changes before a state is entered, if one is. -/
theorem imageFrame_eq {image : ℕ → UInt16} {w : WriteOutcome} {t : DisplayTab}
    (h : s.imageFrame cfg image w = some t) : ∃ wait stop suppress framesWritten frames u,
      u = { s.noteFrame cfg image with
        wait := wait
        stopRequested := stop
        suppress := suppress
        framesWritten := framesWritten
        history := { s.history with written := s.history.written ++ frames } } ∧
      (∃ failed, (s.noteFrame cfg image).AppendedBy failed framesWritten frames) ∧
      (t = u ∨ ∃ st out, (st ≠ .dark1Cal ∧ (st = .dark2Cal → s.obcFollows cfg = true)) ∧
        t = { u.enterPhase cfg st with outOfSpace := out }) := by
  have hnone (suppress : Suppression) : { s.noteFrame cfg image with suppress := suppress } =
      { s.noteFrame cfg image with
        suppress := suppress
        history := { s.history with written := s.history.written ++ [] } } := by
    rw [List.append_nil]
    rfl
  unfold imageFrame at h
  simp only at h
  split_ifs at h with hout hrec hrec
  · obtain rfl := Option.some.inj h
    exact ⟨s.wait, s.stopRequested, s.suppress, s.framesWritten, [], _, hnone s.suppress,
      ⟨true, rfl, rfl⟩, Or.inr ⟨.notRecording, s.outOfSpace, ⟨by simp, by simp⟩, rfl⟩⟩
  · obtain rfl := Option.some.inj h
    exact ⟨s.wait, s.stopRequested, s.suppress, s.framesWritten, [], _, hnone s.suppress,
      ⟨true, rfl, rfl⟩, Or.inl rfl⟩
  · obtain rfl := Option.some.inj h
    exact ⟨s.wait, s.stopRequested, _, s.framesWritten, [], _, hnone _, ⟨true, rfl, rfl⟩,
      Or.inl rfl⟩
  · unfold recordFrame at h
    obtain ⟨⟨failed, v⟩, hw, rfl⟩ := Option.map_eq_some_iff.mp h
    obtain ⟨suppress, framesWritten, frames, hv, hframes⟩ := writeFrame_eq cfg _ hw
    have hnoted (wait : ℤ) (stop : Bool) : { v with wait := wait, stopRequested := stop } =
        { s.noteFrame cfg image with
          wait := wait
          stopRequested := stop
          suppress := suppress
          framesWritten := framesWritten
          history := { s.history with written := s.history.written ++ frames } } := by
      rw [hv]
      rfl
    have hfollows : v.obcFollows cfg = s.obcFollows cfg := by
      rw [hv]
      rfl
    cases failed with
    | true =>
      exact ⟨_, _, _, _, _, _, hnoted v.wait v.stopRequested, ⟨true, hframes⟩,
        Or.inr ⟨.notRecording, true, ⟨by simp, by simp⟩, rfl⟩⟩
    | false =>
      simp only
      split_ifs
      · exact ⟨_, _, _, _, _, _, hnoted v.wait false, ⟨false, hframes⟩,
          Or.inr ⟨.notRecording, v.outOfSpace, ⟨by simp, by simp⟩, rfl⟩⟩
      · obtain ⟨wait, stop, hsame | ⟨st, hst, henter⟩⟩ := advance_eq cfg v
        · exact ⟨_, _, _, _, _, _, hnoted wait stop, ⟨false, hframes⟩, Or.inl hsame⟩
        · refine ⟨_, _, _, _, _, _, hnoted wait stop, ⟨false, hframes⟩,
            Or.inr ⟨st, v.outOfSpace, hfollows ▸ hst, ?_⟩⟩
          rw [henter]
          exact congrArg (fun out => { enterPhase cfg _ st with outOfSpace := out })
            (enterPhase_outOfSpace cfg _ st)

/-- What a frame does before a state is entered, if one is: it is counted, and perhaps appended
to the image file. -/
structure FrameNoted (s u : DisplayTab) : Prop where
  recordState : u.recordState = s.recordState
  files : u.files = s.files
  mostRecentOBCMode : u.mostRecentOBCMode = s.mostRecentOBCMode
  lastOBCState : u.lastOBCState = s.lastOBCState
  currentRecording : u.currentRecording = s.currentRecording
  opened : u.history.opened = s.history.opened
  headers : u.history.headers = s.history.headers
  frameCount : u.frameCount = s.frameCount + 1
  appended : ∃ failed frames, { s with frameCount := s.frameCount + 1 }.AppendedBy failed
    u.framesWritten frames ∧ u.history.written = s.history.written ++ frames

theorem imageFrame_noted {image : ℕ → UInt16} {w : WriteOutcome} {t : DisplayTab}
    (h : s.imageFrame cfg image w = some t) : ∃ u, FrameNoted s u ∧
      (t = u ∨ ∃ st out, st ≠ .dark1Cal ∧
        t = { u.enterPhase cfg st with outOfSpace := out }) := by
  obtain ⟨_, _, _, _, frames, u, hu, ⟨failed, happended⟩, ht⟩ := imageFrame_eq cfg s h
  refine ⟨u, ?_, ht.imp_right fun ⟨st, out, hst, heq⟩ => ⟨st, out, hst.1, heq⟩⟩
  subst hu
  exact ⟨rfl, rfl, rfl, rfl, rfl, rfl, rfl, rfl, failed, frames, happended, rfl⟩

/-- Without data only a pending stop has an effect. -/
theorem noImageData_effect : FrameEffect cfg s (s.noImageData cfg) := by
  by_cases h : s.stopRequested = true
  · have hending : IsEnding (if s.stopIsAbort then .notRecording else s.stopPhase cfg) := by
      split_ifs
      · exact ⟨by simp, by simp⟩
      · exact isEnding_stopPhase cfg s
    rw [noImageData_eq cfg s h]
    exact .enters _ _ (.refl _) (Or.inr ⟨rfl, hending⟩) (Or.inl hending) (.refl _)
  · rw [noImageData, if_neg h]
    exact .stays (.refl s)

end DisplayTab

end Recorder
