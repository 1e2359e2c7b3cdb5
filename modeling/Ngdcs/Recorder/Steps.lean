import Ngdcs.Lib.Runs
import Ngdcs.Recorder.Phases

/-! What a step of the recorder does, by the function it runs: `recordButtonWork`, a frame or
a poll, or something that leaves the files alone. -/
namespace Recorder
open Runs DisplayTab

variable {cfg : Settings} {s t : DisplayTab} {e : RecorderEvent}

namespace RecorderEvent

def confirmsAbort : RecorderEvent → Bool
  | .abortAnswered yes => yes
  | _ => false

def aborts : RecorderEvent → Bool
  | .abortAnswered yes => yes
  | .headlessAbort => true
  | _ => false

def findsNoData : RecorderEvent → Bool
  | .noImageData => true
  | _ => false

def isFrame : RecorderEvent → Bool
  | .imageFrame _ _ => true
  | _ => false

/-- The line is read as high, the first time it is read. -/
def samplesHigh : RecorderEvent → Bool
  | .testDigitalLineTransition first _ => first
  | _ => false

/-- The line is read as low, if it is read a second time. -/
def samplesLow : RecorderEvent → Bool
  | .testDigitalLineTransition _ second => !second
  | _ => false

end RecorderEvent

/-- The members that say which files are open and what became of the recordings. -/
structure SameFiles (s t : DisplayTab) : Prop where
  recordState : t.recordState = s.recordState
  files : t.files = s.files
  currentRecording : t.currentRecording = s.currentRecording
  opened : t.history.opened = s.history.opened
  headers : t.history.headers.map Prod.fst = s.history.headers.map Prod.fst
  ended : t.history.ended = s.history.ended
  unlinked : t.history.unlinked = s.history.unlinked

theorem SameRecording.sameFiles (h : SameRecording s t) : SameFiles s t where
  recordState := h.recordState
  files := h.files
  currentRecording := h.currentRecording
  opened := h.opened
  headers := h.headers
  ended := h.ended
  unlinked := h.unlinked

/-- The members behind the calibration sequence that only frames and phases change. -/
structure SameCalibration (s t : DisplayTab) : Prop where
  recordState : t.recordState = s.recordState
  wait : t.wait = s.wait
  fbFrameRate : t.fbFrameRate = s.fbFrameRate
  entered : t.history.entered = s.history.entered
  written : t.history.written = s.history.written

theorem SameCalibration.refl (s : DisplayTab) : SameCalibration s s := by
  constructor <;> rfl

/-- What is put right in front of a recording. -/
theorem prepareRecording_eq {a : RecordReplies} {u : DisplayTab}
    (h : s.prepareRecording cfg a = some u) : ∃ obcMode mountMode blockRate fbRate out, u = { s with
      mostRecentOBCMode := obcMode
      mostRecentMountMode := mountMode
      blockFrameRate := blockRate
      fbFrameRate := fbRate
      outOfSpace := out } := by
  unfold prepareRecording at h
  obtain ⟨v, hv, h⟩ := Option.bind_eq_some_iff.mp h
  obtain ⟨w, hw, h⟩ := Option.bind_eq_some_iff.mp h
  have hobc : ∃ m, v = { s with mostRecentOBCMode := m } := by
    unfold checkOBC at hv
    split_ifs at hv <;> obtain rfl := Option.some.inj hv <;> exact ⟨_, rfl⟩
  obtain ⟨obcMode, rfl⟩ := hobc
  have hmount : ∃ m, w = { s with mostRecentOBCMode := obcMode, mostRecentMountMode := m } := by
    unfold checkMount at hw
    split_ifs at hw <;> obtain rfl := Option.some.inj hw <;> exact ⟨_, rfl⟩
  obtain ⟨mountMode, rfl⟩ := hmount
  unfold checkFrameRate at h
  split_ifs at h <;> obtain rfl := Option.some.inj h <;> exact ⟨_, _, _, _, _, rfl⟩

theorem prepareRecording_same {a : RecordReplies} {u : DisplayTab}
    (h : s.prepareRecording cfg a = some u) : SameRecording s u := by
  obtain ⟨_, _, _, _, _, rfl⟩ := prepareRecording_eq h
  constructor <;> rfl

/-- The user, asked in test mode whether to record like this, says no to some question. -/
def UserCancels (cfg : Settings) (s : DisplayTab) (a : RecordReplies) : Prop :=
  cfg.headless = false ∧ cfg.operationalMode = false ∧
    (cfg.obcInterface = true ∧ s.mostRecentOBCMode ≠ .auto ∧ a.recordWithOBC = false ∨
      cfg.mountUsed = true ∧ s.mostRecentMountMode ≠ .auto ∧ a.recordWithMount = false ∨
      s.blockFrameRate ≠ numFrameRates - 1 ∧ a.recordAtRate = false)

theorem prepareRecording_eq_none_iff {a : RecordReplies} :
    s.prepareRecording cfg a = none ↔ UserCancels cfg s a := by
  by_cases htest : cfg.headless = false ∧ cfg.operationalMode = false
  · obtain ⟨hh, ho⟩ := htest
    have hobc : s.checkOBC cfg a.recordWithOBC =
        if cfg.obcInterface = true ∧ s.mostRecentOBCMode ≠ .auto ∧ a.recordWithOBC = false then
          none else some s := by
      simp only [checkOBC, hh, ho]
      grind
    have hmount : s.checkMount cfg a.recordWithMount =
        if cfg.mountUsed = true ∧ s.mostRecentMountMode ≠ .auto ∧ a.recordWithMount = false then
          none else some s := by
      simp only [checkMount, hh, ho]
      grind
    have hrate : s.checkFrameRate cfg a.recordAtRate a.outOfSpace =
        if s.blockFrameRate ≠ numFrameRates - 1 ∧ a.recordAtRate = false then
          none else some s := by
      simp only [checkFrameRate, hh, ho]
      grind
    rw [prepareRecording, hobc]
    split_ifs with h
    · simp [UserCancels, hh, ho, h]
    · rw [Option.bind_some, hmount]
      split_ifs with h'
      · simp [UserCancels, hh, ho, h']
      · rw [Option.bind_some, hrate]
        split_ifs with h'' <;> simp [UserCancels, hh, ho, h, h', h'']
  · refine iff_of_false ?_ fun h => htest ⟨h.1, h.2.1⟩
    simp only [prepareRecording, checkOBC, checkMount, checkFrameRate]
    grind

/-- How `recordButtonWork` ends: given up by the user, without files, or recording. -/
inductive RecordEffect (cfg : Settings) (s : DisplayTab) (r : OpenResult) (a : RecordReplies)
    (t : DisplayTab) : Prop where
  | cancelled (given : UserCancels cfg s a) (after : t = s)
  | failed (u : DisplayTab) (given : ¬UserCancels cfg s a) (same : SameRecording s u)
      (files : r ≠ .ok) (after : t = u.openFiles r)
  | started (u : DisplayTab) (st : RecordState) (given : ¬UserCancels cfg s a)
      (same : SameRecording s u) (files : r = .ok) (phase : st = .dark1Cal ∨ st = .science)
      (after : t = ((u.openFiles .ok).leaveIdleForRecording cfg).enterPhase cfg st)

theorem recordButtonWork_effect (cfg : Settings) (s : DisplayTab) (r : OpenResult)
    (a : RecordReplies) : RecordEffect cfg s r a (s.recordButtonWork cfg r a) := by
  unfold recordButtonWork
  rcases hp : s.prepareRecording cfg a with _ | u
  · exact .cancelled (prepareRecording_eq_none_iff.mp hp) rfl
  · have hsame := prepareRecording_same hp
    have hgiven : ¬UserCancels cfg s a := by simp [← prepareRecording_eq_none_iff, hp]
    simp only
    split_ifs with hr
    · subst hr
      unfold startRecording
      simp only
      split_ifs
      · exact .started u .science hgiven hsame rfl (Or.inr rfl) rfl
      · exact .started u .dark1Cal hgiven hsame rfl (Or.inl rfl) rfl
    · exact .failed u hgiven hsame hr rfl

/-- `recordButtonWork` is called on the current state, but for the callback that calls it. -/
theorem recordPress_eq {u : DisplayTab} {r : OpenResult} {a : RecordReplies}
    (h : recordPress s e = some (u, r, a)) : ∃ cs, u = { s with callbacks := cs } := by
  cases e with
  | onRecordButton r a =>
    simp only [recordPress, Option.some.injEq, Prod.mk.injEq] at h
    exact ⟨s.callbacks, h.1.symm⟩
  | callback r a =>
    simp only [recordPress, Option.ite_none_right_eq_some, Option.some.injEq,
      Prod.mk.injEq] at h
    exact ⟨_, h.2.1.symm⟩
  | headlessRecord r a =>
    simp only [recordPress, Option.ite_none_right_eq_some, Option.some.injEq,
      Prod.mk.injEq] at h
    exact ⟨s.callbacks, h.2.1.symm⟩
  | _ => simp [recordPress] at h

/-- A sample of the line can only change the remembered level and dispatch a press. -/
inductive SampleEffect (s : DisplayTab) (first second : Bool) : DisplayTab → Prop where
  | ignored (l : Bool) : SampleEffect s first second { s with lastResult := l }
  | raised (l : Bool) (low : s.lineHigh = false)
      (state : s.recordState = .dark1Cal ∨ s.recordState = .science) :
      SampleEffect s first second { s with lastResult := l, lineHigh := true }
  | pressesRecord (l : Bool) (low : s.lineHigh = false) (sampled : first = true)
      (state : s.recordState = .notRecording) :
      SampleEffect s first second
        ({ s with lastResult := l, lineHigh := true }.dispatch .pressRecordButton)
  | lowered (l : Bool) (high : s.lineHigh = true) (sampled : second = false)
      (state : s.recordState ≠ .dark1Cal ∧ s.recordState ≠ .science) :
      SampleEffect s first second { s with lastResult := l, lineHigh := false }
  | pressesStop (l : Bool) (high : s.lineHigh = true) (sampled : second = false)
      (state : s.recordState = .science) :
      SampleEffect s first second
        ({ s with lastResult := l, lineHigh := false }.dispatch .pressStopButton)

theorem testDigitalLineTransition_effect (s : DisplayTab) (first second : Bool) :
    SampleEffect s first second (s.testDigitalLineTransition first second) := by
  unfold testDigitalLineTransition
  simp only [Bool.and_eq_true, Bool.not_eq_true']
  split_ifs with hrise hfall
  · obtain ⟨hfirst, hlow⟩ := hrise
    split
    next hs => exact .pressesRecord first hlow hfirst hs
    next hs => exact .raised first hlow (Or.inl hs)
    next hs => exact .raised first hlow (Or.inr hs)
    all_goals exact .ignored first
  · obtain ⟨hsecond, hhigh⟩ := hfall
    split
    next hs => exact .lowered second hhigh hsecond (by simp [show s.recordState = _ from hs])
    next hs => exact .ignored second
    next hs => exact .pressesStop second hhigh hsecond hs
    all_goals
      next hs => exact .lowered second hhigh hsecond (by simp [show s.recordState = _ from hs])
  · exact .ignored second

/-- The event is a stop press that is heard. -/
def requestsStop (s : DisplayTab) : RecorderEvent → Bool
  | .onStopButton => s.controls.stopSensitive
  | .callback _ _ =>
    decide (s.callbacks.head? = some .pressStopButton) && s.controls.stopSensitive
  | .headlessStop => decide (s.recordState = .science)
  | _ => false

/-- What the other events do: request a stop, run a callback, sample the line, or nothing that
concerns a recording. -/
inductive SideEffect (cfg : Settings) (s : DisplayTab) (e : RecorderEvent) (t : DisplayTab) :
    Prop where
  | quiet (same : SameRecording { s with controls := t.controls } t)
      (calibration : SameCalibration s t)
      (record : t.controls.recordSensitive = s.controls.recordSensitive)
      (stop : t.controls.stopSensitive = s.controls.stopSensitive)
  | stop (cs : List Callback)
      (queue : s.callbacks = cs ∨ s.callbacks = .pressStopButton :: cs)
      (request : requestsStop s e = true)
      (after : t = { s with callbacks := cs }.stopButtonWork cfg)
  | stopIgnored (cs : List Callback) (queue : s.callbacks = .pressStopButton :: cs)
      (insensitive : s.controls.stopSensitive = false) (after : t = { s with callbacks := cs })
  | abort (c : Controls)
      (event : e = .abortAnswered true ∨ e = .headlessAbort ∧ s.recordState ≠ .notRecording)
      (record : c.recordSensitive = s.controls.recordSensitive)
      (after : t = { s with controls := c }.requestAbort)
  | refreshRecord (cs : List Callback) (queue : s.callbacks = .refreshRecordControls :: cs)
      (after : t = { s with callbacks := cs }.recordControlsUpdateWork cfg)
  | refreshStop (cs : List Callback) (queue : s.callbacks = .refreshStopButton :: cs)
      (after : t = { s with callbacks := cs }.stopButtonUpdateWork)
  | sample (first second : Bool) (event : e = .testDigitalLineTransition first second)
      (effect : SampleEffect s first second t)

/-- None of them touches the files. -/
theorem SideEffect.sameFiles (h : SideEffect cfg s e t) : SameFiles s t := by
  cases h with
  | quiet same calibration record stop =>
    exact ⟨same.recordState, same.files, same.currentRecording, same.opened, same.headers,
      same.ended, same.unlinked⟩
  | sample first second event effect => cases effect <;> constructor <;> rfl
  | stop cs queue request after | stopIgnored cs queue insensitive after
  | abort c event record after | refreshRecord cs queue after | refreshStop cs queue after =>
    subst after
    constructor <;> rfl

theorem SideEffect.sameCalibration (h : SideEffect cfg s e t) : SameCalibration s t := by
  cases h with
  | quiet same calibration record stop => exact calibration
  | sample first second event effect => cases effect <;> constructor <;> rfl
  | stop cs queue request after | stopIgnored cs queue insensitive after
  | abort c event record after | refreshRecord cs queue after | refreshStop cs queue after =>
    subst after
    constructor <;> rfl

/-- Every step, by what it runs. -/
inductive StepEffect (cfg : Settings) (s : DisplayTab) (e : RecorderEvent) (t : DisplayTab) :
    Prop where
  | records (u : DisplayTab) (r : OpenResult) (a : RecordReplies)
      (press : recordPress s e = some (u, r, a)) (after : t = u.recordButtonWork cfg r a)
  | frame (image : ℕ → UInt16) (w : WriteOutcome) (event : e = .imageFrame image w)
      (effect : FrameEffect cfg s t) (idle : s.recordState = .notRecording → SameRecording s t)
  | poll (event : e = .noImageData) (after : t = s.noImageData cfg)
  | side (press : recordPress s e = none) (event : e ≠ .noImageData) (frame : e.isFrame = false)
      (effect : SideEffect cfg s e t)

theorem runCallback_effect {r : OpenResult} {a : RecordReplies}
    (h : runCallback cfg s r a = some t) : StepEffect cfg s (.callback r a) t := by
  unfold runCallback at h
  split at h
  · simp at h
  next c cs hc =>
    obtain rfl := Option.some.inj h
    have hquiet : c ≠ .pressRecordButton → recordPress s (.callback r a) = none := by
      simp [recordPress, hc]
    cases c with
    | refreshRecordControls =>
      exact .side (hquiet (by simp)) (by simp) rfl (.refreshRecord cs hc rfl)
    | refreshStopButton => exact .side (hquiet (by simp)) (by simp) rfl (.refreshStop cs hc rfl)
    | pressRecordButton =>
      refine .records { s with callbacks := cs } r a ?_ rfl
      simp [recordPress, hc]
    | pressStopButton =>
      apply StepEffect.side (hquiet (by simp)) (by simp) rfl
      simp only [handleFMSStop]
      split_ifs with hs
      · exact .stop cs (Or.inr hc) (by simp [requestsStop, hc, hs]) rfl
      · exact .stopIgnored cs hc (by simpa using hs) rfl

theorem step_effect (h : step cfg s e = some t) : StepEffect cfg s e t := by
  cases e with
  | onRecordButton r a =>
    simp only [step, Option.ite_none_right_eq_some, Option.some.injEq] at h
    exact .records s r a rfl h.2.symm
  | onStopButton =>
    simp only [step, Option.ite_none_right_eq_some, Option.some.injEq, onStopButton] at h
    obtain ⟨-, rfl⟩ := h
    apply StepEffect.side rfl (by simp) rfl
    split_ifs with hs
    · exact .stop s.callbacks (Or.inl rfl) hs rfl
    · exact .quiet (.refl s) (.refl s) rfl rfl
  | onAbortButton =>
    simp only [step, Option.ite_none_right_eq_some, Option.some.injEq, onAbortButton] at h
    obtain ⟨-, rfl⟩ := h
    apply StepEffect.side rfl (by simp) rfl
    split_ifs <;> exact .quiet (by constructor <;> rfl) (by constructor <;> rfl) rfl rfl
  | abortAnswered yes =>
    simp only [step, Option.ite_none_right_eq_some, Option.some.injEq] at h
    obtain ⟨-, rfl⟩ := h
    apply StepEffect.side rfl (by simp) rfl
    cases yes with
    | false => exact .quiet (by constructor <;> rfl) (by constructor <;> rfl) rfl rfl
    | true =>
      exact .abort ⟨s.controls.recordSensitive, false, false, false⟩ (Or.inl rfl) rfl rfl
  | callback r a => exact runCallback_effect h
  | imageFrame image w =>
    obtain ⟨heffect, hidle⟩ := imageFrame_effect cfg s h
    exact .frame image w rfl heffect hidle
  | noImageData => exact .poll rfl (Option.some.inj h).symm
  | updateResourcesDisplay out =>
    obtain rfl := Option.some.inj h
    exact .side rfl (by simp) rfl (.quiet (by constructor <;> rfl) (by constructor <;> rfl) rfl rfl)
  | testDigitalLineTransition first second =>
    simp only [step, Option.ite_none_right_eq_some, Option.some.injEq] at h
    obtain ⟨-, rfl⟩ := h
    exact .side rfl (by simp) rfl
      (.sample first second rfl (testDigitalLineTransition_effect s first second))
  | onOBCControlCombo selection =>
    simp only [step, Option.ite_none_right_eq_some, Option.some.injEq, onOBCControlCombo] at h
    obtain ⟨-, rfl⟩ := h
    apply StepEffect.side rfl (by simp) rfl
    split_ifs <;> exact .quiet (by constructor <;> rfl) (by constructor <;> rfl) rfl rfl
  | onMountControlCombo selection =>
    simp only [step, Option.ite_none_right_eq_some, Option.some.injEq, onMountControlCombo] at h
    obtain ⟨-, rfl⟩ := h
    apply StepEffect.side rfl (by simp) rfl
    split_ifs <;> exact .quiet (by constructor <;> rfl) (by constructor <;> rfl) rfl rfl
  | headlessRecord r a =>
    simp only [step, Option.ite_none_right_eq_some, Option.some.injEq] at h
    obtain ⟨-, rfl⟩ := h
    by_cases hs : s.recordState = .notRecording
    · rw [if_pos hs]
      exact .records s r a (by simp [recordPress, hs]) rfl
    · rw [if_neg hs]
      exact .side (by simp [recordPress, hs]) (by simp) rfl (.quiet (.refl s) (.refl s) rfl rfl)
  | headlessStop =>
    simp only [step, Option.ite_none_right_eq_some, Option.some.injEq] at h
    obtain ⟨-, rfl⟩ := h
    apply StepEffect.side rfl (by simp) rfl
    split_ifs with hs
    · exact .stop s.callbacks (Or.inl rfl) (by simp [requestsStop, hs]) rfl
    · exact .quiet (.refl s) (.refl s) rfl rfl
  | headlessAbort =>
    simp only [step, Option.ite_none_right_eq_some, Option.some.injEq] at h
    obtain ⟨-, rfl⟩ := h
    apply StepEffect.side rfl (by simp) rfl
    split_ifs with hs
    · exact .abort s.controls (Or.inr ⟨rfl, hs⟩) rfl rfl
    · exact .quiet (.refl s) (.refl s) rfl rfl

/-- The members that the other buttons, the digital line and its callbacks leave alone. -/
structure Aside (s t : DisplayTab) : Prop where
  recordState : t.recordState = s.recordState
  files : t.files = s.files
  framesWritten : t.framesWritten = s.framesWritten
  frameCount : t.frameCount = s.frameCount
  currentRecording : t.currentRecording = s.currentRecording
  opened : t.history.opened = s.history.opened
  written : t.history.written = s.history.written
  headers : t.history.headers = s.history.headers
  obcMode : t.mostRecentOBCMode = s.mostRecentOBCMode
  obcState : t.lastOBCState = s.lastOBCState
  mount : t.mostRecentMountMode = s.mostRecentMountMode
  blockFrameRate : t.blockFrameRate = s.blockFrameRate
  fbFrameRate : t.fbFrameRate = s.fbFrameRate
  dark : t.dark = s.dark

theorem Aside.refl (s : DisplayTab) : Aside s s := by
  constructor <;> rfl

/-- The steps that do not press the record button and look at no frame: beside these there are
the two selections. -/
theorem step_aside (h : step cfg s e = some t) (press : recordPress s e = none)
    (frame : e.isFrame = false) (poll : e ≠ .noImageData) : Aside s t ∨
      (∃ selection, e = .onOBCControlCombo selection ∧ t = s.onOBCControlCombo cfg selection) ∨
      ∃ selection, e = .onMountControlCombo selection ∧ t = s.onMountControlCombo selection := by
  cases e with
  | onRecordButton r a => simp [recordPress] at press
  | imageFrame image w => simp [RecorderEvent.isFrame] at frame
  | noImageData => contradiction
  | callback r a =>
    left
    simp only [step, runCallback] at h
    split at h
    · simp at h
    next c cs hc =>
      obtain rfl := Option.some.inj h
      cases c with
      | pressRecordButton => simp [recordPress, hc] at press
      | refreshRecordControls | refreshStopButton => constructor <;> rfl
      | pressStopButton =>
        simp only [handleFMSStop]
        split_ifs <;> constructor <;> rfl
  | testDigitalLineTransition first second =>
    left
    simp only [step, Option.ite_none_right_eq_some, Option.some.injEq] at h
    have heffect := testDigitalLineTransition_effect s first second
    rw [h.2] at heffect
    cases heffect <;> constructor <;> rfl
  | headlessRecord r a =>
    left
    simp only [step, Option.ite_none_right_eq_some, Option.some.injEq] at h
    obtain ⟨-, rfl⟩ := h
    split_ifs with hs
    · simp [recordPress, hs] at press
    · exact .refl s
  | updateResourcesDisplay out =>
    left
    obtain rfl := Option.some.inj h
    constructor <;> rfl
  | onOBCControlCombo selection =>
    simp only [step, Option.ite_none_right_eq_some, Option.some.injEq] at h
    exact Or.inr (Or.inl ⟨selection, rfl, h.2.symm⟩)
  | onMountControlCombo selection =>
    simp only [step, Option.ite_none_right_eq_some, Option.some.injEq] at h
    exact Or.inr (Or.inr ⟨selection, rfl, h.2.symm⟩)
  | onStopButton | onAbortButton | abortAnswered yes | headlessStop | headlessAbort =>
    left
    simp only [step, Option.ite_none_right_eq_some, Option.some.injEq, onStopButton,
      onAbortButton, abortAnswered] at h
    obtain ⟨-, rfl⟩ := h
    split_ifs <;> constructor <;> rfl

/-- The members that the other steps leave alone, and the OBC, which only the user's selection
changes then. -/
structure Untouched (s : DisplayTab) (e : RecorderEvent) (t : DisplayTab) : Prop where
  recordState : t.recordState = s.recordState
  files : t.files = s.files
  framesWritten : t.framesWritten = s.framesWritten
  frameCount : t.frameCount = s.frameCount
  currentRecording : t.currentRecording = s.currentRecording
  opened : t.history.opened = s.history.opened
  written : t.history.written = s.history.written
  headers : t.history.headers = s.history.headers
  obc : t.mostRecentOBCMode = s.mostRecentOBCMode ∧ t.lastOBCState = s.lastOBCState ∨
    ∃ selection, e = .onOBCControlCombo selection ∧ t.mostRecentOBCMode = selection ∧
      t.lastOBCState = if selection = .auto then obcStateFor s.recordState
        else obcControlCode selection

theorem step_untouched (h : step cfg s e = some t) (press : recordPress s e = none)
    (frame : e.isFrame = false) (poll : e ≠ .noImageData) : Untouched s e t := by
  rcases step_aside h press frame poll with haside | ⟨selection, rfl, rfl⟩ | ⟨selection, rfl, rfl⟩
  · exact ⟨haside.recordState, haside.files, haside.framesWritten, haside.frameCount,
      haside.currentRecording, haside.opened, haside.written, haside.headers,
      Or.inl ⟨haside.obcMode, haside.obcState⟩⟩
  · cases selection <;>
      exact ⟨rfl, rfl, rfl, rfl, rfl, rfl, rfl, rfl, Or.inr ⟨_, rfl, rfl, rfl⟩⟩
  · unfold onMountControlCombo
    split_ifs <;> exact ⟨rfl, rfl, rfl, rfl, rfl, rfl, rfl, rfl, Or.inl ⟨rfl, rfl⟩⟩

/-- The mount mode, which only a selection changes then, the frame rates, and the dark frame,
which is restarted only where a dark state is selected. -/
structure SelectionsKept (cfg : Settings) (s : DisplayTab) (e : RecorderEvent) (t : DisplayTab) :
    Prop where
  mount : t.mostRecentMountMode = s.mostRecentMountMode ∨ ∃ m, e = .onMountControlCombo m
  blockFrameRate : t.blockFrameRate = s.blockFrameRate
  fbFrameRate : t.fbFrameRate = s.fbFrameRate
  dark : t.dark = s.dark ∨ t.dark = s.dark.restart (s.frameRateHz cfg) ∧ t.lastOBCState = .dark1

theorem step_selectionsKept (h : step cfg s e = some t) (press : recordPress s e = none)
    (frame : e.isFrame = false) (poll : e ≠ .noImageData) :
    SelectionsKept cfg s e t := by
  rcases step_aside h press frame poll with haside | ⟨selection, rfl, rfl⟩ | ⟨selection, rfl, rfl⟩
  · exact ⟨Or.inl haside.mount, haside.blockFrameRate, haside.fbFrameRate, Or.inl haside.dark⟩
  · cases selection with
    | dark => exact ⟨Or.inl rfl, rfl, rfl, Or.inr ⟨rfl, rfl⟩⟩
    | auto | idle | mid | high | laser => exact ⟨Or.inl rfl, rfl, rfl, Or.inl rfl⟩
  · unfold onMountControlCombo
    split_ifs <;> exact ⟨Or.inr ⟨selection, rfl⟩, rfl, rfl, Or.inl rfl⟩

end Recorder
