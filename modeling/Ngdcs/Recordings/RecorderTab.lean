import Ngdcs.Recorder.Abort
import Ngdcs.Recordings.TabSession

/-! The recorder and the Recordings tab together: what the steps of the recorder call of the tab,
and that the tab follows the recorder. -/
namespace Recordings

open CStrings Ftp Runs
open Recorder (Settings StartUp DisplayTab RecorderEvent NoLateRequest pendingHandOvers
  recordPress requestsStop)
open Recorder.DisplayTab (OpenResult RecordReplies)

/-- What the functions of the recorder read beside its state: the prefix, the clock, and which files
cannot be removed. -/
structure Surroundings where
  currentPrefix : List UInt8
  time : ℤ
  closeTime : ℤ
  refused : List UInt8 → Bool

/-- The call of `openFiles` in `recordButtonWork`. -/
def recordCalls (cfg : Settings) (d : DisplayTab) (x : Surroundings) (r : OpenResult)
    (a : RecordReplies) : List TabEvent :=
  if (d.prepareRecording cfg a).isSome then [.recordPressed x.currentPrefix x.time r] else []

def stopCalls (d : DisplayTab) : List TabEvent :=
  if d.controls.stopSensitive then [.stopPressed] else []

/-- What a step of the recorder from `d` to `t` calls, of what concerns the tab and its files. -/
def tabCalls (cfg : Settings) (d t : DisplayTab) (x : Surroundings) :
    RecorderEvent → List TabEvent
  | .onRecordButton r a => recordCalls cfg d x r a
  | .onStopButton => stopCalls d
  | .abortAnswered yes => if yes then [.abortConfirmed] else []
  | .callback r a =>
    match d.callbacks with
    | .refreshRecordControls :: _ => [.controlsUpdated]
    | .pressRecordButton :: cs => recordCalls cfg { d with callbacks := cs } x r a
    | .pressStopButton :: _ => stopCalls d
    | _ => []
  | .imageFrame _ _ =>
    if d.recordState ≠ .notRecording ∧ t.recordState = .notRecording then
      [.finished x.closeTime x.refused]
    else []
  | .noImageData =>
    if d.stopRequested = true ∧ t.recordState = .notRecording then
      [.finished x.closeTime x.refused]
    else []
  | _ => []

structure App where
  recorder : DisplayTab
  tab : TabSession

inductive AppEvent where
  | recorder (e : RecorderEvent) (x : Surroundings)
  | select (chosen : ℕ → Bool)
  | deletePressed
  | answered (yes : Bool) (refused : List UInt8 → Bool)

namespace App

/-- A step of the recorder with all that it calls, or an action of the user in the tab. -/
def step (cfg : Settings) (a : App) : AppEvent → Option App
  | .recorder e x =>
    (Recorder.step cfg a.recorder e).bind fun t =>
      (run TabSession.step a.tab (tabCalls cfg a.recorder t x e)).map fun s => ⟨t, s⟩
  | .select chosen => (a.tab.step (.select chosen)).map fun s => { a with tab := s }
  | .deletePressed => (a.tab.step .deletePressed).map fun s => { a with tab := s }
  | .answered yes refused =>
    (a.tab.step (.answered yes refused)).map fun s => { a with tab := s }

def start (cfg : Settings) (u : StartUp) (disk : DataDir) (dailySubdir : List UInt8) (tm : Tm)
    (r : Recording) : App :=
  ⟨Recorder.initial cfg u, .start disk dailySubdir tm r⟩

end App

/-- No request of the recorder comes late, and a new recording has a new name in the daily
directory. -/
def Timely (a : App) (e : AppEvent) (a' : App) : Prop :=
  match e with
  | .recorder e x => NoLateRequest a.recorder e a'.recorder ∧
    (requestsStop a.recorder e = true → a.recorder.recordState ≠ .notRecording ∨
      pendingHandOvers a.recorder = 0 ∨ a.recorder.stopIsAbort = false) ∧
    ((recordPress a.recorder e).isSome = true → 47 ∉ x.currentPrefix ∧ FourDigits x.time ∧
      ¬a.tab.disk.OnDisk (a.tab.openedRecording x.currentPrefix x.time).imagepath)
  | _ => True

/-- The tab knows what the recorder does, and has counted the recordings handed over. -/
structure Linked (first : TabSession) (d : DisplayTab) (s : TabSession) : Prop where
  recording : s.recording = true ↔ d.recordState ≠ .notRecording
  stopIsAbort : s.stopIsAbort = d.stopIsAbort
  callbacks : s.callbacks = pendingHandOvers d
  lines : s.tab.numFlightLines = first.tab.numFlightLines + d.history.added.length

/-- The members that the tab depends on. -/
theorem Linked.of_same {d t : DisplayTab} {first s : TabSession} (h : Linked first d s)
    (hstate : t.recordState = .notRecording ↔ d.recordState = .notRecording)
    (habort : t.stopIsAbort = d.stopIsAbort) (hpending : pendingHandOvers t = pendingHandOvers d)
    (hadded : t.history.added = d.history.added) : Linked first t s where
  recording := h.recording.trans (not_congr hstate.symm)
  stopIsAbort := h.stopIsAbort.trans habort.symm
  callbacks := h.callbacks.trans hpending.symm
  lines := hadded ▸ h.lines

theorem Linked.of_sameRecording {d t : DisplayTab} {first s : TabSession} (h : Linked first d s)
    (same : Recorder.SameRecording d t) : Linked first t s :=
  h.of_same (by rw [same.recordState]) same.stopIsAbort (congrArg (List.count _) same.callbacks)
    same.added

section

variable {cfg : Settings} {d t u : DisplayTab} {first s : TabSession} {x : Surroundings}
  {r : OpenResult} {a : RecordReplies}

/-- The tab does what the recorder calls, and is as it should be behind it. -/
def Follows (first s : TabSession) (calls : List TabEvent) (t : DisplayTab) : Prop :=
  ∃ s', run TabSession.step s calls = some s' ∧ TabSession.Inv first s' ∧ Linked first t s'

theorem follows_nil (hinv : TabSession.Inv first s) (hlinked : Linked first t s) :
    Follows first s [] t := ⟨s, rfl, hinv, hlinked⟩

theorem follows_one {e : TabEvent} {s' : TabSession} (hstep : s.step e = some s')
    (hinv : TabSession.Inv first s) (hfresh : TabSession.Fresh s e s')
    (hlinked : Linked first t s') : Follows first s [e] t := by
  refine ⟨s', ?_, TabSession.step_inv hinv hfresh hstep, hlinked⟩
  exact run_cons_eq_some.mpr ⟨s', hstep, rfl⟩

theorem pendingHandOvers_same (h : Recorder.SameRecording d t) :
    pendingHandOvers t = pendingHandOvers d := congrArg (List.count _) h.callbacks

/-- `recordButtonWork` is called when there is no recording. -/
theorem follows_record (hinv : TabSession.Inv first s) (hlinked : Linked first u s)
    (hidle : u.recordState = .notRecording ∧ pendingHandOvers u = 0)
    (hnew : 47 ∉ x.currentPrefix ∧ FourDigits x.time ∧
      ¬s.disk.OnDisk (s.openedRecording x.currentPrefix x.time).imagepath) :
    Follows first s (recordCalls cfg u x r a) (u.recordButtonWork cfg r a) := by
  have hrecording : s.recording = false := by
    by_contra hrecording
    exact hlinked.recording.mp (Bool.eq_true_of_not_eq_false hrecording) hidle.1
  have hfresh (s' : TabSession) :
      TabSession.Fresh s (.recordPressed x.currentPrefix x.time r) s' :=
    ⟨⟨hrecording, hlinked.callbacks.trans hidle.2⟩, hnew⟩
  have hcalls (hgiven : ¬Recorder.UserCancels cfg u a) :
      recordCalls cfg u x r a = [.recordPressed x.currentPrefix x.time r] := by
    refine if_pos (Option.ne_none_iff_isSome.mp fun hnone => hgiven ?_)
    exact Recorder.prepareRecording_eq_none_iff.mp hnone
  cases Recorder.recordButtonWork_effect cfg u r a with
  | cancelled given after =>
    rw [after, recordCalls, Recorder.prepareRecording_eq_none_iff.mpr given]
    exact follows_nil hinv hlinked
  | failed v given same files after =>
    rw [after, hcalls given]
    refine follows_one rfl hinv (hfresh _) ?_
    have hv : Linked first v s := hlinked.of_sameRecording same
    cases r with
    | ok => exact absurd rfl files
    | imageFails | headerFails | gpsFails | ppsFails =>
      exact ⟨hv.recording, hv.stopIsAbort, hv.callbacks, hv.lines⟩
  | started v st given same files phase after =>
    rw [after, hcalls given]
    have hst : st ≠ .notRecording := by
      rcases phase with rfl | rfl <;> exact nofun
    subst files
    refine follows_one rfl hinv (hfresh _) ⟨iff_of_true rfl ?_, ?_, ?_, ?_⟩
    · rwa [Recorder.DisplayTab.enterPhase_recordState]
    · rw [Recorder.DisplayTab.enterPhase_stopIsAbort]
      rfl
    · rw [Recorder.pendingHandOvers_enterPhase hst]
      exact hlinked.callbacks.trans (pendingHandOvers_same same).symm
    · rw [Recorder.DisplayTab.enterPhase_added]
      exact (hlinked.of_sameRecording same).lines

theorem enterIdleState_links (s : TabSession) (closeTime : ℤ) (refused : List UInt8 → Bool) :
    let s' := s.enterIdleState closeTime refused
    s'.recording = false ∧ s'.stopIsAbort = s.stopIsAbort ∧ s'.callbacks = s.callbacks + 1 ∧
      s'.tab = s.tab := by
  have hsame {α : Type} (f : TabSession → α) (t : TabSession) (h : f t = f s) :
      f (if s.stopIsAbort then t else s) = f s := by
    split_ifs
    · exact h
    · rfl
  refine ⟨rfl, ?_, ?_, ?_⟩
  · exact hsame TabSession.stopIsAbort _ rfl
  · exact hsame (fun s => s.callbacks + 1) _ rfl
  · exact hsame TabSession.tab _ rfl

/-- What a frame or a poll calls during a recording. -/
theorem follows_frame (hwindow : cfg.headless = false) (hinv : TabSession.Inv first s)
    (hlinked : Linked first d s) (heffect : Recorder.DisplayTab.FrameEffect cfg d t)
    (hrecording : d.recordState ≠ .notRecording) :
    Follows first s
      (if t.recordState = .notRecording then [.finished x.closeTime x.refused] else []) t := by
  cases heffect with
  | stays same =>
    rw [same.recordState, if_neg hrecording]
    exact follows_nil hinv (hlinked.of_sameRecording same)
  | enters st v before stop target after =>
    have hstate : t.recordState = st :=
      after.recordState.trans (Recorder.DisplayTab.enterPhase_recordState cfg v st)
    have habort : t.stopIsAbort = d.stopIsAbort := after.stopIsAbort.trans
      ((Recorder.DisplayTab.enterPhase_stopIsAbort cfg v st).trans before.stopIsAbort)
    have hpending : pendingHandOvers v = pendingHandOvers d :=
      congrArg (List.count _) before.callbacks
    have hadded : t.history.added = d.history.added := after.added.trans
      ((Recorder.DisplayTab.enterPhase_added cfg v st).trans before.added)
    rw [hstate]
    split_ifs with hst
    · subst hst
      obtain ⟨hidle, hstop, hcallbacks, htab⟩ := enterIdleState_links s x.closeTime x.refused
      refine follows_one rfl hinv (hlinked.recording.mpr hrecording) ⟨?_, ?_, ?_, ?_⟩
      · exact iff_of_false (Bool.eq_false_iff.mp hidle) fun hne => hne hstate
      · exact hstop.trans (hlinked.stopIsAbort.trans habort.symm)
      · rw [hcallbacks, hlinked.callbacks, ← hpending,
          ← Recorder.pendingHandOvers_enterIdleState hwindow]
        exact (pendingHandOvers_same after).symm
      · rw [htab, hadded]
        exact hlinked.lines
    · refine follows_nil hinv (hlinked.of_same ?_ habort ?_ hadded)
      · exact iff_of_false (hstate ▸ hst) hrecording
      · exact (pendingHandOvers_same after).trans
          ((Recorder.pendingHandOvers_enterPhase hst).trans hpending)

/-- A stop press that is heard, or not. -/
theorem follows_stop {cs : List Recorder.Callback} (hinv : TabSession.Inv first s)
    (hlinked : Linked first d s)
    (hstop : d.controls.stopSensitive = true → d.recordState ≠ .notRecording ∨
      pendingHandOvers d = 0 ∨ d.stopIsAbort = false)
    (hpending : cs.count .refreshRecordControls = pendingHandOvers d) :
    Follows first s (stopCalls d)
      (if d.controls.stopSensitive then { d with callbacks := cs }.stopButtonWork cfg
        else { d with callbacks := cs }) := by
  unfold stopCalls
  split_ifs with hsensitive
  · refine follows_one rfl hinv ?_ ⟨hlinked.recording, rfl,
      hlinked.callbacks.trans hpending.symm, hlinked.lines⟩
    exact (hstop hsensitive).imp hlinked.recording.mpr
      (.imp hlinked.callbacks.trans hlinked.stopIsAbort.trans)
  · exact follows_nil hinv (hlinked.of_same Iff.rfl rfl hpending rfl)

/-- A recording that was not aborted gets the next number. -/
theorem lines_recordControlsUpdateWork (hinv : TabSession.Inv first s)
    (hcallbacks : s.callbacks ≠ 0) : s.recordControlsUpdateWork.tab.numFlightLines =
      if s.stopIsAbort then s.tab.numFlightLines else s.tab.numFlightLines + 1 := by
  unfold TabSession.recordControlsUpdateWork
  cases habort : s.stopIsAbort with
  | true => rfl
  | false =>
    have hawaited : s.awaited = true := by
      unfold TabSession.awaited
      rw [habort, decide_eq_true (Nat.pos_of_ne_zero hcallbacks)]
      exact Bool.or_true _
    exact if_pos (hinv.current hawaited).1

/-- The main thread runs a callback. -/
theorem follows_callback (hinv : TabSession.Inv first s) (hlinked : Linked first d s)
    (hidle : (recordPress d (.callback r a)).isSome = true →
      d.recordState = .notRecording ∧ pendingHandOvers d = 0)
    (hstop : requestsStop d (.callback r a) = true → d.recordState ≠ .notRecording ∨
      pendingHandOvers d = 0 ∨ d.stopIsAbort = false)
    (hnew : (recordPress d (.callback r a)).isSome = true → 47 ∉ x.currentPrefix ∧
      FourDigits x.time ∧ ¬s.disk.OnDisk (s.openedRecording x.currentPrefix x.time).imagepath)
    (hstep : Recorder.runCallback cfg d r a = some t) :
    Follows first s (tabCalls cfg d t x (.callback r a)) t := by
  unfold Recorder.runCallback at hstep
  unfold tabCalls
  unfold recordPress at hidle hnew
  unfold requestsStop at hstop
  cases hqueue : d.callbacks with
  | nil =>
    rw [hqueue] at hstep
    cases hstep
  | cons c cs =>
    rw [hqueue] at hstep hidle hnew hstop
    obtain rfl := Option.some.inj hstep
    have hcount : pendingHandOvers d = (c :: cs).count .refreshRecordControls :=
      congrArg (List.count _) hqueue
    cases c with
    | refreshRecordControls =>
      have hpending : pendingHandOvers d = cs.count .refreshRecordControls + 1 :=
        hcount.trans List.count_cons_self
      have hcallbacks : s.callbacks = cs.count .refreshRecordControls + 1 :=
        hlinked.callbacks.trans hpending
      refine follows_one (if_neg ?_) hinv trivial ⟨?_, ?_, ?_, ?_⟩
      · rw [hcallbacks]
        exact Nat.succ_ne_zero _
      · exact hlinked.recording
      · exact hlinked.stopIsAbort
      · show s.callbacks - 1 = _
        rw [hcallbacks]
        rfl
      · rw [lines_recordControlsUpdateWork hinv (hcallbacks.trans_ne (Nat.succ_ne_zero _)),
          hlinked.stopIsAbort, hlinked.lines]
        unfold Recorder.DisplayTab.recordControlsUpdateWork
        dsimp only
        split_ifs
        · rfl
        · rw [List.length_append]
          rfl
    | refreshStopButton =>
      exact follows_nil hinv (hlinked.of_same Iff.rfl rfl hcount.symm rfl)
    | pressRecordButton =>
      have hrest : Linked first { d with callbacks := cs } s :=
        hlinked.of_same Iff.rfl rfl hcount.symm rfl
      obtain ⟨hstate, hnone⟩ := hidle rfl
      exact follows_record hinv hrest ⟨hstate, hcount.symm.trans hnone⟩ (hnew rfl)
    | pressStopButton =>
      exact follows_stop hinv hlinked (fun hsensitive => hstop hsensitive) hcount.symm

/-- The tab can do what a step of the recorder calls. -/
theorem step_follows {e : RecorderEvent} (hwindow : cfg.headless = false)
    (hinv : TabSession.Inv first s) (hlinked : Linked first d s)
    (htimely : Timely ⟨d, s⟩ (.recorder e x) ⟨t, s⟩) (hstep : Recorder.step cfg d e = some t) :
    Follows first s (tabCalls cfg d t x e) t := by
  obtain ⟨hlate, hstop, hnew⟩ := htimely
  have hidle := hlate.2.2
  cases e with
  | onRecordButton r a =>
    simp only [Recorder.step, Option.ite_none_right_eq_some, Option.some.injEq] at hstep
    obtain ⟨-, rfl⟩ := hstep
    exact follows_record hinv hlinked (hidle rfl) (hnew rfl)
  | onStopButton =>
    simp only [Recorder.step, Option.ite_none_right_eq_some, Option.some.injEq] at hstep
    obtain ⟨-, rfl⟩ := hstep
    exact follows_stop hinv hlinked hstop rfl
  | onAbortButton =>
    simp only [Recorder.step, Option.ite_none_right_eq_some, Option.some.injEq,
      Recorder.DisplayTab.onAbortButton] at hstep
    obtain ⟨-, rfl⟩ := hstep
    refine follows_nil hinv (hlinked.of_same ?_ ?_ ?_ ?_) <;> split_ifs <;> rfl
  | abortAnswered yes =>
    simp only [Recorder.step, Option.ite_none_right_eq_some, Option.some.injEq] at hstep
    obtain ⟨-, rfl⟩ := hstep
    cases yes with
    | false => exact follows_nil hinv (hlinked.of_same Iff.rfl rfl rfl rfl)
    | true =>
      exact follows_one (e := .abortConfirmed) rfl hinv trivial
        ⟨hlinked.recording, rfl, hlinked.callbacks, hlinked.lines⟩
  | callback r a => exact follows_callback hinv hlinked hidle hstop hnew hstep
  | imageFrame image w =>
    obtain ⟨heffect, hsame⟩ := Recorder.DisplayTab.imageFrame_effect cfg d hstep
    by_cases hstate : d.recordState = .notRecording
    · have hsame := hsame hstate
      have hcalls : tabCalls cfg d t x (.imageFrame image w) = [] :=
        if_neg fun hended => hended.1 hstate
      rw [hcalls]
      exact follows_nil hinv (hlinked.of_sameRecording hsame)
    · have hfollows := follows_frame (x := x) hwindow hinv hlinked heffect hstate
      have hcalls : tabCalls cfg d t x (.imageFrame image w) =
          if t.recordState = .notRecording then [.finished x.closeTime x.refused] else [] :=
        if_congr ⟨And.right, fun hended => ⟨hstate, hended⟩⟩ rfl rfl
      rwa [hcalls]
  | noImageData =>
    obtain rfl := Option.some.inj hstep
    by_cases hstate : d.recordState = .notRecording
    · have hnone : d.noImageData cfg = d :=
        if_neg (Bool.eq_false_iff.mp (hlate.2.1 rfl hstate))
      have hcalls : tabCalls cfg d (d.noImageData cfg) x .noImageData = [] :=
        if_neg fun hended => Bool.eq_false_iff.mp (hlate.2.1 rfl hstate) hended.1
      rw [hcalls, hnone]
      exact follows_nil hinv hlinked
    · have hfollows := follows_frame (x := x) hwindow hinv hlinked
        (Recorder.DisplayTab.noImageData_effect cfg d) hstate
      have hrequest (hended : (d.noImageData cfg).recordState = .notRecording) :
          d.stopRequested = true := by
        by_contra hno
        have hnone : d.noImageData cfg = d := if_neg hno
        exact hstate (hnone ▸ hended)
      have hcalls : tabCalls cfg d (d.noImageData cfg) x .noImageData =
          if (d.noImageData cfg).recordState = .notRecording then
            [.finished x.closeTime x.refused]
          else [] :=
        if_congr ⟨And.right, fun hended => ⟨hrequest hended, hended⟩⟩ rfl rfl
      rwa [hcalls]
  | updateResourcesDisplay out =>
    obtain rfl := Option.some.inj hstep
    exact follows_nil hinv (hlinked.of_same Iff.rfl rfl rfl rfl)
  | testDigitalLineTransition high low =>
    simp only [Recorder.step, Option.ite_none_right_eq_some, Option.some.injEq] at hstep
    have heffect := Recorder.testDigitalLineTransition_effect d high low
    rw [hstep.2] at heffect
    cases heffect with
    | ignored | raised | lowered => exact follows_nil hinv (hlinked.of_same Iff.rfl rfl rfl rfl)
    | pressesRecord | pressesStop =>
      refine follows_nil hinv (hlinked.of_same Iff.rfl rfl ?_ rfl)
      exact List.count_append.trans (Nat.add_zero _)
  | onOBCControlCombo selection =>
    simp only [Recorder.step, Option.ite_none_right_eq_some, Option.some.injEq,
      Recorder.DisplayTab.onOBCControlCombo] at hstep
    obtain ⟨-, rfl⟩ := hstep
    refine follows_nil hinv (hlinked.of_same ?_ ?_ ?_ ?_) <;> split_ifs <;> rfl
  | onMountControlCombo selection =>
    simp only [Recorder.step, Option.ite_none_right_eq_some, Option.some.injEq,
      Recorder.DisplayTab.onMountControlCombo] at hstep
    obtain ⟨-, rfl⟩ := hstep
    refine follows_nil hinv (hlinked.of_same ?_ ?_ ?_ ?_) <;> split_ifs <;> rfl
  | headlessRecord | headlessStop | headlessAbort =>
    simp only [Recorder.step, hwindow, Bool.false_eq_true, if_false] at hstep
    cases hstep

end

namespace App

instance (a : App) (e : AppEvent) (b : App) : Decidable (Timely a e b) :=
  match e with
  | .recorder _ _ => inferInstanceAs (Decidable (_ ∧ (_ → _ ∨ _ ∨ _) ∧ (_ → _ ∧ _ ∧ ¬_)))
  | .select _ | .deletePressed | .answered _ _ => isTrue trivial

/-- The tab is as it should be, and knows what the recorder does. -/
structure Together (first : TabSession) (a : App) : Prop where
  inv : TabSession.Inv first a.tab
  linked : Linked first a.recorder a.tab

variable {cfg : Settings} {first : TabSession} {a b : App} {e : AppEvent}

theorem together_start {disk : DataDir} {dailySubdir : List UInt8} (u : StartUp)
    (haccessible : Accessible disk) (hdaily : Daily disk dailySubdir) (tm : Tm) (r : Recording) :
    Together (.start disk dailySubdir tm r) (start cfg u disk dailySubdir tm r) where
  inv := TabSession.inv_start haccessible hdaily tm r
  linked := ⟨iff_of_false Bool.false_ne_true fun hne => hne rfl, rfl, rfl, rfl⟩

/-- The tab does what a step of the recorder calls. -/
theorem Together.recorder {e : RecorderEvent} {x : Surroundings} {t : DisplayTab}
    (h : Together first a) (hwindow : cfg.headless = false)
    (htimely : Timely a (.recorder e x) ⟨t, a.tab⟩)
    (hstep : Recorder.step cfg a.recorder e = some t) :
    ∃ b, step cfg a (.recorder e x) = some b ∧ b.recorder = t ∧ Together first b := by
  obtain ⟨s, hrun, hinv, hlinked⟩ := step_follows hwindow h.inv h.linked htimely hstep
  refine ⟨⟨t, s⟩, ?_, rfl, hinv, hlinked⟩
  simp only [step, hstep, Option.bind_some, hrun, Option.map_some]

/-- An action of the user in the tab. -/
theorem Together.tab {e : TabEvent} {s : TabSession} (h : Together first a)
    (hfresh : TabSession.Fresh a.tab e s) (hstep : a.tab.step e = some s)
    (hsame : s.recording = a.tab.recording ∧ s.stopIsAbort = a.tab.stopIsAbort ∧
      s.callbacks = a.tab.callbacks ∧ s.tab.numFlightLines = a.tab.tab.numFlightLines) :
    Together first { a with tab := s } := by
  obtain ⟨hrecording, habort, hcallbacks, hlines⟩ := hsame
  exact {
    inv := TabSession.step_inv h.inv hfresh hstep
    linked := {
      recording := hrecording ▸ h.linked.recording
      stopIsAbort := habort.trans h.linked.stopIsAbort
      callbacks := hcallbacks.trans h.linked.callbacks
      lines := hlines.trans h.linked.lines } }

theorem step_together (h : Together first a) (hwindow : cfg.headless = false)
    (htimely : Timely a e b) (hstep : step cfg a e = some b) : Together first b := by
  cases e with
  | recorder e x =>
    obtain ⟨t, hrecorder, -⟩ := Option.bind_eq_some_iff.mp hstep
    obtain ⟨b', hb', -, htogether⟩ := h.recorder (t := t) hwindow htimely hrecorder
    rw [hstep] at hb'
    exact Option.some.inj hb' ▸ htogether
  | select chosen =>
    obtain ⟨s, hs, rfl⟩ := Option.map_eq_some_iff.mp hstep
    apply h.tab (e := .select chosen) trivial hs
    simp only [TabSession.step] at hs
    split_ifs at hs
    cases hs
    exact ⟨rfl, rfl, rfl, rfl⟩
  | deletePressed =>
    obtain ⟨s, hs, rfl⟩ := Option.map_eq_some_iff.mp hstep
    apply h.tab (e := .deletePressed) trivial hs
    simp only [TabSession.step] at hs
    split_ifs at hs
    cases hs
    refine ⟨rfl, rfl, rfl, ?_⟩
    unfold RecordingsTab.onDeleteButton
    split_ifs <;> rfl
  | answered yes refused =>
    obtain ⟨s, hs, rfl⟩ := Option.map_eq_some_iff.mp hstep
    apply h.tab (e := .answered yes refused) trivial hs
    simp only [TabSession.step] at hs
    split at hs
    · cases hs
    · split_ifs at hs
      · cases hs
        exact ⟨rfl, rfl, rfl, rfl⟩
      · split at hs <;> cases hs <;> exact ⟨rfl, rfl, rfl, rfl⟩

/-- The tab and the recorder, and what the tab can do next. -/
structure Following (cfg : Settings) (first : TabSession) (a : App) : Prop where
  kept : TabSession.Kept first a.tab
  linked : Linked first a.recorder a.tab
  next : ∀ e x t, Timely a (.recorder e x) ⟨t, a.tab⟩ → Recorder.step cfg a.recorder e = some t →
    ∃ b, step cfg a (.recorder e x) = some b ∧ b.recorder = t

/-- The tab follows the recorder of the window program through any run in which no request comes
late: it can always do what the recorder calls, knows whether there is a recording and which
callbacks are waiting, and its last number counts the recordings that the recorder handed over. -/
theorem tab_follows {cfg : Settings} {u : StartUp} {disk : DataDir} {dailySubdir : List UInt8}
    {tm : Tm} {r : Recording} {es : List AppEvent} {a : App} (hwindow : cfg.headless = false)
    (haccessible : Accessible disk) (hdaily : Daily disk dailySubdir)
    (htimely : EachStep (step cfg) Timely (start cfg u disk dailySubdir tm r) es)
    (hrun : run (step cfg) (start cfg u disk dailySubdir tm r) es = some a) :
    Following cfg (.start disk dailySubdir tm r) a := by
  have hkeep (a : App) (e : AppEvent) (b : App)
      (ha : Together (.start disk dailySubdir tm r) a) (htimely : Timely a e b)
      (hstep : step cfg a e = some b) : Together (.start disk dailySubdir tm r) b :=
    step_together ha hwindow htimely hstep
  have hstart : Together (.start disk dailySubdir tm r) (start cfg u disk dailySubdir tm r) :=
    together_start u haccessible hdaily tm r
  have htogether := htimely.invariant hkeep hstart hrun
  refine ⟨htogether.inv.kept, htogether.linked, fun e x t hnext hstep => ?_⟩
  obtain ⟨b, hb, hrecorder, -⟩ := htogether.recorder hwindow hnext hstep
  exact ⟨b, hb, hrecorder⟩

/-- A recording, whose row is deleted, and one that is aborted. -/
def appEvents : List AppEvent :=
  let x : Surroundings := ⟨bytes "ang", 1704165000, 1704165060, fun _ => false⟩
  let y : Surroundings := ⟨bytes "ang", 1704165100, 1704165110, fun _ => false⟩
  let callback : RecorderEvent := .callback .ok Recorder.yesToAll
  let frame : RecorderEvent := .imageFrame Recorder.emptyLine1 Recorder.allWritten
  [.recorder (.onRecordButton .ok Recorder.yesToAll) x, .recorder callback x,
    .recorder .onStopButton x, .recorder frame x, .recorder frame x, .recorder callback x,
    .select fun i => i = 2, .deletePressed, .answered true fun _ => false,
    .recorder (.onRecordButton .ok Recorder.yesToAll) y, .recorder callback y,
    .recorder .onAbortButton y, .recorder (.abortAnswered true) y, .recorder frame y,
    .recorder callback y]

def appStart : App :=
  start Recorder.dark2Only Recorder.plainStart TabSession.dailyDisk (bytes "20240102")
    ⟨0, 0, 0, 0, 0, 0⟩ (newRecording [] [] [] .flightLine 0 0)

theorem tab_follows_daily : ∃ a, run (step Recorder.dark2Only) appStart appEvents = some a ∧
    Following Recorder.dark2Only appStart.tab a := by
  have hrun : (run (step Recorder.dark2Only) appStart appEvents).isSome = true := by
    decide +kernel
  obtain ⟨a, ha⟩ := Option.isSome_iff_exists.mp hrun
  refine ⟨a, ha, tab_follows rfl (by decide) (by decide) ?_ ha⟩
  decide +kernel

end App

end Recordings
