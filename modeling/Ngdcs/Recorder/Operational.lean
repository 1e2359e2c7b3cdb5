import Ngdcs.Recorder.OpenFiles

/-! The configuration in which a recording starts. Headless or in operational mode,
`recordButtonWork` first puts right what the user has changed: the OBC mode, the mount mode and
the frame rate. In the window it does so through the entries of its combo boxes, whose
callbacks do the rest; `Window` has these, and does what the recorder does as long as the
entries show what is in force. -/
namespace Recorder
open Runs DisplayTab

variable {cfg : Settings} {s t : DisplayTab}

/-- The members that the entries of the combo boxes show. -/
structure SameModes (s t : DisplayTab) : Prop where
  obc : t.mostRecentOBCMode = s.mostRecentOBCMode
  mount : t.mostRecentMountMode = s.mostRecentMountMode
  rate : t.blockFrameRate = s.blockFrameRate

theorem SameModes.trans {u : DisplayTab} (h : SameModes s t) (h' : SameModes t u) :
    SameModes s u :=
  ⟨h'.obc.trans h.obc, h'.mount.trans h.mount, h'.rate.trans h.rate⟩

theorem sameModes_enterPhase (s : DisplayTab) (st : RecordState) :
    SameModes s (s.enterPhase cfg st) := by
  cases st <;> exact ⟨rfl, rfl, rfl⟩

theorem sameModes_startRecording (s : DisplayTab) : SameModes s (s.startRecording cfg) := by
  unfold startRecording
  simp only
  split_ifs <;> exact ⟨rfl, rfl, rfl⟩

theorem sameModes_openFiles (s : DisplayTab) (r : OpenResult) :
    SameModes s (s.openFiles r) := by
  cases r <;> exact ⟨rfl, rfl, rfl⟩

theorem sameModes_imageFrame {image : ℕ → UInt16} {w : WriteOutcome}
    (h : s.imageFrame cfg image w = some t) : SameModes s t := by
  obtain ⟨_, _, _, _, _, u, rfl, -, rfl | ⟨st, out, -, rfl⟩⟩ := imageFrame_eq cfg s h
  · exact ⟨rfl, rfl, rfl⟩
  · cases st <;> exact ⟨rfl, rfl, rfl⟩

/-- Apart from record presses, only the selections change what the entries show. -/
theorem step_sameModes {e : RecorderEvent} (h : step cfg s e = some t)
    (press : recordPress s e = none) (hobc : ∀ m, e ≠ .onOBCControlCombo m)
    (hmount : ∀ m, e ≠ .onMountControlCombo m) : SameModes s t := by
  by_cases hframe : e.isFrame = true
  · cases e with
    | imageFrame image w => exact sameModes_imageFrame h
    | _ => simp [RecorderEvent.isFrame] at hframe
  by_cases hpoll : e = .noImageData
  · subst hpoll
    obtain rfl := Option.some.inj h
    by_cases hstop : s.stopRequested = true
    · have hsame := @sameModes_enterPhase cfg { s with stopRequested := false }
        (if s.stopIsAbort then .notRecording else s.stopPhase cfg)
      rw [noImageData_eq cfg s hstop]
      exact ⟨hsame.obc, hsame.mount, hsame.rate⟩
    · rw [noImageData, if_neg hstop]
      exact ⟨rfl, rfl, rfl⟩
  · have huntouched := step_untouched h press (by simpa using hframe) hpoll
    have hkept := step_selectionsKept h press (by simpa using hframe) hpoll
    refine ⟨?_, ?_, hkept.blockFrameRate⟩
    · rcases huntouched.obc with ⟨hmode, -⟩ | ⟨m, hm, -⟩
      · exact hmode
      · exact absurd hm (hobc m)
    · rcases hkept.mount with hmode | ⟨m, hm⟩
      · exact hmode
      · exact absurd hm (hmount m)

/-- The combo boxes of the window, and the flags by which two callbacks know a change that the
program forces. -/
structure Window where
  tab : DisplayTab
  obcControlCombo : ObcMode
  mountControlCombo : MountMode
  frameRateCombo : ℕ
  obcControlComboForced : Bool
  mountControlComboForced : Bool

namespace Window

variable (cfg : Settings) (w : Window)

/-! ### Callbacks. `set...Combo` is `set_active_text`, which calls back if the entry changes. -/

def onOBCControlCombo : Window :=
  if w.obcControlComboForced then { w with obcControlComboForced := false }
  else { w with tab := w.tab.onOBCControlCombo cfg w.obcControlCombo }

def setOBCControlCombo (selection : ObcMode) : Window :=
  if selection = w.obcControlCombo then w
  else { w with obcControlCombo := selection }.onOBCControlCombo cfg

def onMountControlCombo : Window :=
  if w.mountControlComboForced then { w with mountControlComboForced := false }
  else { w with tab := w.tab.onMountControlCombo w.mountControlCombo }

def setMountControlCombo (selection : MountMode) : Window :=
  if selection = w.mountControlCombo then w
  else { w with mountControlCombo := selection }.onMountControlCombo

def onFrameRateChange (out : Option Bool) : Window :=
  let s := { w.tab with blockFrameRate := w.frameRateCombo }
  let s := s.updateResourcesDisplay out
  { w with tab := { s with fbFrameRate := w.frameRateCombo } }

def setFrameRateCombo (selection : ℕ) (out : Option Bool) : Window :=
  if selection = w.frameRateCombo then w
  else { w with frameRateCombo := selection }.onFrameRateChange out

def forceDefaultFrameRate (out : Option Bool) : Window :=
  w.setFrameRateCombo (numFrameRates - 1) out

/-! ### The record button -/

def checkOBC (yes : Bool) : Option Window :=
  if cfg.obcInterface = false ∨ w.tab.mostRecentOBCMode = .auto then some w
  else if cfg.headless then
    some { w with tab := { w.tab with mostRecentOBCMode := .auto } }
  else if cfg.operationalMode then
    let w := { w with obcControlComboForced := true }
    let w := w.setOBCControlCombo cfg .auto
    some { w with tab := { w.tab with mostRecentOBCMode := .auto } }
  else if yes then some w else none

def checkMount (yes : Bool) : Option Window :=
  if cfg.mountUsed = false ∨ w.tab.mostRecentMountMode = .auto then some w
  else if cfg.headless then
    some { w with tab := { w.tab with mostRecentMountMode := .auto } }
  else if cfg.operationalMode then
    let w := { w with mountControlComboForced := true }
    let w := w.setMountControlCombo .auto
    some { w with tab := { w.tab with mostRecentMountMode := .auto } }
  else if yes then some w else none

def checkFrameRate (yes : Bool) (out : Option Bool) : Option Window :=
  if w.tab.blockFrameRate = numFrameRates - 1 then some w
  else if cfg.headless then
    let s := { w.tab with blockFrameRate := 0 }
    let s := s.updateResourcesDisplay out
    some { w with tab := { s with fbFrameRate := 0 } }
  else if cfg.operationalMode then some (w.forceDefaultFrameRate out)
  else if yes then some w else none

def prepareRecording (a : RecordReplies) : Option Window :=
  (w.checkOBC cfg a.recordWithOBC).bind fun w =>
    (w.checkMount cfg a.recordWithMount).bind fun w =>
      w.checkFrameRate cfg a.recordAtRate a.outOfSpace

def recordButtonWork (r : OpenResult) (a : RecordReplies) : Window :=
  match w.prepareRecording cfg a with
  | none => w
  | some w =>
    let s := w.tab.openFiles r
    { w with tab := if r = .ok then s.startRecording cfg else s }

/-! ### What the entries show -/

/-- The entries are those in force, and no forced change is under way. -/
structure InSync (w : Window) : Prop where
  obc : w.obcControlCombo = w.tab.mostRecentOBCMode
  mount : w.mountControlCombo = w.tab.mostRecentMountMode
  rate : w.frameRateCombo = w.tab.blockFrameRate
  obcForced : w.obcControlComboForced = false
  mountForced : w.mountControlComboForced = false

/-- Without a window there is nothing to show. -/
def Consistent (cfg : Settings) (w : Window) : Prop := cfg.headless = true ∨ w.InSync

/-- The window shows, and the recorder has come to, the same state. -/
def Shows (cfg : Settings) (w : Window) (s : DisplayTab) : Prop := w.tab = s ∧ w.Consistent cfg

variable {cfg w}

theorem InSync.withTab (h : w.InSync) (hsame : SameModes w.tab t) :
    { w with tab := t }.InSync :=
  ⟨h.obc.trans hsame.obc.symm, h.mount.trans hsame.mount.symm, h.rate.trans hsame.rate.symm,
    h.obcForced, h.mountForced⟩

theorem setOBCControlCombo_shows (h : w.InSync) (selection : ObcMode)
    (hnew : selection ≠ w.tab.mostRecentOBCMode) :
    Shows cfg (w.setOBCControlCombo cfg selection) (w.tab.onOBCControlCombo cfg selection) := by
  have hchange : selection ≠ w.obcControlCombo := h.obc ▸ hnew
  have hforced : ¬w.obcControlComboForced = true := by simp [h.obcForced]
  rw [setOBCControlCombo, if_neg hchange, onOBCControlCombo, if_neg hforced]
  refine ⟨rfl, Or.inr ⟨rfl, ?_, ?_, h.obcForced, h.mountForced⟩⟩
  · cases selection <;> exact h.mount
  · cases selection <;> exact h.rate

theorem setMountControlCombo_shows (h : w.InSync) (selection : MountMode)
    (hnew : selection ≠ w.tab.mostRecentMountMode) :
    Shows cfg (w.setMountControlCombo selection) (w.tab.onMountControlCombo selection) := by
  have hchange : selection ≠ w.mountControlCombo := h.mount ▸ hnew
  have hforced : ¬w.mountControlComboForced = true := by simp [h.mountForced]
  rw [setMountControlCombo, if_neg hchange, onMountControlCombo, if_neg hforced]
  refine ⟨rfl, Or.inr ⟨?_, rfl, ?_, h.obcForced, h.mountForced⟩⟩
  · cases selection <;> exact h.obc
  · cases selection <;> exact h.rate

/-- A frame rate that is selected reaches the settings. -/
theorem setFrameRateCombo_inSync (h : w.InSync) (selection : ℕ) (out : Option Bool) :
    (w.setFrameRateCombo selection out).tab.blockFrameRate = selection ∧
      (w.setFrameRateCombo selection out).InSync := by
  unfold setFrameRateCombo
  split_ifs with hsame
  · exact ⟨h.rate.symm.trans hsame.symm, h⟩
  · exact ⟨rfl, h.obc, h.mount, rfl, h.obcForced, h.mountForced⟩

/-- A forced change to automatic does nothing but change the entry. -/
theorem setOBCControlCombo_forced (h : w.obcControlCombo ≠ .auto) :
    { w with obcControlComboForced := true }.setOBCControlCombo cfg .auto =
      { w with obcControlCombo := .auto, obcControlComboForced := false } := by
  rw [setOBCControlCombo, if_neg h.symm, onOBCControlCombo, if_pos rfl]

theorem setMountControlCombo_forced (h : w.mountControlCombo ≠ .auto) :
    { w with mountControlComboForced := true }.setMountControlCombo .auto =
      { w with mountControlCombo := .auto, mountControlComboForced := false } := by
  rw [setMountControlCombo, if_neg h.symm, onMountControlCombo, if_pos rfl]

/-! ### The window does what the recorder does -/

/-- A check that is passed, or else mended by an assignment or a selection, or left to the
user. -/
theorem check_shows {passed : Prop} [Decidable passed] (h : w.Consistent cfg) (yes : Bool)
    {assigned selected : Window} {s s' : DisplayTab} (hassigned : assigned.tab = s)
    (hselected : ¬passed → w.InSync → selected.tab = s' ∧ selected.InSync) :
    Option.Rel (Shows cfg)
      (if passed then some w else if cfg.headless then some assigned
        else if cfg.operationalMode then some selected else if yes then some w else none)
      (if passed then some w.tab else if cfg.headless then some s
        else if cfg.operationalMode then some s' else if yes then some w.tab else none) := by
  split_ifs with hpassed hheadless hmode hyes
  · exact .some ⟨rfl, h⟩
  · exact .some ⟨hassigned, Or.inl hheadless⟩
  · obtain ⟨htab, hsync⟩ := hselected hpassed (h.resolve_left hheadless)
    exact .some ⟨htab, Or.inr hsync⟩
  · exact .some ⟨rfl, h⟩
  · exact .none

theorem checkOBC_shows (h : w.Consistent cfg) (yes : Bool) :
    Option.Rel (Shows cfg) (w.checkOBC cfg yes) (w.tab.checkOBC cfg yes) := by
  unfold checkOBC DisplayTab.checkOBC
  rw [ite_or (cfg.headless = true)]
  apply check_shows h yes rfl
  intro hmode hsync
  have hentry : w.obcControlCombo ≠ .auto := by
    rw [hsync.obc]
    exact fun heq => hmode (Or.inr heq)
  rw [setOBCControlCombo_forced hentry]
  exact ⟨rfl, rfl, hsync.mount, hsync.rate, rfl, hsync.mountForced⟩

theorem checkMount_shows (h : w.Consistent cfg) (yes : Bool) :
    Option.Rel (Shows cfg) (w.checkMount cfg yes) (w.tab.checkMount cfg yes) := by
  unfold checkMount DisplayTab.checkMount
  rw [ite_or (cfg.headless = true)]
  apply check_shows h yes rfl
  intro hmode hsync
  have hentry : w.mountControlCombo ≠ .auto := by
    rw [hsync.mount]
    exact fun heq => hmode (Or.inr heq)
  rw [setMountControlCombo_forced hentry]
  exact ⟨rfl, hsync.obc, rfl, hsync.rate, hsync.obcForced, rfl⟩

theorem checkFrameRate_shows (h : w.Consistent cfg) (yes : Bool) (out : Option Bool) :
    Option.Rel (Shows cfg) (w.checkFrameRate cfg yes out) (w.tab.checkFrameRate cfg yes out) := by
  unfold checkFrameRate DisplayTab.checkFrameRate
  apply check_shows h yes rfl
  intro hrate hsync
  have hentry : numFrameRates - 1 ≠ w.frameRateCombo := by
    rw [hsync.rate]
    exact Ne.symm hrate
  rw [forceDefaultFrameRate, setFrameRateCombo, if_neg hentry]
  exact ⟨rfl, hsync.obc, hsync.mount, rfl, hsync.obcForced, hsync.mountForced⟩

/-- Checks in sequence, on both sides. -/
theorem shows_bind {p : Option Window} {q : Option DisplayTab} {f : Window → Option Window}
    {g : DisplayTab → Option DisplayTab} (h : Option.Rel (Shows cfg) p q)
    (hnext : ∀ w : Window, w.Consistent cfg → Option.Rel (Shows cfg) (f w) (g w.tab)) :
    Option.Rel (Shows cfg) (p.bind f) (q.bind g) := by
  cases h with
  | none => exact .none
  | some hshows =>
    obtain ⟨rfl, hconsistent⟩ := hshows
    exact hnext _ hconsistent

theorem prepareRecording_shows (h : w.Consistent cfg) (a : RecordReplies) :
    Option.Rel (Shows cfg) (w.prepareRecording cfg a) (w.tab.prepareRecording cfg a) :=
  shows_bind (checkOBC_shows h _) fun _ h => shows_bind (checkMount_shows h _) fun _ h =>
    checkFrameRate_shows h _ _

/-- The record button does in the window what it does to the recorder. -/
theorem recordButtonWork_shows (h : w.Consistent cfg) (r : OpenResult) (a : RecordReplies) :
    Shows cfg (w.recordButtonWork cfg r a) (w.tab.recordButtonWork cfg r a) := by
  have hprepare := prepareRecording_shows h a
  unfold recordButtonWork DisplayTab.recordButtonWork
  generalize w.prepareRecording cfg a = p at hprepare
  generalize w.tab.prepareRecording cfg a = q at hprepare
  cases hprepare with
  | none => exact ⟨rfl, h⟩
  | @some v s hshows =>
    obtain ⟨rfl, hconsistent⟩ := hshows
    have hopen := sameModes_openFiles v.tab r
    refine ⟨by split_ifs <;> rfl, hconsistent.imp_right fun hsync => ?_⟩
    simp only
    split_ifs
    · exact hsync.withTab (hopen.trans (sameModes_startRecording _))
    · exact hsync.withTab hopen

/-- A step of the recorder as it is taken in the window, which runs the callbacks of its own
entries and its own record button. -/
def step (cfg : Settings) (w : Window) (e : RecorderEvent) : Option Window :=
  (Recorder.step cfg w.tab e).map fun t =>
    match recordPress w.tab e with
    | some (u, r, a) => { w with tab := u }.recordButtonWork cfg r a
    | none =>
      match e with
      | .onOBCControlCombo selection => w.setOBCControlCombo cfg selection
      | .onMountControlCombo selection => w.setMountControlCombo selection
      | _ => { w with tab := t }

/-- The recorder is what the window shows, whatever happens. -/
theorem step_shows (h : w.Consistent cfg) (e : RecorderEvent) :
    Option.Rel (Shows cfg) (w.step cfg e) (Recorder.step cfg w.tab e) := by
  unfold step
  rcases hstep : Recorder.step cfg w.tab e with _ | t
  · exact .none
  refine .some ?_
  rcases hpress : recordPress w.tab e with _ | ⟨u, r, a⟩
  · have hother (hobc : ∀ m, e ≠ .onOBCControlCombo m) (hmount : ∀ m, e ≠ .onMountControlCombo m) :
        Shows cfg { w with tab := t } t :=
      ⟨rfl, h.imp_right fun hsync => hsync.withTab (step_sameModes hstep hpress hobc hmount)⟩
    cases e with
    | onOBCControlCombo selection =>
      simp only [Recorder.step, userActs, Option.ite_none_right_eq_some, Option.some.injEq,
        Bool.and_eq_true, Bool.not_eq_true', decide_eq_true_eq] at hstep
      obtain ⟨⟨⟨⟨hwindow, -⟩, -⟩, hnew⟩, rfl⟩ := hstep
      exact setOBCControlCombo_shows (h.resolve_left (by simp [hwindow])) selection hnew
    | onMountControlCombo selection =>
      simp only [Recorder.step, userActs, Option.ite_none_right_eq_some, Option.some.injEq,
        Bool.and_eq_true, Bool.not_eq_true', decide_eq_true_eq] at hstep
      obtain ⟨⟨⟨⟨hwindow, -⟩, -⟩, hnew⟩, rfl⟩ := hstep
      exact setMountControlCombo_shows (h.resolve_left (by simp [hwindow])) selection hnew
    | _ => exact hother (by simp) (by simp)
  · have ht : t = u.recordButtonWork cfg r a := by
      cases step_effect hstep with
      | records u' r' a' press after =>
        obtain ⟨rfl, rfl, rfl⟩ : u = u' ∧ r = r' ∧ a = a' := by
          simpa using hpress.symm.trans press
        exact after
      | frame image w event => simp [event, recordPress] at hpress
      | poll event => simp [event, recordPress] at hpress
      | side press => simp [press] at hpress
    have hu : { w with tab := u }.Consistent cfg := by
      obtain ⟨cs, rfl⟩ := recordPress_eq hpress
      exact h.imp_right fun hsync => hsync.withTab ⟨rfl, rfl, rfl⟩
    rw [ht]
    exact recordButtonWork_shows hu r a

/-- The window in front of a recorder that starts. -/
def initial (cfg : Settings) (u : StartUp) : Window :=
  ⟨Recorder.initial cfg u, .auto, .auto, u.blockFrameRate, false, false⟩

theorem consistent_initial (cfg : Settings) (u : StartUp) : (initial cfg u).Consistent cfg :=
  Or.inr ⟨rfl, rfl, rfl, rfl, rfl⟩

/-- The user can also select a frame rate. -/
inductive Event where
  | recorder (e : RecorderEvent)
  | frameRateCombo (selection : ℕ) (out : Option Bool)

def stepOrSelect (cfg : Settings) (w : Window) : Event → Option Window
  | .recorder e => w.step cfg e
  | .frameRateCombo selection out =>
    if cfg.headless = false then some (w.setFrameRateCombo selection out) else none

/-- The entries show what is in force at the end of every run. -/
theorem consistent_run {u : StartUp} {es : List Event}
    (h : run (stepOrSelect cfg) (initial cfg u) es = some w) : w.Consistent cfg := by
  refine run_invariant ?_ (consistent_initial cfg u) h
  intro v e v' hv hstep
  cases e with
  | recorder e =>
    have hshows := step_shows hv e
    rw [show v.step cfg e = some v' from hstep] at hshows
    generalize Recorder.step cfg v.tab e = next at hshows
    cases hshows with
    | some hshown => exact hshown.2
  | frameRateCombo selection out =>
    simp only [stepOrSelect, Option.ite_none_right_eq_some, Option.some.injEq] at hstep
    obtain ⟨hwindow, rfl⟩ := hstep
    have hsync := hv.resolve_left (by simp [hwindow])
    exact Or.inr (setFrameRateCombo_inSync hsync selection out).2

end Window

/-! ### The start -/

/-- OBC and mount follow the recording, and the frame rate is the highest. -/
structure Operational (cfg : Settings) (t : DisplayTab) : Prop where
  obc : cfg.obcInterface = false ∨ t.mostRecentOBCMode = .auto
  mount : cfg.mountUsed = false ∨ t.mostRecentMountMode = .auto
  blockRate : t.blockFrameRate = numFrameRates - 1
  fbRate : t.fbFrameRate = numFrameRates - 1

instance (cfg : Settings) (t : DisplayTab) : Decidable (Operational cfg t) :=
  decidable_of_iff ((cfg.obcInterface = false ∨ t.mostRecentOBCMode = .auto) ∧
      (cfg.mountUsed = false ∨ t.mostRecentMountMode = .auto) ∧
      t.blockFrameRate = numFrameRates - 1 ∧ t.fbFrameRate = numFrameRates - 1)
    ⟨fun ⟨ho, hm, hb, hf⟩ => ⟨ho, hm, hb, hf⟩, fun ⟨ho, hm, hb, hf⟩ => ⟨ho, hm, hb, hf⟩⟩

/-- The frame rate is the highest already, or there is a window that shows a lower one, in
which it is reset. -/
def RateRestored (cfg : Settings) (w : Window) : Prop :=
  if w.tab.blockFrameRate = numFrameRates - 1 then w.tab.fbFrameRate = numFrameRates - 1
  else cfg.headless = false ∧ w.frameRateCombo ≠ numFrameRates - 1

instance (cfg : Settings) (w : Window) : Decidable (RateRestored cfg w) :=
  inferInstanceAs (Decidable (if w.tab.blockFrameRate = numFrameRates - 1 then
    w.tab.fbFrameRate = numFrameRates - 1
  else cfg.headless = false ∧ w.frameRateCombo ≠ numFrameRates - 1))

/-- A window in sync always shows a rate that has to be reset. -/
theorem rateRestored_iff (w : Window) (h : w.Consistent cfg) : RateRestored cfg w ↔
    if w.tab.blockFrameRate = numFrameRates - 1 then w.tab.fbFrameRate = numFrameRates - 1
    else cfg.headless = false := by
  unfold RateRestored
  split_ifs with hmax
  · rfl
  · refine and_iff_left_of_imp fun hwindow => ?_
    rw [(h.resolve_left (by simp [hwindow])).rate]
    exact hmax

namespace Window

variable {w : Window}

theorem checkOBC_forced (hop : cfg.headless = true ∨ cfg.operationalMode = true) (yes : Bool) :
    ∃ v : Window, w.checkOBC cfg yes = some v ∧
      (cfg.obcInterface = false ∨ v.tab.mostRecentOBCMode = .auto) ∧
      v.tab.blockFrameRate = w.tab.blockFrameRate ∧ v.tab.fbFrameRate = w.tab.fbFrameRate ∧
      v.frameRateCombo = w.frameRateCombo := by
  unfold checkOBC
  split_ifs with hauto hheadless hmode
  · exact ⟨w, rfl, hauto, rfl, rfl, rfl⟩
  · exact ⟨_, rfl, Or.inr rfl, rfl, rfl, rfl⟩
  · refine ⟨_, rfl, Or.inr rfl, ?_⟩
    unfold setOBCControlCombo onOBCControlCombo
    split_ifs <;> exact ⟨rfl, rfl, rfl⟩
  · rcases hop with hop | hop <;> contradiction
  · rcases hop with hop | hop <;> contradiction

theorem checkMount_forced (hop : cfg.headless = true ∨ cfg.operationalMode = true) (yes : Bool) :
    ∃ v : Window, w.checkMount cfg yes = some v ∧
      (cfg.mountUsed = false ∨ v.tab.mostRecentMountMode = .auto) ∧
      v.tab.mostRecentOBCMode = w.tab.mostRecentOBCMode ∧
      v.tab.blockFrameRate = w.tab.blockFrameRate ∧ v.tab.fbFrameRate = w.tab.fbFrameRate ∧
      v.frameRateCombo = w.frameRateCombo := by
  unfold checkMount
  split_ifs with hauto hheadless hmode
  · exact ⟨w, rfl, hauto, rfl, rfl, rfl, rfl⟩
  · exact ⟨_, rfl, Or.inr rfl, rfl, rfl, rfl, rfl⟩
  · refine ⟨_, rfl, Or.inr rfl, ?_⟩
    unfold setMountControlCombo onMountControlCombo
    split_ifs <;> exact ⟨rfl, rfl, rfl, rfl⟩
  · rcases hop with hop | hop <;> contradiction
  · rcases hop with hop | hop <;> contradiction

/-- The last check finds or makes both rates the highest, except where it makes them zero or
finds the entry unchanged. -/
theorem checkFrameRate_forced (hop : cfg.headless = true ∨ cfg.operationalMode = true)
    (yes : Bool) (out : Option Bool) : ∃ v : Window, w.checkFrameRate cfg yes out = some v ∧
      v.tab.mostRecentOBCMode = w.tab.mostRecentOBCMode ∧
      v.tab.mostRecentMountMode = w.tab.mostRecentMountMode ∧
      ((v.tab.blockFrameRate = numFrameRates - 1 ∧ v.tab.fbFrameRate = numFrameRates - 1) ↔
        RateRestored cfg w) := by
  unfold checkFrameRate RateRestored
  by_cases hmax : w.tab.blockFrameRate = numFrameRates - 1
  · rw [if_pos hmax, if_pos hmax]
    exact ⟨w, rfl, rfl, rfl, and_iff_right hmax⟩
  rw [if_neg hmax, if_neg hmax]
  by_cases hheadless : cfg.headless = true
  · rw [if_pos hheadless]
    refine ⟨_, rfl, rfl, rfl, ?_⟩
    simp [hheadless, updateResourcesDisplay, numFrameRates]
  have hmode := hop.resolve_left hheadless
  rw [if_neg hheadless, if_pos hmode, forceDefaultFrameRate, setFrameRateCombo]
  by_cases hshown : numFrameRates - 1 = w.frameRateCombo
  · rw [if_pos hshown]
    refine ⟨w, rfl, rfl, rfl, iff_of_false ?_ ?_⟩
    · exact fun h => hmax h.1
    · exact fun h => h.2 hshown.symm
  · rw [if_neg hshown]
    refine ⟨_, rfl, rfl, rfl, iff_of_true ⟨rfl, rfl⟩ ?_⟩
    exact ⟨by simpa using hheadless, Ne.symm hshown⟩

end Window

/-- Starting a recording keeps the configuration. -/
theorem operational_startRecording_iff :
    Operational cfg ((s.openFiles .ok).startRecording cfg) ↔ Operational cfg s := by
  have hsame := (sameModes_openFiles s .ok).trans (@sameModes_startRecording cfg _)
  have hfb : ((s.openFiles .ok).startRecording cfg).fbFrameRate = s.fbFrameRate := by
    unfold startRecording
    simp only
    split_ifs <;> rfl
  constructor
  · rintro ⟨ho, hm, hb, hf⟩
    exact ⟨hsame.obc ▸ ho, hsame.mount ▸ hm, hsame.rate ▸ hb, hfb ▸ hf⟩
  · rintro ⟨ho, hm, hb, hf⟩
    exact ⟨hsame.obc.symm ▸ ho, hsame.mount.symm ▸ hm, hsame.rate.symm ▸ hb, hfb.symm ▸ hf⟩

/-- From any state, headless or in operational mode: a recording starts in the operational
configuration exactly if the frame rate is restored. -/
theorem starts_operational_iff (cfg : Settings)
    (hop : cfg.headless = true ∨ cfg.operationalMode = true) (w : Window) (a : RecordReplies) :
    Operational cfg (w.recordButtonWork cfg .ok a).tab ↔ RateRestored cfg w := by
  obtain ⟨v, hv, hobc, hblock, hfb, hentry⟩ := @Window.checkOBC_forced cfg w hop a.recordWithOBC
  obtain ⟨x, hx, hmount, hobc', hblock', hfb', hentry'⟩ :=
    @Window.checkMount_forced cfg v hop a.recordWithMount
  obtain ⟨y, hy, hobc'', hmount', hrate⟩ :=
    @Window.checkFrameRate_forced cfg x hop a.recordAtRate a.outOfSpace
  have hprepare : w.prepareRecording cfg a = some y := by
    rw [Window.prepareRecording, hv, Option.bind_some, hx, Option.bind_some, hy]
  have hrestored : RateRestored cfg x ↔ RateRestored cfg w := by
    unfold RateRestored
    rw [hblock', hblock, hfb', hfb, hentry', hentry]
  rw [Window.recordButtonWork, hprepare]
  simp only [if_true]
  rw [operational_startRecording_iff, ← hrestored, ← hrate]
  constructor
  · exact fun h => ⟨h.blockRate, h.fbRate⟩
  · rintro ⟨hb, hf⟩
    refine ⟨?_, ?_, hb, hf⟩
    · rw [hobc'', hobc']
      exact hobc
    · rw [hmount']
      exact hmount

/-- An OBC left at medium and a lower rate, in operational mode. -/
theorem starts_operational_iff_window :
    Operational dark2Only (Window.recordButtonWork dark2Only
      ⟨{ initial dark2Only plainStart with
          mostRecentOBCMode := .mid, blockFrameRate := 2, fbFrameRate := 2 },
        .mid, .auto, 2, false, false⟩ .ok yesToAll).tab :=
  (starts_operational_iff dark2Only (Or.inr rfl) _ _).mpr (by decide)

/-- Started with a lower rate, the program without a window records at the lowest one. -/
theorem headless_records_at_lowest_rate : ∃ w : Window,
    run (Window.stepOrSelect { dark2Only with headless := true })
      (.initial { dark2Only with headless := true }
        { plainStart with blockFrameRate := 2, fbFrameRate := 2 })
      [.recorder (.headlessRecord .ok yesToAll)] = some w ∧
      w.tab.recordState = .science ∧ w.tab.blockFrameRate = 0 ∧ w.tab.fbFrameRate = 0 ∧
      ¬Operational { dark2Only with headless := true } w.tab :=
  ⟨_, rfl, by decide, by decide, by decide, by decide⟩

end Recorder
