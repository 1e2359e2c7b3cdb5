import Ngdcs.Recorder.OpenFiles

/-! The OBC in automatic mode. It should always be commanded to the state that belongs to the
state of the recording. -/
namespace Recorder
open Runs DisplayTab

variable {cfg : Settings} {s t u : DisplayTab}

/-- In automatic mode the OBC is in the state of the recording. -/
def ObcFollows (t : DisplayTab) : Prop :=
  t.mostRecentOBCMode = .auto → t.lastOBCState = obcStateFor t.recordState

instance : Decidable (ObcFollows t) := inferInstanceAs (Decidable (_ → _))

/-- `recordButtonWork` forces automatic mode only where it then opens its files, or where the
OBC happens to be in the right state. -/
def ForcedStartsSucceed (cfg : Settings) (s : DisplayTab) (e : RecorderEvent) : Prop :=
  ∀ u r a, recordPress s e = some (u, r, a) →
    s.mostRecentOBCMode = .auto ∨ (cfg.headless = false ∧ cfg.operationalMode = false) ∨
      r = .ok ∨ obcControlCode s.mostRecentOBCMode = obcStateFor s.recordState

/-- The invariant behind the property: otherwise it is in the state that was selected. -/
def ObcCommanded (s : DisplayTab) : Prop :=
  s.lastOBCState = if s.mostRecentOBCMode = .auto then obcStateFor s.recordState
    else obcControlCode s.mostRecentOBCMode

theorem ObcCommanded.follows (h : ObcCommanded s) : ObcFollows s :=
  fun hauto => h.trans (if_pos hauto)

theorem ObcCommanded.of_same (h : ObcCommanded s) (hstate : t.recordState = s.recordState)
    (hmode : t.mostRecentOBCMode = s.mostRecentOBCMode)
    (hlast : t.lastOBCState = s.lastOBCState) : ObcCommanded t := by
  unfold ObcCommanded
  rw [hstate, hmode, hlast]
  exact h

theorem enterPhase_lastOBCState {st : RecordState} (hobc : cfg.obcInterface = true)
    (hst : st ≠ .dark1Cal ∨ s.mostRecentOBCMode = .auto) :
    (s.enterPhase cfg st).lastOBCState =
      if s.mostRecentOBCMode = .auto then obcStateFor st else s.lastOBCState := by
  by_cases hdark : st = .dark1Cal
  · subst hdark
    rw [if_pos (hst.resolve_left (by simp))]
    rfl
  · have hfollows : s.obcFollows cfg = decide (s.mostRecentOBCMode = .auto) := by
      simp [obcFollows, hobc]
    have henter : (s.enterPhase cfg st).lastOBCState =
        if s.obcFollows cfg then obcStateFor st else s.lastOBCState := by
      cases st <;> first | rfl | contradiction
    simp only [henter, hfollows, decide_eq_true_eq]

/-- A state entered by the recording takes the OBC along if it follows. -/
theorem obcCommanded_enterPhase {st : RecordState} (hobc : cfg.obcInterface = true)
    (hmanual : s.mostRecentOBCMode ≠ .auto →
      s.lastOBCState = obcControlCode s.mostRecentOBCMode)
    (hst : st ≠ .dark1Cal ∨ s.mostRecentOBCMode = .auto) :
    ObcCommanded (s.enterPhase cfg st) := by
  unfold ObcCommanded
  rw [enterPhase_lastOBCState hobc hst, enterPhase_mostRecentOBCMode, enterPhase_recordState]
  split_ifs with hauto
  · rfl
  · exact hmanual hauto

theorem ObcCommanded.manual (h : ObcCommanded s) (hmode : s.mostRecentOBCMode ≠ .auto) :
    s.lastOBCState = obcControlCode s.mostRecentOBCMode :=
  h.trans (if_neg hmode)

/-- In front of a recording the mode is kept in test mode and forced otherwise. -/
theorem prepareRecording_obc {a : RecordReplies} (hobc : cfg.obcInterface = true)
    (h : s.prepareRecording cfg a = some u) :
    u.recordState = s.recordState ∧ u.lastOBCState = s.lastOBCState ∧
      u.mostRecentOBCMode = if s.mostRecentOBCMode = .auto ∨ cfg.headless ∨ cfg.operationalMode
        then .auto else s.mostRecentOBCMode := by
  unfold prepareRecording at h
  obtain ⟨v, hv, h⟩ := Option.bind_eq_some_iff.mp h
  obtain ⟨w, hw, h⟩ := Option.bind_eq_some_iff.mp h
  have hmode : v.recordState = s.recordState ∧ v.lastOBCState = s.lastOBCState ∧
      v.mostRecentOBCMode = if s.mostRecentOBCMode = .auto ∨ cfg.headless ∨ cfg.operationalMode
        then .auto else s.mostRecentOBCMode := by
    unfold checkOBC at hv
    split_ifs at hv with hauto hforced <;> obtain rfl := Option.some.inj hv
    · have hauto' : s.mostRecentOBCMode = .auto := by simpa [hobc] using hauto
      simp [hauto']
    · simp only [hobc, Bool.true_eq_false, false_or] at hauto
      simp [hauto, hforced]
    · simp only [hobc, Bool.true_eq_false, false_or] at hauto
      simp [hauto, hforced]
  have hmount : w.recordState = v.recordState ∧ w.lastOBCState = v.lastOBCState ∧
      w.mostRecentOBCMode = v.mostRecentOBCMode := by
    unfold checkMount at hw
    split_ifs at hw <;> obtain rfl := Option.some.inj hw <;> exact ⟨rfl, rfl, rfl⟩
  have hrate : u.recordState = w.recordState ∧ u.lastOBCState = w.lastOBCState ∧
      u.mostRecentOBCMode = w.mostRecentOBCMode := by
    unfold checkFrameRate at h
    split_ifs at h <;> obtain rfl := Option.some.inj h <;> exact ⟨rfl, rfl, rfl⟩
  rw [hrate.1, hrate.2.1, hrate.2.2, hmount.1, hmount.2.1, hmount.2.2]
  exact hmode

/-- What `recordButtonWork` does to the property, and to the invariant. -/
theorem recordButtonWork_obc (hobc : cfg.obcInterface = true) (hs : ObcCommanded s)
    (r : OpenResult) (a : RecordReplies) :
    (ObcFollows (s.recordButtonWork cfg r a) ↔
      s.mostRecentOBCMode = .auto ∨ (cfg.headless = false ∧ cfg.operationalMode = false) ∨
        r = .ok ∨ obcControlCode s.mostRecentOBCMode = obcStateFor s.recordState) ∧
      (ObcFollows (s.recordButtonWork cfg r a) → ObcCommanded (s.recordButtonWork cfg r a)) := by
  unfold recordButtonWork
  rcases hp : s.prepareRecording cfg a with _ | u
  · obtain ⟨hheadless, htest, -⟩ := prepareRecording_eq_none_iff.mp hp
    exact ⟨iff_of_true hs.follows (Or.inr (Or.inl ⟨hheadless, htest⟩)), fun _ => hs⟩
  · obtain ⟨hstate, hlast, hmode⟩ := prepareRecording_obc hobc hp
    have hmanual : u.mostRecentOBCMode ≠ .auto →
        u.lastOBCState = obcControlCode u.mostRecentOBCMode := by
      intro hne
      rw [hmode] at hne ⊢
      split_ifs at hne ⊢ with hforced
      · exact absurd rfl hne
      · exact hlast.trans (hs.manual hne)
    simp only
    split_ifs with hr
    · have ht : ObcCommanded ((u.openFiles r).startRecording cfg) := by
        subst hr
        unfold startRecording
        simp only
        split_ifs with hscience
        · exact @obcCommanded_enterPhase cfg _ .science hobc hmanual (Or.inl (by simp))
        · simp only [not_or, not_not] at hscience
          exact @obcCommanded_enterPhase cfg _ .dark1Cal hobc hmanual (Or.inr hscience.2.1)
      exact ⟨iff_of_true ht.follows (Or.inr (Or.inr (Or.inl hr))), fun _ => ht⟩
    · have hopen : (u.openFiles r).recordState = s.recordState ∧
          (u.openFiles r).lastOBCState = s.lastOBCState ∧
          (u.openFiles r).mostRecentOBCMode = u.mostRecentOBCMode := by
        cases r <;> exact ⟨hstate, hlast, rfl⟩
      unfold ObcFollows ObcCommanded
      rw [hopen.1, hopen.2.1, hopen.2.2, hmode]
      by_cases hauto : s.mostRecentOBCMode = .auto
      · simpa [hauto] using hs.follows hauto
      · rw [hs.manual hauto]
        by_cases hforced : cfg.headless = true ∨ cfg.operationalMode = true
        · have htest : ¬(cfg.headless = false ∧ cfg.operationalMode = false) := by
            rintro ⟨hh, ho⟩
            simp [hh, ho] at hforced
          simp [hauto, hforced, htest, hr]
        · have htest : cfg.headless = false ∧ cfg.operationalMode = false := by
            simpa using hforced
          simp [hauto, htest]

/-- What one step does to the property, from a state in which the invariant holds. -/
theorem step_obc {e : RecorderEvent} (hobc : cfg.obcInterface = true) (hs : ObcCommanded s)
    (h : step cfg s e = some t) : (ObcFollows t ↔ ForcedStartsSucceed cfg s e) ∧
      (ForcedStartsSucceed cfg s e → ObcCommanded t) := by
  have hkept (hpress : recordPress s e = none) (ht : ObcCommanded t) :
      (ObcFollows t ↔ ForcedStartsSucceed cfg s e) ∧
        (ForcedStartsSucceed cfg s e → ObcCommanded t) :=
    ⟨iff_of_true ht.follows (by simp [ForcedStartsSucceed, hpress]), fun _ => ht⟩
  cases step_effect h with
  | records u r a press after =>
    obtain ⟨cs, rfl⟩ := recordPress_eq press
    have hu : ObcCommanded { s with callbacks := cs } := hs.of_same rfl rfl rfl
    obtain ⟨hiff, hcommanded⟩ := recordButtonWork_obc hobc hu r a
    have hguard : ForcedStartsSucceed cfg s e ↔ s.mostRecentOBCMode = .auto ∨
        (cfg.headless = false ∧ cfg.operationalMode = false) ∨ r = .ok ∨
          obcControlCode s.mostRecentOBCMode = obcStateFor s.recordState := by
      simp [ForcedStartsSucceed, press]
    rw [hguard, after]
    exact ⟨hiff, fun hq => hcommanded (hiff.mpr hq)⟩
  | frame image w event effect idle =>
    subst event
    obtain ⟨u, hnoted, hu⟩ := imageFrame_noted cfg s h
    have hcommanded : ObcCommanded u :=
      hs.of_same hnoted.recordState hnoted.mostRecentOBCMode hnoted.lastOBCState
    apply hkept rfl
    rcases hu with rfl | ⟨st, out, hst, rfl⟩
    · exact hcommanded
    · exact (obcCommanded_enterPhase hobc hcommanded.manual (Or.inl hst)).of_same rfl rfl rfl
  | poll event after =>
    subst event
    apply hkept rfl
    by_cases hstop : s.stopRequested = true
    · have hending : (if s.stopIsAbort then .notRecording else s.stopPhase cfg) ≠ .dark1Cal := by
        split_ifs
        · simp
        · exact (isEnding_stopPhase cfg s).1
      rw [after, noImageData_eq cfg s hstop]
      exact obcCommanded_enterPhase hobc hs.manual (Or.inl hending)
    · rw [after, noImageData, if_neg hstop]
      exact hs
  | side press event frame effect =>
    have hsame := step_untouched h press frame event
    apply hkept press
    rcases hsame.obc with ⟨hmode, hlast⟩ | ⟨selection, -, hmode, hlast⟩
    · exact hs.of_same hsame.recordState hmode hlast
    · unfold ObcCommanded
      rw [hlast, hmode, hsame.recordState]

/-- A step under the value that `m_mode` has at that time. -/
def stepInMode (cfg : Settings) (s : DisplayTab) (e : Bool × RecorderEvent) :
    Option DisplayTab :=
  step { cfg with operationalMode := e.1 } s e.2

/-- With an OBC that starts in science and automatic mode, it follows the recording in every
state as long as no recording forces automatic mode and then cannot open its files; the first
that does breaks it, unless the OBC is in the right state by chance. -/
theorem obc_follows_iff (cfg : Settings) (hobc : cfg.obcInterface = true) (s : DisplayTab)
    (hidle : s.recordState = .notRecording) (hmode : s.mostRecentOBCMode = .auto)
    (hlast : s.lastOBCState = .science) (es : List (Bool × RecorderEvent)) :
    EachStep (stepInMode cfg) (fun _ _ t => ObcFollows t) s es ↔
      EachStep (stepInMode cfg) (fun s e _ =>
        ForcedStartsSucceed { cfg with operationalMode := e.1 } s e.2) s es := by
  have hs : ObcCommanded s := by
    simp [ObcCommanded, hidle, hmode, hlast, obcStateFor]
  refine eachStep_iff_of_invariant ?_ ?_ hs
  · exact fun s e t hs h => (@step_obc { cfg with operationalMode := e.1 } s t e.2 hobc hs h).1
  · exact fun s e t hs hq h =>
      (@step_obc { cfg with operationalMode := e.1 } s t e.2 hobc hs h).2 hq

/-- A lamp is selected and a recording forces automatic mode, first in test mode and then in
operational mode. -/
theorem obc_follows_iff_forced : EachStep (stepInMode dark2Only)
    (fun s e _ => ForcedStartsSucceed { dark2Only with operationalMode := e.1 } s e.2)
    (initial dark2Only plainStart)
    [(false, .onOBCControlCombo .mid), (false, .onRecordButton .imageFails yesToAll),
      (true, .onRecordButton .ok yesToAll)] :=
  (obc_follows_iff dark2Only rfl (initial dark2Only plainStart) rfl rfl rfl _).mp
    (by decide +kernel)

/-- The lamp stays at medium while the program believes that it is in automatic mode and idle. -/
theorem failed_start_leaves_lamp_on : ∃ t, run (stepInMode dark2Only)
    (initial dark2Only plainStart)
    [(true, .onOBCControlCombo .mid), (true, .onRecordButton .imageFails yesToAll)] = some t ∧
      t.recordState = .notRecording ∧ t.lastOBCState = .medium ∧ ¬ObcFollows t :=
  ⟨_, rfl, by decide +kernel, by decide +kernel, by decide +kernel⟩

end Recorder
