import Mathlib.Algebra.Order.BigOperators.Group.List
import Ngdcs.Recorder.Calibration

/-! A recording that is stopped normally comes to its end: every frame brings it closer, by a
count of the frames that are left. -/
namespace Recorder
open Runs DisplayTab

variable {cfg : Settings} {s t : DisplayTab} {e : RecorderEvent} {st : RecordState} {r : ℕ}

/-- The frames that the phases take. -/
def framesOf (cfg : Settings) (r : ℕ) (ps : List RecordState) : ℤ :=
  (ps.map fun p => if switchedOn cfg p then phaseFrames cfg r p else 0).sum

/-- The frames up to the idle state, once a stop is requested. -/
def framesLeft (cfg : Settings) (s : DisplayTab) : ℤ :=
  (match s.recordState with
    | .notRecording => 0
    | .science => 1
    | _ => s.wait) +
  framesOf cfg s.fbFrameRate (remaining cfg s.recordState)

/-- A stop is requested or has been handled. -/
def Stopping (s : DisplayTab) : Prop :=
  s.history.entered ≠ [] ∧ s.recordState ≠ .dark1Cal ∧
    (s.recordState = .science → s.stopRequested = true)

theorem framesOf_nonneg (hcount : ∀ p, switchedOn cfg p = true → 1 ≤ phaseFrames cfg r p)
    (ps : List RecordState) : 0 ≤ framesOf cfg r ps := by
  apply List.sum_nonneg
  intro n hn
  obtain ⟨p, -, rfl⟩ := List.mem_map.mp hn
  split_ifs with hon
  · have := hcount p hon
    omega
  · exact le_rfl

theorem framesOf_cons (p : RecordState) (ps : List RecordState) : framesOf cfg r (p :: ps) =
    (if switchedOn cfg p then phaseFrames cfg r p else 0) + framesOf cfg r ps := by
  simp [framesOf]

theorem nextPhase_switchedOn (cfg : Settings) (st : RecordState) :
    nextPhase cfg st = .notRecording ∨ switchedOn cfg (nextPhase cfg st) = true := by
  rw [nextPhase_eq_find]
  rcases h : (laterPhases st).find? (switchedOn cfg) with _ | p
  · exact Or.inl rfl
  · exact Or.inr (List.find?_some h)

theorem succPhase_eq_nextPhase (h : st ≠ .dark1Cal) : succPhase cfg st = nextPhase cfg st := by
  unfold succPhase
  split
  · contradiction
  · rfl

theorem framesLeft_idle (h : s.recordState = .notRecording) : framesLeft cfg s = 0 := by
  simp [framesLeft, h, remaining, framesOf]

theorem framesLeft_cal (hidle : s.recordState ≠ .notRecording) (hsci : s.recordState ≠ .science) :
    framesLeft cfg s = s.wait + framesOf cfg s.fbFrameRate (remaining cfg s.recordState) := by
  unfold framesLeft
  split <;> first | contradiction | rfl

theorem framesLeft_science (h : s.recordState = .science) :
    framesLeft cfg s = 1 + framesOf cfg s.fbFrameRate (remaining cfg .science) := by
  simp [framesLeft, h]

/-- Entering the next phase leaves the frames of the phases that remained. -/
theorem framesLeft_enterPhase (hidle : st ≠ .notRecording) (hdark : st ≠ .dark1Cal) :
    framesLeft cfg (s.enterPhase cfg (succPhase cfg st)) =
      framesOf cfg s.fbFrameRate (remaining cfg st) := by
  rw [remaining_eq_cons hidle, framesOf_cons, succPhase_eq_nextPhase hdark]
  rcases nextPhase_switchedOn cfg st with hnext | hon
  · rw [hnext, framesLeft_idle (enterPhase_recordState cfg s _)]
    simp [switchedOn, calPeriod, remaining, framesOf]
  · have hcal : 0 < calPeriod cfg (nextPhase cfg st) := of_decide_eq_true hon
    have hne : nextPhase cfg st ≠ .notRecording := by
      intro h
      simp [h, calPeriod] at hcal
    rw [if_pos hon, framesLeft_cal (by simpa using hne)
      (by simpa using (isEnding_nextPhase cfg st).2), enterPhase_wait cfg s hcal,
      enterPhase_recordState, enterPhase_fbFrameRate]
    rfl

/-- What a normal step of a stopping recording does to the frames that are left. -/
structure Progress (cfg : Settings) (s : DisplayTab) (e : RecorderEvent) (t : DisplayTab) :
    Prop where
  stopping : Stopping t
  left : framesLeft cfg t + (if e.isFrame then 1 else 0) ≤ framesLeft cfg s ∨
    t.recordState = .notRecording
  idle : s.recordState = .notRecording → t.recordState = .notRecording
  fbFrameRate : t.fbFrameRate = s.fbFrameRate

theorem Stopping.enterPhase (hdark : st ≠ .dark1Cal) :
    Stopping (s.enterPhase cfg (succPhase cfg st)) := by
  rw [succPhase_eq_nextPhase hdark]
  have hending := isEnding_nextPhase cfg st
  exact ⟨by simp, by simpa using hending.1, fun h => absurd (by simpa using h) hending.2⟩

/-- Nothing changes but for what is remembered of the frames. -/
theorem Progress.of_same (hs : Stopping s) (h : SameCalibration s t)
    (hstop : s.stopRequested = true → t.stopRequested = true)
    (hframe : e.isFrame = true → s.recordState = .notRecording) : Progress cfg s e t := by
  refine ⟨⟨?_, ?_, fun hsci => hstop (hs.2.2 (h.recordState ▸ hsci))⟩, ?_,
    fun hidle => h.recordState.trans hidle, h.fbFrameRate⟩
  · rw [h.entered]
    exact hs.1
  · rw [h.recordState]
    exact hs.2.1
  · by_cases hf : e.isFrame = true
    · exact Or.inr (h.recordState.trans (hframe hf))
    · left
      simp [framesLeft, h.recordState, h.wait, h.fbFrameRate, hf]

theorem Progress.leave {v : DisplayTab} (hs : Stopping s) (hrec : s.recordState ≠ .notRecording)
    (hrate : v.fbFrameRate = s.fbFrameRate)
    (hleft : framesOf cfg s.fbFrameRate (remaining cfg s.recordState) +
      (if e.isFrame then 1 else 0) ≤ framesLeft cfg s) :
    Progress cfg s e (v.enterPhase cfg (succPhase cfg s.recordState)) := by
  refine ⟨.enterPhase hs.2.1, Or.inl ?_, fun hidle => absurd hidle hrec, by simpa using hrate⟩
  rw [framesLeft_enterPhase hrec hs.2.1, hrate]
  exact hleft

theorem Progress.advance {u : DisplayTab} (hs : Stopping s) (h : FrameWritten s u)
    (hrec : s.recordState ≠ .notRecording) (hobc : cfg.obcInterface = true)
    (hauto : s.mostRecentOBCMode = .auto) (hf : e.isFrame = true) :
    Progress cfg s e (u.advance cfg) := by
  by_cases hsci : s.recordState = .science
  · have hstop : u.stopRequested = true := h.stopRequested.trans (hs.2.2 hsci)
    rw [advance_science cfg u (h.recordState.trans hsci), if_pos hstop,
      stopPhase_normal hobc (h.mostRecentOBCMode.trans hauto), ← hsci]
    refine .leave hs hrec h.fbFrameRate ?_
    rw [framesLeft_science hsci, hsci, if_pos hf]
    omega
  · have hleft : framesLeft cfg s = _ := framesLeft_cal hrec hsci
    rw [advance_cal cfg u (h.recordState ▸ hsci) (h.recordState ▸ hrec), h.recordState]
    unfold countDown
    simp only
    split_ifs with hdown
    · refine .leave hs hrec h.fbFrameRate ?_
      rw [hleft, if_pos hf]
      rw [h.wait] at hdown
      omega
    · have hstopping : Stopping { u with wait := u.wait - 1 } :=
        ⟨h.entered ▸ hs.1, h.recordState ▸ hs.2.1, fun h' => absurd (h.recordState ▸ h') hsci⟩
      refine ⟨hstopping, Or.inl ?_, fun hidle => absurd hidle hrec, h.fbFrameRate⟩
      rw [framesLeft_cal (h.recordState ▸ hrec) (h.recordState ▸ hsci), hleft, if_pos hf]
      simp only [h.wait, h.fbFrameRate, h.recordState]
      omega

theorem Progress.poll (hs : Stopping s) (hn : NormalState cfg r s) (hobc : cfg.obcInterface = true)
    (hauto : s.mostRecentOBCMode = .auto) :
    Progress cfg s .noImageData (s.noImageData cfg) := by
  by_cases hstop : s.stopRequested = true
  · have hsci := hn.stop hstop
    have hrec : s.recordState ≠ .notRecording := by simp [hsci]
    rw [hn.noImageData_eq hobc hauto hstop]
    refine .leave hs hrec rfl ?_
    rw [framesLeft_science hsci, hsci]
    simp [RecorderEvent.isFrame]
  · rw [noImageData, if_neg hstop]
    exact .of_same hs (by constructor <;> rfl) id (by simp [RecorderEvent.isFrame])

theorem step_progress (hs : Stopping s) (hn : NormalState cfg r s) (hobc : cfg.obcInterface = true)
    (hnormal : NormalStep s e t) (h : step cfg s e = some t) : Progress cfg s e t := by
  cases step_effect h with
  | records u o a press after => exact absurd (hnormal.press (by simp [press])) hs.1
  | frame image w event effect idle =>
    subst event
    by_cases hidle : s.recordState = .notRecording
    · exact .of_same hs (imageFrame_idle h hidle)
        (fun hstop => (idle hidle).stopRequested ▸ hstop) fun _ => hidle
    · obtain ⟨u, rfl, hu⟩ :=
        imageFrame_normal h hnormal.space.1 hnormal.space.2 hn.notAborted hidle
      exact .advance hs hu hidle hobc hnormal.auto.1 rfl
  | poll event after =>
    subst event after
    exact .poll hs hn hobc hnormal.auto.1
  | side press event frame effect =>
    have hstop : s.stopRequested = true → t.stopRequested = true := by
      intro hpend
      rcases (effect.stop_flags hnormal.abort).2 with h | ⟨-, h⟩
      · exact h.trans hpend
      · exact h
    exact .of_same hs effect.sameCalibration hstop fun hf => by simp [frame] at hf

theorem switchedOn_of_mem_phases (h : st ∈ phases cfg) :
    st = .science ∨ st = .notRecording ∨ switchedOn cfg st = true := by
  simp only [phases, List.mem_append, List.mem_cons, List.mem_filter, List.not_mem_nil,
    or_false] at h
  tauto

/-- There are frames left until the idle state is reached. -/
theorem framesLeft_pos (hs : Stopping s) (hn : NormalState cfg s.fbFrameRate s)
    (hcount : ∀ p, switchedOn cfg p = true → 1 ≤ phaseFrames cfg s.fbFrameRate p)
    (hidle : s.recordState ≠ .notRecording) : 1 ≤ framesLeft cfg s := by
  have hrest := framesOf_nonneg hcount (remaining cfg s.recordState)
  by_cases hsci : s.recordState = .science
  · rw [framesLeft_science hsci, ← hsci]
    omega
  · have hcal := hn.started hs.1 rfl
    have hmem : s.recordState ∈ phases cfg :=
      hcal.order ▸ List.mem_append_left _ hcal.visited
    have hon := ((switchedOn_of_mem_phases hmem).resolve_left hsci).resolve_left hidle
    rw [framesLeft_cal hidle hsci]
    have := (hcal.current hon).2
    omega

/-- Enough frames bring a stopping recording to its end. -/
theorem stopping_ends (hobc : cfg.obcInterface = true)
    (hcount : ∀ p, switchedOn cfg p = true → 1 ≤ phaseFrames cfg r p) {es : List RecorderEvent}
    (hs : Stopping s) (hn : NormalState cfg r s) (hr : s.fbFrameRate = r)
    (hnormal : EachStep (step cfg) NormalStep s es) (hrun : run (step cfg) s es = some t)
    (hleft : framesLeft cfg s ≤ es.countP RecorderEvent.isFrame) :
    t.recordState = .notRecording := by
  induction es generalizing s with
  | nil =>
    obtain rfl := Option.some.inj hrun
    by_contra hidle
    subst hr
    have hpos := framesLeft_pos hs hn hcount hidle
    simp only [List.countP_nil, Nat.cast_zero] at hleft
    omega
  | cons e es ih =>
    obtain ⟨u, hu, hrest⟩ := run_cons_eq_some.mp hrun
    obtain ⟨hstep, hsteps⟩ := hnormal u hu
    have hprogress := step_progress hs hn hobc hstep hu
    refine ih hprogress.stopping (step_normalState hn hobc hcount hstep hu)
      (hprogress.fbFrameRate.trans hr) hsteps hrest ?_
    rcases hprogress.left with hdown | hidle
    · rw [List.countP_cons] at hleft
      push_cast at hleft
      omega
    · rw [framesLeft_idle hidle]
      omega

/-- A normal recording visits the phases in their order, each calibration phase for its number
of frames; and once a stop is requested it reaches the idle state after enough frames. -/
theorem calibration_sequence (cfg : Settings) (u : StartUp) (es : List RecorderEvent)
    {t : DisplayTab} (hobc : cfg.obcInterface = true)
    (hnormal : EachStep (step cfg) NormalStep (initial cfg u) es)
    (hrun : run (step cfg) (initial cfg u) es = some t)
    (hcount : ∀ p, 0 < calPeriod cfg p → 1 ≤ phaseFrames cfg t.fbFrameRate p)
    (hstarted : t.history.entered ≠ []) :
    t.history.entered <+: phases cfg ∧ t.history.entered.Nodup ∧
      (t.recordState = .notRecording → t.history.entered = phases cfg) ∧
      (∀ p ∈ t.history.entered, 0 < calPeriod cfg p → p ≠ t.recordState →
        framesIn t p = phaseFrames cfg t.fbFrameRate p) ∧
      (Stopping t → ∀ es' t', EachStep (step cfg) NormalStep t es' →
        run (step cfg) t es' = some t' →
        framesLeft cfg t ≤ es'.countP RecorderEvent.isFrame → t'.recordState = .notRecording) := by
  have hcount' : ∀ p, switchedOn cfg p = true → 1 ≤ phaseFrames cfg t.fbFrameRate p :=
    fun p hon => hcount p (of_decide_eq_true hon)
  have hn : NormalState cfg t.fbFrameRate t := by
    refine EachStep.invariant ?_ (normalState_initial cfg u) hnormal hrun
    exact fun _ _ _ hs hq h => step_normalState hs hobc hcount' hq h
  have hcal := hn.started hstarted rfl
  have hinitial : t.history.entered <+: phases cfg := ⟨_, hcal.order⟩
  refine ⟨hinitial, (phases_nodup cfg).sublist hinitial.sublist, ?_, fun p hp hon =>
    hcal.past p hp (decide_eq_true hon), ?_⟩
  · intro hidle
    have horder := hcal.order
    rwa [hidle, remaining, List.append_nil] at horder
  · intro hs es' t' hsteps hrun' hleft
    exact stopping_ends hobc hcount' hs hn rfl hsteps hrun' hleft

/-- As `dark2Only`, with a second of dark 1, two of dark 2 and one of bright. -/
def threePhases : Settings :=
  { dark2Only with
    dark1CalPeriodInSecs := 1
    dark2CalPeriodInSecs := 2
    brightCalPeriodInSecs := 1 }

/-- Stopped by a poll without data. -/
def threePhasesRun : List RecorderEvent :=
  [.onRecordButton .ok yesToAll, .imageFrame emptyLine1 allWritten, .callback .ok yesToAll,
    .imageFrame emptyLine1 allWritten, .onStopButton, .noImageData,
    .imageFrame emptyLine1 allWritten, .imageFrame emptyLine1 allWritten,
    .imageFrame emptyLine1 allWritten]

theorem calibration_sequence_three : ∃ t,
    run (step threePhases) (initial threePhases plainStart) threePhasesRun = some t ∧
      t.history.entered = phases threePhases ∧ framesIn t .dark2Cal = 2 := by
  have hend : (run (step threePhases) (initial threePhases plainStart) threePhasesRun).map
      (fun t => (t.recordState, t.fbFrameRate, t.history.entered)) =
        some (.notRecording, 6, [.dark1Cal, .science, .dark2Cal, .brightCal, .notRecording]) := by
    decide +kernel
  obtain ⟨t, hrun, hfields⟩ := Option.map_eq_some_iff.mp hend
  simp only [Prod.mk.injEq] at hfields
  obtain ⟨hidle, hrate, hentered⟩ := hfields
  have hcount : ∀ p, 0 < calPeriod threePhases p → 1 ≤ phaseFrames threePhases 6 p := by
    intro p
    cases p <;> decide +kernel
  have hdark2 : phaseFrames threePhases 6 .dark2Cal = 2 := by decide +kernel
  obtain ⟨-, -, hphases, hframes, -⟩ := calibration_sequence threePhases plainStart
    threePhasesRun rfl (by decide +kernel) hrun (hrate ▸ hcount) (by simp [hentered])
  refine ⟨t, hrun, hphases hidle, ?_⟩
  have hcounted := hframes .dark2Cal (by simp [hentered]) (by decide) (by simp [hidle])
  rw [hrate, hdark2] at hcounted
  exact_mod_cast hcounted

end Recorder
