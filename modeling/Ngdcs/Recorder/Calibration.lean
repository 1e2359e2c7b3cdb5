import Ngdcs.Recorder.OpenFiles

/-! The calibration sequence of a recording that is stopped normally: which phases it visits,
and how many frames it writes in each. -/
namespace Recorder
open Runs DisplayTab

variable {cfg : Settings} {s t : DisplayTab} {e : RecorderEvent} {st : RecordState} {r : ℕ}

def switchedOn (cfg : Settings) (st : RecordState) : Bool := decide (0 < calPeriod cfg st)

/-- The phases of a recording in their order, without the calibration phases of no length. -/
def phases (cfg : Settings) : List RecordState :=
  [.dark1Cal].filter (switchedOn cfg) ++
    .science :: [.dark2Cal, .mediumCal, .brightCal, .laserCal].filter (switchedOn cfg) ++
    [.notRecording]

/-- The frames of a calibration phase at the frame rate number `r`. -/
def phaseFrames (cfg : Settings) (r : ℕ) (st : RecordState) : ℤ :=
  toInt (calPeriod cfg st * cfg.availableFrameRatesInHz r + 1 / 2)

/-- The frames that were written in a phase. -/
def framesIn (s : DisplayTab) (st : RecordState) : ℕ :=
  s.history.written.countP fun f => decide (f.state = st)

/-- The phases that are still to come. -/
def remaining (cfg : Settings) : RecordState → List RecordState
  | .notRecording => []
  | .dark1Cal => .science :: (laterPhases .science).filter (switchedOn cfg) ++ [.notRecording]
  | st => (laterPhases st).filter (switchedOn cfg) ++ [.notRecording]

/-- The phase in which a recording starts. -/
def firstPhase (cfg : Settings) : RecordState :=
  if switchedOn cfg .dark1Cal then .dark1Cal else .science

theorem phases_eq_cons (cfg : Settings) :
    phases cfg = firstPhase cfg :: remaining cfg (firstPhase cfg) := by
  unfold phases firstPhase
  cases h : switchedOn cfg .dark1Cal <;> simp [remaining, laterPhases, h]

theorem nextPhase_eq_find (cfg : Settings) (st : RecordState) :
    nextPhase cfg st = ((laterPhases st).find? (switchedOn cfg)).getD .notRecording := rfl

/-- One rung of the ladders. -/
theorem remaining_rung (st p : RecordState) (hst : laterPhases st = p :: laterPhases p)
    (hrem : remaining cfg st = (laterPhases st).filter (switchedOn cfg) ++ [.notRecording])
    (hp : remaining cfg p = (laterPhases p).filter (switchedOn cfg) ++ [.notRecording])
    (hrest : remaining cfg p = nextPhase cfg p :: remaining cfg (nextPhase cfg p)) :
    remaining cfg st = nextPhase cfg st :: remaining cfg (nextPhase cfg st) := by
  cases hon : switchedOn cfg p with
  | true =>
    have hnext : nextPhase cfg st = p := by
      rw [nextPhase_eq_find, hst, List.find?_cons_of_pos hon, Option.getD_some]
    rw [hnext, hrem, hst, List.filter_cons_of_pos hon, hp, List.cons_append]
  | false =>
    have hoff : ¬switchedOn cfg p = true := by simp [hon]
    have hnext : nextPhase cfg st = nextPhase cfg p := by
      rw [nextPhase_eq_find, hst, List.find?_cons_of_neg hoff, nextPhase_eq_find]
    rw [hnext, hrem, hst, List.filter_cons_of_neg hoff, ← hp]
    exact hrest

/-- The ladders go through what remains in its order. -/
theorem remaining_eq_cons (h : st ≠ .notRecording) :
    remaining cfg st = succPhase cfg st :: remaining cfg (succPhase cfg st) := by
  have hlaser : remaining cfg .laserCal =
      nextPhase cfg .laserCal :: remaining cfg (nextPhase cfg .laserCal) := rfl
  have hbright := remaining_rung .brightCal .laserCal rfl rfl rfl hlaser
  have hmedium := remaining_rung .mediumCal .brightCal rfl rfl rfl hbright
  have hdark2 := remaining_rung .dark2Cal .mediumCal rfl rfl rfl hmedium
  cases st with
  | notRecording => contradiction
  | dark1Cal => rfl
  | science => exact remaining_rung .science .dark2Cal rfl rfl rfl hdark2
  | dark2Cal => exact hdark2
  | mediumCal => exact hmedium
  | brightCal => exact hbright
  | laserCal => exact hlaser

theorem phases_nodup (cfg : Settings) : (phases cfg).Nodup := by
  have hall : ([.dark1Cal] ++ (.science :: [.dark2Cal, .mediumCal, .brightCal, .laserCal] ++
      [.notRecording]) : List RecordState).Nodup := by decide
  refine hall.sublist ?_
  rw [phases, List.append_assoc]
  exact List.filter_sublist.append
    ((List.filter_sublist.cons_cons _).append (List.Sublist.refl _))

theorem not_mem_remaining (cfg : Settings) (st : RecordState) : st ∉ remaining cfg st := by
  cases st <;> simp [remaining, laterPhases]

/-! ### What a normal run keeps -/

/-- Each calibration phase that is visited has its frames, the current one up to its countdown,
and what was visited and what remains are all phases. -/
structure Calibrates (cfg : Settings) (r : ℕ) (s : DisplayTab) : Prop where
  visited : s.recordState ∈ s.history.entered
  order : s.history.entered ++ remaining cfg s.recordState = phases cfg
  current : switchedOn cfg s.recordState = true →
    framesIn s s.recordState + s.wait = phaseFrames cfg r s.recordState ∧ 1 ≤ s.wait
  past : ∀ p ∈ s.history.entered, switchedOn cfg p = true → p ≠ s.recordState →
    framesIn s p = phaseFrames cfg r p
  future : ∀ p ∈ remaining cfg s.recordState, switchedOn cfg p = true → framesIn s p = 0

/-- A number `k` of frames is added in the current phase, and otherwise the history stays. -/
structure AddsFrames (k : ℕ) (s t : DisplayTab) : Prop where
  recordState : t.recordState = s.recordState
  entered : t.history.entered = s.history.entered
  framesIn_eq : ∀ p, framesIn t p = framesIn s p + if p = s.recordState then k else 0

theorem SameCalibration.addsFrames (h : SameCalibration s t) : AddsFrames 0 s t where
  recordState := h.recordState
  entered := h.entered
  framesIn_eq p := by simp [framesIn, h.written]

theorem Calibrates.stay {k : ℕ} (hs : Calibrates cfg r s) (h : AddsFrames k s t)
    (hwait : switchedOn cfg s.recordState = true → t.wait + k = s.wait ∧ 1 ≤ t.wait) :
    Calibrates cfg r t := by
  refine ⟨?_, ?_, ?_, ?_, ?_⟩
  · rw [h.entered, h.recordState]
    exact hs.visited
  · rw [h.entered, h.recordState]
    exact hs.order
  · intro hon
    rw [h.recordState] at hon ⊢
    obtain ⟨hcount, -⟩ := hs.current hon
    obtain ⟨hdown, hpos⟩ := hwait hon
    rw [h.framesIn_eq, if_pos rfl]
    exact ⟨by push_cast; omega, hpos⟩
  · intro p hp hon hne
    rw [h.entered] at hp
    rw [h.recordState] at hne
    rw [h.framesIn_eq, if_neg hne, add_zero]
    exact hs.past p hp hon hne
  · intro p hp hon
    rw [h.recordState] at hp
    have hne : p ≠ s.recordState := fun he => not_mem_remaining cfg _ (he ▸ hp)
    rw [h.framesIn_eq, if_neg hne, add_zero]
    exact hs.future p hp hon

theorem framesIn_enterPhase (p : RecordState) :
    framesIn (s.enterPhase cfg st) p = framesIn s p := by
  rw [framesIn, enterPhase_written, framesIn]

/-- The next phase is entered when the current one has all its frames. -/
theorem Calibrates.leave {k : ℕ} (hs : Calibrates cfg r s) (h : AddsFrames k s t)
    (hrec : s.recordState ≠ .notRecording) (hrate : t.fbFrameRate = r)
    (hcount : ∀ p, switchedOn cfg p = true → 1 ≤ phaseFrames cfg r p)
    (hdone : switchedOn cfg s.recordState = true → s.wait = k)
    (hst : st = succPhase cfg s.recordState) : Calibrates cfg r (t.enterPhase cfg st) := by
  have hrem : remaining cfg s.recordState = st :: remaining cfg st := hst ▸ remaining_eq_cons hrec
  have hnew : ∀ p ∈ remaining cfg s.recordState, switchedOn cfg p = true → framesIn t p = 0 := by
    intro p hp hon
    have hne : p ≠ s.recordState := fun he => not_mem_remaining cfg _ (he ▸ hp)
    rw [h.framesIn_eq, if_neg hne, add_zero]
    exact hs.future p hp hon
  refine ⟨by simp, ?_, ?_, ?_, ?_⟩
  · rw [enterPhase_entered, enterPhase_recordState, h.entered, List.append_assoc,
      List.singleton_append, ← hrem]
    exact hs.order
  · intro hon
    rw [enterPhase_recordState] at hon ⊢
    have hwait : (t.enterPhase cfg st).wait = phaseFrames cfg r st := by
      rw [enterPhase_wait cfg t (of_decide_eq_true hon), ← hrate]
      rfl
    rw [framesIn_enterPhase, hnew st (hrem ▸ List.mem_cons_self) hon, hwait]
    exact ⟨by simp, hcount st hon⟩
  · intro p hp hon hne
    rw [enterPhase_recordState] at hne
    rw [enterPhase_entered, h.entered] at hp
    have hp' : p ∈ s.history.entered := by simpa [hne] using hp
    rw [framesIn_enterPhase, h.framesIn_eq]
    by_cases hcur : p = s.recordState
    · subst hcur
      have hframes := (hs.current hon).1
      rw [hdone hon] at hframes
      rw [if_pos rfl]
      exact_mod_cast hframes
    · rw [if_neg hcur, add_zero]
      exact hs.past p hp' hon hcur
  · intro p hp hon
    rw [enterPhase_recordState] at hp
    rw [framesIn_enterPhase]
    exact hnew p (hrem ▸ List.mem_cons_of_mem st hp) hon

/-- A recording starts in its first phase, without any frame written. -/
theorem calibrates_first (hentered : s.history.entered = []) (hwritten : s.history.written = [])
    (hrate : s.fbFrameRate = r)
    (hcount : ∀ p, switchedOn cfg p = true → 1 ≤ phaseFrames cfg r p) :
    Calibrates cfg r (s.enterPhase cfg (firstPhase cfg)) := by
  have hnone (p : RecordState) : framesIn (s.enterPhase cfg (firstPhase cfg)) p = 0 := by
    simp [framesIn, hwritten]
  refine ⟨by simp, ?_, ?_, ?_, fun p _ _ => hnone p⟩
  · rw [enterPhase_entered, enterPhase_recordState, hentered, phases_eq_cons]
    rfl
  · intro hon
    rw [enterPhase_recordState] at hon ⊢
    have hwait : (s.enterPhase cfg (firstPhase cfg)).wait = phaseFrames cfg r (firstPhase cfg) := by
      rw [enterPhase_wait cfg s (of_decide_eq_true hon), ← hrate]
      rfl
    rw [hnone, hwait]
    exact ⟨by simp, hcount _ hon⟩
  · intro p hp hon hne
    rw [enterPhase_entered, hentered] at hp
    rw [enterPhase_recordState] at hne
    exact absurd (List.mem_singleton.mp hp) hne

/-! ### Normal steps -/

/-- One press of the record button, stops only in science, no abort, enough space, and the OBC
in automatic mode. -/
structure NormalStep (s : DisplayTab) (e : RecorderEvent) (t : DisplayTab) : Prop where
  press : (recordPress s e).isSome = true → s.history.entered = []
  stop : requestsStop s e = true → s.recordState = .science
  abort : e.aborts = false
  space : s.outOfSpace = false ∧ t.outOfSpace = false
  auto : s.mostRecentOBCMode = .auto ∧ t.mostRecentOBCMode = .auto

instance : Decidable (NormalStep s e t) :=
  decidable_of_iff (((recordPress s e).isSome = true → s.history.entered = []) ∧
      (requestsStop s e = true → s.recordState = .science) ∧ e.aborts = false ∧
      (s.outOfSpace = false ∧ t.outOfSpace = false) ∧
      (s.mostRecentOBCMode = .auto ∧ t.mostRecentOBCMode = .auto))
    ⟨fun ⟨press, stop, abort, space, auto⟩ => ⟨press, stop, abort, space, auto⟩,
      fun h => ⟨h.press, h.stop, h.abort, h.space, h.auto⟩⟩

/-- A frame is in the image file, and nothing else that matters here is changed. -/
structure FrameWritten (s u : DisplayTab) : Prop extends AddsFrames 1 s u where
  wait : u.wait = s.wait
  stopRequested : u.stopRequested = s.stopRequested
  stopIsAbort : u.stopIsAbort = s.stopIsAbort
  fbFrameRate : u.fbFrameRate = s.fbFrameRate
  mostRecentOBCMode : u.mostRecentOBCMode = s.mostRecentOBCMode

theorem countP_state_append (fs : List WrittenFrame) (f : WrittenFrame) (p : RecordState) :
    (fs ++ [f]).countP (fun g => decide (g.state = p)) =
      fs.countP (fun g => decide (g.state = p)) + if p = f.state then 1 else 0 := by
  by_cases h : p = f.state
  · simp [h]
  · have h' : ¬f.state = p := fun he => h he.symm
    simp [h, h']

theorem imageFrame_normal {image : ℕ → UInt16} {w : WriteOutcome}
    (h : s.imageFrame cfg image w = some t) (hspace : s.outOfSpace = false)
    (hspace' : t.outOfSpace = false) (habort : s.stopIsAbort = false)
    (hrec : s.recordState ≠ .notRecording) : ∃ u, t = u.advance cfg ∧ FrameWritten s u := by
  have hfull : (s.noteFrame cfg image).outOfSpace = false := hspace
  have hrec' : (s.noteFrame cfg image).recordState ≠ .notRecording := hrec
  simp only [imageFrame, hfull, Bool.false_eq_true, if_false, if_neg hrec', recordFrame] at h
  obtain ⟨⟨failed, u⟩, hwritten, rfl⟩ := Option.map_eq_some_iff.mp h
  obtain ⟨suppress, framesWritten, frames, rfl, hframes⟩ := writeFrame_eq cfg _ hwritten
  cases failed with
  | true => simp at hspace'
  | false =>
    obtain ⟨n, -, -, rfl⟩ := hframes
    refine ⟨_, if_neg ?_, ?_⟩
    · simp [writeEndToEndData, writeAllppsData, writeAllgpsData, noteFrame, habort]
    · refine ⟨⟨rfl, rfl, ?_⟩, rfl, rfl, rfl, rfl, rfl⟩
      intro p
      exact countP_state_append s.history.written _ p

theorem imageFrame_idle {image : ℕ → UInt16} {w : WriteOutcome}
    (h : s.imageFrame cfg image w = some t) (hidle : s.recordState = .notRecording) :
    SameCalibration s t := by
  have hidle' : (s.noteFrame cfg image).recordState = .notRecording := hidle
  simp only [imageFrame, hidle', ne_eq, not_true_eq_false, if_false] at h
  split_ifs at h <;> obtain rfl := Option.some.inj h <;> constructor <;> rfl

/-- How `recordButtonWork` ends with the OBC in automatic mode. -/
theorem recordButtonWork_normal {o : OpenResult} {a : RecordReplies}
    (hobc : cfg.obcInterface = true)
    (hauto : (s.recordButtonWork cfg o a).mostRecentOBCMode = .auto) :
    ∃ v, v.history.entered = s.history.entered ∧ v.history.written = s.history.written ∧
      (s.recordButtonWork cfg o a = v ∧ v.recordState = s.recordState ∧
          v.stopRequested = s.stopRequested ∧ v.stopIsAbort = s.stopIsAbort ∨
        s.recordButtonWork cfg o a = v.enterPhase cfg (firstPhase cfg) ∧
          v.stopRequested = false ∧ v.stopIsAbort = false) := by
  unfold recordButtonWork at hauto ⊢
  rcases hp : s.prepareRecording cfg a with _ | u
  · exact ⟨s, rfl, rfl, Or.inl ⟨rfl, rfl, rfl, rfl⟩⟩
  · obtain ⟨obcMode, mountMode, blockRate, fbRate, out, hu⟩ := prepareRecording_eq hp
    have hentered : u.history.entered = s.history.entered := by rw [hu]
    have hwritten : u.history.written = s.history.written := by rw [hu]
    simp only [hp] at hauto ⊢
    split_ifs at hauto ⊢ with hok
    · refine ⟨(u.openFiles o).leaveIdleForRecording cfg, ?_, ?_, Or.inr ⟨?_, rfl, rfl⟩⟩
      · rw [← hentered, hok]
        rfl
      · rw [← hwritten, hok]
        rfl
      · have hmode : ((u.openFiles o).leaveIdleForRecording cfg).mostRecentOBCMode = .auto := by
          unfold startRecording at hauto
          simp only at hauto
          split_ifs at hauto <;> exact hauto
        by_cases hdark : cfg.dark1CalPeriodInSecs = 0
        · have hfirst : firstPhase cfg = .science := by
            simp [firstPhase, switchedOn, calPeriod, hdark]
          rw [startRecording, if_pos (Or.inl hdark), hfirst]
          rfl
        · have hfirst : firstPhase cfg = .dark1Cal := by
            simp [firstPhase, switchedOn, calPeriod, Nat.pos_of_ne_zero hdark]
          rw [startRecording, if_neg (by simp [hdark, hmode, hobc]), hfirst]
          rfl
    · refine ⟨u.openFiles o, ?_, ?_, Or.inl ⟨rfl, ?_, ?_, ?_⟩⟩
      · rw [← hentered]
        cases o <;> rfl
      · rw [← hwritten]
        cases o <;> rfl
      all_goals
        rw [hu]
        cases o <;> rfl

/-- Only a stop press requests a stop, and nothing takes one back. -/
theorem SideEffect.stop_flags (h : SideEffect cfg s e t) (hne : e.aborts = false) :
    (t.stopIsAbort = s.stopIsAbort ∨ t.stopIsAbort = false) ∧
      (t.stopRequested = s.stopRequested ∨ requestsStop s e = true ∧ t.stopRequested = true) := by
  cases h with
  | quiet same calibration record stop => exact ⟨Or.inl same.stopIsAbort, Or.inl same.stopRequested⟩
  | stop cs queue request after =>
    subst after
    exact ⟨Or.inr rfl, Or.inr ⟨request, rfl⟩⟩
  | abort c event record after =>
    rcases event with rfl | ⟨rfl, -⟩ <;> simp [RecorderEvent.aborts] at hne
  | sample first second event effect => cases effect <;> exact ⟨Or.inl rfl, Or.inl rfl⟩
  | stopIgnored cs queue insensitive after | refreshRecord cs queue after
  | refreshStop cs queue after =>
    subst after
    exact ⟨Or.inl rfl, Or.inl rfl⟩

/-- The invariant of normal runs, for a recording at the frame rate number `r`. -/
structure NormalState (cfg : Settings) (r : ℕ) (s : DisplayTab) : Prop where
  notAborted : s.stopIsAbort = false
  stop : s.stopRequested = true → s.recordState = .science
  before : s.history.entered = [] → s.recordState = .notRecording ∧ s.history.written = []
  started : s.history.entered ≠ [] → s.fbFrameRate = r → Calibrates cfg r s

theorem normalState_initial (cfg : Settings) (u : StartUp) : NormalState cfg r (initial cfg u) := by
  constructor <;> simp [initial, History.empty]

theorem NormalState.of_recording (hs : NormalState cfg r s) (hrec : s.recordState ≠ .notRecording) :
    s.history.entered ≠ [] := fun h => hrec (hs.before h).1

/-- Leaving a phase, whether by its last frame or by a stop. -/
theorem NormalState.leave {k : ℕ} {u : DisplayTab} (hs : NormalState cfg r s)
    (h : AddsFrames k s u) (hrec : s.recordState ≠ .notRecording)
    (hcount : ∀ p, switchedOn cfg p = true → 1 ≤ phaseFrames cfg r p)
    (hdone : switchedOn cfg s.recordState = true → s.wait = k)
    (hrate : u.fbFrameRate = s.fbFrameRate) (habort : u.stopIsAbort = s.stopIsAbort)
    (hstop : u.stopRequested = false) :
    NormalState cfg r (u.enterPhase cfg (succPhase cfg s.recordState)) where
  notAborted := by rw [enterPhase_stopIsAbort, habort, hs.notAborted]
  stop hpend := by
    rw [enterPhase_stopRequested, hstop] at hpend
    cases hpend
  before hnone := by simp at hnone
  started _ hr := by
    rw [enterPhase_fbFrameRate] at hr
    have hcal := hs.started (hs.of_recording hrec) (hrate ▸ hr)
    exact hcal.leave h hrec hr hcount hdone rfl

theorem NormalState.stay {k : ℕ} (hs : NormalState cfg r s) (h : AddsFrames k s t)
    (hempty : k = 0 ∨ s.recordState ≠ .notRecording)
    (hwait : switchedOn cfg s.recordState = true → 1 ≤ s.wait → t.wait + k = s.wait ∧ 1 ≤ t.wait)
    (hrate : t.fbFrameRate = s.fbFrameRate) (habort : t.stopIsAbort = false)
    (hstop : t.stopRequested = true → s.recordState = .science)
    (hwritten : k = 0 → t.history.written = s.history.written) : NormalState cfg r t where
  notAborted := habort
  stop hpend := h.recordState.trans (hstop hpend)
  before hnone := by
    rw [h.entered] at hnone
    obtain ⟨hidle, hw⟩ := hs.before hnone
    have hk : k = 0 := hempty.resolve_right fun hne => hne hidle
    exact ⟨h.recordState.trans hidle, (hwritten hk).trans hw⟩
  started hsome hr := by
    rw [h.entered] at hsome
    have hcal := hs.started hsome (hrate ▸ hr)
    exact hcal.stay h fun hon => hwait hon (hcal.current hon).2

theorem stopPhase_normal (hobc : cfg.obcInterface = true) (hauto : s.mostRecentOBCMode = .auto) :
    s.stopPhase cfg = succPhase cfg .science := by
  have hfollows : s.obcFollows cfg = true := by simp [obcFollows, hobc, hauto]
  rw [stopPhase, if_pos hfollows]
  rfl

theorem not_switchedOn_science (h : st = .science) : ¬switchedOn cfg st = true := by
  subst h
  simp [switchedOn, calPeriod]

theorem NormalState.advance {u : DisplayTab} (hs : NormalState cfg r s) (h : FrameWritten s u)
    (hrec : s.recordState ≠ .notRecording) (hobc : cfg.obcInterface = true)
    (hauto : s.mostRecentOBCMode = .auto)
    (hcount : ∀ p, switchedOn cfg p = true → 1 ≤ phaseFrames cfg r p) :
    NormalState cfg r (u.advance cfg) := by
  have habort : u.stopIsAbort = false := h.stopIsAbort.trans hs.notAborted
  by_cases hsci : s.recordState = .science
  · rw [advance_science cfg u (h.recordState.trans hsci)]
    split_ifs with hstop
    · rw [stopPhase_normal hobc (h.mostRecentOBCMode.trans hauto), ← hsci]
      exact hs.leave ⟨h.recordState, h.entered, h.framesIn_eq⟩ hrec hcount
        (fun hon => absurd hon (not_switchedOn_science hsci)) h.fbFrameRate h.stopIsAbort rfl
    · exact hs.stay h.toAddsFrames (Or.inr hrec)
        (fun hon => absurd hon (not_switchedOn_science hsci)) h.fbFrameRate habort
        (fun _ => hsci) (by simp)
  · have hpending : s.stopRequested = false := by
      rcases hp : s.stopRequested with _ | _
      · rfl
      · exact absurd (hs.stop hp) hsci
    have hnot : u.stopRequested = false := h.stopRequested.trans hpending
    rw [advance_cal cfg u (h.recordState ▸ hsci) (h.recordState ▸ hrec), h.recordState]
    unfold countDown
    simp only
    split_ifs with hdown
    · refine hs.leave ⟨h.recordState, h.entered, h.framesIn_eq⟩ hrec hcount (fun _ => ?_)
        h.fbFrameRate h.stopIsAbort hnot
      rw [h.wait] at hdown
      push_cast
      omega
    · refine hs.stay ⟨h.recordState, h.entered, h.framesIn_eq⟩ (Or.inr hrec) ?_
        h.fbFrameRate habort ?_ (by simp)
      · intro _ hpos
        rw [h.wait] at hdown ⊢
        push_cast
        omega
      · intro hstop
        simp [hnot] at hstop

theorem NormalState.noImageData_eq (hs : NormalState cfg r s) (hobc : cfg.obcInterface = true)
    (hauto : s.mostRecentOBCMode = .auto) (hstop : s.stopRequested = true) : s.noImageData cfg =
      { s with stopRequested := false }.enterPhase cfg (succPhase cfg s.recordState) := by
  have htarget : (if s.stopIsAbort then RecordState.notRecording else s.stopPhase cfg) =
      succPhase cfg s.recordState := by
    rw [hs.notAborted, stopPhase_normal hobc hauto, hs.stop hstop]
    rfl
  rw [DisplayTab.noImageData_eq cfg s hstop, htarget]

theorem NormalState.poll (hs : NormalState cfg r s) (hobc : cfg.obcInterface = true)
    (hauto : s.mostRecentOBCMode = .auto)
    (hcount : ∀ p, switchedOn cfg p = true → 1 ≤ phaseFrames cfg r p) :
    NormalState cfg r (s.noImageData cfg) := by
  by_cases hstop : s.stopRequested = true
  · have hsci := hs.stop hstop
    have hadds : AddsFrames 0 s { s with stopRequested := false } :=
      ⟨rfl, rfl, fun p => by simp [framesIn]⟩
    rw [hs.noImageData_eq hobc hauto hstop]
    exact hs.leave hadds (by simp [hsci]) hcount
      (fun hon => absurd hon (not_switchedOn_science hsci)) rfl rfl rfl
  · rw [noImageData, if_neg hstop]
    exact hs

theorem NormalState.side (hs : NormalState cfg r s) (hn : NormalStep s e t)
    (h : SideEffect cfg s e t) : NormalState cfg r t := by
  have hcal := h.sameCalibration
  obtain ⟨habort, hstop⟩ := h.stop_flags hn.abort
  refine hs.stay hcal.addsFrames (Or.inl rfl) ?_ hcal.fbFrameRate ?_
    ?_ fun _ => hcal.written
  · intro _ hpos
    rw [hcal.wait]
    exact ⟨by simp, hpos⟩
  · rcases habort with habort | habort
    · exact habort.trans hs.notAborted
    · exact habort
  · intro hpend
    rcases hstop with hstop | hstop
    · exact hs.stop (hstop ▸ hpend)
    · exact hn.stop hstop.1

/-- The press of the record button, in a run that has recorded nothing yet. -/
theorem NormalState.records {u : DisplayTab} {o : OpenResult} {a : RecordReplies}
    (hs : NormalState cfg r s) (hobc : cfg.obcInterface = true) (hn : NormalStep s e t)
    (press : recordPress s e = some (u, o, a)) (after : t = u.recordButtonWork cfg o a)
    (hcount : ∀ p, switchedOn cfg p = true → 1 ≤ phaseFrames cfg r p) :
    NormalState cfg r t := by
  have hnone := hn.press (by simp [press])
  obtain ⟨hidle, hwritten⟩ := hs.before hnone
  obtain ⟨cs, rfl⟩ := recordPress_eq press
  subst after
  obtain ⟨v, hentered, hw, hend⟩ := recordButtonWork_normal hobc hn.auto.2
  have hentered' : v.history.entered = [] := hentered.trans hnone
  have hw' : v.history.written = [] := hw.trans hwritten
  rcases hend with ⟨hv, hstate, hstop, habort⟩ | ⟨hv, hstop, habort⟩
  · rw [hv]
    exact
      { notAborted := habort.trans hs.notAborted
        stop := fun hpend => hstate.trans (hs.stop (hstop ▸ hpend))
        before := fun _ => ⟨hstate.trans hidle, hw'⟩
        started := fun hsome => absurd hentered' hsome }
  · rw [hv]
    exact
      { notAborted := by rw [enterPhase_stopIsAbort, habort]
        stop := fun hpend => by simp [hstop] at hpend
        before := fun h => by simp at h
        started := fun _ hr => calibrates_first hentered' hw' (by simpa using hr) hcount }

theorem step_normalState (hs : NormalState cfg r s) (hobc : cfg.obcInterface = true)
    (hcount : ∀ p, switchedOn cfg p = true → 1 ≤ phaseFrames cfg r p) (hn : NormalStep s e t)
    (h : step cfg s e = some t) : NormalState cfg r t := by
  cases step_effect h with
  | records u o a press after => exact hs.records hobc hn press after hcount
  | frame image w event effect idle =>
    subst event
    by_cases hidle : s.recordState = .notRecording
    · have hsame := idle hidle
      have hcal := imageFrame_idle h hidle
      exact hs.stay hcal.addsFrames (Or.inl rfl) (fun _ hpos => by simp [hcal.wait, hpos])
        hcal.fbFrameRate (hsame.stopIsAbort.trans hs.notAborted)
        (fun hpend => hs.stop (hsame.stopRequested ▸ hpend)) fun _ => hcal.written
    · obtain ⟨u, rfl, hu⟩ := imageFrame_normal h hn.space.1 hn.space.2 hs.notAborted hidle
      exact hs.advance hu hidle hobc hn.auto.1 hcount
  | poll event after =>
    subst after
    exact hs.poll hobc hn.auto.1 hcount
  | side press event frame effect => exact hs.side hn effect

end Recorder
