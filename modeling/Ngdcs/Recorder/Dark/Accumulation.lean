import Ngdcs.Recorder.ObcMode

/-! The automatic dark frame: when a frame is added to it, and the state the OBC is in then. The
countdown is armed together with a dark state of the OBC, but nothing stops it when the OBC
leaves that state. -/
namespace Recorder
open Runs DisplayTab

variable {cfg : Settings} {s t u : DisplayTab} {e : RecorderEvent} {rate : ℚ} {d : DarkFrame}

namespace DarkFrame

/-- The countdown is over when the next frame has been counted. -/
def Due (d : DarkFrame) : Prop := d.framesUntilDark = 0 ∨ d.framesUntilDark = 1

/-- There are not enough frames yet. -/
def Short (rate : ℚ) (d : DarkFrame) : Prop :=
  (d.darkFramesAccumulated : ℚ) < rate * accumTimeSecs

/-- The next frame is added. -/
def Adds (rate : ℚ) (d : DarkFrame) : Prop := d.Due ∧ d.Short rate

/-- The next frame completes the dark frame. -/
def Completes (rate : ℚ) (d : DarkFrame) : Prop := d.Due ∧ ¬d.Short rate

/-- Frames will be added if they arrive. -/
def Wants (rate : ℚ) (d : DarkFrame) : Prop := 0 ≤ d.framesUntilDark ∧ d.Short rate

instance (d : DarkFrame) : Decidable d.Due := inferInstanceAs (Decidable (_ ∨ _))

instance (rate : ℚ) (d : DarkFrame) : Decidable (d.Short rate) :=
  inferInstanceAs (Decidable (_ < _))

instance (rate : ℚ) (d : DarkFrame) : Decidable (d.Adds rate) :=
  inferInstanceAs (Decidable (_ ∧ _))

instance (rate : ℚ) (d : DarkFrame) : Decidable (d.Completes rate) :=
  inferInstanceAs (Decidable (_ ∧ _))

instance (rate : ℚ) (d : DarkFrame) : Decidable (d.Wants rate) :=
  inferInstanceAs (Decidable (_ ∧ _))

theorem Adds.wants (h : d.Adds rate) : d.Wants rate := by
  obtain ⟨hdue | hdue, hshort⟩ := h
  · exact ⟨hdue.ge, hshort⟩
  · exact ⟨by rw [hdue]; decide, hshort⟩

/-- `if (m_framesUntilDark > 0) m_framesUntilDark--;` -/
def counted (d : DarkFrame) : DarkFrame :=
  if d.framesUntilDark > 0 then { d with framesUntilDark := d.framesUntilDark - 1 } else d

theorem counted_due (h : d.Due) : d.counted = { d with framesUntilDark := 0 } := by
  unfold counted
  rcases h with h | h
  · rw [if_neg (by omega), ← h]
  · rw [if_pos (by omega), h]
    rfl

theorem counted_eq_zero_iff : d.counted.framesUntilDark = 0 ↔ d.Due := by
  unfold counted Due
  split_ifs with hpos
  · change d.framesUntilDark - 1 = 0 ↔ _
    omega
  · omega

theorem update_eq (image : ℕ → UInt16) : d.update cfg rate image =
    if d.counted.framesUntilDark = 0 then
      if d.counted.Short rate then
        { d.counted with
          darkFrameAccumulation := fun i =>
            if inImage cfg i then (d.counted.darkFrameAccumulation i + (image i).toNat) % 2 ^ 32
            else d.counted.darkFrameAccumulation i
          darkFramesAccumulated := d.counted.darkFramesAccumulated + 1 }
      else
        { d.counted with
          darkFrame := fun i =>
            if inImage cfg i then
              (toInt (d.counted.darkFrameAccumulation i / (rate * accumTimeSecs))).toNat % 2 ^ 16
            else d.counted.darkFrame i
          framesUntilDark := -1
          darkFrameBuffered := true }
    else d.counted := rfl

theorem update_of_adds (h : d.Adds rate) (image : ℕ → UInt16) : d.update cfg rate image =
    { d with
      framesUntilDark := 0
      darkFrameAccumulation := fun i =>
        if inImage cfg i then (d.darkFrameAccumulation i + (image i).toNat) % 2 ^ 32
        else d.darkFrameAccumulation i
      darkFramesAccumulated := d.darkFramesAccumulated + 1 } := by
  have hshort : Short rate { d with framesUntilDark := 0 } := h.2
  rw [update_eq, counted_due h.1, if_pos rfl, if_pos hshort]

theorem update_of_completes (h : d.Completes rate) (image : ℕ → UInt16) :
    d.update cfg rate image =
      { d with
        darkFrame := fun i =>
          if inImage cfg i then
            (toInt (d.darkFrameAccumulation i / (rate * accumTimeSecs))).toNat % 2 ^ 16
          else d.darkFrame i
        framesUntilDark := -1
        darkFrameBuffered := true } := by
  have hshort : ¬Short rate { d with framesUntilDark := 0 } := h.2
  rw [update_eq, counted_due h.1, if_pos rfl, if_neg hshort]

theorem update_of_not_due (h : ¬d.Due) (image : ℕ → UInt16) :
    d.update cfg rate image = d.counted := by
  rw [update_eq, if_neg (counted_eq_zero_iff.not.mpr h)]

/-- A frame does not arm the accumulation. -/
theorem wants_of_update (image : ℕ → UInt16) (h : (d.update cfg rate image).Wants rate) :
    d.Wants rate := by
  by_cases hdue : d.Due
  · by_cases hshort : d.Short rate
    · exact Adds.wants ⟨hdue, hshort⟩
    · rw [update_of_completes ⟨hdue, hshort⟩] at h
      exact absurd (show (0 : ℤ) ≤ -1 from h.1) (by decide)
  · rw [update_of_not_due hdue] at h
    unfold counted at h
    split_ifs at h with hpos
    · exact ⟨hpos.le, h.2⟩
    · exact h

end DarkFrame

/-! ### The dark frame and the OBC -/

def InDark (o : ObcState) : Prop := o = .dark1 ∨ o = .dark2

instance (o : ObcState) : Decidable (InDark o) := inferInstanceAs (Decidable (_ ∨ _))

/-- The step adds a frame to the dark frame. -/
def AddsFrame (cfg : Settings) (s : DisplayTab) (e : RecorderEvent) : Prop :=
  e.isFrame = true ∧ s.dark.Adds (s.frameRateHz cfg)

instance (cfg : Settings) (s : DisplayTab) (e : RecorderEvent) : Decidable (AddsFrame cfg s e) :=
  inferInstanceAs (Decidable (_ ∧ _))

/-- A step that takes the OBC out of the dark, or sets another frame rate outside it, leaves no
accumulation that still wants frames. -/
def FinishedInDark (cfg : Settings) (s t : DisplayTab) : Prop :=
  ¬InDark t.lastOBCState → InDark s.lastOBCState ∨ t.fbFrameRate ≠ s.fbFrameRate →
    ¬t.dark.Wants (t.frameRateHz cfg)

instance (cfg : Settings) (s t : DisplayTab) : Decidable (FinishedInDark cfg s t) :=
  inferInstanceAs (Decidable (_ → _ → _))

/-- The invariant: what still wants frames was armed in a dark state that lasts. -/
def ArmedInDark (cfg : Settings) (s : DisplayTab) : Prop :=
  s.dark.Wants (s.frameRateHz cfg) → InDark s.lastOBCState

/-- The dark frame behind a frame that arrives. -/
def darkBehind (cfg : Settings) (s : DisplayTab) : RecorderEvent → DarkFrame
  | .imageFrame image _ => s.dark.update cfg (s.frameRateHz cfg) image
  | _ => s.dark

/-- The dark frame is restarted only together with a dark state. -/
def DarkKept (cfg : Settings) (d : DarkFrame) (t : DisplayTab) : Prop :=
  t.dark = d ∨ t.dark = d.restart (t.frameRateHz cfg) ∧ InDark t.lastOBCState

theorem darkKept_enterPhase {st : RecordState} (hst : st = .dark2Cal → s.obcFollows cfg = true) :
    DarkKept cfg s.dark (s.enterPhase cfg st) := by
  cases st with
  | dark1Cal => exact Or.inr ⟨rfl, Or.inl rfl⟩
  | dark2Cal =>
    have hdark : (s.enterPhase cfg .dark2Cal).lastOBCState =
        if s.obcFollows cfg then .dark2 else s.lastOBCState := rfl
    rw [if_pos (hst rfl)] at hdark
    exact Or.inr ⟨rfl, Or.inr hdark⟩
  | _ => exact Or.inl rfl

theorem darkKept_imageFrame {image : ℕ → UInt16} {w : WriteOutcome}
    (h : s.imageFrame cfg image w = some t) :
    DarkKept cfg (s.dark.update cfg (s.frameRateHz cfg) image) t ∧
      t.fbFrameRate = s.fbFrameRate := by
  obtain ⟨_, _, _, _, _, u, hu, -, rfl | ⟨st, out, ⟨-, hst⟩, rfl⟩⟩ := imageFrame_eq cfg s h
  · subst hu
    exact ⟨Or.inl rfl, rfl⟩
  · have hfollows : u.obcFollows cfg = s.obcFollows cfg := by
      rw [hu]
      rfl
    have hdark : u.dark = s.dark.update cfg (s.frameRateHz cfg) image := by rw [hu]; rfl
    have hrate : u.fbFrameRate = s.fbFrameRate := by rw [hu]; rfl
    refine ⟨hdark ▸ @darkKept_enterPhase cfg u st (hfollows ▸ hst), ?_⟩
    exact (enterPhase_fbFrameRate cfg u st).trans hrate

theorem darkKept_recordButtonWork (r : OpenResult) (a : RecordReplies) :
    DarkKept cfg s.dark (s.recordButtonWork cfg r a) := by
  unfold recordButtonWork
  rcases hp : s.prepareRecording cfg a with _ | u
  · exact Or.inl rfl
  obtain ⟨_, _, _, _, _, rfl⟩ := prepareRecording_eq hp
  simp only
  split_ifs with hr
  · subst hr
    unfold startRecording
    simp only
    split_ifs
    · exact Or.inl rfl
    · exact Or.inr ⟨rfl, Or.inl rfl⟩
  · cases r <;> exact Or.inl rfl

theorem step_darkKept (h : step cfg s e = some t) :
    DarkKept cfg (darkBehind cfg s e) t ∧
      (recordPress s e = none → t.fbFrameRate = s.fbFrameRate) := by
  cases step_effect h with
  | records u r a press after =>
    have hbehind : darkBehind cfg s e = s.dark := by
      cases e <;> first | rfl | simp [recordPress] at press
    obtain ⟨cs, rfl⟩ := recordPress_eq press
    rw [hbehind, after]
    exact ⟨@darkKept_recordButtonWork cfg { s with callbacks := cs } r a,
      fun hpress => by simp [press] at hpress⟩
  | frame image w event effect idle =>
    subst event
    obtain ⟨hkept, hrate⟩ := darkKept_imageFrame h
    exact ⟨hkept, fun _ => hrate⟩
  | poll event after =>
    subst event
    by_cases hstop : s.stopRequested = true
    · rw [after, noImageData_eq cfg s hstop]
      refine ⟨?_, fun _ => enterPhase_fbFrameRate cfg _ _⟩
      refine @darkKept_enterPhase cfg { s with stopRequested := false } _ fun hdark => ?_
      split_ifs at hdark
      exact obcFollows_of_stopPhase cfg s hdark
    · rw [after, noImageData, if_neg hstop]
      exact ⟨Or.inl rfl, fun _ => rfl⟩
  | side press event frame effect =>
    have hbehind : darkBehind cfg s e = s.dark := by
      cases e <;> first | rfl | simp [RecorderEvent.isFrame] at frame
    have hkept := step_selectionsKept h press frame event
    have hrate : t.frameRateHz cfg = s.frameRateHz cfg := by
      rw [frameRateHz, frameRateHz, hkept.fbFrameRate]
    rw [hbehind]
    exact ⟨hkept.dark.imp_right fun h => ⟨hrate ▸ h.1, Or.inl h.2⟩,
      fun _ => hkept.fbFrameRate⟩

theorem wants_of_darkBehind (h : (darkBehind cfg s e).Wants (s.frameRateHz cfg)) :
    s.dark.Wants (s.frameRateHz cfg) := by
  cases e with
  | imageFrame image w => exact DarkFrame.wants_of_update image h
  | _ => exact h

/-- What one step does to the invariant. -/
theorem step_armedInDark (hs : ArmedInDark cfg s) (hfinished : FinishedInDark cfg s t)
    (h : step cfg s e = some t) : ArmedInDark cfg t := by
  intro hwants
  by_contra hdark
  have hkept := (step_darkKept h).1.resolve_right fun hrestarted => hdark hrestarted.2
  have hquiet : ¬(InDark s.lastOBCState ∨ t.fbFrameRate ≠ s.fbFrameRate) :=
    fun hleft => hfinished hdark hleft hwants
  rw [not_or, not_not] at hquiet
  have hrate : t.frameRateHz cfg = s.frameRateHz cfg := by
    rw [frameRateHz, frameRateHz, hquiet.2]
  rw [hkept, hrate] at hwants
  exact hquiet.1 (hs (wants_of_darkBehind hwants))

theorem armedInDark_initial (cfg : Settings) (u : StartUp) : ArmedInDark cfg (initial cfg u) :=
  fun hwants => absurd (show (0 : ℤ) ≤ -1 from hwants.1) (by decide)

/-- From the start of the program, every frame added to the dark frame is taken in a dark state
of the OBC, as long as no step leaves an accumulation unfinished outside these states. -/
theorem dark_frames_in_the_dark (cfg : Settings) (u : StartUp)
    (es : List (Bool × RecorderEvent))
    (h : EachStep (stepInMode cfg) (fun s _ t => FinishedInDark cfg s t) (initial cfg u) es) :
    EachStep (stepInMode cfg) (fun s e _ => AddsFrame cfg s e.2 → InDark s.lastOBCState)
      (initial cfg u) es := by
  refine EachStep.of_invariant ?_ ?_ (armedInDark_initial cfg u) h
  · intro s e t hs hfinished hstep
    exact @step_armedInDark { cfg with operationalMode := e.1 } s t e.2 hs hfinished hstep
  · intro s e t hs _ _ hadds
    exact hs hadds.2.wants

/-- A second of dark at one frame a second, completed before automatic mode is selected. -/
theorem dark_frames_in_the_dark_completed : EachStep (stepInMode dark2Only)
    (fun s e _ => AddsFrame dark2Only s e.2 → InDark s.lastOBCState) (initial dark2Only plainStart)
    [(true, .onOBCControlCombo .dark), (true, .imageFrame emptyLine1 allWritten),
      (true, .imageFrame emptyLine1 allWritten), (true, .onOBCControlCombo .auto),
      (true, .imageFrame emptyLine1 allWritten)] :=
  dark_frames_in_the_dark dark2Only plainStart _ (by decide +kernel)

/-- As `dark2Only`, at ten frames a second. -/
def tenHz : Settings := { dark2Only with availableFrameRatesInHz := fun _ => 10 }

/-- The user selects the dark state and goes back to automatic mode at once: the second frame
is taken in the science state and added. -/
theorem science_frame_accumulated : ∃ t, run (stepInMode tenHz) (initial tenHz plainStart)
    [(true, .onOBCControlCombo .dark), (true, .onOBCControlCombo .auto),
      (true, .imageFrame emptyLine1 allWritten)] = some t ∧
      t.lastOBCState = .science ∧ AddsFrame tenHz t (.imageFrame emptyLine1 allWritten) :=
  ⟨_, rfl, by decide +kernel, by decide +kernel⟩

end Recorder
