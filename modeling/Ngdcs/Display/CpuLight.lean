import Ngdcs.Gps.Parser
import Ngdcs.Lib.Alarms

/-! The light for the CPU, as `checkForMoreImageData` sets it: when it is red, how long it stays
so, and which dropped frames are logged. -/
namespace Display

open Alarms Gps

/-- What a call of `checkForMoreImageData` finds. -/
structure DataCheck where
  consecutiveFrames : ℕ
  simulating : Bool
  recording : Bool
  frameIsAvailable : Bool
  framesDropped : ℕ
  frameBacklog : ℕ
  framesExpected : ℤ
  framesWritten : ℤ

/-- The statics of `checkForMoreImageData`, the members that it sets, and the drops that it
logs. -/
structure CpuLight where
  hadCpuError : ℤ
  nominalDrops : ℕ
  cpuCheckColor : Color
  maxFrameBacklog : ℕ
  logged : List ℕ

namespace CpuLight

variable (maxConsecutiveFrames : ℕ) (s : CpuLight) (c : DataCheck)

def initial : CpuLight := ⟨-1, 0, .yellow, 0, []⟩

/-- The light with the number that stands for its color. -/
def light (color : Color) (hadCpuError : ℤ) : CpuLight :=
  { s with cpuCheckColor := color, hadCpuError := hadCpuError }

/-- The branch for frames that were dropped. -/
def dropped : CpuLight :=
  let s :=
    if s.hadCpuError < 2 then
      let s := s.light .red 2
      if c.recording then { s with logged := s.logged ++ [c.framesDropped] } else s
    else s
  { s with nominalDrops := c.framesDropped }

/-- The part of `checkForMoreImageData` for the frame buffer. -/
def acquiring : CpuLight :=
  let s := { s with maxFrameBacklog := max s.maxFrameBacklog c.frameBacklog }
  if s.nominalDrops < c.framesDropped then s.dropped c
  else if 3 < c.frameBacklog then
    if s.hadCpuError < 1 then s.light .yellow 1
    else if s.hadCpuError = 2 ∧ c.recording = false then s.light .yellow 1
    else s
  else if s.hadCpuError = -1 ∨ s.hadCpuError = 1 ∨ s.hadCpuError = 2 ∧ c.recording = false then
    s.light .green 0
  else s

def unlessGreen : CpuLight := if s.hadCpuError ≠ 0 then s.light .green 0 else s

/-- The part of `checkForMoreImageData` for simulated images. -/
def simulating : CpuLight :=
  if maxConsecutiveFrames ≤ c.consecutiveFrames then
    if s.hadCpuError < 1 then s.light .yellow 1 else s
  else if c.recording = false then s.unlessGreen
  else if c.framesExpected ≤ c.framesWritten then s.unlessGreen
  else if c.framesExpected - c.framesWritten < 200 then s.unlessGreen
  else if s.hadCpuError ≠ 2 then s.light .red 2
  else s

/-- What `checkForMoreImageData` returns. -/
def dataAvailable : Bool :=
  if maxConsecutiveFrames ≤ c.consecutiveFrames then false
  else if c.simulating then
    c.recording && decide (c.framesWritten < c.framesExpected) &&
      decide (c.framesExpected - c.framesWritten < 200)
  else c.frameIsAvailable

/-- `DisplayTab::checkForMoreImageData` -/
def checkForMoreImageData : Bool × CpuLight :=
  (dataAvailable maxConsecutiveFrames c,
    if c.simulating then s.simulating maxConsecutiveFrames c else s.acquiring c)

def after (checks : List DataCheck) : CpuLight :=
  checks.foldl (fun s c => (s.checkForMoreImageData maxConsecutiveFrames c).2) initial

end CpuLight

/-! ### What the light says -/

/-- The largest number of dropped frames that the frame buffer has reported. -/
def dropsReported (checks : List DataCheck) : ℕ :=
  checks.foldl (fun drops c => if c.simulating then drops else max drops c.framesDropped) 0

/-- A reason for the red light: frames have been dropped, or a simulated recording lags by 200
frames. -/
def Raises (maxConsecutiveFrames : ℕ) (checks : List DataCheck) (c : DataCheck) : Prop :=
  if c.simulating then
    c.consecutiveFrames < maxConsecutiveFrames ∧ c.recording = true ∧
      200 ≤ c.framesExpected - c.framesWritten
  else dropsReported checks < c.framesDropped

/-- The light stays red during a recording, and while simulated frames take too long. -/
def Holds (maxConsecutiveFrames : ℕ) (c : DataCheck) : Prop :=
  if c.simulating then maxConsecutiveFrames ≤ c.consecutiveFrames else c.recording = true

/-- Frames pile up. -/
def Busy (maxConsecutiveFrames : ℕ) (c : DataCheck) : Prop :=
  if c.simulating then maxConsecutiveFrames ≤ c.consecutiveFrames else 3 < c.frameBacklog

/-- There was a reason for the red light, and it has been held since then. -/
def Alarmed (maxConsecutiveFrames : ℕ) (checks : List DataCheck) : Prop :=
  ∃ pre c suf, checks = pre ++ c :: suf ∧ Raises maxConsecutiveFrames pre c ∧
    ∀ r ∈ suf, Holds maxConsecutiveFrames r

namespace CpuLight

variable {maxConsecutiveFrames : ℕ}

/-- The number stands for the color that is shown. -/
def Agrees (s : CpuLight) : Prop :=
  s.hadCpuError = -1 ∧ s.cpuCheckColor = .yellow ∨ s.hadCpuError = 0 ∧ s.cpuCheckColor = .green ∨
    s.hadCpuError = 1 ∧ s.cpuCheckColor = .yellow ∨ s.hadCpuError = 2 ∧ s.cpuCheckColor = .red

/-- What a check does to the light, where `raised` and `held` say whether there is a reason for
red. -/
structure Shown (s t : CpuLight) (raised held busy : Prop) : Prop where
  agrees : t.Agrees
  red : t.cpuCheckColor = .red ↔ raised ∨ held ∧ s.cpuCheckColor = .red
  yellow : t.cpuCheckColor = .yellow ↔ t.cpuCheckColor ≠ .red ∧ busy

theorem acquiring_shown {s : CpuLight} (hs : s.Agrees) (c : DataCheck) :
    Shown s (s.acquiring c) (s.nominalDrops < c.framesDropped) (c.recording = true)
      (3 < c.frameBacklog) := by
  rcases hs with ⟨hnumber, hcolor⟩ | ⟨hnumber, hcolor⟩ | ⟨hnumber, hcolor⟩ | ⟨hnumber, hcolor⟩ <;>
  · constructor <;> grind [acquiring, dropped, light, Agrees]

theorem simulating_shown {s : CpuLight} (hs : s.Agrees) (c : DataCheck) :
    Shown s (s.simulating maxConsecutiveFrames c)
      (c.consecutiveFrames < maxConsecutiveFrames ∧ c.recording = true ∧
        200 ≤ c.framesExpected - c.framesWritten)
      (maxConsecutiveFrames ≤ c.consecutiveFrames)
      (maxConsecutiveFrames ≤ c.consecutiveFrames) := by
  rcases hs with ⟨hnumber, hcolor⟩ | ⟨hnumber, hcolor⟩ | ⟨hnumber, hcolor⟩ | ⟨hnumber, hcolor⟩ <;>
  · constructor <;> grind [simulating, unlessGreen, light, Agrees]

/-- What the rest of the state keeps. -/
theorem acquiring_rest (s : CpuLight) (c : DataCheck) :
    (s.acquiring c).nominalDrops = max s.nominalDrops c.framesDropped ∧
    (s.acquiring c).maxFrameBacklog = max s.maxFrameBacklog c.frameBacklog := by
  constructor <;> grind [acquiring, dropped, light]

theorem simulating_rest (s : CpuLight) (c : DataCheck) :
    (s.simulating maxConsecutiveFrames c).nominalDrops = s.nominalDrops ∧
    (s.simulating maxConsecutiveFrames c).maxFrameBacklog = s.maxFrameBacklog ∧
    (s.simulating maxConsecutiveFrames c).logged = s.logged := by
  refine ⟨?_, ?_, ?_⟩ <;> grind [simulating, unlessGreen, light]

/-- Drops are logged when they turn the light red during a recording. -/
theorem acquiring_logged {s : CpuLight} (hs : s.Agrees) (c : DataCheck) :
    (s.acquiring c).logged = s.logged ++
      if s.nominalDrops < c.framesDropped ∧ c.recording ∧ s.cpuCheckColor ≠ .red then
        [c.framesDropped]
      else [] := by
  rcases hs with ⟨hnumber, hcolor⟩ | ⟨hnumber, hcolor⟩ | ⟨hnumber, hcolor⟩ | ⟨hnumber, hcolor⟩ <;>
  · grind [acquiring, dropped, light]

/-! ### Runs -/

theorem after_snoc (checks : List DataCheck) (c : DataCheck) :
    after maxConsecutiveFrames (checks ++ [c]) =
      ((after maxConsecutiveFrames checks).checkForMoreImageData maxConsecutiveFrames c).2 :=
  List.foldl_concat ..

theorem dropsReported_snoc (checks : List DataCheck) (c : DataCheck) :
    dropsReported (checks ++ [c]) =
      if c.simulating then dropsReported checks else max (dropsReported checks) c.framesDropped :=
  List.foldl_concat ..

/-- The statics along a run. -/
theorem statics (checks : List DataCheck) : (after maxConsecutiveFrames checks).Agrees ∧
    (after maxConsecutiveFrames checks).nominalDrops = dropsReported checks := by
  induction checks using List.reverseRecOn with
  | nil => exact ⟨Or.inl ⟨rfl, rfl⟩, rfl⟩
  | append_singleton checks c ih =>
    obtain ⟨hagrees, hdrops⟩ := ih
    rw [after_snoc, dropsReported_snoc]
    simp only [checkForMoreImageData]
    split_ifs with hsim
    · exact ⟨(simulating_shown hagrees c).agrees, (simulating_rest _ c).1.trans hdrops⟩
    · exact ⟨(acquiring_shown hagrees c).agrees, hdrops ▸ (acquiring_rest _ c).1⟩

theorem shown_snoc (checks : List DataCheck) (c : DataCheck) :
    Shown (after maxConsecutiveFrames checks) (after maxConsecutiveFrames (checks ++ [c]))
      (Raises maxConsecutiveFrames checks c) (Holds maxConsecutiveFrames c)
      (Busy maxConsecutiveFrames c) := by
  obtain ⟨hagrees, hdrops⟩ := @statics maxConsecutiveFrames checks
  rw [after_snoc, Raises, Holds, Busy]
  simp only [checkForMoreImageData]
  split_ifs with hsim
  · exact simulating_shown hagrees c
  · exact hdrops ▸ acquiring_shown hagrees c

theorem red_iff_alarmed (checks : List DataCheck) :
    (after maxConsecutiveFrames checks).cpuCheckColor = .red ↔
      Alarmed maxConsecutiveFrames checks :=
  @latch_iff _ (fun checks => (after maxConsecutiveFrames checks).cpuCheckColor = .red) _ _ nofun
    (fun checks c => (shown_snoc checks c).red) checks

/-- After every check, real or simulated, the light is red as long as a reason for it has been
held; otherwise it shows whether frames pile up. Drops are logged just when they turn the light
red during a recording. -/
theorem light_after (checks : List DataCheck) (c : DataCheck) :
    ((after maxConsecutiveFrames (checks ++ [c])).cpuCheckColor = .red ↔
      Alarmed maxConsecutiveFrames (checks ++ [c])) ∧
    ((after maxConsecutiveFrames (checks ++ [c])).cpuCheckColor = .yellow ↔
      ¬Alarmed maxConsecutiveFrames (checks ++ [c]) ∧ Busy maxConsecutiveFrames c) ∧
    (after maxConsecutiveFrames (checks ++ [c])).logged =
      (after maxConsecutiveFrames checks).logged ++
        if c.simulating = false ∧ dropsReported checks < c.framesDropped ∧ c.recording = true ∧
          (after maxConsecutiveFrames checks).cpuCheckColor ≠ .red then [c.framesDropped]
        else [] := by
  have hred := @red_iff_alarmed maxConsecutiveFrames (checks ++ [c])
  refine ⟨hred, ?_, ?_⟩
  · rw [(shown_snoc checks c).yellow, Ne, hred]
  · obtain ⟨hagrees, hdrops⟩ := @statics maxConsecutiveFrames checks
    rw [after_snoc]
    simp only [checkForMoreImageData]
    cases hsim : c.simulating with
    | true =>
      rw [if_pos rfl, if_neg (fun h => nomatch h.1), List.append_nil]
      exact (simulating_rest _ c).2.2
    | false =>
      rw [if_neg (by decide), acquiring_logged hagrees c, hdrops]
      simp

end CpuLight

end Display
