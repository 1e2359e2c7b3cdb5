import Mathlib.Tactic.Linarith
import Ngdcs.Gps.Parser
import Ngdcs.Lib.Alarms

/-! The lights for the imager, for the PPS at the FPIE and at the FPGA, and for message 3, as
`lookForImageData` sets them, and what can be read off them. -/
namespace Display

open Alarms Gps

/-- The statics of `lookForImageData` and `processImageTimingData`, and the lights. -/
structure TimingLights where
  imageAcquisitionFailures : ℕ
  imagerCheckColor : Color
  lastTimeStamp : UInt16
  fpiePPSAcquisitionFailures : ℕ
  fpiePPSCheckColor : Color
  msg3AcquisitionFailures : ℕ
  msg3CheckColor : Color
  msg3Count : UInt32
  lastFPGAPPSCount : UInt32
  fpgaPPSFailures : ℕ
  fpgaPPSCheckColor : Color

/-- `TIMESTAMP_IMAGE_OFFSET / sizeof(short)` -/
def timestampImageWord : ℕ := 2

/-- `PPS_IMAGE_OFFSET / sizeof(short)` -/
def ppsImageWord : ℕ := 322

/-- A poll of the frame buffer: nothing is there, or a frame and the value of `fpgaPPSCount`. -/
inductive Poll where
  | noData
  | frame (image : ℕ → UInt16) (fpgaPPSCount : UInt32)

namespace TimingLights

variable (rate : ℚ) (t : TimingLights)

def initial : TimingLights where
  imageAcquisitionFailures := 0
  imagerCheckColor := .yellow
  lastTimeStamp := 0
  fpiePPSAcquisitionFailures := 0
  fpiePPSCheckColor := .yellow
  msg3AcquisitionFailures := 0
  msg3CheckColor := .yellow
  msg3Count := 0
  lastFPGAPPSCount := 0
  fpgaPPSFailures := 0
  fpgaPPSCheckColor := .yellow

/-- The branch of `lookForImageData` without data. -/
def noData : TimingLights :=
  let t := { t with imageAcquisitionFailures := t.imageAcquisitionFailures + 1 }
  if 40 < t.imageAcquisitionFailures then
    { t with
      imagerCheckColor := .red
      fpiePPSCheckColor := .yellow
      msg3CheckColor := .yellow }
  else t

/-- A failure more, and the light where there are more than in one and a half seconds. -/
def failure (failures : ℕ) (color : Color) : ℕ × Color :=
  (failures + 1, if 3 / 2 * rate < (failures + 1 : ℕ) then .red else color)

/-- `DisplayTab::processImageTimingData` -/
def processImageTimingData (image : ℕ → UInt16) (fpgaPPSCount : UInt32) : TimingLights :=
  let thisTimeStamp := image timestampImageWord
  let fpie :=
    if thisTimeStamp = 0 ∨ thisTimeStamp = t.lastTimeStamp then
      failure rate t.fpiePPSAcquisitionFailures t.fpiePPSCheckColor
    else (0, .green)
  let msg3 :=
    if image ppsImageWord = 0xDEAD then
      failure rate t.msg3AcquisitionFailures t.msg3CheckColor
    else (0, .green)
  let fpga :=
    if fpgaPPSCount = 0 ∨ fpgaPPSCount = t.lastFPGAPPSCount then
      failure rate t.fpgaPPSFailures t.fpgaPPSCheckColor
    else (0, .green)
  { t with
    lastTimeStamp := thisTimeStamp
    fpiePPSAcquisitionFailures := fpie.1
    fpiePPSCheckColor := fpie.2
    msg3AcquisitionFailures := msg3.1
    msg3CheckColor := msg3.2
    msg3Count := if image ppsImageWord = 0xDEAD then t.msg3Count else t.msg3Count + 1
    lastFPGAPPSCount := fpgaPPSCount
    fpgaPPSFailures := fpga.1
    fpgaPPSCheckColor := fpga.2 }

def step : Poll → TimingLights
  | .noData => t.noData
  | .frame image fpgaPPSCount =>
    { t with imageAcquisitionFailures := 0, imagerCheckColor := .green }.processImageTimingData rate
      image fpgaPPSCount

def after (polls : List Poll) : TimingLights := polls.foldl (step rate) initial

end TimingLights

/-! ### What the polls tell -/

/-- The number of polls without data at the end; the last poll is the first in the list. -/
def emptyPolls : List Poll → ℕ
  | .noData :: polls => emptyPolls polls + 1
  | _ => 0

/-- The frame of the latest poll that had one. -/
def latest : List Poll → Option ((ℕ → UInt16) × UInt32)
  | [] => none
  | .noData :: polls => latest polls
  | .frame image fpgaPPSCount :: _ => some (image, fpgaPPSCount)

/-- The time stamp that a new one should differ from. -/
def stampBefore (pre : List Poll) : UInt16 :=
  ((latest pre.reverse).map fun frame => frame.1 timestampImageWord).getD 0

def countBefore (pre : List Poll) : UInt32 := ((latest pre.reverse).map Prod.snd).getD 0

/-- Without data for more than 40 polls nothing is known. -/
def lossSignal (pre : List Poll) : Signal :=
  if 40 < emptyPolls pre.reverse + 1 then .lost else .idle

def fpiePPSSignal (pre : List Poll) : Poll → Signal
  | .noData => lossSignal pre
  | .frame image _ =>
    if image timestampImageWord = 0 ∨ image timestampImageWord = stampBefore pre then .bad
    else .good

def msg3Signal (pre : List Poll) : Poll → Signal
  | .noData => lossSignal pre
  | .frame image _ => if image ppsImageWord = 0xDEAD then .bad else .good

/-- The light for the PPS at the FPGA is not changed while there is no data. -/
def fpgaPPSSignal (pre : List Poll) : Poll → Signal
  | .noData => .idle
  | .frame _ fpgaPPSCount =>
    if fpgaPPSCount = 0 ∨ fpgaPPSCount = countBefore pre then .bad else .good

/-! ### The lights -/

/-- The verdict that a light stands for. -/
def verdict : Color → Verdict
  | .green => .healthy
  | .yellow => .unknown
  | .red => .failed

theorem verdict_injective : Function.Injective verdict := by
  intro c d h
  cases c <;> cases d <;> first | rfl | cases h

/-- What a light says about the signals. It is green where a good one has come, nothing was lost
since the last good one and no more than `limit` were bad; and red where more were bad and nothing
was lost since. -/
structure ColorShows (limit : ℚ) (signals : List Signal) (color : Color) : Prop where
  green : color = .green ↔ .good ∈ signals ∧ .lost ∉ Watch.recent signals ∧
    (Watch.recent signals).count .bad ≤ limit
  red : color = .red ↔ limit < (Watch.recent signals).count .bad ∧
    (Watch.recent signals).find? (· ≠ .idle) = some .bad

theorem colorShows_of_watch {limit : ℚ} (hlimit : 0 ≤ limit) {signals : List Signal} {color : Color}
    (h : verdict color = (Watch.after limit signals).verdict) : ColorShows limit signals color where
  green := by
    rw [← Watch.healthy_iff limit hlimit, ← h]
    exact verdict_injective.eq_iff.symm
  red := by
    rw [← Watch.failed_iff, ← h]
    exact verdict_injective.eq_iff.symm

namespace TimingLights

variable {rate : ℚ}

theorem after_snoc (polls : List Poll) (e : Poll) :
    after rate (polls ++ [e]) = (after rate polls).step rate e := List.foldl_concat ..

/-- What the statics hold. -/
theorem statics (polls : List Poll) :
    (after rate polls).imageAcquisitionFailures = emptyPolls polls.reverse ∧
    (after rate polls).lastTimeStamp = stampBefore polls ∧
    (after rate polls).lastFPGAPPSCount = countBefore polls := by
  induction polls using List.reverseRecOn with
  | nil => exact ⟨rfl, rfl, rfl⟩
  | append_singleton polls e ih =>
    obtain ⟨hempty, hstamp, hcount⟩ := ih
    rw [after_snoc]
    cases e with
    | noData =>
      have hlatest : latest (polls ++ [Poll.noData]).reverse = latest polls.reverse := by
        rw [List.reverse_append]
        rfl
      refine ⟨?_, ?_, ?_⟩
      · rw [List.reverse_append]
        simp only [step, noData]
        split_ifs <;> exact congrArg (· + 1) hempty
      · rw [stampBefore, hlatest, ← stampBefore, ← hstamp]
        simp only [step, noData]
        split_ifs <;> rfl
      · rw [countBefore, hlatest, ← countBefore, ← hcount]
        simp only [step, noData]
        split_ifs <;> rfl
    | frame image fpgaPPSCount =>
      have hlatest : latest (polls ++ [Poll.frame image fpgaPPSCount]).reverse =
          some (image, fpgaPPSCount) := by
        rw [List.reverse_append]
        rfl
      refine ⟨?_, ?_, ?_⟩
      · rw [List.reverse_append]
        rfl
      · rw [stampBefore, hlatest]
        rfl
      · rw [countBefore, hlatest]
        rfl

/-- One check of `processImageTimingData` is a step of a watch. -/
theorem failure_watch (bad : Prop) [Decidable bad] (failures : ℕ) (color : Color) :
    (⟨(if bad then failure rate failures color else (0, .green)).1,
      verdict (if bad then failure rate failures color else (0, .green)).2⟩ : Watch) =
    Watch.step (3 / 2 * rate) ⟨failures, verdict color⟩ (if bad then .bad else .good) := by
  by_cases hbad : bad
  · simp only [if_pos hbad, failure, Watch.step, Nat.cast_add, Nat.cast_one]
    split_ifs <;> rfl
  · simp only [if_neg hbad, Watch.step, verdict]

def fpiePPSWatch (t : TimingLights) : Watch :=
  ⟨t.fpiePPSAcquisitionFailures, verdict t.fpiePPSCheckColor⟩

def msg3Watch (t : TimingLights) : Watch := ⟨t.msg3AcquisitionFailures, verdict t.msg3CheckColor⟩

def fpgaPPSWatch (t : TimingLights) : Watch := ⟨t.fpgaPPSFailures, verdict t.fpgaPPSCheckColor⟩

theorem fpiePPSWatch_after (polls : List Poll) : (after rate polls).fpiePPSWatch =
    Watch.after (3 / 2 * rate) (Watch.signals fpiePPSSignal polls) := by
  refine Watch.view_foldl (3 / 2 * rate) fpiePPSWatch rfl (fun polls e => ?_) polls
  obtain ⟨hempty, hstamp, -⟩ := @statics rate polls
  rw [← after]
  cases e with
  | noData =>
    simp only [step, noData, fpiePPSSignal, lossSignal, ← hempty]
    split_ifs <;> rfl
  | frame image fpgaPPSCount =>
    rw [fpiePPSSignal, ← hstamp]
    exact failure_watch _ _ _

theorem msg3Watch_after (polls : List Poll) : (after rate polls).msg3Watch =
    Watch.after (3 / 2 * rate) (Watch.signals msg3Signal polls) := by
  refine Watch.view_foldl (3 / 2 * rate) msg3Watch rfl (fun polls e => ?_) polls
  obtain ⟨hempty, -, -⟩ := @statics rate polls
  rw [← after]
  cases e with
  | noData =>
    simp only [step, noData, msg3Signal, lossSignal, ← hempty]
    split_ifs <;> rfl
  | frame image fpgaPPSCount => exact failure_watch _ _ _

theorem fpgaPPSWatch_after (polls : List Poll) : (after rate polls).fpgaPPSWatch =
    Watch.after (3 / 2 * rate) (Watch.signals fpgaPPSSignal polls) := by
  refine Watch.view_foldl (3 / 2 * rate) fpgaPPSWatch rfl (fun polls e => ?_) polls
  obtain ⟨-, -, hcount⟩ := @statics rate polls
  rw [← after]
  cases e with
  | noData =>
    simp only [step, noData, fpgaPPSSignal]
    split_ifs <;> rfl
  | frame image fpgaPPSCount =>
    rw [fpgaPPSSignal, ← hcount]
    exact failure_watch _ _ _

/-- The light for the imager: red after more than 40 polls without data, green after fewer behind
a frame. -/
theorem imager_after (polls : List Poll) :
    ((after rate polls).imagerCheckColor = .red ↔ 40 < emptyPolls polls.reverse) ∧
    ((after rate polls).imagerCheckColor = .green ↔
      emptyPolls polls.reverse ≤ 40 ∧ (latest polls.reverse).isSome) := by
  induction polls using List.reverseRecOn with
  | nil => simp [after, initial, emptyPolls, latest]
  | append_singleton polls e ih =>
    obtain ⟨hempty, -, -⟩ := @statics rate polls
    rw [after_snoc, List.reverse_append]
    cases e with
    | noData =>
      simp only [step, noData, hempty, List.reverse_singleton, List.singleton_append, emptyPolls,
        latest]
      by_cases hlost : 40 < emptyPolls polls.reverse + 1
      · rw [if_pos hlost]
        simp [hlost, Nat.not_le.mpr hlost]
      · rw [if_neg hlost]
        refine ⟨?_, ?_⟩
        · rw [ih.1]
          omega
        · rw [ih.2]
          refine and_congr_left fun _ => ?_
          omega
    | frame image fpgaPPSCount =>
      simp [step, processImageTimingData, emptyPolls, latest]

end TimingLights

/-- What the lights say about the polls. -/
structure LightsShow (rate : ℚ) (polls : List Poll) (t : TimingLights) : Prop where
  imagerRed : t.imagerCheckColor = .red ↔ 40 < emptyPolls polls.reverse
  imagerGreen : t.imagerCheckColor = .green ↔
    emptyPolls polls.reverse ≤ 40 ∧ (latest polls.reverse).isSome
  fpiePPS : ColorShows (3 / 2 * rate) (Watch.signals fpiePPSSignal polls) t.fpiePPSCheckColor
  msg3 : ColorShows (3 / 2 * rate) (Watch.signals msg3Signal polls) t.msg3CheckColor
  fpgaPPS : ColorShows (3 / 2 * rate) (Watch.signals fpgaPPSSignal polls) t.fpgaPPSCheckColor

namespace TimingLights

/-- After any polls, each light is green or red exactly when the polls say so. -/
theorem lights_show {rate : ℚ} (hrate : 0 ≤ rate) (polls : List Poll) :
    LightsShow rate polls (after rate polls) := by
  have hlimit : 0 ≤ 3 / 2 * rate := by linarith
  exact {
    imagerRed := (imager_after polls).1
    imagerGreen := (imager_after polls).2
    fpiePPS := colorShows_of_watch hlimit (congrArg Watch.verdict (fpiePPSWatch_after polls))
    msg3 := colorShows_of_watch hlimit (congrArg Watch.verdict (msg3Watch_after polls))
    fpgaPPS := colorShows_of_watch hlimit (congrArg Watch.verdict (fpgaPPSWatch_after polls)) }

/-- Two frames with the same time stamp, and a poll without data. -/
def examplePolls : List Poll :=
  [.frame (fun i => if i = timestampImageWord then 7 else 0) 1,
    .frame (fun i => if i = timestampImageWord then 7 else 0) 2, .noData]

theorem lights_show_example : LightsShow 10 examplePolls (after 10 examplePolls) :=
  lights_show (by decide) examplePolls

end TimingLights

end Display
