import Mathlib.Algebra.Order.Ring.Rat
import Mathlib.Data.List.Basic

/-! The data of the recording state machine of `DisplayTab`: the settings it reads, its
members, and a history of what it did to the output files. Recordings are numbered by the
calls of `openFiles`. -/
namespace Recorder

/-- `RECORD_STATE_...` -/
inductive RecordState where
  | notRecording | dark1Cal | science | dark2Cal | mediumCal | brightCal | laserCal
  deriving DecidableEq

/-- The states that `appFrame::setOBC` commands. -/
inductive ObcState where
  | dark1 | science | dark2 | medium | bright | laser | idle
  deriving DecidableEq

/-- The entries of `obcControlOptions`. -/
inductive ObcMode where
  | auto | dark | idle | mid | high | laser
  deriving DecidableEq

/-- The entries of `mountControlOptions`. -/
inductive MountMode where
  | auto | idle | active
  deriving DecidableEq

/-- `NUM_FRAMERATES` -/
def numFrameRates : ℕ := 7

/-- The settings and start-up options that the recording code reads. -/
structure Settings where
  headless : Bool
  operationalMode : Bool
  obcInterface : Bool
  mountUsed : Bool
  fmsControl : Bool
  dark1CalPeriodInSecs : ℕ
  dark2CalPeriodInSecs : ℕ
  mediumCalPeriodInSecs : ℕ
  brightCalPeriodInSecs : ℕ
  laserCalPeriodInSecs : ℕ
  frameHeightLines : ℕ
  frameWidthSamples : ℕ
  availableFrameRatesInHz : ℕ → ℚ

/-- `(int)` of a floating-point value. -/
def toInt (q : ℚ) : ℤ := q.num.tdiv q.den

/-- The signals that the data thread queues for the main thread. -/
inductive Callback where
  | refreshRecordControls | refreshStopButton | pressRecordButton | pressStopButton
  deriving DecidableEq

/-- The flight-line files. `some n` is a file opened by call number `n` of `openFiles`. -/
structure OutputFiles where
  imageFP : Option ℕ
  imageHdrFP : Option ℕ
  gpsFP : Option ℕ
  ppsFP : Option ℕ
  deriving DecidableEq

namespace OutputFiles

def closed : OutputFiles := ⟨none, none, none, none⟩

def openedBy (n : ℕ) : OutputFiles := ⟨some n, some n, some n, some n⟩

def AllOpen (f : OutputFiles) : Prop :=
  f.imageFP.isSome ∧ f.imageHdrFP.isSome ∧ f.gpsFP.isSome ∧ f.ppsFP.isSome

instance (f : OutputFiles) : Decidable f.AllOpen := inferInstanceAs (Decidable (_ ∧ _))

theorem allOpen_openedBy (n : ℕ) : (openedBy n).AllOpen := by simp [openedBy, AllOpen]

theorem not_allOpen_closed : ¬closed.AllOpen := by simp [closed, AllOpen]

end OutputFiles

/-- `suppress...Errors`, the static variables that silence repeated messages. -/
structure Suppression where
  gps : Bool
  pps : Bool
  allgps : Bool
  allpps : Bool

/-- Which buttons the user can press, and whether the abort question is on the screen. -/
structure Controls where
  recordSensitive : Bool
  stopSensitive : Bool
  abortSensitive : Bool
  abortDialog : Bool

/-- The variables behind the automatic dark frame. -/
structure DarkFrame where
  framesUntilDark : ℤ
  darkFramesAccumulated : ℕ
  darkFrameAccumulation : ℕ → ℕ
  darkFrame : ℕ → ℕ
  darkFrameBuffered : Bool

/-- A frame appended to an image file: the recording, the state the recording was in, and
the number of the frame. -/
structure WrittenFrame where
  recording : ℕ
  state : RecordState
  frame : ℕ
  deriving DecidableEq

/-- What happened so far, in order: sets of files opened, headers written with their line
counts, frames appended, states entered, recordings ended (and whether as aborted), removed,
handed to `addRecording`, and in progress when an abort was confirmed. -/
structure History where
  opened : List ℕ
  headers : List (ℕ × ℕ)
  written : List WrittenFrame
  entered : List RecordState
  ended : List (ℕ × Bool)
  unlinked : List ℕ
  added : List ℕ
  abortConfirmed : List ℕ
  deriving DecidableEq

def History.empty : History := ⟨[], [], [], [], [], [], [], []⟩

/-- The members of `DisplayTab` and `appFrame` that the recording code works on.
`currentRecording` is the call of `openFiles` whose names `m_currentRecording` holds. -/
structure DisplayTab where
  recordState : RecordState
  wait : ℤ
  files : OutputFiles
  framesWritten : ℕ
  stopRequested : Bool
  stopIsAbort : Bool
  outOfSpace : Bool
  allgpsFP : Bool
  allppsFP : Bool
  suppress : Suppression
  mostRecentOBCMode : ObcMode
  lastOBCState : ObcState
  mostRecentMountMode : MountMode
  mountRequest : MountMode
  pxiRecord : Bool
  blockFrameRate : ℕ
  fbFrameRate : ℕ
  lineHigh : Bool
  lastResult : Bool
  controls : Controls
  callbacks : List Callback
  frameCount : ℕ
  dark : DarkFrame
  currentRecording : ℕ
  history : History

/-- The frame rate the frame buffer was last set to. -/
def DisplayTab.frameRateHz (cfg : Settings) (s : DisplayTab) : ℚ :=
  cfg.availableFrameRatesInHz s.fbFrameRate

namespace DarkFrame

/-- `OBC_SETTLING_TIME_SECS` -/
def settlingTimeSecs : ℚ := 1 / 5

/-- `DARK_ACCUM_TIME_SECS` -/
def accumTimeSecs : ℚ := 7 / 10

/-- Prepare to acquire dark frames once the OBC has settled. -/
def restart (d : DarkFrame) (rate : ℚ) : DarkFrame :=
  { d with
    framesUntilDark := toInt (rate * settlingTimeSecs)
    darkFrameAccumulation := fun _ => 0
    darkFramesAccumulated := 0 }

/-- The pixels behind line 1. -/
def inImage (cfg : Settings) (i : ℕ) : Bool :=
  decide (cfg.frameWidthSamples ≤ i) && decide (i < cfg.frameHeightLines * cfg.frameWidthSamples)

/-- The part of `lookForImageData` that updates the dark frame. -/
def update (cfg : Settings) (rate : ℚ) (image : ℕ → UInt16) (d : DarkFrame) : DarkFrame :=
  let d := if d.framesUntilDark > 0 then { d with framesUntilDark := d.framesUntilDark - 1 } else d
  if d.framesUntilDark = 0 then
    if (d.darkFramesAccumulated : ℚ) < rate * accumTimeSecs then
      { d with
        darkFrameAccumulation := fun i =>
          if inImage cfg i then (d.darkFrameAccumulation i + (image i).toNat) % 2 ^ 32
          else d.darkFrameAccumulation i
        darkFramesAccumulated := d.darkFramesAccumulated + 1 }
    else
      { d with
        darkFrame := fun i =>
          if inImage cfg i then
            (toInt (d.darkFrameAccumulation i / (rate * accumTimeSecs))).toNat % 2 ^ 16
          else d.darkFrame i
        framesUntilDark := -1
        darkFrameBuffered := true }
  else d

end DarkFrame

end Recorder
