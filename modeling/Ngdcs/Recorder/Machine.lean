import Ngdcs.Recorder.State

/-! The recording code of `DisplayTab`. Every function is the one of the same name in the
source; `step` runs one of them for each thing that can happen. -/
namespace Recorder

namespace DisplayTab

variable (cfg : Settings) (s : DisplayTab)

def setOBC (newState : ObcState) : DisplayTab := { s with lastOBCState := newState }

def setMount (newState : MountMode) : DisplayTab := { s with mountRequest := newState }

/-- Emission of a `Glib::Dispatcher`: the main thread will run the callback later. -/
def dispatch (c : Callback) : DisplayTab := { s with callbacks := s.callbacks ++ [c] }

/-- `if (!appFrame::headless)` in front of an emission. -/
def dispatchInWindow (c : Callback) : DisplayTab :=
  { s with callbacks := if cfg.headless then s.callbacks else s.callbacks ++ [c] }

/-- The test in front of most OBC changes: there is an OBC and it follows the recording. -/
def obcFollows : Bool := cfg.obcInterface && decide (s.mostRecentOBCMode = .auto)

def setOBCIfFollowing (newState : ObcState) : DisplayTab :=
  { s with lastOBCState := if s.obcFollows cfg then newState else s.lastOBCState }

def setMountIfFollowing (newState : MountMode) : DisplayTab :=
  { s with mountRequest :=
      if cfg.mountUsed ∧ s.mostRecentMountMode = .auto then newState else s.mountRequest }

/-! ### Files -/

/-- How a call of `openFiles` ends: by success or at one of the four calls of `fopen`. -/
inductive OpenResult where
  | ok | imageFails | headerFails | gpsFails | ppsFails
  deriving DecidableEq

def openFiles (r : OpenResult) : DisplayTab :=
  let n := s.currentRecording + 1
  let s := { s with currentRecording := n }
  match r with
  | .ok =>
    { s with
      files := .openedBy n
      history := { s.history with opened := s.history.opened ++ [n] } }
  | .imageFails => { s with files := { s.files with imageFP := none } }
  | .headerFails => { s with files := { s.files with imageFP := none, imageHdrFP := none } }
  | .gpsFails =>
    { s with files := { s.files with imageFP := none, imageHdrFP := none, gpsFP := none } }
  | .ppsFails => { s with files := .closed }

/-- Closes what is open, after writing the header with its `lines` value. -/
def closeFiles : DisplayTab :=
  { s with
    files := .closed
    history := { s.history with
      headers := s.history.headers ++ s.files.imageHdrFP.toList.map (·, s.framesWritten) } }

/-! ### States -/

def leaveIdleState : DisplayTab :=
  { s with
    controls := { s.controls with
      recordSensitive := if cfg.headless then s.controls.recordSensitive else false }
    stopRequested := false
    stopIsAbort := false
    pxiRecord := true }

def enterState (st : RecordState) : DisplayTab :=
  { s with
    recordState := st
    history := { s.history with entered := s.history.entered ++ [st] } }

/-- `(int)(period * getFrameRateHz() + 0.5)` -/
def calFrames (period : ℕ) : ℤ := toInt (period * s.frameRateHz cfg + 1 / 2)

/-- The common part of the ending calibration states. -/
def enterCalState (period : ℕ) (st : RecordState) (obc : ObcState) : DisplayTab :=
  let s := { s with wait := s.calFrames cfg period }
  (s.enterState st).setOBCIfFollowing cfg obc

def restartDark : DisplayTab := { s with dark := s.dark.restart (s.frameRateHz cfg) }

/-- Commands the OBC without asking whether it follows the recording. -/
def enterDark1CalState : DisplayTab :=
  let s := { s with wait := s.calFrames cfg cfg.dark1CalPeriodInSecs }
  let s := s.enterState .dark1Cal
  (s.setOBC .dark1).restartDark cfg

def enterScienceState : DisplayTab :=
  let s := s.enterState .science
  let s := s.setOBCIfFollowing cfg .science
  s.dispatchInWindow cfg .refreshStopButton

def enterDark2CalState : DisplayTab :=
  (s.enterCalState cfg cfg.dark2CalPeriodInSecs .dark2Cal .dark2).restartDark cfg

def enterMediumCalState : DisplayTab :=
  s.enterCalState cfg cfg.mediumCalPeriodInSecs .mediumCal .medium

def enterBrightCalState : DisplayTab :=
  s.enterCalState cfg cfg.brightCalPeriodInSecs .brightCal .bright

def enterLaserCalState : DisplayTab :=
  s.enterCalState cfg cfg.laserCalPeriodInSecs .laserCal .laser

def enterIdleState : DisplayTab :=
  let wasRecording := decide (s.recordState ≠ .notRecording)
  let s := { s with pxiRecord := false }
  let s := s.closeFiles
  let s := { s with history := { s.history with
    unlinked :=
      if s.stopIsAbort then s.history.unlinked ++ [s.currentRecording] else s.history.unlinked
    ended :=
      if wasRecording then s.history.ended ++ [(s.currentRecording, s.stopIsAbort)]
      else s.history.ended } }
  let s := s.enterState .notRecording
  let s := s.setOBCIfFollowing cfg .science
  let s := s.setMountIfFollowing cfg .idle
  s.dispatchInWindow cfg .refreshRecordControls

/-! ### Buttons -/

/-- What the user answers to the questions of test mode, and what the storage check says if
the frame rate has to be changed. -/
structure RecordReplies where
  recordWithOBC : Bool
  recordWithMount : Bool
  recordAtRate : Bool
  outOfSpace : Option Bool

def updateResourcesDisplay (out : Option Bool) : DisplayTab :=
  { s with outOfSpace := out.getD s.outOfSpace }

/-- OBC in auto, unless in test mode; `none` where the user cancels. -/
def checkOBC (yes : Bool) : Option DisplayTab :=
  if cfg.obcInterface = false ∨ s.mostRecentOBCMode = .auto then some s
  else if cfg.headless ∨ cfg.operationalMode then some { s with mostRecentOBCMode := .auto }
  else if yes then some s else none

def checkMount (yes : Bool) : Option DisplayTab :=
  if cfg.mountUsed = false ∨ s.mostRecentMountMode = .auto then some s
  else if cfg.headless ∨ cfg.operationalMode then some { s with mostRecentMountMode := .auto }
  else if yes then some s else none

/-- The frame rate is reset to index 0 when headless, to the last index otherwise. -/
def checkFrameRate (yes : Bool) (out : Option Bool) : Option DisplayTab :=
  if s.blockFrameRate = numFrameRates - 1 then some s
  else if cfg.headless then
    let s := { s with blockFrameRate := 0 }
    let s := s.updateResourcesDisplay out
    some { s with fbFrameRate := 0 }
  else if cfg.operationalMode then
    let s := { s with blockFrameRate := numFrameRates - 1 }
    let s := s.updateResourcesDisplay out
    some { s with fbFrameRate := numFrameRates - 1 }
  else if yes then some s else none

/-- The part of `recordButtonWork` in front of `openFiles`. -/
def prepareRecording (a : RecordReplies) : Option DisplayTab :=
  (s.checkOBC cfg a.recordWithOBC).bind fun s =>
    (s.checkMount cfg a.recordWithMount).bind fun s =>
      s.checkFrameRate cfg a.recordAtRate a.outOfSpace

def leaveIdleForRecording : DisplayTab :=
  let s := s.leaveIdleState cfg
  let s := { s with framesWritten := 0 }
  let s := { s with controls := { s.controls with
    abortSensitive := if cfg.headless then s.controls.abortSensitive else true } }
  s.setMountIfFollowing cfg .active

/-- The part of `recordButtonWork` behind a successful `openFiles`. -/
def startRecording : DisplayTab :=
  let s := s.leaveIdleForRecording cfg
  if cfg.dark1CalPeriodInSecs = 0 ∨ s.mostRecentOBCMode ≠ .auto ∨ cfg.obcInterface = false then
    s.enterScienceState cfg
  else s.enterDark1CalState cfg

def recordButtonWork (r : OpenResult) (a : RecordReplies) : DisplayTab :=
  match s.prepareRecording cfg a with
  | none => s
  | some s => if r = .ok then (s.openFiles r).startRecording cfg else s.openFiles r

def stopButtonWork : DisplayTab :=
  { s with
    controls := { s.controls with
      stopSensitive := if cfg.headless then s.controls.stopSensitive else false }
    stopRequested := true
    stopIsAbort := false }

def onStopButton : DisplayTab := if s.controls.stopSensitive then s.stopButtonWork cfg else s

def handleFMSStop : DisplayTab := if s.controls.stopSensitive then s.stopButtonWork cfg else s

/-- Up to the question whether to abort. -/
def onAbortButton : DisplayTab :=
  if s.controls.abortSensitive then { s with controls := { s.controls with abortDialog := true } }
  else s

/-- `m_stopRequested = 1; m_stopIsAbort = 1;` -/
def requestAbort : DisplayTab :=
  { s with
    stopRequested := true
    stopIsAbort := true
    history := { s.history with
      abortConfirmed :=
        if s.recordState ≠ .notRecording then s.history.abortConfirmed ++ [s.currentRecording]
        else s.history.abortConfirmed } }

/-- The rest of `abortButtonWork`, once the user has answered. -/
def abortAnswered (yes : Bool) : DisplayTab :=
  let s := { s with controls := { s.controls with abortDialog := false } }
  if yes then
    ({ s with controls := { s.controls with
      stopSensitive := false, abortSensitive := false } }).requestAbort
  else s

def recordControlsUpdateWork : DisplayTab :=
  { s with
    controls := { s.controls with
      stopSensitive := false
      abortSensitive := false
      recordSensitive := if cfg.fmsControl then s.controls.recordSensitive else true }
    history := { s.history with
      added := if s.stopIsAbort then s.history.added
        else s.history.added ++ [s.currentRecording] } }

def stopButtonUpdateWork : DisplayTab :=
  { s with controls := { s.controls with stopSensitive := true } }

/-! ### Writing -/

/-- The words that `writeDataFromLine1` writes from its area of line 1, if it writes any. -/
def line1Words (image : ℕ → UInt16) (imageOffset maxByteCount : ℕ) : Option (List UInt16) :=
  let usp := imageOffset / 2
  let wordCount := (image (usp + 1)).toNat
  if image usp = 0xDEAD then none
  else if wordCount ≤ maxByteCount / 2 then
    some ((List.range wordCount).map fun i => image (usp + 2 + i))
  else none

/-- The result -1 as `true`, and the suppression flag. `accepted` bounds what `fwrite` takes. -/
def writeDataFromLine1 (fp : Bool) (image : ℕ → UInt16) (imageOffset maxByteCount : ℕ)
    (suppression : Bool) (accepted : ℕ) : Bool × Bool :=
  if fp then
    match line1Words image imageOffset maxByteCount with
    | none => (false, suppression)
    | some words =>
      if min accepted words.length ≠ words.length then
        if suppression then (false, suppression) else (true, true)
      else (false, suppression)
  else (false, suppression)

/-- `GPS_IMAGE_OFFSET`, `MAX_GPSDATA_BYTES`, `PPS_IMAGE_OFFSET` and `MAX_PPSDATA_BYTES` -/
def gpsImageOffset : ℕ := 680
def maxGPSDataBytes : ℕ := 600
def ppsImageOffset : ℕ := 644
def maxPPSDataBytes : ℕ := 40

/-- How much `fwrite` takes of what it is given for each file: words, for the image lines. -/
structure WriteOutcome where
  gps : ℕ
  pps : ℕ
  image : ℕ
  allgps : ℕ
  allpps : ℕ

def writeFlightlineGPSData (image : ℕ → UInt16) (w : WriteOutcome) : Bool × DisplayTab :=
  let r := writeDataFromLine1 s.files.gpsFP.isSome image gpsImageOffset maxGPSDataBytes
    s.suppress.gps w.gps
  (r.1, { s with suppress := { s.suppress with gps := r.2 } })

def writePPSData (image : ℕ → UInt16) (w : WriteOutcome) : Bool × DisplayTab :=
  let r := writeDataFromLine1 s.files.ppsFP.isSome image ppsImageOffset maxPPSDataBytes
    s.suppress.pps w.pps
  (r.1, { s with suppress := { s.suppress with pps := r.2 } })

def writeAllgpsData (image : ℕ → UInt16) (w : WriteOutcome) : DisplayTab :=
  let r := writeDataFromLine1 s.allgpsFP image gpsImageOffset maxGPSDataBytes
    s.suppress.allgps w.allgps
  { s with suppress := { s.suppress with allgps := r.2 } }

def writeAllppsData (image : ℕ → UInt16) (w : WriteOutcome) : DisplayTab :=
  let r := writeDataFromLine1 s.allppsFP image ppsImageOffset maxPPSDataBytes
    s.suppress.allpps w.allpps
  { s with suppress := { s.suppress with allpps := r.2 } }

/-- `none` where `fwrite` is given a null `m_imageFP`. -/
def writeImageFrame (w : WriteOutcome) : Option (Bool × DisplayTab) :=
  s.files.imageFP.map fun n =>
    if min w.image cfg.frameHeightLines ≠ cfg.frameHeightLines then (true, s)
    else (false, { s with
      framesWritten := s.framesWritten + 1
      history := { s.history with
        written := s.history.written ++ [⟨n, s.recordState, s.frameCount⟩] } })

/-! ### The data thread -/

/-- The stop ladder of the branch without data. -/
def stopWithoutData : DisplayTab :=
  if s.mostRecentOBCMode ≠ .auto ∨ s.stopIsAbort = true ∨ cfg.obcInterface = false then
    s.enterIdleState cfg
  else if cfg.dark2CalPeriodInSecs > 0 then s.enterDark2CalState cfg
  else if cfg.mediumCalPeriodInSecs > 0 then s.enterMediumCalState cfg
  else if cfg.brightCalPeriodInSecs > 0 then s.enterBrightCalState cfg
  else if cfg.laserCalPeriodInSecs > 0 then s.enterLaserCalState cfg
  else s.enterIdleState cfg

/-- `lookForImageData` without data. -/
def noImageData : DisplayTab :=
  if s.stopRequested then ({ s with stopRequested := false }).stopWithoutData cfg else s

/-- The stop ladder of the science state. -/
def stopScience : DisplayTab :=
  if s.mostRecentOBCMode ≠ .auto ∨ cfg.obcInterface = false then s.enterIdleState cfg
  else if cfg.dark2CalPeriodInSecs > 0 then s.enterDark2CalState cfg
  else if cfg.mediumCalPeriodInSecs > 0 then s.enterMediumCalState cfg
  else if cfg.brightCalPeriodInSecs > 0 then s.enterBrightCalState cfg
  else if cfg.laserCalPeriodInSecs > 0 then s.enterLaserCalState cfg
  else s.enterIdleState cfg

def afterDark2 : DisplayTab :=
  if cfg.mediumCalPeriodInSecs > 0 then s.enterMediumCalState cfg
  else if cfg.brightCalPeriodInSecs > 0 then s.enterBrightCalState cfg
  else if cfg.laserCalPeriodInSecs > 0 then s.enterLaserCalState cfg
  else s.enterIdleState cfg

def afterMedium : DisplayTab :=
  if cfg.brightCalPeriodInSecs > 0 then s.enterBrightCalState cfg
  else if cfg.laserCalPeriodInSecs > 0 then s.enterLaserCalState cfg
  else s.enterIdleState cfg

def afterBright : DisplayTab :=
  if cfg.laserCalPeriodInSecs > 0 then s.enterLaserCalState cfg else s.enterIdleState cfg

/-- `if (--m_wait == 0)`, with what follows it. -/
def countDown (next : DisplayTab → DisplayTab) : DisplayTab :=
  let s := { s with wait := s.wait - 1 }
  if s.wait = 0 then next s else s

/-- `switch (m_recordState)`, behind the writes of a frame. -/
def advance : DisplayTab :=
  match s.recordState with
  | .dark1Cal => s.countDown (enterScienceState cfg)
  | .science =>
    if s.stopRequested then ({ s with stopRequested := false }).stopScience cfg else s
  | .dark2Cal => s.countDown (afterDark2 cfg)
  | .mediumCal => s.countDown (afterMedium cfg)
  | .brightCal => s.countDown (afterBright cfg)
  | .laserCal => s.countDown (enterIdleState cfg)
  | .notRecording => s

/-- The three writes of a frame in their order, each made only if those before it worked. -/
def writeFrame (image : ℕ → UInt16) (w : WriteOutcome) : Option (Bool × DisplayTab) :=
  match s.writeFlightlineGPSData image w with
  | (true, s) => some (true, s)
  | (false, s) =>
    match s.writePPSData image w with
    | (true, s) => some (true, s)
    | (false, s) => s.writeImageFrame cfg w

/-- What a frame does while recording. -/
def recordFrame (image : ℕ → UInt16) (w : WriteOutcome) : Option DisplayTab :=
  (s.writeFrame cfg image w).map fun
    | (true, s) => { s.enterIdleState cfg with outOfSpace := true }
    | (false, s) =>
      if s.stopRequested && s.stopIsAbort then
        ({ s with stopRequested := false }).enterIdleState cfg
      else s.advance cfg

/-- What a frame is used for apart from recording. -/
def noteFrame (image : ℕ → UInt16) : DisplayTab :=
  let s := { s with frameCount := s.frameCount + 1 }
  { s with dark := s.dark.update cfg (s.frameRateHz cfg) image }

def writeEndToEndData (image : ℕ → UInt16) (w : WriteOutcome) : DisplayTab :=
  (s.writeAllgpsData image w).writeAllppsData image w

/-- `lookForImageData` for one frame. `none` where the program crashes. -/
def imageFrame (image : ℕ → UInt16) (w : WriteOutcome) : Option DisplayTab :=
  let s := s.noteFrame cfg image
  if s.outOfSpace then
    some (if s.recordState ≠ .notRecording then s.enterIdleState cfg else s)
  else if s.recordState = .notRecording then some (s.writeEndToEndData image w)
  else (s.writeEndToEndData image w).recordFrame cfg image w

/-- `testDigitalLineTransition`. The line is read once or twice. -/
def testDigitalLineTransition (first second : Bool) : DisplayTab :=
  if first && !s.lineHigh then
    let s := { s with lastResult := first }
    match s.recordState with
    | .notRecording => ({ s with lineHigh := true }).dispatch .pressRecordButton
    | .dark1Cal | .science => { s with lineHigh := true }
    | .dark2Cal | .mediumCal | .brightCal | .laserCal => s
  else
    let s := { s with lastResult := second }
    if !second && s.lineHigh then
      match s.recordState with
      | .notRecording => { s with lineHigh := false }
      | .dark1Cal => s
      | .science => ({ s with lineHigh := false }).dispatch .pressStopButton
      | .dark2Cal | .mediumCal | .brightCal | .laserCal => { s with lineHigh := false }
    else s

/-! ### Selections -/

/-- `obcControlCodes` -/
def obcControlCode : ObcMode → ObcState
  | .auto => .science
  | .dark => .dark1
  | .idle => .idle
  | .mid => .medium
  | .high => .bright
  | .laser => .laser

/-- The OBC state that belongs to a record state. -/
def obcStateFor : RecordState → ObcState
  | .notRecording => .science
  | .dark1Cal => .dark1
  | .science => .science
  | .dark2Cal => .dark2
  | .mediumCal => .medium
  | .brightCal => .bright
  | .laserCal => .laser

/-- A selection by the user. The forced one of `recordButtonWork` only resets its own flag. -/
def onOBCControlCombo (selection : ObcMode) : DisplayTab :=
  let s := if selection = .auto then s.setOBC (obcStateFor s.recordState)
    else s.setOBC (obcControlCode selection)
  let s := if selection = .dark then s.restartDark cfg else s
  { s with mostRecentOBCMode := selection }

/-- `setMount` never fails, so the selection always stands. -/
def onMountControlCombo (selection : MountMode) : DisplayTab :=
  let s := if selection = .auto then
      s.setMount (if s.recordState = .notRecording then .idle else .active)
    else s.setMount selection
  { s with mostRecentMountMode := selection }

end DisplayTab

open DisplayTab

/-- What can happen. The user's actions are possible while the button is sensitive and no
question is on the screen, and a selection is one that changes the entry; callbacks also run
while a question is on the screen. -/
inductive RecorderEvent where
  | onRecordButton (files : OpenResult) (replies : RecordReplies)
  | onStopButton
  | onAbortButton
  | abortAnswered (yes : Bool)
  | callback (files : OpenResult) (replies : RecordReplies)
  | imageFrame (image : ℕ → UInt16) (writes : WriteOutcome)
  | noImageData
  | updateResourcesDisplay (out : Option Bool)
  | testDigitalLineTransition (first second : Bool)
  | onOBCControlCombo (selection : ObcMode)
  | onMountControlCombo (selection : MountMode)
  | headlessRecord (files : OpenResult) (replies : RecordReplies)
  | headlessStop
  | headlessAbort

/-- The call of `recordButtonWork` that an event makes, if it makes one: the state in which it
is called and its outcome. -/
def recordPress (s : DisplayTab) :
    RecorderEvent → Option (DisplayTab × OpenResult × RecordReplies)
  | .onRecordButton r a => some (s, r, a)
  | .callback r a =>
    if s.callbacks.head? = some .pressRecordButton then
      some ({ s with callbacks := s.callbacks.tail }, r, a)
    else none
  | .headlessRecord r a => if s.recordState = .notRecording then some (s, r, a) else none
  | _ => none

/-- The main thread runs the oldest callback. -/
def runCallback (cfg : Settings) (s : DisplayTab) (r : OpenResult) (a : RecordReplies) :
    Option DisplayTab :=
  match s.callbacks with
  | [] => none
  | c :: cs =>
    let s := { s with callbacks := cs }
    some <| match c with
    | .refreshRecordControls => s.recordControlsUpdateWork cfg
    | .refreshStopButton => s.stopButtonUpdateWork
    | .pressRecordButton => s.recordButtonWork cfg r a
    | .pressStopButton => s.handleFMSStop cfg

/-- The user can act in the window. -/
def userActs (cfg : Settings) (s : DisplayTab) : Bool := !cfg.headless && !s.controls.abortDialog

def step (cfg : Settings) (s : DisplayTab) : RecorderEvent → Option DisplayTab
  | .onRecordButton r a =>
    if userActs cfg s && s.controls.recordSensitive then some (s.recordButtonWork cfg r a)
    else none
  | .onStopButton => if userActs cfg s then some (s.onStopButton cfg) else none
  | .onAbortButton => if userActs cfg s then some s.onAbortButton else none
  | .abortAnswered yes => if s.controls.abortDialog then some (s.abortAnswered yes) else none
  | .callback r a => runCallback cfg s r a
  | .imageFrame image w => s.imageFrame cfg image w
  | .noImageData => some (s.noImageData cfg)
  | .updateResourcesDisplay out => some (s.updateResourcesDisplay out)
  | .testDigitalLineTransition first second =>
    if !cfg.headless && cfg.fmsControl then some (s.testDigitalLineTransition first second)
    else none
  | .onOBCControlCombo selection =>
    if userActs cfg s && cfg.obcInterface && decide (selection ≠ s.mostRecentOBCMode) then
      some (s.onOBCControlCombo cfg selection)
    else none
  | .onMountControlCombo selection =>
    if userActs cfg s && cfg.mountUsed && decide (selection ≠ s.mostRecentMountMode) then
      some (s.onMountControlCombo selection)
    else none
  | .headlessRecord r a =>
    if cfg.headless then
      some (if s.recordState = .notRecording then s.recordButtonWork cfg r a else s)
    else none
  | .headlessStop =>
    if cfg.headless then some (if s.recordState = .science then s.stopButtonWork cfg else s)
    else none
  | .headlessAbort =>
    if cfg.headless then some (if s.recordState ≠ .notRecording then s.requestAbort else s)
    else none

/-- The values that differ from one start of the program to the next. -/
structure StartUp where
  outOfSpace : Bool
  allgpsFP : Bool
  allppsFP : Bool
  blockFrameRate : ℕ
  fbFrameRate : ℕ
  lineHigh : Bool
  darkFrame : ℕ → ℕ
  darkFrameBuffered : Bool

/-- The state in which the data thread starts. -/
def initial (cfg : Settings) (u : StartUp) : DisplayTab where
  recordState := .notRecording
  wait := 0
  files := .closed
  framesWritten := 0
  stopRequested := false
  stopIsAbort := false
  outOfSpace := u.outOfSpace
  allgpsFP := u.allgpsFP
  allppsFP := u.allppsFP
  suppress := ⟨false, false, false, false⟩
  mostRecentOBCMode := .auto
  lastOBCState := if cfg.obcInterface then .science else .bright
  mostRecentMountMode := .auto
  mountRequest := .idle
  pxiRecord := false
  blockFrameRate := u.blockFrameRate
  fbFrameRate := u.fbFrameRate
  lineHigh := u.lineHigh
  lastResult := u.lineHigh
  controls := ⟨!cfg.headless && !cfg.fmsControl, false, false, false⟩
  callbacks := []
  frameCount := 0
  dark := ⟨-1, 0, fun _ => 0, u.darkFrame, u.darkFrameBuffered⟩
  currentRecording := 0
  history := .empty

end Recorder
