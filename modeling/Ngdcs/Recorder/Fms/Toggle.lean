import Ngdcs.Lib.Dialogue
import Ngdcs.Recorder.Machine

/-! The toggle switch behind the FMS line: how `displayTab.cpp` attaches to the digital inputs,
reads the switch and gives it up. The library may answer anything. The functions of the two
threads are taken to run one at a time. -/
namespace Fms
open Dialogue Recorder

/-- The calls of the library. -/
inductive Request where
  | aiousbInit
  | getDevices
  | queryDeviceInfo (index : ℕ)
  | getDeviceSerialNumber (index : ℕ)
  | setCommTimeout (index timeout : ℕ)
  | dioConfigure (index : ℕ) (outputMask : List UInt8)
  | dioRead8 (index port : ℕ)
  | aiousbExit

/-- `AIOUSB_SUCCESS`, `LIBUSB_ERROR_NO_DEVICE`, `LIBUSB_ERROR_TIMEOUT` and the others -/
inductive Result where
  | success | noDevice | timeout | other
  deriving DecidableEq

/-- How a call ends, `AIOUSB_GetResultCodeAsString` of that, and what it returns or stores. -/
structure Reply where
  result : Result
  text : String
  deviceMask : ℕ
  productID : ℕ
  byte : UInt8

/-- `StatusDisplay::color_t`, as far as the FMS indicator uses it. -/
inductive CheckColor where
  | yellow | red | green | unused
  deriving DecidableEq

/-- `USB_DIO_32` -/
def usbDio32 : ℕ := 0x8001

/-- `DIO_DEVICES_REQUIRED` -/
def dioDevicesRequired : ℕ := 1

/-- `DIO_MASK_BYTES` -/
def dioMaskBytes : ℕ := (4 + 8 - 1) / 8

/-- The recorder, the members that belong to the switch, and the statics of the functions.
`recordPresses` records for each press of the Record button what the last successful read had
found. -/
structure ToggleSwitch where
  tab : DisplayTab
  fmsControl : Bool
  recordToggleAttached : Bool
  deviceIndex : ℕ
  errorsSuppressed : Bool
  lastResult : Bool
  fmsCheckColor : CheckColor
  fmsCheckSensitive : Bool
  warned : List String
  recordPresses : List Bool

/-- The functions have no failures of their own. -/
abbrev Handler := Talk Request Reply Empty

/-- `if (!errorsSuppressed) warn(msg); errorsSuppressed = 1;` -/
def ToggleSwitch.warn (s : ToggleSwitch) (msg : String) : ToggleSwitch :=
  { s with
    warned := if s.errorsSuppressed then s.warned else s.warned ++ [msg]
    errorsSuppressed := true }

def errorText (text what : String) (index : ℕ) : String :=
  "Error '" ++ text ++ "' " ++ what ++ " at index " ++ toString index ++ "."

/-- The loop over the bits of `deviceMask`, an `unsigned long`: the values of `devicesFound` and
`index` behind it. -/
def findDevices : ℕ → ℕ → ℕ → ToggleSwitch → Handler (ℕ × ℕ × ToggleSwitch)
  | 0, _, index, s => pure (0, index, s)
  | bits + 1, deviceMask, index, s =>
    if deviceMask = 0 then pure (0, index, s)
    else if deviceMask % 2 = 1 then do
      let device ← Talk.call (.queryDeviceInfo index)
      if device.result = .success then
        if device.productID = usbDio32 then
          -- one device is all that is looked for
          pure (1, index + 1, { s with deviceIndex := index })
        else
          findDevices bits (deviceMask / 2) (index + 1) (s.warn
            "Warning: Unexpectedly found something other than a USB_DIO_32 device.")
      else
        findDevices bits (deviceMask / 2) (index + 1)
          (s.warn (errorText device.text "querying device" index))
    else findDevices bits (deviceMask / 2) (index + 1) s

/-- What `attachRecordToggleSwitch` does with the device that it has found. -/
def configureDevice (s : ToggleSwitch) : Handler (Bool × ToggleSwitch) := do
  let serial ← Talk.call (.getDeviceSerialNumber s.deviceIndex)
  let s :=
    if serial.result = .success then s
    else s.warn (errorText serial.text "getting serial number of device" s.deviceIndex)
  let _ ← Talk.call (.setCommTimeout s.deviceIndex 1)
  let configured ← Talk.call (.dioConfigure s.deviceIndex (List.replicate dioMaskBytes 0))
  if configured.result = .success then pure (true, s)
  else do
    let _ ← Talk.call .aiousbExit
    pure (false, s.warn (errorText configured.text "configuring device" s.deviceIndex))

def attachRecordToggleSwitch (s : ToggleSwitch) : Handler (Bool × ToggleSwitch) := do
  let init ← Talk.call .aiousbInit
  if init.result = .success then do
    let devices ← Talk.call .getDevices
    let (devicesFound, index, s) ← findDevices 64 (devices.deviceMask % 2 ^ 64) 0 s
    if devicesFound = 0 then do
      let _ ← Talk.call .aiousbExit
      pure (false, s.warn "Error: Can't find AccessIO USB_DIO_32 device for FMS control.")
    else if devicesFound > dioDevicesRequired ∨ index ≠ 1 then do
      let _ ← Talk.call .aiousbExit
      pure (false, s.warn "Error: More than one AccessIO USB_DIO_32 device not supported.")
    else configureDevice s
  else pure (false, s)

def detachRecordToggleSwitch : Handler Unit := do
  let _ ← Talk.call .aiousbExit
  pure ()

def detachIfAttached (s : ToggleSwitch) : Handler Unit :=
  if s.recordToggleAttached then detachRecordToggleSwitch else pure ()

/-- `lineIsHigh`. Without the device the switch is given up, a timeout is bridged. -/
def lineIsHigh (s : ToggleSwitch) : Handler (Bool × ToggleSwitch) := do
  let read ← Talk.call (.dioRead8 s.deviceIndex 0)
  match read.result with
  | .success =>
    let high : Bool := read.byte ≠ 0
    pure (high, { s with fmsCheckColor := .green, lastResult := high })
  | .noDevice => do
    detachRecordToggleSwitch
    pure (false, { s with fmsCheckColor := .red, recordToggleAttached := false })
  | .timeout => pure (s.lastResult, { s with fmsCheckColor := .red })
  | .other => pure (false, { s with fmsCheckColor := .red })

/-- What the samples mean for the recorder. -/
def ToggleSwitch.sampled (s : ToggleSwitch) (first second : Bool) : ToggleSwitch :=
  { s with
    tab := s.tab.testDigitalLineTransition first second
    recordPresses :=
      if first && !s.tab.lineHigh && decide (s.tab.recordState = .notRecording) then
        s.recordPresses ++ [s.lastResult]
      else s.recordPresses }

/-- `testDigitalLineTransition`, with its reads. -/
def testDigitalLineTransition (s : ToggleSwitch) : Handler ToggleSwitch := do
  let (first, s) ← lineIsHigh s
  if first && !s.tab.lineHigh then pure (s.sampled first false)
  else do
    let (second, s) ← lineIsHigh s
    pure (s.sampled first second)

/-- `m_recordButton.set_sensitive(sensitive)`, and `m_lineHigh`. -/
def ToggleSwitch.setControls (s : ToggleSwitch) (recordSensitive lineHigh : Bool) :
    ToggleSwitch :=
  { s with
    tab := { s.tab with
      lineHigh
      controls := { s.tab.controls with recordSensitive } } }

/-- `fmsControlChanged`, of the program with a window. -/
def fmsControlChanged (s : ToggleSwitch) : Handler ToggleSwitch :=
  if s.fmsControl = false then do
    detachIfAttached s
    pure ({ s with
      recordToggleAttached := false
      fmsCheckSensitive := false
      fmsCheckColor := .unused }.setControls true false)
  else do
    let (done, s) ← attachRecordToggleSwitch s
    if !done then
      pure ({ s with
        recordToggleAttached := false
        fmsCheckSensitive := true
        fmsCheckColor := .red }.setControls false false)
    else do
      let (high, s) ← lineIsHigh { s with recordToggleAttached := true }
      pure ({ s with
        fmsCheckSensitive := true
        fmsCheckColor := .yellow }.setControls false high)

/-- The end of `lookForImageData`, every 500 turns. -/
def reattach (s : ToggleSwitch) : Handler ToggleSwitch :=
  if s.recordToggleAttached = false ∧ s.fmsControl = true ∧ s.tab.recordState = .notRecording
  then do
    let (done, s) ← attachRecordToggleSwitch s
    if done then pure { s with recordToggleAttached := true, fmsCheckColor := .yellow }
    else pure s
  else pure s

/-- What goes on: a turn of `dataThread`, its attempt to attach again, a change of the setting,
and whatever else the recorder does. -/
inductive Event where
  | turn
  | reattach
  | optionChosen (fmsControl : Bool)
  | recorder (tab : DisplayTab)

/-- The combo box tells of changes only. -/
def step (s : ToggleSwitch) : Event → Handler ToggleSwitch
  | .turn => if s.recordToggleAttached then testDigitalLineTransition s else pure s
  | .reattach => Fms.reattach s
  | .optionChosen fmsControl =>
    if s.fmsControl = fmsControl then pure s else fmsControlChanged { s with fmsControl }
  | .recorder tab => pure { s with tab := { tab with lineHigh := s.tab.lineHigh } }

def steps (s : ToggleSwitch) : List Event → Handler ToggleSwitch
  | [] => pure s
  | e :: es => do
    let s ← step s e
    steps s es

/-- The members before the constructor calls `fmsControlChanged`; it has not set all of them. -/
def initial (tab : DisplayTab) (fmsControl : Bool) : ToggleSwitch where
  tab := tab
  fmsControl := fmsControl
  recordToggleAttached := false
  deviceIndex := 0
  errorsSuppressed := false
  lastResult := false
  fmsCheckColor := .unused
  fmsCheckSensitive := true
  warned := []
  recordPresses := []

/-- The program from the constructor on. -/
def running (tab : DisplayTab) (fmsControl : Bool) (es : List Event) : Handler ToggleSwitch := do
  let s ← fmsControlChanged (initial tab fmsControl)
  steps s es

/-- The program to the end of `dataThread`. -/
def session (tab : DisplayTab) (fmsControl : Bool) (es : List Event) : Handler ToggleSwitch := do
  let s ← running tab fmsControl es
  detachIfAttached s
  pure s

end Fms
