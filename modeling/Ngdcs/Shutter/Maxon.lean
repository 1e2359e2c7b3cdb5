import Ngdcs.Lib.Dialogue
import Mathlib.Data.Int.Notation

/-! `maxon.cpp`: the calls of the motor driver that open the shutter's motor, home it and move it,
and what the program then knows about the motor. The driver may answer anything. -/
namespace Shutter
open Dialogue

/-- The calls `VCS_...` of the driver. -/
inductive Request where
  | getDeviceNameSelection
  | getProtocolStackNameSelection
  | getInterfaceNameSelection
  | getPortNameSelection
  | openDevice
  | closeDevice
  | clearFault
  | resetDevice
  | getFaultState
  | setMaxFollowingError (maxFollowingError : ℕ)
  | getMaxFollowingError
  | getVelocityUnits
  | activateHomingMode
  | activatePositionMode
  | getOperationMode
  | setEnableState
  | getEnableState
  | setMaxProfileVelocity (maxProfileVelocity : ℕ)
  | getMaxProfileVelocity
  | setMaxAcceleration (maxAcceleration : ℕ)
  | getMaxAcceleration
  | setHomingParameter (acceleration speedSwitch speedIndex : ℕ) (homeOffset : ℤ)
      (currentThreshold : ℕ) (homePos : ℤ)
  | getHomingParameter
  | findHome (method : ℤ)
  | setPositionMust (position : ℤ)
  | getMovementState
  | getPositionIs

/-- Whether a call succeeds, what it stores, and its error code. Only the velocity units are two
values. -/
structure Reply where
  status : Bool
  value : ℤ
  second : ℤ
  errorCode : UInt32

/-- A function that ends with 0, or with -1 and a text in `error_msg`. -/
abbrev Command := Talk Request Reply String

/-! ### Constants -/

def maxFollowingError : ℕ := 1000
def homingSpeedSwitch : ℕ := 500
def homingSpeedIndex : ℕ := 10
def homingMaxCurrentInMA : ℕ := 500
def homingAcceleration : ℕ := 1000
def homingMaxVelocity : ℕ := 500
def positionMaxVelocity : ℕ := 2000
def positionMaxAcceleration : ℕ := 4000

/-- `VD_RPM` -/
def vdRPM : ℤ := 0xA4

/-- `VN_STANDARD` -/
def vnStandard : ℤ := 0

/-- `OMD_HOMING_MODE` -/
def omdHomingMode : ℤ := 6

/-- `OMD_POSITION_MODE` -/
def omdPositionMode : ℤ := -1

/-- `HM_CURRENT_THRESHOLD_POSITIVE_SPEED` -/
def hmCurrentThresholdPositiveSpeed : ℤ := -3

/-! ### Messages -/

/-- `%08x` -/
def hex8 (n : UInt32) : String :=
  let digits := Nat.toDigits 16 n.toNat
  String.ofList (List.replicate (8 - digits.length) '0' ++ digits)

def withCode (text : String) (errorCode : UInt32) : String :=
  text ++ " (error 0x" ++ hex8 errorCode ++ ")"

/-- The messages about the names of the device. -/
def withHint (text : String) (errorCode : UInt32) : String :=
  withCode text errorCode ++ " -- driver installed?  EPOS Studio closed?"

/-! ### The functions -/

/-- A call whose failure is reported. -/
def check (r : Request) (message : UInt32 → String) : Command Reply := do
  let reply ← Talk.call r
  if reply.status then pure reply else Talk.fail (message reply.errorCode)

def require (c : Prop) [Decidable c] (message : String) : Command Unit :=
  if c then pure () else Talk.fail message

/-- `Maxon_init_device`, with the text in `error_msg` where it returns 0. -/
def maxonInitDevice : Command String := do
  let _ ← check .getDeviceNameSelection (withHint "Can't determine Maxon device name")
  let _ ← check .getProtocolStackNameSelection (withHint "Can't determine Maxon protocol stack")
  let _ ← check .getInterfaceNameSelection (withHint "Can't determine Maxon interface name")
  let _ ← check .getPortNameSelection (withHint "Can't determine Maxon port name")
  let _ ← check .openDevice (withCode "Can't open Maxon device")
  let _ ← Talk.call .clearFault
  let _ ← check (.setMaxFollowingError maxFollowingError)
    (withCode "Can't set Maxon max following error")
  let _ ← check .getMaxFollowingError (withCode "Can't get Maxon max following error")
  let units ← Talk.call .getVelocityUnits
  if !units.status ∨ units.value ≠ vdRPM ∨ units.second ≠ vnStandard then
    -- this too returns 0
    pure (withCode "Can't set Maxon velocity units" units.errorCode)
  else pure ""

/-- `faulted` -/
def faultState (text : String) : Command Bool := do
  let reply ← check .getFaultState (withCode text)
  pure (reply.value ≠ 0)

def checkIf (c : Bool) (r : Request) (message : UInt32 → String) : Command Unit :=
  if c then do
    let _ ← check r message
    pure ()
  else pure ()

/-- The last try of `Maxon_home` to get rid of a fault. -/
def resetFault : Command Unit := do
  let _ ← check .resetDevice (withCode "Can't reset Maxon in homing code")
  let faulted ← faultState "Can't determine Maxon fault state in homing code"
  require (faulted = false) "Maxon faulted and unrecoverable"

/-- How `Maxon_home` gets rid of a fault. -/
def recoverFault : Command Unit := do
  let cleared ← Talk.call .clearFault
  checkIf (!cleared.status) .resetDevice (withCode "Can't reset Maxon in homing code")
  let faulted ← faultState "Can't determine Maxon fault state in homing code"
  if faulted then resetFault else pure ()

/-- The fault that `Maxon_home` starts with. -/
def homingFault : Command Unit := do
  let faulted ← faultState "Can't determine Maxon fault state in homing code"
  if faulted then recoverFault else pure ()

/-- The fault that `Maxon_position` starts with. -/
def positionFault : Command Unit := do
  let faulted ← faultState "Can't determine Maxon fault state in position code"
  checkIf faulted .clearFault (withCode "Can't clear Maxon fault in position code")
  let faulted ← faultState "Can't determine Maxon fault state in position code"
  require (faulted = false) "Maxon faulted; can't clear"

/-- A turn of the loop that waits for the end of a movement: `last` is `last_pos` after the first
turn, and a result is the last error code. -/
def poll (target : Option ℤ) (text : String) (last : Option ℤ) :
    Command (Option ℤ ⊕ UInt32) := do
  let movement ← check .getMovementState (withCode "Can't determine current Maxon state")
  if movement.value ≠ 0 then pure (.inr movement.errorCode)
  else
    let current ← check .getPositionIs (withCode text)
    if target = some current.value then pure (.inr current.errorCode)
    else if last = some current.value then pure (.inr current.errorCode)
    else pure (.inl (some current.value))

theorem check_uses (r : Request) (message : UInt32 → String) : Talk.Uses 1 (check r message) :=
  (Talk.uses_call r).bind fun _ => .ite (Talk.uses_pure _) (Talk.uses_fail _)

theorem poll_uses (target : Option ℤ) (text : String) (last : Option ℤ) :
    Talk.Uses 1 (poll target text last) :=
  (check_uses _ _).bind fun _ => .ite (Talk.uses_pure _)
    ((check_uses _ _).weaken.bind fun _ => .ite (Talk.uses_pure _)
      (.ite (Talk.uses_pure _) (Talk.uses_pure _)))

/-- The loop over `poll` is not cut off. -/
theorem pollLoop_eq (target : Option ℤ) (text : String) (last : Option ℤ) :
    Talk.loop (poll target text) last =
      poll target text last >>= Sum.elim (Talk.loop (poll target text)) pure :=
  Talk.loop_eq (poll_uses target text) last

/-- The fault that a movement may end with. -/
def endFault : Command Unit := do
  let faulted ← faultState "Can't determine Maxon fault state"
  if faulted then do
    let cleared ← Talk.call .clearFault
    if !cleared.status then
      Talk.fail (withCode "Motor fault; can't clear fault" cleared.errorCode)
    else Talk.fail "Motor fault; cleared fault state"
  else pure ()

/-- How both functions wait for the end of a movement. -/
def awaitEnd (target : Option ℤ) (positionText endText : String) : Command Unit := do
  let errorCode ← Talk.loop (poll target positionText) none
  require (errorCode = 0) (withCode endText errorCode)
  endFault

/-- How both functions set the mode, the enable state and the velocity before a movement. -/
def prepare (activate : Request) (mode : ℤ) (modeText enableText : String) (velocity : ℕ) :
    Command Unit := do
  let _ ← check activate (withCode modeText)
  let opmode ← check .getOperationMode (withCode modeText)
  require (opmode.value = mode) (withCode modeText opmode.errorCode)
  let _ ← check .setEnableState (withCode "Can't set Maxon enable state")
  let _ ← check .getEnableState (withCode enableText)
  let _ ← check (.setMaxProfileVelocity velocity)
    (withCode "Can't set Maxon max profile velocity")
  let _ ← check .getMaxProfileVelocity (withCode "Can't set Maxon max profile velocity")
  pure ()

/-- `Maxon_home` -/
def maxonHome : Command Unit := do
  homingFault
  prepare .activateHomingMode omdHomingMode "Can't activate Maxon homing mode"
    "Can't get Maxon enable state" homingMaxVelocity
  let _ ← check (.setHomingParameter homingAcceleration homingSpeedSwitch homingSpeedIndex 0
    homingMaxCurrentInMA 0) (withCode "Can't set Maxon homing parameters")
  let _ ← check .getHomingParameter (withCode "Can't set Maxon homing parameters")
  let _ ← check (.findHome hmCurrentThresholdPositiveSpeed) (withCode "Maxon can't find home")
  awaitEnd none "Maxon can't determine current position" "Maxon can't find home"

/-- `Maxon_position` -/
def maxonPosition (position : ℤ) : Command Unit := do
  positionFault
  prepare .activatePositionMode omdPositionMode "Can't activate Maxon position mode"
    "Can't set Maxon enable state" positionMaxVelocity
  let _ ← check (.setMaxAcceleration positionMaxAcceleration)
    (withCode "Can't set Maxon max acceleration")
  let _ ← check .getMaxAcceleration (withCode "Can't set Maxon max acceleration")
  let _ ← check (.setPositionMust position) (withCode "Can't set Maxon position")
  awaitEnd (some position) "Can't determine current Maxon position" "Can't set Maxon position"

/-- `Maxon_close_device`, with no place for a message. -/
def maxonCloseDevice : Talk Request Reply Empty Unit := do
  let _ ← Talk.call .closeDevice
  pure ()

end Shutter
