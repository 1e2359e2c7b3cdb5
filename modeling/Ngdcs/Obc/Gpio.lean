import Mathlib.Data.List.Chain
import Ngdcs.Recorder.State

/-! The GPIO register that `appFrame` shares between the OBC and the PXI. `setOBC` makes one or
two writes to the lines of the OBC, and the bright lamp must not be left abruptly. -/
namespace Obc
open Recorder (ObcState)

/-- A write of the GPIO register. -/
structure RegisterWrite where
  mask : BitVec 32
  before : BitVec 32
  after : BitVec 32
  deriving DecidableEq

/-- `AlphaDataFrameBuffer`, as far as it drives the OBC, with the writes made so far and the
strings sent to the FPIE. -/
structure FrameBuffer where
  failed : Bool
  gpio : BitVec 32
  writes : List RegisterWrite
  clSerial : List (List Char)
  deriving DecidableEq

namespace FrameBuffer

def setGPIO (fb : FrameBuffer) (mask bits : BitVec 32) : FrameBuffer :=
  if fb.failed then fb
  else
    let nData := fb.gpio &&& ~~~mask ||| bits &&& mask
    { fb with gpio := nData, writes := fb.writes ++ [⟨mask, fb.gpio, nData⟩] }

def writeCLSerial (fb : FrameBuffer) (string : List Char) : FrameBuffer :=
  if fb.failed then fb else { fb with clSerial := fb.clSerial ++ [string] }

end FrameBuffer

/-- The members of `appFrame` that the OBC code uses. `obcInterface` is set for
`OBCINTERFACE_FPGA`. -/
structure AppFrame where
  obcInterface : Bool
  lastOBCState : ObcState
  fb : FrameBuffer

/-- `OBC_..._LOW` and `OBC_..._HIGH` -/
def low : BitVec 8 := 0
def high : BitVec 8 := 1

/-- `OBC_GPIO_BITMASK`, `PXI_GPIO_BITMASK`, `PXI_START_RECORD` and `PXI_STOP_RECORD` -/
def obcGPIOBitmask : BitVec 32 := 0x1f
def pxiGPIOBitmask : BitVec 32 := 0x0300
def pxiStartRecord : BitVec 32 := 0x0100
def pxiStopRecord : BitVec 32 := 0x0200

/-- `OBC_DARK1` .. `OBC_IDLE` -/
def obcNumber : ObcState → ℕ
  | .dark1 => 1
  | .science => 2
  | .dark2 => 3
  | .medium => 4
  | .bright => 5
  | .laser => 6
  | .idle => 7

/-- The byte that `setOBCWork` puts on the lines: operate A, operate B, shutter, target, laser. -/
def obcControlByte (ttlOut1 ttlOut2 ttlOut3 ttlOut4 ttlOut5 : BitVec 8) : BitVec 8 :=
  ttlOut1 &&& 1 ||| (ttlOut2 &&& 1) <<< 1 ||| (ttlOut3 &&& 1) <<< 2 |||
    (ttlOut4 &&& 1) <<< 3 ||| (ttlOut5 &&& 1) <<< 4

namespace AppFrame

variable (a : AppFrame)

def setOBCWork (ttlOut1 ttlOut2 ttlOut3 ttlOut4 ttlOut5 : BitVec 8) : AppFrame :=
  if a.obcInterface then
    let byte := obcControlByte ttlOut1 ttlOut2 ttlOut3 ttlOut4 ttlOut5
    { a with fb := a.fb.setGPIO obcGPIOBitmask (byte.setWidth 32) }
  else a

/-- The wait of 60 ms behind the ramp is not modelled. -/
def setOBC (newState : ObcState) : AppFrame :=
  let a :=
    if a.lastOBCState = .bright ∧ newState ≠ .medium then a.setOBCWork low low high high high
    else a
  let a :=
    match newState with
    | .dark1 => a.setOBCWork low low low high low
    | .science => a.setOBCWork low low low low low
    | .dark2 => a.setOBCWork low high low high low
    | .medium => a.setOBCWork low high high high low
    | .bright => a.setOBCWork high high high high low
    | .laser => a.setOBCWork low low low high high
    | .idle => a.setOBCWork low low high high low
  { a with
    lastOBCState := newState
    fb := a.fb.writeCLSerial [Char.ofNat ('A'.toNat + obcNumber newState)] }

def setPXIRecord (recording : Bool) : AppFrame :=
  { a with fb := a.fb.setGPIO pxiGPIOBitmask (if recording then pxiStartRecord else pxiStopRecord) }

end AppFrame

/-- The calls that write the register. -/
inductive GpioEvent where
  | setOBC (newState : ObcState)
  | setPXIRecord (recording : Bool)

def step (a : AppFrame) : GpioEvent → AppFrame
  | .setOBC newState => a.setOBC newState
  | .setPXIRecord recording => a.setPXIRecord recording

/-- The five lines of the OBC in a value of the register. -/
def obcLines (v : BitVec 32) : BitVec 32 := v &&& obcGPIOBitmask

/-- The code of a state on the lines. -/
def obcCode : ObcState → BitVec 32
  | .dark1 => 0b01000
  | .science => 0b00000
  | .dark2 => 0b01010
  | .medium => 0b01110
  | .bright => 0b01111
  | .laser => 0b11000
  | .idle => 0b01100

/-- Both operate lines low, the others high. -/
def rampCode : BitVec 32 := 0b11100

/-- Both operate lines are high. -/
def commandsBright (v : BitVec 32) : Bool := v.getLsbD 0 && v.getLsbD 1

def shutterHigh (v : BitVec 32) : Bool := v.getLsbD 2

/-- The writes that `setOBC` made. -/
def obcWrites (a : AppFrame) : List RegisterWrite :=
  a.fb.writes.filter fun w => decide (w.mask = obcGPIOBitmask)

/-! ### Masked writes -/

/-- A masked write puts the bits under the mask and leaves the others. -/
theorem masked_and_mask (v m b : BitVec 32) :
    (v &&& ~~~m ||| b &&& m) &&& m = b &&& m := by
  ext i hi
  simp only [BitVec.getElem_and, BitVec.getElem_or, BitVec.getElem_not]
  cases m[i] <;> simp

theorem masked_and_not (v m b : BitVec 32) :
    (v &&& ~~~m ||| b &&& m) &&& ~~~m = v &&& ~~~m := by
  ext i hi
  simp only [BitVec.getElem_and, BitVec.getElem_or, BitVec.getElem_not]
  cases m[i] <;> simp

/-- The lines of the OBC are seen in the whole register. -/
theorem commandsBright_obcLines (v : BitVec 32) :
    commandsBright (obcLines v) = commandsBright v := by
  simp [commandsBright, obcLines, obcGPIOBitmask]

theorem shutterHigh_obcLines (v : BitVec 32) : shutterHigh (obcLines v) = shutterHigh v := by
  simp [shutterHigh, obcLines, obcGPIOBitmask]

/-! ### Runs -/

/-- The FPGA interface is there and the frame buffer came up. -/
def Drives (a : AppFrame) : Prop := a.obcInterface = true ∧ a.fb.failed = false

/-- A write keeps the bits outside its mask. -/
def KeepsOthers (w : RegisterWrite) : Prop := w.after &&& ~~~w.mask = w.before &&& ~~~w.mask

/-- The bright lamp never comes with the shutter closed. -/
def ShutterOpen (w : RegisterWrite) : Prop :=
  commandsBright w.after = true → shutterHigh w.after = true

/-- The lamp is left through medium or the ramp. -/
def LeavesBrightSlowly (v w : RegisterWrite) : Prop :=
  commandsBright v.after = true →
    obcLines w.after = obcCode .medium ∨ obcLines w.after = rampCode

/-- What holds between the calls. -/
structure Disciplined (a : AppFrame) : Prop where
  drives : Drives a
  shutter : ∀ w ∈ obcWrites a, ShutterOpen w
  slowly : (obcWrites a).IsChain LeavesBrightSlowly
  bright : ∀ w ∈ (obcWrites a).getLast?, commandsBright w.after = true → a.lastOBCState = .bright
  others : ∀ w ∈ a.fb.writes, KeepsOthers w
  parties : ∀ w ∈ a.fb.writes, w.mask = obcGPIOBitmask ∨ w.mask = pxiGPIOBitmask

/-- The code is put on the lines and the state noted. -/
def command (a : AppFrame) (code : BitVec 32) (st : ObcState) : AppFrame :=
  { a with lastOBCState := st, fb := a.fb.setGPIO obcGPIOBitmask code }

variable {a : AppFrame}

theorem command_fb (h : Drives a) (code : BitVec 32) (st : ObcState) :
    (command a code st).fb = { a.fb with
      gpio := a.fb.gpio &&& ~~~obcGPIOBitmask ||| code &&& obcGPIOBitmask
      writes := a.fb.writes ++ [⟨obcGPIOBitmask, a.fb.gpio,
        a.fb.gpio &&& ~~~obcGPIOBitmask ||| code &&& obcGPIOBitmask⟩] } := by
  have hok : ¬a.fb.failed = true := by simp [h.2]
  rw [command, FrameBuffer.setGPIO, if_neg hok]

theorem obcLines_command (h : Drives a) (code : BitVec 32) (st : ObcState) :
    obcLines (command a code st).fb.gpio = obcLines code := by
  rw [command_fb h]
  exact masked_and_mask a.fb.gpio obcGPIOBitmask code

theorem commandsBright_command (h : Drives a) (code : BitVec 32) (st : ObcState) :
    commandsBright (command a code st).fb.gpio = commandsBright code := by
  rw [← commandsBright_obcLines, obcLines_command h, commandsBright_obcLines]

theorem shutterHigh_command (h : Drives a) (code : BitVec 32) (st : ObcState) :
    shutterHigh (command a code st).fb.gpio = shutterHigh code := by
  rw [← shutterHigh_obcLines, obcLines_command h, shutterHigh_obcLines]

theorem obcWrites_command (h : Drives a) (code : BitVec 32) (st : ObcState) :
    obcWrites (command a code st) = obcWrites a ++
      [⟨obcGPIOBitmask, a.fb.gpio, (command a code st).fb.gpio⟩] := by
  rw [command_fb h, obcWrites, command_fb h, List.filter_append]
  rfl

/-- The last write is the one just made. -/
theorem last_obcWrites_command (h : Drives a) {code : BitVec 32} {st : ObcState}
    {w : RegisterWrite} (hw : w ∈ (obcWrites (command a code st)).getLast?) :
    w.after = (command a code st).fb.gpio := by
  rw [obcWrites_command h, List.getLast?_concat, Option.mem_some_iff] at hw
  rw [← hw]

/-- A code may follow another one only as the lamp allows. -/
theorem disciplined_command (h : Disciplined a) {code : BitVec 32} {st : ObcState}
    (hshutter : commandsBright code = true → shutterHigh code = true)
    (hslowly : ∀ v ∈ (obcWrites a).getLast?, commandsBright v.after = true →
      obcLines code = obcCode .medium ∨ obcLines code = rampCode)
    (hbright : commandsBright code = true → st = .bright) : Disciplined (command a code st) := by
  have hfb := command_fb h.drives code st
  have hwrites := obcWrites_command h.drives code st
  constructor
  · exact ⟨h.drives.1, by rw [hfb]; exact h.drives.2⟩
  · rw [hwrites]
    intro w hw
    rcases List.mem_append.mp hw with hw | hw
    · exact h.shutter w hw
    · rw [List.mem_singleton.mp hw, ShutterOpen, commandsBright_command h.drives,
        shutterHigh_command h.drives]
      exact hshutter
  · rw [hwrites]
    apply h.slowly.append (List.isChain_singleton _)
    intro v hv w hw hlamp
    rw [List.head?_cons, Option.mem_some_iff] at hw
    rw [← hw, obcLines_command h.drives]
    exact hslowly v hv hlamp
  · intro w hw hlamp
    rw [last_obcWrites_command h.drives hw, commandsBright_command h.drives] at hlamp
    exact hbright hlamp
  · rw [hfb]
    intro w hw
    rcases List.mem_append.mp hw with hw | hw
    · exact h.others w hw
    · rw [List.mem_singleton.mp hw]
      exact masked_and_not a.fb.gpio obcGPIOBitmask code
  · rw [hfb]
    intro w hw
    rcases List.mem_append.mp hw with hw | hw
    · exact h.parties w hw
    · rw [List.mem_singleton.mp hw]
      exact Or.inl rfl

/-- The writes for the OBC stay, and others only set lines of the PXI. -/
theorem Disciplined.congr {b : AppFrame} (h : Disciplined a) (hdrives : Drives b)
    (hwrites : obcWrites b = obcWrites a) (hstate : b.lastOBCState = a.lastOBCState)
    (hlog : ∀ w ∈ b.fb.writes, w ∈ a.fb.writes ∨ w.mask = pxiGPIOBitmask ∧ KeepsOthers w) :
    Disciplined b := by
  constructor
  · exact hdrives
  · rw [hwrites]
    exact h.shutter
  · rw [hwrites]
    exact h.slowly
  · rw [hwrites, hstate]
    exact h.bright
  · intro w hw
    rcases hlog w hw with hw | ⟨-, hkeeps⟩
    · exact h.others w hw
    · exact hkeeps
  · intro w hw
    rcases hlog w hw with hw | ⟨hmask, -⟩
    · exact h.parties w hw
    · exact Or.inr hmask

/-- A string for the FPIE changes nothing here. -/
theorem disciplined_writeCLSerial (h : Disciplined a) (string : List Char) :
    Disciplined { a with fb := a.fb.writeCLSerial string } := by
  have hsame : (a.fb.writeCLSerial string).writes = a.fb.writes ∧
      (a.fb.writeCLSerial string).failed = a.fb.failed := by
    unfold FrameBuffer.writeCLSerial
    split_ifs <;> exact ⟨rfl, rfl⟩
  apply h.congr
  · exact ⟨h.drives.1, hsame.2.trans h.drives.2⟩
  · rw [obcWrites, hsame.1]
    rfl
  · rfl
  · intro w hw
    exact Or.inl (hsame.1 ▸ hw)

theorem setOBCWork_eq (h : a.obcInterface = true) (t₁ t₂ t₃ t₄ t₅ : BitVec 8) :
    a.setOBCWork t₁ t₂ t₃ t₄ t₅ =
      command a ((obcControlByte t₁ t₂ t₃ t₄ t₅).setWidth 32) a.lastOBCState := by
  rw [AppFrame.setOBCWork, if_pos h]
  rfl

/-- The ramp that `setOBC` puts in front, if it does. -/
def afterRamp (a : AppFrame) (st : ObcState) : AppFrame :=
  if a.lastOBCState = .bright ∧ st ≠ .medium then command a rampCode a.lastOBCState else a

/-- What `setOBC` does, by the codes of the states. -/
theorem setOBC_eq (h : Drives a) (st : ObcState) : a.setOBC st =
    { command (afterRamp a st) (obcCode st) st with
      fb := (command (afterRamp a st) (obcCode st) st).fb.writeCLSerial
        [Char.ofNat ('A'.toNat + obcNumber st)] } := by
  have hramp : (if a.lastOBCState = .bright ∧ st ≠ .medium then
      a.setOBCWork low low high high high else a) = afterRamp a st := by
    rw [afterRamp, setOBCWork_eq h.1]
    rfl
  have hinterface : (afterRamp a st).obcInterface = true := by
    unfold afterRamp
    split_ifs
    · exact h.1
    · exact h.1
  unfold AppFrame.setOBC
  rw [hramp]
  cases st <;> simp only [setOBCWork_eq hinterface] <;> rfl

theorem disciplined_afterRamp (h : Disciplined a) (st : ObcState) :
    Disciplined (afterRamp a st) ∧ ∀ v ∈ (obcWrites (afterRamp a st)).getLast?,
      commandsBright v.after = true → st = .medium := by
  have hdark : commandsBright rampCode = false := by decide
  unfold afterRamp
  split_ifs with hbright
  · have hramp : Disciplined (command a rampCode a.lastOBCState) :=
      disciplined_command h (by decide) (fun _ _ _ => Or.inr rfl) (by simp [hdark])
    refine ⟨hramp, ?_⟩
    intro v hv hlamp
    rw [last_obcWrites_command h.drives hv, commandsBright_command h.drives, hdark] at hlamp
    contradiction
  · refine ⟨h, ?_⟩
    intro v hv hlamp
    by_contra hst
    exact hbright ⟨h.bright v hv hlamp, hst⟩

/-- Behind the ramp, and in front of medium, the lamp may be left. -/
theorem disciplined_setOBC (h : Disciplined a) (st : ObcState) : Disciplined (a.setOBC st) := by
  obtain ⟨hramp, hlast⟩ := disciplined_afterRamp h st
  have hcommand : Disciplined (command (afterRamp a st) (obcCode st) st) := by
    apply disciplined_command hramp
    · cases st <;> decide
    · intro v hv hlamp
      left
      rw [hlast v hv hlamp]
      rfl
    · cases st <;> decide
  rw [setOBC_eq h.drives]
  exact disciplined_writeCLSerial hcommand _

/-- After `setOBC` the lines have the code of the requested state. -/
theorem setOBC_lines (h : Disciplined a) (st : ObcState) :
    obcLines (a.setOBC st).fb.gpio = obcCode st ∧ (a.setOBC st).lastOBCState = st := by
  have hserial (b : FrameBuffer) (string : List Char) :
      (b.writeCLSerial string).gpio = b.gpio := by
    unfold FrameBuffer.writeCLSerial
    split_ifs <;> rfl
  rw [setOBC_eq h.drives]
  refine ⟨?_, rfl⟩
  rw [hserial, obcLines_command (disciplined_afterRamp h st).1.drives]
  cases st <;> rfl

/-- The lines of the PXI are not those of the OBC. -/
theorem disciplined_setPXIRecord (h : Disciplined a) (recording : Bool) :
    Disciplined (a.setPXIRecord recording) := by
  have hok : ¬a.fb.failed = true := by simp [h.drives.2]
  have hwrites : obcWrites (a.setPXIRecord recording) = obcWrites a := by
    rw [AppFrame.setPXIRecord, FrameBuffer.setGPIO, if_neg hok, obcWrites, List.filter_append,
      List.filter_cons_of_neg (by simp [pxiGPIOBitmask, obcGPIOBitmask]), List.filter_nil,
      List.append_nil]
    rfl
  apply h.congr
  · refine ⟨h.drives.1, ?_⟩
    rw [AppFrame.setPXIRecord, FrameBuffer.setGPIO, if_neg hok]
    exact h.drives.2
  · exact hwrites
  · rfl
  · intro w hw
    rw [AppFrame.setPXIRecord, FrameBuffer.setGPIO, if_neg hok] at hw
    rcases List.mem_append.mp hw with hw | hw
    · exact Or.inl hw
    · rw [List.mem_singleton.mp hw]
      exact Or.inr ⟨rfl, masked_and_not _ _ _⟩

theorem disciplined_step (h : Disciplined a) (e : GpioEvent) : Disciplined (step a e) := by
  cases e with
  | setOBC newState => exact disciplined_setOBC h newState
  | setPXIRecord recording => exact disciplined_setPXIRecord h recording

theorem disciplined_run (h : Disciplined a) (es : List GpioEvent) :
    Disciplined (es.foldl step a) := by
  induction es generalizing a with
  | nil => exact h
  | cons e es ih => exact ih (disciplined_step h e)

/-- A write spares the lines under a mask that its own mask does not meet. -/
theorem KeepsOthers.spares {w : RegisterWrite} (h : KeepsOthers w) {m : BitVec 32}
    (hm : ~~~w.mask &&& m = m) : w.after &&& m = w.before &&& m := by
  calc w.after &&& m = w.after &&& ~~~w.mask &&& m := by rw [BitVec.and_assoc, hm]
    _ = w.before &&& ~~~w.mask &&& m := by rw [h]
    _ = w.before &&& m := by rw [BitVec.and_assoc, hm]

/-- Over every sequence of calls: the bright lamp comes with the shutter open and is left
through medium or the ramp, each `setOBC` leaves its code on the lines, and neither party
touches the bits of the other. -/
theorem gpio_discipline (a : AppFrame) (hdrives : Drives a) (hwrites : a.fb.writes = [])
    (es : List GpioEvent) :
    (∀ w ∈ obcWrites (es.foldl step a), ShutterOpen w) ∧
      (obcWrites (es.foldl step a)).IsChain LeavesBrightSlowly ∧
      (∀ es' st, es = es' ++ [.setOBC st] →
        obcLines (es.foldl step a).fb.gpio = obcCode st ∧
          (es.foldl step a).lastOBCState = st) ∧
      ∀ w ∈ (es.foldl step a).fb.writes,
        (w.mask = obcGPIOBitmask ∨ w.mask = pxiGPIOBitmask) ∧ KeepsOthers w ∧
        (w.mask = obcGPIOBitmask → w.after &&& pxiGPIOBitmask = w.before &&& pxiGPIOBitmask) ∧
        (w.mask = pxiGPIOBitmask → obcLines w.after = obcLines w.before) := by
  have hstart : Disciplined a := by
    constructor <;> simp [obcWrites, hwrites, hdrives]
  have hend := disciplined_run hstart es
  refine ⟨hend.shutter, hend.slowly, ?_, ?_⟩
  · rintro es' st rfl
    rw [List.foldl_append]
    exact setOBC_lines (disciplined_run hstart es') st
  · intro w hw
    have hkeeps := hend.others w hw
    refine ⟨hend.parties w hw, hkeeps, ?_, ?_⟩
    · intro hmask
      exact hkeeps.spares (by rw [hmask]; decide)
    · intro hmask
      exact hkeeps.spares (by rw [hmask]; decide)

/-- The register as it may be found, with every line high. -/
def allHigh : AppFrame := ⟨true, .bright, ⟨false, BitVec.allOnes 32, [], []⟩⟩

/-- Bright, with the PXI recording in between, and back to science over the ramp. -/
theorem gpio_discipline_bright :
    (obcWrites ([.setOBC .bright, .setPXIRecord true, .setOBC .science].foldl step allHigh)).map
        (fun w => obcLines w.after) = [rampCode, obcCode .bright, rampCode, obcCode .science] ∧
      (obcWrites ([.setOBC .bright, .setPXIRecord true, .setOBC .science].foldl step
        allHigh)).IsChain LeavesBrightSlowly :=
  ⟨by decide +kernel, (gpio_discipline allHigh ⟨rfl, rfl⟩ rfl _).2.1⟩

end Obc
