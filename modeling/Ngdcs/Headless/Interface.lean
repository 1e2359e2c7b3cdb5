import Ngdcs.Recorder.Machine
import Ngdcs.Gps.InitCommand

/-! The serial interface of the headless program: `DisplayTab::checkHeadlessInterface`, which
reads commands of two characters and answers them, among everything else that runs. -/
namespace Headless

open Recorder

/-- `struct timeval` -/
structure TimeVal where
  tvSec : ℕ
  tvUsec : ℕ
  usec_lt : tvUsec < 1000000

namespace TimeVal

def zero : TimeVal := ⟨0, 0, by decide⟩

/-- The time in microseconds. -/
def micros (t : TimeVal) : ℕ := t.tvSec * 1000000 + t.tvUsec

end TimeVal

/-- The value of `readPCSerial`: an error, or the bytes that it stored. -/
inductive SerialResult where
  | error
  | bytes (l : List UInt8)

/-- `StatusDisplay::color_t`, as far as it goes over the line. -/
inductive StatusColor where
  | green | yellow | red

/-- What `writeSerialStringForColor` writes. -/
def statusString (color : StatusColor) (first second : Char) : List Char :=
  match color with
  | .green => [first, second, '0']
  | .yellow => [first, second, '1']
  | .red => [first, second, '2']

/-- The status that a state of the recording announces when it is entered. -/
def recordStatus (st : RecordState) : List Char :=
  match st with
  | .notRecording => statusString .red 'R' 'E'
  | .science => statusString .green 'R' 'E'
  | .dark1Cal | .dark2Cal | .mediumCal | .brightCal | .laserCal =>
    statusString .yellow 'R' 'E'

/-- `strcmp(headlessCmd, s) == 0`, for the characters in front of the null byte. -/
def strcmpEq (headlessCmd : List UInt8) (s : List Char) : Bool :=
  headlessCmd.takeWhile (· != 0) == s.map fun c => UInt8.ofNat c.toNat

/-- The settings of the program as far as commands depend on them. -/
structure HeadlessSettings where
  recorder : Settings
  gpsSim : Gps.GpsSim
  gpsInitMode : Gps.GpsInitMode

/-- What a command meets outside: how `openFiles` ends, what the storage check says, and the
colour that it reports if the command makes it. -/
structure CommandOutcome where
  files : DisplayTab.OpenResult
  replies : DisplayTab.RecordReplies
  space : Option StatusColor

/-- The members and static variables behind the interface. `headlessCmd` are the first
`headlessCmdBytes` characters of the buffer; `serialOut` and `commands` record what was
written to the line and which commands were carried out or refused. -/
structure HeadlessTab where
  tab : DisplayTab
  gpsInit : Gps.GpsInit
  headlessDevOpen : Bool
  headlessCmd : List UInt8
  lastTime : TimeVal
  serialOut : List (List Char)
  commands : List (UInt8 × UInt8)

namespace HeadlessTab

variable (cfg : HeadlessSettings) (s : HeadlessTab)

/-- `writePCSerial(m_headlessDevFd, text, strlen(text))` -/
def writePCSerial (text : List Char) : HeadlessTab :=
  { s with serialOut := s.serialOut ++ [text] }

/-- The rest of the program goes on to `t`; states that are entered are announced. -/
def runTab (t : DisplayTab) : HeadlessTab :=
  { s with
    tab := t
    serialOut := s.serialOut ++
      (t.history.entered.drop s.tab.history.entered.length).map recordStatus }

/-- `recordButtonWork(1)`. The frame rate may have to be changed first; then the storage is
checked again and reported. -/
def recordButtonWork (o : CommandOutcome) : HeadlessTab :=
  let space := if s.tab.blockFrameRate = numFrameRates - 1 then none else o.space
  { s with serialOut := s.serialOut ++ space.toList.map (statusString · 'R' 'S') }.runTab
    (s.tab.recordButtonWork cfg.recorder o.files o.replies)

/-- `if (headlessCmdBytes == 2)`: the command in the buffer, with its answer. -/
def command (o : CommandOutcome) : HeadlessTab :=
  if strcmpEq s.headlessCmd ['R', 'E'] then
    if s.tab.recordState = .notRecording then
      (s.writePCSerial ['A', '+']).recordButtonWork cfg o
    else s.writePCSerial ['A', '!']
  else if strcmpEq s.headlessCmd ['S', 'T'] then
    if s.tab.recordState = .science then
      (s.writePCSerial ['A', '+']).runTab (s.tab.stopButtonWork cfg.recorder)
    else s.writePCSerial ['A', '!']
  else if strcmpEq s.headlessCmd ['A', 'B'] then
    if s.tab.recordState ≠ .notRecording then
      (s.writePCSerial ['A', '+']).runTab s.tab.requestAbort
    else s.writePCSerial ['A', '!']
  else if strcmpEq s.headlessCmd ['I', 'I'] then
    { s.writePCSerial ['A', '+'] with
      gpsInit := s.gpsInit.onGPSInitButton true cfg.gpsSim cfg.gpsInitMode
        (UInt32.ofNat s.tab.frameCount) true }
  else s.writePCSerial ['A', '!']

/-- `command` with a note of which command it was. -/
def handleCommand (o : CommandOutcome) : HeadlessTab :=
  { s.command cfg o with commands := s.commands ++
      match s.headlessCmd with
      | [a, b] => [(a, b)]
      | _ => [] }

/-- Whether 500 ms have passed, from seconds and microseconds. -/
def resync (lastTime timeNow : TimeVal) : Bool :=
  if timeNow.tvSec = lastTime.tvSec then
    decide ((timeNow.tvUsec : ℤ) - lastTime.tvUsec ≥ 500000)
  else if timeNow.tvSec = lastTime.tvSec + 1 then
    decide ((timeNow.tvUsec : ℤ) + 1000000 - lastTime.tvUsec ≥ 500000)
  else true

/-- `checkHeadlessInterface`, for the value of `readPCSerial` and of `gettimeofday`. `none`
where an assertion fails. -/
def checkHeadlessInterface (read : SerialResult) (timeNow : TimeVal) (o : CommandOutcome) :
    Option HeadlessTab :=
  if ¬(s.headlessCmd.length ≤ 1 ∧ s.headlessDevOpen = true) then none
  else match read with
  | .error => some { s with headlessCmd := [] }
  | .bytes [] =>
    if s.headlessCmd.length = 1 ∧ resync s.lastTime timeNow = true then
      some ({ s with headlessCmd := [] }.writePCSerial ['A', '!'])
    else some s
  | .bytes l =>
    if ¬((l.length = 1 ∨ l.length = 2) ∧ s.headlessCmd.length + l.length ≤ 2) then none
    else
      let s := { s with headlessCmd := s.headlessCmd ++ l }
      if s.headlessCmd.length = 2 then
        some { s.handleCommand cfg o with headlessCmd := [], lastTime := .zero }
      else some { s with lastTime := timeNow }

end HeadlessTab

/-- The recorder's events that only a command over the line brings about. -/
def isCommand : RecorderEvent → Bool
  | .headlessRecord _ _ | .headlessStop | .headlessAbort => true
  | _ => false

/-- What can happen: a poll of the line, anything else that happens to the recorder, some more
of the GPS command sent, or a status written by other code. -/
inductive HeadlessEvent where
  | poll (read : SerialResult) (timeNow : TimeVal) (o : CommandOutcome)
  | recorder (e : RecorderEvent)
  | transmit (fifoStatus : ℕ → UInt32)
  | status (color : StatusColor) (first second : Char)

end Headless
