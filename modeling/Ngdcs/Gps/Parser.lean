import Mathlib.Algebra.Order.Ring.Rat
import Mathlib.Logic.Function.Basic

/-! `DisplayTab::processImageGPSData`: the GPS words that the FPGA leaves in line 1 of every
frame go through a state machine that keeps its state from one frame to the next. -/
namespace Gps

/-- `GPS_MAGIC_NUMBER` -/
def gpsMagicNumber : UInt16 := 0x81ff

/-- `GPS_MSG_3500_WORDS` -/
def gpsMsg3500Words : ℕ := 22

/-- `GPS_MSG_3501_WORDS` -/
def gpsMsg3501Words : ℕ := 28

/-- `GPS_IMAGE_OFFSET`, in bytes from the start of the frame. -/
def gpsImageOffset : ℕ := 680

/-- The value that replaces the GPS data of a frame for which none arrived. -/
def gpsNoData : UInt16 := 0xDEAD

inductive Color where
  | red | green | yellow
  deriving DecidableEq

/-- The static variables of the message parser. -/
structure MsgParser where
  gpsMsgParseState : ℕ
  gpsMsgWordsBuffered : ℕ
  lastGPSMsg : ℕ → UInt16

namespace MsgParser

def initial : MsgParser := ⟨0, 0, fun _ => 0⟩

/-- `lastGPSMsg[gpsMsgWordsBuffered++] = *usp` -/
def store (p : MsgParser) (w : UInt16) : MsgParser :=
  { p with
    lastGPSMsg := Function.update p.lastGPSMsg p.gpsMsgWordsBuffered w
    gpsMsgWordsBuffered := p.gpsMsgWordsBuffered + 1 }

/-- The words in the buffer. -/
def buffered (p : MsgParser) : List UInt16 :=
  (List.range p.gpsMsgWordsBuffered).map p.lastGPSMsg

def goto (p : MsgParser) (state : ℕ) : MsgParser := { p with gpsMsgParseState := state }

/-- A magic number where it is not valid starts a new header. -/
def restart (p : MsgParser) : MsgParser :=
  { p with gpsMsgWordsBuffered := 1, gpsMsgParseState := 1 }

/-- The checksum that the four words in front of it call for. -/
def expectedChecksum (p : MsgParser) : UInt16 :=
  let cs := (List.range 4).foldl (fun cs j => cs + p.lastGPSMsg j) 0
  ~~~cs + 1

/-- The test of state 2, with `*(usp-1)` as the word in front of `*usp`. -/
def lengthMatches (prev w : UInt16) : Bool :=
  (prev == 3500 && w == 16) || (prev == 3501 && w == 22)

/-- The body of the loop: `prev` is `*(usp-1)` and `w` is `*usp`. Also the words of the
message, where `w` completes one. -/
def parseWord (p : MsgParser) (prev w : UInt16) : MsgParser × Option (List UInt16) :=
  match p.gpsMsgParseState with
  | 0 =>
    if w = gpsMagicNumber then (({ p with gpsMsgWordsBuffered := 0 }.store w).goto 1, none)
    else (p, none)
  | 1 =>
    if w = 3500 ∨ w = 3501 then ((p.store w).goto 2, none)
    else if w = gpsMagicNumber then (p, none)
    else (p.goto 0, none)
  | 2 =>
    if w = gpsMagicNumber then (p.restart, none)
    else if lengthMatches prev w then ((p.store w).goto 3, none)
    else (p.goto 0, none)
  | 3 =>
    if w = gpsMagicNumber then (p.restart, none)
    else ((p.store w).goto 4, none)
  | 4 => ((p.store w).goto 5, none)
  | 5 =>
    if p.expectedChecksum = p.lastGPSMsg 4 then ((p.store w).goto 6, none)
    else if p.lastGPSMsg 4 = gpsMagicNumber then
      if w = 3500 ∨ w = 3501 then
        ({ p with
          gpsMsgWordsBuffered := 2
          lastGPSMsg := Function.update p.lastGPSMsg 1 w
          gpsMsgParseState := 2 }, none)
      else if w = gpsMagicNumber then (p.restart, none)
      else (p.goto 0, none)
    else if w = gpsMagicNumber then (p.restart, none)
    else (p.goto 0, none)
  | 6 =>
    let q := p.store w
    if q.lastGPSMsg 1 = 3500 ∧ q.gpsMsgWordsBuffered = gpsMsg3500Words then
      (q.goto 0, some q.buffered)
    else if q.lastGPSMsg 1 = 3501 ∧ q.gpsMsgWordsBuffered = gpsMsg3501Words then
      (q.goto 0, some q.buffered)
    else (q, none)
  | _ => (p.goto 0, none)

end MsgParser

/-- What the program around the parser supplies: the frame rate of the frame buffer, the
navigation plot setting and whether there is a display. -/
structure GpsEnv where
  frameRateHz : ℚ
  currentNavDurationSkip : ℤ
  headless : Bool

/-- The parser with the other variables that `processImageGPSData` reads and writes, the
messages completed so far and the ones handed to `add3501`. -/
structure GpsMonitor where
  parser : MsgParser
  gps3501skip : ℤ
  gpsCommFailures : ℕ
  gpsCount : ℕ
  gpsCommCheckColor : Color
  airNavCheckColor : Color
  gpsValidCheckColor : Color
  messages : List (List UInt16)
  added3501 : List (List UInt16)
  navDisplayRefreshes : ℕ

namespace GpsMonitor

def initial : GpsMonitor where
  parser := .initial
  gps3501skip := 0
  gpsCommFailures := 0
  gpsCount := 0
  gpsCommCheckColor := .yellow
  airNavCheckColor := .yellow
  gpsValidCheckColor := .yellow
  messages := []
  added3501 := []
  navDisplayRefreshes := 0

/-- The colour for the INS mode word of a 3500 message: fine or air alignment, then air
navigation. -/
def airNavColor (mode : UInt16) : Color :=
  if mode = 4 ∨ mode = 5 then .yellow else if mode = 7 then .green else .red

def handle3500 (g : GpsMonitor) (msg : List UInt16) : GpsMonitor :=
  { g with
    airNavCheckColor := airNavColor (msg.getD 9 0)
    gpsValidCheckColor := if msg.getD 10 0 &&& 0x1 ≠ 0 then .green else .red }

def handle3501 (env : GpsEnv) (g : GpsMonitor) (msg : List UInt16) : GpsMonitor :=
  if g.gps3501skip ≤ 0 then
    { g with
      added3501 := g.added3501 ++ [msg]
      navDisplayRefreshes :=
        if env.headless then g.navDisplayRefreshes else g.navDisplayRefreshes + 1
      gps3501skip := env.currentNavDurationSkip }
  else { g with gps3501skip := g.gps3501skip - 1 }

def handleMessage (env : GpsEnv) (g : GpsMonitor) (msg : List UInt16) : GpsMonitor :=
  let g := { g with messages := g.messages ++ [msg] }
  if msg.getD 1 0 = 3500 then g.handle3500 msg else g.handle3501 env msg

def processWord (env : GpsEnv) (g : GpsMonitor) (prev w : UInt16) : GpsMonitor :=
  let (p, msg) := g.parser.parseWord prev w
  let g := { g with parser := p }
  match msg with
  | none => g
  | some m => g.handleMessage env m

/-- `for (i=0;i < wordCount;i++,usp++)`, with `usp` an index into the image. -/
def wordLoop (env : GpsEnv) (image : ℕ → UInt16) : ℕ → ℕ → GpsMonitor → GpsMonitor
  | 0, _, g => g
  | n + 1, usp, g =>
    wordLoop env image n (usp + 1) (g.processWord env (image (usp - 1)) (image usp))

def processImageGPSData (env : GpsEnv) (g : GpsMonitor) (image : ℕ → UInt16) : GpsMonitor :=
  let usp := gpsImageOffset / 2
  if image usp = gpsNoData then
    let g := { g with gpsCommFailures := g.gpsCommFailures + 1 }
    if (g.gpsCommFailures : ℚ) > 3 / 2 * env.frameRateHz then
      { g with
        gpsCommCheckColor := .red
        airNavCheckColor := .yellow
        gpsValidCheckColor := .yellow }
    else g
  else
    let g := { g with
      gpsCommFailures := 0
      gpsCommCheckColor := .green
      gpsCount := g.gpsCount + 1 }
    let wordCount := (image (usp + 1)).toNat
    wordLoop env image wordCount (usp + 2) g

/-- Frames in the order in which they are processed. -/
def processFrames (env : GpsEnv) (g : GpsMonitor) (frames : List (ℕ → UInt16)) : GpsMonitor :=
  frames.foldl (processImageGPSData env) g

end GpsMonitor

/-- The `n` words behind word `usp` of an image, each with the word in front of it. -/
def areaFeed (image : ℕ → UInt16) (usp n : ℕ) : List (UInt16 × UInt16) :=
  (List.range n).map fun i => (image (usp + i), image (usp + 1 + i))

/-- The words that a frame feeds to the parser. The word in front of the first one is the
word count. -/
def frameFeed (image : ℕ → UInt16) : List (UInt16 × UInt16) :=
  let usp := gpsImageOffset / 2
  if image usp = gpsNoData then []
  else areaFeed image (usp + 1) (image (usp + 1)).toNat

def feed (frames : List (ℕ → UInt16)) : List (UInt16 × UInt16) := frames.flatMap frameFeed

/-- The GPS words of the frames, one after the other. -/
def gpsStream (frames : List (ℕ → UInt16)) : List UInt16 := (feed frames).map Prod.snd

/-- The parser alone over a feed, with the messages it completes. -/
def MsgParser.parse (p : MsgParser) : List (UInt16 × UInt16) → MsgParser × List (List UInt16)
  | [] => (p, [])
  | (prev, w) :: ws =>
    let r := (p.parseWord prev w).1.parse ws
    (r.1, (p.parseWord prev w).2.toList ++ r.2)

end Gps
