import Ngdcs.Gps.InitCommand
import Ngdcs.Gps.Line1

/-! `DisplayTab::addGPSSimToFrame`: the messages of a simulated GPS wait in a buffer and go
into line 1 of the frames, at most 21 words a frame. `processImageGPSData` gets them back. -/
namespace Gps

/-- `GPS_MODE_...` -/
def gpsModeFineAlignment : UInt16 := 4
def gpsModeAirAlignment : UInt16 := 5
def gpsModeAirNavigation : UInt16 := 7

/-! ### The messages -/

/-- The `int`s of a 3501 message. -/
structure NavFix where
  lat : Int32
  lon : Int32
  altitude : Int32
  velNorth : Int32
  velEast : Int32
  velUp : Int32
  pitch : Int32
  roll : Int32
  heading : Int32
  deriving DecidableEq

def NavFix.ints (fix : NavFix) : List Int32 :=
  [fix.lat, fix.lon, fix.altitude, fix.velNorth, fix.velEast, fix.velUp, fix.pitch, fix.roll,
    fix.heading]

/-- A message that the simulator puts into its buffer. -/
inductive SimMessage where
  | m3500 (gpsMode systemStatus : UInt16)
  | m3501 (fix : NavFix)
  deriving DecidableEq

/-- `x & 0xffff` and `x >> 16`, each stored as a word. -/
def intWords (x : Int32) : List UInt16 :=
  [(x &&& 0xffff).toUInt32.toUInt16, (x >>> 16).toUInt32.toUInt16]

/-- The magic number, the type, the number of words behind the header, the flags,
`GPS_MSG_3500_CHECKSUM` or `GPS_MSG_3501_CHECKSUM`. -/
def simHeader (ty : UInt16) (words : ℕ) : List UInt16 :=
  let header := [gpsMagicNumber, ty, UInt16.ofNat (words - 6), 0x8000]
  header ++ [checksum header]

def timetag : List UInt16 := [0, 0, 0, 0]

/-- The words of a message: those of a 3500 after the system status are all zero. -/
def SimMessage.words : SimMessage → List UInt16
  | m3500 gpsMode systemStatus =>
    simHeader 3500 gpsMsg3500Words ++ timetag ++ [gpsMode, systemStatus] ++
      [0, 0, 0, 0, 0, 0, 0, 0, 0, 0, 0]
  | m3501 fix =>
    simHeader 3501 gpsMsg3501Words ++ timetag ++ fix.ints.flatMap intWords ++ [0]

/-- `memcpy(&itemp, usp, sizeof(int))`, the low word first. -/
def intAt (msg : List UInt16) (i : ℕ) : Int32 :=
  ((msg.getD i 0).toUInt32 ||| (msg.getD (i + 1) 0).toUInt32 <<< 16).toInt32

/-- The integers that `add3501` takes from a message. -/
def add3501 (msg : List UInt16) : NavFix where
  lat := intAt msg 9
  lon := intAt msg 11
  altitude := intAt msg 13
  velNorth := intAt msg 15
  velEast := intAt msg 17
  velUp := intAt msg 19
  pitch := intAt msg 21
  roll := intAt msg 23
  heading := intAt msg 25

/-! ### The simulator -/

/-- What floating point and `rand` make of `simIteration`. -/
structure NavSample where
  lat : Int32
  lon : Int32
  altitude : Int32
  pitch : Int32
  roll : Int32

/-- What `addGPSSimToFrame` finds in one frame. -/
structure SimInput where
  pixels : ℕ → UInt16
  frameCountAtGPSInit : UInt32
  gpsInitMode : GpsInitMode
  trajectory : UInt32 → NavSample

/-- `ppsInterval` of this frame rate -/
def ppsInterval (frameRateHz : ℚ) : ℕ := (frameRateHz + 1 / 2).floor.toNat

def msg3Interval (frameRateHz : ℚ) : ℕ := max 1 (ppsInterval frameRateHz / 10)

/-- The settings of a run with a simulated GPS. -/
structure SimSettings where
  gpsSim : GpsSim
  frameRateHz : ℚ
  frameWidthSamples : ℕ
  headless : Bool
  simulated : gpsSim ≠ .none
  interval_pos : 0 < ppsInterval frameRateHz
  width_mem : frameWidthSamples ∈ frameWidthsSamples

/-- The static variables. `msgSimBuf` are the first `msgSimWordsLeft` words of the buffer,
`enqueued` are the messages that have been put there, and `mostWords` is the most words that it
has held. -/
structure GpsSimulator where
  msgSimBuf : List UInt16
  gpsMode : UInt16
  simIteration : UInt32
  enqueued : List SimMessage
  mostWords : ℕ

/-- `sizeof(msgSimBuf) / sizeof(short)` -/
def msgSimBufWords : ℕ := gpsMsg3500Words + gpsMsg3501Words

/-- The most words of the buffer that go into one frame. -/
def maxChunk : ℕ := 21

/-- Words copied into an image. -/
def writeWords (image : ℕ → UInt16) (usp : ℕ) (words : List UInt16) (i : ℕ) : UInt16 :=
  if usp ≤ i ∧ i < usp + words.length then words.getD (i - usp) 0 else image i

namespace GpsSimulator

def initial : GpsSimulator := ⟨[], 0, 0, [], 0⟩

def push (s : GpsSimulator) (m : SimMessage) : GpsSimulator :=
  { s with
    msgSimBuf := s.msgSimBuf ++ m.words
    enqueued := s.enqueued ++ [m]
    mostWords := max s.mostWords (s.msgSimBuf.length + m.words.length) }

/-- The mode that the next 3500 message reports. -/
def nextGpsMode (frameCount : UInt32) (f : SimInput) : UInt16 :=
  if frameCount < f.frameCountAtGPSInit then 0
  else if frameCount - f.frameCountAtGPSInit < 1000 then
    if f.gpsInitMode = .ground then gpsModeFineAlignment else gpsModeAirAlignment
  else gpsModeAirNavigation

/-- The 3500 message, unless the buffer would overflow. -/
def queue3500 (s : GpsSimulator) (frameCount : UInt32) (f : SimInput) : GpsSimulator :=
  if s.msgSimBuf.length + gpsMsg3500Words > msgSimBufWords then s
  else
    let gpsMode := nextGpsMode frameCount f
    { s with gpsMode := gpsMode }.push (.m3500 gpsMode 1)

/-- 83 m/s to the north, 60 m/s to the east and 10 m/s down, times `2^21`. -/
def navFix (gpsMode : UInt16) (t : NavSample) : NavFix :=
  if gpsMode = gpsModeAirNavigation then
    { lat := t.lat
      lon := t.lon
      altitude := t.altitude
      velNorth := 174063616
      velEast := 125829120
      velUp := -20971520
      pitch := t.pitch
      roll := t.roll
      heading := t.pitch + t.roll }
  else ⟨0, 0, t.altitude, 0, 0, 0, 0, 0, 0⟩

def queue3501 (s : GpsSimulator) (f : SimInput) : GpsSimulator :=
  if s.msgSimBuf.length + gpsMsg3501Words > msgSimBufWords then s
  else
    { s with simIteration := s.simIteration + 1 }.push
      (.m3501 (navFix s.gpsMode (f.trajectory s.simIteration)))

/-- The first words of the buffer go into the GPS area, which is filled up with zeros. -/
def placeChunk (s : GpsSimulator) (image : ℕ → UInt16) : GpsSimulator × (ℕ → UInt16) :=
  if s.msgSimBuf.length ≠ 0 then
    let chunk := min maxChunk s.msgSimBuf.length
    ({ s with msgSimBuf := s.msgSimBuf.drop chunk },
      writeWords image (gpsImageOffset / 2)
        ([0xBABE, UInt16.ofNat chunk] ++ s.msgSimBuf.take chunk ++
          List.replicate (maxChunk - chunk) 0))
  else (s, image)

/-- What the frame count says is due. -/
def due3500 (cfg : SimSettings) (frameCount : UInt32) : Bool :=
  cfg.gpsSim == .all && frameCount.toNat % ppsInterval cfg.frameRateHz == 0

def due3501 (cfg : SimSettings) (frameCount : UInt32) : Bool :=
  frameCount.toNat % msg3Interval cfg.frameRateHz == 0

def fill (cfg : SimSettings) (s : GpsSimulator) (frameCount : UInt32) (f : SimInput) :
    GpsSimulator :=
  let s := if due3500 cfg frameCount then s.queue3500 frameCount f else s
  if due3501 cfg frameCount then s.queue3501 f else s

def addGPSSimToFrame (cfg : SimSettings) (s : GpsSimulator) (frameCount : UInt32)
    (f : SimInput) (image : ℕ → UInt16) : GpsSimulator × (ℕ → UInt16) :=
  let image :=
    if due3500 cfg frameCount then
      writeWords image (Recorder.DisplayTab.ppsImageOffset / 2)
        [0xBABE, 2, frameCount.toUInt16, (frameCount >>> 16).toUInt16]
    else image
  let placed := (s.fill cfg frameCount f).placeChunk image
  -- `TIMESTAMP_IMAGE_OFFSET` is 4 bytes
  (placed.1, writeWords placed.2 2 [frameCount.toUInt16])

end GpsSimulator

/-- The simulated imager leaves line 1 empty. -/
def simImageFrame (frameWidthSamples : ℕ) (pixels : ℕ → UInt16) (i : ℕ) : UInt16 :=
  if i < frameWidthSamples then 0 else pixels i

/-! ### Runs -/

/-- What a run has come to, with the images that went through it. -/
structure SimRun where
  frameCount : UInt32
  simulator : GpsSimulator
  monitor : GpsMonitor
  images : List (ℕ → UInt16)

/-- The monitor plots every fix. -/
def SimSettings.env (cfg : SimSettings) : GpsEnv := ⟨cfg.frameRateHz, 0, cfg.headless⟩

namespace SimRun

def initial : SimRun := ⟨0, .initial, .initial, []⟩

/-- One frame in `lookForImageData` -/
def frame (cfg : SimSettings) (r : SimRun) (f : SimInput) : SimRun :=
  let frameCount := r.frameCount + 1
  let placed := r.simulator.addGPSSimToFrame cfg frameCount f
    (simImageFrame cfg.frameWidthSamples f.pixels)
  { frameCount := frameCount
    simulator := placed.1
    monitor := r.monitor.processImageGPSData cfg.env placed.2
    images := r.images ++ [placed.2] }

def run (cfg : SimSettings) (inputs : List SimInput) : SimRun := inputs.foldl (frame cfg) initial

end SimRun

end Gps
