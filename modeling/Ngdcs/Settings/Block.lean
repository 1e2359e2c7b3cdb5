import Ngdcs.Settings.Password

/-! `SettingsBlock`, with `saveSettings` and `loadSettings`. The settings stand in the groups of
`settingsBlock.h`; the text of the warnings is left out. -/
namespace Settings

open CStrings

/-! ### Tables -/

def numFrameRates : ℤ := 7

def modes : List (List UInt8) := [bytes "Operational", bytes "Test"]

def frameHeights : List (List UInt8) := [bytes "285 lines", bytes "481 lines", bytes "1024 lines"]

def frameHeightsLines : List ℤ := [285, 481, 1024]

def frameWidths : List (List UInt8) := [bytes "640 pixels", bytes "1024 pixels"]

def compressionOptions : List (List UInt8) :=
  [bytes "Unsupported", bytes "Off", bytes "Both", bytes "Only"]

def fmsControlOptions : List (List UInt8) := [bytes "No", bytes "Yes"]

def viewerTypes : List (List UInt8) := [bytes "Frame", bytes "Waterfall", bytes "Combo"]

def darkSubOptions : List (List UInt8) := [bytes "No", bytes "Yes"]

def navDurations : List (List UInt8) :=
  [bytes "30 secs", bytes "1 min", bytes "2 mins", bytes "5 mins"]

def reflectionOptions : List (List UInt8) := [bytes "Off", bytes "On"]

def recMargins : List (List UInt8) := [
  bytes "0 %",
  bytes "0.1 %", bytes "0.2 %", bytes "0.5 %",
  bytes "1 %", bytes "2 %", bytes "5 %",
  bytes "10 %", bytes "20 %", bytes "50 %"]

def obcInterfaces : List (List UInt8) := [bytes "None", bytes "FPGA"]

def calPeriods : List (List UInt8) := [
  bytes "Disabled", bytes "1 sec", bytes "2 secs", bytes "3 secs", bytes "4 secs",
  bytes "5 secs", bytes "6 secs", bytes "7 secs", bytes "8 secs", bytes "9 secs",
  bytes "10 secs", bytes "11 secs", bytes "12 secs"]

def shutterInterfaces : List (List UInt8) := [bytes "None", bytes "Maxon"]

def gpsSerialBauds : List (List UInt8) := [bytes "38400 bps", bytes "115200 bps"]

def gpsSerialParities : List (List UInt8) := [bytes "None", bytes "Even", bytes "Odd"]

def gpsSerialTXInverts : List (List UInt8) := [bytes "Off", bytes "On"]

def gpsInitModes : List (List UInt8) := [bytes "Ground", bytes "Air"]

def ecsOptions : List (List UInt8) := [bytes "No", bytes "Yes"]

def mountOptions : List (List UInt8) := [bytes "No", bytes "Yes"]

def imageSims : List (List UInt8) :=
  [bytes "None", bytes "DN increases with line", bytes "DN increases with frame"]

def gpsSims : List (List UInt8) :=
  [bytes "None", bytes "All messages", bytes "All messages except #3"]

def diagOptions : List (List UInt8) := [bytes "Off", bytes "On"]

def maxDN : ℤ := 2 ^ 14 - 1

def minEcsPort : ℤ := 1

def maxEcsPort : ℤ := 65535

def minEcsTimeout : ℤ := 0

def maxEcsTimeout : ℤ := 5000

/-! ### Settings -/

/-- `double`, as it is printed with `%g` and read with `strtod`. -/
structure Doubles where
  Carrier : Type
  ofNat : ℕ → Carrier
  less : Carrier → Carrier → Bool
  printG : Carrier → List UInt8
  strtod : List UInt8 → Carrier × List UInt8
  printG_text : ∀ x, 10 ∉ printG x ∧ 0 ∉ printG x ∧ (printG x).length ≤ 100

/-- `SettingsBlock::getDoubleValue` -/
def getDoubleValue (D : Doubles) (file : List UInt8) (key : String)
    (setting min max : D.Carrier) : Option D.Carrier :=
  match getValue file (bytes key) with
  | .missing => some setting
  | .value buf =>
    let r := D.strtod buf
    if r.2 ≠ [] then some setting
    else some (if D.less r.1 min then min else if D.less max r.1 then max else r.1)
  | .overrun => none

structure Acquisition where
  frameRate : ℤ
  frameHeight : ℕ
  frameWidth : ℕ
  compressionOption : ℕ
  fmsControlOption : ℕ

structure Display (D : Doubles) where
  viewerType : ℕ
  redBand : ℤ
  greenBand : ℤ
  blueBand : ℤ
  downtrackSkip : ℤ
  stretchMin : ℤ
  stretchMax : ℤ
  greenGain : D.Carrier
  blueGain : D.Carrier
  darkSubOption : ℕ
  darkSubDirMRU : Fin 4 → List UInt8
  navDuration : ℕ
  reflectionOption : ℕ

structure DataStorage where
  recMargin : ℕ
  dataPrefix : List UInt8
  productRootDirMRU : Fin 4 → List UInt8

structure Calibration where
  obcInterface : ℕ
  dark1CalPeriod : ℕ
  dark2CalPeriod : ℕ
  mediumCalPeriod : ℕ
  brightCalPeriod : ℕ
  laserCalPeriod : ℕ

structure GPS where
  gpsSerialBaud : ℕ
  gpsSerialParity : ℕ
  gpsSerialTXInvert : ℕ
  gpsInitMode : ℕ

structure ECSConnection where
  ecsConnected : ℕ
  ecsHost : List UInt8
  ecsPort : ℤ
  ecsTimeoutInMs : ℤ
  ecsUsername : List UInt8
  ecsPassword : List UInt8

structure SettingsBlock (D : Doubles) where
  firstTime : ℤ
  mode : ℕ
  acquisition : Acquisition
  display : Display D
  dataStorage : DataStorage
  calibration : Calibration
  shutterInterface : ℕ
  gps : GPS
  ecs : ECSConnection
  mountUsed : ℕ
  mountDev : List UInt8
  headlessDev : List UInt8
  imageSim : ℕ
  gpsSim : ℕ
  diagOption : ℕ

/-- An MRU list with one directory. -/
def newMRU (dir : List UInt8) : Fin 4 → List UInt8 := ![dir, [], [], []]

/-- The constructor. -/
def SettingsBlock.fresh (D : Doubles) : SettingsBlock D where
  firstTime := 1
  mode := 0
  acquisition := {
    frameRate := numFrameRates - 1
    frameHeight := 1
    frameWidth := 0
    compressionOption := 0
    fmsControlOption := 0 }
  display := {
    viewerType := 1
    redBand := 1
    greenBand := 1
    blueBand := 1
    downtrackSkip := 0
    stretchMin := 0
    stretchMax := maxDN
    greenGain := D.ofNat 1
    blueGain := D.ofNat 1
    darkSubOption := 0
    darkSubDirMRU := newMRU (bytes "/usr/local/lib")
    navDuration := 0
    reflectionOption := 0 }
  dataStorage := {
    recMargin := 0
    dataPrefix := bytes "NGDCS"
    productRootDirMRU := newMRU (bytes "/data") }
  calibration := {
    obcInterface := 0
    dark1CalPeriod := 0
    dark2CalPeriod := 0
    mediumCalPeriod := 0
    brightCalPeriod := 0
    laserCalPeriod := 0 }
  shutterInterface := 0
  gps := {
    gpsSerialBaud := 0
    gpsSerialParity := 2
    gpsSerialTXInvert := 0
    gpsInitMode := 1 }
  ecs := {
    ecsConnected := 1
    ecsHost := bytes "192.168.1.4"
    ecsPort := 21
    ecsTimeoutInMs := 1000
    ecsUsername := bytes "ngdcsftp"
    ecsPassword := [] }
  mountUsed := 0
  mountDev := bytes "/dev/ttyUSB0"
  headlessDev := bytes "/dev/ttyUSB1"
  imageSim := 0
  gpsSim := 0
  diagOption := 0

def Acquisition.currentFrameHeightLines (a : Acquisition) : ℤ :=
  frameHeightsLines.getD a.frameHeight 0

/-! ### Saving -/

def Acquisition.entries (a : Acquisition) : List Entry := [
  intEntry "framerateindex" a.frameRate,
  indexEntry "frameheight" frameHeights a.frameHeight,
  indexEntry "framewidth" frameWidths a.frameWidth,
  indexEntry "compressionoption" compressionOptions a.compressionOption,
  indexEntry "fmscontroloption" fmsControlOptions a.fmsControlOption]

def Display.entries {D : Doubles} (d : Display D) : List Entry := [
  indexEntry "viewertype" viewerTypes d.viewerType,
  intEntry "redband" d.redBand,
  intEntry "greenband" d.greenBand,
  intEntry "blueband" d.blueBand,
  intEntry "downtrackskip" d.downtrackSkip,
  intEntry "stretchmin" d.stretchMin,
  intEntry "stretchmax" d.stretchMax,
  (bytes "greengain", some (D.printG d.greenGain)),
  (bytes "bluegain", some (D.printG d.blueGain)),
  indexEntry "darksuboption" darkSubOptions d.darkSubOption] ++
  mruEntries "darksubdir" d.darkSubDirMRU ++ [
  indexEntry "navduration" navDurations d.navDuration,
  indexEntry "reflectionoption" reflectionOptions d.reflectionOption]

def DataStorage.entries (s : DataStorage) : List Entry := [
  indexEntry "recmargin" recMargins s.recMargin,
  stringEntry "prefix" s.dataPrefix] ++
  mruEntries "productrootdir" s.productRootDirMRU

def Calibration.entries (c : Calibration) : List Entry := [
  indexEntry "obcinterface" obcInterfaces c.obcInterface,
  indexEntry "dark1calperiod" calPeriods c.dark1CalPeriod,
  indexEntry "dark2calperiod" calPeriods c.dark2CalPeriod,
  indexEntry "mediumcalperiod" calPeriods c.mediumCalPeriod,
  indexEntry "brightcalperiod" calPeriods c.brightCalPeriod,
  indexEntry "lasercalperiod" calPeriods c.laserCalPeriod]

def GPS.entries (g : GPS) : List Entry := [
  indexEntry "gpsserialbaud" gpsSerialBauds g.gpsSerialBaud,
  indexEntry "gpsserialparity" gpsSerialParities g.gpsSerialParity,
  indexEntry "gpsserialtxinvert" gpsSerialTXInverts g.gpsSerialTXInvert,
  indexEntry "gpsinitmode" gpsInitModes g.gpsInitMode]

section

variable (cipher : Blowfish) (mac : Option (List UInt8))

def ECSConnection.entries (e : ECSConnection) : List Entry := [
  indexEntry "ecsconnected" ecsOptions e.ecsConnected,
  stringEntry "ecshost" e.ecsHost,
  intEntry "ecsport" e.ecsPort,
  intEntry "ecstimeoutinms" e.ecsTimeoutInMs,
  stringEntry "ecsusername" e.ecsUsername,
  (bytes "ecspassword", encrypted cipher (macKey mac) e.ecsPassword)]

variable {D : Doubles}

def SettingsBlock.entries (b : SettingsBlock D) : List Entry :=
  [intEntry "firsttime" 0,
   indexEntry "mode" modes b.mode] ++
  b.acquisition.entries ++
  b.display.entries ++
  b.dataStorage.entries ++
  b.calibration.entries ++
  [indexEntry "shutterinterface" shutterInterfaces b.shutterInterface] ++
  b.gps.entries ++
  b.ecs.entries cipher mac ++
  [indexEntry "mountused" mountOptions b.mountUsed,
   stringEntry "mountdev" b.mountDev,
   stringEntry "headlessdev" b.headlessDev,
   indexEntry "imagesim" imageSims b.imageSim,
   indexEntry "gpssim" gpsSims b.gpsSim,
   indexEntry "diagoption" diagOptions b.diagOption]

/-- `SettingsBlock::saveSettings`, where the file can be opened: its text. -/
def saveSettings (b : SettingsBlock D) : Option (List UInt8) := saveLines (b.entries cipher mac)

/-! ### Loading -/

variable (file : List UInt8)

def Acquisition.load (a : Acquisition) : Option Acquisition := do
  let frameRate ← getIntValue file "framerateindex" a.frameRate 0 (numFrameRates - 1)
  let frameHeight ← getIndex file "frameheight" frameHeights a.frameHeight
  let frameWidth ← getIndex file "framewidth" frameWidths a.frameWidth
  let compressionOption ← getIndex file "compressionoption" compressionOptions a.compressionOption
  let fmsControlOption ← getIndex file "fmscontroloption" fmsControlOptions a.fmsControlOption
  return { frameRate, frameHeight, frameWidth, compressionOption, fmsControlOption }

/-- `lines` is `currentFrameHeightLines()`, by then the saved one. -/
def Display.load (lines : ℤ) (d : Display D) : Option (Display D) := do
  let viewerType ← getIndex file "viewertype" viewerTypes d.viewerType
  let redBand ← getIntValue file "redband" d.redBand 1 (lines - 1)
  let greenBand ← getIntValue file "greenband" d.greenBand 1 (lines - 1)
  let blueBand ← getIntValue file "blueband" d.blueBand 1 (lines - 1)
  let downtrackSkip ← getIntValue file "downtrackskip" d.downtrackSkip 0 9
  let stretchMin ← getIntValue file "stretchmin" d.stretchMin 0 maxDN
  let stretchMax ← getIntValue file "stretchmax" d.stretchMax 0 maxDN
  let greenGain ← getDoubleValue D file "greengain" d.greenGain (D.ofNat 0) (D.ofNat 10)
  let blueGain ← getDoubleValue D file "bluegain" d.blueGain (D.ofNat 0) (D.ofNat 10)
  let darkSubOption ← getIndex file "darksuboption" darkSubOptions d.darkSubOption
  let darkSubDirMRU ← getMRU file "darksubdir" d.darkSubDirMRU
  let navDuration ← getIndex file "navduration" navDurations d.navDuration
  let reflectionOption ← getIndex file "reflectionoption" reflectionOptions d.reflectionOption
  return {
    viewerType, redBand, greenBand, blueBand, downtrackSkip, stretchMin, stretchMax, greenGain,
    blueGain, darkSubOption, darkSubDirMRU, navDuration, reflectionOption }

def DataStorage.load (s : DataStorage) : Option DataStorage := do
  let recMargin ← getIndex file "recmargin" recMargins s.recMargin
  let dataPrefix ← getString file "prefix" s.dataPrefix
  let productRootDirMRU ← getMRU file "productrootdir" s.productRootDirMRU
  return { recMargin, dataPrefix, productRootDirMRU }

def Calibration.load (c : Calibration) : Option Calibration := do
  let obcInterface ← getIndex file "obcinterface" obcInterfaces c.obcInterface
  let dark1CalPeriod ← getIndex file "dark1calperiod" calPeriods c.dark1CalPeriod
  let dark2CalPeriod ← getIndex file "dark2calperiod" calPeriods c.dark2CalPeriod
  let mediumCalPeriod ← getIndex file "mediumcalperiod" calPeriods c.mediumCalPeriod
  let brightCalPeriod ← getIndex file "brightcalperiod" calPeriods c.brightCalPeriod
  let laserCalPeriod ← getIndex file "lasercalperiod" calPeriods c.laserCalPeriod
  return {
    obcInterface, dark1CalPeriod, dark2CalPeriod, mediumCalPeriod, brightCalPeriod,
    laserCalPeriod }

def GPS.load (g : GPS) : Option GPS := do
  let gpsSerialBaud ← getIndex file "gpsserialbaud" gpsSerialBauds g.gpsSerialBaud
  let gpsSerialParity ← getIndex file "gpsserialparity" gpsSerialParities g.gpsSerialParity
  let gpsSerialTXInvert ← getIndex file "gpsserialtxinvert" gpsSerialTXInverts g.gpsSerialTXInvert
  let gpsInitMode ← getIndex file "gpsinitmode" gpsInitModes g.gpsInitMode
  return { gpsSerialBaud, gpsSerialParity, gpsSerialTXInvert, gpsInitMode }

/-- The password is empty if its key is missing; `decrypt` is what `decrypted` makes of the text
in the file. -/
def getPassword (decrypt : List UInt8 → Option (List UInt8)) : Option (List UInt8) :=
  match getValue file (bytes "ecspassword") with
  | .missing => some []
  | .value buf => decrypt buf
  | .overrun => none

def ECSConnection.load (decrypt : List UInt8 → Option (List UInt8)) (e : ECSConnection) :
    Option ECSConnection := do
  let ecsConnected ← getIndex file "ecsconnected" ecsOptions e.ecsConnected
  let ecsHost ← getString file "ecshost" e.ecsHost
  let ecsPort ← getIntValue file "ecsport" e.ecsPort minEcsPort maxEcsPort
  let ecsTimeoutInMs ←
    getIntValue file "ecstimeoutinms" e.ecsTimeoutInMs minEcsTimeout maxEcsTimeout
  let ecsUsername ← getString file "ecsusername" e.ecsUsername
  let ecsPassword ← getPassword file decrypt
  return { ecsConnected, ecsHost, ecsPort, ecsTimeoutInMs, ecsUsername, ecsPassword }

/-- `SettingsBlock::loadSettings` for a file that can be opened, with any `decrypt`. -/
def loadSettingsWith (decrypt : List UInt8 → Option (List UInt8)) (b : SettingsBlock D) :
    Option (SettingsBlock D) := do
  let firstTime ← getIntValue file "firsttime" b.firstTime 0 1
  let mode ← getIndex file "mode" modes b.mode
  let acquisition ← b.acquisition.load file
  let display ← b.display.load file acquisition.currentFrameHeightLines
  let dataStorage ← b.dataStorage.load file
  let calibration ← b.calibration.load file
  let shutterInterface ← getIndex file "shutterinterface" shutterInterfaces b.shutterInterface
  let gps ← b.gps.load file
  let ecs ← b.ecs.load file decrypt
  let mountUsed ← getIndex file "mountused" mountOptions b.mountUsed
  let mountDev ← getString file "mountdev" b.mountDev
  let headlessDev ← getString file "headlessdev" b.headlessDev
  let imageSim ← getIndex file "imagesim" imageSims b.imageSim
  let gpsSim ← getIndex file "gpssim" gpsSims b.gpsSim
  let diagOption ← getIndex file "diagoption" diagOptions b.diagOption
  return {
    firstTime, mode, acquisition, display, dataStorage, calibration, shutterInterface, gps, ecs,
    mountUsed, mountDev, headlessDev, imageSim, gpsSim, diagOption }

/-- `SettingsBlock::loadSettings` for a file that can be opened; `result` is the static array of
`decrypted`. -/
def loadSettings (result : List UInt8) (b : SettingsBlock D) : Option (SettingsBlock D) :=
  loadSettingsWith file (decrypted cipher (macKey mac) result) b

end

end Settings
