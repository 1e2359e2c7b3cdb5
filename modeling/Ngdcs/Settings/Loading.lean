import Ngdcs.Settings.SaveLoad

/-! What `loadSettings` leaves in a new block. Whatever stands in the lines of the file, the
indexes and the numbers are in their ranges afterwards. -/
namespace Settings

open CStrings TextLines

/-! ### Lines that are read whole -/

/-- The copy of a line that ends with a newline stops there. -/
theorem matchLine_ne_overrun {n : ℕ} {line : List UInt8} (hline : FitsBuffer n line)
    (key : List UInt8) : matchLine key line ≠ .overrun := by
  obtain ⟨body, hbody, rfl⟩ := hline.newline
  unfold matchLine
  by_cases hkey : key <+: body ++ [10]
  · obtain ⟨p, hp⟩ := hkey
    by_cases hdelimiter : bytes " = " <+: p
    · obtain ⟨rest, rfl⟩ := hdelimiter
      have hnewline : 10 ∈ rest := by
        have hlast := congrArg List.getLast? hp
        rw [List.getLast?_concat, ← List.append_assoc] at hlast
        rcases List.eq_nil_or_concat rest with rfl | ⟨rest, b, rfl⟩
        · simp [show bytes " = " = [32, 61, 32] from rfl] at hlast
        · rw [List.concat_eq_append, ← List.append_assoc, List.getLast?_concat] at hlast
          simp [Option.some.inj hlast]
      have hdrop : (bytes " = " ++ rest).drop 3 = rest := rfl
      rw [← hp, if_pos (List.prefix_append _ _), List.drop_left]
      simp only [if_pos (List.prefix_append (bytes " = ") rest), hdrop, if_pos hnewline]
      exact nofun
    · rw [← hp, if_pos (List.prefix_append _ _), List.drop_left]
      simp only [if_neg hdelimiter]
      exact nofun
  · rw [if_neg hkey]
    exact nofun

theorem findLine_ne_overrun {n : ℕ} {lines : List (List UInt8)}
    (hlines : ∀ line ∈ lines, FitsBuffer n line) (key : List UInt8) :
    findLine key lines ≠ .overrun := by
  induction lines with
  | nil =>
    intro h
    cases h
  | cons line lines ih =>
    have hline := matchLine_ne_overrun (hlines line List.mem_cons_self) key
    have hrest := ih fun l hl => hlines l (List.mem_cons_of_mem line hl)
    unfold findLine
    cases hmatch : matchLine key line with
    | missing => exact hrest
    | value v =>
      intro h
      cases h
    | overrun => exact absurd hmatch hline

/-- No key is looked for beyond a line. -/
def Readable (file : List UInt8) : Prop := ∀ key, getValue file key ≠ .overrun

theorem readable_flatten {lines : List (List UInt8)}
    (hlines : ∀ line ∈ lines, FitsBuffer maxNgdcsLineLen line) : Readable lines.flatten := by
  intro key
  rw [getValue, fgetsAll_flatten hlines]
  exact findLine_ne_overrun hlines key

/-! ### One setting -/

theorem stringToIndex_lt (string : List UInt8) {strings : List (List UInt8)}
    (hpos : 0 < strings.length) : stringToIndex string strings < strings.length := by
  unfold stringToIndex
  cases hindex : strings.idxOf? string with
  | none => exact hpos
  | some i => exact (List.idxOf?_eq_some_iff.mp hindex).1

section

variable {file : List UInt8} (hfile : Readable file)

include hfile

/-- A value that is read lies in the range, and otherwise the setting stays as it is. -/
theorem getIntValue_range (key : String) {setting min max : ℤ}
    (hsetting : min ≤ setting ∧ setting ≤ max) :
    ∃ i, getIntValue file key setting min max = some i ∧ min ≤ i ∧ i ≤ max := by
  have hle : min ≤ max := hsetting.1.trans hsetting.2
  unfold getIntValue
  cases hfound : getValue file (bytes key) with
  | missing => exact ⟨setting, rfl, hsetting⟩
  | value buf =>
    simp only
    split_ifs with hcorrupted hmin hmax
    · exact ⟨setting, rfl, hsetting⟩
    · exact ⟨min, rfl, le_refl min, hle⟩
    · exact ⟨max, rfl, hle, le_refl max⟩
    · exact ⟨_, rfl, not_lt.mp hmin, not_lt.mp hmax⟩
  | overrun => exact absurd hfound (hfile (bytes key))

theorem getIndex_lt (key : String) {strings : List (List UInt8)} {setting : ℕ}
    (hsetting : setting < strings.length) :
    ∃ i, getIndex file key strings setting = some i ∧ i < strings.length := by
  unfold getIndex
  cases hfound : getValue file (bytes key) with
  | missing => exact ⟨setting, rfl, hsetting⟩
  | value buf => exact ⟨_, rfl, stringToIndex_lt buf (Nat.zero_lt_of_lt hsetting)⟩
  | overrun => exact absurd hfound (hfile (bytes key))

theorem getString_some (key : String) (setting : List UInt8) :
    ∃ s, getString file key setting = some s := by
  unfold getString
  cases hfound : getValue file (bytes key) with
  | missing => exact ⟨setting, rfl⟩
  | value buf => exact ⟨buf, rfl⟩
  | overrun => exact absurd hfound (hfile (bytes key))

theorem getDoubleValue_some {D : Doubles} (key : String) (setting min max : D.Carrier) :
    ∃ x, getDoubleValue D file key setting min max = some x := by
  unfold getDoubleValue
  cases hfound : getValue file (bytes key) with
  | missing => exact ⟨setting, rfl⟩
  | value buf =>
    simp only
    split_ifs <;> exact ⟨_, rfl⟩
  | overrun => exact absurd hfound (hfile (bytes key))

theorem getSlot_some (base : String) (mru : Fin 4 → List UInt8) (i : Fin 4) :
    ∃ s, getSlot file base mru i = some s := by
  unfold getSlot
  cases hfound : getValue file (mruKey base i) with
  | missing => exact ⟨mru i, rfl⟩
  | value buf => exact ⟨buf, rfl⟩
  | overrun => exact absurd hfound (hfile (mruKey base i))

theorem getMRU_some (base : String) (mru : Fin 4 → List UInt8) :
    ∃ slots, getMRU file base mru = some slots := by
  obtain ⟨s0, h0⟩ := getSlot_some hfile base mru 0
  obtain ⟨s1, h1⟩ := getSlot_some hfile base mru 1
  obtain ⟨s2, h2⟩ := getSlot_some hfile base mru 2
  obtain ⟨s3, h3⟩ := getSlot_some hfile base mru 3
  exact ⟨![s0, s1, s2, s3], by rw [getMRU, h0, h1, h2, h3]; rfl⟩

/-! ### The settings -/

theorem Acquisition.InRange.load {a : Acquisition} (h : a.InRange) :
    ∃ b, a.load file = some b ∧ b.InRange := by
  obtain ⟨frameRate, hrate, hrate'⟩ := getIntValue_range hfile "framerateindex" h.frameRate
  obtain ⟨frameHeight, hheight, hheight'⟩ := getIndex_lt hfile "frameheight" h.frameHeight
  obtain ⟨frameWidth, hwidth, hwidth'⟩ := getIndex_lt hfile "framewidth" h.frameWidth
  obtain ⟨compressionOption, hcompression, hcompression'⟩ :=
    getIndex_lt hfile "compressionoption" h.compressionOption
  obtain ⟨fmsControlOption, hfms, hfms'⟩ :=
    getIndex_lt hfile "fmscontroloption" h.fmsControlOption
  refine ⟨⟨frameRate, frameHeight, frameWidth, compressionOption, fmsControlOption⟩, ?_,
    ⟨hrate', hheight', hwidth', hcompression', hfms'⟩⟩
  rw [Acquisition.load, hrate, hheight, hwidth, hcompression, hfms]
  rfl

theorem Calibration.InRange.load {c : Calibration} (h : c.InRange) :
    ∃ d, c.load file = some d ∧ d.InRange := by
  obtain ⟨obcInterface, hobc, hobc'⟩ := getIndex_lt hfile "obcinterface" h.obcInterface
  obtain ⟨dark1, hdark1, hdark1'⟩ := getIndex_lt hfile "dark1calperiod" h.dark1CalPeriod
  obtain ⟨dark2, hdark2, hdark2'⟩ := getIndex_lt hfile "dark2calperiod" h.dark2CalPeriod
  obtain ⟨medium, hmedium, hmedium'⟩ := getIndex_lt hfile "mediumcalperiod" h.mediumCalPeriod
  obtain ⟨bright, hbright, hbright'⟩ := getIndex_lt hfile "brightcalperiod" h.brightCalPeriod
  obtain ⟨laser, hlaser, hlaser'⟩ := getIndex_lt hfile "lasercalperiod" h.laserCalPeriod
  refine ⟨⟨obcInterface, dark1, dark2, medium, bright, laser⟩, ?_,
    ⟨hobc', hdark1', hdark2', hmedium', hbright', hlaser'⟩⟩
  rw [Calibration.load, hobc, hdark1, hdark2, hmedium, hbright, hlaser]
  rfl

theorem GPS.InRange.load {g : GPS} (h : g.InRange) : ∃ g', g.load file = some g' ∧ g'.InRange := by
  obtain ⟨baud, hbaud, hbaud'⟩ := getIndex_lt hfile "gpsserialbaud" h.gpsSerialBaud
  obtain ⟨parity, hparity, hparity'⟩ := getIndex_lt hfile "gpsserialparity" h.gpsSerialParity
  obtain ⟨invert, hinvert, hinvert'⟩ := getIndex_lt hfile "gpsserialtxinvert" h.gpsSerialTXInvert
  obtain ⟨mode, hmode, hmode'⟩ := getIndex_lt hfile "gpsinitmode" h.gpsInitMode
  refine ⟨⟨baud, parity, invert, mode⟩, ?_, ⟨hbaud', hparity', hinvert', hmode'⟩⟩
  rw [GPS.load, hbaud, hparity, hinvert, hmode]
  rfl

end

/-- The numbers and indexes of `Display`, for a frame of `lines`. -/
structure Display.Valid {D : Doubles} (d : Display D) (lines : ℤ) : Prop where
  viewerType : d.viewerType < viewerTypes.length
  redBand : 1 ≤ d.redBand ∧ d.redBand ≤ lines - 1
  greenBand : 1 ≤ d.greenBand ∧ d.greenBand ≤ lines - 1
  blueBand : 1 ≤ d.blueBand ∧ d.blueBand ≤ lines - 1
  downtrackSkip : 0 ≤ d.downtrackSkip ∧ d.downtrackSkip ≤ 9
  stretchMin : 0 ≤ d.stretchMin ∧ d.stretchMin ≤ maxDN
  stretchMax : 0 ≤ d.stretchMax ∧ d.stretchMax ≤ maxDN
  darkSubOption : d.darkSubOption < darkSubOptions.length
  navDuration : d.navDuration < navDurations.length
  reflectionOption : d.reflectionOption < reflectionOptions.length

structure ECSConnection.Valid (e : ECSConnection) : Prop where
  ecsConnected : e.ecsConnected < ecsOptions.length
  ecsPort : minEcsPort ≤ e.ecsPort ∧ e.ecsPort ≤ maxEcsPort
  ecsTimeoutInMs : minEcsTimeout ≤ e.ecsTimeoutInMs ∧ e.ecsTimeoutInMs ≤ maxEcsTimeout

/-- Every index is one of its table and every number within its limits; the bands are lines of
the frame. -/
structure SettingsBlock.Valid {D : Doubles} (b : SettingsBlock D) : Prop where
  firstTime : 0 ≤ b.firstTime ∧ b.firstTime ≤ 1
  mode : b.mode < modes.length
  acquisition : b.acquisition.InRange
  display : b.display.Valid b.acquisition.currentFrameHeightLines
  recMargin : b.dataStorage.recMargin < recMargins.length
  calibration : b.calibration.InRange
  shutterInterface : b.shutterInterface < shutterInterfaces.length
  gps : b.gps.InRange
  ecs : b.ecs.Valid
  mountUsed : b.mountUsed < mountOptions.length
  imageSim : b.imageSim < imageSims.length
  gpsSim : b.gpsSim < gpsSims.length
  diagOption : b.diagOption < diagOptions.length

/-- The defaults fit every frame height. -/
theorem Acquisition.InRange.default_band {a : Acquisition} (h : a.InRange) :
    1 ≤ (1 : ℤ) ∧ 1 ≤ a.currentFrameHeightLines - 1 := by
  have hheight : a.frameHeight < 3 := h.frameHeight
  unfold Acquisition.currentFrameHeightLines
  interval_cases a.frameHeight <;> decide

section

variable {file : List UInt8} (hfile : Readable file) {D : Doubles}

include hfile

theorem Display.Valid.load {d : Display D} {lines : ℤ} (h : d.Valid lines) :
    ∃ d', d.load file lines = some d' ∧ d'.Valid lines := by
  obtain ⟨viewer, hviewer, hviewer'⟩ := getIndex_lt hfile "viewertype" h.viewerType
  obtain ⟨red, hred, hred'⟩ := getIntValue_range hfile "redband" h.redBand
  obtain ⟨green, hgreen, hgreen'⟩ := getIntValue_range hfile "greenband" h.greenBand
  obtain ⟨blue, hblue, hblue'⟩ := getIntValue_range hfile "blueband" h.blueBand
  obtain ⟨skip, hskip, hskip'⟩ := getIntValue_range hfile "downtrackskip" h.downtrackSkip
  obtain ⟨min, hmin, hmin'⟩ := getIntValue_range hfile "stretchmin" h.stretchMin
  obtain ⟨max, hmax, hmax'⟩ := getIntValue_range hfile "stretchmax" h.stretchMax
  obtain ⟨g, hg⟩ := getDoubleValue_some hfile "greengain" d.greenGain (D.ofNat 0) (D.ofNat 10)
  obtain ⟨g', hg'⟩ := getDoubleValue_some hfile "bluegain" d.blueGain (D.ofNat 0) (D.ofNat 10)
  obtain ⟨dark, hdark, hdark'⟩ := getIndex_lt hfile "darksuboption" h.darkSubOption
  obtain ⟨mru, hmru⟩ := getMRU_some hfile "darksubdir" d.darkSubDirMRU
  obtain ⟨nav, hnav, hnav'⟩ := getIndex_lt hfile "navduration" h.navDuration
  obtain ⟨reflection, hreflection, hreflection'⟩ :=
    getIndex_lt hfile "reflectionoption" h.reflectionOption
  refine ⟨⟨viewer, red, green, blue, skip, min, max, g, g', dark, mru, nav, reflection⟩, ?_,
    ⟨hviewer', hred', hgreen', hblue', hskip', hmin', hmax', hdark', hnav', hreflection'⟩⟩
  rw [Display.load, hviewer, hred, hgreen, hblue, hskip, hmin, hmax, hg, hg', hdark, hmru, hnav,
    hreflection]
  rfl

theorem DataStorage.load_some {s : DataStorage} (h : s.recMargin < recMargins.length) :
    ∃ s', s.load file = some s' ∧ s'.recMargin < recMargins.length := by
  obtain ⟨margin, hmargin, hmargin'⟩ := getIndex_lt hfile "recmargin" h
  obtain ⟨start, hstart⟩ := getString_some hfile "prefix" s.dataPrefix
  obtain ⟨mru, hmru⟩ := getMRU_some hfile "productrootdir" s.productRootDirMRU
  refine ⟨⟨margin, start, mru⟩, ?_, hmargin'⟩
  rw [DataStorage.load, hmargin, hstart, hmru]
  rfl

variable {decrypt : List UInt8 → Option (List UInt8)} {password : List UInt8}
  (hpassword : getPassword file decrypt = some password)

include hpassword

theorem ECSConnection.Valid.load {e : ECSConnection} (h : e.Valid) :
    ∃ e', e.load file decrypt = some e' ∧ e'.Valid := by
  obtain ⟨connected, hconnected, hconnected'⟩ := getIndex_lt hfile "ecsconnected" h.ecsConnected
  obtain ⟨host, hhost⟩ := getString_some hfile "ecshost" e.ecsHost
  obtain ⟨port, hport, hport'⟩ := getIntValue_range hfile "ecsport" h.ecsPort
  obtain ⟨timeout, htimeout, htimeout'⟩ :=
    getIntValue_range hfile "ecstimeoutinms" h.ecsTimeoutInMs
  obtain ⟨username, husername⟩ := getString_some hfile "ecsusername" e.ecsUsername
  refine ⟨⟨connected, host, port, timeout, username, password⟩, ?_,
    ⟨hconnected', hport', htimeout'⟩⟩
  rw [ECSConnection.load, hconnected, hhost, hport, htimeout, husername, hpassword]
  rfl

/-- The bands have to fit whichever frame height is loaded. -/
theorem SettingsBlock.Valid.load {b : SettingsBlock D} (h : b.Valid)
    (hbands : ∀ a : Acquisition, a.InRange → b.display.Valid a.currentFrameHeightLines) :
    ∃ c, loadSettingsWith file decrypt b = some c ∧ c.Valid := by
  obtain ⟨first, hfirst, hfirst'⟩ := getIntValue_range hfile "firsttime" h.firstTime
  obtain ⟨mode, hmode, hmode'⟩ := getIndex_lt hfile "mode" h.mode
  obtain ⟨acquisition, hacquisition, hacquisition'⟩ := h.acquisition.load hfile
  obtain ⟨display, hdisplay, hdisplay'⟩ := (hbands acquisition hacquisition').load hfile
  obtain ⟨storage, hstorage, hstorage'⟩ := DataStorage.load_some hfile h.recMargin
  obtain ⟨calibration, hcalibration, hcalibration'⟩ := h.calibration.load hfile
  obtain ⟨shutter, hshutter, hshutter'⟩ := getIndex_lt hfile "shutterinterface" h.shutterInterface
  obtain ⟨gps, hgps, hgps'⟩ := h.gps.load hfile
  obtain ⟨ecs, hecs, hecs'⟩ := h.ecs.load hfile hpassword
  obtain ⟨mount, hmount, hmount'⟩ := getIndex_lt hfile "mountused" h.mountUsed
  obtain ⟨dev, hdev⟩ := getString_some hfile "mountdev" b.mountDev
  obtain ⟨headless, hheadless⟩ := getString_some hfile "headlessdev" b.headlessDev
  obtain ⟨image, himage, himage'⟩ := getIndex_lt hfile "imagesim" h.imageSim
  obtain ⟨gpssim, hgpssim, hgpssim'⟩ := getIndex_lt hfile "gpssim" h.gpsSim
  obtain ⟨diag, hdiag, hdiag'⟩ := getIndex_lt hfile "diagoption" h.diagOption
  refine ⟨⟨first, mode, acquisition, display, storage, calibration, shutter, gps, ecs, mount, dev,
    headless, image, gpssim, diag⟩, ?_, ⟨hfirst', hmode', hacquisition', hdisplay', hstorage',
    hcalibration', hshutter', hgps', hecs', hmount', himage', hgpssim', hdiag'⟩⟩
  rw [loadSettingsWith, hfirst, hmode, hacquisition, hstorage, hcalibration, hshutter, hgps, hecs,
    hmount, hdev, hheadless, himage, hgpssim, hdiag]
  simp only [Option.bind_eq_bind, Option.bind_some, hdisplay]
  rfl

end

/-! ### A new block -/

section

variable {D : Doubles}

/-- The bands of a new block are the first lines after line 0. -/
theorem SettingsBlock.fresh_display {a : Acquisition} (ha : a.InRange) :
    (SettingsBlock.fresh D).display.Valid a.currentFrameHeightLines := by
  have hband := ha.default_band
  constructor
  case redBand => exact hband
  case greenBand => exact hband
  case blueBand => exact hband
  all_goals
    simp only [SettingsBlock.fresh]
    decide

theorem SettingsBlock.fresh_valid : (SettingsBlock.fresh D).Valid := by
  have hacquisition : (SettingsBlock.fresh D).acquisition.InRange := by
    constructor <;> simp only [SettingsBlock.fresh] <;> decide
  have hcalibration : (SettingsBlock.fresh D).calibration.InRange := by
    constructor <;> simp only [SettingsBlock.fresh] <;> decide
  have hgps : (SettingsBlock.fresh D).gps.InRange := by
    constructor <;> simp only [SettingsBlock.fresh] <;> decide
  have hecs : (SettingsBlock.fresh D).ecs.Valid := by
    constructor <;> simp only [SettingsBlock.fresh] <;> decide
  constructor
  case acquisition => exact hacquisition
  case display => exact SettingsBlock.fresh_display hacquisition
  case calibration => exact hcalibration
  case gps => exact hgps
  case ecs => exact hecs
  all_goals
    simp only [SettingsBlock.fresh]
    decide

theorem getPassword_of_loadSettingsWith {file : List UInt8}
    {decrypt : List UInt8 → Option (List UInt8)} {b c : SettingsBlock D}
    (h : loadSettingsWith file decrypt b = some c) :
    ∃ password, getPassword file decrypt = some password := by
  cases hpassword : getPassword file decrypt with
  | some password => exact ⟨password, rfl⟩
  | none => simp [loadSettingsWith, ECSConnection.load, hpassword] at h

/-- Lines that end with a newline and fit into the buffer, with any text, leave a new block with
valid settings: where `decrypted` stays in its arrays, and with whatever text it returns. -/
theorem loadSettings_valid {lines : List (List UInt8)}
    (hlines : ∀ line ∈ lines, FitsBuffer maxNgdcsLineLen line) :
    (∀ cipher mac result (b : SettingsBlock D),
      loadSettings cipher mac lines.flatten result (SettingsBlock.fresh D) = some b → b.Valid) ∧
    ∀ decrypt : List UInt8 → List UInt8, ∃ b : SettingsBlock D,
      loadSettingsWith lines.flatten (fun text => some (decrypt text)) (SettingsBlock.fresh D) =
        some b ∧ b.Valid := by
  have hfile := readable_flatten hlines
  constructor
  · intro cipher mac result b hload
    obtain ⟨password, hpassword⟩ := getPassword_of_loadSettingsWith hload
    obtain ⟨c, hc, hvalid⟩ := SettingsBlock.fresh_valid.load hfile hpassword
      fun a ha => SettingsBlock.fresh_display ha
    rw [loadSettings, hc] at hload
    exact Option.some.inj hload ▸ hvalid
  · intro decrypt
    obtain ⟨password, hpassword⟩ :
        ∃ password, getPassword lines.flatten (fun text => some (decrypt text)) =
          some password := by
      unfold getPassword
      cases hfound : getValue lines.flatten (bytes "ecspassword") with
      | missing => exact ⟨[], rfl⟩
      | value buf => exact ⟨decrypt buf, rfl⟩
      | overrun => exact absurd hfound (hfile _)
    exact SettingsBlock.fresh_valid.load hfile hpassword fun a ha =>
      SettingsBlock.fresh_display ha

/-- A height that is lowered, a band beyond it, one that is not a number, a mode that does not
exist and a misspelled key. -/
def exampleCorruptFile : List (List UInt8) :=
  ["frameheight = 285 lines", "redband = 480", "greenband = 1x", "mode = Tset",
    "blueban = 7"].map fun s => bytes s ++ [10]

theorem loadSettings_valid_example :
    ∃ b, loadSettings exampleCipher none exampleCorruptFile.flatten (List.replicate 64 0)
      (SettingsBlock.fresh wholeNumbers) = some b ∧ b.Valid ∧
      b.display.redBand = 284 ∧ b.display.greenBand = 1 ∧ b.mode = 0 := by
  have hlines : ∀ line ∈ exampleCorruptFile, FitsBuffer maxNgdcsLineLen line := by
    intro line hline
    obtain ⟨s, hs, rfl⟩ := List.mem_map.mp hline
    have hbody : ∀ s ∈ ["frameheight = 285 lines", "redband = 480", "greenband = 1x",
        "mode = Tset", "blueban = 7"], 10 ∉ bytes s ∧ (bytes s ++ [10]).length ≤ 256 := by decide
    exact ⟨⟨bytes s, (hbody s hs).1, rfl⟩, (hbody s hs).2⟩
  have hload : (loadSettings exampleCipher none exampleCorruptFile.flatten (List.replicate 64 0)
      (SettingsBlock.fresh wholeNumbers)).map
      (fun b => (b.display.redBand, b.display.greenBand, b.mode)) = some (284, 1, 0) := by
    decide +kernel
  obtain ⟨b, hb, hvalues⟩ := Option.map_eq_some_iff.mp hload
  simp only [Prod.mk.injEq] at hvalues
  exact ⟨b, hb, (loadSettings_valid hlines).1 _ _ _ b hb, hvalues⟩

end

end Settings
