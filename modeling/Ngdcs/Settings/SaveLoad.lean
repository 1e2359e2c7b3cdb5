import Ngdcs.Settings.Block

/-! Settings that are saved are loaded again. Every key is written on one line of its own, and no
two lines have the same key. -/
namespace Settings

open CStrings

/-! ### Settings that can be saved -/

structure Acquisition.InRange (a : Acquisition) : Prop where
  frameRate : 0 ≤ a.frameRate ∧ a.frameRate ≤ numFrameRates - 1
  frameHeight : a.frameHeight < frameHeights.length
  frameWidth : a.frameWidth < frameWidths.length
  compressionOption : a.compressionOption < compressionOptions.length
  fmsControlOption : a.fmsControlOption < fmsControlOptions.length

structure Display.InRange {D : Doubles} (d : Display D) (lines : ℤ) : Prop where
  viewerType : d.viewerType < viewerTypes.length
  redBand : 1 ≤ d.redBand ∧ d.redBand ≤ lines - 1
  greenBand : 1 ≤ d.greenBand ∧ d.greenBand ≤ lines - 1
  blueBand : 1 ≤ d.blueBand ∧ d.blueBand ≤ lines - 1
  downtrackSkip : 0 ≤ d.downtrackSkip ∧ d.downtrackSkip ≤ 9
  stretchMin : 0 ≤ d.stretchMin ∧ d.stretchMin ≤ maxDN
  stretchMax : 0 ≤ d.stretchMax ∧ d.stretchMax ≤ maxDN
  darkSubOption : d.darkSubOption < darkSubOptions.length
  darkSubDirMRU : ∀ e ∈ mruEntries "darksubdir" d.darkSubDirMRU, FitsLine e
  navDuration : d.navDuration < navDurations.length
  reflectionOption : d.reflectionOption < reflectionOptions.length

structure DataStorage.InRange (s : DataStorage) : Prop where
  recMargin : s.recMargin < recMargins.length
  dataPrefix : FitsLine (stringEntry "prefix" s.dataPrefix)
  productRootDirMRU : ∀ e ∈ mruEntries "productrootdir" s.productRootDirMRU, FitsLine e

structure Calibration.InRange (c : Calibration) : Prop where
  obcInterface : c.obcInterface < obcInterfaces.length
  dark1CalPeriod : c.dark1CalPeriod < calPeriods.length
  dark2CalPeriod : c.dark2CalPeriod < calPeriods.length
  mediumCalPeriod : c.mediumCalPeriod < calPeriods.length
  brightCalPeriod : c.brightCalPeriod < calPeriods.length
  laserCalPeriod : c.laserCalPeriod < calPeriods.length

structure GPS.InRange (g : GPS) : Prop where
  gpsSerialBaud : g.gpsSerialBaud < gpsSerialBauds.length
  gpsSerialParity : g.gpsSerialParity < gpsSerialParities.length
  gpsSerialTXInvert : g.gpsSerialTXInvert < gpsSerialTXInverts.length
  gpsInitMode : g.gpsInitMode < gpsInitModes.length

structure ECSConnection.InRange (e : ECSConnection) : Prop where
  ecsConnected : e.ecsConnected < ecsOptions.length
  ecsHost : FitsLine (stringEntry "ecshost" e.ecsHost)
  ecsPort : minEcsPort ≤ e.ecsPort ∧ e.ecsPort ≤ maxEcsPort
  ecsTimeoutInMs : minEcsTimeout ≤ e.ecsTimeoutInMs ∧ e.ecsTimeoutInMs ≤ maxEcsTimeout
  ecsUsername : FitsLine (stringEntry "ecsusername" e.ecsUsername)
  ecsPassword : 0 ∉ e.ecsPassword ∧ e.ecsPassword.length ≤ 24

/-- The indexes and numbers are in their ranges, the bands within the frame, and the strings
within one line. -/
structure SettingsBlock.InRange {D : Doubles} (b : SettingsBlock D) : Prop where
  mode : b.mode < modes.length
  acquisition : b.acquisition.InRange
  display : b.display.InRange b.acquisition.currentFrameHeightLines
  dataStorage : b.dataStorage.InRange
  calibration : b.calibration.InRange
  shutterInterface : b.shutterInterface < shutterInterfaces.length
  gps : b.gps.InRange
  ecs : b.ecs.InRange
  mountUsed : b.mountUsed < mountOptions.length
  mountDev : FitsLine (stringEntry "mountdev" b.mountDev)
  headlessDev : FitsLine (stringEntry "headlessdev" b.headlessDev)
  imageSim : b.imageSim < imageSims.length
  gpsSim : b.gpsSim < gpsSims.length
  diagOption : b.diagOption < diagOptions.length

/-! ### Saving -/

theorem Acquisition.InRange.fitsLines {a : Acquisition} (h : a.InRange) :
    ∀ e ∈ a.entries, FitsLine e := by
  simp only [Acquisition.entries, List.forall_mem_cons]
  exact ⟨fitsLine_int (by decide) h.frameRate (by decide),
    fitsLine_index (by decide) (by decide) h.frameHeight,
    fitsLine_index (by decide) (by decide) h.frameWidth,
    fitsLine_index (by decide) (by decide) h.compressionOption,
    fitsLine_index (by decide) (by decide) h.fmsControlOption, nofun⟩

/-- The bands are `int`s. -/
theorem Acquisition.InRange.bands {a : Acquisition} (h : a.InRange) :
    -2 ^ 31 < (1 : ℤ) ∧ a.currentFrameHeightLines - 1 < 2 ^ 31 := by
  have hheight : a.frameHeight < 3 := h.frameHeight
  unfold Acquisition.currentFrameHeightLines
  interval_cases a.frameHeight <;> decide

theorem Display.InRange.fitsLines {D : Doubles} {d : Display D} {lines : ℤ}
    (h : d.InRange lines) (hlines : -2 ^ 31 < (1 : ℤ) ∧ lines - 1 < 2 ^ 31) :
    ∀ e ∈ d.entries, FitsLine e := by
  obtain ⟨hgreen, hgreen', hgreen''⟩ := D.printG_text d.greenGain
  obtain ⟨hblue, hblue', hblue''⟩ := D.printG_text d.blueGain
  simp only [Display.entries, List.forall_mem_append, List.forall_mem_cons]
  exact ⟨⟨⟨fitsLine_index (by decide) (by decide) h.viewerType,
    fitsLine_int (by decide) h.redBand hlines, fitsLine_int (by decide) h.greenBand hlines,
    fitsLine_int (by decide) h.blueBand hlines,
    fitsLine_int (by decide) h.downtrackSkip (by decide),
    fitsLine_int (by decide) h.stretchMin (by decide),
    fitsLine_int (by decide) h.stretchMax (by decide),
    fitsLine_of_length (by decide) hgreen hgreen' hgreen'',
    fitsLine_of_length (by decide) hblue hblue' hblue'',
    fitsLine_index (by decide) (by decide) h.darkSubOption, nofun⟩, h.darkSubDirMRU⟩,
    fitsLine_index (by decide) (by decide) h.navDuration,
    fitsLine_index (by decide) (by decide) h.reflectionOption, nofun⟩

theorem DataStorage.InRange.fitsLines {s : DataStorage} (h : s.InRange) :
    ∀ e ∈ s.entries, FitsLine e := by
  simp only [DataStorage.entries, List.forall_mem_append, List.forall_mem_cons]
  exact ⟨⟨fitsLine_index (by decide) (by decide) h.recMargin, h.dataPrefix, nofun⟩,
    h.productRootDirMRU⟩

theorem Calibration.InRange.fitsLines {c : Calibration} (h : c.InRange) :
    ∀ e ∈ c.entries, FitsLine e := by
  have hperiods : ∀ s ∈ calPeriods, 10 ∉ s ∧ 0 ∉ s ∧ s.length ≤ 100 := by decide
  simp only [Calibration.entries, List.forall_mem_cons]
  exact ⟨fitsLine_index (by decide) (by decide) h.obcInterface,
    fitsLine_index (by decide) hperiods h.dark1CalPeriod,
    fitsLine_index (by decide) hperiods h.dark2CalPeriod,
    fitsLine_index (by decide) hperiods h.mediumCalPeriod,
    fitsLine_index (by decide) hperiods h.brightCalPeriod,
    fitsLine_index (by decide) hperiods h.laserCalPeriod, nofun⟩

theorem GPS.InRange.fitsLines {g : GPS} (h : g.InRange) : ∀ e ∈ g.entries, FitsLine e := by
  simp only [GPS.entries, List.forall_mem_cons]
  exact ⟨fitsLine_index (by decide) (by decide) h.gpsSerialBaud,
    fitsLine_index (by decide) (by decide) h.gpsSerialParity,
    fitsLine_index (by decide) (by decide) h.gpsSerialTXInvert,
    fitsLine_index (by decide) (by decide) h.gpsInitMode, nofun⟩

theorem length_macKey (mac : Option (List UInt8)) : (macKey mac).length = 8 :=
  length_strncpy 8 _

section

variable (cipher : Blowfish) (mac : Option (List UInt8)) {D : Doubles}

theorem ECSConnection.InRange.fitsLines {e : ECSConnection} (h : e.InRange) :
    ∀ f ∈ e.entries cipher mac, FitsLine f := by
  obtain ⟨hex, hencrypted, hnewline, hnul, hlength, -⟩ :=
    decrypted_encrypted cipher (length_macKey mac) h.ecsPassword.2 h.ecsPassword.1
  have hpassword : FitsLine (bytes "ecspassword", some hex) :=
    fitsLine_of_length (by decide) hnewline hnul (by omega)
  simp only [ECSConnection.entries, List.forall_mem_cons]
  exact ⟨fitsLine_index (by decide) (by decide) h.ecsConnected, h.ecsHost,
    fitsLine_int (by decide) h.ecsPort (by decide),
    fitsLine_int (by decide) h.ecsTimeoutInMs (by decide), h.ecsUsername,
    hencrypted ▸ hpassword, nofun⟩

theorem SettingsBlock.InRange.fitsLines {b : SettingsBlock D} (h : b.InRange) :
    ∀ e ∈ b.entries cipher mac, FitsLine e := by
  have hfirst : FitsLine (intEntry "firsttime" 0) :=
    fitsLine_int (by decide) ⟨le_refl 0, le_refl 0⟩ (by decide)
  simp only [SettingsBlock.entries, List.forall_mem_append, List.forall_mem_cons]
  exact ⟨⟨⟨⟨⟨⟨⟨⟨⟨hfirst, fitsLine_index (by decide) (by decide) h.mode, nofun⟩,
    h.acquisition.fitsLines⟩, h.display.fitsLines h.acquisition.bands⟩,
    h.dataStorage.fitsLines⟩, h.calibration.fitsLines⟩,
    fitsLine_index (by decide) (by decide) h.shutterInterface, nofun⟩, h.gps.fitsLines⟩,
    h.ecs.fitsLines cipher mac⟩,
    fitsLine_index (by decide) (by decide) h.mountUsed, h.mountDev, h.headlessDev,
    fitsLine_index (by decide) (by decide) h.imageSim,
    fitsLine_index (by decide) (by decide) h.gpsSim,
    fitsLine_index (by decide) (by decide) h.diagOption, nofun⟩

end

/-! ### Loading -/

section

variable {file : List UInt8}

theorem Acquisition.InRange.load_eq {a : Acquisition} (h : a.InRange)
    (hsaved : ∀ e ∈ a.entries, Saved file e) (a₀ : Acquisition) : a₀.load file = some a := by
  simp only [Acquisition.entries, List.forall_mem_cons] at hsaved
  obtain ⟨hrate, hheight, hwidth, hcompression, hfms, -⟩ := hsaved
  rw [Acquisition.load, getIntValue_saved hrate h.frameRate (by decide),
    getIndex_saved hheight (by decide), getIndex_saved hwidth (by decide),
    getIndex_saved hcompression (by decide), getIndex_saved hfms (by decide)]
  rfl

theorem getDoubleValue_saved {D : Doubles} {key : String} {v : List UInt8}
    (h : Saved file (bytes key, some v)) (setting min max : D.Carrier) :
    ∃ x, getDoubleValue D file key setting min max = some x := by
  obtain ⟨_, ⟨⟩, hfind⟩ := h
  unfold getDoubleValue
  rw [hfind]
  simp only
  split_ifs <;> exact ⟨_, rfl⟩

/-- The gains are not followed. -/
theorem Display.InRange.load_eq {D : Doubles} {d : Display D} {lines : ℤ} (h : d.InRange lines)
    (hlines : -2 ^ 31 < (1 : ℤ) ∧ lines - 1 < 2 ^ 31)
    (hsaved : ∀ e ∈ d.entries, Saved file e) (d₀ : Display D) :
    ∃ g g', d₀.load file lines = some { d with greenGain := g, blueGain := g' } := by
  simp only [Display.entries, List.forall_mem_append, List.forall_mem_cons] at hsaved
  obtain ⟨⟨⟨hviewer, hred, hgreen, hblue, hskip, hmin, hmax, hgreenGain, hblueGain, hdark, -⟩,
    hmru⟩, hnav, hreflection, -⟩ := hsaved
  obtain ⟨g, hg⟩ := getDoubleValue_saved hgreenGain d₀.greenGain (D.ofNat 0) (D.ofNat 10)
  obtain ⟨g', hg'⟩ := getDoubleValue_saved hblueGain d₀.blueGain (D.ofNat 0) (D.ofNat 10)
  refine ⟨g, g', ?_⟩
  rw [Display.load, getIndex_saved hviewer (by decide), getIntValue_saved hred h.redBand hlines,
    getIntValue_saved hgreen h.greenBand hlines, getIntValue_saved hblue h.blueBand hlines,
    getIntValue_saved hskip h.downtrackSkip (by decide),
    getIntValue_saved hmin h.stretchMin (by decide),
    getIntValue_saved hmax h.stretchMax (by decide), hg, hg', getIndex_saved hdark (by decide),
    getMRU_saved hmru, getIndex_saved hnav (by decide), getIndex_saved hreflection (by decide)]
  rfl

theorem DataStorage.load_eq {s : DataStorage} (hsaved : ∀ e ∈ s.entries, Saved file e)
    (s₀ : DataStorage) : s₀.load file = some s := by
  simp only [DataStorage.entries, List.forall_mem_append, List.forall_mem_cons] at hsaved
  obtain ⟨⟨hmargin, hstarts, -⟩, hmru⟩ := hsaved
  rw [DataStorage.load, getIndex_saved hmargin (by decide), getString_saved hstarts,
    getMRU_saved hmru]
  rfl

theorem Calibration.load_eq {c : Calibration} (hsaved : ∀ e ∈ c.entries, Saved file e)
    (c₀ : Calibration) : c₀.load file = some c := by
  have hperiods : calPeriods.Nodup := by decide
  simp only [Calibration.entries, List.forall_mem_cons] at hsaved
  obtain ⟨hobc, hdark1, hdark2, hmedium, hbright, hlaser, -⟩ := hsaved
  rw [Calibration.load, getIndex_saved hobc (by decide), getIndex_saved hdark1 hperiods,
    getIndex_saved hdark2 hperiods, getIndex_saved hmedium hperiods,
    getIndex_saved hbright hperiods, getIndex_saved hlaser hperiods]
  rfl

theorem GPS.load_eq {g : GPS} (hsaved : ∀ e ∈ g.entries, Saved file e) (g₀ : GPS) :
    g₀.load file = some g := by
  simp only [GPS.entries, List.forall_mem_cons] at hsaved
  obtain ⟨hbaud, hparity, hinvert, hmode, -⟩ := hsaved
  rw [GPS.load, getIndex_saved hbaud (by decide), getIndex_saved hparity (by decide),
    getIndex_saved hinvert (by decide), getIndex_saved hmode (by decide)]
  rfl

variable (cipher : Blowfish) (mac : Option (List UInt8))

theorem getPassword_saved {password : List UInt8}
    (h : Saved file (bytes "ecspassword", encrypted cipher (macKey mac) password))
    (hpassword : 0 ∉ password ∧ password.length ≤ 24) :
    getPassword file (decrypted cipher (macKey mac) (List.replicate 64 0)) = some password := by
  obtain ⟨hex, hencrypted, -, -, -, hdecrypted⟩ :=
    decrypted_encrypted cipher (length_macKey mac) hpassword.2 hpassword.1
  obtain ⟨v, hv, hfind⟩ := h
  obtain rfl : hex = v := Option.some.inj (hencrypted.symm.trans hv)
  unfold getPassword
  rw [hfind]
  exact hdecrypted

theorem ECSConnection.InRange.load_eq {e : ECSConnection} (h : e.InRange)
    (hsaved : ∀ f ∈ e.entries cipher mac, Saved file f) (e₀ : ECSConnection) :
    e₀.load file (decrypted cipher (macKey mac) (List.replicate 64 0)) = some e := by
  simp only [ECSConnection.entries, List.forall_mem_cons] at hsaved
  obtain ⟨hconnected, hhost, hport, htimeout, husername, hpassword, -⟩ := hsaved
  rw [ECSConnection.load, getIndex_saved hconnected (by decide), getString_saved hhost,
    getIntValue_saved hport h.ecsPort (by decide),
    getIntValue_saved htimeout h.ecsTimeoutInMs (by decide), getString_saved husername,
    getPassword_saved cipher mac hpassword h.ecsPassword]
  rfl

variable {D : Doubles}

theorem SettingsBlock.InRange.load_eq {b : SettingsBlock D} (h : b.InRange)
    (hsaved : ∀ e ∈ b.entries cipher mac, Saved file e) (b₀ : SettingsBlock D) :
    ∃ g g', loadSettings cipher mac file (List.replicate 64 0) b₀ = some { b with
      firstTime := 0
      display := { b.display with greenGain := g, blueGain := g' } } := by
  simp only [SettingsBlock.entries, List.forall_mem_append, List.forall_mem_cons] at hsaved
  obtain ⟨⟨⟨⟨⟨⟨⟨⟨⟨hfirst, hmode, -⟩, hacquisition⟩, hdisplay⟩, hstorage⟩, hcalibration⟩,
    hshutter, -⟩, hgps⟩, hecs⟩, hmount, hdev, hheadless, himage, hgpssim, hdiag, -⟩ := hsaved
  obtain ⟨g, g', hd⟩ := h.display.load_eq h.acquisition.bands hdisplay b₀.display
  refine ⟨g, g', ?_⟩
  unfold loadSettings loadSettingsWith
  rw [getIntValue_saved hfirst (by decide) (by decide), getIndex_saved hmode (by decide),
    h.acquisition.load_eq hacquisition, DataStorage.load_eq hstorage,
    Calibration.load_eq hcalibration, getIndex_saved hshutter (by decide), GPS.load_eq hgps,
    h.ecs.load_eq cipher mac hecs, getIndex_saved hmount (by decide), getString_saved hdev,
    getString_saved hheadless, getIndex_saved himage (by decide),
    getIndex_saved hgpssim (by decide), getIndex_saved hdiag (by decide)]
  simp only [Option.bind_eq_bind, Option.bind_some, hd]
  rfl

end

/-! ### Keys -/

/-- Doubles that are whole numbers up to 10. -/
def wholeNumbers : Doubles where
  Carrier := Fin 11
  ofNat n := Fin.ofNat 11 n
  less x y := x < y
  printG x := printNat x
  strtod s := (Fin.ofNat 11 (strtol s).1.toNat, (strtol s).2)
  printG_text := by decide +kernel

/-- The block of the text `secret`, and what Blowfish makes of it with the key of the example. -/
def examplePlain : List UInt8 := bytes "secret" ++ [0, 0]

def exampleCrypt : List UInt8 := [16, 152, 14, 29, 96, 208, 126, 163]

def exchangeBlocks (block : List UInt8) : List UInt8 :=
  if block = examplePlain then exampleCrypt
  else if block = exampleCrypt then examplePlain
  else block

theorem length_exchangeBlocks {block : List UInt8} (h : block.length = 8) :
    (exchangeBlocks block).length = 8 := by
  unfold exchangeBlocks
  split_ifs
  · rfl
  · rfl
  · exact h

/-- A cipher that is Blowfish on one block. -/
def exampleCipher : Blowfish where
  setup key := key.length = 8
  ecbEncrypt _ pt := exchangeBlocks pt
  ecbDecrypt _ ct := exchangeBlocks ct
  setup_of_length _ h := decide_eq_true h
  length_ecbEncrypt _ _ h := length_exchangeBlocks h
  length_ecbDecrypt _ _ h := length_exchangeBlocks h
  ecbDecrypt_ecbEncrypt _ pt _ := by
    unfold exchangeBlocks
    split_ifs <;> simp_all [show exampleCrypt ≠ examplePlain from by decide]

/-- The entries that a new block would save. -/
def freshEntries : List Entry :=
  (SettingsBlock.fresh wholeNumbers).entries exampleCipher none

theorem mruEntries_keys (base : String) (mru : Fin 4 → List UInt8) :
    (mruEntries base mru).map Prod.fst = (List.finRange 4).map (mruKey base) := by
  rw [mruEntries, List.map_map]
  rfl

section

variable (cipher : Blowfish) (mac : Option (List UInt8)) {D : Doubles}

/-- The keys do not depend on the settings. -/
theorem entries_keys (b : SettingsBlock D) :
    (b.entries cipher mac).map Prod.fst = freshEntries.map Prod.fst := by
  simp only [freshEntries, SettingsBlock.entries, Acquisition.entries, Display.entries,
    DataStorage.entries, Calibration.entries, GPS.entries, ECSConnection.entries,
    List.map_append, List.map_cons, List.map_nil, mruEntries_keys, intEntry, indexEntry,
    stringEntry]

theorem freshKeys_nodup : (freshEntries.map Prod.fst).Nodup := by decide +kernel

theorem freshKeys_plain : ∀ k ∈ freshEntries.map Prod.fst, 32 ∉ k ∧ 10 ∉ k ∧ 0 ∉ k := by
  decide +kernel

theorem entries_plain (b : SettingsBlock D) {e : Entry} (he : e ∈ b.entries cipher mac) :
    PlainKey e.1 := by
  have hkey := List.mem_map_of_mem (f := Prod.fst) he
  rw [entries_keys] at hkey
  obtain ⟨hblank, hnewline, hnul⟩ := freshKeys_plain e.1 hkey
  exact ⟨hblank, hnewline, hnul⟩

/-- Settings in their ranges are saved, and a new process loads them into a new block, except
that the saved file is not one of the first time and that the gains may be rounded. -/
theorem load_save {b : SettingsBlock D} (h : b.InRange) : ∃ file g g',
    saveSettings cipher mac b = some file ∧
    loadSettings cipher mac file (List.replicate 64 0) (SettingsBlock.fresh D) = some { b with
      firstTime := 0
      display := { b.display with greenGain := g, blueGain := g' } } := by
  have hnodup : ((b.entries cipher mac).map Prod.fst).Nodup := by
    rw [entries_keys]
    exact freshKeys_nodup
  obtain ⟨file, hsave, hsaved⟩ := saveLines_saved (fun e he => entries_plain cipher mac b he)
    (h.fitsLines cipher mac) hnodup
  obtain ⟨g, g', hload⟩ := h.load_eq cipher mac hsaved (SettingsBlock.fresh D)
  exact ⟨file, g, g', hsave, hload⟩

end

/-- Settings other than those of a new block. -/
def exampleSettings : SettingsBlock wholeNumbers :=
  { SettingsBlock.fresh wholeNumbers with
    mode := 1
    acquisition := ⟨3, 0, 1, 2, 1⟩
    display := ⟨2, 284, 100, 1, 9, 5, 16383, wholeNumbers.ofNat 2, wholeNumbers.ofNat 3, 1,
      newMRU (bytes "/data/dark"), 3, 1⟩
    dataStorage := ⟨9, bytes "flight 7", newMRU []⟩
    calibration := ⟨1, 12, 11, 10, 9, 8⟩
    ecs := ⟨0, bytes "10.0.0.1", 2121, 5000, bytes "operator", bytes "secret"⟩ }

theorem load_save_example : ∃ file g g',
    saveSettings exampleCipher (some [0, 27, 33, 60, 157, 240]) exampleSettings = some file ∧
    loadSettings exampleCipher (some [0, 27, 33, 60, 157, 240]) file (List.replicate 64 0)
      (SettingsBlock.fresh wholeNumbers) = some { exampleSettings with
        firstTime := 0
        display := { exampleSettings.display with greenGain := g, blueGain := g' } } :=
  load_save exampleCipher (some [0, 27, 33, 60, 157, 240])
    { mode := by decide
      acquisition := by constructor <;> decide
      display := by constructor <;> decide
      dataStorage := by constructor <;> decide
      calibration := by constructor <;> decide
      shutterInterface := by decide
      gps := by constructor <;> decide
      ecs := by constructor <;> decide
      mountUsed := by decide
      mountDev := by decide
      headlessDev := by decide
      imageSim := by decide
      gpsSim := by decide
      diagOption := by decide }

end Settings
