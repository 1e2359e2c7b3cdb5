import Ngdcs.Settings.Session

/-! Leaving the program and starting it again: the settings that were in force at the end are
loaded, with the sizes that were pending, and with the bands within the new frame. -/
namespace Settings

open CStrings Runs

/-! ### The settings that are saved -/

/-- The names in the slots of an MRU list. -/
def mruOf (mru : MruList) : Fin 4 → List UInt8 := fun i => (mru.val.get (i.cast mru.property.symm)).val

namespace Session

variable {D : Doubles} (s : Session D)

/-- The settings with their directories. -/
def inForce : SettingsBlock D :=
  { s.block with
    display := { s.block.display with darkSubDirMRU := mruOf s.dirs.darkSubDirMRU }
    dataStorage := { s.block.dataStorage with productRootDirMRU := mruOf s.dirs.productRootDirMRU } }

/-- The settings that `handleExitRequest` saves. -/
def handleExitRequest : SettingsBlock D :=
  { s.inForce with
    acquisition := { s.block.acquisition with
      frameHeight := s.height.pending
      frameWidth := s.width.pending
      compressionOption := s.pendingCompressionOption } }

end Session

/-- The bands as they are loaded for a frame of some lines. -/
def Display.withBands {D : Doubles} (d : Display D) (lines : ℤ) : Display D :=
  { d with
    redBand := clamp 1 (lines - 1) d.redBand
    greenBand := clamp 1 (lines - 1) d.greenBand
    blueBand := clamp 1 (lines - 1) d.blueBand }

/-! ### Names of directories -/

/-- A name fits the lines of an MRU list. -/
def NameFits (base : String) (name : DirName) : Prop :=
  ∀ i, FitsLine (mruKey base i, some name.val)

theorem length_mruKey (base : String) (i j : Fin 4) :
    (mruKey base i).length = (mruKey base j).length := by
  rw [mruKey, mruKey, List.length_append, List.length_append]
  congr 1
  revert i j
  decide

theorem fitsLine_mruKey {base : String} {i j : Fin 4} {name : List UInt8}
    (h : FitsLine (mruKey base i, some name)) : FitsLine (mruKey base j, some name) := by
  obtain ⟨v, hv, hnewline, hnul, hlength⟩ := h
  refine ⟨v, hv, hnewline, hnul, ?_⟩
  have hsame := length_mruKey base j i
  simp only [savedLine, List.length_append] at hlength ⊢
  omega

theorem fitsLine_mruEntries_iff {base : String} {mru : MruList} :
    (∀ e ∈ mruEntries base (mruOf mru), FitsLine e) ↔ ∀ name ∈ mru.val, NameFits base name := by
  constructor
  · intro h name hname
    obtain ⟨i, rfl⟩ := List.mem_iff_get.mp hname
    have hslot := h (mruKey base (i.cast mru.property), some (mru.val.get i).val)
      (List.mem_map.mpr ⟨i.cast mru.property, List.mem_finRange _, rfl⟩)
    exact fun j => fitsLine_mruKey hslot
  · intro h e he
    obtain ⟨i, -, rfl⟩ := List.mem_map.mp he
    exact h _ (List.get_mem _ _) i

/-- An insertion brings the new name in, and blanks. -/
theorem mem_insertInMRU {behind newbuf name : DirName} {mru : MruList}
    (h : name ∈ (insertInMRU behind mru newbuf).val) :
    name = newbuf ∨ name ∈ mru.val ∨ name = .blank := by
  rw [insertInMRU_eq, Recency.touch, List.mem_cons, Recency.padded, List.mem_append] at h
  rcases h with rfl | h | h
  · exact Or.inl rfl
  · exact Or.inr (Or.inl (List.mem_of_mem_filter (List.mem_of_mem_take h)))
  · exact Or.inr (Or.inr (List.eq_of_mem_replicate h))

theorem nameFits_insertInMRU {base : String} (hblank : NameFits base .blank)
    {behind newbuf : DirName} {mru : MruList} (hnew : NameFits base newbuf)
    (h : ∀ name ∈ mru.val, NameFits base name) :
    ∀ name ∈ (insertInMRU behind mru newbuf).val, NameFits base name := by
  intro name hname
  rcases mem_insertInMRU hname with rfl | hold | rfl
  · exact hnew
  · exact h name hold
  · exact hblank

/-! ### What the user may enter -/

/-- A text fits a line of the file, or the password its blocks. -/
def TextSetting.Fits (text : List UInt8) : TextSetting → Prop
  | dataPrefix => FitsLine (stringEntry "prefix" text)
  | ecsHost => FitsLine (stringEntry "ecshost" text)
  | ecsUsername => FitsLine (stringEntry "ecsusername" text)
  | ecsPassword => 0 ∉ text ∧ text.length ≤ 24
  | mountDev => FitsLine (stringEntry "mountdev" text)
  | headlessDev => FitsLine (stringEntry "headlessdev" text)

/-- What the user enters can be saved. -/
def Action.Fits {D : Doubles} : Action D → Prop
  | .text setting entered => setting.Fits entered
  | .dir (.darkSubDirChange sel) | .dir (.darkSubDirBrowse sel) =>
    NameFits "darksubdir" sel.activeText
  | .dir (.productRootDirChange sel) | .dir (.productRootDirBrowse sel) =>
    NameFits "productrootdir" sel.activeText
  | _ => True

namespace Session

variable {D : Doubles} {rates : FrameRateTexts}

/-- What is saved can be loaded again. -/
structure Savable (s : Session D) : Prop where
  inRange : s.inForce.InRange
  height : s.height.pending < frameHeights.length
  width : s.width.pending < frameWidths.length
  compression : s.pendingCompressionOption < compressionOptions.length

theorem inRange_combo {s : Session D} (h : s.inForce.InRange) (setting : ComboSetting) {value : ℕ}
    (hvalue : value < (setting.strings rates).length) :
    { s with block := setting.set s.block value }.inForce.InRange := by
  cases setting with
  | mode => exact { h with mode := hvalue }
  | frameRate =>
    have hrate : value < 7 := rates.property ▸ hvalue
    have hrange : 0 ≤ (value : ℤ) ∧ (value : ℤ) ≤ numFrameRates - 1 := by
      unfold numFrameRates
      omega
    exact { h with acquisition := { h.acquisition with frameRate := hrange } }
  | fmsControlOption =>
    exact { h with acquisition := { h.acquisition with fmsControlOption := hvalue } }
  | viewerType => exact { h with display := { h.display with viewerType := hvalue } }
  | darkSubOption => exact { h with display := { h.display with darkSubOption := hvalue } }
  | navDuration => exact { h with display := { h.display with navDuration := hvalue } }
  | reflectionOption => exact { h with display := { h.display with reflectionOption := hvalue } }
  | recMargin => exact { h with dataStorage := { h.dataStorage with recMargin := hvalue } }
  | obcInterface => exact { h with calibration := { h.calibration with obcInterface := hvalue } }
  | dark1CalPeriod =>
    exact { h with calibration := { h.calibration with dark1CalPeriod := hvalue } }
  | dark2CalPeriod =>
    exact { h with calibration := { h.calibration with dark2CalPeriod := hvalue } }
  | mediumCalPeriod =>
    exact { h with calibration := { h.calibration with mediumCalPeriod := hvalue } }
  | brightCalPeriod =>
    exact { h with calibration := { h.calibration with brightCalPeriod := hvalue } }
  | laserCalPeriod =>
    exact { h with calibration := { h.calibration with laserCalPeriod := hvalue } }
  | shutterInterface => exact { h with shutterInterface := hvalue }
  | gpsSerialBaud => exact { h with gps := { h.gps with gpsSerialBaud := hvalue } }
  | gpsSerialParity => exact { h with gps := { h.gps with gpsSerialParity := hvalue } }
  | gpsSerialTXInvert => exact { h with gps := { h.gps with gpsSerialTXInvert := hvalue } }
  | gpsInitMode => exact { h with gps := { h.gps with gpsInitMode := hvalue } }
  | ecsConnected => exact { h with ecs := { h.ecs with ecsConnected := hvalue } }
  | mountUsed => exact { h with mountUsed := hvalue }
  | imageSim => exact { h with imageSim := hvalue }
  | gpsSim => exact { h with gpsSim := hvalue }
  | diagOption => exact { h with diagOption := hvalue }

theorem clamp_range {min max i : ℤ} (h : min ≤ max) :
    min ≤ clamp min max i ∧ clamp min max i ≤ max := by
  unfold clamp
  split_ifs <;> omega

/-- Every spin button has values. -/
theorem range_le {s : Session D} (h : s.inForce.InRange) (setting : SpinSetting) :
    (setting.range s.block).1 ≤ (setting.range s.block).2 := by
  have hlines : 1 ≤ s.block.acquisition.currentFrameHeightLines - 1 :=
    h.acquisition.default_band.2
  cases setting with
  | redBand => exact hlines
  | greenBand => exact hlines
  | blueBand => exact hlines
  | downtrackSkip => exact show (0 : ℤ) ≤ 9 by decide
  | stretchMin => exact show 0 ≤ maxDN by decide
  | stretchMax => exact show 0 ≤ maxDN by decide
  | ecsPort => exact show minEcsPort ≤ maxEcsPort by decide
  | ecsTimeoutInMs => exact show minEcsTimeout ≤ maxEcsTimeout by decide

theorem inRange_spin {s : Session D} (h : s.inForce.InRange) (setting : SpinSetting) (value : ℤ) :
    { s with block := setting.onChange s.block value }.inForce.InRange := by
  have hvalue := clamp_range (i := value) (range_le h setting)
  cases setting with
  | redBand => exact { h with display := { h.display with redBand := hvalue } }
  | greenBand => exact { h with display := { h.display with greenBand := hvalue } }
  | blueBand => exact { h with display := { h.display with blueBand := hvalue } }
  | downtrackSkip => exact { h with display := { h.display with downtrackSkip := hvalue } }
  | stretchMin => exact { h with display := { h.display with stretchMin := hvalue } }
  | stretchMax => exact { h with display := { h.display with stretchMax := hvalue } }
  | ecsPort => exact { h with ecs := { h.ecs with ecsPort := hvalue } }
  | ecsTimeoutInMs => exact { h with ecs := { h.ecs with ecsTimeoutInMs := hvalue } }

theorem inRange_text {s : Session D} (h : s.inForce.InRange) {setting : TextSetting}
    {text : List UInt8} (htext : setting.Fits text) :
    { s with block := setting.set s.block text }.inForce.InRange := by
  cases setting with
  | dataPrefix => exact { h with dataStorage := { h.dataStorage with dataPrefix := htext } }
  | ecsHost => exact { h with ecs := { h.ecs with ecsHost := htext } }
  | ecsUsername => exact { h with ecs := { h.ecs with ecsUsername := htext } }
  | ecsPassword => exact { h with ecs := { h.ecs with ecsPassword := htext } }
  | mountDev => exact { h with mountDev := htext }
  | headlessDev => exact { h with headlessDev := htext }

theorem inRange_darkSubDirs {s : Session D} (h : s.inForce.InRange) {behind newbuf : DirName}
    (hnew : NameFits "darksubdir" newbuf) :
    { s with dirs := s.dirs.insertInDarkSubDirMRU behind newbuf }.inForce.InRange :=
  { h with display := { h.display with
      darkSubDirMRU := fitsLine_mruEntries_iff.mpr (nameFits_insertInMRU
        (by unfold NameFits; decide) hnew (fitsLine_mruEntries_iff.mp h.display.darkSubDirMRU)) } }

theorem inRange_productRootDirs {s : Session D} (h : s.inForce.InRange)
    {behind newbuf : DirName} (hnew : NameFits "productrootdir" newbuf) :
    { s with dirs := s.dirs.insertInProductRootDirMRU behind newbuf }.inForce.InRange :=
  { h with dataStorage := { h.dataStorage with
      productRootDirMRU := fitsLine_mruEntries_iff.mpr (nameFits_insertInMRU
        (by unfold NameFits; decide) hnew
        (fitsLine_mruEntries_iff.mp h.dataStorage.productRootDirMRU)) } }

theorem inRange_dir {s : Session D} (h : s.inForce.InRange) {op : DirOp}
    (hfits : Action.Fits (.dir op : Action D)) :
    { s with dirs := op.apply s.dirs }.inForce.InRange := by
  cases op with
  | darkSubDirChange sel =>
    simp only [DirOp.apply, DataDirs.onDarkSubDirChange]
    split_ifs
    · exact inRange_darkSubDirs h hfits
    · exact h
  | productRootDirChange sel =>
    simp only [DirOp.apply, DataDirs.onProductRootDirChange]
    split_ifs
    · exact inRange_productRootDirs h hfits
    · exact h
  | darkSubDirBrowse sel => exact inRange_darkSubDirs h hfits
  | productRootDirBrowse sel => exact inRange_productRootDirs h hfits

theorem strings_pos (setting : ComboSetting) : 0 < (setting.strings rates).length := by
  cases setting with
  | frameRate => exact rates.property.symm ▸ Nat.zero_lt_succ 6
  | _ => exact Nat.zero_lt_succ _

theorem step_savable {b : SettingsBlock D} {s t : Session D} {action : Action D}
    (hkeeps : s.Keeps b) (hs : s.Savable) (hfits : action.Fits)
    (h : s.step rates action = some t) : t.Savable := by
  cases action with
  | combo setting text =>
    obtain rfl := Option.some.inj h
    have hvalue : stringToIndex text (setting.strings rates) < (setting.strings rates).length :=
      stringToIndex_lt text (strings_pos setting)
    exact ⟨inRange_combo hs.inRange setting hvalue, hs.height, hs.width, hs.compression⟩
  | frameHeight i =>
    obtain ⟨⟨hi, hne⟩, h⟩ := Option.ite_none_right_eq_some.mp h
    obtain rfl := Option.some.inj h
    rw [hkeeps.height.onChange (by decide) hi hne]
    exact ⟨hs.inRange, hi, hs.width, hs.compression⟩
  | frameWidth i =>
    obtain ⟨⟨hi, hne⟩, h⟩ := Option.ite_none_right_eq_some.mp h
    obtain rfl := Option.some.inj h
    rw [hkeeps.width.onChange (by decide) hi hne]
    exact ⟨hs.inRange, hs.height, hi, hs.compression⟩
  | compressionOption i =>
    obtain ⟨⟨hi, -⟩, h⟩ := Option.ite_none_right_eq_some.mp h
    obtain rfl := Option.some.inj h
    obtain ⟨active, heq⟩ := onCompressionOptionChange_eq hkeeps.forced hkeeps.compression hi
    rw [heq]
    have hrange := hs.inRange
    exact ⟨{ hrange with acquisition := { hrange.acquisition with compressionOption := hi } },
      hs.height, hs.width, hi⟩
  | spin setting value =>
    obtain rfl := Option.some.inj h
    exact ⟨inRange_spin hs.inRange setting value, hs.height, hs.width, hs.compression⟩
  | greenGain value =>
    obtain rfl := Option.some.inj h
    have hrange := hs.inRange
    exact ⟨{ hrange with display := { hrange.display with } }, hs.height, hs.width,
      hs.compression⟩
  | blueGain value =>
    obtain rfl := Option.some.inj h
    have hrange := hs.inRange
    exact ⟨{ hrange with display := { hrange.display with } }, hs.height, hs.width,
      hs.compression⟩
  | text setting text =>
    obtain rfl := Option.some.inj h
    exact ⟨inRange_text hs.inRange hfits, hs.height, hs.width, hs.compression⟩
  | dir op =>
    obtain rfl := Option.some.inj h
    exact ⟨inRange_dir hs.inRange hfits, hs.height, hs.width, hs.compression⟩

theorem run_savable {b : SettingsBlock D} {s t : Session D} {actions : List (Action D)}
    (hkeeps : s.Keeps b) (hs : s.Savable) (hfits : ∀ a ∈ actions, a.Fits)
    (h : run (step rates) s actions = some t) : t.Savable := by
  induction actions generalizing s with
  | nil => exact Option.some.inj h ▸ hs
  | cons a actions ih =>
    obtain ⟨u, hu, hrun⟩ := run_cons_eq_some.mp h
    obtain ⟨ha, hrest⟩ := List.forall_mem_cons.mp hfits
    exact ih (step_keeps hkeeps hu).1 (step_savable hkeeps hs ha hu) hrest hrun

end Session

/-! ### Loading -/

/-- A number that is saved is loaded into its new range. -/
theorem getIntValue_clamp {file : List UInt8} {key : String} {i min max : ℤ}
    (h : Saved file (intEntry key i)) (hint : |i| < 2 ^ 31) (setting : ℤ) :
    getIntValue file key setting min max = some (clamp min max i) := by
  obtain ⟨v, ⟨⟩, hfind⟩ := h
  have hread : strtol (printInt i) = (i, []) := strtol_printInt (lt_trans hint (by decide))
  unfold getIntValue
  rw [intEntry] at hfind
  simp only [hfind, hread, longToInt_of_abs hint, ne_eq, not_true_eq_false, if_false]
  rfl

theorem Display.InRange.load_withBands {D : Doubles} {file : List UInt8} {d : Display D}
    {saved : ℤ} (h : d.InRange saved) (hlines : -2 ^ 31 < (1 : ℤ) ∧ saved - 1 < 2 ^ 31)
    (hsaved : ∀ e ∈ d.entries, Saved file e) (lines : ℤ) (d₀ : Display D) :
    ∃ g g', d₀.load file lines =
      some { d.withBands lines with greenGain := g, blueGain := g' } := by
  simp only [Display.entries, List.forall_mem_append, List.forall_mem_cons] at hsaved
  obtain ⟨⟨⟨hviewer, hred, hgreen, hblue, hskip, hmin, hmax, hgreenGain, hblueGain, hdark, -⟩,
    hmru⟩, hnav, hreflection, -⟩ := hsaved
  obtain ⟨g, hg⟩ := getDoubleValue_saved hgreenGain d₀.greenGain (D.ofNat 0) (D.ofNat 10)
  obtain ⟨g', hg'⟩ := getDoubleValue_saved hblueGain d₀.blueGain (D.ofNat 0) (D.ofNat 10)
  have hint : ∀ band : ℤ, 1 ≤ band ∧ band ≤ saved - 1 → |band| < 2 ^ 31 := by
    intro band hband
    rw [abs_lt]
    omega
  refine ⟨g, g', ?_⟩
  rw [Display.load, getIndex_saved hviewer (by decide), getIntValue_clamp hred (hint _ h.redBand),
    getIntValue_clamp hgreen (hint _ h.greenBand), getIntValue_clamp hblue (hint _ h.blueBand),
    getIntValue_saved hskip h.downtrackSkip (by decide),
    getIntValue_saved hmin h.stretchMin (by decide),
    getIntValue_saved hmax h.stretchMax (by decide), hg, hg', getIndex_saved hdark (by decide),
    getMRU_saved hmru, getIndex_saved hnav (by decide), getIndex_saved hreflection (by decide)]
  rfl

section

variable {D : Doubles} {b : SettingsBlock D} {a : Acquisition}

/-- The settings as a new process loads them, but for the gains. -/
def SettingsBlock.reloaded (b : SettingsBlock D) (g g' : D.Carrier) : SettingsBlock D :=
  { b with
    firstTime := 0
    display := { b.display.withBands b.acquisition.currentFrameHeightLines with
      greenGain := g
      blueGain := g' } }

variable (cipher : Blowfish) (mac : Option (List UInt8)) (h : b.InRange) (ha : a.InRange)

include h ha

theorem fitsLines_withAcquisition :
    ∀ e ∈ { b with acquisition := a }.entries cipher mac, FitsLine e := by
  have hb := h.fitsLines cipher mac
  simp only [SettingsBlock.entries, List.forall_mem_append] at hb ⊢
  obtain ⟨⟨⟨⟨⟨⟨⟨⟨hmode, -⟩, hdisplay⟩, hstorage⟩, hcalibration⟩, hshutter⟩, hgps⟩, hecs⟩,
    hrest⟩ := hb
  exact ⟨⟨⟨⟨⟨⟨⟨⟨hmode, ha.fitsLines⟩, hdisplay⟩, hstorage⟩, hcalibration⟩, hshutter⟩, hgps⟩,
    hecs⟩, hrest⟩

theorem load_withAcquisition {file : List UInt8}
    (hsaved : ∀ e ∈ { b with acquisition := a }.entries cipher mac, Saved file e)
    (b₀ : SettingsBlock D) : ∃ g g',
      loadSettings cipher mac file (List.replicate 64 0) b₀ =
        some ({ b with acquisition := a }.reloaded g g') := by
  simp only [SettingsBlock.entries, List.forall_mem_append, List.forall_mem_cons] at hsaved
  obtain ⟨⟨⟨⟨⟨⟨⟨⟨⟨hfirst, hmode, -⟩, hacquisition⟩, hdisplay⟩, hstorage⟩, hcalibration⟩,
    hshutter, -⟩, hgps⟩, hecs⟩, hmount, hdev, hheadless, himage, hgpssim, hdiag, -⟩ := hsaved
  obtain ⟨g, g', hd⟩ := h.display.load_withBands h.acquisition.bands hdisplay
    a.currentFrameHeightLines b₀.display
  refine ⟨g, g', ?_⟩
  unfold loadSettings loadSettingsWith
  rw [getIntValue_saved hfirst (by decide) (by decide), getIndex_saved hmode (by decide),
    ha.load_eq hacquisition, DataStorage.load_eq hstorage, Calibration.load_eq hcalibration,
    getIndex_saved hshutter (by decide), GPS.load_eq hgps, h.ecs.load_eq cipher mac hecs,
    getIndex_saved hmount (by decide), getString_saved hdev, getString_saved hheadless,
    getIndex_saved himage (by decide), getIndex_saved hgpssim (by decide),
    getIndex_saved hdiag (by decide)]
  simp only [Option.bind_eq_bind, Option.bind_some, hd]
  rfl

theorem save_withAcquisition : ∃ file g g',
    saveSettings cipher mac { b with acquisition := a } = some file ∧
    loadSettings cipher mac file (List.replicate 64 0) (SettingsBlock.fresh D) =
      some ({ b with acquisition := a }.reloaded g g') := by
  have hnodup : (({ b with acquisition := a } : SettingsBlock D).entries cipher mac |>.map
      Prod.fst).Nodup := by
    rw [entries_keys]
    exact freshKeys_nodup
  obtain ⟨file, hsave, hsaved⟩ := saveLines_saved
    (fun e he => entries_plain cipher mac { b with acquisition := a } he)
    (fitsLines_withAcquisition cipher mac h ha) hnodup
  obtain ⟨g, g', hload⟩ := load_withAcquisition cipher mac h ha hsaved (SettingsBlock.fresh D)
  exact ⟨file, g, g', hsave, hload⟩

end

section

variable {D : Doubles} {rates : FrameRateTexts} (cipher : Blowfish) (mac : Option (List UInt8))

theorem Session.Savable.acquisition {s : Session D} (h : s.Savable) :
    s.handleExitRequest.acquisition.InRange where
  frameRate := h.inRange.acquisition.frameRate
  frameHeight := h.height
  frameWidth := h.width
  compressionOption := h.compression
  fmsControlOption := h.inRange.acquisition.fmsControlOption

/-- The program is left after any changes, and started again: it has the settings that were in
force, with the frame size that was chosen last and the bands moved into this frame. What
becomes of the two gains is left open. -/
theorem load_after_exit {b : SettingsBlock D} {dirs : DataDirs} {s : Session D}
    {actions : List (Action D)} (hb : b.InRange) (hdirs : (Session.start b dirs).inForce = b)
    (hfits : ∀ a ∈ actions, a.Fits)
    (h : run (Session.step rates) (Session.start b dirs) actions = some s) : ∃ file g g',
      saveSettings cipher mac s.handleExitRequest = some file ∧
      loadSettings cipher mac file (List.replicate 64 0) (SettingsBlock.fresh D) =
        some (s.handleExitRequest.reloaded g g') := by
  have hstart : (Session.start b dirs).Savable :=
    ⟨hdirs.symm ▸ hb, hb.acquisition.frameHeight, hb.acquisition.frameWidth,
      hb.acquisition.compressionOption⟩
  have hs : s.Savable := Session.run_savable (Session.keeps_start b dirs) hstart hfits h
  exact save_withAcquisition cipher mac hs.inRange hs.acquisition

end

theorem exampleSettings_inRange : exampleSettings.InRange where
  mode := by decide
  acquisition := by constructor <;> decide
  display := by constructor <;> decide
  dataStorage := by constructor <;> decide
  calibration := by constructor <;> decide
  shutterInterface := by decide
  gps := by constructor <;> decide
  ecs := by constructor <;> decide
  mountUsed := by decide
  mountDev := by decide
  headlessDev := by decide
  imageSim := by decide
  gpsSim := by decide
  diagOption := by decide

theorem exampleSettings_dirs :
    (Session.start exampleSettings exampleDirs).inForce = exampleSettings := by
  have hdark : mruOf exampleDirs.darkSubDirMRU = newMRU (bytes "/data/dark") := by
    funext i
    revert i
    decide
  have hproduct : mruOf exampleDirs.productRootDirMRU = newMRU [] := by
    funext i
    revert i
    decide
  simp only [Session.inForce, Session.start, hdark, hproduct]
  rfl

/-- The user chooses the standard frame height, another frame rate and another band. -/
def exampleActions : List (Action wholeNumbers) :=
  [.frameHeight 1, .combo .frameRate (bytes "54.1 Hz"), .spin .greenBand 500,
    .text .dataPrefix (bytes "flight 8")]

theorem load_after_exit_example : ∃ s, run (Session.step exampleRates)
      (Session.start exampleSettings exampleDirs) exampleActions = some s ∧
    ∃ file g g', saveSettings exampleCipher none s.handleExitRequest = some file ∧
      loadSettings exampleCipher none file (List.replicate 64 0)
        (SettingsBlock.fresh wholeNumbers) = some (s.handleExitRequest.reloaded g g') := by
  have hfits : ∀ a ∈ exampleActions, a.Fits := by
    simp only [exampleActions, List.forall_mem_cons]
    exact ⟨trivial, trivial, trivial, by unfold Action.Fits TextSetting.Fits; decide, nofun⟩
  have hrun : (run (Session.step exampleRates) (Session.start exampleSettings exampleDirs)
      exampleActions).isSome = true := by decide
  obtain ⟨s, hs⟩ := Option.isSome_iff_exists.mp hrun
  exact ⟨s, hs, load_after_exit exampleCipher none exampleSettings_inRange exampleSettings_dirs hfits hs⟩

end Settings
