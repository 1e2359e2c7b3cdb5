import Ngdcs.Settings.DataDirs
import Ngdcs.Settings.Loading

/-! A session of the Settings tab: what its handlers do to the settings while the program runs,
and what `handleExitRequest` leaves in them for the next start. Changes of the frame size are
put off until then. -/
namespace Settings

open CStrings Runs

/-! ### Handlers -/

/-- The combo boxes whose handler is `comboEntryToIndex` and does not look at the change
otherwise. -/
inductive ComboSetting where
  | mode | frameRate | fmsControlOption
  | viewerType | darkSubOption | navDuration | reflectionOption
  | recMargin
  | obcInterface | dark1CalPeriod | dark2CalPeriod | mediumCalPeriod | brightCalPeriod
  | laserCalPeriod
  | shutterInterface
  | gpsSerialBaud | gpsSerialParity | gpsSerialTXInvert | gpsInitMode
  | ecsConnected | mountUsed | imageSim | gpsSim | diagOption

/-- `m_availableFrameRates`, which the frame buffer determines. -/
abbrev FrameRateTexts := { rates : List (List UInt8) // rates.length = 7 }

/-- The entries of a combo box. -/
def ComboSetting.strings (rates : FrameRateTexts) : ComboSetting → List (List UInt8)
  | mode => modes
  | frameRate => rates.val
  | fmsControlOption => fmsControlOptions
  | viewerType => viewerTypes
  | darkSubOption => darkSubOptions
  | navDuration => navDurations
  | reflectionOption => reflectionOptions
  | recMargin => recMargins
  | obcInterface => obcInterfaces
  | dark1CalPeriod | dark2CalPeriod | mediumCalPeriod | brightCalPeriod | laserCalPeriod =>
    calPeriods
  | shutterInterface => shutterInterfaces
  | gpsSerialBaud => gpsSerialBauds
  | gpsSerialParity => gpsSerialParities
  | gpsSerialTXInvert => gpsSerialTXInverts
  | gpsInitMode => gpsInitModes
  | ecsConnected => ecsOptions
  | mountUsed => mountOptions
  | imageSim => imageSims
  | gpsSim => gpsSims
  | diagOption => diagOptions

/-- The spin buttons for numbers. -/
inductive SpinSetting where
  | redBand | greenBand | blueBand | downtrackSkip | stretchMin | stretchMax
  | ecsPort | ecsTimeoutInMs

/-- The entries for text. -/
inductive TextSetting where
  | dataPrefix | ecsHost | ecsUsername | ecsPassword | mountDev | headlessDev

section

variable {D : Doubles}

/-- The setter of a combo box. -/
def ComboSetting.set (b : SettingsBlock D) (value : ℕ) : ComboSetting → SettingsBlock D
  | mode => { b with mode := value }
  | frameRate => { b with acquisition := { b.acquisition with frameRate := value } }
  | fmsControlOption => { b with acquisition := { b.acquisition with fmsControlOption := value } }
  | viewerType => { b with display := { b.display with viewerType := value } }
  | darkSubOption => { b with display := { b.display with darkSubOption := value } }
  | navDuration => { b with display := { b.display with navDuration := value } }
  | reflectionOption => { b with display := { b.display with reflectionOption := value } }
  | recMargin => { b with dataStorage := { b.dataStorage with recMargin := value } }
  | obcInterface => { b with calibration := { b.calibration with obcInterface := value } }
  | dark1CalPeriod => { b with calibration := { b.calibration with dark1CalPeriod := value } }
  | dark2CalPeriod => { b with calibration := { b.calibration with dark2CalPeriod := value } }
  | mediumCalPeriod => { b with calibration := { b.calibration with mediumCalPeriod := value } }
  | brightCalPeriod => { b with calibration := { b.calibration with brightCalPeriod := value } }
  | laserCalPeriod => { b with calibration := { b.calibration with laserCalPeriod := value } }
  | shutterInterface => { b with shutterInterface := value }
  | gpsSerialBaud => { b with gps := { b.gps with gpsSerialBaud := value } }
  | gpsSerialParity => { b with gps := { b.gps with gpsSerialParity := value } }
  | gpsSerialTXInvert => { b with gps := { b.gps with gpsSerialTXInvert := value } }
  | gpsInitMode => { b with gps := { b.gps with gpsInitMode := value } }
  | ecsConnected => { b with ecs := { b.ecs with ecsConnected := value } }
  | mountUsed => { b with mountUsed := value }
  | imageSim => { b with imageSim := value }
  | gpsSim => { b with gpsSim := value }
  | diagOption => { b with diagOption := value }

/-- `SettingsTab::comboEntryToIndex` for the text that is active. -/
def ComboSetting.comboEntryToIndex (rates : FrameRateTexts) (b : SettingsBlock D)
    (setting : ComboSetting) (text : List UInt8) : SettingsBlock D :=
  setting.set b (stringToIndex text (setting.strings rates))

/-- The range that the constructor gives a spin button. -/
def SpinSetting.range (b : SettingsBlock D) : SpinSetting → ℤ × ℤ
  | redBand | greenBand | blueBand => (1, b.acquisition.currentFrameHeightLines - 1)
  | downtrackSkip => (0, 9)
  | stretchMin | stretchMax => (0, maxDN)
  | ecsPort => (minEcsPort, maxEcsPort)
  | ecsTimeoutInMs => (minEcsTimeout, maxEcsTimeout)

def SpinSetting.set (b : SettingsBlock D) (value : ℤ) : SpinSetting → SettingsBlock D
  | redBand => { b with display := { b.display with redBand := value } }
  | greenBand => { b with display := { b.display with greenBand := value } }
  | blueBand => { b with display := { b.display with blueBand := value } }
  | downtrackSkip => { b with display := { b.display with downtrackSkip := value } }
  | stretchMin => { b with display := { b.display with stretchMin := value } }
  | stretchMax => { b with display := { b.display with stretchMax := value } }
  | ecsPort => { b with ecs := { b.ecs with ecsPort := value } }
  | ecsTimeoutInMs => { b with ecs := { b.ecs with ecsTimeoutInMs := value } }

/-- What is in a range, or the end of the range that is closer. -/
def clamp (min max i : ℤ) : ℤ := if i < min then min else if max < i then max else i

/-- The value of a spin button is in its range when its handler reads it. -/
def SpinSetting.onChange (b : SettingsBlock D) (setting : SpinSetting) (value : ℤ) :
    SettingsBlock D :=
  setting.set b (clamp (setting.range b).1 (setting.range b).2 value)

def TextSetting.set (b : SettingsBlock D) (text : List UInt8) : TextSetting → SettingsBlock D
  | dataPrefix => { b with dataStorage := { b.dataStorage with dataPrefix := text } }
  | ecsHost => { b with ecs := { b.ecs with ecsHost := text } }
  | ecsUsername => { b with ecs := { b.ecs with ecsUsername := text } }
  | ecsPassword => { b with ecs := { b.ecs with ecsPassword := text } }
  | mountDev => { b with mountDev := text }
  | headlessDev => { b with headlessDev := text }

end

/-- A combo box whose change waits for the next start: the entry shown, the static
`changeWasForced` of its handler, and the pending setting of `appFrame`. -/
structure SizeCombo where
  active : ℕ
  changeWasForced : Bool
  pending : ℕ

/-- `onFrameHeightChange` and `onFrameWidthChange`. To show the current entry again sends a
signal if another one is shown; it runs the handler, which then does nothing. -/
def SizeCombo.onChange (strings : List (List UInt8)) (current : ℕ) (c : SizeCombo) : SizeCombo :=
  if c.changeWasForced then { c with changeWasForced := false }
  else
    let c := {
      active := c.active
      changeWasForced := true
      pending := stringToIndex (strings.getD c.active []) strings }
    if c.active = current then c else { c with active := current, changeWasForced := false }

/-- The settings tab with what it works on. The directories stand in `dirs`. -/
structure Session (D : Doubles) where
  block : SettingsBlock D
  dirs : DataDirs
  height : SizeCombo
  width : SizeCombo
  compressionActive : ℕ
  compressionForced : Bool
  pendingCompressionOption : ℕ

/-- What the user does. A combo box sends no signal for the entry that it shows. -/
inductive Action (D : Doubles) where
  | combo (setting : ComboSetting) (text : List UInt8)
  | frameHeight (i : ℕ)
  | frameWidth (i : ℕ)
  | compressionOption (i : ℕ)
  | spin (setting : SpinSetting) (value : ℤ)
  | greenGain (value : D.Carrier)
  | blueGain (value : D.Carrier)
  | text (setting : TextSetting) (text : List UInt8)
  | dir (op : DirOp)

namespace Session

variable {D : Doubles} (rates : FrameRateTexts) (s : Session D)

def currentFrameHeight : ℕ := s.block.acquisition.frameHeight

def currentFrameWidth : ℕ := s.block.acquisition.frameWidth

def currentCompressionOption : ℕ := s.block.acquisition.compressionOption

def setCompressionOption (value : ℕ) : Session D :=
  { s with block := { s.block with
      acquisition := { s.block.acquisition with compressionOption := value } } }

/-- `SettingsTab::onCompressionOptionChange` -/
def onCompressionOptionChange : Session D :=
  if s.compressionForced then { s with compressionForced := false }
  else
    let originalOption := s.currentCompressionOption
    let s := s.setCompressionOption
      (stringToIndex (compressionOptions.getD s.compressionActive []) compressionOptions)
    let newOption := s.currentCompressionOption
    if originalOption = newOption then s
    else if originalOption = 0 ∨ newOption = 0 then
      let s := { s with pendingCompressionOption := newOption, compressionForced := true }
      if s.compressionActive = originalOption then s
      else { s with compressionActive := originalOption, compressionForced := false }
    else { s with pendingCompressionOption := newOption }

/-- The handler for an action; `none` for a signal that is not sent. -/
def step : Action D → Option (Session D)
  | .combo setting text => some { s with block := setting.comboEntryToIndex rates s.block text }
  | .frameHeight i =>
    if i < frameHeights.length ∧ i ≠ s.height.active then
      some { s with
        height := { s.height with active := i }.onChange frameHeights s.currentFrameHeight }
    else none
  | .frameWidth i =>
    if i < frameWidths.length ∧ i ≠ s.width.active then
      some { s with
        width := { s.width with active := i }.onChange frameWidths s.currentFrameWidth }
    else none
  | .compressionOption i =>
    if i < compressionOptions.length ∧ i ≠ s.compressionActive then
      some { s with compressionActive := i }.onCompressionOptionChange
    else none
  | .spin setting value => some { s with block := setting.onChange s.block value }
  | .greenGain value =>
    some { s with block := { s.block with display := { s.block.display with greenGain := value } } }
  | .blueGain value =>
    some { s with block := { s.block with display := { s.block.display with blueGain := value } } }
  | .text setting text => some { s with block := setting.set s.block text }
  | .dir op => some { s with dirs := op.apply s.dirs }

/-- The constructors of `appFrame` and of the tab, for the settings loaded. -/
def start (block : SettingsBlock D) (dirs : DataDirs) : Session D where
  block := block
  dirs := dirs
  height := ⟨block.acquisition.frameHeight, false, block.acquisition.frameHeight⟩
  width := ⟨block.acquisition.frameWidth, false, block.acquisition.frameWidth⟩
  compressionActive := block.acquisition.compressionOption
  compressionForced := false
  pendingCompressionOption := block.acquisition.compressionOption

end Session

/-! ### Pending sizes -/

theorem stringToIndex_getD {strings : List (List UInt8)} (hnodup : strings.Nodup) {i : ℕ}
    (hi : i < strings.length) : stringToIndex (strings.getD i []) strings = i := by
  have hindex : strings.idxOf? strings[i] = some i := by
    rw [List.idxOf?_eq_some_iff]
    refine ⟨hi, rfl, fun j hj heq => ?_⟩
    exact absurd (hnodup.getElem_inj_iff.mp heq) (Nat.ne_of_lt hj)
  rw [stringToIndex, List.getD_eq_getElem?_getD, List.getElem?_eq_getElem hi, Option.getD_some,
    hindex, Option.getD_some]

/-- The entry in force is shown, and no forced change is awaited. -/
def SizeCombo.Settled (current : ℕ) (c : SizeCombo) : Prop :=
  c.active = current ∧ c.changeWasForced = false

/-- A choice becomes pending, and the current entry is shown again. -/
theorem SizeCombo.Settled.onChange {strings : List (List UInt8)} (hnodup : strings.Nodup)
    {current i : ℕ} {c : SizeCombo} (hc : c.Settled current) (hi : i < strings.length)
    (hne : i ≠ c.active) :
    { c with active := i }.onChange strings current = ⟨current, false, i⟩ := by
  obtain ⟨hactive, hforced⟩ := hc
  rw [SizeCombo.onChange, if_neg (by simp [hforced])]
  simp only [stringToIndex_getD hnodup hi]
  rw [if_neg (hactive ▸ hne)]

namespace Session

variable {D : Doubles} {rates : FrameRateTexts}

/-- The frame size is that of the start, and the compression that is pending is in force. -/
structure Keeps (b : SettingsBlock D) (s : Session D) : Prop where
  frameHeight : s.currentFrameHeight = b.acquisition.frameHeight
  frameWidth : s.currentFrameWidth = b.acquisition.frameWidth
  height : s.height.Settled s.currentFrameHeight
  width : s.width.Settled s.currentFrameWidth
  forced : s.compressionForced = false
  compression : s.pendingCompressionOption = s.currentCompressionOption

theorem keeps_start (b : SettingsBlock D) (dirs : DataDirs) : (start b dirs).Keeps b :=
  ⟨rfl, rfl, ⟨rfl, rfl⟩, ⟨rfl, rfl⟩, rfl, rfl⟩

/-- The option chosen is in force at once, and pending; which one is shown depends. -/
theorem onCompressionOptionChange_eq {s : Session D} {i : ℕ} (hforced : s.compressionForced = false)
    (hpending : s.pendingCompressionOption = s.currentCompressionOption)
    (hi : i < compressionOptions.length) :
    ∃ active, { s with compressionActive := i }.onCompressionOptionChange =
      { s.setCompressionOption i with
        compressionActive := active
        pendingCompressionOption := i } := by
  have hindex : stringToIndex (compressionOptions.getD i []) compressionOptions = i :=
    stringToIndex_getD (by decide) hi
  unfold onCompressionOptionChange
  rw [if_neg (by simp [hforced])]
  simp only [hindex]
  obtain ⟨block, dirs, height, width, active, forced, pending⟩ := s
  split_ifs with hsame hdeferred hshown
  · obtain rfl : pending = i := hpending.trans hsame
    exact ⟨pending, rfl⟩
  · exact absurd hshown.symm hsame
  · obtain rfl : forced = false := hforced
    exact ⟨_, rfl⟩
  · exact ⟨i, rfl⟩

theorem set_acquisition (setting : ComboSetting) (b : SettingsBlock D) (value : ℕ) :
    (setting.set b value).acquisition.frameHeight = b.acquisition.frameHeight ∧
    (setting.set b value).acquisition.frameWidth = b.acquisition.frameWidth ∧
    (setting.set b value).acquisition.compressionOption = b.acquisition.compressionOption := by
  cases setting <;> exact ⟨rfl, rfl, rfl⟩

theorem spin_acquisition (setting : SpinSetting) (b : SettingsBlock D) (value : ℤ) :
    (setting.set b value).acquisition = b.acquisition := by
  cases setting <;> rfl

theorem text_acquisition (setting : TextSetting) (b : SettingsBlock D) (text : List UInt8) :
    (setting.set b text).acquisition = b.acquisition := by
  cases setting <;> rfl

/-- A handler that leaves the combo boxes of the frame size and of the compression alone. -/
theorem Keeps.of_acquisition {b : SettingsBlock D} {s : Session D} (hs : s.Keeps b)
    {block : SettingsBlock D}
    (hheight : block.acquisition.frameHeight = s.block.acquisition.frameHeight)
    (hwidth : block.acquisition.frameWidth = s.block.acquisition.frameWidth)
    (hcompression : block.acquisition.compressionOption =
      s.block.acquisition.compressionOption) :
    { s with block := block }.Keeps b where
  frameHeight := hheight.trans hs.frameHeight
  frameWidth := hwidth.trans hs.frameWidth
  height := ⟨hs.height.1.trans hheight.symm, hs.height.2⟩
  width := ⟨hs.width.1.trans hwidth.symm, hs.width.2⟩
  forced := hs.forced
  compression := hs.compression.trans hcompression.symm

/-- The heights that were chosen, and the widths. -/
def heightChoice : Action D → Option ℕ
  | .frameHeight i => some i
  | _ => none

def widthChoice : Action D → Option ℕ
  | .frameWidth i => some i
  | _ => none

/-- What an action does to the sizes: a choice differs from the entry in force. -/
theorem step_keeps {b : SettingsBlock D} {s t : Session D} {action : Action D} (hs : s.Keeps b)
    (h : s.step rates action = some t) : t.Keeps b ∧
      t.height.pending = (heightChoice action).getD s.height.pending ∧
      t.width.pending = (widthChoice action).getD s.width.pending ∧
      (∀ i ∈ heightChoice action, i ≠ b.acquisition.frameHeight) ∧
      ∀ i ∈ widthChoice action, i ≠ b.acquisition.frameWidth := by
  cases action with
  | combo setting text =>
    obtain rfl := Option.some.inj h
    obtain ⟨hheight, hwidth, hcompression⟩ := set_acquisition setting s.block
      (stringToIndex text (setting.strings rates))
    exact ⟨hs.of_acquisition hheight hwidth hcompression, rfl, rfl, nofun, nofun⟩
  | frameHeight i =>
    obtain ⟨⟨hi, hne⟩, h⟩ := Option.ite_none_right_eq_some.mp h
    obtain rfl := Option.some.inj h
    rw [hs.height.onChange (by decide) hi hne]
    have hcurrent : i ≠ b.acquisition.frameHeight := hs.frameHeight ▸ hs.height.1 ▸ hne
    refine ⟨⟨hs.frameHeight, hs.frameWidth, ⟨rfl, rfl⟩, hs.width, hs.forced, hs.compression⟩,
      rfl, rfl, ?_, nofun⟩
    rintro _ ⟨⟩
    exact hcurrent
  | frameWidth i =>
    obtain ⟨⟨hi, hne⟩, h⟩ := Option.ite_none_right_eq_some.mp h
    obtain rfl := Option.some.inj h
    rw [hs.width.onChange (by decide) hi hne]
    have hcurrent : i ≠ b.acquisition.frameWidth := hs.frameWidth ▸ hs.width.1 ▸ hne
    refine ⟨⟨hs.frameHeight, hs.frameWidth, hs.height, ⟨rfl, rfl⟩, hs.forced, hs.compression⟩,
      rfl, rfl, nofun, ?_⟩
    rintro _ ⟨⟩
    exact hcurrent
  | compressionOption i =>
    obtain ⟨⟨hi, -⟩, h⟩ := Option.ite_none_right_eq_some.mp h
    obtain rfl := Option.some.inj h
    obtain ⟨active, heq⟩ := onCompressionOptionChange_eq hs.forced hs.compression hi
    rw [heq]
    exact ⟨⟨hs.frameHeight, hs.frameWidth, hs.height, hs.width, hs.forced, rfl⟩, rfl, rfl, nofun,
      nofun⟩
  | spin setting value =>
    obtain rfl := Option.some.inj h
    have hsame := spin_acquisition setting s.block
      (clamp (setting.range s.block).1 (setting.range s.block).2 value)
    exact ⟨hs.of_acquisition (congrArg _ hsame) (congrArg _ hsame) (congrArg _ hsame), rfl, rfl,
      nofun, nofun⟩
  | greenGain value =>
    obtain rfl := Option.some.inj h
    exact ⟨hs.of_acquisition rfl rfl rfl, rfl, rfl, nofun, nofun⟩
  | blueGain value =>
    obtain rfl := Option.some.inj h
    exact ⟨hs.of_acquisition rfl rfl rfl, rfl, rfl, nofun, nofun⟩
  | text setting text =>
    obtain rfl := Option.some.inj h
    have hsame := text_acquisition setting s.block text
    exact ⟨hs.of_acquisition (congrArg _ hsame) (congrArg _ hsame) (congrArg _ hsame), rfl, rfl,
      nofun, nofun⟩
  | dir op =>
    obtain rfl := Option.some.inj h
    exact ⟨⟨hs.frameHeight, hs.frameWidth, hs.height, hs.width, hs.forced, hs.compression⟩, rfl,
      rfl, nofun, nofun⟩

/-- A size that is pending stays in force only until one is chosen. -/
theorem run_keeps {b : SettingsBlock D} {s t : Session D} {actions : List (Action D)}
    (hs : s.Keeps b) (h : run (step rates) s actions = some t) : t.Keeps b ∧
      (t.height.pending = b.acquisition.frameHeight ↔
        s.height.pending = b.acquisition.frameHeight ∧ ∀ a ∈ actions, heightChoice a = none) ∧
      (t.width.pending = b.acquisition.frameWidth ↔
        s.width.pending = b.acquisition.frameWidth ∧ ∀ a ∈ actions, widthChoice a = none) := by
  induction actions generalizing s with
  | nil =>
    obtain rfl := Option.some.inj h
    exact ⟨hs, by simp, by simp⟩
  | cons a actions ih =>
    obtain ⟨u, hu, hrun⟩ := run_cons_eq_some.mp h
    obtain ⟨hkeeps, hheight, hwidth, hotherHeight, hotherWidth⟩ := step_keeps hs hu
    obtain ⟨ht, hpendingHeight, hpendingWidth⟩ := ih hkeeps hrun
    refine ⟨ht, ?_, ?_⟩
    · rw [hpendingHeight, hheight, List.forall_mem_cons]
      cases hchoice : heightChoice a with
      | none => simp
      | some i => simp [hotherHeight i hchoice]
    · rw [hpendingWidth, hwidth, List.forall_mem_cons]
      cases hchoice : widthChoice a with
      | none => simp
      | some i => simp [hotherWidth i hchoice]

/-- The compression options that were chosen. -/
def compressionChoice : Action D → Option ℕ
  | .compressionOption i => some i
  | _ => none

theorem step_compression {b : SettingsBlock D} {s t : Session D} {action : Action D}
    (hs : s.Keeps b) (h : s.step rates action = some t) :
    t.currentCompressionOption =
      (compressionChoice action).getD s.currentCompressionOption := by
  cases action with
  | combo setting text =>
    obtain rfl := Option.some.inj h
    exact (set_acquisition setting s.block (stringToIndex text (setting.strings rates))).2.2
  | compressionOption i =>
    obtain ⟨⟨hi, -⟩, h⟩ := Option.ite_none_right_eq_some.mp h
    obtain rfl := Option.some.inj h
    obtain ⟨active, heq⟩ := onCompressionOptionChange_eq hs.forced hs.compression hi
    rw [heq]
    rfl
  | frameHeight i | frameWidth i =>
    obtain ⟨-, h⟩ := Option.ite_none_right_eq_some.mp h
    obtain rfl := Option.some.inj h
    rfl
  | spin setting value =>
    obtain rfl := Option.some.inj h
    have hsame := spin_acquisition setting s.block
      (clamp (setting.range s.block).1 (setting.range s.block).2 value)
    exact congrArg Acquisition.compressionOption hsame
  | text setting text =>
    obtain rfl := Option.some.inj h
    exact congrArg Acquisition.compressionOption (text_acquisition setting s.block text)
  | greenGain value | blueGain value | dir op =>
    obtain rfl := Option.some.inj h
    rfl

/-- The last of the options that were chosen, or the one in force before. -/
def lastCompression (before : ℕ) (actions : List (Action D)) : ℕ :=
  (actions.filterMap compressionChoice).getLast?.getD before

theorem run_compression {b : SettingsBlock D} {s t : Session D} {actions : List (Action D)}
    (hs : s.Keeps b) (h : run (step rates) s actions = some t) :
    t.currentCompressionOption = lastCompression s.currentCompressionOption actions := by
  induction actions generalizing s with
  | nil =>
    obtain rfl := Option.some.inj h
    rfl
  | cons a actions ih =>
    obtain ⟨u, hu, hrun⟩ := run_cons_eq_some.mp h
    rw [ih (step_keeps hs hu).1 hrun, step_compression hs hu, lastCompression, lastCompression,
      List.filterMap_cons]
    cases compressionChoice a with
    | none => rfl
    | some i => rw [List.getLast?_cons, Option.getD_some, Option.getD_some]

/-- Whatever the user does, the frame size in force is that of the start and is what the tab
shows, the compression option chosen last is in force and pending, and the program will start
with this frame size again only if no other was ever chosen: a choice cannot be taken back. -/
theorem session_keeps {b : SettingsBlock D} {dirs : DataDirs} {s : Session D}
    {actions : List (Action D)} (h : run (step rates) (start b dirs) actions = some s) :
    s.Keeps b ∧
      s.currentCompressionOption = lastCompression b.acquisition.compressionOption actions ∧
      s.pendingCompressionOption = lastCompression b.acquisition.compressionOption actions ∧
      (s.height.pending = b.acquisition.frameHeight ↔ ∀ a ∈ actions, heightChoice a = none) ∧
      (s.width.pending = b.acquisition.frameWidth ↔ ∀ a ∈ actions, widthChoice a = none) := by
  obtain ⟨hs, hheight, hwidth⟩ := run_keeps (keeps_start b dirs) h
  have hcompression := run_compression (keeps_start b dirs) h
  exact ⟨hs, hcompression, hs.compression.trans hcompression, hheight.trans (and_iff_right rfl),
    hwidth.trans (and_iff_right rfl)⟩

end Session

/-- The texts for frames of 285 lines with 1024 pixels. -/
def exampleRates : FrameRateTexts :=
  ⟨[bytes "21.6 Hz", bytes "27.0 Hz", bytes "36.0 Hz", bytes "43.3 Hz", bytes "54.1 Hz",
    bytes "72.1 Hz", bytes "108.1 Hz"], rfl⟩

def exampleDirs : DataDirs where
  darkSubDirMRU := ⟨[⟨bytes "/data/dark", by decide⟩, .blank, .blank, .blank], rfl⟩
  productRootDirMRU := ⟨[.blank, .blank, .blank, .blank], rfl⟩

/-- A user who chooses another frame height, and other compression options. -/
def exampleChoices : List (Action wholeNumbers) :=
  [.frameHeight 2, .compressionOption 0, .compressionOption 1]

theorem session_keeps_example : ∃ s, run (Session.step exampleRates)
      (Session.start exampleSettings exampleDirs) exampleChoices = some s ∧
    s.Keeps exampleSettings ∧ s.currentCompressionOption = 1 ∧
    (s.height.pending = 0 ↔ ∀ a ∈ exampleChoices, Session.heightChoice a = none) := by
  have hrun : (run (Session.step exampleRates) (Session.start exampleSettings exampleDirs)
      exampleChoices).isSome = true := by decide
  obtain ⟨s, hs⟩ := Option.isSome_iff_exists.mp hrun
  obtain ⟨hkeeps, hcompression, -, hheight, -⟩ := Session.session_keeps hs
  exact ⟨s, hs, hkeeps, hcompression, hheight⟩

end Settings
