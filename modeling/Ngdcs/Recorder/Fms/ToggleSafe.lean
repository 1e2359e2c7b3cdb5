import Ngdcs.Recorder.Fms.Toggle

/-! What the program knows about the toggle switch, and that its calls keep to it: the library is
opened and closed in turn, and only a device that was found and configured is read. -/
namespace Fms
open Dialogue Recorder

/-- The library is closed, or open. When a read finds the device `gone` the library is closed, but
the program has `left` it only after one more read at most, which may find the same. -/
inductive Phase where
  | closed | opened | gone | left | goneAgain
  deriving DecidableEq

def Phase.afterRead : Phase → Result → Phase
  | .opened, .noDevice => .gone
  | .left, .noDevice => .goneAgain
  | .left, _ => .closed
  | phase, _ => phase

/-- What the calls have told: `level` is what the last successful read has found. -/
structure Library where
  phase : Phase
  present : ℕ
  isDio32 : ℕ → Bool
  inputs : ℕ → Bool
  level : Bool
  lastRead : Option Result

def Library.fresh : Library := ⟨.closed, 0, fun _ => false, fun _ => false, false, none⟩

def set (f : ℕ → Bool) (index : ℕ) (b : Bool) : ℕ → Bool := fun i => if i = index then b else f i

def Library.learn (k : Library) : Request → Reply → Library
  | .aiousbInit, i =>
    if i.result = .success then
      { Library.fresh with phase := .opened, level := k.level, lastRead := k.lastRead }
    else { k with phase := .closed }
  | .getDevices, i => { k with present := i.deviceMask % 2 ^ 64 }
  | .queryDeviceInfo index, i =>
    { k with isDio32 := set k.isDio32 index (i.result = .success && i.productID = usbDio32) }
  | .getDeviceSerialNumber _, _ => k
  | .setCommTimeout _ _, _ => k
  | .dioConfigure index outputMask, i =>
    { k with inputs := set k.inputs index (i.result = .success && outputMask.all (· = 0)) }
  | .dioRead8 _ _, i =>
    { k with
      phase := k.phase.afterRead i.result
      level := if i.result = .success then i.byte ≠ 0 else k.level
      lastRead := some i.result }
  | .aiousbExit, _ => { k with phase := if k.phase = .gone then .left else .closed }

/-- The library is not opened twice. Devices that it lists are asked what they are, those of the
right kind are configured, and those that are configured are read, from port 0. -/
def Library.Allowed (k : Library) : Request → Prop
  | .aiousbInit => k.phase = .closed ∨ k.phase = .left
  | .getDevices => k.phase = .opened
  | .queryDeviceInfo index => k.phase = .opened ∧ k.present.testBit index
  | .getDeviceSerialNumber index => k.phase = .opened ∧ k.isDio32 index
  | .setCommTimeout index _ => k.phase = .opened ∧ k.isDio32 index
  | .dioConfigure index _ => k.phase = .opened ∧ k.isDio32 index
  | .dioRead8 index port =>
    port = 0 ∧ (k.phase = .opened ∧ k.isDio32 index ∧ k.inputs index ∨ k.phase = .left)
  | .aiousbExit => k.phase = .opened ∨ k.phase = .gone ∨ k.phase = .goneAgain

def rules : Rules Request Reply Library := ⟨Library.learn, Library.Allowed⟩

/-- There has been one warning at most, and then there will be no more. -/
def Warned (s : ToggleSwitch) : Prop :=
  s.warned.length ≤ 1 ∧ (s.errorsSuppressed = false → s.warned = [])

/-- The switch can be read. -/
def Ready (s : ToggleSwitch) (k : Library) : Prop :=
  k.phase = .opened ∧ k.isDio32 s.deviceIndex ∧ k.inputs s.deviceIndex

/-- What the program assumes is so, while the setting changes too. -/
structure Known (s : ToggleSwitch) (k : Library) : Prop where
  attached : s.recordToggleAttached = true → Ready s k
  detached : s.recordToggleAttached = false → k.phase = .closed ∨ k.phase = .left
  level : s.lastResult = k.level
  warned : Warned s
  presses : ∀ level ∈ s.recordPresses, level = true

/-- What the program shows is so. -/
structure Agrees (s : ToggleSwitch) (k : Library) : Prop extends Known s k where
  off : s.fmsControl = false → s.recordToggleAttached = false ∧ s.tab.lineHigh = false
  unused : s.fmsCheckColor = .unused ↔ s.fmsControl = false
  green : s.fmsCheckColor = .green → k.lastRead = some .success

/-- What `attachRecordToggleSwitch` leaves alone. -/
structure Frame (s s' : ToggleSwitch) : Prop where
  tab : s'.tab = s.tab
  fmsControl : s'.fmsControl = s.fmsControl
  attached : s'.recordToggleAttached = s.recordToggleAttached
  lastResult : s'.lastResult = s.lastResult
  color : s'.fmsCheckColor = s.fmsCheckColor
  presses : s'.recordPresses = s.recordPresses

theorem Frame.refl (s : ToggleSwitch) : Frame s s := ⟨rfl, rfl, rfl, rfl, rfl, rfl⟩

theorem Frame.trans {s s' s'' : ToggleSwitch} (h : Frame s s') (h' : Frame s' s'') : Frame s s'' :=
  ⟨h'.tab.trans h.tab, h'.fmsControl.trans h.fmsControl, h'.attached.trans h.attached,
    h'.lastResult.trans h.lastResult, h'.color.trans h.color, h'.presses.trans h.presses⟩

theorem frame_warn (s : ToggleSwitch) (msg : String) : Frame s (s.warn msg) :=
  ⟨rfl, rfl, rfl, rfl, rfl, rfl⟩

theorem Warned.warn {s : ToggleSwitch} (h : Warned s) (msg : String) : Warned (s.warn msg) := by
  refine ⟨?_, nofun⟩
  unfold ToggleSwitch.warn
  cases hsuppressed : s.errorsSuppressed with
  | true => exact h.1
  | false =>
    rw [h.2 hsuppressed]
    exact Nat.le_refl _

/-- What the reads have told is not forgotten. -/
def Remembers (level : Bool) (lastRead : Option Result) (k : Library) : Prop :=
  k.level = level ∧ k.lastRead = lastRead

section Triples

variable {s : ToggleSwitch} {level : Bool} {lastRead : Option Result} {E : Empty → Library → Prop}

/-- The library is open, and what the reads have told is known. -/
def Opened (level : Bool) (lastRead : Option Result) (k : Library) : Prop :=
  k.phase = .opened ∧ Remembers level lastRead k

/-- The bits of `deviceMask` from `index` on are still to be looked at. -/
def Looking (level : Bool) (lastRead : Option Result) (deviceMask index : ℕ) (k : Library) : Prop :=
  Opened level lastRead k ∧ ∀ i, deviceMask.testBit i = k.present.testBit (index + i)

theorem Looking.next {deviceMask index : ℕ} {k : Library}
    (h : Looking level lastRead deviceMask index k) :
    Looking level lastRead (deviceMask / 2) (index + 1) k := by
  refine ⟨h.1, fun i => ?_⟩
  rw [← Nat.testBit_succ, h.2, Nat.add_right_comm, Nat.add_assoc]

/-- What `findDevices` finds. -/
def Found (level : Bool) (lastRead : Option Result) (s : ToggleSwitch) (r : ℕ × ℕ × ToggleSwitch)
    (k : Library) : Prop :=
  Opened level lastRead k ∧ Frame s r.2.2 ∧ Warned r.2.2 ∧
    (r.1 ≠ 0 → k.isDio32 r.2.2.deviceIndex = true)

theorem Found.of_frame {s' : ToggleSwitch} {r : ℕ × ℕ × ToggleSwitch} {k : Library}
    (h : Found level lastRead s' r k) (hframe : Frame s s') : Found level lastRead s r k :=
  ⟨h.1, hframe.trans h.2.1, h.2.2⟩

theorem findDevices_triple (bits deviceMask index : ℕ) (hwarned : Warned s) :
    rules.Triple (Looking level lastRead deviceMask index) (findDevices bits deviceMask index s)
      (Found level lastRead s) E := by
  induction bits generalizing deviceMask index s with
  | zero =>
    refine (Rules.Triple.pure (0, index, s)).weaken (fun k hk => ?_) fun _ _ hk => hk
    exact ⟨hk.1, .refl s, hwarned, fun hne => absurd rfl hne⟩
  | succ bits ih =>
    -- the search goes on, maybe behind a warning
    have hnext {s' : ToggleSwitch} (hframe : Frame s s') (hwarned : Warned s') :
        rules.Triple (Looking level lastRead deviceMask index)
          (findDevices bits (deviceMask / 2) (index + 1) s') (Found level lastRead s) E :=
      (ih (deviceMask / 2) (index + 1) hwarned).weaken (fun _ hk => hk.next)
        fun _ _ hk => hk.of_frame hframe
    refine .ite (fun _ => ?_) fun _ => .ite (fun hodd => ?_) fun _ => hnext (.refl s) hwarned
    · refine (Rules.Triple.pure (0, index, s)).weaken (fun k hk => ?_) fun _ _ hk => hk
      exact ⟨hk.1, .refl s, hwarned, fun hne => absurd rfl hne⟩
    · refine .bind (Q := fun device k => Looking level lastRead deviceMask index k ∧
        (device.result = .success → device.productID = usbDio32 → k.isDio32 index = true))
        (.call (fun k hk => ?_) fun k device hk => ?_) fun device => ?_
      · have hbit : deviceMask.testBit 0 = true := by
          rw [Nat.testBit_zero, hodd]
          rfl
        exact ⟨hk.1.1, (hk.2 0).symm.trans hbit⟩
      · refine ⟨hk, fun hsuccess hproduct => ?_⟩
        show set k.isDio32 index _ index = true
        simp [set, hsuccess, hproduct]
      · refine .ite (fun hsuccess => .ite (fun hproduct => ?_) fun _ => ?_) fun _ => ?_
        · refine (Rules.Triple.pure (1, index + 1, { s with deviceIndex := index })).weaken
            (fun k hk => ?_) fun _ _ hk => hk
          exact ⟨hk.1.1, ⟨rfl, rfl, rfl, rfl, rfl, rfl⟩, hwarned,
            fun _ => hk.2 hsuccess hproduct⟩
        · exact (hnext (frame_warn s _) (hwarned.warn _)).weaken (fun _ hk => hk.1)
            fun _ _ hk => hk
        · exact (hnext (frame_warn s _) (hwarned.warn _)).weaken (fun _ hk => hk.1)
            fun _ _ hk => hk

/-- How `attachRecordToggleSwitch` ends: ready to read, or with a closed library. -/
def Attached (level : Bool) (lastRead : Option Result) (s : ToggleSwitch) (r : Bool × ToggleSwitch)
    (k : Library) : Prop :=
  Remembers level lastRead k ∧ Frame s r.2 ∧ Warned r.2 ∧
    if r.1 then Ready r.2 k else k.phase = .closed

/-- The library is closed behind a failure. -/
theorem giveUp_triple {s' : ToggleSwitch} (hframe : Frame s s') (hwarned : Warned s') :
    rules.Triple (Opened level lastRead)
      (do
        let _ ← Talk.call .aiousbExit
        pure (false, s'))
      (Attached level lastRead s) E := by
  refine .bind (Q := fun _ k => Library.phase k = .closed ∧ Remembers level lastRead k)
    (.call (fun k hk => .inl hk.1) fun k _ hk => ⟨?_, hk.2⟩) fun _ => ?_
  · show (if k.phase = .gone then Phase.left else .closed) = .closed
    rw [hk.1]
    rfl
  · refine (Rules.Triple.pure (false, s')).weaken (fun k hk => ?_) fun _ _ hk => hk
    exact ⟨hk.2, hframe, hwarned, hk.1⟩

theorem configureDevice_triple (hwarned : Warned s) :
    rules.Triple (fun k => Opened level lastRead k ∧ k.isDio32 s.deviceIndex = true)
      (configureDevice s) (Attached level lastRead s) E := by
  refine .bind (Q := fun _ k => Opened level lastRead k ∧ Library.isDio32 k s.deviceIndex = true)
    (.call (fun k hk => ⟨hk.1.1, hk.2⟩) fun _ _ hk => hk) fun serial => ?_
  have hcases : ∃ s', (if serial.result = .success then s
      else s.warn (errorText serial.text "getting serial number of device" s.deviceIndex)) = s' ∧
        Frame s s' ∧ Warned s' ∧ s'.deviceIndex = s.deviceIndex := by
    split_ifs
    · exact ⟨_, rfl, .refl s, hwarned, rfl⟩
    · exact ⟨_, rfl, frame_warn s _, hwarned.warn _, rfl⟩
  obtain ⟨s', hs', hframe, hwarned', hindex⟩ := hcases
  dsimp only
  rw [hs']
  refine .bind (Q := fun _ k => Opened level lastRead k ∧ Library.isDio32 k s.deviceIndex = true)
    (.call (fun k hk => ⟨hk.1.1, hindex ▸ hk.2⟩) fun _ _ hk => hk) fun _ => ?_
  refine .bind (Q := fun configured k => Opened level lastRead k ∧
    Library.isDio32 k s.deviceIndex = true ∧
      (configured.result = .success → k.inputs s.deviceIndex = true))
    (.call (fun k hk => ⟨hk.1.1, hindex ▸ hk.2⟩) fun k configured hk => ⟨hk.1, hk.2, ?_⟩)
    fun configured => ?_
  · intro hsuccess
    show set k.inputs s'.deviceIndex _ s.deviceIndex = true
    simp [set, hindex, hsuccess]
  · refine .ite (fun hsuccess => ?_) fun _ => ?_
    · refine (Rules.Triple.pure (true, s')).weaken (fun k hk => ?_) fun _ _ hk => hk
      exact ⟨hk.1.2, hframe, hwarned', hk.1.1, hindex ▸ hk.2.1, hindex ▸ hk.2.2 hsuccess⟩
    · exact (giveUp_triple (hframe.trans (frame_warn s' _)) (hwarned'.warn _)).weaken
        (fun _ hk => hk.1) fun _ _ hk => hk

theorem attachRecordToggleSwitch_triple (hwarned : Warned s) :
    rules.Triple (fun k => (k.phase = .closed ∨ k.phase = .left) ∧ Remembers level lastRead k)
      (attachRecordToggleSwitch s) (Attached level lastRead s) E := by
  refine .bind (Q := fun init k => Remembers level lastRead k ∧
    Library.phase k = if init.result = .success then .opened else .closed)
    (.call (fun k hk => hk.1) fun k init hk => ?_)
    fun init => .ite (fun hsuccess => ?_) fun hfails => ?_
  · show Remembers _ _ (if _ then _ else _) ∧ Library.phase (if _ then _ else _) = _
    split_ifs
    · exact ⟨hk.2, rfl⟩
    · exact ⟨hk.2, rfl⟩
  · refine .bind (Q := fun devices k => Opened level lastRead k ∧
      Library.present k = devices.deviceMask % 2 ^ 64)
      (.call (fun k hk => hk.2.trans (if_pos hsuccess))
        fun k devices hk => ⟨⟨hk.2.trans (if_pos hsuccess), hk.1⟩, rfl⟩) fun devices => ?_
    refine .bind ((findDevices_triple 64 (devices.deviceMask % 2 ^ 64) 0 hwarned).weaken
      (fun k hk => ⟨hk.1, fun i => by rw [hk.2, Nat.zero_add]⟩) fun _ _ hk => hk) ?_
    rintro ⟨devicesFound, index, s'⟩ k replies ⟨hopened, hframe, hwarned', hfound⟩
    refine Rules.Triple.ite (P := fun k => Opened level lastRead k ∧
      (devicesFound ≠ 0 → k.isDio32 s'.deviceIndex = true)) (fun _ => ?_)
      (fun hsome => .ite (fun _ => ?_) fun _ => ?_) k replies ⟨hopened, hfound⟩
    · exact (giveUp_triple (hframe.trans (frame_warn s' _)) (hwarned'.warn _)).weaken
        (fun _ hk => hk.1) fun _ _ hk => hk
    · exact (giveUp_triple (hframe.trans (frame_warn s' _)) (hwarned'.warn _)).weaken
        (fun _ hk => hk.1) fun _ _ hk => hk
    · refine (configureDevice_triple hwarned').weaken (fun _ hk => ⟨hk.1, hk.2 hsome⟩)
        fun r k hk => ?_
      exact ⟨hk.1, hframe.trans hk.2.1, hk.2.2⟩
  · refine (Rules.Triple.pure (false, s)).weaken (fun k hk => ?_) fun _ _ hk => hk
    exact ⟨hk.1, .refl s, hwarned, hk.2.trans (if_neg hfails)⟩

/-! ### Reading -/

/-- How `lineIsHigh` ends. -/
structure Sampled (s : ToggleSwitch) (r : Bool × ToggleSwitch) (k : Library) : Prop where
  agrees : Agrees r.2 k
  tab : r.2.tab = s.tab
  fmsControl : r.2.fmsControl = true
  high : r.1 = true → k.level = true
  -- a turn may read once more
  readable : s.recordToggleAttached = true → r.2.recordToggleAttached = true ∨ k.phase = .left

/-- The device has answered the read, if only with an error. -/
theorem Known.read {k : Library} {read : Reply} {color : CheckColor} {lastResult : Bool}
    (h : Known s k) (hreadable : s.recordToggleAttached = true ∨ k.phase = .left)
    (hthere : read.result ≠ .noDevice) (hfms : s.fmsControl = true) (hcolor : color ≠ .unused)
    (hgreen : color = .green → read.result = .success)
    (hlevel : lastResult =
      if read.result = .success then decide (read.byte ≠ 0) else s.lastResult) :
    Agrees { s with fmsCheckColor := color, lastResult }
      (k.learn (.dioRead8 s.deviceIndex 0) read) where
  attached hattached := by
    obtain ⟨hphase, hready⟩ := h.attached hattached
    refine ⟨?_, hready⟩
    show k.phase.afterRead read.result = .opened
    rw [hphase]
    cases hresult : read.result with
    | noDevice => exact absurd hresult hthere
    | _ => rfl
  detached hdetached := by
    have hleft : k.phase = .left :=
      hreadable.resolve_left fun hattached => Bool.false_ne_true (Eq.trans hdetached.symm hattached)
    apply Or.inl
    show k.phase.afterRead read.result = .closed
    rw [hleft]
    cases hresult : read.result with
    | noDevice => exact absurd hresult hthere
    | _ => rfl
  off hoff := absurd (Eq.trans hoff.symm hfms) Bool.false_ne_true
  unused := iff_of_false hcolor (by rw [hfms]; exact nofun)
  green hcolor := congrArg some (hgreen hcolor)
  level := by
    rw [hlevel, h.level]
    rfl
  warned := h.warned
  presses := h.presses

/-- The library is closed when a read has found the device missing. -/
theorem Known.missing {k : Library} {read : Reply} (h : Known s k)
    (hreadable : s.recordToggleAttached = true ∨ k.phase = .left)
    (hgone : read.result = .noDevice) (hfms : s.fmsControl = true) (exit : Reply) :
    Agrees { s with fmsCheckColor := .red, recordToggleAttached := false }
        ((k.learn (.dioRead8 s.deviceIndex 0) read).learn .aiousbExit exit) ∧
      (s.recordToggleAttached = true →
        ((k.learn (.dioRead8 s.deviceIndex 0) read).learn .aiousbExit exit).phase = .left) := by
  have hphase : ((k.learn (.dioRead8 s.deviceIndex 0) read).learn .aiousbExit exit).phase =
      if k.phase.afterRead .noDevice = .gone then .left else .closed := by
    rw [← hgone]
    rfl
  have hleft (hattached : s.recordToggleAttached = true) :
      ((k.learn (.dioRead8 s.deviceIndex 0) read).learn .aiousbExit exit).phase = .left := by
    rw [hphase, (h.attached hattached).1]
    rfl
  refine ⟨{
    attached := nofun
    detached := fun _ => ?_
    off := fun hoff => absurd (Eq.trans hoff.symm hfms) Bool.false_ne_true
    unused := iff_of_false nofun (by rw [hfms]; exact nofun)
    green := nofun
    level := ?_
    warned := h.warned
    presses := h.presses }, hleft⟩
  · rcases hreadable with hattached | hclosed
    · exact .inr (hleft hattached)
    · rw [hphase, hclosed]
      exact .inl rfl
  · show s.lastResult = if read.result = .success then _ else k.level
    rw [hgone, h.level]
    rfl

theorem lineIsHigh_triple (hfms : s.fmsControl = true) :
    rules.Triple (fun k => Known s k ∧ (s.recordToggleAttached = true ∨ k.phase = .left))
      (lineIsHigh s) (Sampled s) E := by
  refine .bind (Q := fun read k => ∃ k', Known s k' ∧
    (s.recordToggleAttached = true ∨ k'.phase = .left) ∧
      k = k'.learn (.dioRead8 s.deviceIndex 0) read) (.call (fun k hk => ⟨rfl, ?_⟩) fun k read hk =>
        ⟨k, hk.1, hk.2, rfl⟩) fun read => ?_
  · exact hk.2.imp hk.1.attached id
  · cases hresult : read.result with
    | success =>
      refine (Rules.Triple.pure (Q := Sampled s) _).weaken (fun k hk => ?_) fun _ _ hk => hk
      obtain ⟨k', hknown, hreadable, rfl⟩ := hk
      refine ⟨hknown.read hreadable (by rw [hresult]; exact nofun) hfms nofun (fun _ => hresult)
        (if_pos hresult).symm, rfl, hfms, fun hhigh => ?_, Or.inl⟩
      exact (if_pos hresult).trans hhigh
    | noDevice =>
      refine .bind (Q := fun _ k => ∃ k' exit, Known s k' ∧
        (s.recordToggleAttached = true ∨ k'.phase = .left) ∧
          k = (k'.learn (.dioRead8 s.deviceIndex 0) read).learn .aiousbExit exit)
        (.bind (.call (fun k hk => ?_) fun k exit hk => ?_) fun _ => .pure
          (Q := fun _ k => ∃ k' exit, Known s k' ∧
            (s.recordToggleAttached = true ∨ k'.phase = .left) ∧
              k = (k'.learn (.dioRead8 s.deviceIndex 0) read).learn .aiousbExit exit) ())
        fun _ => ?_
      · obtain ⟨k', hknown, hreadable, rfl⟩ := hk
        show Phase.afterRead _ _ = _ ∨ Phase.afterRead _ _ = _ ∨ Phase.afterRead _ _ = _
        rw [hresult]
        rcases hreadable with hattached | hleft
        · rw [(hknown.attached hattached).1]
          exact .inr (.inl rfl)
        · rw [hleft]
          exact .inr (.inr rfl)
      · obtain ⟨k', hknown, hreadable, rfl⟩ := hk
        exact ⟨k', exit, hknown, hreadable, rfl⟩
      · refine (Rules.Triple.pure (Q := Sampled s) _).weaken (fun k hk => ?_) fun _ _ hk => hk
        obtain ⟨k', exit, hknown, hreadable, rfl⟩ := hk
        obtain ⟨hmissing, hleft⟩ := hknown.missing hreadable hresult hfms exit
        exact ⟨hmissing, rfl, hfms, nofun, fun hattached => .inr (hleft hattached)⟩
    | timeout =>
      refine (Rules.Triple.pure (Q := Sampled s) _).weaken (fun k hk => ?_) fun _ _ hk => hk
      obtain ⟨k', hknown, hreadable, rfl⟩ := hk
      have hfails : ¬read.result = .success := by
        rw [hresult]
        exact nofun
      have hread := hknown.read hreadable (by rw [hresult]; exact nofun) hfms
        (show CheckColor.red ≠ .unused from nofun) nofun (if_neg hfails).symm
      refine ⟨hread, rfl, hfms, fun hhigh => hread.level.symm.trans hhigh, Or.inl⟩
    | other =>
      refine (Rules.Triple.pure (Q := Sampled s) _).weaken (fun k hk => ?_) fun _ _ hk => hk
      obtain ⟨k', hknown, hreadable, rfl⟩ := hk
      have hfails : ¬read.result = .success := by
        rw [hresult]
        exact nofun
      exact ⟨hknown.read hreadable (by rw [hresult]; exact nofun) hfms
        (show CheckColor.red ≠ .unused from nofun) nofun (if_neg hfails).symm, rfl, hfms, nofun,
        Or.inl⟩

/-! ### Steps -/

theorem Agrees.sampled {k : Library} (h : Agrees s k) (hfms : s.fmsControl = true)
    {first second : Bool} (hpress : (first && !s.tab.lineHigh) = true → s.lastResult = true) :
    Agrees (s.sampled first second) k :=
  { h with
    off := fun hoff => absurd (Eq.trans hoff.symm hfms) Bool.false_ne_true
    presses := by
      unfold ToggleSwitch.sampled
      dsimp only
      split_ifs with hpressed
      · refine List.forall_mem_append.mpr ⟨h.presses, List.forall_mem_singleton.mpr ?_⟩
        exact hpress (Bool.and_eq_true_iff.mp hpressed).1
      · exact h.presses }

theorem testDigitalLineTransition_triple (hattached : s.recordToggleAttached = true)
    (hfms : s.fmsControl = true) :
    rules.Triple (Agrees s) (testDigitalLineTransition s) Agrees E := by
  refine .bind ((lineIsHigh_triple hfms).weaken (fun k hk => ⟨hk.toKnown, .inl hattached⟩)
    fun _ _ hk => hk) ?_
  rintro ⟨first, s'⟩
  refine .ite (fun hrises => ?_) fun hstays => ?_
  · refine (Rules.Triple.pure (Q := Agrees) _).weaken (fun k hk => ?_) fun _ _ hk => hk
    refine hk.agrees.sampled hk.fmsControl fun _ => ?_
    exact hk.agrees.level.trans (hk.high (Bool.and_eq_true_iff.mp hrises).1)
  · intro k replies hk
    refine (Rules.Triple.bind ((lineIsHigh_triple hk.fmsControl).weaken (fun _ hk => hk)
      fun _ _ hk => hk) ?_) k replies ⟨hk.agrees.toKnown, hk.readable hattached⟩
    rintro ⟨second, s''⟩
    refine (Rules.Triple.pure (Q := Agrees) _).weaken (fun k hk => ?_) fun _ _ hk => hk
    refine hk.agrees.sampled hk.fmsControl fun hrises => absurd ?_ hstays
    rwa [hk.tab] at hrises

theorem detachIfAttached_triple : rules.Triple (Known s) (detachIfAttached s)
    (fun _ k => Known { s with recordToggleAttached := false } k) E := by
  refine .ite (fun hattached => ?_) fun hdetached => ?_
  · refine .bind (Q := fun _ k => Known { s with recordToggleAttached := false } k)
      (.call (fun k hk => .inl (hk.attached hattached).1) fun k exit hk => ?_) fun _ => .pure
        (Q := fun _ k => Known { s with recordToggleAttached := false } k) ()
    refine { hk with
      attached := nofun
      detached := fun _ => .inl ?_ }
    show (if k.phase = .gone then Phase.left else .closed) = .closed
    rw [(hk.attached hattached).1]
    rfl
  · refine (Rules.Triple.pure (Q := fun _ k => Known { s with recordToggleAttached := false } k)
      ()).weaken (fun k hk => ?_) fun _ _ hk => hk
    exact { hk with
      attached := nofun
      detached := fun _ => hk.detached (Bool.eq_false_iff.mpr hdetached) }

/-- What is known of the reads does not depend on the switch being attached. -/
theorem Known.remembers {k : Library} (h : Known s k) : Remembers s.lastResult k.lastRead k :=
  ⟨h.level.symm, rfl⟩

/-- The result of `attachRecordToggleSwitch` is noted. -/
theorem Attached.known {k k' : Library} {done : Bool} {s' : ToggleSwitch} (h : Known s k')
    (hattach : Attached s.lastResult lastRead s (done, s') k) :
    Known { s' with recordToggleAttached := done } k := by
  obtain ⟨⟨hlevel, -⟩, hframe, hwarned, hdone⟩ := hattach
  exact {
    attached := fun hattached => by
      obtain rfl : done = true := hattached
      exact hdone
    detached := fun hdetached => by
      obtain rfl : done = false := hdetached
      exact .inl hdone
    level := hframe.lastResult.trans hlevel.symm
    warned := hwarned
    presses := hframe.presses ▸ h.presses }

theorem fmsControlChanged_triple
    (hdetached : s.fmsControl = true → s.recordToggleAttached = false) :
    rules.Triple (Known s) (fmsControlChanged s) Agrees E := by
  refine .ite (fun hfms => ?_) fun hfms => ?_
  · refine .bind detachIfAttached_triple fun _ => ?_
    refine (Rules.Triple.pure (Q := Agrees) _).weaken (fun k hk => ?_) fun _ _ hk => hk
    exact { hk with
      off := fun _ => ⟨rfl, rfl⟩
      unused := iff_of_true rfl hfms
      green := nofun }
  · have hfms : s.fmsControl = true := Bool.eq_true_of_not_eq_false hfms
    have hoff := hdetached hfms
    intro k replies hk
    refine (Rules.Triple.bind (@attachRecordToggleSwitch_triple s _ k.lastRead E hk.warned) ?_) k
      replies ⟨hk.detached hoff, hk.remembers⟩
    rintro ⟨done, s'⟩ k' replies' hk'
    have hfms' : s'.fmsControl = true := hk'.2.1.fmsControl.trans hfms
    have hknown := Attached.known hk hk'
    cases done with
    | false =>
      refine (Rules.Triple.pure (Q := Agrees) _) k' replies' ?_
      exact { hknown with
        off := fun hoff => absurd (Eq.trans hoff.symm hfms') Bool.false_ne_true
        unused := iff_of_false nofun (by rw [hfms']; exact nofun)
        green := nofun }
    | true =>
      refine (Rules.Triple.bind (lineIsHigh_triple (s := { s' with recordToggleAttached := true })
        hfms') ?_) k' replies' ⟨hknown, .inl rfl⟩
      rintro ⟨high, s''⟩
      refine (Rules.Triple.pure (Q := Agrees) _).weaken (fun k hk => ?_) fun _ _ hk => hk
      exact { hk.agrees with
        off := fun hoff => absurd (Eq.trans hoff.symm hk.fmsControl) Bool.false_ne_true
        unused := iff_of_false nofun (by rw [hk.fmsControl]; exact nofun)
        green := nofun }

theorem reattach_triple : rules.Triple (Agrees s) (reattach s) Agrees E := by
  refine .ite (fun hneeded => ?_) fun _ => .pure (Q := Agrees) s
  obtain ⟨hdetached, hfms, -⟩ := hneeded
  intro k replies hk
  refine (Rules.Triple.bind (@attachRecordToggleSwitch_triple s _ k.lastRead E hk.warned) ?_) k
    replies ⟨hk.detached hdetached, hk.remembers⟩
  rintro ⟨done, s'⟩ k' replies' hk'
  have hfms' : s'.fmsControl = true := hk'.2.1.fmsControl.trans hfms
  have hknown := Attached.known hk.toKnown hk'
  cases done with
  | false =>
    have hattached : s'.recordToggleAttached = false := hk'.2.1.attached.trans hdetached
    refine (Rules.Triple.pure (Q := Agrees) _) k' replies' ?_
    exact { hknown with
      attached := fun hattached' => absurd (hattached.symm.trans hattached') Bool.false_ne_true
      detached := fun _ => hknown.detached rfl
      off := fun hoff => absurd (Eq.trans hoff.symm hfms') Bool.false_ne_true
      unused := by
        rw [hk'.2.1.color, hk'.2.1.fmsControl]
        exact hk.unused
      green := fun hgreen => by
        rw [hk'.2.1.color] at hgreen
        exact hk'.1.2.trans (hk.green hgreen) }
  | true =>
    refine (Rules.Triple.pure (Q := Agrees) _) k' replies' ?_
    exact { hknown with
      off := fun hoff => absurd (Eq.trans hoff.symm hfms') Bool.false_ne_true
      unused := iff_of_false nofun (by rw [hfms']; exact nofun)
      green := nofun }

/-- What one event keeps. -/
theorem step_triple (e : Event) : rules.Triple (Agrees s) (step s e) Agrees E := by
  cases e with
  | turn =>
    refine .ite (fun hattached => ?_) fun _ => .pure (Q := Agrees) s
    intro k replies hk
    have hfms : s.fmsControl = true := by
      by_contra hoff
      rw [(hk.off (Bool.eq_false_iff.mpr hoff)).1] at hattached
      cases hattached
    exact testDigitalLineTransition_triple hattached hfms k replies hk
  | reattach => exact reattach_triple
  | optionChosen fmsControl =>
    refine .ite (fun _ => .pure (Q := Agrees) s) fun hchanged => ?_
    intro k replies hk
    refine fmsControlChanged_triple (s := { s with fmsControl }) (fun hfms => ?_) k replies
      { hk.toKnown with }
    refine (hk.off ?_).1
    by_contra hon
    exact hchanged ((Bool.eq_true_of_not_eq_false hon).trans (Eq.symm hfms))
  | recorder tab =>
    refine (Rules.Triple.pure (Q := Agrees) _).weaken (fun k hk => ?_) fun _ _ hk => hk
    exact { hk with }

theorem steps_triple (es : List Event) : rules.Triple (Agrees s) (steps s es) Agrees E := by
  induction es generalizing s with
  | nil => exact .pure (Q := Agrees) s
  | cons e es ih => exact .bind (step_triple e) fun _ => ih

theorem running_triple (tab : DisplayTab) (fmsControl : Bool) (es : List Event) :
    rules.Triple (· = .fresh) (running tab fmsControl es) Agrees E := by
  refine .bind ((fmsControlChanged_triple fun _ => rfl).weaken ?_ fun _ _ hk => hk)
    fun _ => steps_triple es
  rintro k rfl
  exact ⟨nofun, fun _ => .inl rfl, rfl, ⟨Nat.zero_le _, fun _ => rfl⟩, nofun⟩

end Triples

end Fms
