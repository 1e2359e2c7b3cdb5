import Ngdcs.Shutter.Maxon

/-! What the calls of `maxon.cpp` tell about the motor, and that no movement is started before the
motor is ready for it. -/
namespace Shutter
open Dialogue

inductive Motion where
  | home
  | position (target : ℤ)
  deriving DecidableEq

/-- What is known about the motor: what was read or accepted last, as long as nothing was done
since then that may have changed it. -/
structure Motor where
  isOpen : Bool
  faultFree : Bool
  mode : Option ℤ
  enabled : Bool
  maxVelocity : Option ℕ
  maxAcceleration : Option ℕ
  homingSet : Bool
  homed : Bool
  motion : Option Motion
  position : Option ℤ
  arrived : Bool

/-- A motor of which nothing is known. -/
def Motor.fresh (isOpen : Bool) : Motor where
  isOpen := isOpen
  faultFree := false
  mode := none
  enabled := false
  maxVelocity := none
  maxAcceleration := none
  homingSet := false
  homed := false
  motion := none
  position := none
  arrived := false

/-- A movement has come to its end where the driver says so, where the position is the target, or
where it is the one that was read before. The motor is homed when the search for home has ended
so and left no fault. -/
def learn (k : Motor) : Request → Reply → Motor
  | .openDevice, i => if i.status then .fresh true else k
  | .closeDevice, _ => .fresh false
  | .resetDevice, _ => .fresh k.isOpen
  | .clearFault, _ => { k with faultFree := false }
  | .getFaultState, i =>
    { k with
      faultFree := i.status && i.value = 0
      homed := k.homed || i.status && i.value = 0 && k.motion = some .home && k.arrived }
  | .activateHomingMode, _ => { k with mode := none }
  | .activatePositionMode, _ => { k with mode := none }
  | .getOperationMode, i => { k with mode := if i.status then some i.value else none }
  | .setEnableState, i => { k with enabled := i.status }
  | .setMaxProfileVelocity v, i => { k with maxVelocity := if i.status then some v else none }
  | .setMaxAcceleration a, i => { k with maxAcceleration := if i.status then some a else none }
  | .setHomingParameter .., i => { k with homingSet := i.status }
  | .findHome _, _ =>
    { k with faultFree := false, homed := false, motion := some .home, position := none,
             arrived := false }
  | .setPositionMust target, _ =>
    { k with faultFree := false, motion := some (.position target), position := none,
             arrived := false }
  | .getMovementState, i => { k with arrived := i.status && i.value ≠ 0 }
  | .getPositionIs, i =>
    { k with
      position := if i.status then some i.value else none
      arrived := i.status && (k.motion = some (.position i.value) || k.position = some i.value) }
  | _, _ => k

/-- The motor may be told to move. -/
structure Ready (k : Motor) (mode : ℤ) (velocity : ℕ) : Prop where
  isOpen : k.isOpen = true
  faultFree : k.faultFree = true
  mode : k.mode = some mode
  enabled : k.enabled = true
  maxVelocity : k.maxVelocity = some velocity

/-- `SHUTTER_CLOSED_POS` -/
def shutterClosedPos : ℤ := -630000

/-- `SHUTTER_OPEN_POS` -/
def shutterOpenPos : ℤ := -25000

/-- Home is looked for in homing mode, and the shutter is moved to one of its two positions in
position mode, once home has been found; a device is opened once, and used while it is open. -/
def Allowed (k : Motor) : Request → Prop
  | .getDeviceNameSelection | .getProtocolStackNameSelection | .getInterfaceNameSelection
  | .getPortNameSelection | .closeDevice => True
  | .openDevice => k.isOpen = false
  | .findHome _ => Ready k omdHomingMode homingMaxVelocity ∧ k.homingSet = true
  | .setPositionMust target =>
    Ready k omdPositionMode positionMaxVelocity ∧
      k.maxAcceleration = some positionMaxAcceleration ∧ k.homed = true ∧
      (target = shutterClosedPos ∨ target = shutterOpenPos)
  | _ => k.isOpen = true

def rules : Rules Request Reply Motor := ⟨learn, Allowed⟩

/-- A failure has a message. -/
def Told (message : String) (_ : Motor) : Prop := message ≠ ""

theorem withCode_ne {text : String} (h : text ≠ "") (errorCode : UInt32) :
    withCode text errorCode ≠ "" := by
  intro hempty
  rw [withCode, String.append_assoc, String.append_assoc] at hempty
  exact h (String.append_eq_empty_iff.mp hempty).1

theorem withHint_ne {text : String} (h : text ≠ "") (errorCode : UInt32) :
    withHint text errorCode ≠ "" := fun hempty =>
  withCode_ne h errorCode (String.append_eq_empty_iff.mp hempty).1

section Triples

variable {P Q : Motor → Prop} {α : Type} {S : α → Motor → Prop} {message : String}

theorem fail_triple (h : message ≠ "") : rules.Triple P (Talk.fail message) S Told :=
  (Rules.Triple.fail message).weaken (fun _ _ => h) fun _ _ hs => hs

theorem require_triple (c : Prop) [Decidable c] (h : message ≠ "") :
    rules.Triple P (require c message) (fun _ k => P k ∧ c) Told := by
  refine .ite (fun hc => ?_) fun _ => fail_triple h
  exact (Rules.Triple.pure ()).weaken (fun _ hk => ⟨hk, hc⟩) fun _ _ hk => hk

theorem check_triple {S : Reply → Motor → Prop} {r : Request} {message : UInt32 → String}
    (hallowed : ∀ k, P k → Allowed k r)
    (hlearn : ∀ k i, P k → i.status = true → S i (learn k r i)) (h : ∀ c, message c ≠ "") :
    rules.Triple P (check r message) S Told := by
  refine Rules.Triple.bind (Q := fun i k => i.status = true → S i k)
    (.call hallowed hlearn) fun i => ?_
  refine .ite (fun hstatus => ?_) fun _ => fail_triple (h _)
  exact (Rules.Triple.pure i).weaken (fun _ hk => hk hstatus) fun _ _ hk => hk

theorem checkIf_triple {c : Bool} {r : Request} {message : UInt32 → String}
    (hallowed : ∀ k, P k → Allowed k r) (hlearn : ∀ k i, P k → Q (learn k r i))
    (hskip : ∀ k, P k → c = false → Q k) (h : ∀ c, message c ≠ "") :
    rules.Triple P (checkIf c r message) (fun _ => Q) Told := by
  refine .ite (fun _ => ?_) fun hc => ?_
  · exact (check_triple (S := fun _ => Q) hallowed (fun k i hk _ => hlearn k i hk) h).bind
      fun _ => .pure (Q := fun _ => Q) ()
  · exact (Rules.Triple.pure ()).weaken (fun k hk => hskip k hk (Bool.eq_false_iff.mpr hc))
      fun _ _ hk => hk

theorem faultState_triple {S : Bool → Motor → Prop} {text : String}
    (hopen : ∀ k, P k → k.isOpen = true)
    (hlearn : ∀ k i, P k → i.status = true →
      S (i.value ≠ 0) (learn k .getFaultState i)) (h : text ≠ "") :
    rules.Triple P (faultState text) S Told :=
  (check_triple (S := fun i k => S (i.value ≠ 0) k) hopen hlearn (withCode_ne h)).bind
    fun _ => .pure _

/-! ### The functions -/

theorem maxonInitDevice_triple : rules.Triple (fun k => k.isOpen = false) maxonInitDevice
    (fun _ k => k.isOpen = true) Told := by
  unfold maxonInitDevice
  refine .bind (check_triple (S := fun _ k => k.isOpen = false) (fun _ _ => trivial)
    (fun _ _ hk _ => hk) (withHint_ne (by decide))) fun _ => ?_
  refine .bind (check_triple (S := fun _ k => k.isOpen = false) (fun _ _ => trivial)
    (fun _ _ hk _ => hk) (withHint_ne (by decide))) fun _ => ?_
  refine .bind (check_triple (S := fun _ k => k.isOpen = false) (fun _ _ => trivial)
    (fun _ _ hk _ => hk) (withHint_ne (by decide))) fun _ => ?_
  refine .bind (check_triple (S := fun _ k => k.isOpen = false) (fun _ _ => trivial)
    (fun _ _ hk _ => hk) (withHint_ne (by decide))) fun _ => ?_
  refine .bind (check_triple (S := fun _ k => k.isOpen = true) (fun _ hk => hk)
    (fun k i _ hi => ?_) (withCode_ne (by decide))) fun _ => ?_
  · rw [learn, if_pos hi]
    rfl
  refine Rules.Triple.bind (Q := fun _ k => k.isOpen = true)
    (.call (fun _ hk => hk) fun _ _ hk => hk) fun _ => ?_
  refine .bind (check_triple (S := fun _ k => k.isOpen = true) (fun _ hk => hk)
    (fun _ _ hk _ => hk) (withCode_ne (by decide))) fun _ => ?_
  refine .bind (check_triple (S := fun _ k => k.isOpen = true) (fun _ hk => hk)
    (fun _ _ hk _ => hk) (withCode_ne (by decide))) fun _ => ?_
  refine Rules.Triple.bind (Q := fun _ k => k.isOpen = true)
    (.call (fun _ hk => hk) fun _ _ hk => hk) fun _ => ?_
  exact .ite (fun _ => .pure (Q := fun _ k => Motor.isOpen k = true) _) fun _ =>
    .pure (Q := fun _ k => Motor.isOpen k = true) _

/-- A movement has been started. -/
structure Moving (m : Motion) (homed : Bool) (k : Motor) : Prop where
  isOpen : k.isOpen = true
  motion : k.motion = some m
  homed : k.homed = homed

def Motion.target : Motion → Option ℤ
  | home => none
  | position target => some target

theorem poll_triple {m : Motion} {homed : Bool} {text : String} (h : text ≠ "")
    (last : Option ℤ) :
    rules.Triple (fun k => Moving m homed k ∧ k.position = last) (poll m.target text last)
      (Sum.elim (fun last k => Moving m homed k ∧ k.position = last)
        fun _ k => Moving m homed k ∧ k.arrived = true) Told := by
  refine .bind (check_triple (S := fun i k => (Moving m homed k ∧ k.position = last) ∧
    (i.value ≠ 0 → k.arrived = true)) (fun _ hk => hk.1.isOpen) (fun k i hk hi => ?_)
    (withCode_ne (by decide))) fun movement => ?_
  · refine ⟨⟨⟨hk.1.isOpen, hk.1.motion, hk.1.homed⟩, hk.2⟩, fun hvalue => ?_⟩
    simp [learn, hi, hvalue]
  refine .ite (fun hvalue => ?_) fun _ => ?_
  · exact (Rules.Triple.pure _).weaken (fun k hk => ⟨hk.1.1, hk.2 hvalue⟩) fun _ _ hk => hk
  refine .bind (check_triple (S := fun i k => (Moving m homed k ∧ k.position = some i.value) ∧
    (m.target = some i.value ∨ last = some i.value → k.arrived = true))
    (fun _ hk => hk.1.1.isOpen) (fun k i hk hi => ?_) (withCode_ne h)) fun current => ?_
  · obtain ⟨⟨hmoving, hlast⟩, -⟩ := hk
    refine ⟨⟨⟨hmoving.isOpen, hmoving.motion, hmoving.homed⟩, if_pos hi⟩, fun hend => ?_⟩
    cases m <;> simp_all [learn, Motion.target, hmoving.motion]
  refine .ite (fun htarget => ?_) fun _ => .ite (fun hlast => ?_) fun _ => ?_
  · exact (Rules.Triple.pure _).weaken (fun k hk => ⟨hk.1.1, hk.2 (Or.inl htarget)⟩)
      fun _ _ hk => hk
  · exact (Rules.Triple.pure _).weaken (fun k hk => ⟨hk.1.1, hk.2 (Or.inr hlast)⟩)
      fun _ _ hk => hk
  · exact (Rules.Triple.pure _).weaken (fun k hk => hk.1) fun _ _ hk => hk

theorem endFault_triple {m : Motion} {homed : Bool} :
    rules.Triple (fun k => Moving m homed k ∧ k.arrived = true) endFault
      (fun _ k => Moving m (homed || m = .home) k ∧ k.arrived = true ∧ k.faultFree = true)
      Told := by
  refine .bind (faultState_triple (S := fun faulted k => k.isOpen = true ∧ (faulted = false →
    Moving m (homed || m = .home) k ∧ k.arrived = true ∧ k.faultFree = true))
    (fun _ hk => hk.1.isOpen) (fun k i hk hi => ⟨hk.1.isOpen, fun hfault => ?_⟩) (by decide))
    fun faulted => ?_
  · obtain ⟨hmoving, harrived⟩ := hk
    have hvalue : i.value = 0 := by simpa using hfault
    refine ⟨⟨hmoving.isOpen, hmoving.motion, ?_⟩, harrived, ?_⟩
    · simp [learn, hi, hvalue, hmoving.motion, hmoving.homed, harrived]
    · simp [learn, hi, hvalue]
  refine .ite (fun _ => ?_) fun hfault => ?_
  · refine .bind (Q := fun _ _ => True) (.call (fun _ hk => hk.1) fun _ _ _ => trivial)
      fun cleared => ?_
    exact .ite (fun _ => fail_triple (withCode_ne (by decide) _)) fun _ =>
      fail_triple (by decide)
  · exact (Rules.Triple.pure _).weaken (fun k hk => hk.2 (Bool.eq_false_iff.mpr hfault))
      fun _ _ hk => hk

theorem awaitEnd_triple {m : Motion} {homed : Bool} {positionText endText : String}
    (hposition : positionText ≠ "") (hend : endText ≠ "") :
    rules.Triple (fun k => Moving m homed k ∧ k.position = none)
      (awaitEnd m.target positionText endText)
      (fun _ k => Moving m (homed || m = .home) k ∧ k.arrived = true ∧ k.faultFree = true)
      Told := by
  refine .bind (.loop (fun last => poll_triple hposition last) none) fun errorCode => ?_
  refine .bind (require_triple _ (withCode_ne hend _)) fun _ => ?_
  exact endFault_triple.weaken (fun _ hk => hk.1) fun _ _ hk => hk

/-- An open device, which has been homed where `homed` asks for it. -/
def Usable (homed : Bool) (k : Motor) : Prop := k.isOpen = true ∧ (homed = true → k.homed = true)

/-- A fault state that is read, and that is none. -/
theorem faultFree_triple {homed : Bool} {text : String} (h : text ≠ "") :
    rules.Triple (Usable homed) (faultState text)
      (fun faulted k => Usable homed k ∧ (faulted = false → k.faultFree = true)) Told := by
  refine faultState_triple (fun _ hk => hk.1) (fun k i hk hi => ⟨⟨hk.1, fun hhomed => ?_⟩,
    fun hfault => ?_⟩) h
  · simp [learn, hk.2 hhomed]
  · simp [learn, hi, show i.value = 0 by simpa using hfault]

theorem resetFault_triple : rules.Triple (Usable false) resetFault
    (fun _ k => Usable false k ∧ k.faultFree = true) Told := by
  refine .bind (check_triple (S := fun _ k => Usable false k) (fun _ hk => hk.1)
    (fun _ _ hk _ => ⟨hk.1, nofun⟩) (withCode_ne (by decide))) fun _ => ?_
  refine .bind (faultFree_triple (by decide)) fun faulted => ?_
  exact (require_triple _ (by decide)).weaken (fun _ hk => hk) fun _ k hk => ⟨hk.1.1, hk.1.2 hk.2⟩

theorem recoverFault_triple : rules.Triple (Usable false) recoverFault
    (fun _ k => Usable false k ∧ k.faultFree = true) Told := by
  refine .bind (Q := fun _ k => Usable false k)
    (.call (fun _ hk => hk.1) fun _ _ hk => ⟨hk.1, nofun⟩) fun cleared => ?_
  refine .bind (checkIf_triple (Q := Usable false) (fun _ hk => hk.1)
    (fun _ _ hk => ⟨hk.1, nofun⟩) (fun _ hk _ => hk) (withCode_ne (by decide))) fun _ => ?_
  refine .bind (faultFree_triple (by decide)) fun faulted => .ite (fun _ => ?_) fun hfault => ?_
  · exact resetFault_triple.weaken (fun _ hk => hk.1) fun _ _ hk => hk
  · exact (Rules.Triple.pure _).weaken (fun k hk => ⟨hk.1, hk.2 (Bool.eq_false_iff.mpr hfault)⟩)
      fun _ _ hk => hk

theorem homingFault_triple : rules.Triple (Usable false) homingFault
    (fun _ k => Usable false k ∧ k.faultFree = true) Told := by
  refine .bind (faultFree_triple (by decide)) fun faulted => .ite (fun _ => ?_) fun hfault => ?_
  · exact recoverFault_triple.weaken (fun _ hk => hk.1) fun _ _ hk => hk
  · exact (Rules.Triple.pure _).weaken (fun k hk => ⟨hk.1, hk.2 (Bool.eq_false_iff.mpr hfault)⟩)
      fun _ _ hk => hk

/-- A fault is cleared without a reset, and home is not lost. -/
theorem positionFault_triple : rules.Triple (Usable true) positionFault
    (fun _ k => Usable true k ∧ k.faultFree = true) Told := by
  refine .bind (faultFree_triple (by decide)) fun faulted => ?_
  refine .bind (checkIf_triple (Q := Usable true) (fun _ hk => hk.1.1)
    (fun _ _ hk => hk.1) (fun _ hk _ => hk.1) (withCode_ne (by decide))) fun _ => ?_
  refine .bind (faultFree_triple (by decide)) fun faulted => ?_
  exact (require_triple _ (by decide)).weaken (fun _ hk => hk) fun _ k hk => ⟨hk.1.1, hk.1.2 hk.2⟩

theorem prepare_triple {homed : Bool} {activate : Request} {mode : ℤ} {modeText enableText : String}
    {velocity : ℕ} (hactivate : activate = .activateHomingMode ∨ activate = .activatePositionMode)
    (hmode : modeText ≠ "") (henable : enableText ≠ "") :
    rules.Triple (fun k => Usable homed k ∧ k.faultFree = true)
      (prepare activate mode modeText enableText velocity)
      (fun _ k => Usable homed k ∧ Ready k mode velocity) Told := by
  unfold prepare
  refine .bind (check_triple (S := fun _ k => Usable homed k ∧ k.faultFree = true)
    (fun k hk => ?_) (fun k i hk _ => ?_) (withCode_ne hmode)) fun _ => ?_
  · rcases hactivate with rfl | rfl <;> exact hk.1.1
  · rcases hactivate with rfl | rfl <;> exact hk
  refine .bind (check_triple (S := fun i k => (Usable homed k ∧ k.faultFree = true) ∧
    k.mode = some i.value) (fun _ hk => hk.1.1) (fun k i hk hi => ⟨hk, if_pos hi⟩)
    (withCode_ne hmode)) fun opmode => ?_
  refine .bind (require_triple _ (withCode_ne hmode _)) fun _ => ?_
  refine .bind (check_triple (S := fun _ k => (Usable homed k ∧ k.faultFree = true) ∧
    k.mode = some mode ∧ k.enabled = true) (fun _ hk => hk.1.1.1.1)
    (fun k i hk hi => ⟨hk.1.1, hk.2 ▸ hk.1.2, hi⟩) (withCode_ne (by decide))) fun _ => ?_
  refine .bind (check_triple (S := fun _ k => (Usable homed k ∧ k.faultFree = true) ∧
    k.mode = some mode ∧ k.enabled = true) (fun _ hk => hk.1.1.1)
    (fun _ _ hk _ => hk) (withCode_ne henable)) fun _ => ?_
  refine .bind (check_triple (S := fun _ k => Usable homed k ∧ Ready k mode velocity)
    (fun _ hk => hk.1.1.1) (fun k i hk hi => ?_) (withCode_ne (by decide))) fun _ => ?_
  · obtain ⟨⟨husable, hfree⟩, hmode, henabled⟩ := hk
    exact ⟨husable, husable.1, hfree, hmode, henabled, if_pos hi⟩
  refine .bind (check_triple (S := fun _ k => Usable homed k ∧ Ready k mode velocity)
    (fun _ hk => hk.1.1) (fun _ _ hk _ => ⟨hk.1, hk.2.1, hk.2.2, hk.2.3, hk.2.4, hk.2.5⟩)
    (withCode_ne (by decide))) fun _ => ?_
  exact .pure (Q := fun _ k => Usable homed k ∧ Ready k mode velocity) ()

/-- Home is looked for only with a motor that is ready, and it has been found where no failure is
reported. -/
theorem maxonHome_triple : rules.Triple (fun k => k.isOpen = true) maxonHome
    (fun _ k => Usable true k) Told := by
  unfold maxonHome
  refine .bind (homingFault_triple.weaken (fun _ hk => ⟨hk, nofun⟩) fun _ _ hk => hk) fun _ => ?_
  refine .bind (prepare_triple (Or.inl rfl) (by decide) (by decide)) fun _ => ?_
  refine .bind (check_triple (S := fun _ k => Ready k omdHomingMode homingMaxVelocity ∧
    k.homingSet = true) (fun _ hk => hk.1.1)
    (fun _ _ hk hi => ⟨⟨hk.2.1, hk.2.2, hk.2.3, hk.2.4, hk.2.5⟩, hi⟩)
    (withCode_ne (by decide))) fun _ => ?_
  refine .bind (check_triple (S := fun _ k => Ready k omdHomingMode homingMaxVelocity ∧
    k.homingSet = true) (fun _ hk => hk.1.isOpen)
    (fun _ _ hk _ => hk) (withCode_ne (by decide))) fun _ => ?_
  refine .bind (check_triple (S := fun _ k => Moving .home false k ∧ k.position = none)
    (fun _ hk => hk) (fun _ _ hk _ => ⟨⟨hk.1.isOpen, rfl, rfl⟩, rfl⟩)
    (withCode_ne (by decide))) fun _ => ?_
  exact (@awaitEnd_triple .home false _ _ (by decide) (by decide)).weaken (fun _ hk => hk)
    fun _ k hk => ⟨hk.1.isOpen, fun _ => hk.1.homed⟩

/-- The shutter is moved only with a motor that is ready and homed; where no failure is reported,
the movement has ended and left no fault. -/
theorem maxonPosition_triple {position : ℤ}
    (h : position = shutterClosedPos ∨ position = shutterOpenPos) :
    rules.Triple (Usable true) (maxonPosition position)
      (fun _ k => Moving (.position position) true k ∧ k.arrived = true ∧ k.faultFree = true)
      Told := by
  unfold maxonPosition
  refine .bind positionFault_triple fun _ => ?_
  refine .bind (prepare_triple (Or.inr rfl) (by decide) (by decide)) fun _ => ?_
  refine .bind (check_triple (S := fun _ k => (Usable true k ∧
    Ready k omdPositionMode positionMaxVelocity) ∧ k.maxAcceleration = some positionMaxAcceleration)
    (fun _ hk => hk.1.1) (fun _ _ hk hi => ⟨⟨hk.1, hk.2.1, hk.2.2, hk.2.3, hk.2.4, hk.2.5⟩,
      if_pos hi⟩) (withCode_ne (by decide))) fun _ => ?_
  refine .bind (check_triple (S := fun _ k => (Usable true k ∧
    Ready k omdPositionMode positionMaxVelocity) ∧ k.maxAcceleration = some positionMaxAcceleration)
    (fun _ hk => hk.1.1.1) (fun _ _ hk _ => hk) (withCode_ne (by decide))) fun _ => ?_
  refine .bind (check_triple (S := fun _ k => Moving (.position position) true k ∧
    k.position = none) (fun k hk => ⟨hk.1.2, hk.2, hk.1.1.2 rfl, h⟩)
    (fun k _ hk _ => ⟨⟨hk.1.1.1, rfl, hk.1.1.2 rfl⟩, rfl⟩) (withCode_ne (by decide))) fun _ => ?_
  exact (@awaitEnd_triple (.position position) true _ _ (by decide) (by decide)).weaken
    (fun _ hk => hk) fun _ _ hk => hk

end Triples

end Shutter
