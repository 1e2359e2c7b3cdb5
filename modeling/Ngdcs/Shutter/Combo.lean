import Ngdcs.Shutter.Motor

/-! `DisplayTab::onShutterCombo`: the choice of the shutter's position, and what the motor was told
to do for it. -/
namespace Shutter
open Dialogue

/-- `SHUTTER_POS_...` -/
inductive Selection where
  | unknown | closed | opened
  deriving DecidableEq

namespace Selection

/-- `shutterOptions` -/
def option : Selection → String
  | unknown => "Shutter Pos Unknown"
  | closed => "Shutter Closed"
  | opened => "Shutter Open"

def target : Selection → Option ℤ
  | unknown => none
  | closed => some shutterClosedPos
  | opened => some shutterOpenPos

end Selection

/-- What the combo box shows, the statics of `onShutterCombo`, and the texts that were logged or
shown as a warning. -/
structure Control where
  active : Selection
  firstTime : Bool
  ignoreChange : Bool
  logged : List String
  warned : List String

namespace Control

variable (s : Control)

def initial : Control := ⟨.unknown, true, false, [], []⟩

def log (text : String) : Control := { s with logged := s.logged ++ [text] }

def warn (text : String) : Control := { s with warned := s.warned ++ [text] }

/-- `ignore_change = 1; m_shutterCombo->set_active_text(shutterOptions[0]);` The combo box tells
of a change only, which the handler then ignores. -/
def forceUnknown : Control :=
  if s.active = .unknown then { s with ignoreChange := true }
  else { s with active := .unknown, ignoreChange := false }

end Control

/-- The program that handles a choice has no failures of its own. -/
abbrev Handler := Talk Request Reply Empty

def giveUp (s : Control) (message : String) : Handler Control := do
  maxonCloseDevice
  pure (s.warn message).forceUnknown

/-- The part of `onShutterCombo` for the first time: a result on the left is a return. -/
def startUp (s : Control) : Handler (Control ⊕ Control) := do
  let s := s.log "Initializing shutter mechanism..."
  match ← maxonInitDevice.attempt with
  | .error message =>
    let s ← giveUp (s.log "Shutter device init failed.") message
    pure (.inl s)
  | .ok _ =>
    match ← maxonHome.attempt with
    | .error message =>
      let s ← giveUp (s.log "Shutter homing failed.") message
      pure (.inl s)
    | .ok () => pure (.inr ({ s with firstTime := false }.log "Initialization was successful."))

def moveTo (s : Control) (position : ℤ) : Handler Control := do
  match ← (maxonPosition position).attempt with
  | .error message => giveUp { s with firstTime := true } message
  | .ok () => pure s

/-- The part of `onShutterCombo` that opens or closes. -/
def move (s : Control) : Handler Control :=
  match s.active with
  | .unknown => do
    maxonCloseDevice
    -- the combo box shows this option already
    pure { s with firstTime := true }
  | .closed => moveTo s shutterClosedPos
  | .opened => moveTo s shutterOpenPos

/-- `onShutterCombo` behind its first log entry. -/
def carryOut (s : Control) : Handler Control :=
  if s.firstTime then do
    match ← startUp s with
    | .inl s => pure s
    | .inr s => move s
  else move s

/-- `DisplayTab::onShutterCombo` -/
def onShutterCombo (s : Control) : Handler Control :=
  if s.ignoreChange then pure { s with ignoreChange := false }
  else carryOut (s.log ("User changed shutter setting to " ++ s.active.option ++ "."))

/-- A choice of the user. -/
def select (s : Control) (selection : Selection) : Handler Control :=
  if s.active = selection then pure s else onShutterCombo { s with active := selection }

/-- The choices of the user, one after the other. -/
def selectAll (s : Control) : List Selection → Handler Control
  | [] => pure s
  | selection :: selections => do
    let s ← select s selection
    selectAll s selections

/-- What the combo box shows is so. Where it shows a position, the motor has been homed, the last
movement was one to this position, and it has ended without a fault; otherwise the device is
closed, and the next choice starts it. No failure was shown without a text. -/
structure Agrees (s : Control) (k : Motor) : Prop where
  ignoreChange : s.ignoreChange = false
  firstTime : s.firstTime = true ↔ s.active = .unknown
  unknown : s.active = .unknown → k.isOpen = false
  position : ∀ position ∈ s.active.target,
    Moving (.position position) true k ∧ k.arrived = true ∧ k.faultFree = true
  warned : ∀ text ∈ s.warned, text ≠ ""

section Triples

variable {s : Control} {E : Empty → Motor → Prop}

theorem giveUp_triple {message : String} (hactive : s.active ≠ .unknown)
    (hfirst : s.firstTime = true) (hwarned : ∀ text ∈ s.warned, text ≠ "") :
    rules.Triple (Told message) (giveUp s message) Agrees E := by
  refine .bind (Q := fun _ k => Told message k ∧ k.isOpen = false)
    (.bind (Q := fun _ k => Told message k ∧ k.isOpen = false)
      (.call (fun _ _ => trivial) fun _ _ htold => ⟨htold, rfl⟩) fun _ => .pure
        (Q := fun _ k => Told message k ∧ Motor.isOpen k = false) ()) fun _ => ?_
  refine (Rules.Triple.pure (Q := Agrees) _).weaken (fun k hk => ?_) fun _ _ hk => hk
  have hforce : (s.warn message).forceUnknown =
      { s with active := .unknown, ignoreChange := false, warned := s.warned ++ [message] } :=
    if_neg hactive
  rw [hforce]
  exact {
    ignoreChange := rfl
    firstTime := iff_of_true hfirst rfl
    unknown := fun _ => hk.2
    position := nofun
    warned := fun text htext => by
      rcases List.mem_append.mp htext with hold | hnew
      · exact hwarned text hold
      · rw [List.mem_singleton.mp hnew]
        exact hk.1 }

/-- The program goes on with an open device that has been homed. -/
def GoesOn (s : Control) (s' : Control) (k : Motor) : Prop :=
  (s'.active = s.active ∧ s'.firstTime = false ∧ s'.ignoreChange = s.ignoreChange ∧
    s'.warned = s.warned) ∧ Usable true k

theorem startUp_triple (hactive : s.active ≠ .unknown) (hfirst : s.firstTime = true)
    (hwarned : ∀ text ∈ s.warned, text ≠ "") :
    rules.Triple (fun k => k.isOpen = false) (startUp s) (Sum.elim Agrees (GoesOn s)) E := by
  refine .bind (.attempt (S := fun r k => match r with
    | .ok _ => k.isOpen = true
    | .error message => Told message k) maxonInitDevice_triple) fun init => ?_
  cases init with
  | error message =>
    refine .bind (giveUp_triple hactive hfirst hwarned) fun s' => ?_
    exact .pure (Q := Sum.elim Agrees (GoesOn s)) (Sum.inl s')
  | ok _ =>
    refine .bind (.attempt (S := fun r k => match r with
      | .ok _ => Usable true k
      | .error message => Told message k) maxonHome_triple) fun home => ?_
    cases home with
    | error message =>
      refine .bind (giveUp_triple hactive hfirst hwarned) fun s' => ?_
      exact .pure (Q := Sum.elim Agrees (GoesOn s)) (Sum.inl s')
    | ok _ =>
      exact (Rules.Triple.pure (Q := Sum.elim Agrees (GoesOn s)) _).weaken
        (fun _ hk => ⟨⟨rfl, rfl, rfl, rfl⟩, hk⟩) fun _ _ hk => hk

theorem moveTo_triple {position : ℤ} (htarget : s.active.target = some position)
    (hposition : position = shutterClosedPos ∨ position = shutterOpenPos)
    (hfirst : s.firstTime = false) (hignore : s.ignoreChange = false)
    (hwarned : ∀ text ∈ s.warned, text ≠ "") :
    rules.Triple (Usable true) (moveTo s position) Agrees E := by
  have hactive : s.active ≠ .unknown := fun h => by
    rw [h] at htarget
    cases htarget
  refine .bind (.attempt (S := fun r k => match r with
    | .ok _ => Moving (.position position) true k ∧ k.arrived = true ∧ k.faultFree = true
    | .error message => Told message k) (maxonPosition_triple hposition)) fun moved => ?_
  cases moved with
  | error message => exact giveUp_triple (s := { s with firstTime := true }) hactive rfl hwarned
  | ok _ =>
    refine (Rules.Triple.pure (Q := Agrees) s).weaken (fun k hk => ?_) fun _ _ hk => hk
    exact {
      ignoreChange := hignore
      firstTime := iff_of_false (by rw [hfirst]; decide) hactive
      unknown := fun h => absurd h hactive
      position := fun p hp => by
        rw [htarget] at hp
        obtain rfl := Option.mem_some_iff.mp hp
        exact hk
      warned := hwarned }

theorem move_triple (hfirst : s.firstTime = false) (hignore : s.ignoreChange = false)
    (hwarned : ∀ text ∈ s.warned, text ≠ "") : rules.Triple (Usable true) (move s) Agrees E := by
  cases hactive : s.active with
  | unknown =>
    rw [move, hactive]
    refine .bind (Q := fun _ k => Motor.isOpen k = false)
      (.bind (Q := fun _ k => Motor.isOpen k = false) (.call (fun _ _ => trivial) fun _ _ _ => rfl)
        fun _ => .pure (Q := fun _ k => Motor.isOpen k = false) ()) fun _ => ?_
    refine (Rules.Triple.pure (Q := Agrees) _).weaken (fun k hk => ?_) fun _ _ hk => hk
    exact {
      ignoreChange := hignore
      firstTime := iff_of_true rfl rfl
      unknown := fun _ => hk
      position := nofun
      warned := hwarned }
  | closed =>
    rw [move, hactive]
    exact moveTo_triple (by rw [hactive]; rfl) (Or.inl rfl) hfirst hignore hwarned
  | opened =>
    rw [move, hactive]
    exact moveTo_triple (by rw [hactive]; rfl) (Or.inr rfl) hfirst hignore hwarned

/-- Where the combo box shows a position, the device is open and homed. -/
theorem Agrees.usable {k : Motor} (h : Agrees s k) (hfirst : s.firstTime = false) :
    Usable true k := by
  have hactive : s.active ≠ .unknown := fun hunknown => by
    rw [h.firstTime.mpr hunknown] at hfirst
    cases hfirst
  cases hposition : s.active with
  | unknown => exact absurd hposition hactive
  | closed =>
    obtain ⟨hmoving, -⟩ := h.position shutterClosedPos (by rw [hposition]; rfl)
    exact ⟨hmoving.isOpen, fun _ => hmoving.homed⟩
  | opened =>
    obtain ⟨hmoving, -⟩ := h.position shutterOpenPos (by rw [hposition]; rfl)
    exact ⟨hmoving.isOpen, fun _ => hmoving.homed⟩

theorem carryOut_triple (hactive : s.firstTime = true → s.active ≠ .unknown)
    (hignore : s.ignoreChange = false) (hwarned : ∀ text ∈ s.warned, text ≠ "") :
    rules.Triple (fun k => (s.firstTime = true → k.isOpen = false) ∧
      (s.firstTime = false → Usable true k)) (carryOut s) Agrees E := by
  refine .ite (fun hfirst => ?_) fun hfirst => ?_
  · refine .bind ((startUp_triple (hactive hfirst) hfirst hwarned).weaken
      (fun _ hk => hk.1 hfirst) fun _ _ hk => hk) fun r => ?_
    cases r with
    | inl s' => exact .pure (Q := Agrees) s'
    | inr s' =>
      rintro k replies ⟨⟨-, hfirst', hignore', hwarned'⟩, husable⟩
      exact move_triple hfirst' (hignore'.trans hignore) (hwarned' ▸ hwarned) k replies husable
  · have hfirst' : s.firstTime = false := Bool.eq_false_iff.mpr hfirst
    exact (move_triple hfirst' hignore hwarned).weaken (fun _ hk => hk.2 hfirst')
      fun _ _ hk => hk

/-- What one choice keeps. -/
theorem select_triple (selection : Selection) :
    rules.Triple (Agrees s) (select s selection) Agrees E := by
  refine .ite (fun _ => .pure (Q := Agrees) s) fun hne => ?_
  intro k replies hk
  rw [onShutterCombo, if_neg (show ¬s.ignoreChange = true by rw [hk.ignoreChange]; decide)]
  refine carryOut_triple (fun hfirst hunknown => ?_) ?_ ?_ k replies ⟨fun hfirst => ?_, ?_⟩
  · exact hne ((hk.firstTime.mp hfirst).trans (Eq.symm hunknown))
  · exact hk.ignoreChange
  · exact hk.warned
  · exact hk.unknown (hk.firstTime.mp hfirst)
  · exact hk.usable

theorem selectAll_triple (selections : List Selection) :
    rules.Triple (Agrees s) (selectAll s selections) Agrees E := by
  induction selections generalizing s with
  | nil => exact .pure (Q := Agrees) s
  | cons selection selections ih => exact .bind (select_triple selection) fun _ => ih

end Triples

/-- Whatever the user chooses and whatever the driver answers, every call is one that the state of
the motor allows, and whenever a choice has been handled, the combo box agrees with the motor. -/
theorem selectAll_safe (selections : List Selection) (replies : List Reply) :
    rules.Obeys (.fresh false) (selectAll .initial selections replies).exchanges ∧
      ∀ s rest, (selectAll .initial selections replies).ended = some (.ok s, rest) →
        Agrees s (rules.known (.fresh false) (selectAll .initial selections replies).exchanges) := by
  have hinitial : Agrees .initial (.fresh false) :=
    ⟨rfl, iff_of_true rfl rfl, fun _ => rfl, nofun, nofun⟩
  obtain ⟨hobeys, hended⟩ := @selectAll_triple .initial (fun _ _ => True) selections _ replies
    hinitial
  exact ⟨hobeys, fun s rest h => hended _ h⟩

end Shutter
