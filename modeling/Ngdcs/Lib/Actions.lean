import Mathlib.Init

/-! Actions on a state that return a value, report a failure or crash, with their
pre- and postconditions. A postcondition has a part for each of the first two; a crash meets no
postcondition. -/
namespace Actions

variable {σ : Type*} {α β : Type*}

inductive Outcome (σ α : Type*) where
  | ok (a : α) (s : σ)
  | fail (s : σ)
  | crash

def Action (σ α : Type*) := σ → Outcome σ α

namespace Action

def pure (a : α) : Action σ α := fun s => .ok a s

/-- What follows a failure or a crash is not done. -/
def bind (m : Action σ α) (f : α → Action σ β) : Action σ β := fun s =>
  match m s with
  | .ok a t => f a t
  | .fail t => .fail t
  | .crash => .crash

/-- The failure that a caller is told of. -/
def fail : Action σ α := fun s => .fail s

/-- The value, where there is one. -/
def ofOption : Option α → Action σ α
  | some a => pure a
  | none => fail

instance : Monad (Action σ) where
  pure := pure
  bind := bind

end Action

theorem bind_eq_ok {m : Action σ α} {f : α → Action σ β} {s u : σ} {b : β} :
    (m.bind f) s = .ok b u ↔ ∃ a t, m s = .ok a t ∧ f a t = .ok b u := by
  unfold Action.bind
  cases m s with
  | ok a t => exact ⟨fun h => ⟨a, t, rfl, h⟩, by rintro ⟨_, _, ⟨⟩, h⟩; exact h⟩
  | fail t => exact ⟨nofun, by rintro ⟨_, _, ⟨⟩, _⟩⟩
  | crash => exact ⟨nofun, by rintro ⟨_, _, ⟨⟩, _⟩⟩

theorem bind_assoc {γ : Type*} (m : Action σ α) (f : α → Action σ β) (g : β → Action σ γ) :
    (m.bind f).bind g = m.bind fun a => (f a).bind g := by
  funext s
  unfold Action.bind
  cases m s <;> rfl

theorem ofOption_eq_ok {x : Option α} {a : α} {s t : σ} :
    (Action.ofOption x : Action σ α) s = .ok a t ↔ x = some a ∧ s = t := by
  cases x with
  | none => exact ⟨nofun, fun h => nomatch h.1⟩
  | some b => simp [Action.ofOption, Action.pure]

/-- From a state with `P`, the action does not crash; a value `a` comes with a state in
`Q a`, and a failure leaves a state in `E`. -/
def Triple (P : σ → Prop) (m : Action σ α) (Q : α → σ → Prop) (E : σ → Prop) : Prop :=
  ∀ s, P s → match m s with
    | .ok a t => Q a t
    | .fail t => E t
    | .crash => False

variable {P : σ → Prop} {E : σ → Prop}

theorem Triple.ok {Q : α → σ → Prop} {m : Action σ α} (h : Triple P m Q E) {s t : σ} {a : α}
    (hs : P s) (hm : m s = .ok a t) : Q a t := by
  have hres := h s hs
  rw [hm] at hres
  exact hres

theorem Triple.not_crash {Q : α → σ → Prop} {m : Action σ α} (h : Triple P m Q E) {s : σ}
    (hs : P s) : m s ≠ .crash := by
  intro hm
  have hres := h s hs
  rw [hm] at hres
  exact hres

end Actions
