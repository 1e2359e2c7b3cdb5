import Mathlib.Order.Basic

/-! Finite runs of a guarded step function. `step s e` is `none` where the event is not
enabled. Properties of single steps are lifted to whole runs here, so that a model only
has to say what one step preserves. -/
namespace Runs

variable {σ ε : Type*} (step : σ → ε → Option σ)

/-- The state after all the events, or `none` where one of them was not enabled. -/
def run (s : σ) : List ε → Option σ
  | [] => some s
  | e :: es => (step s e).bind fun t => run t es

/-- Every step taken while the events are replayed satisfies `Q`. -/
def EachStep (Q : σ → ε → σ → Prop) (s : σ) : List ε → Prop
  | [] => True
  | e :: es => ∀ t, step s e = some t → Q s e t ∧ EachStep Q t es

@[simp] theorem run_nil (s : σ) : run step s [] = some s := rfl

@[simp] theorem eachStep_nil (Q : σ → ε → σ → Prop) (s : σ) : EachStep step Q s [] := trivial

variable {step}

theorem run_cons_eq_some {s u : σ} {e : ε} {es : List ε} :
    run step s (e :: es) = some u ↔ ∃ t, step s e = some t ∧ run step t es = some u := by
  simp only [run, Option.bind_eq_some_iff]

theorem run_append_eq_some {s u : σ} {es fs : List ε} :
    run step s (es ++ fs) = some u ↔
      ∃ t, run step s es = some t ∧ run step t fs = some u := by
  induction es generalizing s with
  | nil => simp
  | cons e es ih =>
    simp only [List.cons_append, run_cons_eq_some, ih]
    constructor
    · rintro ⟨t, ht, v, hv, hu⟩
      exact ⟨v, ⟨t, ht, hv⟩, hu⟩
    · rintro ⟨v, ⟨t, ht, hv⟩, hu⟩
      exact ⟨t, ht, v, hv, hu⟩

variable {P Q : σ → ε → σ → Prop} {I : σ → Prop}

theorem eachStep_cons_iff {s t : σ} {e : ε} {es : List ε} (h : step s e = some t) :
    EachStep step Q s (e :: es) ↔ Q s e t ∧ EachStep step Q t es := by
  simp [EachStep, h]

/-- Steps of a decidable property are checked by replaying the events. -/
instance EachStep.decidable [∀ s e t, Decidable (Q s e t)] :
    (s : σ) → (es : List ε) → Decidable (EachStep step Q s es)
  | _, [] => isTrue trivial
  | s, e :: es =>
    match h : step s e with
    | none => isTrue fun t ht => by simp [h] at ht
    | some t =>
      have := EachStep.decidable t es
      decidable_of_iff (Q s e t ∧ EachStep step Q t es) (eachStep_cons_iff h).symm

/-- An invariant kept by every step that satisfies `Q` holds at the end of such a run. -/
theorem EachStep.invariant
    (hstep : ∀ s e t, I s → Q s e t → step s e = some t → I t) {s u : σ} {es : List ε}
    (hs : I s) (hQ : EachStep step Q s es) (hrun : run step s es = some u) : I u := by
  induction es generalizing s with
  | nil => exact Option.some.inj hrun ▸ hs
  | cons e es ih =>
    obtain ⟨t, ht, hu⟩ := run_cons_eq_some.mp hrun
    obtain ⟨hq, hrest⟩ := hQ t ht
    exact ih (hstep s e t hs hq ht) hrest hu

/-- An invariant kept by every step holds at the end of every run. -/
theorem run_invariant (hstep : ∀ s e t, I s → step s e = some t → I t) {s u : σ}
    {es : List ε} (hs : I s) (hrun : run step s es = some u) : I u := by
  induction es generalizing s with
  | nil => exact Option.some.inj hrun ▸ hs
  | cons e es ih =>
    obtain ⟨t, ht, hu⟩ := run_cons_eq_some.mp hrun
    exact ih (hstep s e t hs ht) hu

/-- A step property that follows from an invariant and a guard holds in every guarded run. -/
theorem EachStep.of_invariant
    (hstep : ∀ s e t, I s → Q s e t → step s e = some t → I t)
    (hprop : ∀ s e t, I s → Q s e t → step s e = some t → P s e t) {s : σ} {es : List ε}
    (hs : I s) (hQ : EachStep step Q s es) : EachStep step P s es := by
  induction es generalizing s with
  | nil => trivial
  | cons e es ih =>
    intro t ht
    obtain ⟨hq, hrest⟩ := hQ t ht
    exact ⟨hprop s e t hs hq ht, ih (hstep s e t hs hq ht) hrest⟩

/-- A step property that follows from an invariant kept by every step holds in every run. -/
theorem eachStep_of_invariant (hstep : ∀ s e t, I s → step s e = some t → I t)
    (hprop : ∀ s e t, I s → step s e = some t → P s e t) {s : σ} {es : List ε} (hs : I s) :
    EachStep step P s es := by
  induction es generalizing s with
  | nil => trivial
  | cons e es ih =>
    intro t ht
    exact ⟨hprop s e t hs ht, ih (hstep s e t hs ht)⟩

/-- Where an invariant makes a step property equivalent to a guard, and the guard keeps the
invariant, the property holds along a run exactly when the guard does. -/
theorem eachStep_iff_of_invariant
    (hiff : ∀ s e t, I s → step s e = some t → (P s e t ↔ Q s e t))
    (hstep : ∀ s e t, I s → Q s e t → step s e = some t → I t) {s : σ} {es : List ε}
    (hs : I s) : EachStep step P s es ↔ EachStep step Q s es := by
  induction es generalizing s with
  | nil => simp
  | cons e es ih =>
    constructor <;> intro h t ht
    · obtain ⟨hp, hrest⟩ := h t ht
      have hq := (hiff s e t hs ht).mp hp
      exact ⟨hq, (ih (hstep s e t hs hq ht)).mp hrest⟩
    · obtain ⟨hq, hrest⟩ := h t ht
      exact ⟨(hiff s e t hs ht).mpr hq, (ih (hstep s e t hs hq ht)).mpr hrest⟩

theorem eachStep_congr (h : ∀ s e t, step s e = some t → (P s e t ↔ Q s e t)) {s : σ}
    {es : List ε} : EachStep step P s es ↔ EachStep step Q s es :=
  @eachStep_iff_of_invariant _ _ step P Q (fun _ => True) (fun s e t _ => h s e t)
    (fun _ _ _ _ _ _ => trivial) s es trivial

end Runs
