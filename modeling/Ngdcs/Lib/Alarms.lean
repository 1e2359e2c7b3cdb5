import Mathlib.Data.List.Basic
import Mathlib.Data.List.Induction
import Mathlib.Data.Rat.Defs
import Mathlib.Algebra.Order.Ring.Rat
import Mathlib.Tactic.SplitIfs

/-! Alarms: a latch that holds an alarm, and a watch that gives an alarm after a number of
failures in a row. What they show is described by the history alone. -/
namespace Alarms

/-! ### Latches -/

section

variable {ε : Type*} {on : List ε → Prop} {raise : List ε → ε → Prop} {hold : ε → Prop}

/-- A latch is on if some event has raised it, after what came before, and all events since then
have held it. -/
theorem latch_iff (hnil : ¬on [])
    (hsnoc : ∀ es e, on (es ++ [e]) ↔ raise es e ∨ (hold e ∧ on es)) (es : List ε) :
    on es ↔ ∃ pre e suf, es = pre ++ e :: suf ∧ raise pre e ∧ ∀ r ∈ suf, hold r := by
  induction es using List.reverseRecOn with
  | nil =>
    refine iff_of_false hnil ?_
    rintro ⟨pre, e, suf, h, -⟩
    exact List.append_ne_nil_of_right_ne_nil pre (List.cons_ne_nil e suf) h.symm
  | append_singleton es e ih =>
    rw [hsnoc, ih]
    constructor
    · rintro (hraise | ⟨hhold, pre, d, suf, rfl, hraise, hsuf⟩)
      · exact ⟨es, e, [], rfl, hraise, by simp⟩
      · refine ⟨pre, d, suf ++ [e], by simp, hraise, ?_⟩
        rw [List.forall_mem_append]
        exact ⟨hsuf, by simpa using hhold⟩
    · rintro ⟨pre, d, suf, h, hraise, hsuf⟩
      rcases List.eq_nil_or_concat suf with rfl | ⟨suf, r, rfl⟩
      · obtain ⟨rfl, heq⟩ := List.append_inj' h rfl
        obtain rfl := List.singleton_inj.mp heq
        exact Or.inl hraise
      · rw [List.concat_eq_append, ← List.cons_append, ← List.append_assoc] at h
        obtain ⟨rfl, heq⟩ := List.append_inj' h rfl
        obtain rfl := List.singleton_inj.mp heq
        rw [List.concat_eq_append, List.forall_mem_append] at hsuf
        exact Or.inr ⟨hsuf.2 e (by simp), pre, d, suf, rfl, hraise, hsuf.1⟩

end

/-! ### Watches -/

/-- What is learned about the thing watched; after `lost` nothing is known of it. -/
inductive Signal where
  | good | bad | lost | idle
  deriving DecidableEq

inductive Verdict where
  | unknown | healthy | failed
  deriving DecidableEq

structure Watch where
  failures : ℕ
  verdict : Verdict

namespace Watch

variable (limit : ℚ)

def initial : Watch := ⟨0, .unknown⟩

def step (w : Watch) : Signal → Watch
  | .good => ⟨0, .healthy⟩
  | .bad => ⟨w.failures + 1, if limit < w.failures + 1 then .failed else w.verdict⟩
  | .lost => ⟨w.failures, .unknown⟩
  | .idle => w

def after (signals : List Signal) : Watch := signals.foldl (step limit) initial

/-- The signals since the last good one, the latest first. -/
def recent (signals : List Signal) : List Signal := signals.reverse.takeWhile (· ≠ .good)

theorem after_snoc (signals : List Signal) (s : Signal) :
    after limit (signals ++ [s]) = step limit (after limit signals) s := List.foldl_concat ..

@[simp] theorem recent_good (signals : List Signal) : recent (signals ++ [.good]) = [] := by
  rw [recent, List.reverse_append, List.reverse_singleton, List.singleton_append,
    List.takeWhile_cons_of_neg (by simp)]

@[simp] theorem recent_snoc {s : Signal} (h : s ≠ .good) (signals : List Signal) :
    recent (signals ++ [s]) = s :: recent signals := by
  rw [recent, List.reverse_append, List.reverse_singleton, List.singleton_append,
    List.takeWhile_cons_of_pos (by simpa using h), recent]

theorem failures_after (signals : List Signal) :
    (after limit signals).failures = (recent signals).count .bad := by
  induction signals using List.reverseRecOn with
  | nil => rfl
  | append_singleton signals s ih =>
    rw [after_snoc]
    cases s with
    | good => simp [step]
    | bad => simp [step, ih]
    | lost => simp [step, ih]
    | idle => simp [step, ih]

/-- Healthy means that a good signal has come, and that nothing was lost and not too much was bad
since the last one. -/
theorem healthy_iff (hlimit : 0 ≤ limit) (signals : List Signal) :
    (after limit signals).verdict = .healthy ↔
      .good ∈ signals ∧ .lost ∉ recent signals ∧ (recent signals).count .bad ≤ limit := by
  induction signals using List.reverseRecOn with
  | nil => simp [after, initial]
  | append_singleton signals s ih =>
    have hcount := failures_after limit signals
    rw [after_snoc]
    cases s with
    | good => simp [step, hlimit]
    | bad =>
      simp only [step, hcount, recent_snoc, ne_eq, reduceCtorEq, not_false_eq_true, List.mem_cons,
        List.count_cons_self, Nat.cast_add, Nat.cast_one, List.mem_append, List.not_mem_nil,
        or_false, false_or]
      split_ifs with hfailed
      · refine iff_of_false (by simp) ?_
        rintro ⟨-, -, hle⟩
        exact absurd hfailed (not_lt.mpr hle)
      · rw [ih]
        have hle := not_lt.mp hfailed
        have hbefore : ((recent signals).count .bad : ℚ) ≤ limit :=
          (le_add_of_nonneg_right zero_le_one).trans hle
        simp [hle, hbefore]
    | lost => simp [step]
    | idle => simp [step, ih]

/-- Failed means that too much was bad since the last good signal, and that nothing was lost
since the last bad one. -/
theorem failed_iff (signals : List Signal) :
    (after limit signals).verdict = .failed ↔
      limit < (recent signals).count .bad ∧ (recent signals).find? (· ≠ .idle) = some .bad := by
  induction signals using List.reverseRecOn with
  | nil => simp [after, initial, recent]
  | append_singleton signals s ih =>
    have hcount := failures_after limit signals
    rw [after_snoc]
    cases s with
    | good => simp [step]
    | bad =>
      simp only [step, hcount, recent_snoc, ne_eq, reduceCtorEq, not_false_eq_true,
        List.count_cons_self, Nat.cast_add, Nat.cast_one]
      split_ifs with hfailed
      · simp [hfailed]
      · rw [ih]
        have hle := not_lt.mp hfailed
        have hbefore : ((recent signals).count .bad : ℚ) ≤ limit :=
          (le_add_of_nonneg_right zero_le_one).trans hle
        simp [hfailed, not_lt.mpr hbefore]
    | lost => simp [step]
    | idle => simp [step, ih]

/-! ### Signals of a history -/

section

variable {ε : Type*} (classify : List ε → ε → Signal)

/-- The signals of some events, each of which is read with what came before it. -/
def signalsFrom (pre : List ε) : List ε → List Signal
  | [] => []
  | e :: es => classify pre e :: signalsFrom (pre ++ [e]) es

def signals (es : List ε) : List Signal := signalsFrom classify [] es

theorem signalsFrom_snoc (pre es : List ε) (e : ε) : signalsFrom classify pre (es ++ [e]) =
    signalsFrom classify pre es ++ [classify (pre ++ es) e] := by
  induction es generalizing pre with
  | nil => simp [signalsFrom]
  | cons d es ih => simp [signalsFrom, ih]

variable {classify} {σ : Type*} {step : σ → ε → σ} {start : σ} (view : σ → Watch)

/-- A part of a state that is stepped as a watch is the watch of the signals. -/
theorem view_foldl (hstart : view start = initial)
    (hstep : ∀ es e, view (step (es.foldl step start) e) =
      Watch.step limit (view (es.foldl step start)) (classify es e)) (es : List ε) :
    view (es.foldl step start) = after limit (signals classify es) := by
  induction es using List.reverseRecOn with
  | nil => exact hstart
  | append_singleton es e ih =>
    rw [List.foldl_append, List.foldl_cons, List.foldl_nil, hstep, ih, signals, signals,
      signalsFrom_snoc, after_snoc, List.nil_append]

end

end Watch

end Alarms
