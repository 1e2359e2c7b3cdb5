import Mathlib.Logic.Function.Basic
import Mathlib.Tactic.SplitIfs
import Mathlib.Order.MinMax

/-! Loops that fill a table entry by entry. Several of them may go on with one index, so the
index at the end is part of what a loop returns. -/
namespace FillLoop

variable {β : Type*} (limit : ℕ) (p : ℕ → Prop) [DecidablePred p] (value : ℕ → β)

/-- `for (;p(i) && i < limit;i++) table[i] = value(i);` -/
def fill (i : ℕ) (table : ℕ → β) : ℕ × (ℕ → β) :=
  if p i ∧ i < limit then fill (i + 1) (Function.update table i (value i)) else (i, table)
termination_by limit - i

/-- The table with the entries from `i` up to `stop` filled. -/
def filled (i stop : ℕ) (table : ℕ → β) (k : ℕ) : β :=
  if i ≤ k ∧ k < stop then value k else table k

variable {limit p value}

theorem filled_update (i stop : ℕ) (h : i < stop) (table : ℕ → β) :
    filled value (i + 1) stop (Function.update table i (value i)) = filled value i stop table := by
  funext k
  unfold filled
  by_cases hk : k = i
  · subst hk
    rw [if_neg (by omega), if_pos ⟨le_rfl, h⟩, Function.update_self]
  · rw [Function.update_of_ne hk]
    congr 1
    simp only [eq_iff_iff]
    omega

/-- Where the condition is a bound, the loop fills the entries up to the bound and stops there,
or at the limit. -/
theorem fill_eq {stop : ℕ} (hp : ∀ k < limit, p k ↔ k < stop) (i : ℕ) (table : ℕ → β) :
    fill limit p value i table =
      (max i (min stop limit), filled value i (min stop limit) table) := by
  induction i, table using fill.induct limit p value with
  | case1 i table h ih =>
    have hlt : i < min stop limit := lt_min ((hp i h.2).mp h.1) h.2
    rw [fill, if_pos h, ih, filled_update i _ hlt, max_eq_right hlt, max_eq_right hlt.le]
  | case2 i table h =>
    have hge : min stop limit ≤ i := by
      by_contra hlt
      obtain ⟨hstop, hlimit⟩ := lt_min_iff.mp (not_le.mp hlt)
      exact h ⟨(hp i hlimit).mpr hstop, hlimit⟩
    rw [fill, if_neg h, max_eq_left hge]
    refine congrArg (Prod.mk i) ?_
    funext k
    rw [filled, if_neg (by omega)]

end FillLoop
