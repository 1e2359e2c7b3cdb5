import Mathlib.Algebra.Order.Group.Int
import Mathlib.Tactic.Ring
import Mathlib.Tactic.Linarith

/-! Loops that count down to zero in steps: how often they turn, and the rule for their
invariants. A turn may fail. -/
namespace CountDown

variable {σ : Type*}

/-- `for (;i > 0;i -= incr) body` -/
def countDown (incr : ℕ) (h : 0 < incr) (body : σ → Option σ) (i : ℤ) (s : σ) : Option σ :=
  if 0 < i then (body s).bind fun s => countDown incr h body (i - incr) s else some s
termination_by i.toNat

/-- How often such a loop turns: once for every multiple of `incr` below `i`. -/
def turns (i incr : ℕ) : ℕ := (i + incr - 1) / incr

theorem lt_turns_iff {i incr n : ℕ} (h : 0 < incr) : n < turns i incr ↔ n * incr < i := by
  rw [turns, Nat.lt_iff_add_one_le, Nat.le_div_iff_mul_le h, Nat.add_mul]
  omega

theorem turns_mul {n incr : ℕ} (h : 0 < incr) : turns (n * incr) incr = n := by
  apply Nat.le_antisymm
  · by_contra hlt
    have hmul := (lt_turns_iff h).mp (not_le.mp hlt)
    omega
  · by_contra hlt
    have hmul := (lt_turns_iff (i := n * incr) h).mpr
      (Nat.mul_lt_mul_of_pos_right (not_le.mp hlt) h)
    omega

/-- What holds at the start and is carried through every turn holds at the end, and no turn
fails. -/
theorem countDown_spec {I : ℕ → σ → Prop} {body : σ → Option σ} {i incr : ℕ} (h : 0 < incr)
    (hbody : ∀ n < turns i incr, ∀ s, I n s → ∃ s', body s = some s' ∧ I (n + 1) s') {s : σ}
    (hs : I 0 s) :
    ∃ s', countDown incr h body i s = some s' ∧ I (turns i incr) s' := by
  have hloop (k n : ℕ) (s : σ) (hk : n + k = turns i incr) (hs : I n s) :
      ∃ s', countDown incr h body ((i : ℤ) - (n * incr : ℕ)) s = some s' ∧
        I (turns i incr) s' := by
    induction k generalizing n s with
    | zero =>
      have hend : ¬n < turns i incr := by omega
      rw [lt_turns_iff h] at hend
      rw [Nat.add_zero] at hk
      exact ⟨s, by rw [countDown, if_neg (by omega)], hk ▸ hs⟩
    | succ k ih =>
      have hlt : n < turns i incr := by omega
      have hmul := (lt_turns_iff h).mp hlt
      obtain ⟨s₁, hs₁, h₁⟩ := hbody n hlt s hs
      obtain ⟨s₂, hs₂, h₂⟩ := ih (n + 1) s₁ (by omega) h₁
      have hnext : (i : ℤ) - (n * incr : ℕ) - incr = i - ((n + 1) * incr : ℕ) := by
        push_cast
        ring
      exact ⟨s₂, by rw [countDown, if_pos (by omega), hs₁, Option.bind_some, hnext, hs₂], h₂⟩
  have hzero := hloop (turns i incr) 0 s (Nat.zero_add _) hs
  rwa [Nat.zero_mul, Nat.cast_zero, sub_zero] at hzero

end CountDown
