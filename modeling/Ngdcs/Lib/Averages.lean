import Mathlib.Algebra.Order.Floor.Semiring
import Mathlib.Data.Nat.Cast.Order.Field
import Mathlib.Algebra.Order.Ring.Rat
import Mathlib.Data.Rat.Floor
import Mathlib.Tactic.Linarith
import Mathlib.Tactic.Positivity
import Mathlib.Tactic.FieldSimp

/-! Averages of natural numbers that are rounded down, and what becomes of them when the sum is
divided by a number somewhat below the count. -/
namespace Averages

section Sums

variable {xs : List ℕ} {B : ℕ}

theorem sum_le (h : ∀ x ∈ xs, x ≤ B) : xs.sum ≤ xs.length * B := by
  simpa using List.sum_le_card_nsmul xs B h

theorem le_sum (h : ∀ x ∈ xs, B ≤ x) : xs.length * B ≤ xs.sum := by
  simpa using List.card_nsmul_le_sum xs B h

/-- Some value is not above the average. -/
theorem exists_le_average (hxs : xs ≠ []) : ∃ x ∈ xs, x ≤ xs.sum / xs.length := by
  by_contra hnone
  have hlarge : ∀ x ∈ xs, xs.sum / xs.length + 1 ≤ x := fun x hx =>
    Nat.lt_of_not_le fun hle => hnone ⟨x, hx, hle⟩
  have hlength : 0 < xs.length := List.length_pos_of_ne_nil hxs
  have hsum := le_sum hlarge
  have hlt := Nat.lt_mul_div_succ xs.sum hlength
  omega

/-- Some value is not below it. -/
theorem exists_average_le (hxs : xs ≠ []) : ∃ x ∈ xs, xs.sum / xs.length ≤ x := by
  by_contra hnone
  have hsmall : ∀ x ∈ xs, x + 1 ≤ xs.sum / xs.length := fun x hx =>
    Nat.lt_of_not_le fun hle => hnone ⟨x, hx, hle⟩
  obtain ⟨y, hy⟩ := List.exists_mem_of_ne_nil xs hxs
  have hpos : 1 ≤ xs.sum / xs.length := (Nat.le_add_left 1 y).trans (hsmall y hy)
  have hlength : 0 < xs.length := List.length_pos_of_ne_nil hxs
  have hsum := sum_le fun x hx => Nat.le_sub_one_of_lt (hsmall x hx)
  have hdiv := Nat.mul_div_le xs.sum xs.length
  have hless : xs.length * (xs.sum / xs.length - 1) < xs.length * (xs.sum / xs.length) :=
    Nat.mul_lt_mul_of_pos_left (by omega) hlength
  omega

theorem average_le (h : ∀ x ∈ xs, x ≤ B) : xs.sum / xs.length ≤ B := by
  rcases xs with _ | ⟨x, xs⟩
  · simp
  · exact Nat.div_le_of_le_mul (sum_le h)

end Sums

section Quotients

variable {S n : ℕ} {q : ℚ}

/-- The average of `n` values with sum `S` is small enough for a divisor `q` below `n`. -/
def Dim (q : ℚ) (S n : ℕ) : Prop := ((S / n : ℕ) + 1 : ℚ) * (n - q) < n - (S % n : ℕ)

instance (q : ℚ) (S n : ℕ) : Decidable (Dim q S n) := inferInstanceAs (Decidable (_ < _))

theorem dim_iff : Dim q S n ↔ (S : ℚ) < ((S / n : ℕ) + 1) * q := by
  have hsplit : (n : ℚ) * (S / n : ℕ) + (S % n : ℕ) = S := mod_cast Nat.div_add_mod S n
  have hprod : ((S / n : ℕ) + 1 : ℚ) * (n - q) =
      n * (S / n : ℕ) + n - ((S / n : ℕ) + 1) * q := by ring
  rw [Dim, hprod]
  constructor <;> intro h <;> linarith

/-- Dividing by less gives at least as much. -/
theorem div_le_floor (hq : 0 < q) (hqn : q ≤ n) : S / n ≤ ⌊(S : ℚ) / q⌋₊ := by
  have hn : (0 : ℚ) < n := hq.trans_le hqn
  apply Nat.le_floor
  calc ((S / n : ℕ) : ℚ) ≤ (S : ℚ) / n := Nat.cast_div_le
    _ ≤ (S : ℚ) / q := by gcongr

/-- It gives the average exactly if the average is small enough. -/
theorem floor_eq_iff (hq : 0 < q) (hqn : q ≤ n) : ⌊(S : ℚ) / q⌋₊ = S / n ↔ Dim q S n := by
  rw [dim_iff]
  constructor
  · intro h
    have hlt := Nat.lt_floor_add_one ((S : ℚ) / q)
    rw [h, div_lt_iff₀ hq] at hlt
    exact hlt
  · intro h
    apply Nat.le_antisymm _ (div_le_floor hq hqn)
    apply Nat.lt_succ_iff.mp
    rw [Nat.floor_lt (by positivity), div_lt_iff₀ hq]
    push_cast
    exact h

/-- With a divisor of at least half the count, the quotient stays below twice the bound. -/
theorem floor_lt (hq : 0 < q) (hqn : q ≤ n) (hn : (n : ℚ) ≤ 2 * q) {B : ℕ} (hS : S ≤ n * B) :
    ⌊(S : ℚ) / q⌋₊ < S / n + B + 1 := by
  have hpos : (0 : ℚ) < n := hq.trans_le hqn
  have hdouble : (S : ℚ) / q ≤ 2 * (S / n) := by
    rw [div_le_iff₀ hq]
    calc (S : ℚ) = S / n * n := by field_simp
      _ ≤ S / n * (2 * q) := by gcongr
      _ = 2 * (S / n) * q := by ring
  have hbound : (S : ℚ) / n ≤ B := by
    rw [div_le_iff₀ hpos, mul_comm]
    exact_mod_cast hS
  have haverage : (S : ℚ) / n < (S / n : ℕ) + 1 := by
    rw [div_lt_iff₀ hpos, mul_comm]
    exact_mod_cast Nat.lt_mul_div_succ S (by exact_mod_cast hpos)
  rw [Nat.floor_lt (by positivity)]
  push_cast
  linarith

end Quotients

end Averages
