import Mathlib.Data.Nat.ModEq
import Mathlib.Logic.Function.Basic
import Mathlib.Tactic.Ring

/-! Circular storage addressed by unbounded sequence numbers. A ring of `n` slots holds
item number `i` in slot `i % n`; an item whose slots are divided into `k` positions holds
element number `j` at position `j % k` of item `j / k`. -/
namespace Ring

/-- Advance a slot index by one, starting over after the last slot. -/
def bump (n i : ℕ) : ℕ := if i + 1 = n then 0 else i + 1

theorem bump_mod {n : ℕ} (hn : 0 < n) (i : ℕ) : bump n (i % n) = (i + 1) % n := by
  have hlt := Nat.mod_lt i hn
  have hsum : (i % n + 1) % n = (i + 1) % n := Nat.mod_add_mod i n 1
  unfold bump
  split
  next h => rw [← hsum, h, Nat.mod_self]
  next h =>
    have hnext : i % n + 1 < n := by omega
    rw [← hsum, Nat.mod_eq_of_lt hnext]

/-- Sequence numbers less than one revolution apart never share a slot. -/
theorem mod_ne_of_lt {n i j : ℕ} (hij : i < j) (hj : j < i + n) : i % n ≠ j % n := by
  intro h
  obtain ⟨c, hc⟩ := (Nat.modEq_iff_dvd' hij.le).mp h
  rcases c with _ | c
  · omega
  · have : n ≤ n * (c + 1) := Nat.le_mul_of_pos_right n (by omega)
    omega

/-- One revolution later the same slot comes up again. -/
theorem mod_eq_of_revolution {n i j : ℕ} (h : j = i + n) : j % n = i % n := by
  simp [h]

/-- Slots divided into positions: the cell of element number `i`. -/
def cell (n k i : ℕ) : ℕ × ℕ := ((i / k) % n, i % k)

theorem div_mul_add {k r : ℕ} (q : ℕ) (hr : r < k) : (q * k + r) / k = q := by
  rw [Nat.add_comm, Nat.add_mul_div_right _ _ (by omega), Nat.div_eq_of_lt hr, Nat.zero_add]

theorem mul_add_mod {k r : ℕ} (q : ℕ) (hr : r < k) : (q * k + r) % k = r := by
  rw [Nat.add_comm, Nat.add_mul_mod_self_right, Nat.mod_eq_of_lt hr]

theorem cell_mul_add {n k r : ℕ} (q : ℕ) (hr : r < k) : cell n k (q * k + r) = (q % n, r) := by
  rw [cell, div_mul_add q hr, mul_add_mod q hr]

/-- Elements of items less than one revolution apart never share a cell. -/
theorem cell_ne {n k i j : ℕ} (hij : i < j) (hj : j / k < i / k + n) :
    cell n k i ≠ cell n k j := by
  intro h
  obtain ⟨hslot, hpos⟩ := Prod.mk.inj h
  rcases (Nat.div_le_div_right hij.le : i / k ≤ j / k).eq_or_lt with he | hlt
  · have hi := Nat.div_add_mod i k
    have hj' := Nat.div_add_mod j k
    rw [he, hpos] at hi
    omega
  · exact mod_ne_of_lt hlt hj hslot

variable {α : Type*}

/-- Store `x` at one position of one slot. -/
def write (mem : ℕ → ℕ → α) (slot pos : ℕ) (x : α) : ℕ → ℕ → α :=
  Function.update mem slot (Function.update (mem slot) pos x)

@[simp] theorem write_same (mem : ℕ → ℕ → α) (slot pos : ℕ) (x : α) :
    write mem slot pos x slot pos = x := by simp [write]

theorem write_of_ne (mem : ℕ → ℕ → α) {slot pos i j : ℕ} (x : α) (h : (i, j) ≠ (slot, pos)) :
    write mem slot pos x i j = mem i j := by
  by_cases hi : i = slot
  · subst hi
    have hj : j ≠ pos := fun he => h (by rw [he])
    simp [write, hj]
  · simp [write, hi]

theorem map_mod_range_succ (n m : ℕ) :
    (List.range (m + 1)).map (· % n) = (List.range m).map (· % n) ++ [m % n] := by
  rw [List.range_succ, List.map_append, List.map_singleton]

end Ring
