import Ngdcs.Lib.Stores
import Mathlib.Tactic.SplitIfs

/-! An array read as rows of equal length: writes inside of a row, and a strip of the rows that
scrolls down by one row for each line that is put on top. -/
namespace Raster
open Stores

variable {α : Type*}

/-- Element `c` of row `r`. -/
def cell (stride : ℕ) (a : List α) (r c : ℕ) : Option α := a[r * stride + c]?

theorem getElem?_overwrite_of_ge {a xs : List α} {i j : ℕ} (hi : i + xs.length ≤ a.length)
    (h : i + xs.length ≤ j) : (overwrite a i xs)[j]? = a[j]? := by
  have hlen : (a.take i ++ xs).length = i + xs.length := by
    rw [List.length_append, List.length_take]
    omega
  rw [overwrite, List.getElem?_append_right (by omega), hlen, List.getElem?_drop]
  congr 1
  omega

/-- A write that stays inside of a row. -/
theorem cell_overwrite {stride r c : ℕ} {a xs : List α} (hfit : c + xs.length ≤ stride)
    (hrow : (r + 1) * stride ≤ a.length) (r' : ℕ) {c' : ℕ} (hc' : c' < stride) :
    cell stride (overwrite a (r * stride + c) xs) r' c' =
      if r' = r ∧ c ≤ c' ∧ c' < c + xs.length then xs[c' - c]? else cell stride a r' c' := by
  have hnext : (r + 1) * stride = r * stride + stride := Nat.succ_mul r stride
  have hnext' : (r' + 1) * stride = r' * stride + stride := Nat.succ_mul r' stride
  unfold cell
  rcases Nat.lt_trichotomy r' r with hlt | rfl | hgt
  · have hle : (r' + 1) * stride ≤ r * stride := Nat.mul_le_mul_right stride hlt
    rw [if_neg (by omega), getElem?_overwrite_of_lt (by omega) (by omega)]
  · split_ifs with hin
    · have hat : r' * stride + c' = r' * stride + c + (c' - c) := by omega
      rw [hat, getElem?_overwrite_add (by omega) (by omega)]
    · rcases Nat.lt_or_ge c' c with hlt | hge
      · rw [getElem?_overwrite_of_lt (by omega) (by omega)]
      · rw [getElem?_overwrite_of_ge (by omega) (by omega)]
  · have hle : (r + 1) * stride ≤ r' * stride := Nat.mul_le_mul_right stride hgt
    rw [if_neg (by omega), getElem?_overwrite_of_ge (by omega) (by omega)]

/-- `memmove(a + dst, a + src, n)` -/
def memmove (a : List α) (dst src n : ℕ) : Option (List α) :=
  if src + n ≤ a.length ∧ dst + n ≤ a.length then some (overwrite a dst ((a.drop src).take n))
  else none

/-- Columns `offset` to `offset + width - 1` of rows of length `stride`. -/
structure Strip where
  offset : ℕ
  width : ℕ
  stride : ℕ

namespace Strip

variable (s : Strip)

/-- Moving rows `n - 1` to `0` of the strip down by one row, the last one first. -/
def shift : ℕ → List α → Option (List α)
  | 0, a => some a
  | n + 1, a => do
    let a ← memmove a (s.offset + (n + 1) * s.stride) (s.offset + n * s.stride) s.width
    shift n a

def Inside (c : ℕ) : Prop := s.offset ≤ c ∧ c < s.offset + s.width

instance (c : ℕ) : Decidable (s.Inside c) := inferInstanceAs (Decidable (_ ∧ _))

variable {s} {a : List α} {rows : ℕ}

/-- One row moved down. -/
theorem memmove_row {n : ℕ} (hfits : s.offset + s.width ≤ s.stride)
    (hlen : a.length = rows * s.stride) (hn : n + 1 < rows) :
    ∃ b, memmove a (s.offset + (n + 1) * s.stride) (s.offset + n * s.stride) s.width = some b ∧
      b.length = a.length ∧ ∀ r c, c < s.stride → cell s.stride b r c =
        if r = n + 1 ∧ s.Inside c then cell s.stride a n c else cell s.stride a r c := by
  have hle : (n + 1 + 1) * s.stride ≤ rows * s.stride := Nat.mul_le_mul_right _ hn
  have hnext : (n + 1 + 1) * s.stride = (n + 1) * s.stride + s.stride := Nat.succ_mul _ _
  have hnext' : (n + 1) * s.stride = n * s.stride + s.stride := Nat.succ_mul _ _
  have hwidth : ((a.drop (s.offset + n * s.stride)).take s.width).length = s.width := by
    rw [List.length_take, List.length_drop]
    omega
  refine ⟨_, if_pos ⟨by omega, by omega⟩, length_overwrite (by omega), ?_⟩
  intro r c hc
  rw [Nat.add_comm s.offset, cell_overwrite (by omega) (by omega) r hc, hwidth]
  change (if r = n + 1 ∧ s.Inside c then _ else _) = _
  by_cases hin : r = n + 1 ∧ s.Inside c
  · have hcolumn : s.offset ≤ c ∧ c < s.offset + s.width := hin.2
    rw [if_pos hin, if_pos hin, List.getElem?_take_of_lt (by omega), List.getElem?_drop, cell]
    congr 1
    omega
  · rw [if_neg hin, if_neg hin]

/-- Every row of the strip moved down. -/
theorem shift_rows {n : ℕ} (hfits : s.offset + s.width ≤ s.stride)
    (hlen : a.length = rows * s.stride) (hn : n < rows) :
    ∃ b, s.shift n a = some b ∧ b.length = a.length ∧ ∀ r c, c < s.stride →
      cell s.stride b r c =
        if (1 ≤ r ∧ r ≤ n) ∧ s.Inside c then cell s.stride a (r - 1) c
        else cell s.stride a r c := by
  induction n generalizing a with
  | zero =>
    refine ⟨a, rfl, rfl, fun r c _ => ?_⟩
    rw [if_neg (by omega)]
  | succ n ih =>
    obtain ⟨a₁, hmove, hlen₁, hcell₁⟩ := memmove_row hfits hlen hn
    obtain ⟨b, hshift, hlen₂, hcell₂⟩ := @ih a₁ (hlen₁.trans hlen) (by omega)
    refine ⟨b, ?_, hlen₂.trans hlen₁, fun r c hc => ?_⟩
    · rw [shift, hmove]
      exact hshift
    · rw [hcell₂ r c hc, hcell₁ r c hc, hcell₁ (r - 1) c hc]
      by_cases hin : s.Inside c
      · simp only [hin, and_true]
        rcases Nat.lt_trichotomy r (n + 1) with hlt | rfl | hgt
        · have hprev : ¬r - 1 = n + 1 := by omega
          have hthis : ¬r = n + 1 := by omega
          rw [if_neg hprev, if_neg hthis]
          exact if_congr (by omega) rfl rfl
        · have hrest : ¬(1 ≤ n + 1 ∧ n + 1 ≤ n) := by omega
          have hall : 1 ≤ n + 1 ∧ n + 1 ≤ n + 1 := by omega
          rw [if_neg hrest, if_pos rfl, if_pos hall]
          rfl
        · have hrest : ¬(1 ≤ r ∧ r ≤ n) := by omega
          have hall : ¬(1 ≤ r ∧ r ≤ n + 1) := by omega
          have hthis : ¬r = n + 1 := by omega
          rw [if_neg hrest, if_neg hthis, if_neg hall]
      · simp only [hin, and_false, if_false]

/-- Row `r` of the strip holds line number `r`. -/
def Shows (s : Strip) (rows : ℕ) (a : List α) (lines : List (List α)) : Prop :=
  ∀ r < rows, ∀ l, lines[r]? = some l →
    ∀ c < s.width, cell s.stride a r (s.offset + c) = l[c]?

theorem shows_nil : s.Shows rows a [] := fun _ _ _ hline => nomatch hline

/-- What is written outside of the strip does not show in it. -/
theorem Shows.congr {b : List α} {lines : List (List α)} (h : s.Shows rows a lines)
    (hcell : ∀ r c, s.Inside c → cell s.stride b r c = cell s.stride a r c) :
    s.Shows rows b lines := by
  intro r hr line hline c hc
  rw [hcell r (s.offset + c) ⟨Nat.le_add_right _ _, Nat.add_lt_add_left hc _⟩]
  exact h r hr line hline c hc

/-- A line put on top of the strip, with the rest of it moved down. -/
theorem Shows.push {top : List α} {lines : List (List α)} (h : s.Shows rows a lines)
    (hfits : s.offset + s.width ≤ s.stride) (hlen : a.length = rows * s.stride)
    (hrows : 0 < rows) (hline : top.length = s.width) :
    ∃ b, s.shift (rows - 1) a = some b ∧ b.length = a.length ∧
      s.Shows rows (overwrite b s.offset top) (top :: lines) ∧
      (overwrite b s.offset top).length = a.length ∧
      ∀ r c, c < s.stride → ¬s.Inside c →
        cell s.stride (overwrite b s.offset top) r c = cell s.stride a r c := by
  obtain ⟨b, hshift, hlen', hcell⟩ := @shift_rows _ s a rows (rows - 1) hfits hlen (by omega)
  have hrow : (0 + 1) * s.stride ≤ b.length := by
    rw [hlen', hlen]
    exact Nat.mul_le_mul_right _ (by omega)
  have htop (r : ℕ) {c : ℕ} (hc : c < s.stride) : cell s.stride (overwrite b s.offset top) r c =
      if r = 0 ∧ s.Inside c then top[c - s.offset]? else cell s.stride b r c := by
    have hover := @cell_overwrite _ s.stride 0 s.offset b top (by omega) hrow r c hc
    rwa [Nat.zero_mul, Nat.zero_add, hline] at hover
  refine ⟨b, hshift, hlen', ?_, ?_, ?_⟩
  · intro r hr l hl c hc
    have hin : s.Inside (s.offset + c) := ⟨Nat.le_add_right _ _, Nat.add_lt_add_left hc _⟩
    rw [htop r (by omega), hcell r _ (by omega)]
    cases r with
    | zero =>
      rw [if_pos ⟨rfl, hin⟩, Nat.add_sub_cancel_left, Option.some.inj hl]
    | succ r =>
      rw [if_neg (by omega), if_pos ⟨by omega, hin⟩]
      exact h r (by omega) l hl c hc
  · rw [length_overwrite (by omega), hlen']
  · intro r c hc hout
    rw [htop r hc, if_neg (fun hin => hout hin.2), hcell r c hc, if_neg (fun hin => hout hin.2)]

end Strip

end Raster
