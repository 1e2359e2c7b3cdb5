import Mathlib.Data.Int.Log
import Mathlib.Data.Rat.Floor
import Mathlib.Tactic.Linarith
import Mathlib.Tactic.Ring

/-! Rational numbers rounded to the nearest double: 53 binary digits, none of them below
`2 ^ (-1074)`, and ties to the even one. Numbers that are too large for a double are rounded as
if there were room for them. -/
namespace Doubles

/-- The nearest integer; in the middle between two of them, the even one. -/
def roundEven (x : ℚ) : ℤ :=
  if Int.fract x < 1 / 2 ∨ (Int.fract x = 1 / 2 ∧ ⌊x⌋ % 2 = 0) then ⌊x⌋ else ⌊x⌋ + 1

/-- The exponent of the last digit of a double near `x`. -/
def lastDigit (x : ℚ) : ℤ := max (Int.log 2 |x| - 52) (-1074)

/-- The nearest double. -/
def nearest (x : ℚ) : ℚ := roundEven (x / 2 ^ lastDigit x) * 2 ^ lastDigit x

variable {x y : ℚ}

theorem roundEven_intCast (n : ℤ) : roundEven n = n := by
  rw [roundEven, if_pos, Int.floor_intCast]
  left
  rw [Int.fract_intCast]
  norm_num

theorem floor_le_roundEven (x : ℚ) : ⌊x⌋ ≤ roundEven x := by
  unfold roundEven
  split_ifs
  · exact le_rfl
  · exact Int.le_add_one le_rfl

theorem roundEven_le_floor (x : ℚ) : roundEven x ≤ ⌊x⌋ + 1 := by
  unfold roundEven
  split_ifs
  · exact Int.le_add_one le_rfl
  · exact le_rfl

theorem roundEven_mono (h : x ≤ y) : roundEven x ≤ roundEven y := by
  rcases (Int.floor_le_floor h).lt_or_eq with hlt | heq
  · exact (roundEven_le_floor x).trans ((Int.add_one_le_iff.mpr hlt).trans (floor_le_roundEven y))
  · have hfract : Int.fract x ≤ Int.fract y := by
      rw [Int.fract, Int.fract, heq]
      exact sub_le_sub_right h _
    unfold roundEven
    rw [heq]
    split_ifs with hx hy hy
    · exact le_rfl
    · exact Int.le_add_one le_rfl
    · refine absurd ?_ hx
      rcases hy with hy | ⟨hy, heven⟩
      · exact Or.inl (hfract.trans_lt hy)
      · exact (hfract.trans_eq hy).lt_or_eq.imp_right fun hx => ⟨hx, heven⟩
    · exact le_rfl

theorem abs_roundEven_sub_le (x : ℚ) : |(roundEven x : ℚ) - x| ≤ 1 / 2 := by
  have hx := Int.floor_add_fract x
  have hlow := Int.fract_nonneg x
  have hhigh := Int.fract_lt_one x
  unfold roundEven
  rw [abs_le]
  split_ifs with h
  · have hle : Int.fract x ≤ 1 / 2 := by
      rcases h with h | ⟨h, -⟩
      · exact h.le
      · exact h.le
    constructor <;> linarith
  · have hge : 1 / 2 ≤ Int.fract x := le_of_not_gt fun hlt => h (Or.inl hlt)
    push_cast
    constructor <;> linarith

theorem two_zpow_pos (e : ℤ) : (0 : ℚ) < 2 ^ e := zpow_pos (by norm_num) e

theorem nearest_zero : nearest 0 = 0 := by
  have hround := roundEven_intCast 0
  rw [Int.cast_zero] at hround
  rw [nearest, zero_div, hround, Int.cast_zero, zero_mul]

theorem nearest_nonneg (h : 0 ≤ x) : 0 ≤ nearest x := by
  have hround : roundEven ((0 : ℤ) : ℚ) ≤ roundEven (x / 2 ^ lastDigit x) := by
    apply roundEven_mono
    rw [Int.cast_zero]
    exact div_nonneg h (two_zpow_pos _).le
  rw [roundEven_intCast] at hround
  exact mul_nonneg (by exact_mod_cast hround) (two_zpow_pos _).le

theorem lastDigit_of_pos (h : 0 < x) : lastDigit x = max (Int.log 2 x - 52) (-1074) := by
  rw [lastDigit, abs_of_pos h]

/-- A power of two as a whole number of last digits. -/
theorem two_zpow_eq {e d : ℤ} (h : d ≤ e) :
    (2 : ℚ) ^ e = ((2 ^ (e - d).toNat : ℤ) : ℚ) * 2 ^ d := by
  have he : e = ((e - d).toNat : ℤ) + d := by omega
  conv_lhs => rw [he, zpow_add₀ (by norm_num), zpow_natCast]
  push_cast
  rfl

/-- A power of two that is a double bounds what lies below it. -/
theorem nearest_le_pow {e : ℤ} (h : x ≤ 2 ^ e) (he : lastDigit x ≤ e) : nearest x ≤ 2 ^ e := by
  rw [two_zpow_eq he] at h ⊢
  unfold nearest
  have hround := roundEven_mono ((div_le_iff₀ (two_zpow_pos (lastDigit x))).mpr h)
  rw [roundEven_intCast] at hround
  exact mul_le_mul_of_nonneg_right (by exact_mod_cast hround) (two_zpow_pos _).le

/-- And what lies above it. -/
theorem pow_le_nearest {e : ℤ} (h : 2 ^ e ≤ x) (he : lastDigit x ≤ e) : 2 ^ e ≤ nearest x := by
  rw [two_zpow_eq he] at h ⊢
  unfold nearest
  have hround := roundEven_mono ((le_div_iff₀ (two_zpow_pos (lastDigit x))).mpr h)
  rw [roundEven_intCast] at hround
  exact mul_le_mul_of_nonneg_right (by exact_mod_cast hround) (two_zpow_pos _).le

/-- Rounding keeps the order. -/
theorem nearest_mono (hx : 0 ≤ x) (h : x ≤ y) : nearest x ≤ nearest y := by
  rcases hx.eq_or_lt with rfl | hpos
  · rw [nearest_zero]
    exact nearest_nonneg h
  have hypos : 0 < y := hpos.trans_le h
  have hlog : Int.log 2 x ≤ Int.log 2 y := Int.log_mono_right hpos h
  rcases eq_or_ne (lastDigit x) (lastDigit y) with heq | hne
  · unfold nearest
    rw [heq]
    have hround : roundEven (x / 2 ^ lastDigit y) ≤ roundEven (y / 2 ^ lastDigit y) :=
      roundEven_mono (div_le_div_of_nonneg_right h (two_zpow_pos _).le)
    exact mul_le_mul_of_nonneg_right (by exact_mod_cast hround) (two_zpow_pos _).le
  · -- a power of two lies between `x` and `y`
    rw [lastDigit_of_pos hpos, lastDigit_of_pos hypos] at hne
    have hlt : x < 2 ^ Int.log 2 y := by
      have hsucc : x < 2 ^ (Int.log 2 x + 1) := Int.lt_zpow_succ_log_self (b := 2) (by decide) x
      exact hsucc.trans_le (zpow_le_zpow_right₀ (by norm_num) (by omega))
    have hle : (2 : ℚ) ^ Int.log 2 y ≤ y := Int.zpow_log_le_self (b := 2) (by decide) hypos
    apply (nearest_le_pow hlt.le ?_).trans (pow_le_nearest hle ?_)
    · rw [lastDigit_of_pos hpos]
      omega
    · rw [lastDigit_of_pos hypos]
      omega

/-- How far a number below `2 ^ e` is from its double. -/
theorem abs_nearest_sub_le {e : ℤ} (hx : 0 ≤ x) (h : x < 2 ^ e) (he : -1021 ≤ e) :
    |nearest x - x| ≤ 2 ^ (e - 54) := by
  rcases hx.eq_or_lt with rfl | hpos
  · rw [nearest_zero, sub_zero, abs_zero]
    exact (two_zpow_pos _).le
  have hlast : lastDigit x ≤ e - 53 := by
    have hlog : Int.log 2 x < e := (Int.lt_zpow_iff_log_lt (b := 2) (by decide) hpos).mp h
    rw [lastDigit_of_pos hpos]
    omega
  have hdiff : nearest x - x =
      ((roundEven (x / 2 ^ lastDigit x) : ℚ) - x / 2 ^ lastDigit x) * 2 ^ lastDigit x := by
    rw [nearest, sub_mul, div_mul_cancel₀ _ (two_zpow_pos _).ne']
  calc |nearest x - x|
      = |(roundEven (x / 2 ^ lastDigit x) : ℚ) - x / 2 ^ lastDigit x| * 2 ^ lastDigit x := by
        rw [hdiff, abs_mul, abs_of_pos (two_zpow_pos _)]
    _ ≤ 1 / 2 * 2 ^ (e - 53) := by
        apply mul_le_mul (abs_roundEven_sub_le _) _ (two_zpow_pos _).le (by norm_num)
        exact zpow_le_zpow_right₀ (by norm_num) hlast
    _ = 2 ^ (e - 54) := by
        rw [show e - 53 = 1 + (e - 54) by omega, zpow_add₀ (by norm_num), zpow_one]
        ring

end Doubles
