import Mathlib.Data.Rat.Floor
import Ngdcs.Lib.Doubles
import Ngdcs.Lib.FillLoop
import Ngdcs.Recorder.State

/-! `DisplayTab::updateStretch`: the look-up tables that take 14-bit pixels to what the display
shows. -/
namespace Display
open FillLoop Doubles

/-- `MAX_DN` -/
def maxDN : ℕ := (1 <<< 14) - 1

/-- The settings that the tables depend on, in the ranges of their controls. -/
structure StretchSettings where
  stretchMin : ℕ
  stretchMax : ℕ
  greenGain : ℚ
  blueGain : ℚ
  min_le : stretchMin ≤ maxDN
  max_le : stretchMax ≤ maxDN
  greenGain_range : 0 ≤ greenGain ∧ greenGain ≤ 10
  blueGain_range : 0 ≤ blueGain ∧ blueGain ≤ 10

namespace StretchSettings

/-- `SettingsBlock::currentGreenGain`: the gains are kept as doubles. -/
def currentGreenGain (c : StretchSettings) : ℚ := nearest c.greenGain

/-- `SettingsBlock::currentBlueGain` -/
def currentBlueGain (c : StretchSettings) : ℚ := nearest c.blueGain

end StretchSettings

/-- The look-up tables, of 65536 entries each. -/
structure StretchLUTs where
  stretchLUT : ℕ → UInt8
  stretchLUTGreen : ℕ → UInt8
  stretchLUTBlue : ℕ → UInt8

namespace StretchLUTs

/-- `memset` of the tables in the constructor. -/
def initial : StretchLUTs := ⟨fun _ => 255, fun _ => 255, fun _ => 255⟩

end StretchLUTs

/-- `256 * (i-min)/(max-min)` in an `int`, with 256 taken to 255. -/
def rampDN (min max i : ℕ) : UInt8 :=
  let dn := (Int.bmod (256 * ((i : ℤ) - min)) (2 ^ 32)).tdiv ((max : ℤ) - min)
  let dn := if dn = 256 then 255 else dn
  UInt8.ofInt dn

/-- `(int)(m_stretchLUT[i] * gain + 0.5)`, at most 255; the product and the sum are doubles. -/
def gainDN (gain : ℚ) (value : UInt8) : UInt8 :=
  let dn := Recorder.toInt (nearest (nearest (value.toNat * gain) + 1 / 2))
  let dn := if dn > 255 then 255 else dn
  UInt8.ofInt dn

/-- The loops over the grey table, with one index for all three. -/
def stretchLoops (min max : ℕ) (lut : ℕ → UInt8) : ℕ → UInt8 :=
  let (i, lut) := fill (maxDN + 1) (· < min) (fun _ => 0) 0 lut
  let (i, lut) :=
    if min ≠ max then fill (maxDN + 1) (· ≤ max) (rampDN min max) i lut else (i, lut)
  (fill (maxDN + 1) (fun _ => True) (fun _ => 255) i lut).2

/-- The loop over the green or the blue table. -/
def gainLoop (gain : ℚ) (lut table : ℕ → UInt8) : ℕ → UInt8 :=
  (fill (maxDN + 1) (fun _ => True) (fun i => gainDN gain (lut i)) 0 table).2

/-- `DisplayTab::updateStretch` -/
def updateStretch (c : StretchSettings) (t : StretchLUTs) : StretchLUTs :=
  let lut := stretchLoops c.stretchMin c.stretchMax t.stretchLUT
  let green := gainLoop c.currentGreenGain lut t.stretchLUTGreen
  let blue := gainLoop c.currentBlueGain lut t.stretchLUTBlue
  ⟨lut, green, blue⟩

/-- The grey value of a pixel. -/
def greyDN (min max i : ℕ) : UInt8 :=
  if i < min then 0 else if min < max ∧ i ≤ max then rampDN min max i else 255

theorem fill_all (value table : ℕ → UInt8) (i : ℕ) (hi : i ≤ maxDN + 1) :
    (fill (maxDN + 1) (fun _ => True) value i table) =
      (maxDN + 1, filled value i (maxDN + 1) table) := by
  rw [fill_eq (fun _ hk => iff_of_true trivial hk), min_self, max_eq_right hi]

/-- The three loops leave no entry up to `MAX_DN` out, and none of them touches what another
one filled. -/
theorem stretchLoops_eq {min max : ℕ} (hmin : min ≤ maxDN) (hmax : max ≤ maxDN)
    (lut : ℕ → UInt8) :
    stretchLoops min max lut = filled (greyDN min max) 0 (maxDN + 1) lut := by
  have hbelow := @fill_eq _ (maxDN + 1) (· < min) _ (fun _ => (0 : UInt8)) min
    (fun _ _ => Iff.rfl) 0 lut
  rw [min_eq_left (by omega), max_eq_right (Nat.zero_le _)] at hbelow
  unfold stretchLoops
  simp only [hbelow]
  split_ifs with hne
  · have hramp := @fill_eq _ (maxDN + 1) (· ≤ max) _ (rampDN min max) (max + 1)
      (fun _ _ => Nat.lt_succ_iff.symm) min (filled (fun _ => 0) 0 min lut)
    rw [min_eq_left (by omega)] at hramp
    rw [hramp, fill_all _ _ _ (by omega)]
    funext k
    simp only [filled, greyDN]
    split_ifs <;> first | rfl | omega
  · rw [fill_all _ _ _ (by omega)]
    funext k
    simp only [filled, greyDN]
    split_ifs <;> first | rfl | omega

theorem ofInt_toNat {dn : ℤ} (h0 : 0 ≤ dn) (h255 : dn ≤ 255) :
    ((UInt8.ofInt dn).toNat : ℤ) = dn := by
  rw [UInt8.ofInt, UInt8.toNat_ofNat_of_lt' (by unfold UInt8.size; omega)]
  omega

/-- A table that keeps the order of the pixels. -/
def Nondecreasing (table : ℕ → UInt8) : Prop := ∀ i j, i ≤ j → table i ≤ table j

section Values

variable {min max i : ℕ}

/-- The product stays in an `int`. -/
theorem ramp_bmod (hi : i ≤ maxDN) (hmin : min ≤ i) :
    Int.bmod (256 * ((i : ℤ) - min)) (2 ^ 32) = ((256 * (i - min) : ℕ) : ℤ) := by
  have hmax : maxDN = 16383 := rfl
  rw [Int.bmod_eq_of_le (by omega) (by omega)]
  push_cast [hmin]
  rfl

theorem rampDN_toNat (hmax : max ≤ maxDN) (hmin : min ≤ i) (hi : i ≤ max) :
    (rampDN min max i).toNat =
      if 256 * (i - min) / (max - min) = 256 then 255 else 256 * (i - min) / (max - min) := by
  have hle : 256 * (i - min) / (max - min) ≤ 256 :=
    Nat.div_le_of_le_mul (by rw [Nat.mul_comm]; exact Nat.mul_le_mul_right 256 (by omega))
  have hdiff : (max : ℤ) - min = ((max - min : ℕ) : ℤ) := by omega
  have hdn : (Int.bmod (256 * ((i : ℤ) - min)) (2 ^ 32)).tdiv ((max : ℤ) - min) =
      ((256 * (i - min) / (max - min) : ℕ) : ℤ) := by
    rw [ramp_bmod (hi.trans hmax) hmin, hdiff, Int.ofNat_tdiv]
  rw [← Int.natCast_inj, rampDN, hdn]
  generalize 256 * (i - min) / (max - min) = dn at hle ⊢
  show ((UInt8.ofInt (if (dn : ℤ) = 256 then 255 else dn)).toNat : ℤ) = _
  rw [ofInt_toNat (by split_ifs <;> omega) (by split_ifs <;> omega)]
  split_ifs <;> omega

theorem ramp_lt (hlt : i < max) : 256 * (i - min) / (max - min) < 256 := by
  rcases Nat.lt_or_ge min max with h | h
  · apply Nat.div_lt_of_lt_mul
    rw [Nat.mul_comm]
    exact Nat.mul_lt_mul_of_pos_right (by omega) (by decide)
  · rw [Nat.sub_eq_zero_of_le h, Nat.div_zero]
    decide

/-- The grey value of a pixel, as a number. -/
theorem greyDN_toNat (hmax : max ≤ maxDN) : (greyDN min max i).toNat =
    if i < min then 0 else if i < max then 256 * (i - min) / (max - min) else 255 := by
  unfold greyDN
  split_ifs with hbelow hramp htop
  · rfl
  · rw [rampDN_toNat hmax (by omega) hramp.2, if_neg (ramp_lt htop).ne]
  · have hi : i = max := by omega
    rw [rampDN_toNat hmax (by omega) hramp.2, hi, Nat.mul_div_cancel _ (by omega), if_pos rfl]
  · omega
  · rfl

theorem greyDN_mono (hmax : max ≤ maxDN) : Nondecreasing (greyDN min max) := by
  intro i j hij
  rw [UInt8.le_iff_toNat_le, greyDN_toNat hmax, greyDN_toNat hmax]
  have hdiv : 256 * (i - min) / (max - min) ≤ 256 * (j - min) / (max - min) :=
    Nat.div_le_div_right (Nat.mul_le_mul_left 256 (by omega))
  have hlt : i < max → 256 * (i - min) / (max - min) < 256 := ramp_lt
  generalize 256 * (i - min) / (max - min) = x at hdiv hlt ⊢
  generalize 256 * (j - min) / (max - min) = y at hdiv ⊢
  split_ifs <;> omega

end Values

theorem toInt_of_nonneg {q : ℚ} (h : 0 ≤ q) : Recorder.toInt q = ⌊q⌋ := by
  rw [Recorder.toInt, Int.tdiv_eq_ediv_of_nonneg (Rat.num_nonneg.mpr h), Rat.floor_def']

/-- A grey value times a gain and one half more, each step as a double. -/
def scaledDN (gain : ℚ) (value : UInt8) : ℚ := nearest (nearest (value.toNat * gain) + 1 / 2)

theorem scaledDN_nonneg {gain : ℚ} (h : 0 ≤ gain) (value : UInt8) : 0 ≤ scaledDN gain value := by
  apply nearest_nonneg
  have hproduct : 0 ≤ nearest (value.toNat * gain) := nearest_nonneg (by positivity)
  positivity

theorem scaledDN_mono {gain : ℚ} (h : 0 ≤ gain) {u v : UInt8} (huv : u ≤ v) :
    scaledDN gain u ≤ scaledDN gain v := by
  have hnat : (u.toNat : ℚ) ≤ v.toNat := by exact_mod_cast UInt8.le_iff_toNat_le.mp huv
  have hproduct : nearest (u.toNat * gain) ≤ nearest (v.toNat * gain) :=
    nearest_mono (by positivity) (by gcongr)
  have hnonneg : 0 ≤ nearest (u.toNat * gain) := nearest_nonneg (by positivity)
  exact nearest_mono (by positivity) (by gcongr)

/-- Three roundings of numbers below `2 ^ 12` do not add up to `2 ^ (-40)`. -/
theorem abs_scaledDN_sub_lt {gain : ℚ} (h : 0 ≤ gain ∧ gain ≤ 10) (value : UInt8) :
    |scaledDN (nearest gain) value - (value.toNat * gain + 1 / 2)| < 2 ^ (-40 : ℤ) := by
  obtain ⟨h0, h10⟩ := h
  have hvalue : (value.toNat : ℚ) ≤ 255 := by
    exact_mod_cast Nat.le_of_lt_succ value.toNat_lt
  have hvalue0 : (0 : ℚ) ≤ value.toNat := Nat.cast_nonneg _
  have hgain : |nearest gain - gain| ≤ 2 ^ (4 - 54 : ℤ) :=
    abs_nearest_sub_le h0 (h10.trans_lt (by norm_num)) (by norm_num)
  have hnear0 : 0 ≤ nearest gain := nearest_nonneg h0
  rw [abs_le] at hgain
  have hnear : nearest gain ≤ 11 := by
    have hsmall : (2 : ℚ) ^ (4 - 54 : ℤ) ≤ 1 := by norm_num
    linarith
  have hexact : |(value.toNat : ℚ) * nearest gain - value.toNat * gain| ≤
      255 * 2 ^ (4 - 54 : ℤ) := by
    rw [← mul_sub, abs_mul, abs_of_nonneg hvalue0]
    exact mul_le_mul hvalue (abs_le.mpr hgain) (abs_nonneg _) (by norm_num)
  have hproduct0 : 0 ≤ (value.toNat : ℚ) * nearest gain := mul_nonneg hvalue0 hnear0
  have hproduct : |nearest (value.toNat * nearest gain) - value.toNat * nearest gain| ≤
      2 ^ (12 - 54 : ℤ) := by
    apply abs_nearest_sub_le hproduct0 _ (by norm_num)
    calc (value.toNat : ℚ) * nearest gain ≤ 255 * 11 := by gcongr
      _ < 2 ^ (12 : ℤ) := by norm_num
  have hrounded0 : 0 ≤ nearest (value.toNat * nearest gain) := nearest_nonneg hproduct0
  have hsum : |scaledDN (nearest gain) value - (nearest (value.toNat * nearest gain) + 1 / 2)| ≤
      2 ^ (12 - 54 : ℤ) := by
    apply abs_nearest_sub_le (by positivity) _ (by norm_num)
    have hle : (value.toNat : ℚ) * nearest gain ≤ 255 * 11 := by gcongr
    have hupper := (abs_le.mp hproduct).2.trans (show (2 : ℚ) ^ (12 - 54 : ℤ) ≤ 1 by norm_num)
    calc nearest (value.toNat * nearest gain) + 1 / 2 ≤ 255 * 11 + 1 + 1 / 2 := by linarith
      _ < 2 ^ (12 : ℤ) := by norm_num
  rw [abs_le] at hexact hproduct hsum
  norm_num at hexact hproduct hsum ⊢
  rw [abs_lt]
  constructor <;> linarith

/-- The value times the gain, rounded half up in doubles and cut off at 255. -/
theorem gainDN_toNat {gain : ℚ} (h : 0 ≤ gain) (value : UInt8) :
    ((gainDN gain value).toNat : ℤ) = min 255 ⌊scaledDN gain value⌋ := by
  have hnonneg := scaledDN_nonneg h value
  have hfloor := Int.floor_nonneg.mpr hnonneg
  rw [gainDN, ← scaledDN, toInt_of_nonneg hnonneg]
  generalize ⌊scaledDN gain value⌋ = dn at hfloor ⊢
  rw [ofInt_toNat (by split_ifs <;> omega) (by split_ifs <;> omega)]
  split_ifs <;> omega

/-- Where the exact result is not next to an integer, it is what the entry shows. -/
theorem gainDN_toNat_exact {gain : ℚ} (h : 0 ≤ gain ∧ gain ≤ 10) (value : UInt8)
    (hfar : ∀ n : ℤ, 2 ^ (-40 : ℤ) ≤ |(value.toNat : ℚ) * gain + 1 / 2 - n|) :
    ((gainDN (nearest gain) value).toNat : ℤ) =
      min 255 ⌊(value.toNat : ℚ) * gain + 1 / 2⌋ := by
  have hclose := abs_scaledDN_sub_lt h value
  rw [gainDN_toNat (nearest_nonneg h.1)]
  generalize scaledDN (nearest gain) value = x at hclose
  generalize (value.toNat : ℚ) * gain + 1 / 2 = y at hclose hfar ⊢
  have hfloor : ⌊x⌋ = ⌊y⌋ := by
    have hlow := hfar ⌊y⌋
    have hhigh := hfar (⌊y⌋ + 1)
    have hle := Int.floor_le y
    have hlt := Int.lt_floor_add_one y
    rw [abs_of_nonneg (by linarith)] at hlow
    push_cast at hhigh
    rw [abs_of_neg (by linarith)] at hhigh
    rw [abs_lt] at hclose
    rw [Int.floor_eq_iff]
    constructor <;> linarith
  rw [hfloor]

theorem gainDN_mono {gain : ℚ} (h : 0 ≤ gain) {u v : UInt8} (huv : u ≤ v) :
    gainDN gain u ≤ gainDN gain v := by
  rw [UInt8.le_iff_toNat_le, ← Int.ofNat_le, gainDN_toNat h, gainDN_toNat h]
  exact min_le_min le_rfl (Int.floor_le_floor (scaledDN_mono h huv))

/-- The tables that a call makes of any tables, for settings `c`. -/
theorem updateStretch_eq (c : StretchSettings) (t : StretchLUTs) :
    updateStretch c t = ⟨filled (greyDN c.stretchMin c.stretchMax) 0 (maxDN + 1) t.stretchLUT,
      filled (fun i => gainDN c.currentGreenGain (greyDN c.stretchMin c.stretchMax i)) 0 (maxDN + 1)
        t.stretchLUTGreen,
      filled (fun i => gainDN c.currentBlueGain (greyDN c.stretchMin c.stretchMax i)) 0 (maxDN + 1)
        t.stretchLUTBlue⟩ := by
  have hgain (gain : ℚ) (table : ℕ → UInt8) : gainLoop gain
      (filled (greyDN c.stretchMin c.stretchMax) 0 (maxDN + 1) t.stretchLUT) table =
      filled (fun i => gainDN gain (greyDN c.stretchMin c.stretchMax i)) 0 (maxDN + 1) table := by
    rw [gainLoop, fill_all _ _ _ (Nat.zero_le _)]
    funext k
    simp only [filled]
    split_ifs <;> rfl
  rw [updateStretch, stretchLoops_eq c.min_le c.max_le]
  simp only [hgain]

/-- The entries above `MAX_DN` that no call assigns. -/
def Untouched (t : StretchLUTs) : Prop :=
  ∀ i, maxDN < i → t.stretchLUT i = 255 ∧ t.stretchLUTGreen i = 255 ∧ t.stretchLUTBlue i = 255

/-- The entries of a table are the grey ones times a gain, rounded half up: in doubles, and so
exactly unless the exact product is within `2 ^ (-40)` of a half-integer. -/
structure GainTable (gain : ℚ) (lut table : ℕ → UInt8) : Prop where
  doubles : ∀ i ≤ maxDN, ((table i).toNat : ℤ) = min 255 ⌊scaledDN (nearest gain) (lut i)⌋
  exactly : ∀ i ≤ maxDN,
    (∀ n : ℤ, 2 ^ (-40 : ℤ) ≤ |((lut i).toNat : ℚ) * gain + 1 / 2 - n|) →
      ((table i).toNat : ℤ) = min 255 ⌊((lut i).toNat : ℚ) * gain + 1 / 2⌋

/-- What the tables show for settings `c`. -/
structure Stretched (c : StretchSettings) (t : StretchLUTs) : Prop where
  below : ∀ i < c.stretchMin, t.stretchLUT i = 0
  atMin : c.stretchMin < c.stretchMax → t.stretchLUT c.stretchMin = 0
  ramp : c.stretchMin < c.stretchMax → ∀ i, c.stretchMin ≤ i → i < c.stretchMax →
    (t.stretchLUT i).toNat = 256 * (i - c.stretchMin) / (c.stretchMax - c.stretchMin)
  above : c.stretchMin < c.stretchMax → ∀ i, c.stretchMax ≤ i → t.stretchLUT i = 255
  flat : c.stretchMax ≤ c.stretchMin → ∀ i, c.stretchMin ≤ i → t.stretchLUT i = 255
  green : GainTable c.greenGain t.stretchLUT t.stretchLUTGreen
  blue : GainTable c.blueGain t.stretchLUT t.stretchLUTBlue
  nondecreasing : Nondecreasing t.stretchLUT ∧ Nondecreasing t.stretchLUTGreen ∧
    Nondecreasing t.stretchLUTBlue
  untouched : Untouched t

theorem untouched_initial : Untouched .initial := fun _ _ => ⟨rfl, rfl, rfl⟩

theorem updateStretch_untouched (c : StretchSettings) {t : StretchLUTs} (h : Untouched t) :
    Untouched (updateStretch c t) := by
  intro i hi
  rw [updateStretch_eq]
  simp only [filled]
  rw [if_neg (by omega), if_neg (by omega), if_neg (by omega)]
  exact h i hi

/-- A filled table, with 255 behind the entries that were filled. -/
theorem filled_eq {value table : ℕ → UInt8} (h : ∀ i, maxDN < i → table i = 255) :
    filled value 0 (maxDN + 1) table = fun i => if i ≤ maxDN then value i else 255 := by
  funext i
  simp only [filled, Nat.zero_le, true_and, Nat.lt_succ_iff]
  split_ifs with hi
  · rfl
  · exact h i (by omega)

theorem nondecreasing_cut {value : ℕ → UInt8} (h : Nondecreasing value) :
    Nondecreasing fun i => if i ≤ maxDN then value i else 255 := by
  intro i j hij
  have hle := h i j hij
  have hbyte := (value i).toNat_lt
  simp only [UInt8.le_iff_toNat_le] at hle ⊢
  split_ifs
  · exact hle
  · show (value i).toNat ≤ 255
    omega
  · omega
  · rfl

theorem gainTable_gainDN {gain : ℚ} (h : 0 ≤ gain ∧ gain ≤ 10) (value : ℕ → UInt8) :
    GainTable gain (fun i => if i ≤ maxDN then value i else 255)
      fun i => if i ≤ maxDN then gainDN (nearest gain) (value i) else 255 where
  doubles i hi := by
    simp only [if_pos hi]
    exact gainDN_toNat (nearest_nonneg h.1) (value i)
  exactly i hi hfar := by
    simp only [if_pos hi] at hfar ⊢
    exact gainDN_toNat_exact h (value i) hfar

theorem updateStretch_of_untouched (c : StretchSettings) {t : StretchLUTs} (h : Untouched t) :
    updateStretch c t = ⟨fun i => if i ≤ maxDN then greyDN c.stretchMin c.stretchMax i else 255,
      fun i => if i ≤ maxDN then gainDN c.currentGreenGain (greyDN c.stretchMin c.stretchMax i)
        else 255,
      fun i => if i ≤ maxDN then gainDN c.currentBlueGain (greyDN c.stretchMin c.stretchMax i)
        else 255⟩ := by
  rw [updateStretch_eq, filled_eq fun i hi => (h i hi).1, filled_eq fun i hi => (h i hi).2.1,
    filled_eq fun i hi => (h i hi).2.2]

/-- The grey table as a whole, as numbers. -/
theorem greyTable_toNat (c : StretchSettings) {t : StretchLUTs} (h : Untouched t) (i : ℕ) :
    ((updateStretch c t).stretchLUT i).toNat = if i < c.stretchMin then 0
      else if i < c.stretchMax then 256 * (i - c.stretchMin) / (c.stretchMax - c.stretchMin)
      else 255 := by
  have hmin := c.min_le
  have hmax := c.max_le
  rw [updateStretch_of_untouched c h]
  by_cases hi : i ≤ maxDN
  · simp only [if_pos hi]
    exact greyDN_toNat hmax
  · simp only [if_neg hi]
    rw [if_neg (by omega), if_neg (by omega)]
    rfl

theorem updateStretch_stretched (c : StretchSettings) {t : StretchLUTs} (h : Untouched t) :
    Stretched c (updateStretch c t) := by
  have hgrey := greyTable_toNat c h
  have huntouched := updateStretch_untouched c h
  have hmono := @greyDN_mono c.stretchMin _ c.max_le
  refine {
    below := fun i hi => ?below
    atMin := fun hlt => ?atMin
    ramp := fun hlt i hmin hi => ?ramp
    above := fun hlt i hi => ?above
    flat := fun hle i hi => ?flat
    green := ?green
    blue := ?blue
    nondecreasing := ?nondecreasing
    untouched := huntouched }
  case below => exact UInt8.toNat_inj.mp (by rw [hgrey, if_pos hi]; rfl)
  case atMin =>
    have hzero : 256 * (c.stretchMin - c.stretchMin) / (c.stretchMax - c.stretchMin) = 0 := by
      rw [Nat.sub_self, Nat.mul_zero, Nat.zero_div]
    exact UInt8.toNat_inj.mp (by rw [hgrey, if_neg (by omega), if_pos hlt, hzero]; rfl)
  case ramp => rw [hgrey, if_neg (by omega), if_pos hi]
  case above =>
    exact UInt8.toNat_inj.mp (by rw [hgrey, if_neg (by omega), if_neg (by omega)]; rfl)
  case flat =>
    exact UInt8.toNat_inj.mp (by rw [hgrey, if_neg (by omega), if_neg (by omega)]; rfl)
  all_goals rw [updateStretch_of_untouched c h]
  case green => exact gainTable_gainDN c.greenGain_range _
  case blue => exact gainTable_gainDN c.blueGain_range _
  case nondecreasing =>
    exact ⟨nondecreasing_cut hmono,
      nondecreasing_cut fun i j hij =>
        gainDN_mono (nearest_nonneg c.greenGain_range.1) (hmono i j hij),
      nondecreasing_cut fun i j hij =>
        gainDN_mono (nearest_nonneg c.blueGain_range.1) (hmono i j hij)⟩

/-- The tables after these calls, from the constructor on. -/
def stretches (calls : List StretchSettings) : StretchLUTs :=
  calls.foldl (fun t c => updateStretch c t) .initial

theorem untouched_stretches (calls : List StretchSettings) : Untouched (stretches calls) := by
  have hrun (t : StretchLUTs) (ht : Untouched t) :
      Untouched (calls.foldl (fun t c => updateStretch c t) t) := by
    induction calls generalizing t with
    | nil => exact ht
    | cons c calls ih => exact ih _ (updateStretch_untouched c ht)
  exact hrun .initial untouched_initial

theorem stretches_concat (calls : List StretchSettings) (c : StretchSettings) :
    stretches (calls ++ [c]) = updateStretch c (stretches calls) := by
  rw [stretches, List.foldl_append]
  rfl

/-- A gain of 0.7 for green and the double next to 0.3 for blue. -/
def decimalGains : StretchSettings where
  stretchMin := 0
  stretchMax := 256
  greenGain := 7 / 10
  blueGain := nearest (3 / 10)
  min_le := by decide
  max_le := by decide
  greenGain_range := by norm_num
  blueGain_range := by decide +kernel

/-- The grey value 45 times 0.7 comes out below a half in doubles, and 5 times the double below
0.3 as a half. -/
theorem gain_tables_not_exact :
    (stretches [decimalGains]).stretchLUT 45 = 45 ∧
      (stretches [decimalGains]).stretchLUTGreen 45 = 31 ∧
      min 255 ⌊(45 : ℚ) * decimalGains.greenGain + 1 / 2⌋ = 32 ∧
      (stretches [decimalGains]).stretchLUT 5 = 5 ∧
      (stretches [decimalGains]).stretchLUTBlue 5 = 2 ∧
      min 255 ⌊(5 : ℚ) * decimalGains.blueGain + 1 / 2⌋ = 1 := by
  have hone : stretches [decimalGains] = updateStretch decimalGains .initial := rfl
  rw [hone, updateStretch_of_untouched decimalGains untouched_initial]
  decide +kernel

/-- After every call of every sequence, the tables show its settings and nothing of the calls
before. -/
theorem stretches_stretched (calls : List StretchSettings) (c : StretchSettings) :
    Stretched c (stretches (calls ++ [c])) ∧ stretches (calls ++ [c]) = stretches [c] := by
  have hcalls := untouched_stretches calls
  rw [stretches_concat]
  constructor
  · exact updateStretch_stretched c hcalls
  · have hone : stretches [c] = updateStretch c .initial := rfl
    rw [hone, updateStretch_of_untouched c hcalls,
      updateStretch_of_untouched c untouched_initial]

end Display
