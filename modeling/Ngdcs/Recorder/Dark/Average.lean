import Ngdcs.Lib.Averages
import Ngdcs.Recorder.Dark.Accumulation

/-! What the automatic dark frame is the average of. The number of frames added is the first
whole number that is not below the frame rate times `DARK_ACCUM_TIME_SECS`, but the sum is
divided by that product itself. -/
namespace Recorder
open Runs Averages

variable {cfg : Settings} {rate : ℚ} {i : ℕ}

/-! ### The frame rates of the frame buffer -/

/-- `AlphaDataFrameBuffer::multipliers` -/
def multipliers : List ℚ := [1 / 5, 1 / 4, 1 / 3, 2 / 5, 1 / 2, 2 / 3, 1]

/-- `SettingsBlock::frameHeightsLines` and `SettingsBlock::frameWidthsSamples` -/
def frameHeightsLines : List ℕ := [285, 481, 1024]
def frameWidthsSamples : List ℕ := [640, 1024]

/-- `m_availableFrameRatesInHz[i]`, as the constructor of the frame buffer sets it. -/
def availableFrameRateInHz (fh fw i : ℕ) : ℚ :=
  if fh ≠ 1024 then 34000000 / (((fw + 64) * (fh + 4) : ℕ) : ℚ) * multipliers.getD i 0
  else 25000000 / (((fw + 64) * (fh + 4) : ℕ) : ℚ) * multipliers.getD i 0

/-- A frame rate that the frame buffer has for the frame size in use. -/
def IsFrameRate (cfg : Settings) (rate : ℚ) : Prop :=
  cfg.frameHeightLines ∈ frameHeightsLines ∧ cfg.frameWidthSamples ∈ frameWidthsSamples ∧
    ∃ i < numFrameRates, rate = availableFrameRateInHz cfg.frameHeightLines cfg.frameWidthSamples i

/-- Four to 117 frames make a dark frame. -/
theorem IsFrameRate.bounds (h : IsFrameRate cfg rate) :
    3 ≤ rate * DarkFrame.accumTimeSecs ∧ rate * DarkFrame.accumTimeSecs ≤ 117 := by
  have hall : ∀ fh ∈ frameHeightsLines, ∀ fw ∈ frameWidthsSamples, ∀ i < numFrameRates,
      3 ≤ availableFrameRateInHz fh fw i * DarkFrame.accumTimeSecs ∧
        availableFrameRateInHz fh fw i * DarkFrame.accumTimeSecs ≤ 117 := by
    decide +kernel
  obtain ⟨hfh, hfw, i, hi, rfl⟩ := h
  exact hall _ hfh _ hfw i hi

/-! ### Accumulation -/

/-- The dark frame, and the frames that have been added to it since it was restarted. -/
structure Averaging where
  dark : DarkFrame
  frames : List (ℕ → UInt16)

/-- What happens to the dark frame. -/
inductive DarkEvent where
  | imageFrame (image : ℕ → UInt16)
  | restart

namespace Averaging

def step (cfg : Settings) (rate : ℚ) (a : Averaging) : DarkEvent → Option Averaging
  | .imageFrame image => some
    { dark := a.dark.update cfg rate image
      frames := if a.dark.Adds rate then a.frames ++ [image] else a.frames }
  | .restart => some { dark := a.dark.restart rate, frames := [] }

/-- Nothing is armed. -/
def initial (d : DarkFrame) : Averaging := ⟨{ d with framesUntilDark := -1 }, []⟩

/-- The values of a pixel in the frames that have been added. -/
def values (a : Averaging) (i : ℕ) : List ℕ := a.frames.map fun image => (image i).toNat

/-- The event completes the dark frame. -/
def Completes (rate : ℚ) (a : Averaging) : DarkEvent → Prop
  | .imageFrame _ => a.dark.Completes rate
  | .restart => False

instance (rate : ℚ) (a : Averaging) : (e : DarkEvent) → Decidable (Completes rate a e)
  | .imageFrame _ => inferInstanceAs (Decidable (a.dark.Completes rate))
  | .restart => inferInstanceAs (Decidable False)

/-- The accumulator of a pixel does not overflow, and on completion the dark frame has the
average of its values there, rounded down. -/
structure Averaged (rate : ℚ) (i : ℕ) (a : Averaging) (e : DarkEvent) (b : Averaging) :
    Prop where
  noOverflow : (b.values i).sum < 2 ^ 32
  average : Completes rate a e → b.dark.darkFrame i = (a.values i).sum / a.frames.length
  between : Completes rate a e →
    (∃ x ∈ a.values i, x ≤ b.dark.darkFrame i) ∧ ∃ x ∈ a.values i, b.dark.darkFrame i ≤ x
  fits : Completes rate a e → b.dark.darkFrame i < 2 ^ 16

/-- On completion, the average of a pixel is small enough for the divisor. -/
def DimEnough (rate : ℚ) (i : ℕ) (a : Averaging) (e : DarkEvent) : Prop :=
  Completes rate a e →
    Dim (rate * DarkFrame.accumTimeSecs) (a.values i).sum a.frames.length

/-- The accumulators hold the sums of the frames, which are no more than are needed. -/
structure Accumulating (cfg : Settings) (rate : ℚ) (a : Averaging) : Prop where
  armed : 0 ≤ a.dark.framesUntilDark →
    a.dark.darkFramesAccumulated = a.frames.length ∧
      ∀ i, DarkFrame.inImage cfg i = true → a.dark.darkFrameAccumulation i = (a.values i).sum
  needed : (a.frames.length : ℚ) < rate * DarkFrame.accumTimeSecs + 1

variable {a b : Averaging} {e : DarkEvent}

theorem values_le (a : Averaging) (i : ℕ) : ∀ x ∈ a.values i, x ≤ 65535 := by
  intro x hx
  obtain ⟨image, -, rfl⟩ := List.mem_map.mp hx
  exact Nat.le_of_lt_succ (image i).toNat_lt

theorem length_values (a : Averaging) (i : ℕ) : (a.values i).length = a.frames.length :=
  List.length_map _

/-- So many frames do not overflow an accumulator. -/
theorem Accumulating.noOverflow (h : Accumulating cfg rate a) (hrate : IsFrameRate cfg rate)
    (i : ℕ) : (a.values i).sum < 2 ^ 32 := by
  have hcount : a.frames.length < 118 := by
    have hneeded : (a.frames.length : ℚ) < 118 := by linarith [h.needed, hrate.bounds.2]
    exact_mod_cast hneeded
  have hsum := sum_le (a.values_le i)
  rw [length_values] at hsum
  omega

/-- With nothing armed only the number of frames matters. -/
theorem accumulating_of_unarmed (hunarmed : a.dark.framesUntilDark = -1)
    (hneeded : (a.frames.length : ℚ) < rate * DarkFrame.accumTimeSecs + 1) :
    Accumulating cfg rate a where
  armed h := by
    rw [hunarmed] at h
    exact absurd h (by decide)
  needed := hneeded

theorem no_frames_needed (hrate : IsFrameRate cfg rate) :
    (([] : List (ℕ → UInt16)).length : ℚ) < rate * DarkFrame.accumTimeSecs + 1 := by
  have hpos := hrate.bounds.1
  rw [List.length_nil, Nat.cast_zero]
  linarith

theorem accumulating_initial (hrate : IsFrameRate cfg rate) (d : DarkFrame) :
    Accumulating cfg rate (initial d) :=
  accumulating_of_unarmed rfl (no_frames_needed hrate)

theorem accumulating_frame (hrate : IsFrameRate cfg rate) (h : Accumulating cfg rate a)
    (image : ℕ → UInt16) : Accumulating cfg rate
      { dark := a.dark.update cfg rate image
        frames := if a.dark.Adds rate then a.frames ++ [image] else a.frames } := by
  by_cases hdue : a.dark.Due
  · have harmed : 0 ≤ a.dark.framesUntilDark := by
      unfold DarkFrame.Due at hdue
      omega
    obtain ⟨hcount, hsums⟩ := h.armed harmed
    by_cases hshort : a.dark.Short rate
    · have hneeded : ((a.frames ++ [image]).length : ℚ) < rate * DarkFrame.accumTimeSecs + 1 := by
        have hless : (a.frames.length : ℚ) < rate * DarkFrame.accumTimeSecs := hcount ▸ hshort
        rw [List.length_append, List.length_singleton]
        push_cast
        linarith
      have hsum (i : ℕ) : (values ⟨a.dark, a.frames ++ [image]⟩ i).sum =
          (a.values i).sum + (image i).toNat := by
        simp [values]
      rw [if_pos ⟨hdue, hshort⟩, DarkFrame.update_of_adds ⟨hdue, hshort⟩]
      refine ⟨fun _ => ⟨?_, fun i hi => ?_⟩, hneeded⟩
      · rw [List.length_append, List.length_singleton, hcount]
      · have hnext : Accumulating cfg rate ⟨{ a.dark with framesUntilDark := -1 },
            a.frames ++ [image]⟩ := accumulating_of_unarmed rfl hneeded
        have hfits := hnext.noOverflow hrate i
        change (if DarkFrame.inImage cfg i then _ else _) = _
        rw [if_pos hi, hsums i hi]
        exact (Nat.mod_eq_of_lt (hsum i ▸ hfits)).trans (hsum i).symm
    · have hnot : ¬a.dark.Adds rate := fun hadds => hshort hadds.2
      rw [if_neg hnot, DarkFrame.update_of_completes ⟨hdue, hshort⟩]
      exact accumulating_of_unarmed rfl h.needed
  · have hnot : ¬a.dark.Adds rate := fun hadds => hdue hadds.1
    rw [if_neg hnot, DarkFrame.update_of_not_due hdue, DarkFrame.counted]
    split_ifs with hpos
    · exact ⟨fun _ => h.armed hpos.le, h.needed⟩
    · exact h

/-- The invariant holds in every run. -/
theorem accumulating_step (hrate : IsFrameRate cfg rate) (h : Accumulating cfg rate a)
    (hstep : step cfg rate a e = some b) : Accumulating cfg rate b := by
  cases e with
  | imageFrame image =>
    obtain rfl := Option.some.inj hstep
    exact accumulating_frame hrate h image
  | restart =>
    obtain rfl := Option.some.inj hstep
    exact ⟨fun _ => ⟨rfl, fun _ _ => rfl⟩, no_frames_needed hrate⟩

/-- While the frame rate stays, this is what the recorder does to its dark frame. -/
theorem recorder_step {x y : DisplayTab} {e : RecorderEvent} (h : Recorder.step cfg x e = some y)
    (hx : x.frameRateHz cfg = rate) (hy : y.frameRateHz cfg = rate) (ha : a.dark = x.dark) :
    ∃ events b, run (step cfg rate) a events = some b ∧ b.dark = y.dark := by
  have hbehind : ∃ events b, run (step cfg rate) a events = some b ∧
      b.dark = darkBehind cfg x e := by
    cases e with
    | imageFrame image w =>
      refine ⟨[.imageFrame image], _, rfl, ?_⟩
      rw [darkBehind, hx, ha]
    | _ => exact ⟨[], a, rfl, ha⟩
  obtain ⟨events, b, hrun, hdark⟩ := hbehind
  rcases (step_darkKept h).1 with hkept | ⟨hrestarted, -⟩
  · exact ⟨events, b, hrun, hdark.trans hkept.symm⟩
  · refine ⟨events ++ [.restart], ⟨b.dark.restart rate, []⟩,
      run_append_eq_some.mpr ⟨b, hrun, rfl⟩, ?_⟩
    rw [hrestarted, ← hdark, hy]

/-! ### Completion -/

theorem toInt_toNat {x : ℚ} (h : 0 ≤ x) : (toInt x).toNat = ⌊x⌋₊ := by
  rw [toInt, Int.tdiv_eq_ediv_of_nonneg (Rat.num_nonneg.mpr h), ← Rat.floor_def',
    Int.floor_toNat]

/-- What the division puts into 16 bits is the average exactly if that is small enough. -/
theorem quotient_eq_iff {q : ℚ} {S n : ℕ} (hq : 1 ≤ q) (hqn : q ≤ n) (hn : (n : ℚ) < q + 1)
    (hS : S ≤ n * 65535) : (toInt ((S : ℚ) / q)).toNat % 2 ^ 16 = S / n ↔ Dim q S n := by
  have hpos : 0 < q := by linarith
  rw [toInt_toNat (by positivity), ← floor_eq_iff hpos hqn]
  have hle := @div_le_floor S n q hpos hqn
  have hlt := floor_lt hpos hqn (by linarith) hS
  have hfits : S / n ≤ 65535 := Nat.div_le_of_le_mul hS
  omega

/-- What a completing frame divides. -/
theorem completes_spec (h : Accumulating cfg rate a) (image : ℕ → UInt16)
    (hcompletes : a.dark.Completes rate) (hi : DarkFrame.inImage cfg i = true) :
    rate * DarkFrame.accumTimeSecs ≤ a.frames.length ∧
      (a.dark.update cfg rate image).darkFrame i =
        (toInt (((a.values i).sum : ℚ) / (rate * DarkFrame.accumTimeSecs))).toNat % 2 ^ 16 := by
  have harmed : 0 ≤ a.dark.framesUntilDark := by
    have hdue := hcompletes.1
    unfold DarkFrame.Due at hdue
    omega
  obtain ⟨hcount, hsums⟩ := h.armed harmed
  constructor
  · have hlong := hcompletes.2
    rw [DarkFrame.Short, hcount] at hlong
    exact not_lt.mp hlong
  · rw [DarkFrame.update_of_completes hcompletes]
    simp only [hi, if_true, hsums i hi]

/-- What one step does to a pixel behind line 1. -/
theorem averaged_iff (hrate : IsFrameRate cfg rate) (h : Accumulating cfg rate a)
    (hstep : step cfg rate a e = some b) (hi : DarkFrame.inImage cfg i = true) :
    Averaged rate i a e b ↔ DimEnough rate i a e := by
  have hfits := (accumulating_step hrate h hstep).noOverflow hrate i
  cases e with
  | restart => exact iff_of_true ⟨hfits, nofun, nofun, nofun⟩ nofun
  | imageFrame image =>
    obtain rfl := Option.some.inj hstep
    by_cases hcompletes : a.dark.Completes rate
    · obtain ⟨hlong, hvalue⟩ := completes_spec h image hcompletes hi
      have hone : 1 ≤ rate * DarkFrame.accumTimeSecs := by linarith [hrate.bounds.1]
      have hS : (a.values i).sum ≤ a.frames.length * 65535 := by
        have hsum := sum_le (a.values_le i)
        rwa [length_values] at hsum
      have hiff := quotient_eq_iff hone hlong h.needed hS
      rw [← hvalue] at hiff
      have hframes : a.values i ≠ [] := by
        rintro hnil
        have hzero : a.frames.length = 0 := by rw [← length_values a i, hnil, List.length_nil]
        rw [hzero, Nat.cast_zero] at hlong
        linarith
      constructor
      · exact fun haveraged _ => hiff.mp (haveraged.average hcompletes)
      · intro hdim
        have haverage := hiff.mpr (hdim hcompletes)
        have hlow := exists_le_average hframes
        have hhigh := exists_average_le hframes
        have hbound := average_le (a.values_le i)
        rw [length_values, ← haverage] at hlow hhigh hbound
        exact ⟨hfits, fun _ => haverage, fun _ => ⟨hlow, hhigh⟩,
          fun _ => Nat.lt_succ_of_le hbound⟩
    · exact iff_of_true ⟨hfits, fun h => absurd h hcompletes, fun h => absurd h hcompletes,
        fun h => absurd h hcompletes⟩ fun h => absurd h hcompletes

/-- In every run at a frame rate of the frame buffer, no accumulator overflows and every dark
frame is the average of the frames that were added, exactly as long as the averages that are
completed are small enough for the rate. -/
theorem average_iff (cfg : Settings) (rate : ℚ) (hrate : IsFrameRate cfg rate) (d : DarkFrame)
    (es : List DarkEvent) :
    EachStep (step cfg rate)
        (fun a e b => ∀ i, DarkFrame.inImage cfg i = true → Averaged rate i a e b) (initial d) es ↔
      EachStep (step cfg rate)
        (fun a e _ => ∀ i, DarkFrame.inImage cfg i = true → DimEnough rate i a e) (initial d) es := by
  refine eachStep_iff_of_invariant ?_ ?_ (accumulating_initial hrate d)
  · exact fun a e b h hstep => forall₂_congr fun i hi => averaged_iff hrate h hstep hi
  · exact fun a e b h _ hstep => accumulating_step hrate h hstep

/-- An average of at most 1 is small enough. -/
theorem dim_of_le {q : ℚ} {S n : ℕ} (hq : 3 ≤ q) (hn : q ≤ n) (hn' : (n : ℚ) < q + 1)
    (hS : S ≤ n) : Dim q S n := by
  unfold Dim
  rcases hS.lt_or_eq with hlt | rfl
  · have hsum : (S : ℚ) + 1 ≤ n := by exact_mod_cast hlt
    rw [Nat.div_eq_of_lt hlt, Nat.mod_eq_of_lt hlt]
    push_cast
    linarith
  · have hpos : 0 < S := by
      have hcast : (0 : ℚ) < S := by linarith
      exact_mod_cast hcast
    rw [Nat.div_self hpos, Nat.mod_self]
    push_cast
    linarith

/-- Frames of zeros and ones have averages that are small enough for every rate. -/
theorem dim_of_faint (hrate : IsFrameRate cfg rate) {es : List DarkEvent}
    (h : Accumulating cfg rate a) (ha : ∀ image ∈ a.frames, ∀ i, image i ≤ 1)
    (hes : ∀ image, .imageFrame image ∈ es → ∀ i, image i ≤ 1) :
    EachStep (step cfg rate)
      (fun a e _ => ∀ i, DarkFrame.inImage cfg i = true → DimEnough rate i a e) a es := by
  induction es generalizing a with
  | nil => trivial
  | cons e es ih =>
    intro b hstep
    have hkept := accumulating_step hrate h hstep
    have hrest : ∀ image, .imageFrame image ∈ es → ∀ i, image i ≤ 1 :=
      fun image himage => hes image (List.mem_cons_of_mem e himage)
    cases e with
    | imageFrame image =>
      obtain rfl := Option.some.inj hstep
      constructor
      · intro i hi hcompletes
        have hsum : (a.values i).sum ≤ a.frames.length * 1 := by
          rw [← length_values a i]
          apply sum_le
          intro x hx
          obtain ⟨image', himage, rfl⟩ := List.mem_map.mp hx
          exact UInt16.le_iff_toNat_le.mp (ha image' himage i)
        rw [Nat.mul_one] at hsum
        exact dim_of_le hrate.bounds.1 (completes_spec h image hcompletes hi).1 h.needed hsum
      · refine ih hkept (fun image' himage => ?_) hrest
        simp only at himage
        split_ifs at himage
        · rcases List.mem_append.mp himage with hold | hnew
          · exact ha image' hold
          · exact List.mem_singleton.mp hnew ▸ hes image List.mem_cons_self
        · exact ha image' himage
    | restart =>
      obtain rfl := Option.some.inj hstep
      exact ⟨fun i _ hcompletes => hcompletes.elim,
        ih hkept (fun image himage => absurd himage List.not_mem_nil) hrest⟩

/-- The largest frames, at a little under five frames a second. -/
def slowest : Settings :=
  { dark2Only with
    frameHeightLines := 1024
    frameWidthSamples := 1024
    availableFrameRatesInHz := availableFrameRateInHz 1024 1024 }

/-- A dark frame of four frames, all of whose pixels have the same value. -/
def uniformRun (x : UInt16) : List DarkEvent :=
  .restart :: List.replicate 5 (.imageFrame fun _ => x)

/-- If that is one, the dark frame is right. -/
theorem average_iff_faint : EachStep (step slowest (availableFrameRateInHz 1024 1024 0))
    (fun a e b => ∀ i, DarkFrame.inImage slowest i = true →
      Averaged (availableFrameRateInHz 1024 1024 0) i a e b)
    (initial ⟨-1, 0, fun _ => 0, fun _ => 0, false⟩) (uniformRun 1) := by
  have hrate : IsFrameRate slowest (availableFrameRateInHz 1024 1024 0) :=
    ⟨by decide, by decide, 0, by decide, rfl⟩
  refine (average_iff slowest _ hrate _ _).mpr
    (dim_of_faint hrate (accumulating_initial hrate _) (by simp [initial]) ?_)
  simp [uniformRun]

/-- With 1000 it is more than a fourth too high. -/
theorem average_too_high : ∃ a,
    run (step slowest (availableFrameRateInHz 1024 1024 0))
      (initial ⟨-1, 0, fun _ => 0, fun _ => 0, false⟩) (uniformRun 1000) = some a ∧
      a.dark.framesUntilDark = -1 ∧ a.values 1024 = [1000, 1000, 1000, 1000] ∧
      a.dark.darkFrame 1024 = 1278 :=
  ⟨_, rfl, by decide +kernel, by decide +kernel, by decide +kernel⟩

end Averaging
end Recorder
