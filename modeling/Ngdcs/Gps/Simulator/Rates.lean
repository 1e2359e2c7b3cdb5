import Ngdcs.Gps.Simulator.Queue

/-! At which frame rates a frame ends behind the type word of a message. The layouts of the
buffer depend on the times at which messages are due. From 20 frames between the PPS pulses
on, only a few phases occur; below, a split shows up within 116 frames. -/
namespace Gps
namespace Layout

/-- The frame count has 32 bits. -/
def countAfter (n : ℕ) : ℕ := n % 2 ^ 32

/-- The layout after `n` frames by the interval between PPS pulses, in frames. -/
def timed (all : Bool) (ppsInterval : ℕ) : ℕ → Layout
  | 0 => ⟨[], 0⟩
  | n + 1 => (timed all ppsInterval n).frame
      (all && countAfter (n + 1) % ppsInterval == 0)
      (countAfter (n + 1) % max 1 (ppsInterval / 10) == 0)

theorem after_eq_timed (cfg : SimSettings) (n : ℕ) :
    after cfg n = timed (cfg.gpsSim == .all) (ppsInterval cfg.frameRateHz) n := by
  induction n with
  | zero => rfl
  | succ n ih =>
    rw [after, timed, ih]
    rfl

/-! ### Only 3501 messages -/

/-- The layouts without 3500 messages. All of their sizes are multiples of 7. -/
def without3500 : List Layout := [⟨[], 0⟩, ⟨[28], 0⟩, ⟨[28], 7⟩, ⟨[28], 14⟩, ⟨[28], 21⟩]

theorem without3500_closed : ∀ q ∈ without3500, ∀ is3501, q.frame false is3501 ∈ without3500 := by
  decide

theorem timed_without3500 (ppsInterval n : ℕ) : timed false ppsInterval n ∈ without3500 := by
  induction n with
  | zero => exact List.mem_cons_self
  | succ n ih => exact without3500_closed _ ih _

/-! ### Fast frame rates -/

/-- A layout, with the frames since a 3500 and since a 3501 message was due (up to 3, and up to
1), and whether the frame count is not zero. -/
structure Phase where
  layout : Layout
  since3500 : ℕ
  since3501 : ℕ
  counting : Bool
  deriving DecidableEq

namespace Phase

/-- A frame that is not the one in which the frame count becomes zero again -/
def next (is3500 is3501 : Bool) (p : Phase) : Phase where
  layout := p.layout.frame is3500 is3501
  since3500 := if is3500 then 0 else min 3 (p.since3500 + 1)
  since3501 := if is3501 then 0 else min 1 (p.since3501 + 1)
  counting := true

/-- Both messages are due when the frame count becomes zero. -/
def wrap (p : Phase) : Phase := ⟨p.layout.frame true true, 0, 0, false⟩

/-- The phases that occur. -/
def all : List Phase :=
  [⟨⟨[], 0⟩, 0, 0, false⟩, ⟨⟨[22], 6⟩, 0, 0, false⟩, ⟨⟨[22], 13⟩, 0, 0, false⟩,
    ⟨⟨[22], 14⟩, 0, 0, false⟩, ⟨⟨[22], 20⟩, 0, 0, false⟩, ⟨⟨[28], 20⟩, 0, 0, false⟩,
    ⟨⟨[22, 28], 21⟩, 0, 0, false⟩, ⟨⟨[22, 28], 21⟩, 0, 0, true⟩, ⟨⟨[22], 14⟩, 0, 1, true⟩,
    ⟨⟨[22], 21⟩, 0, 1, true⟩, ⟨⟨[28], 13⟩, 1, 0, true⟩, ⟨⟨[28], 20⟩, 1, 0, true⟩,
    ⟨⟨[28], 20⟩, 1, 1, true⟩, ⟨⟨[], 0⟩, 1, 1, true⟩, ⟨⟨[28], 13⟩, 2, 0, true⟩,
    ⟨⟨[28], 21⟩, 2, 0, true⟩, ⟨⟨[], 0⟩, 2, 1, true⟩, ⟨⟨[28], 21⟩, 3, 0, true⟩,
    ⟨⟨[], 0⟩, 3, 1, true⟩]

/-- A message may be due again after four frames, or two. -/
def Allows (p : Phase) (is3500 is3501 : Bool) : Prop :=
  (is3500 = true → p.since3500 = 3) ∧ (is3501 = true → p.since3501 = 1)

instance (p : Phase) (is3500 is3501 : Bool) : Decidable (p.Allows is3500 is3501) :=
  inferInstanceAs (Decidable (_ ∧ _))

theorem all_closed : ∀ p ∈ all, (∀ is3500 is3501, p.Allows is3500 is3501 →
    p.next is3500 is3501 ∈ all) ∧ (p.counting = true → p.wrap ∈ all) := by
  decide

theorem all_unsplit : ∀ p ∈ all, p.layout.done ≠ 2 := by
  decide

/-- The phase after `n` frames -/
def after (ppsInterval n : ℕ) : Phase where
  layout := timed true ppsInterval n
  since3500 := min 3 (countAfter n % ppsInterval)
  since3501 := min 1 (countAfter n % max 1 (ppsInterval / 10))
  counting := countAfter n != 0

theorem succ_mod_eq {k : ℕ} (hk : 0 < k) (c : ℕ) :
    (c + 1) % k = if c % k + 1 = k then 0 else c % k + 1 := by
  rw [← Nat.mod_add_mod]
  split_ifs with hlast
  · rw [hlast, Nat.mod_self]
  · exact Nat.mod_eq_of_lt (lt_of_le_of_ne (Nat.mod_lt c hk) hlast)

variable {ppsInterval n : ℕ}

theorem after_wrap (h : countAfter n + 1 = 2 ^ 32) :
    after ppsInterval (n + 1) = (after ppsInterval n).wrap := by
  have hzero : countAfter (n + 1) = 0 := by
    unfold countAfter at h ⊢
    rw [succ_mod_eq (by decide), if_pos h]
  simp [after, wrap, timed, hzero]

theorem after_next (hpps : 0 < ppsInterval) (h : countAfter n + 1 ≠ 2 ^ 32) :
    after ppsInterval (n + 1) = (after ppsInterval n).next
      (countAfter n % ppsInterval + 1 == ppsInterval)
      (countAfter n % max 1 (ppsInterval / 10) + 1 == max 1 (ppsInterval / 10)) := by
  have hsucc : countAfter (n + 1) = countAfter n + 1 := by
    unfold countAfter at h ⊢
    rw [succ_mod_eq (by decide), if_neg h]
  have hmsg3 : 0 < max 1 (ppsInterval / 10) := lt_of_lt_of_le Nat.one_pos (le_max_left _ _)
  have hdue (k c : ℕ) (hk : 0 < k) : ((c + 1) % k == 0) = (c % k + 1 == k) := by
    rw [succ_mod_eq hk]
    split_ifs with hlast <;> simp [hlast]
  have hsince (k c m : ℕ) (hk : 0 < k) :
      min m ((c + 1) % k) = if c % k + 1 = k then 0 else min m (min m (c % k) + 1) := by
    rw [succ_mod_eq hk]
    split_ifs <;> omega
  simp only [after, next, timed, hsucc, Bool.true_and, hdue _ _ hpps, hdue _ _ hmsg3,
    hsince _ _ _ hpps, hsince _ _ _ hmsg3, beq_iff_eq]
  congr 1

/-- From 20 frames on, the messages are due as far apart as the phases allow. -/
theorem after_mem (h : 20 ≤ ppsInterval) (n : ℕ) : after ppsInterval n ∈ all := by
  induction n with
  | zero => simp [after, timed, countAfter, all]
  | succ n ih =>
    obtain ⟨hnext, hwrap⟩ := all_closed _ ih
    by_cases hlast : countAfter n + 1 = 2 ^ 32
    · rw [after_wrap hlast]
      apply hwrap
      simp only [after, bne_iff_ne]
      omega
    · rw [after_next (by omega) hlast]
      apply hnext
      simp only [Allows, after, beq_iff_eq]
      omega

end Phase

/-! ### Slow frame rates -/

/-- For 1 to 19 frames between PPS pulses, the first frame that ends behind a type word. -/
def firstSplit : List ℕ :=
  [14, 12, 20, 24, 32, 32, 44, 44, 56, 52, 68, 64, 80, 72, 92, 84, 104, 92, 116]

theorem timed_firstSplit :
    ∀ i < 19, (timed true (i + 1) (firstSplit.getD i 0)).done = 2 := by
  decide +kernel

/-- No frame ever ends behind a type word exactly when there are no 3500 messages or at least
20 frames between them. -/
theorem unsplit_iff (cfg : SimSettings) :
    (∀ n, (after cfg n).done ≠ 2) ↔
      cfg.gpsSim = .allBut3 ∨ 20 ≤ ppsInterval cfg.frameRateHz := by
  have hpos := cfg.interval_pos
  constructor
  · intro h
    by_contra hneither
    rw [not_or] at hneither
    have hall : cfg.gpsSim = .all := by
      cases hsim : cfg.gpsSim with
      | none => exact absurd hsim cfg.simulated
      | all => rfl
      | allBut3 => exact absurd hsim hneither.1
    have hsplit := timed_firstSplit (ppsInterval cfg.frameRateHz - 1) (by omega)
    rw [Nat.sub_add_cancel hpos] at hsplit
    apply h
    rw [after_eq_timed, hall]
    exact hsplit
  · intro h n
    rw [after_eq_timed]
    rcases h with hsim | hfast
    · rw [hsim]
      exact (by decide : ∀ q ∈ without3500, q.done ≠ 2) _ (timed_without3500 _ n)
    · cases hsim : cfg.gpsSim == .all with
      | false => exact (by decide : ∀ q ∈ without3500, q.done ≠ 2) _ (timed_without3500 _ n)
      | true => exact Phase.all_unsplit _ (Phase.after_mem hfast n)

end Layout
end Gps
