import Ngdcs.Lib.Scan
import Mathlib.Data.List.Induction

/-! Items that are sent word by word, in order. After any number of words some items are
complete and the rest is pending. Sending more words, queueing more items and looking only
at the sizes all commute with that; a scanner that is fed the words finds the complete
items. -/
namespace Backlog

variable {β : Type*} (size : β → ℕ)

/-- The items not yet complete; `done` words of the first one have been sent. -/
structure Pending (β : Type*) where
  items : List β
  done : ℕ
  deriving DecidableEq

/-- The items that the first `n` words complete, and what is pending behind these words. -/
def advance : ℕ → List β → List β × Pending β
  | _, [] => ([], ⟨[], 0⟩)
  | n, b :: bs =>
    if n < size b then ([], ⟨b :: bs, n⟩)
    else (b :: (advance (n - size b) bs).1, (advance (n - size b) bs).2)

/-- The number of words of the items. -/
def total : List β → ℕ
  | [] => 0
  | b :: bs => size b + total bs

/-- The number of words that are still to be sent. -/
def Pending.left (q : Pending β) : ℕ := total size q.items - q.done

@[simp] theorem total_nil : total size ([] : List β) = 0 := rfl

@[simp] theorem total_cons (b : β) (bs : List β) :
    total size (b :: bs) = size b + total size bs := rfl

@[simp] theorem total_append (bs cs : List β) :
    total size (bs ++ cs) = total size bs + total size cs := by
  induction bs with
  | nil => exact (Nat.zero_add _).symm
  | cons b bs ih => rw [List.cons_append, total_cons, total_cons, ih, Nat.add_assoc]

theorem total_sizes (bs : List β) : total id (bs.map size) = total size bs := by
  induction bs with
  | nil => rfl
  | cons b bs ih => exact congrArg (size b + ·) ih

variable {size}

theorem advance_of_lt {n : ℕ} {b : β} (bs : List β) (h : n < size b) :
    advance size n (b :: bs) = ([], ⟨b :: bs, n⟩) := if_pos h

theorem advance_of_le {n : ℕ} {b : β} (bs : List β) (h : size b ≤ n) :
    advance size n (b :: bs) =
      (b :: (advance size (n - size b) bs).1, (advance size (n - size b) bs).2) :=
  if_neg h.not_gt

theorem advance_zero (hpos : ∀ b, 0 < size b) (bs : List β) :
    advance size 0 bs = ([], ⟨bs, 0⟩) := by
  cases bs with
  | nil => rfl
  | cons b bs => exact advance_of_lt bs (hpos b)

/-- No item is lost and their order is kept. -/
theorem advance_items (n : ℕ) (bs : List β) :
    (advance size n bs).1 ++ (advance size n bs).2.items = bs := by
  induction bs generalizing n with
  | nil => rfl
  | cons b bs ih =>
    by_cases h : n < size b
    · rw [advance_of_lt bs h, List.nil_append]
    · rw [advance_of_le bs (Nat.le_of_not_lt h)]
      exact congrArg (b :: ·) (ih (n - size b))

/-- The words sent are those of the complete items and the ones that are done. -/
theorem total_advance {n : ℕ} {bs : List β} (h : n ≤ total size bs) :
    total size (advance size n bs).1 + (advance size n bs).2.done = n := by
  induction bs generalizing n with
  | nil =>
    rw [total_nil] at h
    exact (Nat.le_zero.mp h).symm
  | cons b bs ih =>
    rw [total_cons] at h
    by_cases hlt : n < size b
    · rw [advance_of_lt bs hlt, total_nil, Nat.zero_add]
    · have hrest := @ih (n - size b) (by omega)
      rw [advance_of_le bs (Nat.le_of_not_lt hlt), total_cons, Nat.add_assoc, hrest]
      omega

theorem left_advance {n : ℕ} {bs : List β} (h : n ≤ total size bs) :
    (advance size n bs).2.left size = total size bs - n := by
  have hitems := congrArg (total size) (@advance_items _ size n bs)
  have hsent := total_advance h
  rw [total_append] at hitems
  rw [Pending.left]
  omega

/-- Sending `n` words and then `k` more. -/
theorem advance_add {n : ℕ} (k : ℕ) {bs : List β} (h : n ≤ total size bs) :
    advance size (n + k) bs =
      ((advance size n bs).1 ++
        (advance size ((advance size n bs).2.done + k) (advance size n bs).2.items).1,
        (advance size ((advance size n bs).2.done + k) (advance size n bs).2.items).2) := by
  induction bs generalizing n with
  | nil => rfl
  | cons b bs ih =>
    rw [total_cons] at h
    by_cases hlt : n < size b
    · rw [advance_of_lt bs hlt]
      rfl
    · have hle := Nat.le_of_not_lt hlt
      rw [advance_of_le bs (by omega : size b ≤ n + k), advance_of_le bs hle,
        show n + k - size b = n - size b + k by omega, ih (by omega)]
      rfl

/-- Items queued behind the others are pending. -/
theorem advance_append (hpos : ∀ b, 0 < size b) {n : ℕ} {bs : List β} (cs : List β)
    (h : n ≤ total size bs) :
    advance size n (bs ++ cs) =
      ((advance size n bs).1, ⟨(advance size n bs).2.items ++ cs, (advance size n bs).2.done⟩) := by
  induction bs generalizing n with
  | nil =>
    rw [total_nil] at h
    rw [Nat.le_zero.mp h, List.nil_append]
    exact advance_zero hpos cs
  | cons b bs ih =>
    rw [total_cons] at h
    rw [List.cons_append]
    by_cases hlt : n < size b
    · rw [advance_of_lt _ hlt, advance_of_lt bs hlt]
      rfl
    · have hle := Nat.le_of_not_lt hlt
      rw [advance_of_le _ hle, advance_of_le bs hle, ih (by omega)]

/-- Words enough for the first pending item complete it, whatever is queued behind it. -/
theorem advance_grows (hpos : ∀ b, 0 < size b) {n k : ℕ} {b : β} {bs rest : List β}
    (cs : List β) (h : n ≤ total size bs) (hitems : (advance size n bs).2.items = b :: rest)
    (hk : size b ≤ (advance size n bs).2.done + k) :
    (advance size n bs).1.length < (advance size (n + k) (bs ++ cs)).1.length := by
  have hmore : n ≤ total size (bs ++ cs) := by
    rw [total_append]
    exact h.trans (Nat.le_add_right _ _)
  rw [advance_add k hmore, advance_append hpos cs h, hitems, List.cons_append,
    advance_of_le _ hk, List.length_append]
  exact Nat.lt_add_of_pos_right (Nat.succ_pos _)

/-- Only the sizes matter. -/
theorem advance_sizes (n : ℕ) (bs : List β) :
    advance id n (bs.map size) =
      ((advance size n bs).1.map size,
        ⟨(advance size n bs).2.items.map size, (advance size n bs).2.done⟩) := by
  induction bs generalizing n with
  | nil => rfl
  | cons b bs ih =>
    rw [List.map_cons]
    by_cases hlt : n < size b
    · rw [advance_of_lt bs hlt]
      exact advance_of_lt _ hlt
    · have hle := Nat.le_of_not_lt hlt
      rw [advance_of_le bs hle, advance_of_le _ (show id (size b) ≤ n from hle), id_eq, ih]
      rfl

variable {α : Type*} {words : β → List α}

/-- What has been sent of the first pending item. -/
def Pending.kept (words : β → List α) (q : Pending β) : List α :=
  ((q.items.head?.map words).getD []).take q.done

theorem length_flatMap (words : β → List α) (bs : List β) :
    (bs.flatMap words).length = total (fun b => (words b).length) bs := by
  induction bs with
  | nil => rfl
  | cons b bs ih => rw [List.flatMap_cons, List.length_append, ih, total_cons]

theorem length_kept (n : ℕ) (bs : List β) :
    ((advance (fun b => (words b).length) n bs).2.kept words).length =
      (advance (fun b => (words b).length) n bs).2.done := by
  induction bs generalizing n with
  | nil => rfl
  | cons b bs ih =>
    by_cases hlt : n < (words b).length
    · rw [advance_of_lt bs hlt]
      exact List.length_take_of_le hlt.le
    · rw [advance_of_le bs (Nat.le_of_not_lt hlt)]
      exact ih (n - (words b).length)

/-- A part of an item that has been sent is a part of the first pending one. -/
theorem items_of_done {n : ℕ} {bs : List β}
    (h : 0 < (advance (fun b => (words b).length) n bs).2.done) :
    ∃ b rest, (advance (fun b => (words b).length) n bs).2.items = b :: rest := by
  have hkept := @length_kept _ _ words n bs
  cases hitems : (advance (fun b => (words b).length) n bs).2.items with
  | nil =>
    rw [Pending.kept, hitems] at hkept
    simp at hkept
    omega
  | cons b rest => exact ⟨b, rest, rfl⟩

/-- The words still to be sent are those of the pending items. -/
theorem drop_flatMap (n : ℕ) (bs : List β) :
    (bs.flatMap words).drop n =
      ((advance (fun b => (words b).length) n bs).2.items.flatMap words).drop
        (advance (fun b => (words b).length) n bs).2.done := by
  induction bs generalizing n with
  | nil => simp [advance]
  | cons b bs ih =>
    by_cases hlt : n < (words b).length
    · rw [advance_of_lt bs hlt]
    · have hle := Nat.le_of_not_lt hlt
      rw [advance_of_le bs hle, List.flatMap_cons, List.drop_append, List.drop_eq_nil_of_le hle,
        List.nil_append]
      exact ih (n - (words b).length)

end Backlog

namespace Scan.MessageFormat
open Backlog

variable {α : Type*} (F : MessageFormat α)

theorem emitted_append (b us ws : List α) :
    F.emitted b (us ++ ws) = F.emitted b us ++ F.emitted (F.pending b us) ws := by
  induction us generalizing b with
  | nil => rfl
  | cons u us ih => rw [List.cons_append, emitted, ih, emitted, pending, List.append_assoc]

theorem pending_append (b us ws : List α) :
    F.pending b (us ++ ws) = F.pending (F.pending b us) ws := by
  induction us generalizing b with
  | nil => rfl
  | cons u us ih => exact ih _

variable {F}

/-- A beginning of a message that is not all of it is kept, and nothing is emitted. -/
theorem keeps_beginning {m u : List α} (hm : F.complete m = true) (hu : u <+: m)
    (hshort : u.length < m.length) : F.emitted [] u = [] ∧ F.pending [] u = u := by
  induction u using List.reverseRecOn with
  | nil => exact ⟨rfl, rfl⟩
  | append_singleton u w ih =>
    obtain ⟨hnone, hkept⟩ := ih ((List.prefix_append u [w]).trans hu) (by simp at hshort; omega)
    obtain ⟨v, rfl⟩ := hu
    have hviable := F.viable_of_complete hm
    have hopen : ¬F.complete (u ++ [w]) = true := by
      intro hc
      have hv := F.complete_maximal hc hviable
      simp [hv] at hshort
    have hnext : F.next u w = (u ++ [w], none) := by
      rw [next, if_neg hopen, F.resync_of_viable (F.viable_left hviable)]
    rw [emitted_append, pending_append, hnone, hkept]
    simp [emitted, pending, hnext]

theorem emits_message {m : List α} (hm : F.complete m = true) :
    F.emitted [] m = [m] ∧ F.pending [] m = [] := by
  induction m using List.reverseRecOn with
  | nil => simp [F.complete_nil] at hm
  | append_singleton u w _ =>
    obtain ⟨hnone, hkept⟩ := keeps_beginning hm (List.prefix_append u [w]) (by simp)
    have hnext : F.next u w = ([], some (u ++ [w])) := if_pos hm
    rw [emitted_append, pending_append, hnone, hkept]
    simp [emitted, pending, hnext]

variable {β : Type*} {words : β → List α}

/-- A scanner that is fed messages one behind the other finds those that are complete and
keeps what it has of the next one. -/
theorem scan_backlog {ms : List β} (hms : ∀ m ∈ ms, F.complete (words m) = true) (n : ℕ) :
    let q := advance (fun m => (words m).length) n ms
    F.emitted [] ((ms.flatMap words).take n) = q.1.map words ∧
      F.pending [] ((ms.flatMap words).take n) = q.2.kept words := by
  induction ms generalizing n with
  | nil => simp [advance, emitted, pending, Pending.kept]
  | cons m ms ih =>
    have hm := hms m List.mem_cons_self
    rw [List.flatMap_cons]
    by_cases hlt : n < (words m).length
    · rw [advance_of_lt ms hlt, List.take_append_of_le_length hlt.le]
      exact keeps_beginning hm (List.take_prefix n _) (by rw [List.length_take]; omega)
    · have hle := Nat.le_of_not_lt hlt
      obtain ⟨hemit, hkept⟩ := emits_message hm
      obtain ⟨hemits, hkeeps⟩ :=
        ih (fun m' hm' => hms m' (List.mem_cons_of_mem m hm')) (n - (words m).length)
      rw [advance_of_le ms hle, List.take_append, List.take_of_length_le hle, emitted_append,
        pending_append, hemit, hkept]
      exact ⟨congrArg (words m :: ·) hemits, hkeeps⟩

end Scan.MessageFormat
