import Mathlib.Data.List.Basic
import Mathlib.Order.Defs.LinearOrder
import Mathlib.Order.Nat

/-! Finding messages in a stream. The leftmost scanner looks at a whole stream; the online
scanner sees one word at a time and keeps only the words that may still become a message. -/
namespace Scan

variable {α : Type*}

/-- A message format for which a mismatch shows up before any message would have fitted. -/
structure MessageFormat (α : Type*) where
  viable : List α → Bool
  complete : List α → Bool
  viable_nil : viable [] = true
  complete_nil : complete [] = false
  viable_left : ∀ {u v}, viable (u ++ v) = true → viable u = true
  viable_of_complete : ∀ {m}, complete m = true → viable m = true
  complete_maximal : ∀ {m v}, complete m = true → viable (m ++ v) = true → v = []
  mismatch_early : ∀ {b w m}, viable b = true → complete b = false →
    viable (b ++ [w]) = false → complete m = true → b.length + 1 < m.length

namespace MessageFormat

variable (F : MessageFormat α)

/-- The length of the message at the head of the stream. -/
def lengthAt (xs : List α) : Option ℕ :=
  (List.range (xs.length + 1)).find? fun n => F.complete (xs.take n)

def scanFrom : ℕ → List α → List (List α)
  | _, [] => []
  | skip + 1, _ :: xs => scanFrom skip xs
  | 0, x :: xs =>
    match F.lengthAt (x :: xs) with
    | some n => (x :: xs).take n :: scanFrom (n - 1) xs
    | none => scanFrom 0 xs

/-- The leftmost messages of a stream that do not overlap. -/
def scan (xs : List α) : List (List α) := F.scanFrom 0 xs

/-- The longest suffix that may still become a message. -/
def resync : List α → List α
  | [] => []
  | x :: xs => if F.viable (x :: xs) then x :: xs else resync xs

/-- One word of the online scanner: the words kept and the message completed, if any. -/
def next (b : List α) (w : α) : List α × Option (List α) :=
  if F.complete (b ++ [w]) then ([], some (b ++ [w])) else (F.resync (b ++ [w]), none)

def pending (b : List α) : List α → List α
  | [] => b
  | w :: ws => pending (F.next b w).1 ws

def emitted (b : List α) : List α → List (List α)
  | [] => []
  | w :: ws => (F.next b w).2.toList ++ emitted (F.next b w).1 ws

/-- Words kept by the online scanner: the beginning of a message, but not all of it. -/
structure Unfinished (b : List α) : Prop where
  viable : F.viable b = true
  incomplete : F.complete b = false

theorem unfinished_nil : F.Unfinished [] := ⟨F.viable_nil, F.complete_nil⟩

@[simp] theorem scan_nil : F.scan [] = [] := rfl

theorem scanFrom_eq_scan_drop (n : ℕ) (xs : List α) : F.scanFrom n xs = F.scan (xs.drop n) := by
  induction xs generalizing n with
  | nil => cases n <;> rfl
  | cons x xs ih =>
    cases n with
    | zero => rfl
    | succ n => exact ih n

/-- A message is told from its own beginnings, so its length is the first that fits. -/
theorem lengthAt_of_complete {m : List α} (hm : F.complete m = true) (ys : List α) :
    F.lengthAt (m ++ ys) = some m.length := by
  refine List.find?_range_eq_some.mpr ⟨by simpa using hm,
    List.mem_range.mpr (by rw [List.length_append]; omega), ?_⟩
  intro j hj
  have htake : (m ++ ys).take j = m.take j := List.take_append_of_le_length hj.le
  rw [htake, Bool.not_eq_true']
  by_contra hfull
  have hcomplete : F.complete (m.take j) = true := by simpa using hfull
  have hviable := F.viable_of_complete hm
  rw [← List.take_append_drop j m] at hviable
  have hnil := F.complete_maximal hcomplete hviable
  have : (m.drop j).length = 0 := by rw [hnil]; rfl
  rw [List.length_drop] at this
  omega

theorem lengthAt_eq_none {xs : List α} (h : ∀ m, m <+: xs → F.complete m = false) :
    F.lengthAt xs = none :=
  List.find?_range_eq_none.mpr fun n _ => by simp [h _ (List.take_prefix n xs)]

theorem scan_of_complete {m : List α} (hm : F.complete m = true) (ys : List α) :
    F.scan (m ++ ys) = m :: F.scan ys := by
  cases m with
  | nil => simp [F.complete_nil] at hm
  | cons x xs =>
    have hlen := F.lengthAt_of_complete hm ys
    rw [List.cons_append] at hlen ⊢
    rw [scan, scanFrom, hlen]
    simp only [List.length_cons, Nat.add_sub_cancel, scanFrom_eq_scan_drop, List.take_succ_cons,
      List.take_left, List.drop_left]

theorem scan_cons_of_none {x : α} {xs : List α} (h : ∀ m, m <+: x :: xs → F.complete m = false) :
    F.scan (x :: xs) = F.scan xs := by
  rw [scan, scanFrom, F.lengthAt_eq_none h]
  rfl

/-- Words too few for a message are passed over up to the next possible start of one. -/
theorem scan_resync {u : List α} (hshort : ∀ m, F.complete m = true → u.length < m.length)
    (ys : List α) : F.scan (u ++ ys) = F.scan (F.resync u ++ ys) := by
  induction u with
  | nil => rfl
  | cons x xs ih =>
    rw [resync]
    split
    next => rfl
    next hviable =>
      have hnone : ∀ m, m <+: x :: (xs ++ ys) → F.complete m = false := by
        intro m hpre
        by_contra hfull
        have hm : F.complete m = true := by simpa using hfull
        have hbegins : x :: xs <+: m :=
          List.prefix_of_prefix_length_le ⟨ys, rfl⟩ hpre (hshort m hm).le
        obtain ⟨v, rfl⟩ := hbegins
        exact hviable (F.viable_left (F.viable_of_complete hm))
      rw [List.cons_append, F.scan_cons_of_none hnone]
      exact ih fun m hm => by
        have := hshort m hm
        rw [List.length_cons] at this
        omega

theorem resync_of_viable {u : List α} (h : F.viable u = true) : F.resync u = u := by
  cases u with
  | nil => rfl
  | cons x xs => rw [resync, if_pos h]

theorem resync_viable (u : List α) : F.viable (F.resync u) = true := by
  induction u with
  | nil => exact F.viable_nil
  | cons x xs ih =>
    rw [resync]
    split
    next h => exact h
    next => exact ih

theorem resync_suffix (u : List α) : F.resync u <:+ u := by
  induction u with
  | nil => exact List.suffix_rfl
  | cons x xs ih =>
    rw [resync]
    split
    next => exact List.suffix_rfl
    next => exact ih.trans (List.suffix_cons x xs)

theorem Unfinished.short {F : MessageFormat α} {b : List α} (hb : F.Unfinished b) {w : α}
    (h : F.viable (b ++ [w]) = false) (m : List α) (hm : F.complete m = true) :
    (b ++ [w]).length < m.length := by
  simpa using F.mismatch_early hb.viable hb.incomplete h hm

theorem Unfinished.next {F : MessageFormat α} {b : List α} (hb : F.Unfinished b) (w : α) :
    F.Unfinished (F.next b w).1 := by
  unfold MessageFormat.next
  split
  next => exact F.unfinished_nil
  next hcomplete =>
    refine ⟨F.resync_viable _, ?_⟩
    by_cases hviable : F.viable (b ++ [w]) = true
    · simpa [F.resync_of_viable hviable] using hcomplete
    · by_contra hfull
      have hlong := hb.short (by simpa using hviable) _ (by simpa using hfull)
      exact absurd hlong (F.resync_suffix _).length_le.not_gt

theorem Unfinished.scan_next {F : MessageFormat α} {b : List α} (hb : F.Unfinished b) (w : α)
    (ys : List α) :
    F.scan (b ++ w :: ys) = (F.next b w).2.toList ++ F.scan ((F.next b w).1 ++ ys) := by
  rw [List.append_cons]
  unfold MessageFormat.next
  split
  next hcomplete => rw [F.scan_of_complete hcomplete]; rfl
  next =>
    by_cases hviable : F.viable (b ++ [w]) = true
    · rw [F.resync_of_viable hviable]; rfl
    · rw [F.scan_resync (hb.short (by simpa using hviable))]; rfl

/-- The online scanner emits the leftmost messages; what it still keeps at the end of the
stream is the only part in which the leftmost scanner may find more. -/
theorem Unfinished.scan_append {F : MessageFormat α} {b : List α} (hb : F.Unfinished b)
    (ws : List α) :
    F.scan (b ++ ws) = F.emitted b ws ++ F.scan (F.pending b ws) := by
  induction ws generalizing b with
  | nil => simp [emitted, pending]
  | cons w ws ih => rw [hb.scan_next, ih (hb.next w), ← List.append_assoc]; rfl

theorem Unfinished.pending {F : MessageFormat α} {b : List α} (hb : F.Unfinished b)
    (ws : List α) : F.Unfinished (F.pending b ws) := by
  induction ws generalizing b with
  | nil => exact hb
  | cons w ws ih => exact ih (hb.next w)

/-- The words kept at the end are the last words of the stream. -/
theorem pending_suffix (b ws : List α) : F.pending b ws <:+ b ++ ws := by
  induction ws generalizing b with
  | nil => simp [pending]
  | cons w ws ih =>
    have hnext : (F.next b w).1 <:+ b ++ [w] := by
      unfold next
      split
      next => exact List.nil_suffix
      next => exact F.resync_suffix _
    obtain ⟨skipped, hskipped⟩ := hnext
    rw [List.append_cons, ← hskipped, List.append_assoc]
    exact (ih _).trans (List.suffix_append _ _)

/-- Words shorter than every message contain none. -/
theorem scan_eq_nil_of_short {u : List α}
    (h : ∀ m, F.complete m = true → u.length < m.length) : F.scan u = [] := by
  induction u with
  | nil => rfl
  | cons x xs ih =>
    have hnone : ∀ m, m <+: x :: xs → F.complete m = false := by
      intro m hpre
      by_contra hfull
      exact absurd hpre.length_le (h m (by simpa using hfull)).not_ge
    rw [F.scan_cons_of_none hnone]
    exact ih fun m hm => by
      have := h m hm
      rw [List.length_cons] at this
      omega

end MessageFormat

end Scan
