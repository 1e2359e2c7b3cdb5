import Ngdcs.Lists.Scans

/-! `SL_ListWatch` of `lists.h` and `lists.cc`: an object that is handed to `init_scan` and whose
destructor ends the scan. A watch knows the list, but not which of its scans is its own. -/
namespace Lists

open Runs

variable {T : Type*}

namespace SLList

def clear (s : SLList T) : SLList T := { s with currentItems := 0, currentScan := -1 }

/-- The loop of `next(int (*func)(T p))` and of the versions that hand more to `func`. -/
def skipLoop (func : T → Bool) : ℕ → SLList T → SLList T
  | 0, s => s
  | n + 1, s =>
    let c := s.scanPts s.currentScan
    if c < s.currentItems ∧ ¬func (s.items c) then
      skipLoop func n { s with scanPts := Function.update s.scanPts s.currentScan (c + 1) }
    else s

def skip (s : SLList T) (func : T → Bool) : SLList T :=
  skipLoop func (s.currentItems - s.scanPts s.currentScan).toNat s

end SLList

/-- A list and the watches that are handed to it. `linked` says of a watch that its `list` is this
list and not NULL, `alive` that it has not been destroyed. `errors` counts how often `init_scan` and
`scan_done` report an internal scanning error; `undefined` records a call of `set_list` for a
destroyed watch. -/
structure WatchedList (T : Type*) where
  list : SLList T
  watches : ℤ → Option ℕ
  linked : ℕ → Bool
  alive : ℕ → Bool
  errors : ℕ
  undefined : Bool

namespace WatchedList

/-- A new list, and watches that have just been constructed. -/
def initial (items : ℤ → T) (watches : ℤ → Option ℕ) : WatchedList T where
  list := .initial items
  watches := watches
  linked := fun _ => false
  alive := fun _ => true
  errors := 0
  undefined := false

/-- `if (watch) watch->set_list(..)` -/
def setList (s : WatchedList T) (watch : Option ℕ) (linked : Bool) : WatchedList T :=
  match watch with
  | none => s
  | some w =>
    { s with
      linked := Function.update s.linked w linked
      undefined := s.undefined || !s.alive w }

def initScan (s : WatchedList T) (watch : Option ℕ) : ℤ × WatchedList T :=
  let r := s.list.initScan
  if maxScanPts ≤ s.list.currentScan + 1 then
    (r.1, { s with list := r.2, errors := s.errors + 1 })
  else
    let s := { s with
      list := r.2
      watches := Function.update s.watches (s.list.currentScan + 1) watch }
    (r.1, s.setList watch true)

/-- `next(void)` -/
def next (s : WatchedList T) : Option T × WatchedList T :=
  let r := s.list.next
  let s := if s.list.scanPts s.list.currentScan = s.list.currentItems then
      s.setList (s.watches s.list.currentScan) false
    else s
  (r.1, { s with list := r.2 })

/-- `next(int (*func)(T p))` and the versions that hand more to `func`. -/
def nextMatching (s : WatchedList T) (func : T → Bool) : Option T × WatchedList T :=
  next { s with list := s.list.skip func }

def scanDone (s : WatchedList T) : ℤ × WatchedList T :=
  let r := s.list.scanDone
  if s.list.currentScan < 0 then (r.1, { s with list := r.2, errors := s.errors + 1 })
  else (r.1, { s.setList (s.watches s.list.currentScan) false with list := r.2 })

def clear (s : WatchedList T) : WatchedList T := { s with list := s.list.clear }

/-- `~SL_ListWatch` -/
def destroy (s : WatchedList T) (w : ℕ) : WatchedList T :=
  let s := if s.linked w then s.scanDone.2 else s
  { s with alive := Function.update s.alive w false }

/-- The active scans from the outermost on, each with the watch that it was started with and with
its scan point. -/
def active (s : WatchedList T) : List (Option ℕ × ℤ) :=
  (List.range (s.list.currentScan + 1).toNat).map fun i : ℕ => (s.watches i, s.list.scanPts i)

end WatchedList

inductive WatchedOperation (T : Type*) where
  | plain (op : Operation T)
  | initScan (watch : Option ℕ)
  | nextMatching (func : T → Bool)
  | clear
  | destroy (w : ℕ)

/-- Only watches that exist are handed over and destroyed. -/
def watchedStep (s : WatchedList T) : WatchedOperation T → Option (WatchedList T)
  | .plain .initScan => some (s.initScan none).2
  | .plain .next => if s.list.currentScan < 0 then none else some s.next.2
  | .plain .scanDone => some s.scanDone.2
  | .plain op => (perform s.list op).map fun r => { s with list := r.2 }
  | .initScan watch => if watch.all s.alive then some (s.initScan watch).2 else none
  | .nextMatching func => if s.list.currentScan < 0 then none else some (s.nextMatching func).2
  | .clear => some s.clear
  | .destroy w => if s.alive w then some (s.destroy w) else none

/-- What the destruction of `w` must do: the scan that was started with it is no longer active,
all other scans are as they were, and if there is none, nothing changes. -/
structure EndsOwnScan (s : WatchedList T) (w : ℕ) (t : WatchedList T) : Prop where
  active : t.active = s.active.filter fun scan => scan.1 ≠ some w
  items : t.list.items = s.list.items ∧ t.list.currentItems = s.list.currentItems
  idle : (∀ scan ∈ s.active, scan.1 ≠ some w) → t.list = s.list ∧ t.linked = s.linked
  others : ∀ v ≠ w, t.linked v = s.linked v
  errors : t.errors = s.errors
  undefined : t.undefined = s.undefined

/-- The watch is linked and the innermost scan is the only active one that was started with it, or
it is not linked and no active scan was started with it. -/
def LinkedToInnermost (s : WatchedList T) (w : ℕ) : Prop :=
  (s.linked w = true ∧ ∃ outer c, s.active = outer ++ [(some w, c)] ∧
      ∀ scan ∈ outer, scan.1 ≠ some w) ∨
    s.linked w = false ∧ ∀ scan ∈ s.active, scan.1 ≠ some w

namespace WatchedList

variable {s t : WatchedList T} {w : ℕ}

@[simp] theorem list_setList (s : WatchedList T) (watch : Option ℕ) (linked : Bool) :
    (s.setList watch linked).list = s.list := by
  cases watch <;> rfl

@[simp] theorem watches_setList (s : WatchedList T) (watch : Option ℕ) (linked : Bool) :
    (s.setList watch linked).watches = s.watches := by
  cases watch <;> rfl

@[simp] theorem errors_setList (s : WatchedList T) (watch : Option ℕ) (linked : Bool) :
    (s.setList watch linked).errors = s.errors := by
  cases watch <;> rfl

@[simp] theorem alive_setList (s : WatchedList T) (watch : Option ℕ) (linked : Bool) :
    (s.setList watch linked).alive = s.alive := by
  cases watch <;> rfl

theorem active_eq_nil (h : s.list.currentScan < 0) : s.active = [] := by
  have hnone : (s.list.currentScan + 1).toNat = 0 := by omega
  rw [active, hnone]
  rfl

theorem nonneg_of_active {outer : List (Option ℕ × ℤ)} {last : Option ℕ × ℤ}
    (h : s.active = outer ++ [last]) : 0 ≤ s.list.currentScan := by
  by_contra hscan
  rw [active_eq_nil (not_le.mp hscan)] at h
  exact List.append_ne_nil_of_right_ne_nil _ (List.cons_ne_nil _ _) h.symm

/-- The scans outside of the innermost one. -/
def outer (s : WatchedList T) : List (Option ℕ × ℤ) :=
  (List.range s.list.currentScan.toNat).map fun i : ℕ => (s.watches i, s.list.scanPts i)

theorem active_eq_outer (h : 0 ≤ s.list.currentScan) : s.active =
    s.outer ++ [(s.watches s.list.currentScan, s.list.scanPts s.list.currentScan)] := by
  have hcount : (s.list.currentScan + 1).toNat = s.list.currentScan.toNat + 1 := by omega
  rw [active, hcount, List.range_succ, List.map_append, outer, List.map_singleton,
    Int.toNat_of_nonneg h]

theorem filter_eq_self_iff {l : List (Option ℕ × ℤ)} :
    (l = l.filter fun scan => scan.1 ≠ some w) ↔ ∀ scan ∈ l, scan.1 ≠ some w := by
  rw [eq_comm, List.filter_eq_self]
  simp only [ne_eq, decide_not, Bool.not_eq_eq_eq_not, Bool.not_true, decide_eq_false_iff_not]

/-- To end the innermost scan is to end the one of `w`. -/
theorem outer_eq_filter_iff {l : List (Option ℕ × ℤ)} {last : Option ℕ × ℤ} :
    (l = (l ++ [last]).filter fun scan => scan.1 ≠ some w) ↔
      last.1 = some w ∧ ∀ scan ∈ l, scan.1 ≠ some w := by
  constructor
  · intro h
    have hfree : ∀ scan ∈ l, scan.1 ≠ some w := by
      intro scan hscan
      rw [h] at hscan
      simpa using (List.mem_filter.mp hscan).2
    refine ⟨?_, hfree⟩
    by_contra hother
    rw [List.filter_append, ← filter_eq_self_iff.mpr hfree, List.filter_singleton] at h
    simp [hother] at h
  · rintro ⟨hlast, hfree⟩
    rw [List.filter_append, ← filter_eq_self_iff.mpr hfree, List.filter_singleton]
    simp [hlast]

/-- The destructor of a linked watch while a scan is active. -/
theorem destroy_linked (hlinked : s.linked w = true) (hscan : 0 ≤ s.list.currentScan) :
    (s.destroy w).active = s.outer ∧
      (s.destroy w).list =
        { s.list with currentScan := s.list.currentScan - 1, failed := false } ∧
      (s.destroy w).linked = (s.setList (s.watches s.list.currentScan) false).linked ∧
      (s.destroy w).errors = s.errors ∧
      (s.destroy w).undefined = (s.setList (s.watches s.list.currentScan) false).undefined := by
  have hcount : (s.list.currentScan - 1 + 1).toNat = s.list.currentScan.toNat := by omega
  unfold destroy scanDone SLList.scanDone
  rw [if_pos hlinked, if_neg (not_lt.mpr hscan), if_neg (not_lt.mpr hscan)]
  refine ⟨?_, rfl, rfl, errors_setList _ _ _, rfl⟩
  unfold active outer
  simp only [hcount, watches_setList]

/-- The destructor of a linked watch while no scan is active. -/
theorem destroy_errors (hlinked : s.linked w = true) (hscan : s.list.currentScan < 0) :
    (s.destroy w).errors = s.errors + 1 := by
  unfold destroy scanDone
  rw [if_pos hlinked, if_pos hscan]

theorem destroy_unlinked (hlinked : s.linked w = false) :
    s.destroy w = { s with alive := Function.update s.alive w false } := by
  unfold destroy
  rw [hlinked, if_neg Bool.false_ne_true]

theorem destroy_unlinked_iff (hlinked : s.linked w = false) :
    EndsOwnScan s w (s.destroy w) ↔ ∀ scan ∈ s.active, scan.1 ≠ some w := by
  have hactive : (s.destroy w).active = s.active := by
    rw [destroy_unlinked hlinked]
    rfl
  rw [← filter_eq_self_iff]
  constructor
  · intro h
    exact hactive.symm.trans h.active
  · intro h
    rw [destroy_unlinked hlinked] at hactive ⊢
    exact ⟨hactive.trans h, ⟨rfl, rfl⟩, fun _ => ⟨rfl, rfl⟩, fun _ _ => rfl, rfl, rfl⟩

theorem destroy_linked_iff (halive : s.alive w = true) (hlinked : s.linked w = true)
    (hscan : 0 ≤ s.list.currentScan) :
    EndsOwnScan s w (s.destroy w) ↔
      s.watches s.list.currentScan = some w ∧ ∀ scan ∈ s.outer, scan.1 ≠ some w := by
  obtain ⟨hactive, hlist, hlinks, herrors, hundefined⟩ := destroy_linked hlinked hscan
  have hends : s.outer = s.active.filter (fun scan => scan.1 ≠ some w) ↔
      s.watches s.list.currentScan = some w ∧ ∀ scan ∈ s.outer, scan.1 ≠ some w := by
    rw [active_eq_outer hscan]
    exact outer_eq_filter_iff
  constructor
  · intro h
    exact hends.mp (hactive.symm.trans h.active)
  · rintro ⟨hown, hfree⟩
    rw [hown] at hlinks hundefined
    refine ⟨hactive.trans (hends.mpr ⟨hown, hfree⟩), ?_, ?_, ?_, herrors, ?_⟩
    · rw [hlist]
      exact ⟨rfl, rfl⟩
    · intro hidle
      rw [active_eq_outer hscan] at hidle
      exact absurd hown (hidle _ (List.mem_append_right _ (List.mem_singleton_self _)))
    · intro v hv
      rw [hlinks]
      exact Function.update_of_ne hv _ _
    · rw [hundefined, setList, halive]
      exact Bool.or_false _

/-- The innermost scan is the only one that was started with `w`. -/
theorem exists_outer_iff (hscan : 0 ≤ s.list.currentScan) :
    (∃ outer c, s.active = outer ++ [(some w, c)] ∧ ∀ scan ∈ outer, scan.1 ≠ some w) ↔
      s.watches s.list.currentScan = some w ∧ ∀ scan ∈ s.outer, scan.1 ≠ some w := by
  constructor
  · rintro ⟨outer, c, houter, hfree⟩
    rw [active_eq_outer hscan] at houter
    obtain ⟨rfl, hlast⟩ := List.append_inj' houter rfl
    exact ⟨congrArg Prod.fst (List.singleton_inj.mp hlast), hfree⟩
  · rintro ⟨hown, hfree⟩
    exact ⟨s.outer, _, hown ▸ active_eq_outer hscan, hfree⟩

/-- When the destruction of a watch does what it must do. -/
theorem destroy_iff (halive : s.alive w = true) :
    EndsOwnScan s w (s.destroy w) ↔ LinkedToInnermost s w := by
  unfold LinkedToInnermost
  cases hlinked : s.linked w with
  | false =>
    simp only [Bool.false_eq_true, false_and, false_or, true_and]
    exact destroy_unlinked_iff hlinked
  | true =>
    simp only [Bool.true_eq_false, false_and, or_false, true_and]
    by_cases hscan : 0 ≤ s.list.currentScan
    · exact (destroy_linked_iff halive hlinked hscan).trans (exists_outer_iff hscan).symm
    · apply iff_of_false
      · intro h
        have herrors := h.errors
        rw [destroy_errors hlinked (not_le.mp hscan)] at herrors
        omega
      · rintro ⟨outer, c, houter, -⟩
        exact hscan (nonneg_of_active houter)

end WatchedList

/-- Along every run, every destruction of a watch does what it must do if and only if the watch is
linked to the innermost scan as its only one, or has no scan and is not linked. -/
theorem watches_end_own_scans_iff (items : ℤ → T) (watches : ℤ → Option ℕ)
    (ops : List (WatchedOperation T)) :
    EachStep watchedStep (fun s op t => ∀ w, op = .destroy w → EndsOwnScan s w t)
        (.initial items watches) ops ↔
      EachStep watchedStep (fun s op _ => ∀ w, op = .destroy w → LinkedToInnermost s w)
        (.initial items watches) ops := by
  apply eachStep_congr
  intro s op t hstep
  refine forall_congr' fun w => imp_congr_right ?_
  rintro rfl
  simp only [watchedStep] at hstep
  split_ifs at hstep with halive
  obtain rfl := Option.some.inj hstep
  exact WatchedList.destroy_iff halive

/-- `clear` leaves the watch linked, so that its destructor reports an error or ends a scan that was
started since; and the destructor of an outer watch ends the inner scan. -/
theorem not_watches_end_own_scans :
    let start : WatchedList ℕ := .initial (fun _ => 0) fun _ => none
    (∃ s, run watchedStep start [.initScan (some 0), .clear] = some s ∧ s.active = [] ∧
      (s.destroy 0).errors = 1) ∧
    (∃ s, run watchedStep start [.initScan (some 0), .clear, .initScan none] = some s ∧
      s.active = [(none, 0)] ∧ (s.destroy 0).active = []) ∧
    ∃ s, run watchedStep start [.initScan (some 0), .initScan (some 1)] = some s ∧
      s.active = [(some 0, 0), (some 1, 0)] ∧ (s.destroy 0).active = [(some 0, 0)] :=
  ⟨⟨_, rfl, by decide, by decide⟩, ⟨_, rfl, by decide, by decide⟩, _, rfl, by decide, by decide⟩

end Lists
