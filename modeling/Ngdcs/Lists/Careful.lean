import Ngdcs.Lists.Watches

/-! Watches that are used with care: every destructor ends the right scan. -/
namespace Lists

open Runs

variable {T : Type*}

/-- A watch has one scan at a time, `clear` is not called while a scan with a watch is active, and a
watch is not destroyed while its scan is active outside of another one. -/
def Careful (s : WatchedList T) : WatchedOperation T → Prop
  | .initScan (some w) => ∀ scan ∈ s.active, scan.1 ≠ some w
  | .clear => ∀ scan ∈ s.active, scan.1 = none
  | .destroy w => ∀ scan ∈ s.outer, scan.1 ≠ some w
  | _ => True

namespace SLList

variable (s : SLList T)

@[simp] theorem currentScan_prepareToExpand : s.prepareToExpand.currentScan = s.currentScan := by
  unfold prepareToExpand
  split_ifs <;> rfl

@[simp] theorem currentScan_adjustScanPts (index : SLList T → ℤ) (d : ℤ) :
    (s.adjustScanPts index d).currentScan = s.currentScan := by
  unfold adjustScanPts
  induction (List.range (s.currentScan + 1).toNat) generalizing s with
  | nil => rfl
  | cons i l ih =>
    rw [List.foldl_cons, ih]
    unfold adjustScanPt
    split_ifs <;> rfl

@[simp] theorem currentScan_insertAt (p : T) (index : SLList T → ℤ) :
    (s.insertAt p index).currentScan = s.currentScan := by
  simp [insertAt]

@[simp] theorem currentScan_removeAt (index : SLList T → ℤ) :
    (s.removeAt index).2.currentScan = s.currentScan := by
  unfold removeAt
  split_ifs
  · rfl
  · simp

@[simp] theorem currentScan_skip (func : T → Bool) : (s.skip func).currentScan = s.currentScan := by
  unfold skip
  induction (s.currentItems - s.scanPts s.currentScan).toNat generalizing s with
  | zero => rfl
  | succ n ih =>
    rw [skipLoop]
    split_ifs
    · rw [ih]
    · rfl

end SLList

/-- What starts no scan and ends none. -/
def Operation.edits : Operation T → Bool
  | .initScan => false
  | .next => false
  | .scanDone => false
  | _ => true

theorem currentScan_perform {s : SLList T} {op : Operation T} (hop : op.edits = true)
    {r : Result T × SLList T} (h : perform s op = some r) : r.2.currentScan = s.currentScan := by
  cases op with
  | add p =>
    cases h
    simp [SLList.add, SLList.addToList, Result.ofItem]
  | insert p =>
    cases h
    simp [SLList.insert, Result.ofItem]
  | insertPlaced p func =>
    cases h
    simp only [SLList.insertPlaced, Result.ofItem]
    split_ifs <;> simp
  | insertBeforeCurrent p =>
    cases h
    simp only [SLList.insertBeforeCurrent, Result.ofItem]
    split_ifs <;> simp
  | removeFirst =>
    cases h
    simp only [SLList.removeFirst, Result.ofItem]
    split_ifs <;> simp
  | removeFirstMatching func =>
    cases h
    simp only [SLList.removeFirstMatching, Result.ofItem]
    split_ifs <;> simp
  | removeLast =>
    cases h
    simp only [SLList.removeLast, Result.ofItem]
    split_ifs <;> simp
  | removeCurrent =>
    cases h
    simp only [SLList.removeCurrent, Result.ofItem]
    split_ifs <;> simp
  | removePrevious =>
    cases h
    simp only [SLList.removePrevious, Result.ofItem]
    split_ifs <;> simp
  | previous =>
    simp only [perform] at h
    split_ifs at h
    cases h
    simp only [SLList.previous, Result.ofItem]
    split_ifs <;> rfl
  | initScan | next | scanDone => cases hop

namespace WatchedList

/-- The watches that the active scans were started with, from the outermost on. -/
def started (s : WatchedList T) : List (Option ℕ) :=
  (List.range (s.list.currentScan + 1).toNat).map fun i : ℕ => s.watches i

/-- Every watch that exists is linked if and only if it has a scan, and has no more than one. -/
structure Tidy (s : WatchedList T) : Prop where
  scan : -1 ≤ s.list.currentScan
  linked : ∀ w, s.alive w = true → (s.linked w = true ↔ some w ∈ s.started)
  alive : ∀ w, some w ∈ s.started → s.alive w = true
  distinct : (s.started.filterMap id).Nodup

variable {s t : WatchedList T} {w : ℕ}

theorem mem_started : some w ∈ s.started ↔ ∃ scan ∈ s.active, scan.1 = some w := by
  simp only [started, active, List.mem_map, exists_exists_and_eq_and]

theorem tidy_initial (items : ℤ → T) (watches : ℤ → Option ℕ) :
    (initial items watches).Tidy := by
  have hstarted : (initial items watches).started = [] := rfl
  refine ⟨le_rfl, ?_, ?_, ?_⟩
  · intro w halive
    rw [hstarted]
    exact iff_of_false Bool.false_ne_true List.not_mem_nil
  · intro w hw
    rw [hstarted] at hw
    cases hw
  · rw [hstarted]
    exact List.nodup_nil

theorem Tidy.keep (h : s.Tidy) (hscan : t.list.currentScan = s.list.currentScan)
    (hwatches : t.watches = s.watches) (hlinked : t.linked = s.linked) (halive : t.alive = s.alive) :
    t.Tidy := by
  have hstarted : t.started = s.started := by
    rw [started, hscan, hwatches, started]
  constructor
  · exact hscan ▸ h.scan
  · rw [hstarted, hlinked, halive]
    exact h.linked
  · rw [hstarted, halive]
    exact h.alive
  · rw [hstarted]
    exact h.distinct

theorem started_push (hscan : -1 ≤ s.list.currentScan) {watch : Option ℕ}
    (hnext : t.list.currentScan = s.list.currentScan + 1)
    (hwatches : t.watches = Function.update s.watches (s.list.currentScan + 1) watch) :
    t.started = s.started ++ [watch] := by
  have hcount : (s.list.currentScan + 1 + 1).toNat = (s.list.currentScan + 1).toNat + 1 := by omega
  have hlast : (((s.list.currentScan + 1).toNat : ℕ) : ℤ) = s.list.currentScan + 1 := by omega
  unfold started
  rw [hnext, hcount, hwatches, List.range_succ, List.map_append, List.map_singleton, hlast,
    Function.update_self]
  congr 1
  apply List.map_congr_left
  intro i hi
  rw [List.mem_range] at hi
  exact Function.update_of_ne (by omega) _ _

theorem Tidy.push (h : s.Tidy) {watch : Option ℕ}
    (hnext : t.list.currentScan = s.list.currentScan + 1)
    (hwatches : t.watches = Function.update s.watches (s.list.currentScan + 1) watch)
    (hlinked : t.linked = (s.setList watch true).linked) (halive : t.alive = s.alive)
    (hlives : ∀ w, watch = some w → s.alive w = true ∧ some w ∉ s.started) : t.Tidy := by
  have hstarted := started_push h.scan hnext hwatches
  have hscan := h.scan
  constructor
  · omega
  · intro v hv
    rw [hstarted, List.mem_append, List.mem_singleton, hlinked]
    rw [halive] at hv
    cases watch with
    | none => simpa [setList] using h.linked v hv
    | some w =>
      by_cases hvw : v = w
      · simp [setList, hvw]
      · simpa [setList, hvw] using h.linked v hv
  · intro v hv
    rw [hstarted, List.mem_append, List.mem_singleton] at hv
    rw [halive]
    rcases hv with hv | hv
    · exact h.alive v hv
    · exact (hlives v hv.symm).1
  · rw [hstarted, List.filterMap_append]
    cases watch with
    | none => simpa using h.distinct
    | some w =>
      have hnew := (hlives w rfl).2
      simp only [List.filterMap_cons, id_eq, List.filterMap_nil]
      rw [← List.concat_eq_append, List.nodup_concat]
      refine ⟨?_, h.distinct⟩
      intro hw
      obtain ⟨watch, hmem, rfl⟩ := List.mem_filterMap.mp hw
      exact hnew hmem

theorem started_pop (hscan : 0 ≤ s.list.currentScan)
    (hprevious : t.list.currentScan = s.list.currentScan - 1) (hwatches : t.watches = s.watches) :
    s.started = t.started ++ [s.watches s.list.currentScan] := by
  have hcount : (s.list.currentScan + 1).toNat = (s.list.currentScan - 1 + 1).toNat + 1 := by omega
  have hlast : (((s.list.currentScan - 1 + 1).toNat : ℕ) : ℤ) = s.list.currentScan := by omega
  unfold started
  rw [hcount, hprevious, hwatches, List.range_succ, List.map_append, List.map_singleton, hlast]

theorem Tidy.pop (h : s.Tidy) (hscan : 0 ≤ s.list.currentScan)
    (hprevious : t.list.currentScan = s.list.currentScan - 1) (hwatches : t.watches = s.watches)
    (hlinked : t.linked = (s.setList (s.watches s.list.currentScan) false).linked)
    (halive : t.alive = s.alive) : t.Tidy := by
  have hstarted := started_pop hscan hprevious hwatches
  have hdistinct := h.distinct
  rw [hstarted, List.filterMap_append, List.nodup_append] at hdistinct
  constructor
  · omega
  · intro v hv
    rw [halive] at hv
    have hbefore := h.linked v hv
    rw [hstarted, List.mem_append, List.mem_singleton] at hbefore
    rw [hlinked]
    cases hlast : s.watches s.list.currentScan with
    | none => simpa [setList, hlast] using hbefore
    | some w =>
      rw [hlast] at hbefore hdistinct
      by_cases hvw : v = w
      · subst hvw
        refine iff_of_false (by simp [setList]) fun hmem => ?_
        exact hdistinct.2.2 v (List.mem_filterMap.mpr ⟨some v, hmem, rfl⟩) v (by simp) rfl
      · simpa [setList, hvw] using hbefore
  · intro v hv
    rw [halive]
    exact h.alive v (hstarted ▸ List.mem_append_left _ hv)
  · exact hdistinct.1

theorem Tidy.clear (h : s.Tidy) (hnone : ∀ scan ∈ s.active, scan.1 = none) : s.clear.Tidy := by
  have hstarted : s.clear.started = [] := rfl
  refine ⟨le_rfl, ?_, ?_, ?_⟩
  · intro w halive
    rw [hstarted]
    refine iff_of_false (fun hlinked => ?_) List.not_mem_nil
    obtain ⟨scan, hscan, hw⟩ := mem_started.mp ((h.linked w halive).mp hlinked)
    rw [hnone scan hscan] at hw
    cases hw
  · intro w hw
    rw [hstarted] at hw
    cases hw
  · rw [hstarted]
    exact List.nodup_nil

/-- A watch without a scan is destroyed. -/
theorem Tidy.kill (h : s.Tidy) (hw : some w ∉ s.started) :
    Tidy { s with alive := Function.update s.alive w false } := by
  refine ⟨h.scan, ?_, ?_, h.distinct⟩
  · intro v hv
    by_cases hvw : v = w
    · simp [hvw] at hv
    · exact h.linked v ((Function.update_of_ne hvw _ _).symm.trans hv)
  · intro v hv
    have hvw : v ≠ w := by
      rintro rfl
      exact hw hv
    exact (Function.update_of_ne hvw _ _).trans (h.alive v hv)

/-! ### One step -/

theorem Tidy.initScan (h : s.Tidy) {watch : Option ℕ}
    (hlives : ∀ w, watch = some w → s.alive w = true ∧ some w ∉ s.started) :
    (s.initScan watch).2.Tidy := by
  unfold WatchedList.initScan SLList.initScan
  by_cases hfull : maxScanPts ≤ s.list.currentScan + 1
  · rw [if_pos hfull, if_pos hfull]
    exact h.keep rfl rfl rfl rfl
  · rw [if_neg hfull, if_neg hfull]
    apply h.push _ _ _ _ hlives
    · exact congrArg SLList.currentScan (list_setList _ _ _)
    · exact watches_setList _ _ _
    · cases watch <;> rfl
    · exact alive_setList _ _ _

theorem Tidy.next (h : s.Tidy) (hscan : 0 ≤ s.list.currentScan) : s.next.2.Tidy := by
  unfold WatchedList.next SLList.next
  by_cases hend : s.list.scanPts s.list.currentScan = s.list.currentItems
  · rw [if_pos hend, if_pos hend]
    exact h.pop hscan rfl (watches_setList _ _ _) rfl (alive_setList _ _ _)
  · rw [if_neg hend, if_neg hend]
    exact h.keep rfl rfl rfl rfl

theorem Tidy.nextMatching (h : s.Tidy) (hscan : 0 ≤ s.list.currentScan) (func : T → Bool) :
    (s.nextMatching func).2.Tidy := by
  have hsame := SLList.currentScan_skip s.list func
  have hskip : Tidy { s with list := s.list.skip func } := h.keep hsame rfl rfl rfl
  exact hskip.next (hsame.symm ▸ hscan)

theorem Tidy.scanDone (h : s.Tidy) : s.scanDone.2.Tidy := by
  unfold WatchedList.scanDone SLList.scanDone
  by_cases hscan : s.list.currentScan < 0
  · rw [if_pos hscan, if_pos hscan]
    exact h.keep rfl rfl rfl rfl
  · rw [if_neg hscan, if_neg hscan]
    exact h.pop (not_lt.mp hscan) rfl (watches_setList _ _ _) rfl (alive_setList _ _ _)

/-- A watch that has a scan is linked to the innermost one, if it is not destroyed too early. -/
theorem Tidy.linkedToInnermost (h : s.Tidy) (halive : s.alive w = true)
    (hcareful : Careful s (.destroy w)) : LinkedToInnermost s w := by
  have hlinked := (h.linked w halive).trans mem_started
  by_cases hactive : ∃ scan ∈ s.active, scan.1 = some w
  · obtain ⟨scan, hscan, hw⟩ := hactive
    refine Or.inl ⟨hlinked.mpr ⟨scan, hscan, hw⟩, ?_⟩
    by_cases hnone : s.list.currentScan < 0
    · rw [active_eq_nil hnone] at hscan
      cases hscan
    · rw [active_eq_outer (not_lt.mp hnone), List.mem_append, List.mem_singleton] at hscan
      rcases hscan with hscan | rfl
      · exact absurd hw (hcareful scan hscan)
      · exact (exists_outer_iff (not_lt.mp hnone)).mpr ⟨hw, hcareful⟩
  · refine Or.inr ⟨?_, fun scan hscan hw => hactive ⟨scan, hscan, hw⟩⟩
    simpa using hlinked.not.mpr hactive

theorem Tidy.destroy (h : s.Tidy) (halive : s.alive w = true)
    (hcareful : Careful s (.destroy w)) : (s.destroy w).Tidy := by
  have hown := h.linkedToInnermost halive hcareful
  unfold WatchedList.destroy
  cases hlinked : s.linked w with
  | false =>
    rw [if_neg Bool.false_ne_true]
    exact h.kill ((h.linked w halive).not.mp (by simp [hlinked]))
  | true =>
    rw [if_pos rfl]
    apply h.scanDone.kill
    obtain ⟨-, hinnermost⟩ | ⟨hfalse, -⟩ := hown
    · have hscan : 0 ≤ s.list.currentScan := by
        obtain ⟨outer, c, houter, -⟩ := hinnermost
        exact nonneg_of_active houter
      have hlast := ((exists_outer_iff hscan).mp hinnermost).1
      have hdone := h.scanDone.linked w
      unfold WatchedList.scanDone at hdone ⊢
      rw [if_neg (not_lt.mpr hscan), hlast] at hdone ⊢
      exact (hdone halive).not.mp (by simp [setList])
    · rw [hlinked] at hfalse
      cases hfalse

theorem Tidy.step (h : s.Tidy) {op : WatchedOperation T} (hcareful : Careful s op)
    (hstep : watchedStep s op = some t) : t.Tidy := by
  cases op with
  | plain op =>
    cases hop : op.edits with
    | true =>
      have hperform : (perform s.list op).map (fun r => { s with list := r.2 }) = some t := by
        cases op with
        | initScan | next | scanDone => cases hop
        | _ => exact hstep
      obtain ⟨r, hr, rfl⟩ := Option.map_eq_some_iff.mp hperform
      exact h.keep (currentScan_perform hop hr) rfl rfl rfl
    | false =>
      cases op with
      | initScan =>
        obtain rfl := Option.some.inj hstep
        exact h.initScan nofun
      | next =>
        simp only [watchedStep] at hstep
        split_ifs at hstep with hscan
        obtain rfl := Option.some.inj hstep
        exact h.next (not_lt.mp hscan)
      | scanDone =>
        obtain rfl := Option.some.inj hstep
        exact h.scanDone
      | _ => cases hop
  | initScan watch =>
    simp only [watchedStep] at hstep
    split_ifs at hstep with halive
    obtain rfl := Option.some.inj hstep
    apply h.initScan
    rintro w rfl
    refine ⟨by simpa using halive, fun hw => ?_⟩
    obtain ⟨scan, hscan, hw⟩ := mem_started.mp hw
    exact hcareful scan hscan hw
  | nextMatching func =>
    simp only [watchedStep] at hstep
    split_ifs at hstep with hscan
    obtain rfl := Option.some.inj hstep
    exact h.nextMatching (not_lt.mp hscan) func
  | clear =>
    obtain rfl := Option.some.inj hstep
    exact h.clear hcareful
  | destroy w =>
    simp only [watchedStep] at hstep
    split_ifs at hstep with halive
    obtain rfl := Option.some.inj hstep
    exact h.destroy halive hcareful

end WatchedList

/-- Along a run of careful calls every destruction of a watch does what it must do. -/
theorem careful_watches (items : ℤ → T) (watches : ℤ → Option ℕ) (ops : List (WatchedOperation T))
    (hcareful : EachStep watchedStep (fun s op _ => Careful s op) (.initial items watches) ops) :
    EachStep watchedStep (fun s op t => ∀ w, op = .destroy w → EndsOwnScan s w t)
      (.initial items watches) ops := by
  refine EachStep.of_invariant (fun s op t h hcareful hstep => h.step hcareful hstep) ?_
    (WatchedList.tidy_initial items watches) hcareful
  rintro s op t h hcareful hstep w rfl
  simp only [watchedStep] at hstep
  split_ifs at hstep with halive
  obtain rfl := Option.some.inj hstep
  exact (WatchedList.destroy_iff halive).mpr (h.linkedToInnermost halive hcareful)

end Lists
