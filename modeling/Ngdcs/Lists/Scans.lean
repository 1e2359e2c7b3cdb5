import Ngdcs.Lists.Refinement

/-! Runs of the list beside the list with cursors: contents, scan points and what the scans
return. -/
namespace Lists

open Cursors Runs

variable {T : Type*}

/-- The list of the code and the list with cursors that it stands for. -/
structure Paired (T : Type*) where
  code : SLList T
  spec : CursorList T

def start (items : ℤ → T) : Paired T := ⟨.initial items, .empty⟩

/-- Both lists get the operation; neither looks at the other. -/
def stepBoth (s : Paired T) (op : Operation T) : Option (Paired T) :=
  (perform s.code op).map fun r => ⟨r.2, (specify s.spec op).2⟩

/-- No active cursor is just before the last item when `remove_last` is called. -/
def RemoveLastSafe (s : SLList T) : Operation T → Prop
  | .removeLast => ∀ i < (s.currentScan + 1).toNat, s.scanPts i ≠ s.currentItems - 1
  | _ => True

instance (s : SLList T) (op : Operation T) : Decidable (RemoveLastSafe s op) := by
  cases op <;> unfold RemoveLastSafe <;> infer_instance

/-- What an operation that took `s` to `t` must have done: its result and the contents are
those of the list with cursors, every active scan point is in the list, and a scan without
`previous` that `next` ends has returned each item that stayed in the list once, in order. -/
structure Correct (s : Paired T) (op : Operation T) (t : Paired T) : Prop where
  result : (perform s.code op).map Prod.fst = some (specify s.spec op).1
  contents : t.code.contents = t.spec.values
  cursors : ∀ i : ℕ, i ≤ t.code.currentScan →
    0 ≤ t.code.scanPts i ∧ t.code.scanPts i ≤ t.code.currentItems
  scans : op = .next → (s.code.next).1 = none → ∀ sc ∈ s.spec.scans.head?,
    sc.backedUp = false → sc.Complete s.spec.idents

variable {s t : Paired T} {l : CursorList T}

/-! ### The abstract operations keep the list in order -/

theorem wellFormed_removeEntry (h : WellFormed l) (k : ℕ) : WellFormed (removeEntry l k).2 := by
  unfold removeEntry
  cases hget : l.values[k]? with
  | none => exact h
  | some v =>
    obtain ⟨hk, -⟩ := List.getElem?_eq_some_iff.mp hget
    exact h.eraseAt (by simpa [CursorList.values] using hk)

theorem wellFormed_placeEntry (h : WellFormed l) (p : T) (func : T → T → ℤ) :
    WellFormed (placeEntry l p func) := by
  have hk : l.values.findIdx (fun orig => func orig p ≠ 0) ≤ l.entries.length := by
    rw [← List.length_map (f := Entry.value)]
    exact List.findIdx_le_length
  unfold placeEntry
  cases hget : l.values[l.values.findIdx fun orig => func orig p ≠ 0]? with
  | none =>
    simp only [hget]
    exact h.insertAt hk p
  | some orig =>
    obtain ⟨hlt, -⟩ := List.getElem?_eq_some_iff.mp hget
    simp only [hget]
    split_ifs
    · exact h.replaceAt (by simpa [CursorList.values] using hlt) p
    · exact h.insertAt hk p

theorem WellFormed.cursor (h : WellFormed l) {sc : Scan} (hsc : sc ∈ l.scans) :
    sc.cursor ≤ l.entries.length := by
  simpa [CursorList.idents] using (h.scans sc hsc).cursor

theorem wellFormed_specify (h : WellFormed l) (op : Operation T) :
    WellFormed (specify l op).2 := by
  cases op with
  | add p => exact h.insertAt le_rfl p
  | insert p => exact h.insertAt (Nat.zero_le _) p
  | insertPlaced p func => exact wellFormed_placeEntry h p func
  | insertBeforeCurrent p =>
    unfold specify
    cases hscans : l.scans with
    | nil => exact h
    | cons sc outer =>
      have hle : sc.cursor ≤ l.entries.length := WellFormed.cursor h (by simp [hscans])
      simp only
      split_ifs
      · exact h
      · exact h.insertAt (by omega) p
  | removeFirst => exact wellFormed_removeEntry h 0
  | removeFirstMatching func => exact wellFormed_removeEntry h _
  | removeLast => exact wellFormed_removeEntry h _
  | removeCurrent | removePrevious =>
    unfold specify
    cases hscans : l.scans with
    | nil => exact h
    | cons sc outer =>
      simp only
      split_ifs
      · exact h
      · exact wellFormed_removeEntry h _
  | initScan =>
    unfold specify
    split_ifs
    · exact h.beginScan
    · exact h
  | next => exact h.next
  | previous => exact h.previous
  | scanDone =>
    unfold specify
    cases l.scans with
    | nil => exact h
    | cons sc outer => exact h.endScan

/-! ### One step -/

/-- What holds between the operations. -/
structure InStep (s : Paired T) : Prop where
  refines : Refines s.code s.spec
  wellFormed : WellFormed s.spec

theorem inStep_start (items : ℤ → T) : InStep (start items) :=
  ⟨⟨rfl, rfl, rfl, Nat.zero_le _, Nat.zero_le _, Nat.succ_pos _⟩, wellFormed_empty⟩

theorem exists_of_mem_cursorsOf {scanPts : ℤ → ℤ} {n : ℕ} {c : ℤ}
    (h : c ∈ cursorsOf scanPts n) : ∃ j < n, scanPts j = c := by
  induction n with
  | zero => cases h
  | succ n ih =>
    rcases List.mem_cons.mp h with rfl | h
    · exact ⟨n, Nat.lt_succ_self n, rfl⟩
    · obtain ⟨j, hj, hc⟩ := ih h
      exact ⟨j, Nat.lt_succ_of_lt hj, hc⟩

theorem mem_cursorsOf (scanPts : ℤ → ℤ) {n j : ℕ} (hj : j < n) :
    scanPts j ∈ cursorsOf scanPts n := by
  induction n with
  | zero => cases hj
  | succ n ih =>
    rcases Nat.lt_succ_iff_lt_or_eq.mp hj with hj | rfl
    · exact List.mem_cons_of_mem _ (ih hj)
    · exact List.mem_cons_self

theorem RemoveLastSafe.cursors (hs : RemoveLastSafe s.code .removeLast) (h : InStep s) :
    ∀ sc ∈ s.spec.scans, (sc.cursor : ℤ) ≠ s.code.currentItems - 1 := by
  intro sc hsc
  have hcount := h.refines.scans
  have hmem : (sc.cursor : ℤ) ∈ cursorsOf s.code.scanPts s.spec.scans.length := by
    rw [h.refines.cursors]
    exact List.mem_map_of_mem hsc
  obtain ⟨j, hj, hpt⟩ := exists_of_mem_cursorsOf hmem
  exact hpt ▸ hs j (by omega)

theorem perform_refines (h : InStep s) {op : Operation T} (hsafe : RemoveLastSafe s.code op)
    {r : Result T × SLList T} (hr : perform s.code op = some r) :
    r.1 = (specify s.spec op).1 ∧ Refines r.2 (specify s.spec op).2 := by
  have hcursor : ∀ sc ∈ s.spec.scans, sc.cursor ≤ s.spec.entries.length :=
    fun sc => WellFormed.cursor h.wellFormed
  have hitem {a b : Option T} (hab : a = b) : Result.item a = .item b := congrArg _ hab
  cases op with
  | add p =>
    cases hr
    exact ⟨rfl, h.refines.add hcursor p⟩
  | insert p =>
    cases hr
    exact ⟨rfl, h.refines.insertAt p (Nat.zero_le _) fun count => evaluates_const _ count _⟩
  | insertPlaced p func =>
    cases hr
    obtain ⟨hresult, hrefines⟩ := h.refines.insertPlaced p func
    exact ⟨(hitem hresult).symm, hrefines⟩
  | insertBeforeCurrent p =>
    cases hr
    exact h.refines.insertBeforeCurrent hcursor p
  | removeFirst =>
    cases hr
    exact h.refines.removeFirst.imp_left hitem
  | removeFirstMatching func =>
    cases hr
    exact (h.refines.removeFirstMatching func).imp_left hitem
  | removeLast =>
    cases hr
    exact (h.refines.removeLast (hsafe.cursors h)).imp_left hitem
  | removeCurrent =>
    cases hr
    exact h.refines.removeCurrent
  | removePrevious =>
    cases hr
    exact h.refines.removePrevious
  | initScan =>
    cases hr
    exact h.refines.initScan
  | next =>
    simp only [perform] at hr
    split_ifs at hr with hnone
    obtain rfl := Option.some.inj hr
    cases hscans : s.spec.scans with
    | nil => exact absurd (h.refines.noScan hscans ▸ hnone) (by omega)
    | cons sc outer =>
      exact (h.refines.next hscans (hcursor sc (by simp [hscans]))).imp_left hitem
  | previous =>
    simp only [perform] at hr
    split_ifs at hr with hnone
    obtain rfl := Option.some.inj hr
    cases hscans : s.spec.scans with
    | nil => exact absurd (h.refines.noScan hscans ▸ hnone) (by omega)
    | cons sc outer =>
      exact (h.refines.previous hscans (hcursor sc (by simp [hscans]))).imp_left hitem
  | scanDone =>
    cases hr
    exact h.refines.scanDone

theorem InStep.step (h : InStep s) {op : Operation T} (hsafe : RemoveLastSafe s.code op)
    (hstep : stepBoth s op = some t) : InStep t := by
  obtain ⟨r, hr, rfl⟩ := Option.map_eq_some_iff.mp hstep
  exact ⟨(perform_refines h hsafe hr).2, wellFormed_specify h.wellFormed op⟩

theorem InStep.cursors (h : InStep s) (i : ℕ) (hi : i ≤ s.code.currentScan) :
    0 ≤ s.code.scanPts i ∧ s.code.scanPts i ≤ s.code.currentItems := by
  have hcount := h.refines.scans
  have hmem := mem_cursorsOf s.code.scanPts (j := i) (n := s.spec.scans.length) (by omega)
  rw [h.refines.cursors] at hmem
  obtain ⟨sc, hsc, hpt⟩ := List.mem_map.mp hmem
  have hle := WellFormed.cursor h.wellFormed hsc
  rw [h.refines.length] at hle
  omega

/-- A scan that `next` ends is at the end of the list. -/
theorem InStep.complete (h : InStep s) (hactive : ¬s.code.currentScan < 0)
    (hend : s.code.next.1 = none) :
    ∀ sc ∈ s.spec.scans.head?, sc.backedUp = false → sc.Complete s.spec.idents := by
  intro sc hhead hforth
  cases hscans : s.spec.scans with
  | nil => exact absurd (h.refines.noScan hscans ▸ hactive) (by omega)
  | cons sc' outer =>
    have hsc' : sc' ∈ s.spec.scans := by simp [hscans]
    rw [hscans, List.head?_cons, Option.mem_some_iff] at hhead
    subst hhead
    have hnext := (h.refines.next hscans (WellFormed.cursor h.wellFormed hsc')).1
    apply h.wellFormed.complete hsc' hforth
    rw [hend, CursorList.next, hscans] at hnext
    cases hget : s.spec.entries[sc'.cursor]? with
    | none => rfl
    | some e => simp [hget] at hnext

theorem InStep.correct (h : InStep s) {op : Operation T} (hsafe : RemoveLastSafe s.code op)
    (hstep : stepBoth s op = some t) : Correct s op t := by
  have ht := h.step hsafe hstep
  obtain ⟨r, hr, rfl⟩ := Option.map_eq_some_iff.mp hstep
  refine ⟨?_, ht.refines.contents, ht.cursors, ?_⟩
  · rw [hr, Option.map_some, (perform_refines h hsafe hr).1]
  · rintro rfl hend
    refine h.complete (fun hnone => ?_) hend
    simp [perform, hnone] at hr

/-! ### Runs -/

/-- Whatever is done to the list, as long as `remove_last` meets no cursor just before the last
item, it behaves as the list with cursors. -/
theorem slList_correct (items : ℤ → T) (ops : List (Operation T))
    (hsafe : EachStep stepBoth (fun s op _ => RemoveLastSafe s.code op) (start items) ops) :
    EachStep stepBoth Correct (start items) ops :=
  EachStep.of_invariant (fun _ _ _ h hsafe hstep => h.step hsafe hstep)
    (fun _ _ _ h hsafe hstep => h.correct hsafe hstep) (inStep_start items) hsafe

/-- An inner scan removes items while the outer one is suspended. -/
theorem slList_correct_nested : EachStep stepBoth Correct (start fun _ => (0 : ℕ))
    [.add 1, .add 2, .add 3, .initScan, .next, .initScan, .next, .removeCurrent, .removeLast,
      .next, .next, .next, .next] :=
  slList_correct _ _ (by decide)

/-- With two items and the cursor between them, `remove_last` moves the cursor back, and `next`
returns the first item again; with one item the scan point becomes -1. -/
theorem remove_last_moves_cursor :
    (∃ s, run stepBoth (start fun _ => (0 : ℕ)) [.add 1, .add 2, .initScan, .next, .removeLast] =
      some s ∧ s.code.next.1 = some 1 ∧ s.spec.next.1 = none) ∧
    ∃ s, run stepBoth (start fun _ => (0 : ℕ)) [.add 1, .initScan, .removeLast] = some s ∧
      s.code.scanPts 0 = -1 ∧ s.code.currentScan = 0 :=
  ⟨⟨_, rfl, by decide, by decide⟩, _, rfl, by decide, by decide⟩

end Lists
