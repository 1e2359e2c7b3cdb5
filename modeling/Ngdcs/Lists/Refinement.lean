import Mathlib.Tactic.SplitIfs
import Ngdcs.Lib.Cursors
import Ngdcs.Lib.Runs
import Ngdcs.Lists.Model

/-! `SL_List` against a list with cursors. The scan points are the cursors as long as no
`remove_last` meets a cursor just before the last item. -/
namespace Lists

open Cursors Runs

variable {T : Type*}

/-! ### The abstract operations -/

/-- The entry at position `k` is removed and its value returned. -/
def removeEntry (l : CursorList T) (k : ℕ) : Option T × CursorList T :=
  match l.values[k]? with
  | none => (none, l)
  | some v => (some v, l.eraseAt k)

/-- Placed by a function: in front of the first value for which it is not 0, or in the place of
that value if it is 2. -/
def placeEntry (l : CursorList T) (p : T) (func : T → T → ℤ) : CursorList T :=
  let k := l.values.findIdx fun orig => func orig p ≠ 0
  match l.values[k]? with
  | none => l.insertAt k p
  | some orig => if func orig p = 2 then l.replaceAt k p else l.insertAt k p

open Result in
/-- The operations as they are meant: the position of a scan is between two entries, and its
current entry is the one before. -/
def specify (l : CursorList T) : Operation T → Result T × CursorList T
  | .add p => (.item (some p), l.insertAt l.entries.length p)
  | .insert p => (.item (some p), l.insertAt 0 p)
  | .insertPlaced p func => (.item (some p), placeEntry l p func)
  | .insertBeforeCurrent p =>
    match l.scans with
    | [] => (.item none, l)
    | sc :: _ =>
      if sc.cursor = 0 then (.item none, l) else (.item (some p), l.insertAt (sc.cursor - 1) p)
  | .removeFirst => ofItem (removeEntry l 0)
  | .removeFirstMatching func => ofItem (removeEntry l (l.values.findIdx func))
  | .removeLast => ofItem (removeEntry l (l.entries.length - 1))
  | .removeCurrent =>
    match l.scans with
    | [] => (.item none, l)
    | sc :: _ =>
      if sc.cursor = 0 then (.item none, l) else ofItem (removeEntry l (sc.cursor - 1))
  | .removePrevious =>
    match l.scans with
    | [] => (.item none, l)
    | sc :: _ =>
      if sc.cursor < 2 then (.item none, l) else ofItem (removeEntry l (sc.cursor - 2))
  | .initScan => if l.scans.length < 4 then (.status 0, l.beginScan) else (.status (-1), l)
  | .next => ofItem l.next
  | .previous => ofItem l.previous
  | .scanDone =>
    match l.scans with
    | [] => (.status (-1), l)
    | _ :: _ => (.status 0, l.endScan)

/-! ### The arrays -/

theorem shiftUp_apply (items : ℤ → T) (i : ℤ) (count : ℕ) (j : ℤ) :
    shiftUp items i count j =
      if i - count + 2 ≤ j ∧ j ≤ i + 1 then items (j - 1) else items j := by
  induction count generalizing items i with
  | zero =>
    have hnone : ¬(i - (0 : ℕ) + 2 ≤ j ∧ j ≤ i + 1) := by omega
    rw [if_neg hnone, shiftUp]
  | succ count ih =>
    rw [shiftUp, ih]
    simp only [Function.update_apply]
    split_ifs <;> first | rfl | omega | (congr 1; omega)

theorem shiftDown_apply (items : ℤ → T) (i : ℤ) (count : ℕ) (j : ℤ) :
    shiftDown items i count j =
      if i - 1 ≤ j ∧ j + 1 < i + count then items (j + 1) else items j := by
  induction count generalizing items i with
  | zero =>
    have hnone : ¬(i - 1 ≤ j ∧ j + 1 < i + (0 : ℕ)) := by omega
    rw [if_neg hnone, shiftDown]
  | succ count ih =>
    rw [shiftDown, ih]
    simp only [Function.update_apply]
    split_ifs <;> first | rfl | omega | (congr 1; omega)

variable {s : SLList T} {l : CursorList T}

theorem contents_getElem? (s : SLList T) (j : ℕ) :
    s.contents[j]? = if j < s.currentItems then some (s.items j) else none := by
  unfold SLList.contents
  rw [List.getElem?_map]
  split_ifs with hj
  · rw [List.getElem?_range hj, Option.map_some]
  · rw [List.getElem?_eq_none (by simpa using hj), Option.map_none]

theorem length_contents (s : SLList T) : s.contents.length = s.currentItems := by
  simp [SLList.contents]

/-- The items after `INSERT` at position `k`. -/
theorem contents_insert {t : SLList T} {k : ℕ} {p : T} (hk : k ≤ s.currentItems)
    (hcount : t.currentItems = s.currentItems + 1)
    (hitems : t.items = Function.update
      (shiftUp s.items (s.currentItems - 1) (s.currentItems - (k : ℤ)).toNat) k p) :
    t.contents = s.contents.insertIdx k p := by
  apply List.ext_getElem?
  intro j
  rw [List.getElem?_insertIdx, length_contents, contents_getElem?, contents_getElem?,
    contents_getElem?, hcount, hitems]
  simp only [Function.update_apply, shiftUp_apply]
  split_ifs <;> first | rfl | omega | (congr 2; omega)

/-- The items after `REMOVE` at position `k`. -/
theorem contents_remove {t : SLList T} {k : ℕ} (hk : k < s.currentItems)
    (hcount : t.currentItems = s.currentItems - 1)
    (hitems : t.items = shiftDown s.items (k + 1) (s.currentItems - ((k : ℤ) + 1)).toNat) :
    t.contents = s.contents.eraseIdx k := by
  apply List.ext_getElem?
  intro j
  rw [List.getElem?_eraseIdx, contents_getElem?, contents_getElem?, contents_getElem?, hcount,
    hitems]
  simp only [shiftDown_apply]
  split_ifs <;> first | rfl | omega

/-! ### The scan points -/

/-- `index` has the value `k` in every list that has `count` items and the scan point of the
innermost scan of `s`. -/
def Evaluates (s : SLList T) (index : SLList T → ℤ) (count : ℕ) (k : ℤ) : Prop :=
  ∀ t : SLList T, t.currentItems = count → t.currentScan = s.currentScan →
    (∀ j, s.currentScan ≤ j → t.scanPts j = s.scanPts j) → index t = k

theorem evaluates_const (s : SLList T) (count : ℕ) (k : ℤ) :
    Evaluates s (fun _ => k) count k := fun _ _ _ _ => rfl

theorem evaluates_current (s : SLList T) (count : ℕ) (d : ℤ) :
    Evaluates s (fun s => s.scanPts s.currentScan - d) count (s.scanPts s.currentScan - d) := by
  intro t _ hscan hpts
  simp only [hscan, hpts _ le_rfl]

/-- The scan points after the loop over the first `n` scans. -/
def adjusted (scanPts : ℤ → ℤ) (k d : ℤ) (n : ℕ) (j : ℤ) : ℤ :=
  if 0 ≤ j ∧ j < n ∧ k ≤ scanPts j - 1 then scanPts j + d else scanPts j

/-- The index keeps its value during the loop, since the innermost scan comes last. -/
theorem foldl_adjustScanPt {index : SLList T → ℤ} {k : ℤ} (d : ℤ)
    (hindex : Evaluates s index s.currentItems k) {n : ℕ} (hn : (n : ℤ) ≤ s.currentScan + 1) :
    (List.range n).foldl (SLList.adjustScanPt index d) s =
      { s with scanPts := adjusted s.scanPts k d n } := by
  induction n with
  | zero =>
    have hsame : adjusted s.scanPts k d 0 = s.scanPts := by
      funext j
      exact if_neg (by omega)
    rw [List.range_zero, List.foldl_nil, hsame]
  | succ n ih =>
    rw [List.range_succ, List.foldl_append, ih (by omega), List.foldl_cons, List.foldl_nil]
    have hvalue : index { s with scanPts := adjusted s.scanPts k d n } = k :=
      hindex _ rfl rfl fun j hj => if_neg (by omega)
    have hnext : adjusted s.scanPts k d n n = s.scanPts n := if_neg (by omega)
    unfold SLList.adjustScanPt
    rw [hvalue]
    simp only [hnext]
    split_ifs with hk
    · congr 1
      funext j
      rw [Function.update_apply]
      rcases eq_or_ne j n with rfl | hj
      · rw [if_pos rfl]
        exact (if_pos (by omega)).symm
      · rw [if_neg hj]
        exact if_congr (by omega) rfl rfl
    · congr 1
      funext j
      rcases eq_or_ne j n with rfl | hj
      · rw [hnext]
        exact (if_neg (by omega)).symm
      · exact if_congr (by omega) rfl rfl

/-- The last loop, after the items have been moved. -/
theorem adjustScanPts_eq {index : SLList T → ℤ} {k : ℤ} {count : ℕ} (d : ℤ)
    (hindex : Evaluates s index count k) {n : ℕ} (hn : s.currentScan + 1 = n)
    (items : ℤ → T) (max : ℕ) :
    ({ s with items := items, currentItems := count, maxItems := max } : SLList T).adjustScanPts
        index d =
      { s with
        items := items, currentItems := count, maxItems := max
        scanPts := adjusted s.scanPts k d n } := by
  have hrange : (s.currentScan + 1).toNat = n := by omega
  rw [SLList.adjustScanPts, hrange]
  exact foldl_adjustScanPt d (fun t => hindex t) hn.ge

/-- The scan points of the first `n` scans, the innermost first. -/
def cursorsOf (scanPts : ℤ → ℤ) : ℕ → List ℤ
  | 0 => []
  | n + 1 => scanPts n :: cursorsOf scanPts n

theorem cursorsOf_map {f g : ℤ → ℤ} {F : ℤ → ℤ} {n : ℕ}
    (h : ∀ j : ℕ, j < n → f j = F (g j)) : cursorsOf f n = (cursorsOf g n).map F := by
  induction n with
  | zero => rfl
  | succ n ih =>
    rw [cursorsOf, cursorsOf, List.map_cons, h n (Nat.lt_succ_self n),
      ih fun j hj => h j (Nat.lt_succ_of_lt hj)]

theorem cursorsOf_congr {f g : ℤ → ℤ} {n : ℕ} (h : ∀ j : ℕ, j < n → f j = g j) :
    cursorsOf f n = cursorsOf g n :=
  (cursorsOf_map h).trans (List.map_id _)

theorem cursorsOf_adjusted (scanPts : ℤ → ℤ) (k d : ℤ) (n : ℕ) :
    cursorsOf (adjusted scanPts k d n) n =
      (cursorsOf scanPts n).map fun c => if k ≤ c - 1 then c + d else c :=
  cursorsOf_map fun j hj => if_congr (by omega) rfl rfl

/-! ### The refinement -/

/-- The array holds the values, and the scan points are the cursors. -/
structure Refines (s : SLList T) (l : CursorList T) : Prop where
  contents : s.contents = l.values
  scans : s.currentScan + 1 = l.scans.length
  cursors : cursorsOf s.scanPts l.scans.length = l.scans.map fun sc => (sc.cursor : ℤ)
  nested : l.scans.length ≤ 4
  capacity : s.currentItems ≤ s.maxItems
  room : 0 < s.maxItems

theorem Refines.length (h : Refines s l) : l.entries.length = s.currentItems := by
  rw [← length_contents, h.contents, CursorList.values, List.length_map]

/-- The scan point of the innermost scan is its cursor. -/
theorem Refines.innermost (h : Refines s l) {sc : Scan} {outer : List Scan}
    (hscans : l.scans = sc :: outer) : s.currentScan = outer.length ∧
      s.scanPts s.currentScan = sc.cursor ∧
      cursorsOf s.scanPts outer.length = outer.map fun sc => (sc.cursor : ℤ) := by
  have hcount := h.scans
  have hcursors := h.cursors
  rw [hscans, List.length_cons] at hcount hcursors
  have hcurrent : s.currentScan = outer.length := by omega
  rw [cursorsOf, List.map_cons, List.cons.injEq] at hcursors
  exact ⟨hcurrent, hcurrent ▸ hcursors.1, hcursors.2⟩

theorem Refines.noScan (h : Refines s l) (hscans : l.scans = []) : s.currentScan = -1 := by
  have hcount := h.scans
  rw [hscans, List.length_nil] at hcount
  omega

theorem Refines.failed (h : Refines s l) (failed : Bool) :
    Refines { s with failed := failed } l :=
  ⟨h.contents, h.scans, h.cursors, h.nested, h.capacity, h.room⟩

/-- The next item fits into the array. -/
theorem Refines.expand (h : Refines s l) :
    ∃ m, s.prepareToExpand = { s with maxItems := m } ∧ s.currentItems < m := by
  have hcapacity := h.capacity
  have hroom := h.room
  unfold SLList.prepareToExpand
  split_ifs with hfull
  · exact ⟨_, rfl, by omega⟩
  · exact ⟨_, rfl, by omega⟩

theorem moved_cursors {f : ℕ → ℕ} {F : ℤ → ℤ} (h : Refines s l)
    (hF : ∀ sc ∈ l.scans, F sc.cursor = f sc.cursor) :
    (cursorsOf s.scanPts l.scans.length).map F =
      (l.moveCursors f).map fun sc => (sc.cursor : ℤ) := by
  rw [h.cursors, CursorList.moveCursors, List.map_map, List.map_map]
  exact List.map_congr_left hF

theorem values_insertAt (l : CursorList T) (k : ℕ) (p : T) :
    (l.insertAt k p).values = l.values.insertIdx k p := List.map_insertIdx _ _ _ _

theorem values_eraseAt (l : CursorList T) (k : ℕ) :
    (l.eraseAt k).values = l.values.eraseIdx k := (List.eraseIdx_map _ _ _).symm

theorem values_replaceAt (l : CursorList T) (k : ℕ) (p : T) :
    (l.replaceAt k p).values = l.values.set k p := List.map_set

/-- `INSERT` -/
theorem Refines.insertAt (h : Refines s l) {index : SLList T → ℤ} {k : ℕ} (p : T)
    (hk : k ≤ s.currentItems) (hindex : ∀ count, Evaluates s index count k) :
    Refines (s.insertAt p index) (l.insertAt k p) := by
  obtain ⟨m, hexpand, hm⟩ := h.expand
  have hvalue (items : ℤ → T) (count max : ℕ) :
      index { s with items := items, currentItems := count, maxItems := max } = k :=
    hindex count _ rfl rfl fun _ _ => rfl
  have hcode : s.insertAt p index = { s with
      items := Function.update
        (shiftUp s.items (s.currentItems - 1) (s.currentItems - (k : ℤ)).toNat) k p
      currentItems := s.currentItems + 1
      maxItems := m
      scanPts := adjusted s.scanPts k 1 l.scans.length
      failed := false } := by
    unfold SLList.insertAt
    simp only [hexpand, hvalue]
    rw [adjustScanPts_eq 1 (hindex (s.currentItems + 1)) h.scans]
  rw [hcode]
  refine ⟨?_, ?_, ?_, ?_, ?_, ?_⟩
  · rw [values_insertAt, ← h.contents]
    exact contents_insert hk rfl rfl
  · simpa [CursorList.insertAt, CursorList.moveCursors] using h.scans
  · have hlength : (l.insertAt k p).scans.length = l.scans.length := by
      simp [CursorList.insertAt, CursorList.moveCursors]
    rw [hlength, cursorsOf_adjusted]
    apply moved_cursors h
    intro sc _
    unfold afterInsert
    split_ifs <;> omega
  · simpa [CursorList.insertAt, CursorList.moveCursors] using h.nested
  · exact hm
  · exact Nat.zero_lt_of_lt hm

/-- `REMOVE`; the index may have another value in the last loop, as long as this does not
matter for any cursor. -/
theorem Refines.removeAt (h : Refines s l) {index : SLList T → ℤ} {k : ℕ} {k' : ℤ}
    (hindex : Evaluates s index s.currentItems k)
    (hloop : k < s.currentItems → Evaluates s index (s.currentItems - 1) k')
    (hscans : k < s.currentItems → ∀ sc ∈ l.scans, k' ≤ sc.cursor - 1 ↔ k < sc.cursor) :
    (s.removeAt index).1 = (removeEntry l k).1 ∧
      Refines (s.removeAt index).2 (removeEntry l k).2 := by
  have hvalue (items : ℤ → T) : index { s with items := items } = k :=
    hindex _ rfl rfl fun _ _ => rfl
  have hstart : index s = k := hvalue s.items
  have hget : l.values[k]? = if k < s.currentItems then some (s.items k) else none := by
    rw [← h.contents, contents_getElem?]
  unfold SLList.removeAt removeEntry
  by_cases hk : k < s.currentItems
  · rw [if_pos hk] at hget
    have hguard : ¬(s.currentItems = 0 ∨ index s < 0 ∨ (s.currentItems : ℤ) ≤ index s) := by
      rw [hstart]
      omega
    rw [if_neg hguard, hget]
    simp only [hstart]
    rw [adjustScanPts_eq (-1) (hloop hk) h.scans]
    refine ⟨trivial, ?_, ?_, ?_, ?_, ?_, h.room⟩
    · rw [values_eraseAt, ← h.contents]
      exact contents_remove hk rfl rfl
    · simpa [CursorList.eraseAt, CursorList.moveCursors] using h.scans
    · have hlength : (l.eraseAt k).scans.length = l.scans.length := by
        simp [CursorList.eraseAt, CursorList.moveCursors]
      rw [hlength, cursorsOf_adjusted]
      apply moved_cursors h
      intro sc hsc
      have hiff := hscans hk sc hsc
      unfold afterErase
      split_ifs <;> omega
    · simpa [CursorList.eraseAt, CursorList.moveCursors] using h.nested
    · exact (Nat.sub_le _ _).trans h.capacity
  · rw [if_neg hk] at hget
    have hguard : s.currentItems = 0 ∨ index s < 0 ∨ (s.currentItems : ℤ) ≤ index s := by
      rw [hstart]
      omega
    rw [if_pos hguard, hget]
    exact ⟨rfl, h.failed true⟩

/-- An index that does not change in the last loop. -/
theorem Refines.removeStable (h : Refines s l) {index : SLList T → ℤ} {k : ℕ}
    (hindex : ∀ count, Evaluates s index count k) :
    (s.removeAt index).1 = (removeEntry l k).1 ∧
      Refines (s.removeAt index).2 (removeEntry l k).2 :=
  h.removeAt (hindex _) (fun _ => hindex _) fun _ _ _ => by omega

/-! ### One operation -/

theorem values_getElem? (h : Refines s l) (k : ℕ) :
    l.values[k]? = if k < s.currentItems then some (s.items k) else none := by
  rw [← h.contents, contents_getElem?]

/-- On an empty list nothing is removed. -/
theorem Refines.removeNone (h : Refines s l) {k : ℕ} (hk : s.currentItems ≤ k) :
    none = (removeEntry l k).1 ∧ Refines s (removeEntry l k).2 := by
  unfold removeEntry
  rw [values_getElem? h, if_neg (Nat.not_lt.mpr hk)]
  exact ⟨rfl, h⟩

/-- Items go to the end of the list, and no scan point moves. -/
theorem Refines.add (h : Refines s l) (hcursor : ∀ sc ∈ l.scans, sc.cursor ≤ l.entries.length)
    (p : T) : Refines (s.addToList p) (l.insertAt l.entries.length p) := by
  obtain ⟨m, hexpand, hm⟩ := h.expand
  have hscans : (l.insertAt l.entries.length p).scans = l.scans := by
    refine (List.map_congr_left fun sc hsc => ?_).trans (List.map_id _)
    have hle := hcursor sc hsc
    have hsame : afterInsert l.entries.length sc.cursor = sc.cursor := if_neg (by omega)
    rw [hsame, id]
  unfold SLList.addToList
  rw [hexpand]
  refine ⟨?_, ?_, ?_, ?_, hm, Nat.zero_lt_of_lt hm⟩
  · rw [values_insertAt, ← h.contents, h.length]
    apply List.ext_getElem?
    intro j
    rw [List.getElem?_insertIdx, length_contents, contents_getElem?, contents_getElem?,
      contents_getElem?]
    simp only [Function.update_apply, Int.natCast_inj]
    split_ifs <;> first | rfl | omega
  · exact hscans ▸ h.scans
  · exact hscans ▸ h.cursors
  · exact hscans ▸ h.nested

theorem Refines.replace (h : Refines s l) {k : ℕ} (p : T) :
    Refines { s with items := Function.update s.items k p } (l.replaceAt k p) := by
  refine ⟨?_, h.scans, h.cursors, h.nested, h.capacity, h.room⟩
  rw [values_replaceAt, ← h.contents]
  apply List.ext_getElem?
  intro j
  rw [List.getElem?_set, length_contents, contents_getElem?, contents_getElem?]
  simp only [Function.update_apply, Int.natCast_inj]
  split_ifs <;> first | rfl | omega

theorem Refines.insertPlaced (h : Refines s l) (p : T) (func : T → T → ℤ) :
    some p = (s.insertPlaced p func).1 ∧
      Refines (s.insertPlaced p func).2 (placeEntry l p func) := by
  have hk : l.values.findIdx (fun orig => func orig p ≠ 0) ≤ s.currentItems := by
    rw [← length_contents, h.contents]
    exact List.findIdx_le_length
  unfold SLList.insertPlaced placeEntry
  rw [h.contents]
  generalize l.values.findIdx (fun orig => func orig p ≠ 0) = k at hk ⊢
  simp only [values_getElem? h]
  by_cases hlt : k < s.currentItems
  · simp only [if_pos hlt]
    by_cases hstatus : func (s.items k) p = 2
    · rw [if_neg (not_not.mpr hstatus), if_pos hstatus]
      exact ⟨rfl, h.replace p⟩
    · rw [if_pos hstatus, if_neg hstatus]
      exact ⟨rfl, h.insertAt p hk fun count => evaluates_const _ count _⟩
  · simp only [if_neg hlt]
    exact ⟨rfl, h.insertAt p hk fun count => evaluates_const _ count _⟩

theorem Refines.removeFirst (h : Refines s l) :
    s.removeFirst.1 = (removeEntry l 0).1 ∧ Refines s.removeFirst.2 (removeEntry l 0).2 := by
  unfold SLList.removeFirst
  simp only
  split_ifs with hempty
  · exact (h.failed false).removeNone hempty.le
  · exact (h.failed false).removeStable fun count => evaluates_const _ count _

theorem Refines.removeFirstMatching (h : Refines s l) (func : T → Bool) :
    (s.removeFirstMatching func).1 = (removeEntry l (l.values.findIdx func)).1 ∧
      Refines (s.removeFirstMatching func).2 (removeEntry l (l.values.findIdx func)).2 := by
  have hfind : ({ s with failed := false } : SLList T).contents.findIdx func =
      l.values.findIdx func := by rw [(h.failed false).contents]
  unfold SLList.removeFirstMatching
  simp only [hfind]
  split_ifs with hempty hall
  · exact (h.failed false).removeNone (by simp [hempty])
  · exact (h.failed false).removeNone hall.ge
  · exact (h.failed false).removeStable fun count => evaluates_const _ count _

/-- The index is one less in the last loop than it was before. -/
theorem Refines.removeLast (h : Refines s l)
    (hsafe : ∀ sc ∈ l.scans, (sc.cursor : ℤ) ≠ s.currentItems - 1) :
    s.removeLast.1 = (removeEntry l (l.entries.length - 1)).1 ∧
      Refines s.removeLast.2 (removeEntry l (l.entries.length - 1)).2 := by
  rw [h.length]
  unfold SLList.removeLast
  simp only
  split_ifs with hempty
  · exact (h.failed false).removeNone (by simp [hempty])
  · apply @Refines.removeAt T _ l (h.failed false) _ _ ((s.currentItems - 1 : ℕ) - 1)
    · intro t ht _ _
      simp only at ht ⊢
      omega
    · intro _ t ht _ _
      simp only at ht ⊢
      omega
    · intro _ sc hsc
      have hne := hsafe sc hsc
      omega

theorem Refines.insertBeforeCurrent (h : Refines s l)
    (hcursor : ∀ sc ∈ l.scans, sc.cursor ≤ l.entries.length) (p : T) :
    .item (s.insertBeforeCurrent p).1 = (specify l (.insertBeforeCurrent p)).1 ∧
      Refines (s.insertBeforeCurrent p).2 (specify l (.insertBeforeCurrent p)).2 := by
  unfold SLList.insertBeforeCurrent specify
  cases hscans : l.scans with
  | nil =>
    rw [if_pos (h.noScan hscans)]
    exact ⟨rfl, h.failed true⟩
  | cons sc outer =>
    obtain ⟨hcurrent, hpt, -⟩ := h.innermost hscans
    have hactive : s.currentScan ≠ -1 := by omega
    have hle : sc.cursor ≤ s.currentItems := h.length ▸ hcursor sc (by simp [hscans])
    rw [if_neg hactive, hpt]
    simp only
    by_cases hzero : sc.cursor = 0
    · rw [if_pos (by omega), if_pos hzero]
      exact ⟨rfl, h.failed true⟩
    · rw [if_neg (by omega), if_neg hzero]
      refine ⟨rfl, h.insertAt p (by omega) fun count => ?_⟩
      have hvalue : s.scanPts s.currentScan - 1 = ((sc.cursor - 1 : ℕ) : ℤ) := by omega
      exact hvalue ▸ evaluates_current s count 1

theorem Refines.removeCurrent (h : Refines s l) :
    .item s.removeCurrent.1 = (specify l .removeCurrent).1 ∧
      Refines s.removeCurrent.2 (specify l .removeCurrent).2 := by
  unfold SLList.removeCurrent specify
  cases hscans : l.scans with
  | nil =>
    rw [if_pos (h.noScan hscans)]
    exact ⟨rfl, h.failed true⟩
  | cons sc outer =>
    obtain ⟨hcurrent, hpt, -⟩ := h.innermost hscans
    have hactive : s.currentScan ≠ -1 := by omega
    rw [if_neg hactive]
    simp only
    by_cases hzero : sc.cursor = 0
    · rw [if_pos hzero, SLList.removeAt, if_pos (by simp only [hpt]; omega)]
      exact ⟨rfl, h.failed true⟩
    · rw [if_neg hzero]
      have hvalue : s.scanPts s.currentScan - 1 = ((sc.cursor - 1 : ℕ) : ℤ) := by omega
      obtain ⟨hresult, hrefines⟩ :=
        h.removeStable fun count => hvalue ▸ evaluates_current s count 1
      exact ⟨congrArg Result.item hresult, hrefines⟩

theorem Refines.removePrevious (h : Refines s l) :
    .item s.removePrevious.1 = (specify l .removePrevious).1 ∧
      Refines s.removePrevious.2 (specify l .removePrevious).2 := by
  unfold SLList.removePrevious specify
  cases hscans : l.scans with
  | nil =>
    rw [if_pos (h.noScan hscans)]
    exact ⟨rfl, h.failed true⟩
  | cons sc outer =>
    obtain ⟨hcurrent, hpt, -⟩ := h.innermost hscans
    have hactive : s.currentScan ≠ -1 := by omega
    rw [if_neg hactive, hpt]
    simp only
    by_cases hfirst : sc.cursor < 2
    · rw [if_pos (by omega), if_pos hfirst]
      exact ⟨rfl, h.failed true⟩
    · rw [if_neg (by omega), if_neg hfirst]
      have hvalue : s.scanPts s.currentScan - 2 = ((sc.cursor - 2 : ℕ) : ℤ) := by omega
      obtain ⟨hresult, hrefines⟩ :=
        h.removeStable fun count => hvalue ▸ evaluates_current s count 2
      exact ⟨congrArg Result.item hresult, hrefines⟩

theorem Refines.initScan (h : Refines s l) :
    .status s.initScan.1 = (specify l (.initScan : Operation T)).1 ∧
      Refines s.initScan.2 (specify l .initScan).2 := by
  have hcount := h.scans
  unfold SLList.initScan specify maxScanPts
  by_cases hfull : l.scans.length < 4
  · rw [if_neg (by omega), if_pos hfull]
    refine ⟨rfl, h.contents, ?_, ?_, ?_, h.capacity, h.room⟩
    · simp only [CursorList.beginScan, List.length_cons]
      omega
    · simp only [CursorList.beginScan, List.length_cons, List.map_cons]
      rw [cursorsOf, hcount, Function.update_self, ← h.cursors]
      congr 1
      exact cursorsOf_congr fun j hj => Function.update_of_ne (by omega) _ _
    · simp only [CursorList.beginScan, List.length_cons]
      omega
  · rw [if_pos (by omega), if_neg hfull]
    exact ⟨rfl, h.failed true⟩

/-- The innermost scan is over. -/
theorem Refines.pop (h : Refines s l) {sc : Scan} {outer : List Scan}
    (hscans : l.scans = sc :: outer) :
    Refines { s with currentScan := s.currentScan - 1 } { l with scans := outer } := by
  obtain ⟨hcurrent, -, hcursors⟩ := h.innermost hscans
  have hnested := h.nested
  rw [hscans, List.length_cons] at hnested
  exact ⟨h.contents, by simp only; omega, hcursors, by simp only; omega, h.capacity, h.room⟩

theorem Refines.scanDone (h : Refines s l) :
    .status s.scanDone.1 = (specify l (.scanDone : Operation T)).1 ∧
      Refines s.scanDone.2 (specify l .scanDone).2 := by
  unfold SLList.scanDone specify
  cases hscans : l.scans with
  | nil =>
    rw [if_pos (by rw [h.noScan hscans]; omega)]
    exact ⟨rfl, h.failed true⟩
  | cons sc outer =>
    obtain ⟨hcurrent, -, -⟩ := h.innermost hscans
    rw [if_neg (by omega)]
    refine ⟨rfl, ?_⟩
    have hend : l.endScan = { l with scans := outer } := by
      rw [CursorList.endScan, hscans, List.tail_cons]
    exact hend ▸ (h.pop hscans).failed false

/-- The innermost cursor is moved to `c`. -/
theorem Refines.moveTo (h : Refines s l) {sc sc' : Scan} {outer : List Scan}
    (hscans : l.scans = sc :: outer) {c : ℤ} (hc : (sc'.cursor : ℤ) = c) :
    Refines { s with scanPts := Function.update s.scanPts s.currentScan c }
      { l with scans := sc' :: outer } := by
  obtain ⟨hcurrent, -, hcursors⟩ := h.innermost hscans
  have hcount := h.scans
  have hnested := h.nested
  rw [hscans, List.length_cons] at hcount hnested
  refine ⟨h.contents, hcount, ?_, hnested, h.capacity, h.room⟩
  rw [List.length_cons, cursorsOf, hcurrent]
  simp only [Function.update_self, List.map_cons, hc, ← hcursors]
  congr 1
  exact cursorsOf_congr fun j hj => Function.update_of_ne (by omega) _ _

theorem Refines.next (h : Refines s l) {sc : Scan} {outer : List Scan}
    (hscans : l.scans = sc :: outer) (hle : sc.cursor ≤ l.entries.length) :
    s.next.1 = l.next.1 ∧ Refines s.next.2 l.next.2 := by
  obtain ⟨-, hpt, -⟩ := h.innermost hscans
  have hget : (l.entries[sc.cursor]?).map Entry.value =
      if sc.cursor < s.currentItems then some (s.items sc.cursor) else none := by
    rw [← values_getElem? h, CursorList.values, List.getElem?_map]
  rw [h.length] at hle
  unfold SLList.next CursorList.next
  simp only [hscans, hpt]
  cases he : l.entries[sc.cursor]? with
  | none =>
    rw [he, Option.map_none] at hget
    have hend : (sc.cursor : ℤ) = s.currentItems := by
      by_contra hne
      rw [if_pos (by omega)] at hget
      cases hget
    rw [if_pos hend]
    exact ⟨rfl, h.pop hscans⟩
  | some e =>
    rw [he, Option.map_some] at hget
    have hlt : sc.cursor < s.currentItems := by
      by_contra hge
      rw [if_neg hge] at hget
      cases hget
    rw [if_pos hlt, Option.some.injEq] at hget
    rw [if_neg (by omega)]
    exact ⟨congrArg some hget.symm, h.moveTo hscans (by simp)⟩

theorem Refines.previous (h : Refines s l) {sc : Scan} {outer : List Scan}
    (hscans : l.scans = sc :: outer) (hle : sc.cursor ≤ l.entries.length) :
    s.previous.1 = l.previous.1 ∧ Refines s.previous.2 l.previous.2 := by
  obtain ⟨-, hpt, -⟩ := h.innermost hscans
  rw [h.length] at hle
  unfold SLList.previous CursorList.previous
  simp only [hscans, hpt]
  by_cases hfirst : sc.cursor < 2
  · rw [if_pos (by omega), if_pos hfirst]
    exact ⟨rfl, h⟩
  · rw [if_neg (by omega), if_neg hfirst]
    have hpos : (sc.cursor : ℤ) - 1 - 1 = ((sc.cursor - 1 - 1 : ℕ) : ℤ) := by omega
    refine ⟨?_, h.moveTo hscans (by simp only; omega)⟩
    rw [values_getElem? h, if_pos (by omega), hpos]

end Lists
