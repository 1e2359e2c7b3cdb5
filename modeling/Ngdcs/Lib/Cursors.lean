import Mathlib.Data.List.Basic
import Mathlib.Data.List.Nodup
import Mathlib.Data.List.InsertIdx

/-! Lists with cursors. A cursor counts the entries before it; insertions and removals before a
cursor carry it along. Entries are numbered, so that a scan can be said to return every entry
that stays in the list once, also where values repeat. -/
namespace Cursors

variable {α : Type*}

structure Entry (α : Type*) where
  ident : ℕ
  value : α

/-- A scan: its cursor, the entries of the list when it began, the entries it returned, and
whether it ever went back. -/
structure Scan where
  cursor : ℕ
  start : List ℕ
  returned : List ℕ
  backedUp : Bool

/-- A list under scans, the innermost first. `fresh` is the next number to be given. -/
structure CursorList (α : Type*) where
  entries : List (Entry α)
  scans : List Scan
  fresh : ℕ

/-- Where a cursor is after an insertion at position `k`. -/
def afterInsert (k c : ℕ) : ℕ := if k < c then c + 1 else c

/-- Where a cursor is after the removal of the entry at position `k`. -/
def afterErase (k c : ℕ) : ℕ := if k < c then c - 1 else c

namespace CursorList

def empty : CursorList α := ⟨[], [], 0⟩

def idents (l : CursorList α) : List ℕ := l.entries.map Entry.ident

def values (l : CursorList α) : List α := l.entries.map Entry.value

def moveCursors (l : CursorList α) (f : ℕ → ℕ) : List Scan :=
  l.scans.map fun sc => { sc with cursor := f sc.cursor }

def insertAt (l : CursorList α) (k : ℕ) (v : α) : CursorList α where
  entries := l.entries.insertIdx k ⟨l.fresh, v⟩
  scans := l.moveCursors (afterInsert k)
  fresh := l.fresh + 1

def eraseAt (l : CursorList α) (k : ℕ) : CursorList α where
  entries := l.entries.eraseIdx k
  scans := l.moveCursors (afterErase k)
  fresh := l.fresh

/-- The new entry takes the place of the old one on the same side of every cursor. -/
def replaceAt (l : CursorList α) (k : ℕ) (v : α) : CursorList α where
  entries := l.entries.set k ⟨l.fresh, v⟩
  scans := l.scans
  fresh := l.fresh + 1

def beginScan (l : CursorList α) : CursorList α :=
  { l with scans := ⟨0, l.idents, [], false⟩ :: l.scans }

def endScan (l : CursorList α) : CursorList α :=
  { l with scans := l.scans.tail }

/-- The entry after the innermost cursor; at the end of the list the scan is over. -/
def next (l : CursorList α) : Option α × CursorList α :=
  match l.scans with
  | [] => (none, l)
  | sc :: outer =>
    match l.entries[sc.cursor]? with
    | none => (none, { l with scans := outer })
    | some e =>
      let sc := { sc with cursor := sc.cursor + 1, returned := sc.returned ++ [e.ident] }
      (some e.value, { l with scans := sc :: outer })

/-- The entry before the one that the innermost scan is at. -/
def previous (l : CursorList α) : Option α × CursorList α :=
  match l.scans with
  | [] => (none, l)
  | sc :: outer =>
    if sc.cursor < 2 then (none, l)
    else
      let sc := { sc with cursor := sc.cursor - 1, backedUp := true }
      (l.values[sc.cursor - 1]?, { l with scans := sc :: outer })

end CursorList

/-! ### What a scan has covered -/

/-- Of the entries that were in the list when the scan began and still are, the scan has
returned the ones before its cursor, each once and in the order of the list. -/
structure Covers (idents before start returned : List ℕ) : Prop where
  order : idents.filter (· ∈ start) = start.filter (· ∈ idents)
  visited : returned.filter (fun i => i ∈ start ∧ i ∈ idents) = before.filter (· ∈ start)

/-- A scan that is over has returned every entry that stayed, once and in the order that the
list has and had. -/
structure Scan.Complete (sc : Scan) (idents : List ℕ) : Prop where
  once : idents.Nodup
  order : idents.filter (· ∈ sc.start) = sc.start.filter (· ∈ idents)
  returned : sc.returned.filter (fun i => i ∈ sc.start ∧ i ∈ idents) =
    idents.filter (· ∈ sc.start)

variable {idents idents' before before' start returned : List ℕ} {x : ℕ}

theorem covers_begin (idents : List ℕ) : Covers idents [] idents [] := ⟨rfl, rfl⟩

/-- Removing an entry removes it from what was covered. -/
theorem Covers.erase (h : Covers idents before start returned)
    (hi : idents' = idents.filter (· ≠ x)) (hb : before' = before.filter (· ≠ x)) :
    Covers idents' before' start returned := by
  subst hi hb
  constructor
  · calc (idents.filter (· ≠ x)).filter (· ∈ start)
        = (idents.filter (· ∈ start)).filter (· ≠ x) := List.filter_comm _ _ _
      _ = (start.filter (· ∈ idents)).filter (· ≠ x) := by rw [h.order]
      _ = start.filter (· ∈ idents.filter (· ≠ x)) := by
          rw [List.filter_filter]
          exact List.filter_congr fun i _ => by simp [and_comm]
  · calc returned.filter (fun i => i ∈ start ∧ i ∈ idents.filter (· ≠ x))
        = (returned.filter (fun i => i ∈ start ∧ i ∈ idents)).filter (· ≠ x) := by
          rw [List.filter_filter]
          exact List.filter_congr fun i _ => by simp [and_comm, and_assoc]
      _ = (before.filter (· ∈ start)).filter (· ≠ x) := by rw [h.visited]
      _ = (before.filter (· ≠ x)).filter (· ∈ start) := List.filter_comm _ _ _

/-- A new entry is not one of those that were there when the scan began. -/
theorem Covers.insert (h : Covers idents before start returned)
    (hi : idents = idents'.filter (· ≠ x)) (hb : before = before'.filter (· ≠ x))
    (hstart : x ∉ start) : Covers idents' before' start returned := by
  have hmem (i : ℕ) (hi' : i ∈ start) : i ∈ idents ↔ i ∈ idents' := by
    have hne : i ≠ x := fun h => hstart (h ▸ hi')
    simp [hi, hne]
  have hdrop (l : List ℕ) : (l.filter (· ≠ x)).filter (· ∈ start) = l.filter (· ∈ start) := by
    rw [List.filter_filter]
    refine List.filter_congr fun i _ => ?_
    by_cases hi' : i ∈ start
    · have hne : i ≠ x := fun h => hstart (h ▸ hi')
      simp [hi', hne]
    · simp [hi']
  constructor
  · calc idents'.filter (· ∈ start) = idents.filter (· ∈ start) := by rw [hi, hdrop]
      _ = start.filter (· ∈ idents) := h.order
      _ = start.filter (· ∈ idents') := List.filter_congr fun i hi' => by simp [hmem i hi']
  · calc returned.filter (fun i => i ∈ start ∧ i ∈ idents')
        = returned.filter (fun i => i ∈ start ∧ i ∈ idents) := by
          refine List.filter_congr fun i _ => ?_
          by_cases hi' : i ∈ start
          · simp [hi', hmem i hi']
          · simp [hi']
      _ = before.filter (· ∈ start) := h.visited
      _ = before'.filter (· ∈ start) := by rw [hb, hdrop]

/-- The next entry is returned. -/
theorem Covers.advance (h : Covers idents before start returned) (hx : x ∈ idents) :
    Covers idents (before ++ [x]) start (returned ++ [x]) := by
  refine ⟨h.order, ?_⟩
  rw [List.filter_append, List.filter_append, h.visited]
  by_cases hstart : x ∈ start <;> simp [hstart, hx]

/-! ### Positions and identities -/

@[simp] theorem afterErase_afterInsert (k c : ℕ) : afterErase k (afterInsert k c) = c := by
  unfold afterErase afterInsert
  split_ifs <;> omega

theorem filter_ne_of_notMem {l : List ℕ} (hx : x ∉ l) : l.filter (· ≠ x) = l :=
  List.filter_eq_self.mpr fun i hi => by simpa using fun h : i = x => hx (h ▸ hi)

theorem filter_ne_cons {a b : List ℕ} (ha : x ∉ a) (hb : x ∉ b) :
    (a ++ x :: b).filter (· ≠ x) = a ++ b := by
  rw [List.filter_append, List.filter_cons_of_neg (by simp), filter_ne_of_notMem ha,
    filter_ne_of_notMem hb]

/-- What is before a cursor, but for one entry, is before the cursor once that is removed. -/
theorem filter_ne_take {a b : List ℕ} (ha : x ∉ a) (hb : x ∉ b) (c : ℕ) :
    ((a ++ x :: b).take c).filter (· ≠ x) = (a ++ b).take (afterErase a.length c) := by
  unfold afterErase
  split_ifs with hc
  · obtain ⟨d, rfl⟩ : ∃ d, c = a.length + (d + 1) := ⟨c - a.length - 1, by omega⟩
    have hd : a.length + (d + 1) - 1 = a.length + d := by omega
    rw [List.take_length_add_append, List.take_succ_cons, hd, List.take_length_add_append]
    exact filter_ne_cons ha fun h => hb (List.mem_of_mem_take h)
  · have hle : c ≤ a.length := by omega
    rw [List.take_append_of_le_length hle, List.take_append_of_le_length hle]
    exact filter_ne_of_notMem fun h => ha (List.mem_of_mem_take h)

theorem insertIdx_length_append {β : Type*} (a b : List β) (x : β) :
    (a ++ b).insertIdx a.length x = a ++ x :: b := by
  induction a with
  | nil => rfl
  | cons y a ih => exact congrArg (y :: ·) ih

theorem eraseIdx_length_append {β : Type*} (a b : List β) (x : β) :
    (a ++ x :: b).eraseIdx a.length = a ++ b := by
  induction a with
  | nil => rfl
  | cons y a ih => exact congrArg (y :: ·) ih

theorem exists_eq_append_cons {β : Type*} {l : List β} {k : ℕ} (hk : k < l.length) :
    ∃ a x b, l = a ++ x :: b ∧ a.length = k :=
  ⟨l.take k, l[k], l.drop (k + 1), by simp, by simp; omega⟩

/-! ### The invariant -/

/-- The cursor is within the list, and the scan has covered what is before it unless it went
back. -/
structure ScanOk (idents : List ℕ) (fresh : ℕ) (sc : Scan) : Prop where
  cursor : sc.cursor ≤ idents.length
  start : ∀ i ∈ sc.start, i < fresh
  covers : sc.backedUp = false → Covers idents (idents.take sc.cursor) sc.start sc.returned

/-- Entries have numbers of their own, and every scan is in order. -/
structure WellFormed (l : CursorList α) : Prop where
  nodup : l.idents.Nodup
  known : ∀ i ∈ l.idents, i < l.fresh
  scans : ∀ sc ∈ l.scans, ScanOk l.idents l.fresh sc

theorem wellFormed_empty : WellFormed (CursorList.empty : CursorList α) :=
  ⟨List.nodup_nil, nofun, nofun⟩

variable {l : CursorList α}

theorem WellFormed.fresh_notMem (h : WellFormed l) : l.fresh ∉ l.idents :=
  fun hmem => absurd (h.known _ hmem) (Nat.lt_irrefl _)

theorem ScanOk.erase {fresh : ℕ} {sc : Scan} {a b : List ℕ}
    (h : ScanOk (a ++ x :: b) fresh sc) (hx : x ∉ a ∧ x ∉ b) :
    ScanOk (a ++ b) fresh { sc with cursor := afterErase a.length sc.cursor } where
  cursor := by
    have hcursor := h.cursor
    unfold afterErase
    simp only [List.length_append, List.length_cons] at hcursor ⊢
    split_ifs <;> omega
  start := h.start
  covers hb := (h.covers hb).erase (filter_ne_cons hx.1 hx.2).symm
    (filter_ne_take hx.1 hx.2 sc.cursor).symm

theorem ScanOk.insert {fresh : ℕ} {sc : Scan} {a b : List ℕ} (h : ScanOk (a ++ b) fresh sc)
    (hx : fresh ∉ a ∧ fresh ∉ b) :
    ScanOk (a ++ fresh :: b) (fresh + 1)
      { sc with cursor := afterInsert a.length sc.cursor } where
  cursor := by
    have hcursor := h.cursor
    unfold afterInsert
    simp only [List.length_append, List.length_cons] at hcursor ⊢
    split_ifs <;> omega
  start i hi := Nat.lt_succ_of_lt (h.start i hi)
  covers hb := (h.covers hb).insert (filter_ne_cons hx.1 hx.2).symm
    (by rw [filter_ne_take hx.1 hx.2, afterErase_afterInsert])
    fun hi => absurd (h.start _ hi) (Nat.lt_irrefl _)

/-- The new entry is on the same side of the cursor as the old one was. -/
theorem ScanOk.replace {fresh : ℕ} {sc : Scan} {a b : List ℕ}
    (h : ScanOk (a ++ x :: b) fresh sc) (hx : x ∉ a ∧ x ∉ b)
    (hnew : fresh ∉ a ∧ fresh ∉ b) : ScanOk (a ++ fresh :: b) (fresh + 1) sc where
  cursor := by simpa using h.cursor
  start i hi := Nat.lt_succ_of_lt (h.start i hi)
  covers hb := by
    have herased := (h.covers hb).erase (filter_ne_cons hx.1 hx.2).symm
      (filter_ne_take hx.1 hx.2 sc.cursor).symm
    exact herased.insert (filter_ne_cons hnew.1 hnew.2).symm
      (filter_ne_take hnew.1 hnew.2 sc.cursor).symm
      fun hi => absurd (h.start _ hi) (Nat.lt_irrefl _)

theorem WellFormed.insertAt (h : WellFormed l) {k : ℕ} (hk : k ≤ l.entries.length) (v : α) :
    WellFormed (l.insertAt k v) := by
  obtain ⟨a, b, hl, rfl⟩ : ∃ a b, l.entries = a ++ b ∧ a.length = k :=
    ⟨l.entries.take k, l.entries.drop k, by simp, by simp [hk]⟩
  have hold : l.idents = a.map Entry.ident ++ b.map Entry.ident := by
    simp [CursorList.idents, hl]
  have hnew : (l.insertAt a.length v).idents =
      a.map Entry.ident ++ l.fresh :: b.map Entry.ident := by
    simp [CursorList.idents, CursorList.insertAt, hl, insertIdx_length_append]
  have hfresh := h.fresh_notMem
  rw [hold, List.mem_append, not_or] at hfresh
  refine ⟨?_, ?_, ?_⟩
  · rw [hnew, List.nodup_middle, List.nodup_cons, ← hold]
    exact ⟨h.fresh_notMem, h.nodup⟩
  · intro i hi
    rw [hnew, List.mem_append, List.mem_cons] at hi
    rcases hi with hi | rfl | hi
    · exact Nat.lt_succ_of_lt (h.known i (hold ▸ List.mem_append_left _ hi))
    · exact Nat.lt_succ_self _
    · exact Nat.lt_succ_of_lt (h.known i (hold ▸ List.mem_append_right _ hi))
  · intro sc hsc
    obtain ⟨old, hmem, rfl⟩ := List.mem_map.mp hsc
    have hscan := hold ▸ h.scans old hmem
    rw [hnew, ← List.length_map (f := Entry.ident)]
    exact hscan.insert hfresh

theorem WellFormed.eraseAt (h : WellFormed l) {k : ℕ} (hk : k < l.entries.length) :
    WellFormed (l.eraseAt k) := by
  obtain ⟨a, e, b, hl, rfl⟩ := exists_eq_append_cons hk
  have hold : l.idents = a.map Entry.ident ++ e.ident :: b.map Entry.ident := by
    simp [CursorList.idents, hl]
  have hnew : (l.eraseAt a.length).idents = a.map Entry.ident ++ b.map Entry.ident := by
    simp [CursorList.idents, CursorList.eraseAt, hl, eraseIdx_length_append]
  have hnodup := h.nodup
  rw [hold, List.nodup_middle, List.nodup_cons, List.mem_append, not_or] at hnodup
  refine ⟨?_, ?_, ?_⟩
  · rw [hnew]
    exact hnodup.2
  · intro i hi
    rw [hnew, List.mem_append] at hi
    apply h.known i
    rw [hold]
    rcases hi with hi | hi <;> simp [hi]
  · intro sc hsc
    obtain ⟨old, hmem, rfl⟩ := List.mem_map.mp hsc
    have hscan := hold ▸ h.scans old hmem
    rw [hnew, ← List.length_map (f := Entry.ident)]
    exact hscan.erase hnodup.1

theorem WellFormed.replaceAt (h : WellFormed l) {k : ℕ} (hk : k < l.entries.length) (v : α) :
    WellFormed (l.replaceAt k v) := by
  obtain ⟨a, e, b, hl, rfl⟩ := exists_eq_append_cons hk
  have hold : l.idents = a.map Entry.ident ++ e.ident :: b.map Entry.ident := by
    simp [CursorList.idents, hl]
  have hnew : (l.replaceAt a.length v).idents =
      a.map Entry.ident ++ l.fresh :: b.map Entry.ident := by
    simp [CursorList.idents, CursorList.replaceAt, hl]
  have hnodup := h.nodup
  rw [hold, List.nodup_middle, List.nodup_cons, List.mem_append, not_or] at hnodup
  have hfresh := h.fresh_notMem
  rw [hold, List.mem_append, List.mem_cons, not_or, not_or] at hfresh
  refine ⟨?_, ?_, ?_⟩
  · rw [hnew, List.nodup_middle, List.nodup_cons, List.mem_append, not_or]
    exact ⟨⟨hfresh.1, hfresh.2.2⟩, hnodup.2⟩
  · intro i hi
    rw [hnew, List.mem_append, List.mem_cons] at hi
    rcases hi with hi | rfl | hi
    · exact Nat.lt_succ_of_lt (h.known i (by rw [hold]; simp [hi]))
    · exact Nat.lt_succ_self _
    · exact Nat.lt_succ_of_lt (h.known i (by rw [hold]; simp [hi]))
  · intro sc hsc
    have hscan := hold ▸ h.scans sc hsc
    rw [hnew]
    exact hscan.replace hnodup.1 ⟨hfresh.1, hfresh.2.2⟩

theorem WellFormed.of_scans (h : WellFormed l) {scans : List Scan}
    (hscans : ∀ sc ∈ scans, ScanOk l.idents l.fresh sc) :
    WellFormed { l with scans := scans } := ⟨h.nodup, h.known, hscans⟩

theorem WellFormed.beginScan (h : WellFormed l) : WellFormed l.beginScan := by
  refine h.of_scans fun sc hsc => ?_
  rcases List.mem_cons.mp hsc with rfl | hsc
  · exact ⟨Nat.zero_le _, h.known, fun _ => covers_begin _⟩
  · exact h.scans sc hsc

theorem WellFormed.endScan (h : WellFormed l) : WellFormed l.endScan :=
  h.of_scans fun sc hsc => h.scans sc (List.mem_of_mem_tail hsc)

theorem WellFormed.next (h : WellFormed l) : WellFormed l.next.2 := by
  unfold CursorList.next
  cases hscans : l.scans with
  | nil => exact h
  | cons sc outer =>
    have hsc : ScanOk l.idents l.fresh sc := h.scans sc (by simp [hscans])
    have houter : ∀ sc ∈ outer, ScanOk l.idents l.fresh sc :=
      fun sc hsc => h.scans sc (by simp [hscans, hsc])
    cases he : l.entries[sc.cursor]? with
    | none =>
      simp only [he]
      exact h.of_scans houter
    | some e =>
      simp only [he]
      refine h.of_scans fun sc' hsc' => ?_
      rcases List.mem_cons.mp hsc' with rfl | hsc'
      · have hident : l.idents[sc.cursor]? = some e.ident := by
          simp [CursorList.idents, he]
        obtain ⟨hlt, hget⟩ := List.getElem?_eq_some_iff.mp hident
        refine ⟨hlt, hsc.start, fun hb => ?_⟩
        rw [List.take_succ_eq_append_getElem hlt, hget]
        exact (hsc.covers hb).advance (hget ▸ List.getElem_mem hlt)
      · exact houter sc' hsc'

theorem WellFormed.previous (h : WellFormed l) : WellFormed l.previous.2 := by
  unfold CursorList.previous
  cases hscans : l.scans with
  | nil => exact h
  | cons sc outer =>
    have hsc : ScanOk l.idents l.fresh sc := h.scans sc (by simp [hscans])
    simp only
    split_ifs
    · exact h
    · refine h.of_scans fun sc' hsc' => ?_
      rcases List.mem_cons.mp hsc' with rfl | hsc'
      · exact ⟨Nat.le_trans (Nat.sub_le _ _) hsc.cursor, hsc.start, nofun⟩
      · exact h.scans sc' (by simp [hscans, hsc'])

/-- A scan that never went back and reaches the end of the list has returned every entry that
stayed. -/
theorem WellFormed.complete (h : WellFormed l) {sc : Scan} (hsc : sc ∈ l.scans)
    (hforth : sc.backedUp = false) (hend : l.entries[sc.cursor]? = none) :
    sc.Complete l.idents := by
  have hcovers := (h.scans sc hsc).covers hforth
  have hlen : l.idents.length ≤ sc.cursor := by
    simpa [CursorList.idents] using hend
  rw [List.take_of_length_le hlen] at hcovers
  exact ⟨h.nodup, hcovers.order, hcovers.visited⟩

end Cursors
