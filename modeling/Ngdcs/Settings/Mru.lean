import Ngdcs.Lib.CStrings
import Ngdcs.Lib.Recency
import Mathlib.Data.List.Induction

/-! `SettingsBlock::insertInMRU`: the lists of the directories used last. -/
namespace Settings

/-- `MAXPATHLEN` -/
def maxPathLen : ℕ := 4096

/-- What fits a slot of an MRU list. -/
abbrev DirName := { s : List UInt8 // 0 ∉ s ∧ s.length < maxPathLen }

namespace DirName

def blank : DirName := ⟨[], by decide⟩

end DirName

/-- The slots of an MRU list. -/
abbrev MruList := { slots : List DirName // slots.length = 4 }

section Insert

variable (behind : DirName) (mru : List DirName) (newbuf : DirName)

/-- The slot that `from_limit` points to. -/
def fromLimit : ℕ := 3

/-- `*from`, where `behind` is what stands behind the last slot. -/
def slot (k : ℕ) : DirName := mru.getD k behind

/-- `while (strcmp(from, newbuf) == 0 && from <= from_limit) from += MAXPATHLEN;` -/
def skipMatches (k : ℕ) : ℕ :=
  if slot behind mru k = newbuf ∧ k ≤ fromLimit then skipMatches (k + 1) else k
termination_by fromLimit + 1 - k

/-- The loop over the `n` slots of the new list that are still to be filled. -/
def fillSlots : ℕ → ℕ → List DirName
  | 0, _ => []
  | n + 1, k =>
    let k := skipMatches behind mru newbuf k
    if k ≤ fromLimit then slot behind mru k :: fillSlots n (k + 1)
    else DirName.blank :: fillSlots n k

theorem length_fillSlots (n k : ℕ) : (fillSlots behind mru newbuf n k).length = n := by
  induction n generalizing k with
  | zero => rfl
  | succ n ih =>
    simp only [fillSlots]
    split_ifs <;> simp [ih]

end Insert

/-- `SettingsBlock::insertInMRU` -/
def insertInMRU (behind : DirName) (mru : MruList) (newbuf : DirName) : MruList :=
  ⟨newbuf :: fillSlots behind mru.val newbuf 3 0, by rw [List.length_cons, length_fillSlots]⟩

section Spec

variable {behind newbuf : DirName} {mru : List DirName}

theorem slot_of_lt {k : ℕ} (h : k < mru.length) : slot behind mru k = mru[k] := by
  simp [slot, h]

/-- The loop passes the slots that hold the new name. -/
theorem drop_skipMatches (hmru : mru.length = 4) (k : ℕ) :
    mru.drop (skipMatches behind mru newbuf k) =
      (mru.drop k).dropWhile (· = newbuf) := by
  induction k using skipMatches.induct behind mru newbuf with
  | case1 k h ih =>
    obtain ⟨hslot, hk⟩ := h
    have hlt : k < mru.length := by
      unfold fromLimit at hk
      omega
    rw [skipMatches, if_pos ⟨hslot, hk⟩, ih]
    rw [slot_of_lt hlt] at hslot
    rw [List.drop_eq_getElem_cons hlt, List.dropWhile_cons_of_pos (by simpa using hslot)]
  | case2 k h =>
    rw [skipMatches, if_neg h]
    rcases Nat.lt_or_ge k mru.length with hlt | hge
    · have hslot : mru[k] ≠ newbuf := by
        intro heq
        apply h
        unfold fromLimit
        exact ⟨by rwa [slot_of_lt hlt], by omega⟩
      rw [List.drop_eq_getElem_cons hlt, List.dropWhile_cons_of_neg (by simpa using hslot)]
    · rw [List.drop_eq_nil_of_le hge, List.dropWhile_nil]

theorem filter_dropWhile_eq (name : DirName) (l : List DirName) :
    (l.dropWhile (· = name)).filter (· ≠ name) = l.filter (· ≠ name) := by
  induction l with
  | nil => rfl
  | cons x l ih =>
    by_cases hx : x = name
    · rw [List.dropWhile_cons_of_pos (by simpa using hx), ih,
        List.filter_cons_of_neg (by simpa using hx)]
    · rw [List.dropWhile_cons_of_neg (by simpa using hx)]

theorem fillSlots_eq (hmru : mru.length = 4) (n k : ℕ) :
    fillSlots behind mru newbuf n k =
      Recency.padded .blank n ((mru.drop k).filter (· ≠ newbuf)) := by
  induction n generalizing k with
  | zero => simp [fillSlots]
  | succ n ih =>
    have hskip := @drop_skipMatches behind newbuf mru hmru k
    rw [← filter_dropWhile_eq newbuf (mru.drop k), ← hskip]
    simp only [fillSlots]
    generalize skipMatches behind mru newbuf k = j at hskip ⊢
    split_ifs with hj
    · have hlt : j < mru.length := by
        unfold fromLimit at hj
        omega
      have hne : mru[j] ≠ newbuf := by
        have hhead := List.head?_dropWhile_not (· = newbuf) (mru.drop k)
        rw [← hskip, List.drop_eq_getElem_cons hlt] at hhead
        simpa [hlt] using hhead
      rw [ih, slot_of_lt hlt, List.drop_eq_getElem_cons hlt,
        List.filter_cons_of_pos (by simpa using hne), Recency.padded_cons]
    · have hge : mru.length ≤ j := by
        unfold fromLimit at hj
        omega
      rw [ih, List.drop_eq_nil_of_le hge, List.filter_nil, Recency.padded_nil]

end Spec

/-- The loops with their two pointers do what an MRU list is for. -/
theorem insertInMRU_eq (behind : DirName) (mru : MruList) (newbuf : DirName) :
    (insertInMRU behind mru newbuf).val = Recency.touch .blank newbuf mru.val := by
  rw [Recency.touch, mru.property]
  exact congrArg (newbuf :: ·) (fillSlots_eq mru.property 3 0)

/-- The list after some insertions, each with what it finds behind the last slot. -/
def insertAll (mru : MruList) (calls : List (DirName × DirName)) : MruList :=
  calls.foldl (fun mru call => insertInMRU call.2 mru call.1) mru

/-- What one insertion promises. -/
structure MostRecent (before : MruList) (newbuf : DirName) (after : MruList) : Prop where
  slots : after.val = newbuf ::
    Recency.padded .blank 3 (before.val.filter (· ≠ newbuf))
  head : after.val.head? = some newbuf
  distinct : (Recency.names .blank before.val).Nodup → (Recency.names .blank after.val).Nodup
  lost : ∀ name ∈ before.val, name ∉ after.val →
    newbuf ∉ before.val ∧ before.val.getLast? = some name ∧ name ∉ before.val.dropLast

theorem insertInMRU_mostRecent (behind : DirName) (mru : MruList) {newbuf : DirName}
    (h : newbuf ≠ .blank) : MostRecent mru newbuf (insertInMRU behind mru newbuf) where
  slots := by rw [insertInMRU_eq, Recency.touch, mru.property]
  head := rfl
  distinct hd := by
    rw [insertInMRU_eq]
    exact Recency.nodup_touch h hd
  lost name hname hlost := by
    rw [insertInMRU_eq] at hlost
    exact Recency.lost_of_touch hname hlost

/-- For every list and every sequence of insertions of nonblank names: each insertion keeps
its promise, and names that are distinct at the start stay distinct. -/
theorem insertAll_mostRecent (mru : MruList) (calls : List (DirName × DirName))
    (hcalls : ∀ call ∈ calls, call.1 ≠ .blank) :
    (∀ before call after, calls = before ++ call :: after →
      MostRecent (insertAll mru before) call.1 (insertAll mru (before ++ [call]))) ∧
    (∀ call ∈ calls.getLast?, (insertAll mru calls).val.head? = some call.1) ∧
    ((Recency.names .blank mru.val).Nodup →
      (Recency.names .blank (insertAll mru calls).val).Nodup) := by
  have hsnoc (before : List (DirName × DirName)) (call : DirName × DirName) :
      insertAll mru (before ++ [call]) = insertInMRU call.2 (insertAll mru before) call.1 := by
    rw [insertAll, List.foldl_append]
    rfl
  refine ⟨?_, ?_, ?_⟩
  · rintro before call after rfl
    rw [hsnoc]
    exact insertInMRU_mostRecent _ _ (hcalls call (by simp))
  · intro call hcall
    obtain ⟨before, rfl⟩ := List.getLast?_eq_some_iff.mp hcall
    rw [hsnoc]
    rfl
  · intro hmru
    induction calls using List.reverseRecOn with
    | nil => exact hmru
    | append_singleton before call ih =>
      rw [hsnoc]
      have hrest := ih fun c hc => hcalls c (List.mem_append_left _ hc)
      exact (insertInMRU_mostRecent _ _ (hcalls call (by simp))).distinct hrest

def dirA : DirName := ⟨CStrings.bytes "/data/a", by decide⟩

def dirB : DirName := ⟨CStrings.bytes "/data/b", by decide⟩

theorem insertAll_mostRecent_of_repeated :
    (∀ before call after, [(dirA, .blank), (dirB, dirA), (dirA, dirA)] = before ++ call :: after →
      MostRecent (insertAll ⟨[dirB, .blank, dirB, .blank], rfl⟩ before) call.1
        (insertAll ⟨[dirB, .blank, dirB, .blank], rfl⟩ (before ++ [call]))) ∧
    (∀ call ∈ [(dirA, DirName.blank), (dirB, dirA), (dirA, dirA)].getLast?,
      (insertAll ⟨[dirB, .blank, dirB, .blank], rfl⟩
        [(dirA, .blank), (dirB, dirA), (dirA, dirA)]).val.head? = some call.1) ∧
    ((Recency.names .blank [dirB, .blank, dirB, .blank]).Nodup →
      (Recency.names .blank (insertAll ⟨[dirB, .blank, dirB, .blank], rfl⟩
        [(dirA, .blank), (dirB, dirA), (dirA, dirA)]).val).Nodup) :=
  insertAll_mostRecent ⟨[dirB, .blank, dirB, .blank], rfl⟩
    [(dirA, .blank), (dirB, dirA), (dirA, dirA)] (by decide)

end Settings
