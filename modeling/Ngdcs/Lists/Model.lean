import Mathlib.Algebra.Order.Group.Int
import Mathlib.Data.List.Basic
import Mathlib.Logic.Function.Basic

/-! `SL_List` of `lists.h` and `lists.cc`: an array that is doubled when it is full, and the
scan points of up to `MAX_SCAN_PTS` nested scans. A macro argument `index` is an expression
that the macro evaluates anew wherever it stands, so it is a function of the list here. -/
namespace Lists

variable {T : Type*}

def maxScanPts : ℤ := 4

/-- `scan_pts[i]` is the number of items before the cursor of scan `i`; the scans are numbered
from the outermost, and `current_scan` is −1 when there is none. -/
structure SLList (T : Type*) where
  items : ℤ → T
  currentItems : ℕ
  maxItems : ℕ
  scanPts : ℤ → ℤ
  currentScan : ℤ
  failed : Bool

/-- The loop of `INSERT`: from `i` down, `count` items move up by one. -/
def shiftUp (items : ℤ → T) (i : ℤ) : ℕ → ℤ → T
  | 0 => items
  | count + 1 => shiftUp (Function.update items (i + 1) (items i)) (i - 1) count

/-- The loop of `REMOVE`: from `i` up, `count` items move down by one. -/
def shiftDown (items : ℤ → T) (i : ℤ) : ℕ → ℤ → T
  | 0 => items
  | count + 1 => shiftDown (Function.update items (i - 1) (items i)) (i + 1) count

namespace SLList

/-- The constructor; the new array holds whatever is there. -/
def initial (items : ℤ → T) : SLList T where
  items := items
  currentItems := 0
  maxItems := 8
  scanPts := fun _ => 0
  currentScan := -1
  failed := false

/-- The items in the list. -/
def contents (s : SLList T) : List T :=
  (List.range s.currentItems).map fun j : ℕ => s.items j

/-- `PREPARE_TO_EXPAND_LIST`; the items are copied to the new array. -/
def prepareToExpand (s : SLList T) : SLList T :=
  if s.currentItems = s.maxItems then { s with maxItems := 2 * s.maxItems } else s

/-- `ADD_TO_LIST` -/
def addToList (s : SLList T) (p : T) : SLList T :=
  let s := s.prepareToExpand
  { s with
    items := Function.update s.items s.currentItems p
    currentItems := s.currentItems + 1
    failed := false }

/-- One iteration of the last loop of `INSERT` (`d` is 1) and of `REMOVE` (`d` is −1). -/
def adjustScanPt (index : SLList T → ℤ) (d : ℤ) (s : SLList T) (i : ℕ) : SLList T :=
  if index s ≤ s.scanPts i - 1 then
    { s with scanPts := Function.update s.scanPts i (s.scanPts i + d) }
  else s

def adjustScanPts (s : SLList T) (index : SLList T → ℤ) (d : ℤ) : SLList T :=
  (List.range (s.currentScan + 1).toNat).foldl (adjustScanPt index d) s

/-- `INSERT` -/
def insertAt (s : SLList T) (p : T) (index : SLList T → ℤ) : SLList T :=
  let s := s.prepareToExpand
  let s := { s with
    items := shiftUp s.items (s.currentItems - 1) (s.currentItems - index s).toNat }
  let s := { s with items := Function.update s.items (index s) p }
  let s := { s with currentItems := s.currentItems + 1 }
  let s := s.adjustScanPts index 1
  { s with failed := false }

/-- `REMOVE` -/
def removeAt (s : SLList T) (index : SLList T → ℤ) : Option T × SLList T :=
  if s.currentItems = 0 ∨ index s < 0 ∨ s.currentItems ≤ index s then
    (none, { s with failed := true })
  else
    let p := s.items (index s)
    let s := { s with
      items := shiftDown s.items (index s + 1) (s.currentItems - (index s + 1)).toNat }
    let s := { s with currentItems := s.currentItems - 1 }
    let s := s.adjustScanPts index (-1)
    (some p, { s with failed := false })

def add (s : SLList T) (p : T) : Option T × SLList T := (some p, s.addToList p)

/-- `insert(T p)` -/
def insert (s : SLList T) (p : T) : Option T × SLList T := (some p, s.insertAt p fun _ => 0)

/-- `insert(T p, int (*func)(T orig, T p))` and the versions that hand more to `func`. -/
def insertPlaced (s : SLList T) (p : T) (func : T → T → ℤ) : Option T × SLList T :=
  let i := s.contents.findIdx fun orig => func orig p ≠ 0
  let status := if i < s.currentItems then func (s.items i) p else 0
  if status ≠ 2 then (some p, s.insertAt p fun _ => i)
  else (some p, { s with items := Function.update s.items i p })

def insertBeforeCurrent (s : SLList T) (p : T) : Option T × SLList T :=
  if s.currentScan = -1 then (none, { s with failed := true })
  else if s.scanPts s.currentScan - 1 < 0 then (none, { s with failed := true })
  else (some p, s.insertAt p fun s => s.scanPts s.currentScan - 1)

/-- `remove_first(void)` -/
def removeFirst (s : SLList T) : Option T × SLList T :=
  let s := { s with failed := false }
  if s.currentItems = 0 then (none, s) else s.removeAt fun _ => 0

/-- `remove_first(int (*func)(T p))` and the versions that hand more to `func`. -/
def removeFirstMatching (s : SLList T) (func : T → Bool) : Option T × SLList T :=
  let s := { s with failed := false }
  if s.currentItems = 0 then (none, s)
  else
    let sp := s.contents.findIdx func
    if sp = s.currentItems then (none, s) else s.removeAt fun _ => sp

def removeLast (s : SLList T) : Option T × SLList T :=
  let s := { s with failed := false }
  if s.currentItems = 0 then (none, s) else s.removeAt fun s => s.currentItems - 1

def removeCurrent (s : SLList T) : Option T × SLList T :=
  if s.currentScan = -1 then (none, { s with failed := true })
  else s.removeAt fun s => s.scanPts s.currentScan - 1

def removePrevious (s : SLList T) : Option T × SLList T :=
  if s.currentScan = -1 then (none, { s with failed := true })
  else if s.scanPts s.currentScan - 2 < 0 then (none, { s with failed := true })
  else s.removeAt fun s => s.scanPts s.currentScan - 2

def initScan (s : SLList T) : ℤ × SLList T :=
  if maxScanPts ≤ s.currentScan + 1 then (-1, { s with failed := true })
  else
    (0, { s with
      currentScan := s.currentScan + 1
      scanPts := Function.update s.scanPts (s.currentScan + 1) 0
      failed := false })

/-- `next(void)` -/
def next (s : SLList T) : Option T × SLList T :=
  let c := s.scanPts s.currentScan
  if c = s.currentItems then (none, { s with currentScan := s.currentScan - 1 })
  else
    (some (s.items c), { s with scanPts := Function.update s.scanPts s.currentScan (c + 1) })

def previous (s : SLList T) : Option T × SLList T :=
  let c := s.scanPts s.currentScan
  if c < 2 then (none, s)
  else
    (some (s.items (c - 1 - 1)),
      { s with scanPts := Function.update s.scanPts s.currentScan (c - 1) })

def scanDone (s : SLList T) : ℤ × SLList T :=
  if s.currentScan < 0 then (-1, { s with failed := true })
  else (0, { s with currentScan := s.currentScan - 1, failed := false })

end SLList

inductive Operation (T : Type*) where
  | add (p : T)
  | insert (p : T)
  | insertPlaced (p : T) (func : T → T → ℤ)
  | insertBeforeCurrent (p : T)
  | removeFirst
  | removeFirstMatching (func : T → Bool)
  | removeLast
  | removeCurrent
  | removePrevious
  | initScan
  | next
  | previous
  | scanDone

/-- What a call returns: an item, where `none` is NULL, or a status. -/
inductive Result (T : Type*) where
  | item (p : Option T)
  | status (i : ℤ)
  deriving DecidableEq

/-- An operation that returns an item. -/
def Result.ofItem {σ : Type*} (r : Option T × σ) : Result T × σ := (.item r.1, r.2)

/-- An operation that returns a status. -/
def Result.ofStatus {σ : Type*} (r : ℤ × σ) : Result T × σ := (.status r.1, r.2)

open Result in
/-- `next` and `previous` look at `scan_pts[current_scan]` without a check, so they are calls
only while a scan is active. -/
def perform (s : SLList T) : Operation T → Option (Result T × SLList T)
  | .add p => some (ofItem (s.add p))
  | .insert p => some (ofItem (s.insert p))
  | .insertPlaced p func => some (ofItem (s.insertPlaced p func))
  | .insertBeforeCurrent p => some (ofItem (s.insertBeforeCurrent p))
  | .removeFirst => some (ofItem s.removeFirst)
  | .removeFirstMatching func => some (ofItem (s.removeFirstMatching func))
  | .removeLast => some (ofItem s.removeLast)
  | .removeCurrent => some (ofItem s.removeCurrent)
  | .removePrevious => some (ofItem s.removePrevious)
  | .initScan => some (ofStatus s.initScan)
  | .next => if s.currentScan < 0 then none else some (ofItem s.next)
  | .previous => if s.currentScan < 0 then none else some (ofItem s.previous)
  | .scanDone => some (ofStatus s.scanDone)

end Lists
