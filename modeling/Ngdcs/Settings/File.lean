import Mathlib.Data.Fin.VecNotation
import Mathlib.Data.List.Nodup
import Ngdcs.Lib.CStrings
import Ngdcs.Lib.TextLines

/-! The saved-settings file of `SettingsBlock` (`settingsBlock.cpp`): how its lines are written,
and how a key is looked for in them. -/
namespace Settings

open CStrings TextLines

/-- `MAX_NGDCS_LINE_LEN` -/
def maxNgdcsLineLen : ℕ := 256

/-- A key, and the value that is printed after it; `none` where the index of an array is out of
bounds. -/
abbrev Entry := List UInt8 × Option (List UInt8)

/-- `"%s = %s\n"` -/
def savedLine (key value : List UInt8) : List UInt8 := key ++ bytes " = " ++ value ++ [10]

/-- `"%s = %d\n"` -/
def intEntry (key : String) (i : ℤ) : Entry := (bytes key, some (printInt i))

/-- The option with the index `i`. -/
def indexEntry (key : String) (strings : List (List UInt8)) (i : ℕ) : Entry :=
  (bytes key, strings[i]?)

def stringEntry (key : String) (value : List UInt8) : Entry := (bytes key, some value)

/-- `"%s%d"` -/
def mruKey (base : String) (i : Fin 4) : List UInt8 := bytes base ++ printNat i

def mruEntries (base : String) (mru : Fin 4 → List UInt8) : List Entry :=
  (List.finRange 4).map fun i => (mruKey base i, some (mru i))

def saveLine (e : Entry) : Option (List UInt8) := e.2.map (savedLine e.1)

/-- The text that is written. -/
def saveLines (entries : List Entry) : Option (List UInt8) :=
  (entries.mapM saveLine).map List.flatten

/-! ### Looking for a key -/

/-- What `getValue` finds; `overrun` where it copies on beyond a line that has no newline. -/
inductive Found where
  | missing
  | value (v : List UInt8)
  | overrun
  deriving DecidableEq

/-- The comparison of `getValue` with the line in its buffer. No key has a NUL, so that a NUL in
the line ends the comparison; the copy goes on to the newline, and the value ends at the first
NUL that it holds. -/
def matchLine (key buf : List UInt8) : Found :=
  if key <+: buf then
    let p := buf.drop key.length
    if bytes " = " <+: p then
      let p := p.drop 3
      if 10 ∈ p then .value ((p.takeWhile (· ≠ 10)).takeWhile (· ≠ 0)) else .overrun
    else .missing
  else .missing

def findLine (key : List UInt8) : List (List UInt8) → Found
  | [] => .missing
  | buf :: bufs =>
    match matchLine key buf with
    | .missing => findLine key bufs
    | found => found

/-- `SettingsBlock::getValue` -/
def getValue (file key : List UInt8) : Found := findLine key (fgetsAll maxNgdcsLineLen file)

/-- `getValue`, where the setting keeps its value if the key is missing. -/
def getString (file : List UInt8) (key : String) (setting : List UInt8) :
    Option (List UInt8) :=
  match getValue file (bytes key) with
  | .missing => some setting
  | .value buf => some buf
  | .overrun => none

/-- `SettingsBlock::getIntValue` -/
def getIntValue (file : List UInt8) (key : String) (setting min max : ℤ) : Option ℤ :=
  match getValue file (bytes key) with
  | .missing => some setting
  | .value buf =>
    let r := strtol buf
    if r.2 ≠ [] then some setting
    else
      let i := longToInt r.1
      some (if i < min then min else if max < i then max else i)
  | .overrun => none

/-- `SettingsBlock::stringToIndex` -/
def stringToIndex (string : List UInt8) (strings : List (List UInt8)) : ℕ :=
  (strings.idxOf? string).getD 0

/-- `SettingsBlock::getIndex` -/
def getIndex (file : List UInt8) (key : String) (strings : List (List UInt8)) (setting : ℕ) :
    Option ℕ :=
  match getValue file (bytes key) with
  | .missing => some setting
  | .value buf => some (stringToIndex buf strings)
  | .overrun => none

/-- One turn of the loop of `getMRU`. -/
def getSlot (file : List UInt8) (base : String) (mru : Fin 4 → List UInt8) (i : Fin 4) :
    Option (List UInt8) :=
  match getValue file (mruKey base i) with
  | .missing => some (mru i)
  | .value buf => some buf
  | .overrun => none

/-- `SettingsBlock::getMRU` -/
def getMRU (file : List UInt8) (base : String) (mru : Fin 4 → List UInt8) :
    Option (Fin 4 → List UInt8) := do
  let s0 ← getSlot file base mru 0
  let s1 ← getSlot file base mru 1
  let s2 ← getSlot file base mru 2
  let s3 ← getSlot file base mru 3
  return ![s0, s1, s2, s3]

/-! ### Saved lines -/

/-- The text of a key. -/
structure PlainKey (key : List UInt8) : Prop where
  blank : 32 ∉ key
  newline : 10 ∉ key
  nul : 0 ∉ key

/-- The value of an entry is text within one line, and the line is not longer than the buffer of
`getValue`. -/
def FitsLine (e : Entry) : Prop :=
  ∃ v, e.2 = some v ∧ 10 ∉ v ∧ 0 ∉ v ∧ (savedLine e.1 v).length ≤ maxNgdcsLineLen

instance FitsLine.decidable (e : Entry) : Decidable (FitsLine e) :=
  match h : e.2 with
  | none => isFalse fun ⟨_, hv, _⟩ => nomatch h.symm.trans hv
  | some v => decidable_of_iff
      (10 ∉ v ∧ 0 ∉ v ∧ (savedLine e.1 v).length ≤ maxNgdcsLineLen)
      ⟨fun hv => ⟨v, h, hv⟩, fun ⟨_, hw, hv⟩ => Option.some.inj (h.symm.trans hw) ▸ hv⟩

theorem matchLine_savedLine {key k v : List UInt8} (hkey : PlainKey key) (hk : PlainKey k)
    (hnewline : 10 ∉ v) (hnul : 0 ∉ v) :
    matchLine key (savedLine k v) = if k = key then .value v else .missing := by
  have hline : savedLine k v = k ++ 32 :: (61 :: 32 :: v ++ [10]) := by
    simp [savedLine, show bytes " = " = [32, 61, 32] from rfl]
  unfold matchLine
  simp only
  by_cases hsame : k = key
  · subst hsame
    have hrest : (savedLine k v).drop k.length = bytes " = " ++ (v ++ [10]) := by
      simp [savedLine]
    have hdrop : (bytes " = " ++ (v ++ [10])).drop 3 = v ++ [10] := rfl
    rw [if_pos (by simp [savedLine]), hrest, if_pos (List.prefix_append _ _), hdrop,
      if_pos (by simp), takeWhile_ne_append hnewline, takeWhile_ne hnul, if_pos rfl]
  · have hnot : ¬(key <+: savedLine k v ∧ bytes " = " <+: (savedLine k v).drop key.length) := by
      rintro ⟨⟨rest, hrest⟩, hdelimiter⟩
      rw [← hrest, List.drop_left] at hdelimiter
      obtain ⟨rest', rfl⟩ := hdelimiter
      -- both keys end at the first blank
      have htake := congrArg (List.takeWhile (· ≠ 32)) (hrest.trans hline)
      rw [takeWhile_ne_append hk.blank] at htake
      exact hsame (htake.symm.trans (takeWhile_ne_append hkey.blank))
    rw [if_neg hsame]
    by_cases hstarts : key <+: savedLine k v
    · rw [if_pos hstarts, if_neg fun h => hnot ⟨hstarts, h⟩]
    · rw [if_neg hstarts]

/-- The value of the entry is what `getValue` finds. -/
def Saved (file : List UInt8) (e : Entry) : Prop :=
  ∃ v, e.2 = some v ∧ getValue file e.1 = .value v

variable {entries : List Entry}

/-- The line of an entry that has a value. -/
def lineOf (e : Entry) : List UInt8 := savedLine e.1 (e.2.getD [])

theorem mapM_saveLine (hfits : ∀ e ∈ entries, FitsLine e) :
    entries.mapM saveLine = some (entries.map lineOf) := by
  induction entries with
  | nil => rfl
  | cons e entries ih =>
    obtain ⟨v, hv, -⟩ := hfits e List.mem_cons_self
    have hline : saveLine e = some (lineOf e) := by rw [saveLine, lineOf, hv]; rfl
    rw [List.mapM_cons, hline, ih fun e' he' => hfits e' (List.mem_cons_of_mem e he')]
    rfl

theorem lineOf_fits {e : Entry} (hfits : FitsLine e) (hkey : PlainKey e.1) :
    FitsBuffer maxNgdcsLineLen (lineOf e) := by
  obtain ⟨v, hv, hnewline, -, hlength⟩ := hfits
  have hline : lineOf e = savedLine e.1 v := by rw [lineOf, hv]; rfl
  rw [hline]
  refine ⟨⟨e.1 ++ bytes " = " ++ v, ?_, rfl⟩, hlength⟩
  simp [hkey.newline, hnewline, show bytes " = " = [32, 61, 32] from rfl]

/-- Each key is found in its own line. -/
theorem findLine_lineOf (hkeys : ∀ e ∈ entries, PlainKey e.1)
    (hfits : ∀ e ∈ entries, FitsLine e) (hnodup : (entries.map Prod.fst).Nodup) {e : Entry}
    (he : e ∈ entries) : ∃ v, e.2 = some v ∧ findLine e.1 (entries.map lineOf) = .value v := by
  induction entries with
  | nil => cases he
  | cons e' entries ih =>
    obtain ⟨v', hv', hnewline, hnul, -⟩ := hfits e' List.mem_cons_self
    have hline : lineOf e' = savedLine e'.1 v' := by rw [lineOf, hv']; rfl
    have hmatch := matchLine_savedLine (hkeys e he) (hkeys e' List.mem_cons_self) hnewline hnul
    rw [List.map_cons, List.nodup_cons] at hnodup
    rw [List.map_cons, findLine, hline, hmatch]
    rcases List.mem_cons.mp he with rfl | hrest
    · exact ⟨v', hv', by rw [if_pos rfl]⟩
    · have hne : e'.1 ≠ e.1 := fun h => hnodup.1 (h ▸ List.mem_map_of_mem hrest)
      rw [if_neg hne]
      exact ih (fun f hf => hkeys f (List.mem_cons_of_mem e' hf))
        (fun f hf => hfits f (List.mem_cons_of_mem e' hf)) hnodup.2 hrest

theorem saveLines_saved (hkeys : ∀ e ∈ entries, PlainKey e.1)
    (hfits : ∀ e ∈ entries, FitsLine e) (hnodup : (entries.map Prod.fst).Nodup) :
    ∃ file, saveLines entries = some file ∧ ∀ e ∈ entries, Saved file e := by
  refine ⟨(entries.map lineOf).flatten, by rw [saveLines, mapM_saveLine hfits]; rfl, ?_⟩
  intro e he
  obtain ⟨v, hv, hfind⟩ := findLine_lineOf hkeys hfits hnodup he
  have hlines : fgetsAll maxNgdcsLineLen (entries.map lineOf).flatten = entries.map lineOf := by
    apply fgetsAll_flatten
    intro line hline
    obtain ⟨f, hf, rfl⟩ := List.mem_map.mp hline
    exact lineOf_fits (hfits f hf) (hkeys f hf)
  exact ⟨v, hv, by rw [getValue, hlines]; exact hfind⟩

/-! ### Values that fit -/

section Fits

variable {key : String} (hkey : (bytes key).length ≤ 100)

include hkey

theorem fitsLine_of_length {v : List UInt8} (hnewline : 10 ∉ v) (hnul : 0 ∉ v)
    (hv : v.length ≤ 100) : FitsLine (bytes key, some v) := by
  refine ⟨v, rfl, hnewline, hnul, ?_⟩
  simp only [savedLine, List.length_append, show (bytes " = ").length = 3 from rfl,
    List.length_singleton, maxNgdcsLineLen]
  omega

theorem fitsLine_int {i min max : ℤ} (hrange : min ≤ i ∧ i ≤ max)
    (hint : -2 ^ 31 < min ∧ max < 2 ^ 31) : FitsLine (intEntry key i) := by
  have hi : |i| < 10 ^ (9 + 1) := abs_lt.mpr (by omega)
  have hlength : (printInt i).length ≤ 11 := length_printInt hi
  exact fitsLine_of_length hkey (notMem_printInt (by decide)) (notMem_printInt (by decide))
    (by omega)

theorem fitsLine_index {strings : List (List UInt8)}
    (hstrings : ∀ s ∈ strings, 10 ∉ s ∧ 0 ∉ s ∧ s.length ≤ 100) {i : ℕ}
    (hi : i < strings.length) : FitsLine (indexEntry key strings i) := by
  obtain ⟨hnewline, hnul, hlength⟩ := hstrings _ (List.getElem_mem hi)
  rw [indexEntry, List.getElem?_eq_getElem hi]
  exact fitsLine_of_length hkey hnewline hnul hlength

end Fits

/-! ### Reading what was saved -/

variable {file : List UInt8}

theorem getString_saved {key : String} {s : List UInt8} (h : Saved file (stringEntry key s))
    (setting : List UInt8) : getString file key setting = some s := by
  obtain ⟨v, ⟨⟩, hfind⟩ := h
  unfold getString
  rw [stringEntry] at hfind
  rw [hfind]

theorem getIntValue_saved {key : String} {i min max : ℤ} (h : Saved file (intEntry key i))
    (hrange : min ≤ i ∧ i ≤ max) (hint : -2 ^ 31 < min ∧ max < 2 ^ 31) (setting : ℤ) :
    getIntValue file key setting min max = some i := by
  obtain ⟨v, ⟨⟩, hfind⟩ := h
  have hi : |i| < 2 ^ 31 := abs_lt.mpr (by omega)
  have hread : strtol (printInt i) = (i, []) := strtol_printInt (lt_trans hi (by decide))
  unfold getIntValue
  rw [intEntry] at hfind
  simp only [hfind, hread, longToInt_of_abs hi]
  simp [not_lt.mpr hrange.1, not_lt.mpr hrange.2]

theorem getIndex_saved {key : String} {strings : List (List UInt8)} {i : ℕ}
    (h : Saved file (indexEntry key strings i)) (hnodup : strings.Nodup) (setting : ℕ) :
    getIndex file key strings setting = some i := by
  obtain ⟨v, hv, hfind⟩ := h
  obtain ⟨hi, rfl⟩ := List.getElem?_eq_some_iff.mp hv
  have hindex : strings.idxOf? strings[i] = some i := by
    rw [List.idxOf?_eq_some_iff]
    refine ⟨hi, rfl, fun j hj heq => ?_⟩
    exact absurd (hnodup.getElem_inj_iff.mp heq) (Nat.ne_of_lt hj)
  unfold getIndex
  rw [indexEntry] at hfind
  simp only [hfind, stringToIndex, hindex, Option.getD_some]

theorem getMRU_saved {base : String} {mru : Fin 4 → List UInt8}
    (h : ∀ e ∈ mruEntries base mru, Saved file e) (setting : Fin 4 → List UInt8) :
    getMRU file base setting = some mru := by
  have hslot (i : Fin 4) : getSlot file base setting i = some (mru i) := by
    obtain ⟨v, ⟨⟩, hfind⟩ := h (mruKey base i, some (mru i))
      (List.mem_map.mpr ⟨i, List.mem_finRange i, rfl⟩)
    unfold getSlot
    rw [hfind]
  unfold getMRU
  rw [hslot 0, hslot 1, hslot 2, hslot 3]
  have hslots : ![mru 0, mru 1, mru 2, mru 3] = mru := by
    funext i
    match i with
    | 0 => rfl
    | 1 => rfl
    | 2 => rfl
    | 3 => rfl
  exact congrArg some hslots

end Settings
