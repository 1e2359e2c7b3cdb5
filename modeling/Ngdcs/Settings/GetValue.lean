import Ngdcs.Lib.Stores
import Ngdcs.Settings.File

/-! `getValue` on its arrays: the buffer that `fgets` fills, which may be read up to the NUL that
`fgets` stores, and the `MAX_NGDCS_LINE_LEN+1` bytes for the value. -/
namespace Settings

open CStrings TextLines Stores

/-- `strncmp(s, t, n) == 0`, where `s` and `t` run to the ends of what may be read; `none` where
one of them is read beyond its end. -/
def strncmpZero : ℕ → List UInt8 → List UInt8 → Option Bool
  | 0, _, _ => some true
  | n + 1, a :: s, b :: t =>
    if a ≠ b then some false else if a = 0 then some true else strncmpZero n s t
  | _ + 1, _, _ => none

/-- `while (*p != '\n') *q++ = *p++; *q = '\0'`, with the index of `q` in `value`. -/
def copyValue : List UInt8 → List UInt8 → ℕ → Option (List UInt8)
  | [], _, _ => none
  | c :: p, value, q =>
    if c = 10 then store value q 0
    else (store value q c).bind fun value => copyValue p value (q + 1)

/-- The loop of `getValue` over what `fgets` returns: `some none` where it returns -1, and `none`
where it leaves its arrays. `value` is the array that is allocated. -/
def getValueLoop (key value : List UInt8) : List (List UInt8) → Option (Option (List UInt8))
  | [] => some none
  | piece :: pieces => do
    let buf := piece ++ [0]
    let startsWithKey ← strncmpZero key.length buf (key ++ [0])
    if startsWithKey then
      let p := buf.drop key.length
      let delimited ← strncmpZero 3 p (bytes " = " ++ [0])
      if delimited then
        let value ← copyValue (p.drop 3) value 0
        return some value
      else getValueLoop key value pieces
    else getValueLoop key value pieces

/-- `SettingsBlock::getValue` -/
def getValueArrays (file key value : List UInt8) : Option (Option (List UInt8)) :=
  getValueLoop key value (fgetsAll maxNgdcsLineLen file)

/-! ### One piece -/

theorem strncmpZero_eq {t : List UInt8} (ht : 0 ∉ t) (s u : List UInt8) :
    strncmpZero t.length (s ++ [0]) (t ++ u) = some (decide (t <+: s)) := by
  induction t generalizing s with
  | nil => simp [strncmpZero]
  | cons b t ih =>
    obtain ⟨hb, hrest⟩ := not_or.mp (List.mem_cons.not.mp ht)
    cases s with
    | nil =>
      rw [List.length_cons, List.nil_append, List.cons_append, strncmpZero, if_pos hb]
      simp
    | cons a s =>
      rw [List.length_cons, List.cons_append, List.cons_append, strncmpZero]
      by_cases hab : a = b
      · subst hab
        rw [if_neg (not_not.mpr rfl), if_neg (Ne.symm hb), ih hrest]
        simp
      · rw [if_pos hab]
        simp [List.cons_prefix_cons, Ne.symm hab]

/-- The text in front of the newline is stored, with a NUL after it. -/
theorem copyValue_newline {text : List UInt8} (htext : 10 ∉ text) (rest value : List UInt8)
    (q : ℕ) : copyValue (text ++ 10 :: rest) value q = stores value q (text ++ [0]) := by
  induction text generalizing value q with
  | nil =>
    rw [List.nil_append, copyValue, if_pos rfl, List.nil_append, stores]
    cases store value q 0 <;> rfl
  | cons c text ih =>
    obtain ⟨hc, htext⟩ := not_or.mp (List.mem_cons.not.mp htext)
    rw [List.cons_append, copyValue, if_neg (Ne.symm hc), List.cons_append, stores]
    exact congrArg _ (funext fun value => ih htext value (q + 1))

theorem copyValue_overrun {p : List UInt8} (hp : 10 ∉ p) (value : List UInt8) (q : ℕ) :
    copyValue p value q = none := by
  induction p generalizing value q with
  | nil => rfl
  | cons c p ih =>
    obtain ⟨hc, hp⟩ := not_or.mp (List.mem_cons.not.mp hp)
    rw [copyValue, if_neg (Ne.symm hc), Option.bind_eq_none_iff]
    exact fun value _ => ih hp value (q + 1)

/-- A line with this key. -/
def HasKey (key piece : List UInt8) : Prop := key ++ bytes " = " <+: piece

instance HasKey.decidable (key piece : List UInt8) : Decidable (HasKey key piece) :=
  inferInstanceAs (Decidable (_ <+: _))

/-- What stands behind the key and the delimiter. -/
def behindKey (key piece : List UInt8) : List UInt8 := (piece.drop key.length).drop 3

theorem HasKey.eq {key piece : List UInt8} (h : HasKey key piece) :
    piece = key ++ bytes " = " ++ behindKey key piece := by
  obtain ⟨rest, rfl⟩ := h
  have hdrop : (bytes " = " ++ rest).drop 3 = rest := rfl
  rw [behindKey, List.append_assoc, List.drop_left, hdrop, List.append_assoc]

theorem hasKey_iff (key piece : List UInt8) :
    HasKey key piece ↔ key <+: piece ∧ bytes " = " <+: piece.drop key.length := by
  constructor
  · rintro ⟨rest, rfl⟩
    rw [List.append_assoc, List.drop_left]
    exact ⟨List.prefix_append _ _, List.prefix_append _ _⟩
  · rintro ⟨⟨p, rfl⟩, hdelimiter⟩
    rw [List.drop_left] at hdelimiter
    exact (List.prefix_append_right_inj key).mpr hdelimiter

theorem matchLine_eq (key piece : List UInt8) : matchLine key piece =
    if HasKey key piece then
      if 10 ∈ behindKey key piece then
        .value (((behindKey key piece).takeWhile (· ≠ 10)).takeWhile (· ≠ 0))
      else .overrun
    else .missing := by
  unfold matchLine behindKey
  by_cases hkey : key <+: piece <;>
    by_cases hdelimiter : bytes " = " <+: piece.drop key.length <;>
    simp [hasKey_iff, hkey, hdelimiter]

theorem getValueLoop_cons {key : List UInt8} (hkey : 0 ∉ key) (value piece : List UInt8)
    (pieces : List (List UInt8)) : getValueLoop key value (piece :: pieces) =
      if HasKey key piece then (copyValue (behindKey key piece ++ [0]) value 0).map some
      else getValueLoop key value pieces := by
  rw [getValueLoop]
  by_cases hstarts : key <+: piece
  · have hdrop : (piece ++ [0]).drop key.length = piece.drop key.length ++ [0] := by
      rw [List.drop_append_of_le_length hstarts.length_le]
    simp only [strncmpZero_eq hkey, hstarts, decide_true, hdrop, Option.bind_eq_bind,
      Option.bind_some, if_true]
    rw [show 3 = (bytes " = ").length from rfl, strncmpZero_eq (by decide), Option.bind_some]
    by_cases hdelimiter : bytes " = " <+: piece.drop key.length
    · have hrest : (piece.drop key.length ++ [0]).drop (bytes " = ").length =
          behindKey key piece ++ [0] := by
        rw [List.drop_append_of_le_length hdelimiter.length_le]
        rfl
      rw [if_pos ((hasKey_iff key piece).mpr ⟨hstarts, hdelimiter⟩), hrest]
      simp only [hdelimiter, decide_true, if_true]
      cases copyValue (behindKey key piece ++ [0]) value 0 <;> rfl
    · rw [if_neg fun h => hdelimiter ((hasKey_iff key piece).mp h).2]
      simp [hdelimiter]
  · rw [if_neg fun h => hstarts ((hasKey_iff key piece).mp h).1]
    simp [strncmpZero_eq hkey, hstarts]

/-! ### All pieces -/

section

variable {file key value : List UInt8}

/-- The piece that `getValue` takes. -/
def keyPiece (file key : List UInt8) : Option (List UInt8) :=
  (fgetsAll maxNgdcsLineLen file).find? (HasKey key ·)

/-- The piece with the key, if there is one, ends with a newline. -/
def Terminated (file key : List UInt8) : Prop := ∀ piece, keyPiece file key = some piece → 10 ∈ piece

/-- No array is left, and a value that is returned is the text from the delimiter to the end of
its line, with a NUL after it. -/
def Extracts (file key value : List UInt8) : Prop :=
  ∃ out, getValueArrays file key value = some out ∧ ∀ v, out = some v →
    ∃ text, key ++ bytes " = " ++ text ++ [10] ∈ fgetsAll maxNgdcsLineLen file ∧ 10 ∉ text ∧
      text ++ [0] <+: v

theorem getValueLoop_eq (hkey : 0 ∉ key) (pieces : List (List UInt8)) :
    getValueLoop key value pieces = match pieces.find? (HasKey key ·) with
      | none => some none
      | some piece => (copyValue (behindKey key piece ++ [0]) value 0).map some := by
  induction pieces with
  | nil => rfl
  | cons piece pieces ih =>
    rw [getValueLoop_cons hkey]
    by_cases hpiece : HasKey key piece
    · rw [if_pos hpiece, List.find?_cons_of_pos (by simpa using hpiece)]
    · rw [if_neg hpiece, List.find?_cons_of_neg (by simpa using hpiece), ih]

/-- The newline at the end of a piece stands behind the delimiter. -/
theorem HasKey.newline {piece : List UInt8} (h : HasKey key piece)
    (hpiece : Piece maxNgdcsLineLen piece) (hmem : 10 ∈ piece) :
    ∃ text, 10 ∉ text ∧ behindKey key piece = text ++ [10] := by
  obtain ⟨body, hbody, heq⟩ := hpiece.newline hmem
  have hsplit := h.eq
  rcases List.eq_nil_or_concat (behindKey key piece) with hnil | ⟨text, b, hlast⟩
  · rw [hnil, heq] at hsplit
    have hend := congrArg List.getLast? hsplit
    rw [List.getLast?_concat] at hend
    simp [show bytes " = " = [32, 61, 32] from rfl] at hend
  · rw [hlast, heq, List.concat_eq_append, ← List.append_assoc] at hsplit
    obtain ⟨hbody', hb⟩ := List.append_inj' hsplit rfl
    refine ⟨text, fun hmem => hbody ?_, ?_⟩
    · rw [hbody']
      exact List.mem_append_right _ hmem
    · rw [hlast, List.concat_eq_append, (List.singleton_inj.mp hb)]

theorem getValueArrays_missing (hkey : 0 ∉ key) (hfind : keyPiece file key = none) :
    getValueArrays file key value = some none := by
  rw [getValueArrays, getValueLoop_eq hkey, ← keyPiece, hfind]

theorem getValueArrays_overrun {piece : List UInt8} (hkey : 0 ∉ key)
    (hfind : keyPiece file key = some piece) (hnewline : 10 ∉ piece) :
    getValueArrays file key value = none := by
  have hhas : HasKey key piece := by simpa using List.find?_some hfind
  have hrest : 10 ∉ behindKey key piece ++ [0] := by
    intro hmem
    apply hnewline
    rw [hhas.eq]
    exact List.mem_append_right _ (by simpa using hmem)
  rw [getValueArrays, getValueLoop_eq hkey, ← keyPiece, hfind]
  exact congrArg (Option.map some) (copyValue_overrun hrest value 0)

theorem getValueArrays_newline {piece : List UInt8} (hkey : 0 ∉ key)
    (hvalue : value.length = maxNgdcsLineLen + 1) (hfind : keyPiece file key = some piece)
    (hnewline : 10 ∈ piece) : ∃ text, 10 ∉ text ∧ behindKey key piece = text ++ [10] ∧
      getValueArrays file key value = some (some (overwrite value 0 (text ++ [0]))) := by
  have hhas : HasKey key piece := by simpa using List.find?_some hfind
  have hpiece := fgetsAll_piece (List.mem_of_find?_eq_some hfind)
  obtain ⟨text, htext, hbehind⟩ := hhas.newline hpiece hnewline
  have hlength : text.length + 1 ≤ maxNgdcsLineLen := by
    have h := congrArg List.length hhas.eq
    have hle := hpiece.length_le
    simp only [hbehind, List.length_append, List.length_singleton] at h
    omega
  have hroom : 0 + (text ++ [0]).length ≤ value.length := by
    rw [List.length_append, List.length_singleton, hvalue]
    omega
  have hcopy : copyValue (behindKey key piece ++ [0]) value 0 =
      some (overwrite value 0 (text ++ [0])) := by
    rw [hbehind, List.append_assoc, List.singleton_append, copyValue_newline htext,
      stores_eq hroom]
  refine ⟨text, htext, hbehind, ?_⟩
  rw [getValueArrays, getValueLoop_eq hkey, ← keyPiece, hfind]
  exact congrArg (Option.map some) hcopy

theorem findLine_eq (pieces : List (List UInt8)) :
    findLine key pieces = match pieces.find? (HasKey key ·) with
      | none => .missing
      | some piece => matchLine key piece := by
  induction pieces with
  | nil => rfl
  | cons piece pieces ih =>
    by_cases hpiece : HasKey key piece
    · have hmatch : matchLine key piece ≠ .missing := by
        rw [matchLine_eq, if_pos hpiece]
        split_ifs <;> exact nofun
      rw [List.find?_cons_of_pos (by simpa using hpiece), findLine]
      cases hfound : matchLine key piece with
      | missing => exact absurd hfound hmatch
      | value v => exact hfound.symm
      | overrun => exact hfound.symm
    · have hmatch : matchLine key piece = .missing := by rw [matchLine_eq, if_neg hpiece]
      rw [List.find?_cons_of_neg (by simpa using hpiece), findLine, hmatch]
      exact ih

/-- The value in the array, up to its first NUL, is the one of `getValue`. -/
theorem getValue_eq (hkey : 0 ∉ key) (hvalue : value.length = maxNgdcsLineLen + 1) :
    getValue file key = match getValueArrays file key value with
      | none => .overrun
      | some none => .missing
      | some (some v) => .value (v.takeWhile (· ≠ 0)) := by
  rw [getValue, findLine_eq, ← keyPiece]
  cases hfind : keyPiece file key with
  | none => rw [getValueArrays_missing hkey hfind]
  | some piece =>
    have hhas : HasKey key piece := by simpa using List.find?_some hfind
    simp only [matchLine_eq, if_pos hhas]
    by_cases hnewline : 10 ∈ piece
    · obtain ⟨text, htext, hbehind, harrays⟩ := getValueArrays_newline hkey hvalue hfind hnewline
      have htake : (overwrite value 0 (text ++ [0])).takeWhile (· ≠ 0) =
          text.takeWhile (· ≠ 0) := by
        rw [overwrite, List.take_zero, List.nil_append, List.append_assoc, List.singleton_append]
        exact takeWhile_append_nul text _
      rw [harrays, hbehind, if_pos (by simp), takeWhile_ne_append htext]
      simp only [htake]
    · have hbehind : 10 ∉ behindKey key piece := by
        intro hmem
        apply hnewline
        rw [hhas.eq]
        exact List.mem_append_right _ hmem
      rw [getValueArrays_overrun hkey hfind hnewline, if_neg hbehind]

/-- `getValue` stays in its arrays, and returns the text of the line, exactly when the piece in
which it finds the key ends with a newline. -/
theorem extracts_iff (hkey : 0 ∉ key) (hvalue : value.length = maxNgdcsLineLen + 1) :
    Extracts file key value ↔ Terminated file key := by
  constructor
  · rintro ⟨out, hout, -⟩ piece hfind
    by_contra hnewline
    rw [getValueArrays_overrun hkey hfind hnewline] at hout
    cases hout
  · intro hterminated
    cases hfind : keyPiece file key with
    | none => exact ⟨none, getValueArrays_missing hkey hfind, nofun⟩
    | some piece =>
      obtain ⟨text, htext, hbehind, harrays⟩ :=
        getValueArrays_newline hkey hvalue hfind (hterminated piece hfind)
      refine ⟨_, harrays, ?_⟩
      rintro _ ⟨⟩
      have hhas : HasKey key piece := by simpa using List.find?_some hfind
      have hline := hhas.eq
      rw [hbehind, ← List.append_assoc] at hline
      exact ⟨text, hline ▸ List.mem_of_find?_eq_some hfind, htext, ⟨_, rfl⟩⟩

end

/-- A file with two lines of which the second has a text of its own. -/
def exampleFile : List UInt8 := bytes "mode = Test" ++ [10] ++ bytes "prefix = NGDCS" ++ [10]

theorem extracts_example :
    Extracts exampleFile (bytes "prefix") (List.replicate 257 7) :=
  (extracts_iff (by decide) List.length_replicate).mpr (by
    intro piece hfind
    have hpiece : keyPiece exampleFile (bytes "prefix") = some (bytes "prefix = NGDCS" ++ [10]) := by
      decide +kernel
    rw [hpiece] at hfind
    cases hfind
    decide)

/-- The last line of a file that was cut off has no newline. -/
theorem not_extracts_cut_off :
    ¬∀ file key value, 0 ∉ key → value.length = maxNgdcsLineLen + 1 → Extracts file key value := by
  intro h
  obtain ⟨out, hout, -⟩ :=
    h (bytes "mode = Te") (bytes "mode") (List.replicate 257 0) (by decide)
      List.length_replicate
  have hnone : getValueArrays (bytes "mode = Te") (bytes "mode") (List.replicate 257 0) = none := by
    decide +kernel
  rw [hnone] at hout
  cases hout

end Settings
