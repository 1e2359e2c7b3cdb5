import Mathlib.Data.List.TakeDrop
import Mathlib.Logic.Function.Basic
import Ngdcs.Lib.CStrings

/-! `DisplayTab::copyFile`: at exit the end-to-end files are copied to the data directory, and the
temporary files removed. -/
namespace Display
open CStrings

/-- What the operations of the C library come to: whether the files can be opened, after how many
bytes `fread` fails in each turn of the loop, whether `fwrite` writes what it is given, and how
many bytes are in the file if closing it cannot write out the rest. -/
structure CopyOutcomes where
  opensFrom : Bool
  opensTo : Bool
  readError : ℕ → Option ℕ
  writes : ℕ → Bool
  closesWith : Option ℕ

/-- `sizeof(buffer)` -/
def bufferSize : ℕ := 4096

/-- `fread` of what remains of a file: the bytes read, and whether it meets the end of file. -/
def fread (error : Option ℕ) (remaining : List UInt8) : List UInt8 × Bool :=
  match error with
  | none => (remaining.take bufferSize, remaining.length < bufferSize)
  | some n => (remaining.take (min n bufferSize), false)

theorem length_fread_le (error : Option ℕ) (remaining : List UInt8) :
    (fread error remaining).1.length ≤ remaining.length := by
  unfold fread
  split <;> exact (List.take_sublist _ _).length_le

theorem fread_append_drop (error : Option ℕ) (remaining : List UInt8) :
    (fread error remaining).1 ++ remaining.drop (fread error remaining).1.length = remaining := by
  have htake : ∀ n, remaining.take n ++ remaining.drop (remaining.take n).length = remaining := by
    intro n
    rcases le_total n remaining.length with hle | hle
    · rw [List.length_take_of_le hle, List.take_append_drop]
    · rw [List.take_of_length_le hle, List.drop_length, List.append_nil]
  unfold fread
  split <;> exact htake _

/-- Nothing remains behind the end of file. -/
theorem drop_fread_of_feof {error : Option ℕ} {remaining : List UInt8}
    (h : (fread error remaining).2 = true) :
    remaining.drop (fread error remaining).1.length = [] := by
  cases error with
  | some n => cases h
  | none =>
    have hlt : remaining.length < bufferSize := of_decide_eq_true h
    show remaining.drop (remaining.take bufferSize).length = []
    rw [List.take_of_length_le hlt.le, List.drop_length]

/-- What the loop has handed to `fwrite`, `feof(fpIn)` and `writeFailed`. -/
structure CopyLoop where
  out : List UInt8
  feof : Bool
  writeFailed : Bool

/-- The loop from turn `i` on. -/
def copyLoop (o : CopyOutcomes) (i : ℕ) (remaining : List UInt8) (feof : Bool)
    (out : List UInt8) : CopyLoop :=
  let r := fread (o.readError i) remaining
  let feof := feof || r.2
  if _h : r.1 = [] then ⟨out, feof, false⟩
  else if o.writes i then
    copyLoop o (i + 1) (remaining.drop r.1.length) feof (out ++ r.1)
  else ⟨out, feof, true⟩
termination_by remaining.length
decreasing_by
  have hpos := List.length_pos_iff.mpr _h
  have hle := length_fread_le (o.readError i) remaining
  rw [List.length_drop]
  exact Nat.sub_lt (hpos.trans_le hle) hpos

/-- The file after `fclose`. -/
def fclose (o : CopyOutcomes) (out : List UInt8) : List UInt8 :=
  match o.closesWith with
  | none => out
  | some n => out.take n

/-- Paths, and the content of the files there. -/
abbrev FileSystem := List UInt8 → Option (List UInt8)

section Messages

variable (dest source : List UInt8)

def cantReopen : List UInt8 := bytes "Can't reopen end-to-end file \"" ++ source ++ bytes "\"."

def cantCreate : List UInt8 :=
  bytes "Can't create end-to-end file \"" ++ dest ++ bytes "\".  Data is in \"" ++ source ++
    bytes "\"."

end Messages

/-- `DisplayTab::copyFile`: the files afterwards, and the message. -/
def copyFile (o : CopyOutcomes) (fs : FileSystem) (dest source : List UInt8) :
    FileSystem × List UInt8 :=
  match fs source, o.opensFrom with
  | some content, true =>
    if o.opensTo then
      let l := copyLoop o 0 content false []
      let fs := Function.update fs dest (some (fclose o l.out))
      if l.writeFailed then (Function.update fs dest none, cantCreate dest source)
      else if l.feof then (Function.update fs source none, [])
      else (Function.update fs dest none, cantCreate dest source)
    else (fs, cantCreate dest source)
  | _, _ => (fs, cantReopen source)

/-- The source is removed only if the destination is an exact copy; else it is left as it is, and
the destination removed if it was opened. -/
structure CopySafe (o : CopyOutcomes) (fs fs' : FileSystem) (dest source content : List UInt8) :
    Prop where
  removed : fs' source = none → fs' dest = some content
  kept : fs' source ≠ none → fs' source = some content ∧
    fs' dest = if o.opensFrom ∧ o.opensTo then none else fs dest
  others : ∀ path, path ≠ dest → path ≠ source → fs' path = fs path

/-- The turns in which `fread` reads something, and whether it meets the end of file. -/
def readTurns (readError : ℕ → Option ℕ) (i : ℕ) (remaining : List UInt8) (feof : Bool) :
    ℕ × Bool :=
  let r := fread (readError i) remaining
  let feof := feof || r.2
  if h : r.1 = [] then (i, feof)
  else readTurns readError (i + 1) (remaining.drop r.1.length) feof
termination_by remaining.length
decreasing_by
  have hpos := List.length_pos_iff.mpr h
  have hle := length_fread_le (readError i) remaining
  rw [List.length_drop]
  exact Nat.sub_lt (hpos.trans_le hle) hpos

/-- Where the source is read to its end and every write succeeds, closing the destination writes
out the rest of it. -/
def ClosesWhole (o : CopyOutcomes) (content : List UInt8) : Prop :=
  o.opensFrom = true → o.opensTo = true → (readTurns o.readError 0 content false).2 = true →
    (∀ i < (readTurns o.readError 0 content false).1, o.writes i = true) →
      ∀ n, o.closesWith = some n → content.length ≤ n

section Loop

variable {o : CopyOutcomes} {i : ℕ} {remaining out : List UInt8} {feof : Bool}

theorem copyLoop_of_nothing (h : (fread (o.readError i) remaining).1 = []) :
    copyLoop o i remaining feof out =
      ⟨out, feof || (fread (o.readError i) remaining).2, false⟩ := by
  rw [copyLoop]
  simp only [h, dite_true]

theorem copyLoop_of_written (h : (fread (o.readError i) remaining).1 ≠ [])
    (hw : o.writes i = true) :
    copyLoop o i remaining feof out =
      copyLoop o (i + 1) (remaining.drop (fread (o.readError i) remaining).1.length)
        (feof || (fread (o.readError i) remaining).2)
        (out ++ (fread (o.readError i) remaining).1) := by
  rw [copyLoop]
  simp only [dif_neg h, if_pos hw]

theorem copyLoop_of_not_written (h : (fread (o.readError i) remaining).1 ≠ [])
    (hw : ¬o.writes i = true) :
    copyLoop o i remaining feof out =
      ⟨out, feof || (fread (o.readError i) remaining).2, true⟩ := by
  rw [copyLoop]
  simp only [dif_neg h, if_neg hw]

theorem readTurns_of_nothing {readError : ℕ → Option ℕ}
    (h : (fread (readError i) remaining).1 = []) :
    readTurns readError i remaining feof = (i, feof || (fread (readError i) remaining).2) := by
  rw [readTurns]
  simp only [h, dite_true]

theorem readTurns_of_some {readError : ℕ → Option ℕ}
    (h : (fread (readError i) remaining).1 ≠ []) :
    readTurns readError i remaining feof =
      readTurns readError (i + 1) (remaining.drop (fread (readError i) remaining).1.length)
        (feof || (fread (readError i) remaining).2) := by
  rw [readTurns]
  simp only [dif_neg h]

theorem le_readTurns (readError : ℕ → Option ℕ) (i : ℕ) (remaining : List UInt8) (feof : Bool) :
    i ≤ (readTurns readError i remaining feof).1 := by
  induction i, remaining, feof using readTurns.induct readError with
  | case1 i remaining feof r h => rw [readTurns_of_nothing h]
  | case2 i remaining feof r feof' h ih =>
    rw [readTurns_of_some h]
    exact (Nat.le_succ i).trans ih

/-- The loop ends well if and only if every turn in which something is read also writes it. -/
theorem writeFailed_copyLoop (o : CopyOutcomes) (i : ℕ) (remaining : List UInt8) (feof : Bool)
    (out : List UInt8) :
    (copyLoop o i remaining feof out).writeFailed = false ↔
      ∀ j, i ≤ j → j < (readTurns o.readError i remaining feof).1 → o.writes j = true := by
  induction i, remaining, feof, out using copyLoop.induct o with
  | case1 i remaining feof out r h =>
    rw [copyLoop_of_nothing h, readTurns_of_nothing h]
    exact iff_of_true rfl fun j hle hlt => absurd hle hlt.not_ge
  | case2 i remaining feof out r feof' h hw ih =>
    rw [copyLoop_of_written h hw, readTurns_of_some h, ih]
    constructor
    · intro hall j hle hlt
      rcases hle.eq_or_lt with rfl | hle
      · exact hw
      · exact hall j hle hlt
    · exact fun hall j hle hlt => hall j ((Nat.le_succ i).trans hle) hlt
  | case3 i remaining feof out r h hw =>
    rw [copyLoop_of_not_written h hw, readTurns_of_some h]
    refine iff_of_false Bool.noConfusion fun hall => hw (hall i le_rfl ?_)
    exact Nat.lt_of_succ_le (le_readTurns _ _ _ _)

theorem feof_copyLoop (h : (copyLoop o i remaining feof out).writeFailed = false) :
    (copyLoop o i remaining feof out).feof = (readTurns o.readError i remaining feof).2 := by
  induction i, remaining, feof, out using copyLoop.induct o with
  | case1 i remaining feof out r hr => rw [copyLoop_of_nothing hr, readTurns_of_nothing hr]
  | case2 i remaining feof out r feof' hr hw ih =>
    rw [copyLoop_of_written hr hw] at h ⊢
    rw [readTurns_of_some hr, ih h]
  | case3 i remaining feof out r hr hw =>
    rw [copyLoop_of_not_written hr hw] at h
    cases h

/-- Read to the end and written in every turn, the source has been handed over whole. -/
theorem out_copyLoop (h0 : feof = true → remaining = [])
    (h : (copyLoop o i remaining feof out).writeFailed = false)
    (hend : (copyLoop o i remaining feof out).feof = true) :
    (copyLoop o i remaining feof out).out = out ++ remaining := by
  induction i, remaining, feof, out using copyLoop.induct o with
  | case1 i remaining feof out r hr =>
    rw [copyLoop_of_nothing hr] at hend ⊢
    have hnil : remaining = [] := by
      rcases Bool.or_eq_true_iff.mp hend with hfeof | hfeof
      · exact h0 hfeof
      · have := drop_fread_of_feof hfeof
        rwa [hr] at this
    rw [hnil, List.append_nil]
  | case2 i remaining feof out r feof' hr hw ih =>
    rw [copyLoop_of_written hr hw] at h hend ⊢
    rw [ih ?_ h hend, List.append_assoc, fread_append_drop]
    intro hfeof
    rcases Bool.or_eq_true_iff.mp hfeof with hfeof | hfeof
    · rw [h0 hfeof, List.drop_nil]
    · exact drop_fread_of_feof hfeof
  | case3 i remaining feof out r hr hw =>
    rw [copyLoop_of_not_written hr hw] at h
    cases h

end Loop

section Files

variable {o : CopyOutcomes} {fs : FileSystem} {dest source content : List UInt8}

theorem copyFile_of_not_opensFrom (h : o.opensFrom = false) :
    copyFile o fs dest source = (fs, cantReopen source) := by
  unfold copyFile
  rw [h]
  cases fs source <;> rfl

theorem copyFile_of_not_opensTo (hsource : fs source = some content) (hfrom : o.opensFrom = true)
    (h : o.opensTo = false) : copyFile o fs dest source = (fs, cantCreate dest source) := by
  unfold copyFile
  rw [hsource, hfrom, h]
  rfl

/-- Read and written to the end, the source is removed, whatever closing the destination comes
to. -/
theorem copyFile_of_copied (hsource : fs source = some content) (hfrom : o.opensFrom = true)
    (hto : o.opensTo = true) (hw : (copyLoop o 0 content false []).writeFailed = false)
    (hend : (copyLoop o 0 content false []).feof = true) :
    copyFile o fs dest source =
      (Function.update (Function.update fs dest (some (fclose o content))) source none, []) := by
  have hout : (copyLoop o 0 content false []).out = content :=
    out_copyLoop Bool.noConfusion hw hend
  unfold copyFile
  rw [hsource, hfrom, hto]
  simp only [hw, hend, hout, if_true, Bool.false_eq_true, if_false]

/-- Any other outcome behind the opening removes the destination and nothing else. -/
theorem copyFile_of_not_copied (hsource : fs source = some content) (hfrom : o.opensFrom = true)
    (hto : o.opensTo = true) (h : ¬((copyLoop o 0 content false []).writeFailed = false ∧
      (copyLoop o 0 content false []).feof = true)) :
    copyFile o fs dest source = (Function.update fs dest none, cantCreate dest source) := by
  unfold copyFile
  rw [hsource, hfrom, hto]
  simp only [if_true, Function.update_idem]
  split
  · rfl
  · next hw =>
    rw [if_neg fun hend => h ⟨Bool.eq_false_of_not_eq_true hw, hend⟩]

theorem CopySafe.of_unopened (hsource : fs source = some content)
    (h : ¬(o.opensFrom = true ∧ o.opensTo = true)) :
    CopySafe o fs fs dest source content where
  removed := fun hnone => nomatch hsource.symm.trans hnone
  kept := fun _ => ⟨hsource, (if_neg h).symm⟩
  others := fun _ _ _ => rfl

theorem CopySafe.of_removed (hne : source ≠ dest) (hsource : fs source = some content)
    (h : o.opensFrom = true ∧ o.opensTo = true) :
    CopySafe o fs (Function.update fs dest none) dest source content where
  removed := fun hnone => by
    rw [Function.update_of_ne hne, hsource] at hnone
    cases hnone
  kept := fun _ => by
    rw [Function.update_of_ne hne, Function.update_self, if_pos h]
    exact ⟨hsource, rfl⟩
  others := fun _ hdest _ => Function.update_of_ne hdest _ _

theorem fclose_eq_self : fclose o content = content ↔
    ∀ n, o.closesWith = some n → content.length ≤ n := by
  unfold fclose
  cases o.closesWith with
  | none => exact iff_of_true rfl fun _ hn => nomatch hn
  | some k =>
    show content.take k = content ↔ _
    rw [List.take_eq_self_iff]
    exact ⟨fun h n hn => Option.some.inj hn ▸ h, fun h => h k rfl⟩

/-- Once the source is unlinked, the destination is all there is. -/
theorem copySafe_of_copied (hne : source ≠ dest) :
    CopySafe o fs (Function.update (Function.update fs dest (some (fclose o content))) source none)
      dest source content ↔ ∀ n, o.closesWith = some n → content.length ≤ n := by
  rw [← fclose_eq_self]
  constructor
  · intro h
    have hdest := h.removed (Function.update_self ..)
    rw [Function.update_of_ne hne.symm, Function.update_self] at hdest
    exact Option.some.inj hdest
  · intro h
    refine ⟨fun _ => ?_, fun hnone => absurd (Function.update_self ..) hnone, ?_⟩
    · rw [Function.update_of_ne hne.symm, Function.update_self, h]
    · intro path hdest hsource
      rw [Function.update_of_ne hsource, Function.update_of_ne hdest]

theorem copied_iff (o : CopyOutcomes) (content : List UInt8) :
    (copyLoop o 0 content false []).writeFailed = false ∧
        (copyLoop o 0 content false []).feof = true ↔
      (readTurns o.readError 0 content false).2 = true ∧
        ∀ i < (readTurns o.readError 0 content false).1, o.writes i = true := by
  constructor
  · intro ⟨hw, hend⟩
    exact ⟨feof_copyLoop hw ▸ hend,
      fun i => (writeFailed_copyLoop o 0 content false []).mp hw i (Nat.zero_le i)⟩
  · intro ⟨hend, hwrites⟩
    have hw := (writeFailed_copyLoop o 0 content false []).mpr fun i _ => hwrites i
    exact ⟨hw, (feof_copyLoop hw).trans hend⟩

end Files

/-- The one byte of a log file that is to be copied. -/
def logFile : FileSystem :=
  Function.update (fun _ => none) (bytes "/tmp/logtemp7") (some [7])

/-- Everything succeeds but the write that closing the destination makes, as on a full disk. -/
def fullAtClose : CopyOutcomes := ⟨true, true, fun _ => none, fun _ => true, some 0⟩

end Display
