import Ngdcs.Lib.Runs
import Ngdcs.Settings.Mru

/-! The directories for dark frames and for data products: which of them the Settings tab
checks before one becomes the current directory. -/
namespace Settings
open CStrings Runs

/-- `DEFAULT_DARKSUBDIR` -/
def defaultDarkSubDir : DirName := ⟨bytes "/usr/local/lib", by decide⟩

/-- `DEFAULT_PRODUCTROOTDIR` -/
def defaultProductRootDir : DirName := ⟨bytes "/data", by decide⟩

/-- The MRU lists of a settings block. -/
structure DataDirs where
  darkSubDirMRU : MruList
  productRootDirMRU : MruList
  deriving DecidableEq

/-- The name itself, or the default where it is blank. -/
def orDefault (default dir : DirName) : DirName := if dir = .blank then default else dir

/-- The calls of `ensureDirectoryExists`, with whether it returned 0. -/
abbrev EnsureLog := List (List UInt8 × Bool)

/-- What a handler finds: the text of the combo box, what stands behind the MRU list, and
whether `ensureDirectoryExists` returns 0 for a path, at its own call and in `makeDailyDir`. -/
structure Selection where
  activeText : DirName
  behind : DirName
  found : List UInt8 → Bool
  dailyDir : List UInt8
  dailyFound : List UInt8 → Bool

namespace DataDirs

variable (s : DataDirs)

def currentDarkSubDir : DirName := orDefault defaultDarkSubDir (s.darkSubDirMRU.val.headD .blank)

def currentProductRootDir : DirName :=
  orDefault defaultProductRootDir (s.productRootDirMRU.val.headD .blank)

def insertInDarkSubDirMRU (behind dir : DirName) : DataDirs :=
  { s with darkSubDirMRU := insertInMRU behind s.darkSubDirMRU dir }

def insertInProductRootDirMRU (behind dir : DirName) : DataDirs :=
  { s with productRootDirMRU := insertInMRU behind s.productRootDirMRU dir }

/-- `SettingsTab::onDarkSubDirChange` -/
def onDarkSubDirChange (sel : Selection) : DataDirs × EnsureLog :=
  let dir := s.currentDarkSubDir.val
  if sel.found dir then
    (s.insertInDarkSubDirMRU sel.behind sel.activeText, [(dir, true)])
  else (s, [(dir, false)])

/-- `appFrame::makeDailyDir`: the one call of `ensureDirectoryExists`. -/
def makeDailyDir (sel : Selection) (root : DirName) : EnsureLog :=
  let temp := root.val ++ bytes "/" ++ sel.dailyDir
  [(temp, sel.dailyFound temp)]

/-- `SettingsTab::onProductRootDirChange` -/
def onProductRootDirChange (sel : Selection) : DataDirs × EnsureLog :=
  let dir := s.currentProductRootDir.val
  if sel.found dir then
    let s := s.insertInProductRootDirMRU sel.behind sel.activeText
    (s, (dir, true) :: makeDailyDir sel s.currentProductRootDir)
  else (s, [(dir, false)])

end DataDirs

/-- What the user does on the Settings tab: the change of a combo box, or the end of a browse
dialog, behind the change handlers that it sets off. -/
inductive DirOp where
  | darkSubDirChange (sel : Selection)
  | productRootDirChange (sel : Selection)
  | darkSubDirBrowse (sel : Selection)
  | productRootDirBrowse (sel : Selection)

namespace DirOp

/-- The settings block after the operation. -/
def apply (s : DataDirs) : DirOp → DataDirs
  | darkSubDirChange sel => (s.onDarkSubDirChange sel).1
  | productRootDirChange sel => (s.onProductRootDirChange sel).1
  | darkSubDirBrowse sel => s.insertInDarkSubDirMRU sel.behind sel.activeText
  | productRootDirBrowse sel => s.insertInProductRootDirMRU sel.behind sel.activeText

def step (s : DataDirs) (op : DirOp) : Option DataDirs := some (op.apply s)

end DirOp

/-- What a change handler should do with the directories of its kind: `old` and `new` are the
directories that are current before and after it, and `dir` is the one selected. -/
structure Verified (old new dir : DirName) (log : EnsureLog) (mru mru' : MruList) : Prop where
  current : new = old ∨ (new = dir ∧ (dir.val, true) ∈ log)
  unchanged : (dir.val, false) ∈ log → mru' = mru

/-- Every change handler verifies a directory before it becomes current. -/
def VerifiedStep (s : DataDirs) (op : DirOp) (t : DataDirs) : Prop :=
  match op with
  | .darkSubDirChange sel =>
    Verified s.currentDarkSubDir t.currentDarkSubDir (orDefault defaultDarkSubDir sel.activeText)
      (s.onDarkSubDirChange sel).2 s.darkSubDirMRU t.darkSubDirMRU
  | .productRootDirChange sel =>
    Verified s.currentProductRootDir t.currentProductRootDir
      (orDefault defaultProductRootDir sel.activeText) (s.onProductRootDirChange sel).2
      s.productRootDirMRU t.productRootDirMRU
  | _ => True

/-- The directory so far is refused, or it is selected again. -/
def RefusedOrSame (s : DataDirs) (op : DirOp) (_ : DataDirs) : Prop :=
  match op with
  | .darkSubDirChange sel => sel.found s.currentDarkSubDir.val = false ∨
      orDefault defaultDarkSubDir sel.activeText = s.currentDarkSubDir
  | .productRootDirChange sel => sel.found s.currentProductRootDir.val = false ∨
      orDefault defaultProductRootDir sel.activeText = s.currentProductRootDir
  | _ => True

/-- A handler that checks `old` and then makes `dir` current keeps the promise only where they
are the same, whatever else it checks beside `dir`. -/
theorem verified_inserted_iff {old dir : DirName} {log : EnsureLog} {mru mru' : MruList}
    (hlog : ∀ b, (dir.val, b) ∉ log) :
    Verified old dir dir ((old.val, true) :: log) mru mru' ↔ dir = old := by
  constructor
  · intro h
    rcases h.current with hsame | ⟨-, hmem⟩
    · exact hsame
    · rcases List.mem_cons.mp hmem with heq | hrest
      · exact Subtype.ext (congrArg Prod.fst heq)
      · exact absurd hrest (hlog true)
  · rintro rfl
    refine ⟨Or.inl rfl, ?_⟩
    intro hmem
    rcases List.mem_cons.mp hmem with heq | hrest
    · cases congrArg Prod.snd heq
    · exact absurd hrest (hlog false)

theorem not_mem_makeDailyDir (sel : Selection) (root : DirName) (b : Bool) :
    (root.val, b) ∉ DataDirs.makeDailyDir sel root := by
  intro hmem
  have hpath := congrArg (fun call => call.1.length) (List.mem_singleton.mp hmem)
  simp [bytes] at hpath

theorem verified_refused (old dir : DirName) (mru : MruList) (log : EnsureLog) :
    Verified old old dir log mru mru :=
  ⟨Or.inl rfl, fun _ => rfl⟩

theorem verifiedStep_iff (s : DataDirs) (op : DirOp) :
    VerifiedStep s op (op.apply s) ↔ RefusedOrSame s op (op.apply s) := by
  cases op with
  | darkSubDirChange sel =>
    simp only [VerifiedStep, RefusedOrSame, DirOp.apply, DataDirs.onDarkSubDirChange]
    split_ifs with hex
    · simp only [hex, Bool.true_eq_false, false_or]
      exact verified_inserted_iff fun _ => List.not_mem_nil
    · simp only [hex, true_or, iff_true]
      exact verified_refused _ _ _ _
  | productRootDirChange sel =>
    simp only [VerifiedStep, RefusedOrSame, DirOp.apply, DataDirs.onProductRootDirChange]
    split_ifs with hex
    · simp only [hex, Bool.true_eq_false, false_or]
      exact verified_inserted_iff (not_mem_makeDailyDir sel _)
    · simp only [hex, true_or, iff_true]
      exact verified_refused _ _ _ _
  | darkSubDirBrowse sel => exact Iff.rfl
  | productRootDirBrowse sel => exact Iff.rfl

/-- Along every sequence of selections: the change handlers verify every directory that becomes
current exactly when each of them refuses the directory so far or selects it again. -/
theorem verified_iff (s : DataDirs) (ops : List DirOp) :
    EachStep DirOp.step VerifiedStep s ops ↔ EachStep DirOp.step RefusedOrSame s ops := by
  apply eachStep_congr
  intro s op t ht
  obtain rfl := Option.some.inj ht
  exact verifiedStep_iff s op

/-- The settings block at the start, with its default directories. -/
def defaultDirs : DataDirs where
  darkSubDirMRU := ⟨[defaultDarkSubDir, .blank, .blank, .blank], rfl⟩
  productRootDirMRU := ⟨[defaultProductRootDir, .blank, .blank, .blank], rfl⟩

/-- A directory that does not exist, selected while the old one does. -/
def selectMissing : Selection where
  activeText := dirA
  behind := .blank
  found path := path ≠ dirA.val
  dailyDir := bytes "20240101"
  dailyFound _ := false

theorem not_verified : ¬∀ (s : DataDirs) (ops : List DirOp),
    EachStep DirOp.step VerifiedStep s ops := by
  intro h
  have hstep := (h defaultDirs [.productRootDirChange selectMissing] _ rfl).1
  rcases hstep.current with hsame | ⟨-, hmem⟩
  · revert hsame
    decide
  · revert hmem
    decide

end Settings
