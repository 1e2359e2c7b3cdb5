import Ngdcs.Recorder.Machine
import Ngdcs.Recordings.DiskChanges

/-! The table of the Recordings tab (`recordingsTab.cpp`), and what the recorder (`displayTab.cpp`)
and the user do with it and with the files. -/
namespace Recordings

open CStrings Ftp
open Recorder.DisplayTab (OpenResult)

/-! ### The table -/

/-- A row of `m_model`: `number` is that of a flight line. -/
structure TabRow where
  recording : Recording
  number : ℕ
  selected : Bool

/-- `m_typeColumn` -/
def TabRow.typeText (row : TabRow) : List UInt8 :=
  match row.recording.recordingType with
  | .flightLine => bytes "Line " ++ printNat row.number
  | .allGps => bytes "All-GPS"
  | .allPps => bytes "All-PPS"
  | .diags => bytes "Diags"
  | .log => bytes "Log"

/-- How many recordings are selected, and how many seconds they take together. -/
structure Tally where
  count : ℕ
  duration : ℤ
  deriving DecidableEq

/-- The dialog that is on the screen. -/
inductive Question where
  | delete (flightLines endToEnd : Tally)
  | prune
  deriving DecidableEq

structure RecordingsTab where
  rows : List TabRow
  numFlightLines : ℕ
  listSensitive : Bool
  deleteSensitive : Bool
  question : Option Question

namespace RecordingsTab

def empty : RecordingsTab := ⟨[], 0, true, false, none⟩

def addRecording (tab : RecordingsTab) (r : Recording) : RecordingsTab :=
  let n := if r.recordingType = .flightLine then tab.numFlightLines + 1 else tab.numFlightLines
  { tab with rows := tab.rows ++ [⟨r, n, false⟩], numFlightLines := n }

def disableRecordingsChanges (tab : RecordingsTab) : RecordingsTab :=
  { tab with
    listSensitive := false
    rows := tab.rows.map fun row => { row with selected := false }
    deleteSensitive := false }

def enableRecordingsChanges (tab : RecordingsTab) : RecordingsTab :=
  { tab with listSensitive := true, deleteSensitive := false }

/-- The user selects the rows of these numbers, and `onSelection` is called. -/
def select (tab : RecordingsTab) (chosen : ℕ → Bool) : RecordingsTab :=
  { tab with
    rows := tab.rows.mapIdx fun i row => { row with selected := chosen i }
    deleteSensitive := true }

def selection (tab : RecordingsTab) : List Recording :=
  (tab.rows.filter TabRow.selected).map TabRow.recording

/-- What is selected of one kind. -/
def tally (tab : RecordingsTab) (flightLine : Bool) : Tally :=
  let recordings := tab.selection.filter fun r =>
    decide (r.recordingType = .flightLine) = flightLine
  ⟨recordings.length, (recordings.map Recording.duration).sum⟩

/-- `onDeleteButton` up to its question. Without a selection it is an internal error. -/
def onDeleteButton (tab : RecordingsTab) : RecordingsTab :=
  if (tab.tally true).count = 0 ∧ (tab.tally false).count = 0 then tab
  else { tab with question := some (.delete (tab.tally true) (tab.tally false)) }

end RecordingsTab

/-! ### The files -/

/-- The files that are deleted with a recording. -/
def Recording.paths (r : Recording) : List (List UInt8) :=
  match r.recordingType with
  | .flightLine => [r.imagepath, r.imagehdrpath, r.gpspath, r.ppspath]
  | .allGps => [r.gpspath]
  | .allPps => [r.ppspath]
  | .diags => [r.diagspath]
  | .log => [r.logpath]

/-- `unlink` of one file after the other, which may be refused. -/
def DataDir.unlinkAll (refused : List UInt8 → Bool) (dir : DataDir) :
    List (List UInt8) → DataDir
  | [] => dir
  | path :: paths => DataDir.unlinkAll refused (if refused path then dir else dir.unlink path) paths

/-- A directory that `checkForEmptyDirs` finds empty. -/
def RootEntry.prunable (root dailyDir : List UInt8) (d : RootEntry) : Bool :=
  d.isDir && d.name ≠ bytes "lost+found" && root ++ 47 :: d.name ≠ dailyDir &&
    match d.files with
    | none => false
    | some files => files.all fun e => e.name = bytes "." || e.name = bytes ".."

/-- `checkForEmptyDirs(root, 0)` -/
def DataDir.hasEmptyDirs (dir : DataDir) (dailyDir : List UInt8) : Bool :=
  dir.entries.any (·.prunable dir.path dailyDir)

/-- `checkForEmptyDirs(root, 1)`: `rmdir` may be refused, and always is for the two entries of the
directory itself and its parent. -/
def DataDir.pruneDirs (refused : List UInt8 → Bool) (dailyDir : List UInt8) (dir : DataDir) :
    DataDir :=
  dir.rmdirs fun d => d.prunable dir.path dailyDir && !refused (dir.path ++ 47 :: d.name) &&
    d.name ≠ bytes "." && d.name ≠ bytes ".."

/-- How many of the four files `openFiles` has made. -/
def created : OpenResult → ℕ
  | .ok => 4
  | .imageFails => 0
  | .headerFails => 1
  | .gpsFails => 2
  | .ppsFails => 3

/-- The names of the files that `openFiles` opens, in its order. -/
def Recording.names (r : Recording) : List (List UInt8) :=
  [r.imagefile, r.imagehdrfile, r.gpsfile, r.ppsfile]

def DataDir.createAll (subdir : List UInt8) (mtime : ℤ) (dir : DataDir) :
    List (List UInt8) → DataDir
  | [] => dir
  | name :: names => DataDir.createAll subdir mtime (dir.create subdir name mtime) names

/-! ### The session -/

/-- The table, the data directory, and of the recorder what they depend on. `removed` and
`leftBehind` record what has happened: the recordings that were deleted or aborted, and those whose
image stays on the disk without a row. -/
structure TabSession where
  disk : DataDir
  dailySubdir : List UInt8
  tab : RecordingsTab
  currentRecording : Recording
  recording : Bool
  stopIsAbort : Bool
  callbacks : ℕ
  removed : List Recording
  leftBehind : List Recording

inductive TabEvent where
  | select (chosen : ℕ → Bool)
  | deletePressed
  | answered (yes : Bool) (refused : List UInt8 → Bool)
  | recordPressed (currentPrefix : List UInt8) (time : ℤ) (result : OpenResult)
  | stopPressed
  | abortConfirmed
  | finished (closeTime : ℤ) (refused : List UInt8 → Bool)
  | controlsUpdated

namespace TabSession

variable (s : TabSession)

/-- `appFrame::dailyDir` -/
def dailyDir : List UInt8 := s.disk.path ++ 47 :: s.dailySubdir

/-- The answer to the first question of `onDeleteButton` is yes. -/
def deleteSelected (refused : List UInt8 → Bool) : TabSession :=
  let disk := s.disk.unlinkAll refused (s.tab.selection.flatMap Recording.paths)
  { s with
    disk
    tab := { s.tab with
      rows := s.tab.rows.filter fun row => !row.selected
      deleteSensitive := false
      question := if disk.hasEmptyDirs s.dailyDir then some .prune else none }
    removed := s.removed ++ s.tab.selection
    leftBehind := s.leftBehind ++ s.tab.selection.filter fun r => refused r.path }

/-- `m_currentRecording` after `openFiles`: what it does not set is that of the last recording. -/
def openedRecording (currentPrefix : List UInt8) (time : ℤ) : Recording :=
  { newRecording s.disk.path s.dailySubdir (recordedName currentPrefix time .flightLine) .flightLine
      time s.currentRecording.endTime with
    duration := s.currentRecording.duration }

/-- `openFiles`, and `leaveIdleState` if it succeeds. -/
def openFiles (currentPrefix : List UInt8) (time : ℤ) (result : OpenResult) : TabSession :=
  let r := s.openedRecording currentPrefix time
  let names := r.names.take (created result)
  let s := { s with
    currentRecording := r
    disk := s.disk.createAll s.dailySubdir time names }
  if result = .ok then
    { s with recording := true, stopIsAbort := false, tab := s.tab.disableRecordingsChanges }
  else if names = [] then s
  else { s with leftBehind := s.leftBehind ++ [r] }

/-- `enterIdleState` -/
def enterIdleState (closeTime : ℤ) (refused : List UInt8 → Bool) : TabSession :=
  let r := s.currentRecording
  let s :=
    if s.stopIsAbort then
      { s with
        disk := s.disk.unlinkAll refused [r.imagepath, r.imagehdrpath, r.ppspath, r.gpspath]
        removed := s.removed ++ [r]
        leftBehind := if refused r.imagepath then s.leftBehind ++ [r] else s.leftBehind }
    else s
  { s with
    currentRecording := { r with
      endTime := closeTime, duration := closeTime - r.startTime, recordingType := .flightLine }
    recording := false
    callbacks := s.callbacks + 1 }

/-- The image of the current recording is on the disk, and it will have a row. -/
def awaited : Bool := s.recording || (decide (0 < s.callbacks) && !s.stopIsAbort)

/-- The abort is confirmed, maybe after the recording has ended: then the files stay. -/
def confirmAbort : TabSession :=
  { s with
    stopIsAbort := true
    leftBehind :=
      if s.awaited ∧ s.recording = false then s.leftBehind ++ [s.currentRecording]
      else s.leftBehind }

/-- `recordControlsUpdateWork` -/
def recordControlsUpdateWork : TabSession :=
  let tab := if s.stopIsAbort then s.tab else s.tab.addRecording s.currentRecording
  { s with callbacks := s.callbacks - 1, tab := tab.enableRecordingsChanges }

/-- The dialogs are modal, but run an event loop of their own. -/
def step (s : TabSession) : TabEvent → Option TabSession
  | .select chosen =>
    if s.tab.listSensitive ∧ s.tab.question = none then some { s with tab := s.tab.select chosen }
    else none
  | .deletePressed =>
    if s.tab.deleteSensitive ∧ s.tab.question = none then
      some { s with tab := s.tab.onDeleteButton }
    else none
  | .answered yes refused =>
    match s.tab.question with
    | none => none
    | some question =>
      let s := { s with tab := { s.tab with question := none } }
      if !yes then some s
      else
        match question with
        | .delete _ _ => some (s.deleteSelected refused)
        | .prune => some { s with disk := s.disk.pruneDirs refused s.dailyDir }
  | .recordPressed currentPrefix time result => some (s.openFiles currentPrefix time result)
  | .stopPressed => some { s with stopIsAbort := false }
  | .abortConfirmed => some s.confirmAbort
  | .finished closeTime refused => some (s.enterIdleState closeTime refused)
  | .controlsUpdated => if s.callbacks = 0 then none else some s.recordControlsUpdateWork

/-- The program starts, and the tab scans the data directory. -/
def start (disk : DataDir) (dailySubdir : List UInt8) (tm : Tm) (currentRecording : Recording) :
    TabSession where
  disk := disk
  dailySubdir := dailySubdir
  tab := (scanDirs disk.path (some disk.entries) tm).1.foldl RecordingsTab.addRecording .empty
  currentRecording := currentRecording
  recording := false
  stopIsAbort := false
  callbacks := 0
  removed := []
  leftBehind := []

end TabSession

end Recordings
