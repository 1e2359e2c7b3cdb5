import Ngdcs.Lib.ExchangeSort
import Ngdcs.Recordings.Dates

/-! `RecordingsTab::scanDirs` (`recordingsTab.cpp`): the recorded files in the subdirectories of the
data directory, in the order in which `readdir` returns them, and then sorted. -/
namespace Recordings

open CStrings ExchangeSort Ftp

inductive RecordingType where
  | flightLine | allGps | allPps | diags | log
  deriving DecidableEq

namespace RecordingType

/-- `RECORDING_FLIGHTLINE` to `RECORDING_LOG` -/
def code : RecordingType → ℤ
  | flightLine => 0
  | allGps => 1
  | allPps => 2
  | diags => 3
  | log => 4

def suffix : RecordingType → List UInt8
  | flightLine => bytes "_raw"
  | allGps => bytes "_allgps"
  | allPps => bytes "_allpps"
  | diags => bytes "_diags.csv"
  | log => bytes "_log.txt"

end RecordingType

/-- `len >= strlen(suffix) && strcmp(d_name+len-strlen(suffix), suffix) == 0` -/
def endsIn (name suffix : List UInt8) : Bool :=
  suffix.length ≤ name.length && name.drop (name.length - suffix.length) = suffix

def recordingTypeOf (name : List UInt8) : Option RecordingType :=
  [.flightLine, .allGps, .allPps, .diags, .log].find? fun type => endsIn name type.suffix

/-- `recording_t` -/
structure Recording where
  recordingType : RecordingType
  imagefile : List UInt8 := []
  imagepath : List UInt8 := []
  imagehdrfile : List UInt8 := []
  imagehdrpath : List UInt8 := []
  gpsfile : List UInt8 := []
  gpspath : List UInt8 := []
  ppsfile : List UInt8 := []
  ppspath : List UInt8 := []
  diagsfile : List UInt8 := []
  diagspath : List UInt8 := []
  logfile : List UInt8 := []
  logpath : List UInt8 := []
  startTime : ℤ
  endTime : ℤ
  duration : ℤ
  deriving DecidableEq

/-- `"%s/%s/%s"` -/
def pathOf (root subdir file : List UInt8) : List UInt8 := root ++ 47 :: (subdir ++ 47 :: file)

/-- The entry that is made for the file `name` of `subdir`. -/
def newRecording (root subdir name : List UInt8) (type : RecordingType) (startTime endTime : ℤ) :
    Recording :=
  let path := pathOf root subdir
  let stem := name.take (name.length - (bytes "_raw").length)
  let duration := endTime - startTime
  match type with
  | .flightLine =>
    { recordingType := type
      imagefile := name
      imagepath := path name
      imagehdrfile := name ++ bytes ".hdr"
      imagehdrpath := path name ++ bytes ".hdr"
      gpsfile := stem ++ bytes "_gps"
      gpspath := path (stem ++ bytes "_gps")
      ppsfile := stem ++ bytes "_pps"
      ppspath := path (stem ++ bytes "_pps")
      startTime, endTime, duration }
  | .allGps =>
    { recordingType := type, gpsfile := name, gpspath := path name, startTime, endTime, duration }
  | .allPps =>
    { recordingType := type, ppsfile := name, ppspath := path name, startTime, endTime, duration }
  | .diags =>
    { recordingType := type, diagsfile := name, diagspath := path name, startTime, endTime,
      duration }
  | .log =>
    { recordingType := type, logfile := name, logpath := path name, startTime, endTime, duration }

/-- The recorded file itself. -/
def Recording.file (r : Recording) : List UInt8 :=
  match r.recordingType with
  | .flightLine => r.imagefile
  | .allGps => r.gpsfile
  | .allPps => r.ppsfile
  | .diags => r.diagsfile
  | .log => r.logfile

/-- `path`, which is the one that `stat` is called for. -/
def Recording.path (r : Recording) : List UInt8 :=
  match r.recordingType with
  | .flightLine => r.imagepath
  | .allGps => r.gpspath
  | .allPps => r.ppspath
  | .diags => r.diagspath
  | .log => r.logpath

/-- Where the last underscore of a name is. -/
def lastUnderscore (name : List UInt8) : ℕ := name.length - 1 - name.reverse.idxOf 95

/-- The text from `strlen("yyyymmddthhmmss")` bytes before the last underscore on. -/
def timeText (name : List UInt8) : Option (List UInt8) :=
  let p := lastUnderscore name
  if p < 15 then none else some (name.drop (p - 15))

/-- A file, and its `st_mtime` if `stat` succeeds. -/
structure FileEntry where
  name : List UInt8
  mtime : Option ℤ

/-- An entry of the data directory, and for a directory its files if `opendir` succeeds. -/
structure RootEntry where
  name : List UInt8
  isDir : Bool
  files : Option (List FileEntry)

/-- What is handed to `warn`. -/
structure Warning where
  message : List UInt8
  advice : List UInt8
  deriving DecidableEq

/-- A message about a path in quotes. -/
def warning (before path after advice : List UInt8) : Warning :=
  ⟨before ++ bytes " \"" ++ path ++ bytes "\"" ++ after, advice⟩

def givingUp : List UInt8 := bytes "Giving up directory scan.  Recordings list is incomplete."

/-- What a part of the scan finds, and what it leaves in `tm_struct`. -/
structure Found where
  recordings : List Recording
  warnings : List Warning
  tm : Tm

/-- The loop over the files of a subdirectory. It ends at the first recorded file whose name is too
short for a start time, or for which `stat` fails. -/
def scanSubdir (root subdir : List UInt8) : List FileEntry → Tm → Found
  | [], tm => ⟨[], [], tm⟩
  | e :: es, tm =>
    match recordingTypeOf e.name with
    | none => scanSubdir root subdir es tm
    | some type =>
      let path := pathOf root subdir e.name
      match timeText e.name with
      | none =>
        ⟨[], [warning (bytes "Can't decode start time for recorded file") path (bytes ".") givingUp],
          tm⟩
      | some p =>
        let time := timegm (strptime startFormat p tm).2
        match e.mtime with
        | none =>
          ⟨[], [warning (bytes "Can't access recorded file") path (bytes ".") givingUp], time.2⟩
        | some mtime =>
          let rest := scanSubdir root subdir es time.2
          { rest with
            recordings := newRecording root subdir e.name type time.1 mtime :: rest.recordings }

/-- What the loop over the data directory passes over. -/
def RootEntry.skipped (d : RootEntry) : Bool :=
  !d.isDir || d.name = bytes "lost+found" || d.name = bytes "." || d.name = bytes ".."

/-- The loop over the data directory. -/
def scanRoot (root : List UInt8) : List RootEntry → Tm → Found
  | [], tm => ⟨[], [], tm⟩
  | d :: ds, tm =>
    if d.skipped then scanRoot root ds tm
    else
      match d.files with
      | none =>
        let rest := scanRoot root ds tm
        { rest with
          warnings := warning (bytes "Can't access data directory") (root ++ 47 :: d.name)
            (bytes ".") (bytes "Recordings list may be incomplete.") :: rest.warnings }
      | some files =>
        let here := scanSubdir root d.name files tm
        let rest := scanRoot root ds here.tm
        ⟨here.recordings ++ rest.recordings, here.warnings ++ rest.warnings, rest.tm⟩

/-- The comparison of the sort. -/
def later (a b : Recording) : Bool :=
  a.startTime > b.startTime ||
    (a.startTime = b.startTime && a.recordingType.code > b.recordingType.code)

/-- `RecordingsTab::scanDirs`: `entries` is what `readdir` returns, if `opendir` succeeds, and `tm`
what is in the local variable at first. -/
def scanDirs (root : List UInt8) (entries : Option (List RootEntry)) (tm : Tm) :
    List Recording × List Warning :=
  match entries with
  | none =>
    ([], [warning (bytes "Can't access data directory") root (bytes ".")
      (bytes "Is directory correct on Settings tab?")])
  | some entries =>
    let found := scanRoot root entries tm
    (exchangeSort later found.recordings, found.warnings)

/-! ### Warnings -/

def Warning.Quotes (w : Warning) (path : List UInt8) : Prop :=
  ∃ before after, w.message = before ++ bytes " \"" ++ path ++ bytes "\"" ++ after

theorem quotes_warning (before path after advice : List UInt8) :
    (warning before path after advice).Quotes path := ⟨before, after, rfl⟩

/-- A recorded file that the scan gives up at. -/
def FileEntry.Unreadable (e : FileEntry) : Prop :=
  (recordingTypeOf e.name).isSome ∧ (timeText e.name = none ∨ e.mtime = none)

/-- A subdirectory that is left out. -/
def RootEntry.Unreadable (d : RootEntry) : Prop := d.skipped = false ∧ d.files = none

variable {root subdir : List UInt8}

/-- A warning is given where a file cannot be read, and it is about such a file. -/
theorem scanSubdir_warnings (files : List FileEntry) (tm : Tm) :
    ((scanSubdir root subdir files tm).warnings = [] ↔ ∀ e ∈ files, ¬e.Unreadable) ∧
      ∀ w ∈ (scanSubdir root subdir files tm).warnings,
        ∃ e ∈ files, e.Unreadable ∧ w.Quotes (pathOf root subdir e.name) := by
  induction files generalizing tm with
  | nil => simp [scanSubdir]
  | cons e files ih =>
    have hhere {w : Warning} (he : e.Unreadable) (hw : w.Quotes (pathOf root subdir e.name)) :
        ([w] = [] ↔ ∀ e' ∈ e :: files, ¬e'.Unreadable) ∧
          ∀ w' ∈ [w], ∃ e' ∈ e :: files, e'.Unreadable ∧
            w'.Quotes (pathOf root subdir e'.name) := by
      constructor
      · exact iff_of_false nofun fun h => h e List.mem_cons_self he
      · intro w' hw'
        obtain rfl := List.mem_singleton.mp hw'
        exact ⟨e, List.mem_cons_self, he, hw⟩
    have hrest (he : ¬e.Unreadable) (tm : Tm) :
        ((scanSubdir root subdir files tm).warnings = [] ↔
            ∀ e' ∈ e :: files, ¬e'.Unreadable) ∧
          ∀ w ∈ (scanSubdir root subdir files tm).warnings,
            ∃ e' ∈ e :: files, e'.Unreadable ∧ w.Quotes (pathOf root subdir e'.name) := by
      constructor
      · rw [(ih tm).1, List.forall_mem_cons]
        exact (and_iff_right he).symm
      · intro w hw
        obtain ⟨e', he', hquotes⟩ := (ih tm).2 w hw
        exact ⟨e', List.mem_cons_of_mem e he', hquotes⟩
    rw [scanSubdir]
    cases htype : recordingTypeOf e.name with
    | none => exact hrest (fun he => by simp [FileEntry.Unreadable, htype] at he) tm
    | some type =>
      cases htext : timeText e.name with
      | none => exact hhere ⟨htype ▸ rfl, Or.inl htext⟩ (quotes_warning ..)
      | some text =>
        cases hmtime : e.mtime with
        | none => exact hhere ⟨htype ▸ rfl, Or.inr hmtime⟩ (quotes_warning ..)
        | some mtime =>
          exact hrest (fun he => by simp [FileEntry.Unreadable, htext, hmtime] at he) _

/-- What a warning of the scan is about. -/
def Warns (root : List UInt8) (d : RootEntry) (w : Warning) : Prop :=
  (d.Unreadable ∧ w.Quotes (root ++ 47 :: d.name)) ∨
    d.skipped = false ∧ ∃ e ∈ d.files.getD [], e.Unreadable ∧ w.Quotes (pathOf root d.name e.name)

/-- The scan of a data directory that can be read is silent exactly if there is nothing that it
leaves out, and otherwise each of its warnings quotes something that cannot be read. -/
theorem scanDirs_warnings (entries : List RootEntry) (tm : Tm) :
    ((scanDirs root (some entries) tm).2 = [] ↔ ∀ d ∈ entries, ¬d.Unreadable ∧
        (d.skipped = false → ∀ e ∈ d.files.getD [], ¬e.Unreadable)) ∧
      ∀ w ∈ (scanDirs root (some entries) tm).2, ∃ d ∈ entries, Warns root d w := by
  change ((scanRoot root entries tm).warnings = [] ↔ _) ∧
    ∀ w ∈ (scanRoot root entries tm).warnings, _
  induction entries generalizing tm with
  | nil => simp [scanRoot]
  | cons d entries ih =>
    have hlater {w : Warning} (h : ∃ d' ∈ entries, Warns root d' w) :
        ∃ d' ∈ d :: entries, Warns root d' w := by
      obtain ⟨d', hd', hwarns⟩ := h
      exact ⟨d', List.mem_cons_of_mem d hd', hwarns⟩
    rw [scanRoot, List.forall_mem_cons]
    by_cases hskipped : d.skipped = true
    · rw [if_pos hskipped]
      refine ⟨(ih tm).1.trans (and_iff_right ⟨?_, ?_⟩).symm, fun w hw => hlater ((ih tm).2 w hw)⟩
      · exact fun h => by simp [RootEntry.Unreadable, hskipped] at h
      · exact fun h => by simp [hskipped] at h
    · rw [if_neg hskipped]
      have hscanned : d.skipped = false := Bool.of_not_eq_true hskipped
      cases hfiles : d.files with
      | none =>
        constructor
        · exact iff_of_false nofun fun h => h.1.1 ⟨hscanned, hfiles⟩
        · intro w hw
          rcases List.mem_cons.mp hw with rfl | hw
          · exact ⟨d, List.mem_cons_self, Or.inl ⟨⟨hscanned, hfiles⟩, quotes_warning ..⟩⟩
          · exact hlater ((ih tm).2 w hw)
      | some files =>
        obtain ⟨hsilent, habout⟩ := @scanSubdir_warnings root d.name files tm
        have hrest := ih (scanSubdir root d.name files tm).tm
        constructor
        · rw [List.append_eq_nil_iff, hsilent, hrest.1, Option.getD_some]
          refine and_congr_left fun _ => ⟨fun h => ⟨?_, fun _ => h⟩, fun h => h.2 hscanned⟩
          exact fun hunreadable => by simp [RootEntry.Unreadable, hfiles] at hunreadable
        · intro w hw
          rcases List.mem_append.mp hw with hw | hw
          · obtain ⟨e, he, hquotes⟩ := habout w hw
            exact ⟨d, List.mem_cons_self, Or.inr ⟨hscanned, e, by rwa [hfiles], hquotes⟩⟩
          · exact hlater (hrest.2 w hw)

end Recordings
