import Ngdcs.Ftp.Scripts

/-! `ECSDataTab` (`ecsDataTab.cpp`). A failure deep inside a command deletes `m_ftpConn`, while
the tab keeps the `FTPConnection`, and `m_ftp` is all that the next button press looks at. The
handlers of the buttons wait for the log handler and for the user's confirmation; while they do,
the main loop runs, and other presses come in. -/
namespace Ftp

open Actions Ipc

/-- A line of the listing. -/
structure Row where
  entry : DirEntry
  selected : Bool

/-- What happens on the data connection and to the local copy of a file that is exported. -/
structure Transfer where
  data : Option Socket
  fs : LocalFs

/-- What a handler is doing with the connection: making it, with what the listing will meet,
changing the directory, listing, or exporting (the file number `k`) or deleting the file of a
line. -/
inductive EcsAction where
  | connecting (data : Option Socket) (t : Tm)
  | changingDirectory (data : Option Socket) (t : Tm)
  | listing
  | exporting (row k : ℕ) (transfer : ℕ → Transfer)
  | deleting (row : ℕ)

/-- A handler that has not returned: its question is on the screen, a function of the connection
`object` waits for the log handler, or such a function has just returned. -/
inductive Frame where
  | asksExport (transfer : ℕ → Transfer)
  | asksDelete
  | calls (object : ℕ) (action : EcsAction) (p : Pause)
  | returned (object : ℕ) (action : EcsAction) (r : Option (List DirEntry))

/-- `objects` are the `FTPConnection`s that were made, `ftp` is the one that `m_ftp` points to,
and `running` are the handlers that have not returned, the latest first. `crashed` says that a
NULL `m_ftpConn` has been used, or one of a NULL `m_ftp`. -/
structure ECSDataTab where
  ftp : Option ℕ
  objects : List FTPConnection
  running : List Frame
  model : List Row
  listSensitive : Bool
  refreshSensitive : Bool
  exportSensitive : Bool
  deleteSensitive : Bool
  crashed : Bool

/-- What the operator does in the tab, with what the FTP commands meet; the other tabs; and the
latest handler goes on, behind the log handler or a function of the connection. -/
inductive EcsEvent where
  | disableChanges
  | enableChanges (connected : Bool)
  | select (chosen : ℕ → Bool)
  | refresh (connection : Option Channel) (data : Option Socket) (t : Tm)
  | «export» (directoryExists : Bool) (transfer : ℕ → Transfer)
  | delete
  | answered (confirmed : Bool)
  | goesOn

namespace ECSDataTab

def initial (connected : Bool) : ECSDataTab where
  ftp := none
  objects := []
  running := []
  model := []
  listSensitive := false
  refreshSensitive := connected
  exportSensitive := false
  deleteSensitive := false
  crashed := false

/-- A line of the listing is selected. -/
def hasSelection (tab : ECSDataTab) : Bool := tab.model.any Row.selected

/-- `onSelection` -/
def onSelection (tab : ECSDataTab) : ECSDataTab :=
  { tab with exportSensitive := true, deleteSensitive := true }

/-- What follows from a change of the listing, where the selection changes with it. -/
def selectionChanged (tab : ECSDataTab) (changed : Bool) : ECSDataTab :=
  if changed then tab.onSelection else tab

/-- `disableECSDataChanges` -/
def disableECSDataChanges (tab : ECSDataTab) : ECSDataTab :=
  { tab with
    listSensitive := false
    model := tab.model.map fun row => { row with selected := false }
    refreshSensitive := false
    exportSensitive := false
    deleteSensitive := false }

/-- `enableECSDataChanges` -/
def enableECSDataChanges (tab : ECSDataTab) (connected : Bool) : ECSDataTab :=
  if connected then
    { tab with
      listSensitive := true
      refreshSensitive := true
      exportSensitive := false
      deleteSensitive := false }
  else tab

/-- The operator selects lines. -/
def select (tab : ECSDataTab) (chosen : ℕ → Bool) : ECSDataTab :=
  onSelection { tab with
    model := tab.model.mapIdx fun i row => { row with selected := chosen i } }

/-! ### Calls of the connection -/

def object (tab : ECSDataTab) (k : ℕ) : FTPConnection := tab.objects.getD k ⟨none, none⟩

def store (tab : ECSDataTab) (k : ℕ) (c : FTPConnection) : ECSDataTab :=
  { tab with objects := tab.objects.set k c }

/-- `delete m_ftp; m_ftp = NULL;`, where the destructor deletes the connection. A handler that
still works on the object finds no connection there. -/
def deleteFtp (tab : ECSDataTab) : ECSDataTab :=
  match tab.ftp with
  | none => tab
  | some k => { tab.store k (tab.object k).drop with ftp := none }

/-- A function of the object `k`, called by a handler for `action`, has come this far. -/
def settle (tab : ECSDataTab) (k : ℕ) (action : EcsAction) : Progress → ECSDataTab
  | .waits p c => { tab.store k c with running := .calls k action p :: tab.running }
  | .returns r c => { tab.store k c with running := .returned k action r :: tab.running }
  | .crashes => { tab with crashed := true }

/-- `m_ftp->...` -/
def callFtp (tab : ECSDataTab) (action : EcsAction) (script : Script) : ECSDataTab :=
  match tab.ftp with
  | none => { tab with crashed := true }
  | some k => tab.settle k action (script.proceed (tab.object k))

/-- The first selected line from `row` on, with its number. -/
def selectedFrom (tab : ECSDataTab) (row : ℕ) : Option (Row × ℕ) :=
  (tab.model.zipIdx.drop row).find? fun x => x.1.selected

/-- The loop of `onExportButton` from `row` on; `k` files have been exported. -/
def exportFrom (tab : ECSDataTab) (row k : ℕ) (transfer : ℕ → Transfer) : ECSDataTab :=
  match tab.selectedFrom row with
  | none => tab
  | some (line, i) => tab.callFtp (.exporting i k transfer)
      (.getFile line.entry.name (transfer k).data (transfer k).fs)

/-- The loop of `onDeleteButton` from `row` on. -/
def deleteFrom (tab : ECSDataTab) (row : ℕ) : ECSDataTab :=
  match tab.selectedFrom row with
  | none => { tab with deleteSensitive := false }
  | some (line, i) => tab.callFtp (.deleting i) (.deleteFile line.entry.name)

/-- `m_model->erase(iter)`. A selected line takes its selection with it. -/
def erase (tab : ECSDataTab) (row : ℕ) : ECSDataTab :=
  selectionChanged { tab with model := tab.model.eraseIdx row }
    (tab.model[row]?.any Row.selected)

/-- What the handlers do behind a function of the object `k` that has returned `r`. -/
def afterCall (tab : ECSDataTab) (k : ℕ) (action : EcsAction) (r : Option (List DirEntry)) :
    ECSDataTab :=
  match action, r with
  | .connecting _ _, none => deleteFtp { tab with ftp := some k }
  | .connecting data t, some _ =>
    callFtp { tab with ftp := some k } (.changingDirectory data t) (.chdir [69, 67, 83])
  | .changingDirectory _ _, none => tab.deleteFtp
  | .changingDirectory data t, some _ => tab.callFtp .listing (.list data t)
  | .listing, none => tab
  | .listing, some datasets =>
    { tab with
      model := tab.model ++ datasets.map fun entry => (⟨entry, false⟩ : Row)
      listSensitive := true }
  | .exporting _ _ _, none => tab
  | .exporting row k transfer, some _ => tab.exportFrom (row + 1) (k + 1) transfer
  | .deleting _, none => tab
  | .deleting row, some _ => (tab.erase row).deleteFrom row

/-! ### Handlers -/

/-- The constructor of `FTPConnection`, given the connection if it can be made. -/
def construct : Option Channel → Progress
  | none => .returns none ⟨none, none⟩
  | some ch => Script.login.proceed ⟨some ch, none⟩

/-- `onRefreshButton` up to the first call of the log handler. -/
def onRefreshButton (tab : ECSDataTab) (connection : Option Channel) (data : Option Socket)
    (t : Tm) : ECSDataTab :=
  let tab := (selectionChanged { tab with model := [] } tab.hasSelection).deleteFtp
  { tab with objects := tab.objects.concat ⟨none, none⟩ }.settle tab.objects.length
    (.connecting data t) (construct connection)

/-- `onExportButton` up to its question. -/
def onExportButton (tab : ECSDataTab) (directoryExists : Bool) (transfer : ℕ → Transfer) :
    ECSDataTab :=
  if tab.ftp.isSome && directoryExists && tab.hasSelection then
    { tab with running := .asksExport transfer :: tab.running }
  else tab

/-- `onDeleteButton` up to its question. -/
def onDeleteButton (tab : ECSDataTab) : ECSDataTab :=
  if tab.ftp.isSome && tab.hasSelection then
    { tab with running := .asksDelete :: tab.running }
  else tab

/-- The main loop runs: no handler does, or the latest one waits. -/
def inMainLoop (tab : ECSDataTab) : Bool :=
  match tab.running with
  | .returned _ _ _ :: _ => false
  | _ => true

/-- And no question is on the screen, which has to be answered first. -/
def userActs (tab : ECSDataTab) : Bool :=
  match tab.running with
  | [] | .calls _ _ _ :: _ => true
  | _ => false

def step (tab : ECSDataTab) (e : EcsEvent) : Option ECSDataTab :=
  if tab.crashed then none
  else match e with
    | .disableChanges => if tab.inMainLoop then some tab.disableECSDataChanges else none
    | .enableChanges connected =>
      if tab.inMainLoop then some (tab.enableECSDataChanges connected) else none
    | .select chosen =>
      if tab.userActs && tab.listSensitive then some (tab.select chosen) else none
    | .refresh connection data t =>
      if tab.userActs && tab.refreshSensitive then some (tab.onRefreshButton connection data t)
      else none
    | .export directoryExists transfer =>
      if tab.userActs && tab.exportSensitive then
        some (tab.onExportButton directoryExists transfer)
      else none
    | .delete =>
      if tab.userActs && tab.deleteSensitive then some tab.onDeleteButton else none
    | .answered confirmed =>
      match tab.running with
      | .asksExport transfer :: rest =>
        let tab := { tab with running := rest }
        some (if confirmed then tab.exportFrom 0 0 transfer else tab)
      | .asksDelete :: rest =>
        let tab := { tab with running := rest }
        some (if confirmed then tab.deleteFrom 0 else tab)
      | _ => none
    | .goesOn =>
      match tab.running with
      | .calls k action p :: rest =>
        some ({ tab with running := rest }.settle k action (p.resume (tab.object k)))
      | .returned k action r :: rest => some ({ tab with running := rest }.afterCall k action r)
      | _ => none

end ECSDataTab

end Ftp
