import Ngdcs.Ftp.EcsData
import Ngdcs.Lib.Runs

/-! The control connection after it has been dropped. A function of the connection that starts
while it is there uses it only while it is there, unless another handler drops it in between; one
that starts without crashes. -/
namespace Ftp

open Actions Ipc Runs

/-! ### Functions on a live connection -/

/-- `m_ftpConn` is not NULL. -/
def Alive (c : FTPConnection) : Prop := c.ftpConn.isSome = true

instance (c : FTPConnection) : Decidable (Alive c) :=
  inferInstanceAs (Decidable (c.ftpConn.isSome = true))

/-- The connection is there for a function that waits and for one that has succeeded, and no NULL
`m_ftpConn` has been used. -/
def Progress.Safe : Progress → Prop
  | .waits _ c => Alive c
  | .returns r c => r.isSome = true → Alive c
  | .crashes => False

theorem safe_returns_none (c : FTPConnection) : (Progress.returns none c).Safe :=
  fun h => absurd h Bool.false_ne_true

theorem sendCommand_alive (command : Command) :
    Triple Alive (ftpSendCommand command) (fun _ => Alive) fun _ => True := by
  intro c hc
  obtain ⟨ch, hch⟩ := Option.isSome_iff_exists.mp hc
  unfold ftpSendCommand
  rw [hch]
  by_cases hsent : (ch.exchange command).sent = true <;> simp [hsent, Alive]

theorem saveFile_alive (fs : LocalFs) (s : Socket) :
    Triple Alive (saveFile fs s) (fun _ => Alive) fun _ => True := by
  intro c hc
  unfold saveFile
  by_cases hcreates : fs.creates = true
  · rw [if_pos hcreates]
    cases saveLoop (s.payload.length + 1) s fs.takes [] with
    | none => trivial
    | some written => exact hc
  · rw [if_neg hcreates]
    trivial

theorem acceptResponse_safe {expected : Expected} {found : Option (List UInt8)}
    {next : List UInt8 → Script} {goOn : List UInt8 → FTPConnection → Progress}
    {c : FTPConnection} (hc : Alive c) (hgoOn : ∀ response c, Alive c → (goOn response c).Safe) :
    (acceptResponse expected found next goOn c).Safe := by
  obtain ⟨ch, hch⟩ := Option.isSome_iff_exists.mp hc
  rw [acceptResponse, hch]
  rcases hline : acceptLine ch.unread with ⟨_ | line, s⟩
  · cases found with
    | none =>
      simp only [hline]
      exact safe_returns_none _
    | some response =>
      simp only [hline]
      exact hgoOn response _ rfl
  · simp only [hline]
    rfl

theorem proceed_safe {script : Script} {c : FTPConnection} (hc : Alive c) :
    (script.proceed c).Safe := by
  induction script generalizing c with
  | done entries => exact fun _ => hc
  | failed dropping => exact safe_returns_none _
  | send command next ih => exact hc
  | validate expected next ih => exact acceptResponse_safe hc fun response c => ih response
  | log next ih => exact hc
  | save fs s =>
    have hsave := saveFile_alive fs s
    rw [Script.proceed]
    cases hresult : saveFile fs s c with
    | ok _ c' => exact fun _ => hsave.ok hc hresult
    | fail c' => exact safe_returns_none c'
    | crash => exact absurd hresult (hsave.not_crash hc)

theorem resume_safe {p : Pause} {c : FTPConnection} (hc : Alive c) : (p.resume c).Safe := by
  cases p with
  | send command next =>
    have hsend := sendCommand_alive command
    rw [Pause.resume]
    cases hresult : ftpSendCommand command c with
    | ok _ c' => exact proceed_safe (hsend.ok hc hresult)
    | fail c' => exact safe_returns_none c'
    | crash => exact absurd hresult (hsend.not_crash hc)
  | validate expected found next => exact acceptResponse_safe hc fun response c => proceed_safe
  | log next => exact proceed_safe hc

namespace ECSDataTab

theorem construct_safe (connection : Option Channel) : (construct connection).Safe := by
  cases connection with
  | none => exact safe_returns_none _
  | some ch => exact proceed_safe rfl

/-! ### Handlers -/

/-- Refresh comes while no other handler runs, and so does the confirmation of Export or Delete
where lines are selected, which then finds the connection of `m_ftp` there. -/
def InTurn (tab : ECSDataTab) : EcsEvent → Prop
  | .refresh _ _ _ => tab.running.isEmpty = true
  | .answered confirmed => confirmed = true → tab.hasSelection = true →
    tab.running.length = 1 ∧ ∀ k ∈ tab.ftp, Alive (tab.object k)
  | _ => True

instance (tab : ECSDataTab) : (e : EcsEvent) → Decidable (tab.InTurn e)
  | .refresh _ _ _ => inferInstanceAs (Decidable (tab.running.isEmpty = true))
  | .answered confirmed => inferInstanceAs (Decidable (confirmed = true →
      tab.hasSelection = true →
        tab.running.length = 1 ∧ ∀ k ∈ tab.ftp, Alive (tab.object k)))
  | .disableChanges | .enableChanges _ | .select _ | .export _ _ | .delete | .goesOn =>
    isTrue trivial

/-- The connection that `action` works on, `k`, is that of `m_ftp`, or is being made. -/
def Holds (tab : ECSDataTab) (k : ℕ) : EcsAction → Prop
  | .connecting _ _ => tab.ftp = none
  | _ => tab.ftp = some k

/-- A question stands before an `m_ftp`; a function waits with its connection there. -/
def FrameOk (tab : ECSDataTab) : Frame → Prop
  | .asksExport _ | .asksDelete => tab.ftp ≠ none
  | .calls k action _ => Alive (tab.object k) ∧ tab.Holds k action
  | .returned k action r => (r.isSome = true → Alive (tab.object k)) ∧ tab.Holds k action

def Frame.Asks : Frame → Prop
  | .asksExport _ | .asksDelete => True
  | _ => False

/-- At most one handler is at work, and only a question can stand in front of it. -/
def FramesOk (tab : ECSDataTab) : List Frame → Prop
  | [] => True
  | [f] => tab.FrameOk f
  | [f, g] => Frame.Asks f ∧ tab.FrameOk f ∧ tab.FrameOk g
  | _ => False

structure Safe (tab : ECSDataTab) : Prop where
  crashed : tab.crashed = false
  frames : tab.FramesOk tab.running

variable {tab : ECSDataTab}

theorem lt_of_alive {k : ℕ} (h : Alive (tab.object k)) : k < tab.objects.length := by
  by_contra hlong
  have hnone : tab.object k = ⟨none, none⟩ := by simp [object, not_lt.mp hlong]
  rw [hnone] at h
  cases h

/-- Handlers are not concerned with the listing and the buttons. -/
theorem Safe.congr (h : tab.Safe) {tab' : ECSDataTab} (hcrashed : tab'.crashed = tab.crashed)
    (hftp : tab'.ftp = tab.ftp) (hobjects : tab'.objects = tab.objects)
    (hrunning : tab'.running = tab.running) : tab'.Safe := by
  obtain ⟨ftp, objects, running, model, _, _, _, _, crashed⟩ := tab'
  obtain rfl : crashed = _ := hcrashed
  obtain rfl : ftp = _ := hftp
  obtain rfl : objects = _ := hobjects
  obtain rfl : running = _ := hrunning
  exact ⟨h.crashed, h.frames⟩

theorem safe_of_idle (hcrashed : tab.crashed = false) (hrunning : tab.running = []) :
    tab.Safe := by
  refine ⟨hcrashed, ?_⟩
  rw [hrunning]
  trivial

theorem settle_safe (hcrashed : tab.crashed = false) (hrunning : tab.running = []) {k : ℕ}
    (hk : k < tab.objects.length) {action : EcsAction} (hholds : tab.Holds k action)
    {r : Progress} (hr : r.Safe) : (tab.settle k action r).Safe := by
  have hstored (c : FTPConnection) : (tab.store k c).object k = c := by
    simp [object, store, hk]
  cases r with
  | waits p c =>
    refine ⟨hcrashed, ?_⟩
    simp only [settle, hrunning]
    exact ⟨(hstored c).symm ▸ hr, by cases action <;> exact hholds⟩
  | returns r c =>
    refine ⟨hcrashed, ?_⟩
    simp only [settle, hrunning]
    exact ⟨fun hsome => (hstored c).symm ▸ hr hsome, by cases action <;> exact hholds⟩
  | crashes => exact hr.elim

theorem callFtp_safe (hcrashed : tab.crashed = false) (hrunning : tab.running = []) {k : ℕ}
    (hftp : tab.ftp = some k) (halive : Alive (tab.object k)) {action : EcsAction}
    (hholds : tab.Holds k action) (script : Script) : (tab.callFtp action script).Safe := by
  rw [callFtp, hftp]
  exact settle_safe hcrashed hrunning (lt_of_alive halive) hholds (proceed_safe halive)

theorem exportFrom_safe (hcrashed : tab.crashed = false) (hrunning : tab.running = []) {k : ℕ}
    (hftp : tab.ftp = some k) (halive : Alive (tab.object k)) (row files : ℕ)
    (transfer : ℕ → Transfer) : (tab.exportFrom row files transfer).Safe := by
  unfold exportFrom
  cases tab.selectedFrom row with
  | none => exact safe_of_idle hcrashed hrunning
  | some x =>
    apply callFtp_safe hcrashed hrunning hftp halive
    exact hftp

theorem deleteFrom_safe (hcrashed : tab.crashed = false) (hrunning : tab.running = []) {k : ℕ}
    (hftp : tab.ftp = some k) (halive : Alive (tab.object k)) (row : ℕ) :
    (tab.deleteFrom row).Safe := by
  unfold deleteFrom
  cases tab.selectedFrom row with
  | none => exact safe_of_idle hcrashed hrunning
  | some x =>
    apply callFtp_safe hcrashed hrunning hftp halive
    exact hftp

theorem selectedFrom_none (hselection : tab.hasSelection = false) (row : ℕ) :
    tab.selectedFrom row = none := by
  rw [selectedFrom, List.find?_eq_none]
  intro x hx
  have hmem : x.1 ∈ tab.model := List.fst_mem_of_mem_zipIdx (List.mem_of_mem_drop hx)
  exact List.any_eq_false.mp hselection x.1 hmem

/-- Without a selected line nothing is asked of the server. -/
theorem Safe.exportFrom_none (h : tab.Safe) (hselection : tab.hasSelection = false)
    (row k : ℕ) (transfer : ℕ → Transfer) : (tab.exportFrom row k transfer).Safe := by
  rw [exportFrom, selectedFrom_none hselection]
  exact h

theorem Safe.deleteFrom_none (h : tab.Safe) (hselection : tab.hasSelection = false) (row : ℕ) :
    (tab.deleteFrom row).Safe := by
  rw [deleteFrom, selectedFrom_none hselection]
  exact h.congr rfl rfl rfl rfl

theorem deleteFtp_fields (tab : ECSDataTab) : tab.deleteFtp.crashed = tab.crashed ∧
    tab.deleteFtp.running = tab.running ∧ tab.deleteFtp.ftp = none := by
  unfold deleteFtp
  cases hftp : tab.ftp with
  | none => exact ⟨rfl, rfl, hftp⟩
  | some k => exact ⟨rfl, rfl, rfl⟩

theorem deleteFtp_safe (hcrashed : tab.crashed = false) (hrunning : tab.running = []) :
    tab.deleteFtp.Safe := by
  obtain ⟨hcrashed', hrunning', -⟩ := tab.deleteFtp_fields
  exact safe_of_idle (hcrashed'.trans hcrashed) (hrunning'.trans hrunning)

theorem selectionChanged_fields (tab : ECSDataTab) (changed : Bool) :
    (tab.selectionChanged changed).crashed = tab.crashed ∧
      (tab.selectionChanged changed).running = tab.running ∧
      (tab.selectionChanged changed).ftp = tab.ftp ∧
      (tab.selectionChanged changed).objects = tab.objects := by
  cases changed <;> exact ⟨rfl, rfl, rfl, rfl⟩

/-- Refresh makes a connection of its own. -/
theorem onRefreshButton_safe (hcrashed : tab.crashed = false) (hrunning : tab.running = [])
    (connection : Option Channel) (data : Option Socket) (t : Tm) :
    (tab.onRefreshButton connection data t).Safe := by
  obtain ⟨hcrashed', hrunning', -⟩ :=
    selectionChanged_fields { tab with model := [] } tab.hasSelection
  obtain ⟨hcrashed'', hrunning'', hftp⟩ :=
    deleteFtp_fields (selectionChanged { tab with model := [] } tab.hasSelection)
  unfold onRefreshButton
  apply settle_safe
  · exact (hcrashed''.trans hcrashed').trans hcrashed
  · exact (hrunning''.trans hrunning').trans hrunning
  · simp
  · exact hftp
  · exact construct_safe connection

/-- A handler goes on behind a function that has returned. -/
theorem afterCall_safe (hcrashed : tab.crashed = false) (hrunning : tab.running = []) {k : ℕ}
    {action : EcsAction} {r : Option (List DirEntry)}
    (halive : r.isSome = true → Alive (tab.object k)) (hholds : tab.Holds k action) :
    (tab.afterCall k action r).Safe := by
  cases action with
  | connecting data t =>
    cases r with
    | none =>
      rw [afterCall]
      apply deleteFtp_safe
      · exact hcrashed
      · exact hrunning
    | some entries =>
      rw [afterCall]
      apply callFtp_safe
      · exact hcrashed
      · exact hrunning
      · rfl
      · exact halive rfl
      · rfl
  | changingDirectory data t =>
    cases r with
    | none => exact deleteFtp_safe hcrashed hrunning
    | some entries =>
      apply callFtp_safe hcrashed hrunning hholds (halive rfl)
      exact hholds
  | listing => cases r <;> exact safe_of_idle hcrashed hrunning
  | exporting row files transfer =>
    cases r with
    | none => exact safe_of_idle hcrashed hrunning
    | some entries => exact exportFrom_safe hcrashed hrunning hholds (halive rfl) _ _ _
  | deleting row =>
    cases r with
    | none => exact safe_of_idle hcrashed hrunning
    | some entries =>
      obtain ⟨hcrashed', hrunning', hftp, hobjects⟩ := selectionChanged_fields
        { tab with model := tab.model.eraseIdx row } (tab.model[row]?.any Row.selected)
      apply deleteFrom_safe (hcrashed'.trans hcrashed) (hrunning'.trans hrunning)
        (hftp.trans hholds)
      unfold object
      exact hobjects.symm ▸ halive rfl

/-! ### Button presses -/

/-- With the operator able to act, no question stands in front of the handlers. -/
theorem Safe.of_userActs (h : tab.Safe) (hacts : tab.userActs = true) {f : Frame}
    (hf : tab.FrameOk f) (hasks : Frame.Asks f) :
    Safe { tab with running := f :: tab.running } := by
  obtain ⟨hcrashed, hframes⟩ := h
  refine ⟨hcrashed, ?_⟩
  cases hrunning : tab.running with
  | nil => exact hf
  | cons g rest =>
    rw [hrunning] at hframes
    cases rest with
    | nil => exact ⟨hasks, hf, hframes⟩
    | cons g' rest =>
      rw [userActs, hrunning] at hacts
      cases rest with
      | nil =>
        obtain ⟨hasks', -⟩ := hframes
        cases g <;> simp_all [Frame.Asks]
      | cons g'' rest => exact hframes.elim

/-- The handlers behind the one that goes on. -/
theorem Safe.tail (h : tab.Safe) {f : Frame} {rest : List Frame}
    (hrunning : tab.running = f :: rest) : Safe { tab with running := rest } := by
  obtain ⟨hcrashed, hframes⟩ := h
  refine ⟨hcrashed, ?_⟩
  rw [hrunning] at hframes
  cases rest with
  | nil => trivial
  | cons g rest =>
    cases rest with
    | nil => exact hframes.2.2
    | cons g' rest => exact hframes.elim

/-- A handler that goes on is the only one. -/
theorem Safe.alone (h : tab.Safe) {f : Frame} {rest : List Frame}
    (hrunning : tab.running = f :: rest) (hasks : ¬Frame.Asks f) :
    rest = [] ∧ tab.FrameOk f := by
  have hframes := h.frames
  rw [hrunning] at hframes
  cases rest with
  | nil => exact ⟨rfl, hframes⟩
  | cons g rest =>
    cases rest with
    | nil => exact absurd hframes.1 hasks
    | cons g' rest => exact hframes.elim

theorem Safe.select (h : tab.Safe) (chosen : ℕ → Bool) : (tab.select chosen).Safe :=
  h.congr rfl rfl rfl rfl

/-- Only the question of Export comes at once. -/
theorem Safe.export (h : tab.Safe) (hacts : tab.userActs = true) (directoryExists : Bool)
    (transfer : ℕ → Transfer) : (tab.onExportButton directoryExists transfer).Safe := by
  unfold onExportButton
  split_ifs with hgo
  · simp only [Bool.and_eq_true] at hgo
    exact h.of_userActs hacts (Option.isSome_iff_ne_none.mp hgo.1.1) trivial
  · exact h

theorem Safe.delete (h : tab.Safe) (hacts : tab.userActs = true) : tab.onDeleteButton.Safe := by
  unfold onDeleteButton
  split_ifs with hgo
  · simp only [Bool.and_eq_true] at hgo
    exact h.of_userActs hacts (Option.isSome_iff_ne_none.mp hgo.1) trivial
  · exact h

/-- The connection of `m_ftp`, where a confirmation in turn finds lines selected. -/
theorem Safe.confirmed (h : tab.Safe) {f : Frame} {rest : List Frame}
    (hrunning : tab.running = f :: rest) (hasks : Frame.Asks f)
    (hturn : tab.InTurn (.answered true)) (hselection : tab.hasSelection = true) :
    rest = [] ∧ ∃ k, tab.ftp = some k ∧ Alive (tab.object k) := by
  obtain ⟨hone, halive⟩ := hturn rfl hselection
  rw [hrunning] at hone
  obtain rfl : rest = [] := List.length_eq_zero_iff.mp (Nat.succ.inj hone)
  have hframes := h.frames
  rw [hrunning] at hframes
  have hftp : tab.ftp ≠ none := by
    cases f with
    | asksExport transfer => exact hframes
    | asksDelete => exact hframes
    | calls k action p => exact hasks.elim
    | returned k action r => exact hasks.elim
  obtain ⟨k, hk⟩ := Option.ne_none_iff_exists'.mp hftp
  exact ⟨rfl, k, hk, halive k hk⟩

theorem Safe.answered (h : tab.Safe) {confirmed : Bool}
    (hturn : tab.InTurn (.answered confirmed)) {tab' : ECSDataTab}
    (hstep : tab.step (.answered confirmed) = some tab') : tab'.Safe := by
  rw [step, if_neg (by simp [h.crashed])] at hstep
  cases hrunning : tab.running with
  | nil => simp [hrunning] at hstep
  | cons f rest =>
    have htail := h.tail hrunning
    simp only [hrunning] at hstep
    cases f with
    | calls k action p => cases hstep
    | returned k action r => cases hstep
    | asksExport transfer =>
      cases hstep
      cases confirmed with
      | false => exact htail
      | true =>
        cases hselection : tab.hasSelection with
        | false => exact htail.exportFrom_none hselection _ _ _
        | true =>
          obtain ⟨rfl, k, hftp, halive⟩ := h.confirmed hrunning trivial hturn hselection
          exact exportFrom_safe htail.crashed rfl hftp halive _ _ _
    | asksDelete =>
      cases hstep
      cases confirmed with
      | false => exact htail
      | true =>
        cases hselection : tab.hasSelection with
        | false => exact htail.deleteFrom_none hselection _
        | true =>
          obtain ⟨rfl, k, hftp, halive⟩ := h.confirmed hrunning trivial hturn hselection
          exact deleteFrom_safe htail.crashed rfl hftp halive _

theorem Safe.goesOn (h : tab.Safe) {tab' : ECSDataTab} (hstep : tab.step .goesOn = some tab') :
    tab'.Safe := by
  rw [step, if_neg (by simp [h.crashed])] at hstep
  cases hrunning : tab.running with
  | nil => simp [hrunning] at hstep
  | cons f rest =>
    simp only [hrunning] at hstep
    cases f with
    | asksExport transfer => cases hstep
    | asksDelete => cases hstep
    | calls k action p =>
      cases hstep
      obtain ⟨rfl, halive, hholds⟩ := h.alone hrunning nofun
      apply settle_safe
      · exact h.crashed
      · rfl
      · exact lt_of_alive halive
      · cases action <;> exact hholds
      · exact resume_safe halive
    | returned k action r =>
      cases hstep
      obtain ⟨rfl, halive, hholds⟩ := h.alone hrunning nofun
      apply afterCall_safe
      · exact h.crashed
      · rfl
      · exact halive
      · cases action <;> exact hholds

/-- A step in turn uses no NULL connection, and neither will what it leaves to be done. -/
theorem step_safe (h : tab.Safe) {e : EcsEvent} (hturn : tab.InTurn e) {tab' : ECSDataTab}
    (hstep : tab.step e = some tab') : tab'.Safe := by
  have hguarded := hstep
  unfold step at hguarded
  rw [if_neg (by simp [h.crashed])] at hguarded
  cases e with
  | answered confirmed => exact h.answered hturn hstep
  | goesOn => exact h.goesOn hstep
  | disableChanges =>
    obtain ⟨-, ⟨⟩⟩ := Option.ite_none_right_eq_some.mp hguarded
    exact h.congr rfl rfl rfl rfl
  | enableChanges connected =>
    obtain ⟨-, ⟨⟩⟩ := Option.ite_none_right_eq_some.mp hguarded
    cases connected <;> exact h.congr rfl rfl rfl rfl
  | select chosen =>
    obtain ⟨-, ⟨⟩⟩ := Option.ite_none_right_eq_some.mp hguarded
    exact h.congr rfl rfl rfl rfl
  | refresh connection data t =>
    obtain ⟨-, ⟨⟩⟩ := Option.ite_none_right_eq_some.mp hguarded
    exact onRefreshButton_safe h.crashed (List.isEmpty_iff.mp hturn) connection data t
  | «export» directoryExists transfer =>
    obtain ⟨hmay, ⟨⟩⟩ := Option.ite_none_right_eq_some.mp hguarded
    exact h.export (Bool.and_eq_true_iff.mp hmay).1 directoryExists transfer
  | delete =>
    obtain ⟨hmay, ⟨⟩⟩ := Option.ite_none_right_eq_some.mp hguarded
    exact h.delete (Bool.and_eq_true_iff.mp hmay).1

/-- In a run whose presses all come in turn, no NULL `m_ftpConn` is ever used. -/
theorem no_null_use {connected : Bool} {events : List EcsEvent}
    (h : EachStep step (fun tab e _ => tab.InTurn e) (initial connected) events) :
    EachStep step (fun _ _ tab => tab.crashed = false) (initial connected) events := by
  have hkeep (tab : ECSDataTab) (e : EcsEvent) (tab' : ECSDataTab) (hsafe : tab.Safe)
      (hturn : tab.InTurn e) (hstep : tab.step e = some tab') : tab'.Safe :=
    step_safe hsafe hturn hstep
  have hinit : (initial connected).Safe := safe_of_idle rfl rfl
  refine EachStep.of_invariant hkeep ?_ hinit h
  exact fun tab e tab' hsafe hturn hstep => (hkeep tab e tab' hsafe hturn hstep).crashed

/-- A server with one file, `a`, which closes the session at the first `type i`. -/
def closingServer (commands : List Command) : Exchange where
  sent := true
  arrives := Socket.ofBytes (match commands.getLast? with
    | some .user => [51, 51, 49, 13, 10]
    | some .pasv => [50, 50, 55, 32, 40, 49, 44, 50, 44, 51, 44, 52, 44, 53, 44, 54, 41, 13, 10]
    | some .nlst => []
    | some (.size _) => [50, 49, 51, 32, 55, 13, 10]
    | some .typeI => [52, 50, 49, 13, 10]
    | _ => [50, 48, 48, 13, 10])

/-- Refresh, until the file is listed. -/
def listsFile : List EcsEvent :=
  .refresh (some ⟨Socket.ofBytes [50, 50, 48, 13, 10], [], closingServer⟩)
    (some [.fragment 97 [13, 10], .closed]) ⟨0, 0, 0, 0, 0, 0⟩ :: List.replicate 20 .goesOn

/-- The file is selected, and Export is pressed and confirmed. -/
def exportsFile : List EcsEvent :=
  [.select fun _ => true, .export true fun _ => ⟨none, ⟨true, [], 0⟩⟩, .answered true]

/-- Export fails, and is pressed again. -/
def pressesAfterDrop : List EcsEvent :=
  listsFile ++ exportsFile ++ List.replicate 3 .goesOn ++ exportsFile ++ [.goesOn]

/-- Refresh is pressed while Export waits for the log handler, and finds no server. -/
def pressesWithin : List EcsEvent :=
  listsFile ++ exportsFile ++
    [.refresh none none ⟨0, 0, 0, 0, 0, 0⟩, .goesOn, .goesOn]

theorem no_null_use_one_export :
    (run step (initial true) (listsFile ++ exportsFile ++ List.replicate 3 .goesOn)).isSome =
        true ∧
      EachStep step (fun _ _ tab => tab.crashed = false) (initial true)
        (listsFile ++ exportsFile ++ List.replicate 3 .goesOn) :=
  ⟨by decide +kernel, no_null_use (by decide +kernel)⟩

theorem exports_use_dropped_connection :
    ¬EachStep step (fun _ _ tab => tab.crashed = false) (initial true) pressesAfterDrop ∧
      ¬EachStep step (fun _ _ tab => tab.crashed = false) (initial true) pressesWithin := by
  decide +kernel

end ECSDataTab

end Ftp
