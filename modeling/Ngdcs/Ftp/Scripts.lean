import Ngdcs.Ftp.GetFile
import Ngdcs.Ftp.Listing

/-! The functions of `FTPConnection`, cut where they call the log handler. The handler of
`ECSDataTab` lets the main loop run, so that buttons can be pressed there and `m_ftpConn` may be
another one when the function goes on. Where nothing of the kind happens, the functions are the
actions of the same names. -/
namespace Ftp

open Actions ExchangeSort Ipc

/-- What a function still has to do. Every caller gives up where a command cannot be sent or has
no success response. -/
inductive Script where
  | done (entries : List DirEntry)
  | failed (dropping : Bool)
  | send (command : Command) (next : Script)
  | validate (expected : Expected) (next : List UInt8 → Script)
  | log (next : Script)
  | save (fs : LocalFs) (s : Socket)

/-- Where a function waits for the log handler: in `FTPSendCommand`, in front of the send; in
`FTPValidateResponse`, behind an accept, with the success response found so far; in `FTPList`. -/
inductive Pause where
  | send (command : Command) (next : Script)
  | validate (expected : Expected) (found : Option (List UInt8)) (next : List UInt8 → Script)
  | log (next : Script)

/-- How far a function has come: it waits, it has returned a value or -1, or it has used a NULL
`m_ftpConn`. -/
inductive Progress where
  | waits (p : Pause) (c : FTPConnection)
  | returns (r : Option (List DirEntry)) (c : FTPConnection)
  | crashes

/-- The response found so far, once `line` has been accepted. -/
def foundBy (expected : Expected) (line : List UInt8) (found : Option (List UInt8)) :
    Option (List UInt8) :=
  if isExpected expected line then some line else found

/-- The next accept of `FTPValidateResponse`; `goOn` is what follows a success response. -/
def acceptResponse (expected : Expected) (found : Option (List UInt8))
    (next : List UInt8 → Script) (goOn : List UInt8 → FTPConnection → Progress)
    (c : FTPConnection) : Progress :=
  match c.ftpConn with
  | none => .crashes
  | some ch =>
    match acceptLine ch.unread with
    | (some line, s) =>
      .waits (.validate expected (foundBy expected line found) next)
        { c with ftpConn := some { ch with unread := s } }
    | (none, s) =>
      match found with
      | none => .returns none c.drop
      | some response => goOn response { c with ftpConn := some { ch with unread := s } }

/-- The function runs until it waits or returns. -/
def Script.proceed : Script → FTPConnection → Progress
  | .done entries, c => .returns (some entries) c
  | .failed dropping, c => .returns none (if dropping then c.drop else c)
  | .send command next, c => .waits (.send command next) c
  | .validate expected next, c =>
    acceptResponse expected none next (fun response => (next response).proceed) c
  | .log next, c => .waits (.log next) c
  | .save fs s, c =>
    match saveFile fs s c with
    | .ok _ c => .returns (some []) c
    | .fail c => .returns none c
    | .crash => .crashes

/-- The log handler has returned. -/
def Pause.resume : Pause → FTPConnection → Progress
  | .send command next, c =>
    match ftpSendCommand command c with
    | .ok _ c => next.proceed c
    | .fail c => .returns none c
    | .crash => .crashes
  | .validate expected found next, c =>
    acceptResponse expected found next (fun response => (next response).proceed) c
  | .log next, c => next.proceed c

namespace Script

/-- `FTPSendCommand` and `FTPValidateResponse` -/
def command (command : Command) (expected : Expected) (next : List UInt8 → Script) : Script :=
  .send command (.validate expected next)

/-- The constructor behind the connection. -/
def login : Script :=
  .validate .cmdOkay fun _ => .command .user .loginOkay fun _ =>
    .command .pass .cmdOkay fun _ => .done []

/-- `FTPConnection::FTPChdir` -/
def chdir (dir : List UInt8) : Script := .command (.cwd dir) .cmdOkay fun _ => .done []

/-- `FTPConnection::FTPDeleteFile` -/
def deleteFile (remoteName : List UInt8) : Script :=
  .command (.dele remoteName) .cmdOkay fun _ => .done []

/-- `FTPConnection::FTPGetFile` -/
def getFile (remoteName : List UInt8) (data : Option Socket) (fs : LocalFs) : Script :=
  .command .typeI .cmdOkay fun _ => .command .pasv .cmdOkay fun response =>
    match ftpConvertResponseToHostAndPort response with
    | none => .failed false
    | some _ =>
      match data with
      | none => .failed false
      | some s => .command (.retr remoteName) .cmdOkay fun _ => .save fs s

/-- The loop of `FTPList`, with the entries so far. -/
def listLoop : ℕ → Socket → Tm → List DirEntry → Script
  | 0, _, _, datasets => .done (exchangeSort nameGreater datasets)
  | fuel + 1, s, t, datasets =>
    match acceptLine s with
    | (none, _) => .done (exchangeSort nameGreater datasets)
    | (some name, s) =>
      .log <| .command (.size name) .cmdOkay fun sizeLine =>
        .command (.mdtm name) .cmdOkay fun dateLine =>
          listLoop fuel s (readDate t dateLine)
            (datasets ++ [⟨name, readDate t dateLine, readSize sizeLine⟩])

/-- `FTPConnection::FTPList` -/
def list (data : Option Socket) (t : Tm) : Script :=
  .command .typeA .cmdOkay fun _ => .command .pasv .cmdOkay fun response =>
    match ftpConvertResponseToHostAndPort response with
    | none => .failed true
    | some _ =>
      match data with
      | none => .failed false
      | some s => .send .nlst (listLoop (s.payload.length + 1) s t [])

/-- What the function does if nothing happens in the log handler. -/
def undisturbed : Script → FtpAction (List DirEntry)
  | .done entries => .pure entries
  | .failed dropping => fun c => .fail (if dropping then c.drop else c)
  | .send command next => (ftpSendCommand command).bind fun _ => next.undisturbed
  | .validate expected next =>
    (ftpValidateResponse expected).bind fun response => (next response).undisturbed
  | .log next => next.undisturbed
  | .save fs s => (saveFile fs s).bind fun _ => .pure []

/-! ### Undisturbed functions -/

theorem undisturbed_command (cmd : Command) (expected : Expected)
    (next : List UInt8 → Script) : (command cmd expected next).undisturbed =
      (ftpCommand cmd expected).bind fun response => (next response).undisturbed :=
  (bind_assoc (ftpSendCommand cmd) (fun _ => ftpValidateResponse expected)
    fun response => (next response).undisturbed).symm

/-- The constructor is given the connection. -/
theorem undisturbed_login (ch : Channel) (c : FTPConnection) :
    login.undisturbed { c with ftpConn := some ch } =
      ((ftpConnect (some ch)).bind fun _ => .pure []) c := by
  simp only [login, undisturbed, undisturbed_command, ftpConnect, Action.bind, Bind.bind]
  cases ftpValidateResponse .cmdOkay { c with ftpConn := some ch } with
  | ok _ c =>
    simp only
    cases ftpCommand .user .loginOkay c with
    | ok _ c =>
      simp only
      cases ftpCommand .pass .cmdOkay c <;> rfl
    | fail c => rfl
    | crash => rfl
  | fail c => rfl
  | crash => rfl

theorem undisturbed_chdir (dir : List UInt8) :
    (chdir dir).undisturbed = (ftpChdir dir).bind fun _ => .pure [] := by
  rw [chdir, undisturbed_command]
  exact (bind_assoc (ftpCommand (.cwd dir) .cmdOkay) (fun _ => .pure ()) fun _ => .pure []).symm

theorem undisturbed_deleteFile (remoteName : List UInt8) :
    (deleteFile remoteName).undisturbed =
      (ftpDeleteFile remoteName).bind fun _ => .pure [] := by
  rw [deleteFile, undisturbed_command]
  exact (bind_assoc (ftpCommand (.dele remoteName) .cmdOkay) (fun _ => .pure ())
    fun _ => .pure []).symm

theorem undisturbed_getFile (remoteName : List UInt8) (data : Option Socket) (fs : LocalFs) :
    (getFile remoteName data fs).undisturbed =
      (ftpGetFile remoteName data fs).bind fun _ => .pure [] := by
  simp only [getFile, undisturbed_command, ftpGetFile, requestFile, Bind.bind, Pure.pure,
    bind_assoc]
  refine congrArg _ (funext fun _ => congrArg _ (funext fun response => ?_))
  cases ftpConvertResponseToHostAndPort response with
  | none => rfl
  | some address =>
    cases data with
    | none => rfl
    | some s => exact undisturbed_command _ _ _

theorem undisturbed_listLoop (fuel : ℕ) (s : Socket) (t : Tm) (datasets : List DirEntry) :
    (listLoop fuel s t datasets).undisturbed = (Ftp.listLoop fuel s t).bind fun rest =>
      .pure (exchangeSort nameGreater (datasets ++ rest)) := by
  have hnil : Action.pure (exchangeSort nameGreater datasets) =
      (Action.pure [] : FtpAction (List DirEntry)).bind fun rest =>
        .pure (exchangeSort nameGreater (datasets ++ rest)) := by
    change _ = Action.pure (exchangeSort nameGreater (datasets ++ []))
    rw [List.append_nil]
  induction fuel generalizing s t datasets with
  | zero => exact hnil
  | succ fuel ih =>
    rw [listLoop, Ftp.listLoop]
    rcases acceptLine s with ⟨_ | name, s⟩
    · exact hnil
    · simp only [undisturbed, undisturbed_command, Bind.bind, Pure.pure, bind_assoc]
      refine congrArg _ (funext fun sizeLine => congrArg _ (funext fun dateLine => ?_))
      rw [ih]
      · refine congrArg _ (funext fun rest => ?_)
        rw [List.append_assoc]
        rfl
      · change _ = Action.pure (exchangeSort nameGreater (_ ++ []))
        rw [List.append_nil]

theorem undisturbed_list (data : Option Socket) (t : Tm) :
    (list data t).undisturbed = ftpList data t := by
  simp only [list, undisturbed_command, ftpList, requestList, Bind.bind, Pure.pure, bind_assoc]
  refine congrArg _ (funext fun _ => congrArg _ (funext fun response => ?_))
  cases ftpConvertResponseToHostAndPort response with
  | none => rfl
  | some address =>
    cases data with
    | none => rfl
    | some s =>
      simp only [undisturbed, undisturbed_listLoop, List.nil_append]
      exact (bind_assoc (ftpSendCommand .nlst) (fun _ => .pure s) fun s =>
        (Ftp.listLoop (s.payload.length + 1) s t).bind fun datasets =>
          .pure (exchangeSort nameGreater datasets)).symm

end Script

/-- A function that waits goes on at once whenever it waits, until it returns. -/
inductive GoesOnTo : Progress → Outcome FTPConnection (List DirEntry) → Prop
  | returns (entries : List DirEntry) (c : FTPConnection) :
    GoesOnTo (.returns (some entries) c) (.ok entries c)
  | fails (c : FTPConnection) : GoesOnTo (.returns none c) (.fail c)
  | crashes : GoesOnTo .crashes .crash
  | waits {p : Pause} {c : FTPConnection} {o : Outcome FTPConnection (List DirEntry)}
    (h : GoesOnTo (p.resume c) o) : GoesOnTo (.waits p c) o

/-- Each line that is accepted takes bytes. -/
theorem acceptLineLoop_payload {fuel : ℕ} {buffer line : List UInt8} {tooLong : Bool}
    {s t : Socket} (h : acceptLineLoop fuel buffer tooLong s = (some line, t)) :
    t.payload.length < s.payload.length := by
  induction fuel generalizing buffer tooLong s with
  | zero => simp [acceptLineLoop] at h
  | succ fuel ih =>
    rw [acceptLineLoop] at h
    rcases hread : acceptBytes 1 true false s with ⟨outcome, u⟩
    rw [hread] at h
    cases outcome with
    | failed => simp at h
    | blocked => simp at h
    | bytes got =>
      have hpayload := congrArg List.length (acceptLoop_payload hread)
      have hone : got.length = 1 := by simpa using acceptLoop_length hread
      simp only [List.nil_append, List.length_append] at hpayload
      dsimp only at h
      generalize (if buffer.length < 1024 - 1 then buffer ++ got else buffer) = next at h
      generalize (tooLong || !decide (buffer.length < 1024 - 1)) = late at h
      split_ifs at h with hend hlate
      · simp at h
      · obtain ⟨-, rfl⟩ := Prod.mk.inj h
        omega
      · have hrest := ih h
        omega

theorem acceptLine_payload {line : List UInt8} {s t : Socket}
    (h : acceptLine s = (some line, t)) : t.payload.length < s.payload.length := by
  obtain ⟨hline, rfl⟩ := Prod.mk.inj h
  obtain ⟨text, htext, -⟩ := Option.map_eq_some_iff.mp hline
  exact acceptLineLoop_payload (Prod.ext htext rfl)

/-- The success response that is settled for, once more lines have come. -/
theorem getLast?_foundBy (expected : Expected) (line : List UInt8) (lines : List (List UInt8))
    (found : Option (List UInt8)) :
    (successResponse expected (line :: lines)).or found =
      (successResponse expected lines).or (foundBy expected line found) := by
  unfold successResponse foundBy
  by_cases hline : isExpected expected line = true
  · rw [List.filter_cons_of_pos hline, if_pos hline, List.getLast?_cons]
    cases (lines.filter (isExpected expected)).getLast? <;> rfl
  · rw [List.filter_cons_of_neg hline, if_neg hline]

/-- The accepts of `FTPValidateResponse`, one after the other. -/
theorem acceptResponse_goesOnTo {expected : Expected} {next : List UInt8 → Script}
    (hnext : ∀ response c, GoesOnTo ((next response).proceed c) ((next response).undisturbed c))
    {fuel : ℕ} {ch : Channel} (hfuel : ch.unread.payload.length < fuel) (c : FTPConnection)
    (found : Option (List UInt8)) :
    GoesOnTo
      (acceptResponse expected found next (fun response => (next response).proceed)
        { c with ftpConn := some ch })
      (match (successResponse expected (acceptLines fuel ch.unread).1).or found with
        | none => .fail c.drop
        | some response => (next response).undisturbed
          { c with ftpConn := some { ch with unread := (acceptLines fuel ch.unread).2 } }) := by
  induction fuel generalizing ch found with
  | zero => omega
  | succ fuel ih =>
    rcases hline : acceptLine ch.unread with ⟨_ | line, s⟩
    · simp only [acceptLines, acceptResponse, hline]
      cases found with
      | none => exact .fails _
      | some response => exact hnext response _
    · have hshorter := acceptLine_payload hline
      have hrest := @ih { ch with unread := s } (by simp only; omega) (foundBy expected line found)
      simp only [acceptLines, acceptResponse, hline, getLast?_foundBy]
      exact .waits hrest

/-- A function in whose log handlers nothing happens does what it should. -/
theorem proceed_goesOnTo (script : Script) (c : FTPConnection) :
    GoesOnTo (script.proceed c) (script.undisturbed c) := by
  induction script generalizing c with
  | done entries => exact .returns entries c
  | failed dropping => exact .fails _
  | send command next ih =>
    apply GoesOnTo.waits
    rw [Pause.resume, Script.undisturbed, Action.bind]
    cases ftpSendCommand command c with
    | ok _ c => exact ih c
    | fail c => exact .fails c
    | crash => exact .crashes
  | validate expected next ih =>
    obtain ⟨conn, file⟩ := c
    cases conn with
    | none => exact .crashes
    | some ch =>
      have hrun := @acceptResponse_goesOnTo expected next ih _ ch (Nat.lt_succ_self _)
        ⟨some ch, file⟩ none
      simp only [Option.or_none] at hrun
      simp only [Script.proceed, Script.undisturbed, Action.bind, ftpValidateResponse, drain]
      cases hlines : successResponse expected
          (acceptLines (ch.unread.payload.length + 1) ch.unread).1 with
      | none =>
        simp only [hlines] at hrun
        exact hrun
      | some response =>
        simp only [hlines] at hrun
        exact hrun
  | log next ih => exact .waits (ih c)
  | save fs s =>
    rw [Script.proceed, Script.undisturbed, Action.bind]
    cases saveFile fs s c with
    | ok _ c => exact .returns [] c
    | fail c => exact .fails c
    | crash => exact .crashes

/-- Where nothing happens in the log handler, every function of the connection ends as the action
of its name. -/
theorem functions_goOnTo_actions (c : FTPConnection) :
    (∀ ch, GoesOnTo (Script.login.proceed { c with ftpConn := some ch })
        (((ftpConnect (some ch)).bind fun _ => .pure []) c)) ∧
      (∀ dir, GoesOnTo ((Script.chdir dir).proceed c)
        (((ftpChdir dir).bind fun _ => .pure []) c)) ∧
      (∀ data t, GoesOnTo ((Script.list data t).proceed c) (ftpList data t c)) ∧
      (∀ name data fs, GoesOnTo ((Script.getFile name data fs).proceed c)
        (((ftpGetFile name data fs).bind fun _ => .pure []) c)) ∧
      ∀ name, GoesOnTo ((Script.deleteFile name).proceed c)
        (((ftpDeleteFile name).bind fun _ => .pure []) c) := by
  refine ⟨fun ch => ?_, fun dir => ?_, fun data t => ?_, fun name data fs => ?_, fun name => ?_⟩
  · rw [← Script.undisturbed_login ch c]
    exact proceed_goesOnTo _ _
  · rw [← Script.undisturbed_chdir dir]
    exact proceed_goesOnTo _ _
  · rw [← Script.undisturbed_list data t]
    exact proceed_goesOnTo _ _
  · rw [← Script.undisturbed_getFile name data fs]
    exact proceed_goesOnTo _ _
  · rw [← Script.undisturbed_deleteFile name]
    exact proceed_goesOnTo _ _

end Ftp
