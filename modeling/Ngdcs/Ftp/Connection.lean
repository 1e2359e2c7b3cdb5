import Ngdcs.Ipc.Typed
import Ngdcs.Lib.Actions
import Ngdcs.Lib.CStrings

/-! The control connection of `FTPConnection` (`libftp.cpp`). The server, and the transport in
front of it, answer each command with some bytes; a reply is looked for in everything that
arrives until nothing more comes within the timeout. -/
namespace Ftp

open Actions CStrings Ipc

/-! ### Lines -/

/-- The loop of `accept(char **s_p, const char *term, int timeout_in_ms)` for a TCP channel and
the terminator CR LF: `buffer` has been stored, and `tooLong` says that a byte did not fit. -/
def acceptLineLoop : ℕ → List UInt8 → Bool → Socket → Option (List UInt8) × Socket
  | 0, _, _, s => (none, s)
  | fuel + 1, buffer, tooLong, s =>
    match acceptBytes 1 true false s with
    | (.bytes got, s) =>
      let fits := buffer.length < 1024 - 1
      let buffer := if fits then buffer ++ got else buffer
      let tooLong := tooLong || !fits
      if 2 ≤ buffer.length ∧ buffer.drop (buffer.length - 2) = [13, 10] then
        (if tooLong then none else some (buffer.take (buffer.length - 2)), s)
      else acceptLineLoop fuel buffer tooLong s
    | (_, s) => (none, s)

/-- `accept(char **s_p, "\r\n", int timeout_in_ms)`: the line, which ends at its first NUL, or
`none` for -1. Every turn of the loop takes a byte. -/
def acceptLine (s : Socket) : Option (List UInt8) × Socket :=
  let r := acceptLineLoop (s.payload.length + 1) [] false s
  (r.1.map fun line => line.takeWhile (· ≠ 0), r.2)

/-- The lines accepted until an accept returns -1; each takes two bytes at least. -/
def acceptLines : ℕ → Socket → List (List UInt8) × Socket
  | 0, s => ([], s)
  | fuel + 1, s =>
    match acceptLine s with
    | (none, s) => ([], s)
    | (some line, s) =>
      let r := acceptLines fuel s
      (line :: r.1, r.2)

def drain (s : Socket) : List (List UInt8) × Socket := acceptLines (s.payload.length + 1) s

/-! ### Commands -/

/-- The commands, with the name of a file or directory. -/
inductive Command where
  | user | pass | cwd (dir : List UInt8) | typeA | typeI | pasv | nlst
  | size (name : List UInt8) | mdtm (name : List UInt8) | retr (name : List UInt8)
  | dele (name : List UInt8)
  deriving DecidableEq

/-- `FTP_CMD_OKAY` and `FTP_LOGIN_OKAY` -/
inductive Expected where
  | cmdOkay | loginOkay
  deriving DecidableEq

def Expected.code : Expected → ℤ
  | .cmdOkay => 200
  | .loginOkay => 300

/-- What becomes of a command: whether it can be sent, and what arrives on the control connection
from then on until the next command is sent. -/
structure Exchange where
  sent : Bool
  arrives : Socket

/-- A control connection: what has arrived and was not read, the commands sent so far, and what
happens to a command, given all the commands up to it. -/
structure Channel where
  unread : Socket
  commands : List Command
  server : List Command → Exchange

namespace Channel

def exchange (ch : Channel) (command : Command) : Exchange :=
  ch.server (ch.commands ++ [command])

/-- `m_ftpConn->send(command, "\r\n")`, where it does not return -1. -/
def send (ch : Channel) (command : Command) : Channel :=
  { ch with
    unread := ch.unread ++ (ch.exchange command).arrives
    commands := ch.commands ++ [command] }

/-- Everything that has arrived in time is read. -/
def drained (ch : Channel) : Channel := { ch with unread := (drain ch.unread).2 }

end Channel

/-- `m_ftpConn`, and the local file that `FTPGetFile` writes, as it is on the disk. -/
structure FTPConnection where
  ftpConn : Option Channel
  localFile : Option (List UInt8)

abbrev FtpAction := Action FTPConnection

namespace FTPConnection

/-- `delete m_ftpConn; m_ftpConn = NULL;` -/
def drop (c : FTPConnection) : FTPConnection := { c with ftpConn := none }

end FTPConnection

/-- `FTPConnection::FTPSendCommand` -/
def ftpSendCommand (command : Command) : FtpAction Unit := fun c =>
  match c.ftpConn with
  | none => .crash
  | some ch =>
    if (ch.exchange command).sent then .ok () { c with ftpConn := some (ch.send command) }
    else .fail c.drop

/-- A reply of the class that is expected. -/
def isExpected (expected : Expected) (response : List UInt8) : Bool :=
  match response with
  | [] => false
  | b :: _ => isDigit b && (strtol response).1.tdiv 100 == expected.code.tdiv 100

/-- The reply that `FTPValidateResponse` settles for: the last of the expected class. -/
def successResponse (expected : Expected) (lines : List (List UInt8)) : Option (List UInt8) :=
  (lines.filter (isExpected expected)).getLast?

/-- `FTPConnection::FTPValidateResponse` -/
def ftpValidateResponse (expected : Expected) : FtpAction (List UInt8) := fun c =>
  match c.ftpConn with
  | none => .crash
  | some ch =>
    match successResponse expected (drain ch.unread).1 with
    | none => .fail c.drop
    | some response => .ok response { c with ftpConn := some ch.drained }

/-- A command and its reply, where the caller gives up if either fails. -/
def ftpCommand (command : Command) (expected : Expected) : FtpAction (List UInt8) := do
  ftpSendCommand command
  ftpValidateResponse expected

/-- The constructor: `connection` is the connection that is made, with the server's greeting. -/
def ftpConnect (connection : Option Channel) : FtpAction Unit := fun c =>
  match connection with
  | none => .fail { c with ftpConn := none }
  | some ch =>
    (do
      let _ ← ftpValidateResponse .cmdOkay
      let _ ← ftpCommand .user .loginOkay
      let _ ← ftpCommand .pass .cmdOkay
      return () : FtpAction Unit) { c with ftpConn := some ch }

/-- `FTPConnection::FTPChdir` -/
def ftpChdir (dir : List UInt8) : FtpAction Unit := do
  let _ ← ftpCommand (.cwd dir) .cmdOkay
  return ()

/-- `FTPConnection::FTPDeleteFile` -/
def ftpDeleteFile (remoteName : List UInt8) : FtpAction Unit := do
  let _ ← ftpCommand (.dele remoteName) .cmdOkay
  return ()

/-- The text up to the next comma, and what follows it. -/
def splitComma (s : List UInt8) : Option (List UInt8 × List UInt8) :=
  match s.dropWhile (· ≠ 44) with
  | [] => none
  | _ :: rest => some (s.takeWhile (· ≠ 44), rest)

/-- `FTPConnection::FTPConvertResponseToHostAndPort` -/
def ftpConvertResponseToHostAndPort (response : List UInt8) : Option (List UInt8 × ℤ) := do
  let temp ← (response.dropWhile (· ≠ 40)).tail?
  let (a, temp) ← splitComma temp
  let (b, temp) ← splitComma temp
  let (c, temp) ← splitComma temp
  let (d, temp) ← splitComma temp
  let host := a ++ 46 :: b ++ 46 :: c ++ 46 :: d
  let (high, rest) := strtol temp
  guard (rest.head? = some 44)
  let (low, rest) := strtol rest.tail
  guard (rest.head? = some 41)
  return (host, longToInt (longToInt (high * 256) + low))

/-! ### Replies -/

/-- Each of the commands can be sent and a line of class 2 comes in time; `lines` has the last
such line of each. -/
inductive Answers : Channel → List Command → List (List UInt8) → Channel → Prop
  | nil (ch : Channel) : Answers ch [] [] ch
  | cons {ch ch' : Channel} {command : Command} {line : List UInt8} {commands : List Command}
      {lines : List (List UInt8)} (hsent : (ch.exchange command).sent = true)
      (hline : successResponse .cmdOkay (drain (ch.send command).unread).1 = some line)
      (hrest : Answers (ch.send command).drained commands lines ch') :
      Answers ch (command :: commands) (line :: lines) ch'

theorem answers_append {ch ch' ch'' : Channel} {commands commands' : List Command}
    {lines lines' : List (List UInt8)} (h : Answers ch commands lines ch')
    (h' : Answers ch' commands' lines' ch'') :
    Answers ch (commands ++ commands') (lines ++ lines') ch'' := by
  induction h with
  | nil => exact h'
  | cons hsent hline _ ih => exact .cons hsent hline (ih h')

theorem answers_cons_iff {ch ch'' : Channel} {command : Command} {line : List UInt8}
    {commands : List Command} {lines : List (List UInt8)} :
    Answers ch (command :: commands) (line :: lines) ch'' ↔
      ∃ ch', Answers ch [command] [line] ch' ∧ Answers ch' commands lines ch'' := by
  constructor
  · intro h
    cases h with
    | cons hsent hline hrest => exact ⟨_, .cons hsent hline (.nil _), hrest⟩
  · rintro ⟨ch', hone, hrest⟩
    exact answers_append hone hrest

theorem ftpSendCommand_eq_ok {command : Command} {c c' : FTPConnection} :
    ftpSendCommand command c = .ok () c' ↔ ∃ ch, c.ftpConn = some ch ∧
      (ch.exchange command).sent = true ∧ c' = { c with ftpConn := some (ch.send command) } := by
  unfold ftpSendCommand
  cases hch : c.ftpConn with
  | none => simp
  | some ch =>
    simp only [Option.some.injEq]
    constructor
    · intro h
      by_cases hsent : (ch.exchange command).sent = true
      · rw [if_pos hsent] at h
        cases h
        exact ⟨ch, rfl, hsent, rfl⟩
      · rw [if_neg hsent] at h
        cases h
    · rintro ⟨_, rfl, hsent, rfl⟩
      rw [if_pos hsent]

theorem ftpCommand_eq_ok {command : Command} {line : List UInt8} {c c' : FTPConnection} :
    ftpCommand command .cmdOkay c = .ok line c' ↔ ∃ ch ch', c.ftpConn = some ch ∧
      Answers ch [command] [line] ch' ∧ c' = { c with ftpConn := some ch' } := by
  constructor
  · intro h
    obtain ⟨_, c₁, hsend, hvalidate⟩ := bind_eq_ok.mp h
    obtain ⟨ch, hch, hsent, rfl⟩ := ftpSendCommand_eq_ok.mp hsend
    unfold ftpValidateResponse at hvalidate
    cases hline : successResponse .cmdOkay (drain (ch.send command).unread).1 with
    | none => simp [hline] at hvalidate
    | some response =>
      simp only [hline] at hvalidate
      cases hvalidate
      exact ⟨ch, _, hch, .cons hsent hline (.nil _), rfl⟩
  · rintro ⟨ch, ch', hch, hanswers, rfl⟩
    cases hanswers with
    | cons hsent hline hrest =>
      cases hrest
      refine bind_eq_ok.mpr ⟨(), _, ftpSendCommand_eq_ok.mpr ⟨ch, hch, hsent, rfl⟩, ?_⟩
      simp [ftpValidateResponse, hline]

end Ftp
