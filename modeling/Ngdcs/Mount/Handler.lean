import Mathlib.Data.List.Basic
import Mathlib.Tactic.Cases
import Ngdcs.Lib.Runs

/-! The conversation of `DisplayTab::handleMount` with the mount over its serial line. The
mount answers the commands it receives in order; every byte of an answer carries the number of
the command that it answers, which the code does not see. -/
namespace Mount

open Runs

/-- `MOUNTHANDLER_...`; `other` stands for the enumerators that have no case in
`handleMount`. -/
inductive HandlerState where
  | idle | s0MakeConnection | sendS0 | getS0Reply
  | s1MakeConnection | sendS1 | getS1Reply | sendS | getSReply
  | other
  deriving DecidableEq

/-- `StatusDisplay::color_t`, as far as the mount indicator uses it. -/
inductive CheckColor where
  | yellow | red | green | unused
  deriving DecidableEq

/-- `MOUNT_IDLE` and `MOUNT_ACTIVE` -/
inductive Mode where
  | idle | active
  deriving DecidableEq

/-- The texts that `SEND` passes to `sendMountCmd`. -/
inductive Command where
  | s0 | s1 | s
  deriving DecidableEq

/-- A command on the line: the number of requests made when it was sent, and whether no
answer to an earlier command was still to come or unread at that time. -/
structure SentCommand where
  command : Command
  request : ℕ
  clear : Bool
  deriving DecidableEq

/-- The members that the mount handler uses, the serial line and the mount. `requests`,
`sent` and `consumed` record what happened; `consumed` is what the last call of `handleMount`
read. -/
structure MountHandler where
  mountHandlerState : HandlerState
  mountCmdIterations : ℕ
  mountCmdTries : ℕ
  mountCheckColor : CheckColor
  mountDevOpen : Bool
  requests : List Mode
  sent : List SentCommand
  unanswered : List ℕ
  serialInput : List (Char × ℕ)
  consumed : List (Char × ℕ)
  deriving DecidableEq

namespace MountHandler

/-- The constructor of `DisplayTab`; the two counters are not set there. -/
def initial (mountUsed : Bool) (iterations tries : ℕ) : MountHandler where
  mountHandlerState := if mountUsed then .s0MakeConnection else .idle
  mountCmdIterations := iterations
  mountCmdTries := tries
  mountCheckColor := if mountUsed then .yellow else .unused
  mountDevOpen := false
  requests := if mountUsed then [.idle] else []
  sent := []
  unanswered := []
  serialInput := []
  consumed := []

/-- `appFrame::openMountConnection`; `ok` is what opening the device returns. -/
def openMountConnection (s : MountHandler) (ok : Bool) : Option MountHandler :=
  if s.mountDevOpen || ok then some { s with mountDevOpen := true } else none

/-- `appFrame::sendMountCmd`; `ok` is whether the whole command is written. -/
def sendMountCmd (s : MountHandler) (cmd : Command) (ok : Bool) : Option MountHandler :=
  if ok then
    some { s with
      sent := s.sent ++ [⟨cmd, s.requests.length, s.unanswered.isEmpty && s.serialInput.isEmpty⟩]
      unanswered := s.unanswered ++ [s.sent.length] }
  else none

/-- `appFrame::readPCSerial`: what has arrived, as far as it fits. -/
def readPCSerial (s : MountHandler) (bufSize : ℕ) : MountHandler :=
  { s with
    serialInput := s.serialInput.drop bufSize
    consumed := s.serialInput.take bufSize }

/-- `appFrame::getMountResponse` accepts what was read. -/
def responseOk (s : MountHandler) : Bool :=
  match s.consumed with
  | [] => false
  | c :: _ => c.1 == '+'

/-- The mount is given up. -/
def fail (s : MountHandler) : MountHandler :=
  { s with mountCheckColor := .red, mountHandlerState := .idle }

/-- `OPEN`, then the state `next`. -/
def makeConnection (s : MountHandler) (ok : Bool) (next : HandlerState) : MountHandler :=
  match s.openMountConnection ok with
  | none => s.fail
  | some t => { t with mountHandlerState := next }

/-- `SEND` -/
def send (s : MountHandler) (cmd : Command) (ok : Bool) : MountHandler :=
  match s.sendMountCmd cmd ok with
  | none => s.fail
  | some t => { t with mountCmdIterations := 0 }

/-- A `MOUNTHANDLER_SEND_...` case. -/
def sendAndAwait (s : MountHandler) (cmd : Command) (ok : Bool) (next : HandlerState) :
    MountHandler :=
  match s.sendMountCmd cmd ok with
  | none => s.fail
  | some t =>
    { t with mountCmdIterations := 0, mountCmdTries := 0, mountHandlerState := next }

/-- `GET_AND_CHECK_RESPONSE`; `accepted` is the rest of the case. -/
def getAndCheckResponse (s : MountHandler) (cmd : Command) (ok : Bool)
    (accepted : MountHandler → MountHandler) : MountHandler :=
  let t := s.readPCSerial 20
  if t.responseOk then accepted t
  else
    let t := { t with mountCmdIterations := t.mountCmdIterations + 1 }
    if t.mountCmdIterations = 200 then
      let t := { t with mountCmdTries := t.mountCmdTries + 1 }
      if t.mountCmdTries = 3 then t.fail else t.send cmd ok
    else t

/-- The request is done. -/
def finish (s : MountHandler) : MountHandler :=
  { s with mountCheckColor := .green, mountHandlerState := .idle }

/-- Nothing has been read by this call of `handleMount`. -/
def beginCall (s : MountHandler) : MountHandler := { s with consumed := [] }

/-- `DisplayTab::handleMount`; `openOk` and `sendOk` are the outcomes of opening the device
and of writing to it. -/
def handleMount (s : MountHandler) (openOk sendOk : Bool) : MountHandler :=
  let s := s.beginCall
  match s.mountHandlerState with
  | .idle => s
  | .s0MakeConnection => s.makeConnection openOk .sendS0
  | .sendS0 => s.sendAndAwait .s0 sendOk .getS0Reply
  | .getS0Reply => s.getAndCheckResponse .s0 sendOk finish
  | .s1MakeConnection => s.makeConnection openOk .sendS1
  | .sendS1 => s.sendAndAwait .s1 sendOk .getS1Reply
  | .getS1Reply =>
    s.getAndCheckResponse .s1 sendOk fun t => { t with mountHandlerState := .sendS }
  | .sendS => s.sendAndAwait .s sendOk .getSReply
  | .getSReply =>
    s.getAndCheckResponse .s sendOk fun t =>
      if t.consumed.map Prod.fst = ['+', '1'] then t.finish
      else { t with mountHandlerState := .sendS }
  | .other => { s with mountHandlerState := .idle }

/-- `DisplayTab::setMount` -/
def setMount (s : MountHandler) (newState : Mode) : MountHandler :=
  { s with
    mountHandlerState := match newState with
      | .idle => .s0MakeConnection
      | .active => .s1MakeConnection
    requests := s.requests ++ [newState] }

/-- `DisplayTab::makeMountUsed` -/
def makeMountUsed (s : MountHandler) (openOk : Bool) : MountHandler :=
  let s := { s with mountCheckColor := .yellow }
  match s.openMountConnection openOk with
  | none => { s with mountCheckColor := .red }
  | some t =>
    { t with mountHandlerState := .s0MakeConnection, requests := t.requests ++ [.idle] }

/-- `DisplayTab::makeMountUnused` -/
def makeMountUnused (s : MountHandler) : MountHandler :=
  { s with mountHandlerState := .idle, mountCheckColor := .unused }

/-- The mount sends `text`, the answer to the oldest command without one or a piece of it. -/
def replyArrives (s : MountHandler) (text : List Char) (complete : Bool) : Option MountHandler :=
  match s.unanswered with
  | [] => none
  | n :: rest =>
    some { s with
      serialInput := s.serialInput ++ text.map fun c => (c, n)
      unanswered := if complete then rest else n :: rest }

end MountHandler

inductive Event where
  | handleMount (openOk sendOk : Bool)
  | setMount (newState : Mode)
  | makeMountUsed (openOk : Bool)
  | makeMountUnused
  | replyArrives (text : List Char) (complete : Bool)

/-- A reply can arrive only while a command is without an answer. -/
def step (s : MountHandler) : Event → Option MountHandler
  | .handleMount openOk sendOk => some (s.handleMount openOk sendOk)
  | .setMount newState => some (s.setMount newState)
  | .makeMountUsed openOk => some (s.makeMountUsed openOk)
  | .makeMountUnused => some s.makeMountUnused
  | .replyArrives text complete => s.replyArrives text complete

end Mount
