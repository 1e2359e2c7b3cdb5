import Mathlib.Data.Set.Insert
import Ngdcs.Mount.Replies

/-! How long the mount handler works on a request. Every wait for a reply ends after three
sends of the command, but a status reply that is not the awaited one starts the status query
all over again. -/
namespace Mount
open MountHandler

/-- What one call of `handleMount` meets on the serial line: whether the device opens, whether
it takes a command, and what has arrived since the call before. -/
structure SerialOutcome where
  openOk : Bool
  sendOk : Bool
  arrives : List (Char × ℕ)

/-- A call of `handleMount`; what it does not read stays for the calls that follow. -/
def poll (s : MountHandler) (o : SerialOutcome) : MountHandler :=
  { s with serialInput := s.serialInput ++ o.arrives }.handleMount o.openOk o.sendOk

/-- What a call reads if it reads: a reply, a piece of one, several, or nothing. -/
def readBy (s : MountHandler) (o : SerialOutcome) : List Char :=
  ((s.serialInput ++ o.arrives).take 20).map Prod.fst

/-- Successive calls without a request in between. -/
def polls (s : MountHandler) (os : List SerialOutcome) : MountHandler := os.foldl poll s

/-- `getMountResponse` takes this as a reply. -/
def Accepted (reply : List Char) : Prop := reply.head? = some '+'

/-- Accepted, but not the reply that says that the mount is active. -/
def Rejected (reply : List Char) : Prop := Accepted reply ∧ reply ≠ ['+', '1']

instance (reply : List Char) : Decidable (Accepted reply) := inferInstanceAs (Decidable (_ = _))

instance (reply : List Char) : Decidable (Rejected reply) := inferInstanceAs (Decidable (_ ∧ _))

/-- What a call reads while it waits for the reply to a command is one of the texts allowed
there, whichever command the mount was answering. -/
def ReadAllowed (allowed : Command → Set (List Char)) (s : MountHandler) (o : SerialOutcome) :
    Prop :=
  ∀ cmd, s.mountHandlerState.awaits = some cmd → readBy s o ∈ allowed cmd

/-- So it is in all the calls. -/
def ReadsAllowed (allowed : Command → Set (List Char)) (s : MountHandler) :
    List SerialOutcome → Prop
  | [] => True
  | o :: os => ReadAllowed allowed s o ∧ ReadsAllowed allowed (poll s o) os

/-- How often a command has been sent since `s`. -/
def timesSent (c : Command) (s t : MountHandler) : ℕ :=
  (t.sent.drop s.sent.length).countP fun sent => sent.command = c

/-- The handler gives up or succeeds within `N` calls whatever it meets, as long as it reads
only what is allowed, and sends no command more than three times. -/
def GivesUp (mode : Mode) (allowed : Command → Set (List Char)) (N : ℕ) : Prop :=
  ∀ (s : MountHandler) (os : List SerialOutcome), ReadsAllowed allowed (s.setMount mode) os →
    (N ≤ os.length → (polls (s.setMount mode) os).mountHandlerState = .idle) ∧
      ∀ c, timesSent c s (polls (s.setMount mode) os) ≤ 3

/-! ### The measure -/

/-- The calls of a request that lie behind the wait of a state, if no status reply is
rejected. -/
def HandlerState.callsAhead : HandlerState → ℕ
  | .idle | .getS0Reply | .getSReply => 0
  | .other => 1
  | .sendS0 | .getS1Reply | .sendS => 601
  | .s0MakeConnection => 602
  | .sendS1 => 1202
  | .s1MakeConnection => 1203

/-- How often a command is sent behind that wait. -/
def HandlerState.sendsAhead : HandlerState → Command → ℕ
  | .s0MakeConnection, .s0 | .sendS0, .s0 => 3
  | .s1MakeConnection, .s1 | .sendS1, .s1 => 3
  | .s1MakeConnection, .s | .sendS1, .s | .getS1Reply, .s | .sendS, .s => 3
  | _, _ => 0

/-- The calls that a request can still take. -/
def callsLeft (s : MountHandler) : ℕ :=
  s.mountHandlerState.callsAhead + if s.mountHandlerState.awaits = none then 0
    else 200 - s.mountCmdIterations + 200 * (2 - s.mountCmdTries)

/-- How often a command can still be sent. -/
def sendsLeft (c : Command) (s : MountHandler) : ℕ :=
  s.mountHandlerState.sendsAhead c +
    if s.mountHandlerState.awaits = some c then 2 - s.mountCmdTries else 0

/-- In a wait the counters are below their limits. -/
def Counting (s : MountHandler) : Prop :=
  s.mountHandlerState.awaits ≠ none → s.mountCmdIterations < 200 ∧ s.mountCmdTries < 3

/-- A call takes one off the calls left, and what it sends off the sends left. A status reply
that is rejected, `again`, gives back the status query. -/
structure CallCounted (again : Bool) (s t : MountHandler) : Prop where
  counting : Counting t
  calls : t.mountHandlerState = .idle ∨ callsLeft t + 1 ≤ callsLeft s + 602 * again.toNat
  sends : ∃ new, t.sent = s.sent ++ new ∧
    ∀ c, new.countP (fun sent => sent.command = c) + sendsLeft c t ≤
      sendsLeft c s + 3 * again.toNat
  serves : ∀ m, t.mountHandlerState.serves = some m → s.mountHandlerState.serves = some m

variable {s t u : MountHandler} {again : Bool}

/-- A call that sends nothing. -/
theorem CallCounted.quiet (hcounting : Counting t)
    (hcalls : callsLeft t + 1 ≤ callsLeft s + 602 * again.toNat) (hsent : t.sent = s.sent)
    (hsends : ∀ c, sendsLeft c t ≤ sendsLeft c s + 3 * again.toNat)
    (hserves : t.mountHandlerState.serves = s.mountHandlerState.serves) : CallCounted again s t :=
  ⟨hcounting, Or.inr hcalls, ⟨[], by rw [hsent, List.append_nil],
    fun c => by simpa using hsends c⟩, fun m hm => hserves ▸ hm⟩

/-- A call that gives up or succeeds. -/
theorem CallCounted.ends (hidle : t.mountHandlerState = .idle) (hsent : t.sent = s.sent) :
    CallCounted again s t := by
  have hnone : HandlerState.idle.awaits = none := rfl
  refine ⟨?_, Or.inl hidle, ⟨[], by rw [hsent, List.append_nil], ?_⟩, ?_⟩
  · simp [Counting, hidle, hnone]
  · intro c
    simp [sendsLeft, hidle, hnone, HandlerState.sendsAhead]
  · simp [hidle, HandlerState.serves]

/-- A call that sends a command and waits for the reply. -/
theorem CallCounted.sends_one {cmd : Command} {sent : SentCommand}
    (hsent : t.sent = s.sent ++ [sent]) (hcmd : sent.command = cmd)
    (hiterations : t.mountCmdIterations = 0) (htries : t.mountCmdTries < 3)
    (hcalls : callsLeft t + 1 ≤ callsLeft s)
    (hsends : ∀ c, (if cmd = c then 1 else 0) + sendsLeft c t ≤ sendsLeft c s)
    (hserves : t.mountHandlerState.serves = s.mountHandlerState.serves) :
    CallCounted again s t := by
  refine ⟨?_, Or.inr (by omega), ⟨[sent], hsent, ?_⟩, fun m hm => hserves ▸ hm⟩
  · intro _
    rw [hiterations]
    exact ⟨by decide, htries⟩
  · intro c
    have hcount : [sent].countP (fun sent => sent.command = c) = if cmd = c then 1 else 0 := by
      simp [List.countP_cons, hcmd]
    rw [hcount]
    exact Nat.le_add_right_of_le (hsends c)

theorem makeConnection_counted (openOk : Bool) {next : HandlerState}
    (hawaits : next.awaits = none) (hnow : s.mountHandlerState.awaits = none)
    (hcalls : next.callsAhead + 1 = s.mountHandlerState.callsAhead)
    (hsends : ∀ c, next.sendsAhead c = s.mountHandlerState.sendsAhead c)
    (hserves : next.serves = s.mountHandlerState.serves) :
    CallCounted again s (s.makeConnection openOk next) := by
  unfold makeConnection openMountConnection
  split_ifs
  · refine .quiet ?_ ?_ rfl ?_ hserves
    · simp [Counting, hawaits]
    · simp only [callsLeft, hawaits, hnow, if_true]
      omega
    · intro c
      simp [sendsLeft, hawaits, hnow, hsends]
  · exact .ends rfl rfl

theorem sendAndAwait_counted (cmd : Command) (sendOk : Bool) {next : HandlerState}
    (hawaits : next.awaits = some cmd) (hnow : s.mountHandlerState.awaits = none)
    (hcalls : next.callsAhead + 601 = s.mountHandlerState.callsAhead)
    (hsends : ∀ c, next.sendsAhead c + (if cmd = c then 3 else 0) =
      s.mountHandlerState.sendsAhead c)
    (hserves : next.serves = s.mountHandlerState.serves) :
    CallCounted again s (s.sendAndAwait cmd sendOk next) := by
  unfold sendAndAwait sendMountCmd
  split_ifs
  · refine .sends_one rfl rfl rfl (by simp) ?_ ?_ hserves
    · simp [callsLeft, hawaits, hnow, ← hcalls]
    · intro c
      simp only [sendsLeft, hawaits, hnow, ← hsends c, Option.some.injEq, reduceCtorEq, if_false]
      split_ifs <;> omega
  · exact .ends rfl rfl

theorem send_eq (s : MountHandler) (cmd : Command) (ok : Bool) : s.send cmd ok =
    if ok then { s with
      mountCmdIterations := 0
      sent := s.sent ++ [⟨cmd, s.requests.length, s.unanswered.isEmpty && s.serialInput.isEmpty⟩]
      unanswered := s.unanswered ++ [s.sent.length] }
    else s.fail := by
  cases ok <;> rfl

/-- Without an accepted reply the handler waits on, sends the command again or gives up. -/
theorem getAndCheckResponse_counted (cmd : Command) (sendOk : Bool)
    {accepted : MountHandler → MountHandler} (h : Counting s)
    (hawaits : s.mountHandlerState.awaits = some cmd)
    (haccepted : (s.readPCSerial 20).responseOk = true →
      CallCounted again s (accepted (s.readPCSerial 20))) :
    CallCounted again s (s.getAndCheckResponse cmd sendOk accepted) := by
  obtain ⟨hiterations, htries⟩ := h (by simp [hawaits])
  unfold getAndCheckResponse
  simp only
  split_ifs with hok hlast hgiveup
  · exact haccepted hok
  · exact .ends rfl rfl
  · rw [send_eq]
    split_ifs
    · simp only [readPCSerial] at hlast hgiveup
      refine .sends_one rfl rfl rfl ?_ ?_ ?_ rfl
      · simp only [readPCSerial]
        omega
      · simp only [callsLeft, readPCSerial, hawaits, reduceCtorEq, if_false]
        omega
      · intro c
        simp only [sendsLeft, readPCSerial, hawaits, Option.some.injEq]
        split_ifs <;> omega
    · exact .ends rfl rfl
  · simp only [readPCSerial] at hlast
    refine .quiet ?_ ?_ rfl ?_ rfl
    · intro _
      simp only [readPCSerial]
      omega
    · simp only [callsLeft, readPCSerial, hawaits, reduceCtorEq, if_false]
      omega
    · intro c
      exact Nat.le_add_right _ _

theorem responseOk_iff : s.responseOk = true ↔ Accepted (s.consumed.map Prod.fst) := by
  unfold responseOk Accepted
  cases s.consumed <;> simp

/-- A status reply that does not end the request is rejected, and leads back to the query. -/
theorem statusReply_counted (hserves : s.mountHandlerState.serves = some .active)
    (hok : s.responseOk = true)
    (hagain : Rejected (s.consumed.map Prod.fst) → again = true) :
    CallCounted again s (if s.consumed.map Prod.fst = ['+', '1'] then s.finish
      else { s with mountHandlerState := .sendS }) := by
  split_ifs with hactive
  · exact .ends rfl rfl
  have htrue : again = true := hagain ⟨responseOk_iff.mp hok, hactive⟩
  refine .quiet ?_ ?_ rfl ?_ hserves.symm
  · intro hwaits
    exact absurd rfl hwaits
  · have hback : callsLeft { s with mountHandlerState := .sendS } = 601 := rfl
    rw [hback, htrue, Bool.toNat_true]
    omega
  · intro c
    have hback : sendsLeft c { s with mountHandlerState := .sendS } ≤ 3 := by
      cases c <;> simp [sendsLeft, HandlerState.sendsAhead, HandlerState.awaits]
    rw [htrue, Bool.toNat_true]
    omega

/-- Whatever a call of `handleMount` meets, it counts. -/
theorem handleMount_counted (h : Counting s) (openOk sendOk : Bool)
    (hagain : s.mountHandlerState = .getSReply →
      Rejected ((s.serialInput.take 20).map Prod.fst) → again = true) :
    CallCounted again s (s.handleMount openOk sendOk) := by
  have hstart {t : MountHandler} (ht : CallCounted again s.beginCall t) : CallCounted again s t :=
    ⟨ht.counting, ht.calls, ht.sends, ht.serves⟩
  have hcounting : Counting s.beginCall := h
  apply hstart
  unfold handleMount
  simp only
  cases hstate : s.beginCall.mountHandlerState with
  | idle => exact .ends hstate rfl
  | other => exact .ends rfl rfl
  | s0MakeConnection | s1MakeConnection =>
    refine makeConnection_counted openOk rfl (by rw [hstate]; rfl) (by rw [hstate]; rfl) ?_
      (by rw [hstate]; rfl)
    intro c
    rw [hstate]
    cases c <;> rfl
  | sendS0 | sendS1 | sendS =>
    refine sendAndAwait_counted _ _ rfl (by rw [hstate]; rfl) (by rw [hstate]; rfl) ?_
      (by rw [hstate]; rfl)
    intro c
    rw [hstate]
    cases c <;> rfl
  | getS0Reply =>
    apply getAndCheckResponse_counted .s0 sendOk hcounting (by rw [hstate]; rfl)
    exact fun _ => .ends rfl rfl
  | getS1Reply =>
    apply getAndCheckResponse_counted .s1 sendOk hcounting (by rw [hstate]; rfl)
    intro _
    obtain ⟨hiterations, -⟩ := hcounting (by rw [hstate]; simp [HandlerState.awaits])
    refine .quiet (fun hwaits => absurd rfl hwaits) ?_ rfl ?_ (by rw [hstate]; rfl)
    · simp only [callsLeft, readPCSerial, hstate, HandlerState.callsAhead, HandlerState.awaits,
        if_true, reduceCtorEq, if_false]
      omega
    · intro c
      cases c <;> simp [sendsLeft, hstate, HandlerState.sendsAhead, HandlerState.awaits]
  | getSReply =>
    apply getAndCheckResponse_counted .s sendOk hcounting (by rw [hstate]; rfl)
    intro hok
    have hserves : s.beginCall.mountHandlerState.serves = some .active := by rw [hstate]; rfl
    have hstatus := @statusReply_counted (s.beginCall.readPCSerial 20) again hserves hok
      (hagain hstate)
    exact ⟨hstatus.counting, hstatus.calls, hstatus.sends, hstatus.serves⟩

/-- The call reads a status reply that is rejected. -/
def QueriesAgain (s : MountHandler) (o : SerialOutcome) : Prop :=
  s.mountHandlerState = .getSReply ∧ Rejected (readBy s o)

instance (s : MountHandler) (o : SerialOutcome) : Decidable (QueriesAgain s o) :=
  inferInstanceAs (Decidable (_ ∧ _))

/-- A call of `handleMount`, with what it reads. -/
theorem poll_eq (s : MountHandler) (o : SerialOutcome) : ∃ u : MountHandler, u.beginCall = u ∧
    u.mountHandlerState = s.mountHandlerState ∧
      u.serialInput = s.serialInput ++ o.arrives ∧ poll s o = u.handleMount o.openOk o.sendOk ∧
        (u.readPCSerial 20).consumed.map Prod.fst = readBy s o :=
  ⟨{ s with serialInput := s.serialInput ++ o.arrives }.beginCall, rfl, rfl, rfl, rfl, rfl⟩

theorem poll_counted (h : Counting s) (o : SerialOutcome) :
    CallCounted (decide (QueriesAgain s o)) s (poll s o) := by
  have hcall := @handleMount_counted { s with serialInput := s.serialInput ++ o.arrives }
    (decide (QueriesAgain s o)) h o.openOk o.sendOk
    (fun hstate hrejected => decide_eq_true ⟨hstate, hrejected⟩)
  exact ⟨hcall.counting, hcall.calls, hcall.sends, hcall.serves⟩

/-! ### Successive calls -/

theorem poll_idle (h : s.mountHandlerState = .idle) (o : SerialOutcome) :
    (poll s o).mountHandlerState = .idle := by
  have hstart : { s with serialInput := s.serialInput ++ o.arrives }.beginCall.mountHandlerState =
      .idle := h
  rw [poll, handleMount]
  simp only [hstart]

theorem polls_idle (h : s.mountHandlerState = .idle) (os : List SerialOutcome) :
    (polls s os).mountHandlerState = .idle := by
  induction os generalizing s with
  | nil => exact h
  | cons o os ih => exact ih (poll_idle h o)

theorem length_readBy (s : MountHandler) (o : SerialOutcome) : (readBy s o).length ≤ 20 := by
  rw [readBy, List.length_map]
  exact List.length_take_le 20 _

/-- How many status replies are rejected. -/
def rejections (s : MountHandler) : List SerialOutcome → ℕ
  | [] => 0
  | o :: os => (decide (QueriesAgain s o)).toNat + rejections (poll s o) os

/-- Calls and sends are bounded by what was left and what rejected replies give back. -/
theorem polls_counted (h : Counting s) (os : List SerialOutcome) :
    Counting (polls s os) ∧ ((polls s os).mountHandlerState = .idle ∨
        callsLeft (polls s os) + os.length ≤ callsLeft s + 602 * rejections s os) ∧
      ∃ new, (polls s os).sent = s.sent ++ new ∧
        ∀ c, new.countP (fun sent => sent.command = c) + sendsLeft c (polls s os) ≤
          sendsLeft c s + 3 * rejections s os := by
  induction os generalizing s with
  | nil => exact ⟨h, Or.inr (Nat.le_add_right _ _), [], by simp [polls], by simp [polls]⟩
  | cons o os ih =>
    have hcall := poll_counted h o
    obtain ⟨first, hfirst, hsends⟩ := hcall.sends
    obtain ⟨hcounting, hcalls, rest, hrest, hsends'⟩ := ih hcall.counting
    have hpolls : polls s (o :: os) = polls (poll s o) os := rfl
    rw [hpolls, rejections]
    refine ⟨hcounting, ?_, first ++ rest, by rw [hrest, hfirst, List.append_assoc], ?_⟩
    · rcases hcall.calls with hidle | hleft
      · exact Or.inl (polls_idle hidle os)
      · refine hcalls.imp_right fun hbound => ?_
        rw [List.length_cons]
        omega
    · intro c
      have hc := hsends c
      have hc' := hsends' c
      rw [List.countP_append]
      omega

theorem callsLeft_pos (h : Counting s) (hbusy : s.mountHandlerState ≠ .idle) :
    0 < callsLeft s := by
  by_cases hawaits : s.mountHandlerState.awaits = none
  · cases hstate : s.mountHandlerState <;>
      simp_all [callsLeft, HandlerState.callsAhead, HandlerState.awaits]
  · obtain ⟨hiterations, -⟩ := h hawaits
    rw [callsLeft, if_neg hawaits]
    omega

/-- With `k` rejected status replies, a request ends within `1203 + 602 * k` calls and sends no
command more than `3 + 3 * k` times. -/
theorem request_ends (s : MountHandler) (mode : Mode) (os : List SerialOutcome) :
    (1203 + 602 * rejections (s.setMount mode) os ≤ os.length →
        (polls (s.setMount mode) os).mountHandlerState = .idle) ∧
      ∀ c, timesSent c s (polls (s.setMount mode) os) ≤
        3 + 3 * rejections (s.setMount mode) os := by
  have hcounting : Counting (s.setMount mode) := by cases mode <;> exact fun h => absurd rfl h
  have hleft : callsLeft (s.setMount mode) ≤ 1203 := by
    cases mode <;> simp [callsLeft, setMount, HandlerState.callsAhead, HandlerState.awaits]
  have hsends (c : Command) : sendsLeft c (s.setMount mode) ≤ 3 := by
    cases mode <;> cases c <;>
      simp [sendsLeft, setMount, HandlerState.sendsAhead, HandlerState.awaits]
  obtain ⟨hend, hcalls, new, hnew, hcount⟩ := polls_counted hcounting os
  constructor
  · intro hlong
    by_contra hbusy
    have hpos := callsLeft_pos hend hbusy
    have hbound := hcalls.resolve_left hbusy
    omega
  · intro c
    have hdrop : (polls (s.setMount mode) os).sent.drop s.sent.length = new := by
      rw [hnew]
      exact List.drop_left
    have hc := hcount c
    have hc' := hsends c
    rw [timesSent, hdrop]
    omega

/-! ### Without rejected status replies -/

variable {allowed : Command → Set (List Char)}

/-- No status reply is rejected where an invariant of the calls excludes it. -/
theorem rejections_eq_zero (I : MountHandler → Prop)
    (hstep : ∀ s o, I s → ReadAllowed allowed s o → I (poll s o))
    (hnone : ∀ s o, I s → ReadAllowed allowed s o → ¬QueriesAgain s o) (hs : I s)
    {os : List SerialOutcome} (hos : ReadsAllowed allowed s os) : rejections s os = 0 := by
  induction os generalizing s with
  | nil => rfl
  | cons o os ih =>
    obtain ⟨hread, hrest⟩ := hos
    simp [rejections, hnone s o hs hread, ih (hstep s o hs hread) hrest]

theorem getAndCheckResponse_unaccepted {cmd : Command} {sendOk : Bool}
    {accepted : MountHandler → MountHandler} (h : ¬(s.readPCSerial 20).responseOk = true) :
    (s.getAndCheckResponse cmd sendOk accepted).mountHandlerState = s.mountHandlerState ∨
      (s.getAndCheckResponse cmd sendOk accepted).mountHandlerState = .idle := by
  unfold getAndCheckResponse
  simp only [h, if_false, Bool.false_eq_true]
  split_ifs
  · exact Or.inr rfl
  · rw [send_eq]
    split_ifs
    · exact Or.inl rfl
    · exact Or.inr rfl
  · exact Or.inl rfl

/-- The states of a request for `MOUNT_ACTIVE` in front of the status query, and the rest. -/
def HandlerState.Asks (st : HandlerState) : Prop := st = .sendS ∨ st = .getSReply

/-- The status is queried only when the mount has accepted to become active. -/
theorem poll_asks {o : SerialOutcome} (hs : ¬s.mountHandlerState.Asks)
    (hreply : s.mountHandlerState = .getS1Reply → ¬Accepted (readBy s o)) :
    ¬(poll s o).mountHandlerState.Asks := by
  obtain ⟨u, hbegin, hu, -, hpoll, hread⟩ := poll_eq s o
  rw [hpoll, handleMount]
  simp only [hbegin, hu]
  cases hstate : s.mountHandlerState with
  | idle | other => simp [HandlerState.Asks, hu, hstate]
  | sendS => exact absurd (Or.inl hstate) hs
  | getSReply => exact absurd (Or.inr hstate) hs
  | s0MakeConnection | s1MakeConnection =>
    unfold makeConnection openMountConnection
    split_ifs <;> simp [HandlerState.Asks, fail]
  | sendS0 | sendS1 =>
    unfold sendAndAwait sendMountCmd
    split_ifs <;> simp [HandlerState.Asks, fail]
  | getS0Reply =>
    by_cases hok : (u.readPCSerial 20).responseOk = true
    · simp [getAndCheckResponse, hok, HandlerState.Asks, finish]
    · rcases @getAndCheckResponse_unaccepted u .s0 o.sendOk finish hok with h | h <;>
        simp [h, hu, hstate, HandlerState.Asks]
  | getS1Reply =>
    have hok : ¬(u.readPCSerial 20).responseOk = true := by
      rw [responseOk_iff, hread]
      exact hreply hstate
    rcases @getAndCheckResponse_unaccepted u .s1 o.sendOk
      (fun t => { t with mountHandlerState := .sendS }) hok with h | h <;>
      simp [h, hu, hstate, HandlerState.Asks]

/-! ### A mount that does not become active -/

/-- As long as the mount accepts to become active and then rejects, the handler works on. -/
theorem poll_rejected (h : s.mountHandlerState.serves = some .active) {o : SerialOutcome}
    (hopen : o.openOk = true) (hsend : o.sendOk = true)
    (haccepted : s.mountHandlerState = .getS1Reply → Accepted (readBy s o))
    (hrejected : s.mountHandlerState = .getSReply → Rejected (readBy s o)) :
    (poll s o).mountHandlerState.serves = some .active := by
  obtain ⟨u, hbegin, hu, -, hpoll, hread⟩ := poll_eq s o
  have hok (hreply : Accepted (readBy s o)) : (u.readPCSerial 20).responseOk = true := by
    rw [responseOk_iff, hread]
    exact hreply
  rw [hpoll, hopen, hsend, handleMount]
  simp only [hbegin, hu]
  cases hstate : s.mountHandlerState with
  | idle | other | s0MakeConnection | sendS0 | getS0Reply => simp [hstate, HandlerState.serves] at h
  | s1MakeConnection => simp [makeConnection, openMountConnection, HandlerState.serves]
  | sendS1 | sendS => simp [sendAndAwait, sendMountCmd, HandlerState.serves]
  | getS1Reply => simp [getAndCheckResponse, hok (haccepted hstate), HandlerState.serves]
  | getSReply =>
    obtain ⟨hhead, hother⟩ := hrejected hstate
    simp [getAndCheckResponse, hok hhead, hread, hother, HandlerState.serves]

theorem getAndCheckResponse_serialInput (cmd : Command) (sendOk : Bool)
    {accepted : MountHandler → MountHandler}
    (haccepted : (accepted (s.readPCSerial 20)).serialInput = s.serialInput.drop 20) :
    (s.getAndCheckResponse cmd sendOk accepted).serialInput = s.serialInput.drop 20 := by
  unfold getAndCheckResponse
  simp only
  split_ifs
  · exact haccepted
  · rfl
  · rw [send_eq]
    split_ifs <;> rfl
  · rfl

/-- A call that waits for a reply reads, and no other. -/
theorem handleMount_serialInput (s : MountHandler) (openOk sendOk : Bool) :
    (s.handleMount openOk sendOk).serialInput =
      if s.mountHandlerState.awaits = none then s.serialInput else s.serialInput.drop 20 := by
  have hbegin : s.beginCall.mountHandlerState = s.mountHandlerState := rfl
  unfold handleMount
  simp only [hbegin]
  cases hstate : s.mountHandlerState with
  | idle | other => rfl
  | s0MakeConnection | s1MakeConnection =>
    simp only [makeConnection, openMountConnection, HandlerState.awaits, if_true]
    split_ifs <;> rfl
  | sendS0 | sendS1 | sendS =>
    simp only [sendAndAwait, sendMountCmd, HandlerState.awaits, if_true]
    split_ifs <;> rfl
  | getS0Reply | getS1Reply => exact getAndCheckResponse_serialInput _ sendOk rfl
  | getSReply =>
    apply getAndCheckResponse_serialInput
    split_ifs <;> rfl

/-- What a call meets when `accepted` is read after `S1` and `rejected` after the query. -/
def evadingOutcome (accepted rejected : List Char) (s : MountHandler) : SerialOutcome where
  openOk := true
  sendOk := true
  arrives := match s.mountHandlerState with
    | .getS1Reply => accepted.map fun c => (c, 0)
    | .getSReply => rejected.map fun c => (c, 0)
    | _ => []

/-- And what successive calls meet. -/
def evading (accepted rejected : List Char) (s : MountHandler) : ℕ → List SerialOutcome
  | 0 => []
  | n + 1 =>
    evadingOutcome accepted rejected s ::
      evading accepted rejected (poll s (evadingOutcome accepted rejected s)) n

variable {accepted rejected : List Char}

theorem length_evading (s : MountHandler) (n : ℕ) :
    (evading accepted rejected s n).length = n := by
  induction n generalizing s with
  | zero => rfl
  | succ n ih => simp [evading, ih]

theorem readBy_evading (hempty : s.serialInput = [])
    (hfits : accepted.length ≤ 20 ∧ rejected.length ≤ 20) :
    (s.mountHandlerState = .getS1Reply →
        readBy s (evadingOutcome accepted rejected s) = accepted) ∧
      (s.mountHandlerState = .getSReply →
        readBy s (evadingOutcome accepted rejected s) = rejected) := by
  have hread {text : List Char} (htext : text.length ≤ 20) :
      ((text.map fun c => (c, 0)).take 20).map Prod.fst = text := by
    rw [List.take_of_length_le (by simpa using htext)]
    simp [Function.comp_def]
  constructor
  · intro hstate
    simp only [readBy, evadingOutcome, hempty, hstate, List.nil_append]
    exact hread hfits.1
  · intro hstate
    simp only [readBy, evadingOutcome, hempty, hstate, List.nil_append]
    exact hread hfits.2

/-- All of it is read. -/
theorem poll_evading_serialInput (hempty : s.serialInput = [])
    (hfits : accepted.length ≤ 20 ∧ rejected.length ≤ 20) :
    (poll s (evadingOutcome accepted rejected s)).serialInput = [] := by
  rw [poll, handleMount_serialInput, hempty, List.nil_append]
  cases hstate : s.mountHandlerState <;>
    simp [evadingOutcome, hstate, HandlerState.awaits, hfits.1, hfits.2]

/-- The two of them keep the handler busy. -/
theorem polls_evading (h : s.mountHandlerState.serves = some .active)
    (hempty : s.serialInput = []) (hfits : accepted.length ≤ 20 ∧ rejected.length ≤ 20)
    (haccepted : Accepted accepted) (hrejected : Rejected rejected)
    (hallowed : accepted ∈ allowed .s1 ∧ rejected ∈ allowed .s) (n : ℕ) :
    ReadsAllowed allowed s (evading accepted rejected s n) ∧
      (polls s (evading accepted rejected s n)).mountHandlerState.serves = some .active := by
  induction n generalizing s with
  | zero => exact ⟨trivial, h⟩
  | succ n ih =>
    obtain ⟨hs1, hs⟩ := readBy_evading hempty hfits
    have hread : ReadAllowed allowed s (evadingOutcome accepted rejected s) := by
      intro cmd hcmd
      cases hstate : s.mountHandlerState with
      | getS1Reply =>
        obtain rfl : Command.s1 = cmd := by simpa [hstate, HandlerState.awaits] using hcmd
        rw [hs1 hstate]
        exact hallowed.1
      | getSReply =>
        obtain rfl : Command.s = cmd := by simpa [hstate, HandlerState.awaits] using hcmd
        rw [hs hstate]
        exact hallowed.2
      | getS0Reply => simp [hstate, HandlerState.serves] at h
      | _ => simp [hstate, HandlerState.awaits] at hcmd
    have hbusy : (poll s (evadingOutcome accepted rejected s)).mountHandlerState.serves =
        some .active := by
      apply poll_rejected h rfl rfl
      · intro hstate
        rw [hs1 hstate]
        exact haccepted
      · intro hstate
        rw [hs hstate]
        exact hrejected
    have hrest := ih hbusy (poll_evading_serialInput hempty hfits)
    exact ⟨⟨hread, hrest.1⟩, hrest.2⟩

/-- So there is no number of calls after which it has given up. -/
theorem not_givesUp (hfits : accepted.length ≤ 20 ∧ rejected.length ≤ 20)
    (haccepted : Accepted accepted) (hrejected : Rejected rejected)
    (hallowed : accepted ∈ allowed .s1 ∧ rejected ∈ allowed .s) (N : ℕ) :
    ¬GivesUp .active allowed N := by
  intro h
  have hstart : ((initial false 0 0).setMount .active).mountHandlerState.serves =
      some .active := rfl
  obtain ⟨hreads, hbusy⟩ := polls_evading hstart rfl hfits haccepted hrejected hallowed N
  obtain ⟨hidle, -⟩ := h _ _ hreads
  rw [hidle (length_evading _ N).ge] at hbusy
  simp [HandlerState.serves] at hbusy

/-- What a request for `MOUNT_ACTIVE` needs in order to end. -/
def EndsQuery (allowed : Command → Set (List Char)) : Prop :=
  (∀ reply ∈ allowed .s1, reply.length ≤ 20 → ¬Accepted reply) ∨
    ∀ reply ∈ allowed .s, reply.length ≤ 20 → ¬Rejected reply

/-- The handler gives up within some number of calls exactly for the requests that do not
query the status, and where it never reads after the query something else that begins as an
accepted reply, or never gets that far. -/
theorem gives_up_iff (mode : Mode) (allowed : Command → Set (List Char)) :
    (∃ N, GivesUp mode allowed N) ↔ mode = .idle ∨ EndsQuery allowed := by
  constructor
  · rintro ⟨N, hN⟩
    cases mode with
    | idle => exact Or.inl rfl
    | active =>
      by_contra hnot
      simp only [reduceCtorEq, false_or, EndsQuery, not_or, not_forall, not_not] at hnot
      obtain ⟨⟨accepted, hs1, hfits, haccepted⟩, rejected, hs, hfits', hrejected⟩ := hnot
      exact not_givesUp ⟨hfits, hfits'⟩ haccepted hrejected ⟨hs1, hs⟩ N hN
  · intro h
    refine ⟨1203, fun s os hos => ?_⟩
    have hnone : rejections (s.setMount mode) os = 0 := by
      rcases h with rfl | hs1 | hs
      · -- a request for `MOUNT_IDLE` never comes to the status query
        refine rejections_eq_zero
          (fun t => Counting t ∧ t.mountHandlerState.serves ≠ some .active) ?_ ?_ ?_ hos
        · rintro t o ⟨hcounting, hserves⟩ -
          have hcall := poll_counted hcounting o
          exact ⟨hcall.counting, fun hactive => hserves (hcall.serves _ hactive)⟩
        · rintro t o ⟨-, hserves⟩ - ⟨hstate, -⟩
          exact hserves (by rw [hstate]; rfl)
        · exact ⟨fun hwaits => absurd rfl hwaits, by simp [setMount, HandlerState.serves]⟩
      · refine rejections_eq_zero (fun t => ¬t.mountHandlerState.Asks) ?_ ?_ ?_ hos
        · intro t o hasks hread
          refine poll_asks hasks fun hstate => hs1 (readBy t o) (hread .s1 ?_) (length_readBy t o)
          rw [hstate]
          rfl
        · exact fun t o hasks _ hagain => hasks (Or.inr hagain.1)
        · cases mode <;> simp [setMount, HandlerState.Asks]
      · refine rejections_eq_zero (fun _ => True) (fun _ _ _ _ => trivial) ?_ ?_ hos
        · rintro t o - hread ⟨hstate, hrejected⟩
          refine hs (readBy t o) (hread .s ?_) (length_readBy t o) hrejected
          rw [hstate]
          rfl
        · trivial
    have hends := request_ends s mode os
    rw [hnone] at hends
    exact hends

/-- Every read gives `+0`. -/
theorem inactive_mount_never_given_up : ¬∃ N, GivesUp .active (fun _ => {['+', '0']}) N :=
  fun ⟨N, hN⟩ => not_givesUp ⟨by decide, by decide⟩ (by decide) (by decide)
    ⟨Set.mem_singleton ['+', '0'], Set.mem_singleton ['+', '0']⟩ N hN

end Mount
