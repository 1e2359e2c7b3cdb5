import Ngdcs.Mount.Handler

/-! What the reply that ends a request answers. The handler reads whatever has arrived, so the
reply belongs to the last command only where nothing older was under way when that command was
sent. -/
namespace Mount

open Runs

/-- The request that a state of the handler works on. -/
def HandlerState.serves : HandlerState → Option Mode
  | .s0MakeConnection | .sendS0 | .getS0Reply => some .idle
  | .s1MakeConnection | .sendS1 | .getS1Reply | .sendS | .getSReply => some .active
  | .idle | .other => none

/-- The command whose reply a state of the handler waits for. -/
def HandlerState.awaits : HandlerState → Option Command
  | .getS0Reply => some .s0
  | .getS1Reply => some .s1
  | .getSReply => some .s
  | _ => none

/-- The command whose reply ends a request. -/
def Mode.finalCommand : Mode → Command
  | .idle => .s0
  | .active => .s

/-- The replies that end a request. -/
def Mode.Accepts : Mode → List Char → Prop
  | .idle, text => text.head? = some '+'
  | .active, text => text = ['+', '1']

instance (m : Mode) (text : List Char) : Decidable (m.Accepts text) := by
  cases m <;> exact inferInstanceAs (Decidable (_ = _))

/-- Everything the handler has just consumed answers the last command sent. -/
def AnswersLastCommand (s : MountHandler) : Prop :=
  ∀ b ∈ s.consumed, b.2 + 1 = s.sent.length

instance (s : MountHandler) : Decidable (AnswersLastCommand s) :=
  inferInstanceAs (Decidable (∀ b ∈ s.consumed, b.2 + 1 = s.sent.length))

/-- The handler works on the request made last, and waits for the command sent last. Answers
under way answer commands that were sent, and only the last one where nothing else was under
way when it was sent. -/
structure Conversation (s : MountHandler) : Prop where
  handled : s.mountHandlerState ≠ .other
  requested : ∀ m, s.mountHandlerState.serves = some m → s.requests.getLast? = some m
  awaited : ∀ cmd, s.mountHandlerState.awaits = some cmd →
    ∃ c, s.sent.getLast? = some c ∧ c.command = cmd ∧ c.request = s.requests.length
  outstanding : ∀ n ∈ s.unanswered, n < s.sent.length
  unread : ∀ b ∈ s.serialInput, b.2 < s.sent.length
  clear : ∀ c, s.sent.getLast? = some c → c.clear = true →
    (∀ n ∈ s.unanswered, n + 1 = s.sent.length) ∧
      ∀ b ∈ s.serialInput, b.2 + 1 = s.sent.length

/-- The request made last has ended with an accepted reply. -/
structure RequestEnded (s : MountHandler) : Prop where
  request : ∃ m c, s.requests.getLast? = some m ∧ s.sent.getLast? = some c ∧
    c.command = m.finalCommand ∧ c.request = s.requests.length ∧
    m.Accepts (s.consumed.map Prod.fst)
  answers : ∀ b ∈ s.consumed, b.2 < s.sent.length
  clear : ∀ c, s.sent.getLast? = some c → c.clear = true → AnswersLastCommand s

/-- What one call of `handleMount` does: it goes on to another state or gives up, it sends a
command, or it ends the request. -/
inductive HandlerEffect (s : MountHandler) : MountHandler → Prop
  | moves (next : HandlerState) (iterations tries : ℕ) (color : CheckColor) (dev : Bool)
      (input consumed : List (Char × ℕ))
      (serves : ∀ m, next.serves = some m → s.mountHandlerState.serves = some m)
      (awaits : ∀ cmd, next.awaits = some cmd → s.mountHandlerState.awaits = some cmd)
      (handled : next ≠ .other)
      (gaveUp : next = .idle → s.mountHandlerState = .idle ∨ color = .red)
      (unread : input.Sublist s.serialInput) :
      HandlerEffect s { s with
        mountHandlerState := next, mountCmdIterations := iterations, mountCmdTries := tries
        mountCheckColor := color, mountDevOpen := dev, serialInput := input
        consumed := consumed }
  | sends (cmd : Command) (next : HandlerState) (tries : ℕ) (input consumed : List (Char × ℕ))
      (serves : ∀ m, next.serves = some m → s.mountHandlerState.serves = some m)
      (awaits : next.awaits = some cmd)
      (unread : input.Sublist s.serialInput) :
      HandlerEffect s { s with
        mountHandlerState := next, mountCmdIterations := 0, mountCmdTries := tries
        sent := s.sent ++ [⟨cmd, s.requests.length, s.unanswered.isEmpty && input.isEmpty⟩]
        unanswered := s.unanswered ++ [s.sent.length], serialInput := input
        consumed := consumed }
  | ends (m : Mode) (serves : s.mountHandlerState.serves = some m)
      (awaits : s.mountHandlerState.awaits = some m.finalCommand)
      (accepts : m.Accepts ((s.serialInput.take 20).map Prod.fst)) :
      HandlerEffect s { s with
        mountHandlerState := .idle, mountCheckColor := .green
        serialInput := s.serialInput.drop 20, consumed := s.serialInput.take 20 }

variable {s t : MountHandler}

theorem effect_fail (iterations tries : ℕ) {input : List (Char × ℕ)}
    (consumed : List (Char × ℕ)) (unread : input.Sublist s.serialInput) :
    HandlerEffect s { s with
      mountHandlerState := .idle, mountCmdIterations := iterations, mountCmdTries := tries
      mountCheckColor := .red, serialInput := input, consumed := consumed } :=
  .moves .idle iterations tries .red s.mountDevOpen input consumed nofun nofun nofun
    (fun _ => Or.inr rfl) unread

theorem effect_makeConnection (openOk : Bool) {next : HandlerState}
    (serves : ∀ m, next.serves = some m → s.mountHandlerState.serves = some m)
    (awaits : next.awaits = none) (handled : next ≠ .other) (busy : next ≠ .idle) :
    HandlerEffect s (s.beginCall.makeConnection openOk next) := by
  unfold MountHandler.makeConnection MountHandler.openMountConnection
  split_ifs with hopen
  · exact .moves next s.mountCmdIterations s.mountCmdTries s.mountCheckColor true s.serialInput []
      serves (by simp [awaits]) handled (fun h => absurd h busy) (List.Sublist.refl _)
  · exact effect_fail s.mountCmdIterations s.mountCmdTries [] (List.Sublist.refl _)

theorem effect_sendAndAwait (cmd : Command) (sendOk : Bool) {next : HandlerState}
    (serves : ∀ m, next.serves = some m → s.mountHandlerState.serves = some m)
    (awaits : next.awaits = some cmd) :
    HandlerEffect s (s.beginCall.sendAndAwait cmd sendOk next) := by
  unfold MountHandler.sendAndAwait MountHandler.sendMountCmd
  split_ifs with hsend
  · exact .sends cmd next 0 s.serialInput [] serves awaits (List.Sublist.refl _)
  · exact effect_fail s.mountCmdIterations s.mountCmdTries [] (List.Sublist.refl _)

theorem responseOk_head {bufSize : ℕ} (h : (s.readPCSerial bufSize).responseOk = true) :
    Mode.idle.Accepts ((s.serialInput.take bufSize).map Prod.fst) := by
  unfold MountHandler.responseOk MountHandler.readPCSerial at h
  cases hread : s.serialInput.take bufSize with
  | nil => simp [hread] at h
  | cons b rest =>
    simp only [hread, beq_iff_eq] at h
    simp [Mode.Accepts, h]

/-- The reply is accepted, or the handler waits, sends the command again or gives up. -/
theorem effect_getAndCheckResponse (cmd : Command) (sendOk : Bool)
    {accepted : MountHandler → MountHandler} (hawaits : s.mountHandlerState.awaits = some cmd)
    (haccepted : (s.readPCSerial 20).responseOk = true →
      HandlerEffect s (accepted (s.readPCSerial 20))) :
    HandlerEffect s
      (s.beginCall.getAndCheckResponse cmd sendOk accepted) := by
  have hhandled : s.mountHandlerState ≠ .other := by
    rintro h
    simp [h, HandlerState.awaits] at hawaits
  have hbusy : s.mountHandlerState ≠ .idle := by
    rintro h
    simp [h, HandlerState.awaits] at hawaits
  have hunread : (s.serialInput.drop 20).Sublist s.serialInput := List.drop_sublist 20 _
  unfold MountHandler.getAndCheckResponse
  simp only
  split_ifs with hok hsilent htries
  · exact haccepted hok
  · exact effect_fail _ _ (s.serialInput.take 20) hunread
  · unfold MountHandler.send MountHandler.sendMountCmd
    split_ifs with hsend
    · exact .sends cmd s.mountHandlerState _ _ (s.serialInput.take 20) (fun _ => id) hawaits
        hunread
    · exact effect_fail _ _ (s.serialInput.take 20) hunread
  · exact .moves s.mountHandlerState _ _ _ _ _ (s.serialInput.take 20) (fun _ => id)
      (fun _ => id) hhandled (fun h => absurd h hbusy) hunread

/-- Nothing that is accepted ends the request in the states before the last. -/
theorem effect_next (next : HandlerState)
    (serves : ∀ m, next.serves = some m → s.mountHandlerState.serves = some m)
    (awaits : next.awaits = none) (handled : next ≠ .other) (busy : next ≠ .idle) :
    HandlerEffect s { s.readPCSerial 20 with mountHandlerState := next } :=
  .moves next s.mountCmdIterations s.mountCmdTries s.mountCheckColor s.mountDevOpen
    (s.serialInput.drop 20) (s.serialInput.take 20) serves (by simp [awaits]) handled
    (fun h => absurd h busy) (List.drop_sublist 20 _)

theorem handleMount_effect (hs : Conversation s) (openOk sendOk : Bool) :
    HandlerEffect s (s.handleMount openOk sendOk) := by
  have hsame : s.beginCall.mountHandlerState = s.mountHandlerState := rfl
  unfold MountHandler.handleMount
  cases hstate : s.mountHandlerState with
  | idle =>
    simp only [hsame, hstate]
    exact .moves s.mountHandlerState _ _ _ _ _ [] (fun _ => id) (fun _ => id) hs.handled Or.inl
      (List.Sublist.refl _)
  | s0MakeConnection =>
    simp only [hsame, hstate]
    exact effect_makeConnection openOk (by simp [hstate, HandlerState.serves]) rfl nofun nofun
  | sendS0 =>
    simp only [hsame, hstate]
    exact effect_sendAndAwait .s0 sendOk (by simp [hstate, HandlerState.serves]) rfl
  | getS0Reply =>
    simp only [hsame, hstate]
    apply effect_getAndCheckResponse .s0 sendOk (by rw [hstate]; rfl)
    intro hok
    exact .ends .idle (by rw [hstate]; rfl) (by rw [hstate]; rfl) (responseOk_head hok)
  | s1MakeConnection =>
    simp only [hsame, hstate]
    exact effect_makeConnection openOk (by simp [hstate, HandlerState.serves]) rfl nofun nofun
  | sendS1 =>
    simp only [hsame, hstate]
    exact effect_sendAndAwait .s1 sendOk (by simp [hstate, HandlerState.serves]) rfl
  | getS1Reply =>
    simp only [hsame, hstate]
    apply effect_getAndCheckResponse .s1 sendOk (by rw [hstate]; rfl)
    exact fun _ => effect_next .sendS (by simp [hstate, HandlerState.serves]) rfl nofun nofun
  | sendS =>
    simp only [hsame, hstate]
    exact effect_sendAndAwait .s sendOk (by simp [hstate, HandlerState.serves]) rfl
  | getSReply =>
    simp only [hsame, hstate]
    apply effect_getAndCheckResponse .s sendOk (by rw [hstate]; rfl)
    intro hok
    split_ifs with hplus
    · exact .ends .active (by rw [hstate]; rfl) (by rw [hstate]; rfl) hplus
    · exact effect_next .sendS (by simp [hstate, HandlerState.serves]) rfl nofun nofun
  | other => exact absurd hstate hs.handled

/-! ### The invariant -/

theorem Conversation.of_effect (hs : Conversation s) (h : HandlerEffect s t) :
    Conversation t := by
  cases h with
  | moves next iterations tries color dev input consumed serves awaits handled gaveUp unread =>
    exact ⟨handled, fun m hm => hs.requested m (serves m hm),
      fun cmd hcmd => hs.awaited cmd (awaits cmd hcmd), hs.outstanding,
      fun b hb => hs.unread b (unread.subset hb),
      fun c hc hclear => ⟨(hs.clear c hc hclear).1,
        fun b hb => (hs.clear c hc hclear).2 b (unread.subset hb)⟩⟩
  | sends cmd next tries input consumed serves awaits unread =>
    refine ⟨?_, fun m hm => hs.requested m (serves m hm), ?_, ?_, ?_, ?_⟩
    · rintro rfl
      simp [HandlerState.awaits] at awaits
    · intro cmd' hcmd
      rw [awaits, Option.some.injEq] at hcmd
      subst hcmd
      exact ⟨_, List.getLast?_concat, rfl, rfl⟩
    · intro n hn
      rw [List.length_append, List.length_singleton]
      rcases List.mem_append.mp hn with hn | hn
      · exact Nat.lt_succ_of_lt (hs.outstanding n hn)
      · rw [List.mem_singleton.mp hn]
        exact Nat.lt_succ_self _
    · intro b hb
      rw [List.length_append, List.length_singleton]
      exact Nat.lt_succ_of_lt (hs.unread b (unread.subset hb))
    · intro c hc hclear
      rw [List.getLast?_concat, Option.some.injEq] at hc
      subst hc
      simp only [Bool.and_eq_true, List.isEmpty_iff] at hclear
      obtain ⟨hanswers, hinput⟩ := hclear
      simp [hanswers, hinput]
  | ends m serves awaits accepts =>
    have hsub : ∀ b ∈ s.serialInput.drop 20, b ∈ s.serialInput := fun b => List.mem_of_mem_drop
    exact ⟨nofun, nofun, nofun, hs.outstanding, fun b hb => hs.unread b (hsub b hb),
      fun c hc hclear => ⟨(hs.clear c hc hclear).1,
        fun b hb => (hs.clear c hc hclear).2 b (hsub b hb)⟩⟩

/-- A request starts the handler anew; what is under way stays. -/
theorem Conversation.request (hs : Conversation s) (m : Mode) {next : HandlerState}
    (serves : next.serves = some m) (awaits : next.awaits = none) (color : CheckColor)
    (dev : Bool) : Conversation { s with
      mountHandlerState := next, mountCheckColor := color, mountDevOpen := dev
      requests := s.requests ++ [m] } where
  handled := by
    rintro rfl
    simp [HandlerState.serves] at serves
  requested m' hm' := by
    rw [serves, Option.some.injEq] at hm'
    rw [hm']
    exact List.getLast?_concat
  awaited cmd hcmd := by simp [awaits] at hcmd
  outstanding := hs.outstanding
  unread := hs.unread
  clear := hs.clear

theorem Conversation.replyArrives (hs : Conversation s) {text : List Char} {complete : Bool}
    (h : s.replyArrives text complete = some t) : Conversation t := by
  unfold MountHandler.replyArrives at h
  cases hanswers : s.unanswered with
  | nil => simp [hanswers] at h
  | cons n rest =>
    simp only [hanswers, Option.some.injEq] at h
    subst h
    have hsub : ∀ k ∈ (if complete then rest else n :: rest), k ∈ s.unanswered := by
      rw [hanswers]
      split_ifs
      · exact fun k hk => List.mem_cons_of_mem n hk
      · exact fun k => id
    have hn : n ∈ s.unanswered := by simp [hanswers]
    refine ⟨hs.handled, hs.requested, hs.awaited, fun k hk => hs.outstanding k (hsub k hk), ?_, ?_⟩
    · intro b hb
      rcases List.mem_append.mp hb with hb | hb
      · exact hs.unread b hb
      · obtain ⟨c, -, rfl⟩ := List.mem_map.mp hb
        exact hs.outstanding n hn
    · intro c hc hclear
      obtain ⟨houtstanding, hunread⟩ := hs.clear c hc hclear
      refine ⟨fun k hk => houtstanding k (hsub k hk), fun b hb => ?_⟩
      rcases List.mem_append.mp hb with hb | hb
      · exact hunread b hb
      · obtain ⟨c, -, rfl⟩ := List.mem_map.mp hb
        exact houtstanding n hn

theorem Conversation.step (hs : Conversation s) {e : Event} (h : step s e = some t) :
    Conversation t := by
  cases e with
  | handleMount openOk sendOk =>
    cases h
    exact hs.of_effect (handleMount_effect hs openOk sendOk)
  | setMount newState =>
    cases h
    cases newState
    · exact hs.request .idle rfl rfl s.mountCheckColor s.mountDevOpen
    · exact hs.request .active rfl rfl s.mountCheckColor s.mountDevOpen
  | makeMountUsed openOk =>
    cases h
    unfold MountHandler.makeMountUsed MountHandler.openMountConnection
    simp only
    split_ifs
    · exact hs.request .idle rfl rfl .yellow true
    · exact ⟨hs.handled, hs.requested, hs.awaited, hs.outstanding, hs.unread, hs.clear⟩
  | makeMountUnused =>
    cases h
    exact ⟨nofun, nofun, nofun, hs.outstanding, hs.unread, hs.clear⟩
  | replyArrives text complete => exact hs.replyArrives h

theorem conversation_initial (mountUsed : Bool) (iterations tries : ℕ) :
    Conversation (.initial mountUsed iterations tries) where
  handled := by cases mountUsed <;> simp [MountHandler.initial]
  requested := by cases mountUsed <;> simp [MountHandler.initial, HandlerState.serves]
  awaited := by cases mountUsed <;> simp [MountHandler.initial, HandlerState.awaits]
  outstanding := nofun
  unread := nofun
  clear := nofun

/-! ### The end of a request -/

theorem Conversation.ended (hs : Conversation s) (h : HandlerEffect s t)
    (hbusy : s.mountHandlerState ≠ .idle) (hidle : t.mountHandlerState = .idle)
    (hgreen : t.mountCheckColor = .green) : RequestEnded t := by
  cases h with
  | moves next iterations tries color dev input consumed serves awaits handled gaveUp unread =>
    rcases gaveUp hidle with h | h
    · exact absurd h hbusy
    · simp [h] at hgreen
  | sends cmd next tries input consumed serves awaits unread =>
    simp only at hidle
    simp [hidle, HandlerState.awaits] at awaits
  | ends m serves awaits accepts =>
    obtain ⟨c, hlast, hcommand, hrequest⟩ := hs.awaited _ awaits
    have hsub : ∀ b ∈ s.serialInput.take 20, b ∈ s.serialInput := fun b => List.mem_of_mem_take
    exact ⟨⟨m, c, hs.requested m serves, hlast, hcommand, hrequest, accepts⟩,
      fun b hb => hs.unread b (hsub b hb),
      fun c hc hclear b hb => (hs.clear c hc hclear).2 b (hsub b hb)⟩

/-- Whenever a call of `handleMount` turns the indicator green and goes idle, the last command
sent is the one that ends the request made last, the reply is of the kind that ends it and
answers commands that were sent; it answers that last command if nothing older was to come or
unread when this was sent. -/
theorem green_reply (mountUsed : Bool) (iterations tries : ℕ) (es : List Event)
    (openOk sendOk : Bool)
    (hrun : run step (.initial mountUsed iterations tries) es = some s)
    (hbusy : s.mountHandlerState ≠ .idle)
    (hidle : (s.handleMount openOk sendOk).mountHandlerState = .idle)
    (hgreen : (s.handleMount openOk sendOk).mountCheckColor = .green) :
    RequestEnded (s.handleMount openOk sendOk) := by
  have hs : Conversation s :=
    run_invariant (fun _ _ _ hs h => hs.step h) (conversation_initial mountUsed iterations tries)
      hrun
  exact hs.ended (handleMount_effect hs openOk sendOk) hbusy hidle hgreen

/-- The mount is made active; both answers come in pieces. -/
def activeTalk : List Event :=
  [.setMount .active, .handleMount true true, .handleMount true true,
    .replyArrives ['+'] true, .handleMount true true, .handleMount true true,
    .replyArrives ['+'] false, .replyArrives ['1'] true]

/-- A talk in which each answer is read before the next command is sent. -/
theorem green_reply_active : ∃ s, run step (.initial true 0 0) activeTalk = some s ∧
    RequestEnded (s.handleMount true true) :=
  ⟨_, rfl, green_reply true 0 0 activeTalk true true rfl (by decide) (by decide) (by decide)⟩

/-- The mount is requested active and then idle; the answer to `S1` comes when `S0` is out. -/
def lateAnswer : List Event :=
  [.setMount .active, .handleMount true true, .handleMount true true, .setMount .idle,
    .handleMount true true, .handleMount true true, .replyArrives ['+'] true]

/-- The indicator turns green on the answer to a command of the request before. -/
theorem late_answer_taken : ∃ s, run step (.initial false 0 0) lateAnswer = some s ∧
    s.mountHandlerState ≠ .idle ∧ (s.handleMount true true).mountHandlerState = .idle ∧
    (s.handleMount true true).mountCheckColor = .green ∧
    ¬AnswersLastCommand (s.handleMount true true) :=
  ⟨_, rfl, by decide, by decide, by decide, by decide⟩

end Mount
