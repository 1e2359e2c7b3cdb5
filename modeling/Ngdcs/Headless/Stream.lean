import Ngdcs.Headless.Commands
import Ngdcs.Lib.Pieces
import Ngdcs.Lib.Runs

/-! The commands of the headless program against the bytes that came over the line. The
stream is cut where the program flushes its buffer; what it carries out are the pairs of
bytes of each segment, however they were read. -/
namespace Headless
open Runs Pieces Recorder

/-- What came over the line: the segments that a flush ended, the bytes since the last flush,
and when the last of them were read. -/
structure Stream where
  earlier : List (List UInt8)
  current : List UInt8
  lastByte : ℕ

namespace Stream

def segments (st : Stream) : List (List UInt8) := st.earlier ++ [st.current]

def flush (st : Stream) : Stream :=
  { st with earlier := st.earlier ++ [st.current], current := [] }

/-- A byte waits for the second one, nothing was read, and 500 ms have passed. -/
def TimedOut (st : Stream) (read : SerialResult) (now : ℕ) : Prop :=
  read = .bytes [] ∧ st.current.length % 2 = 1 ∧ st.lastByte + 500000 ≤ now

/-- Bytes join the segment; an error ends it, and so does a byte that waits too long. -/
def receive (st : Stream) (now : ℕ) : SerialResult → Stream
  | .error => st.flush
  | .bytes [] =>
    if st.current.length % 2 = 1 ∧ st.lastByte + 500000 ≤ now then st.flush else st
  | .bytes (b :: l) => { st with current := st.current ++ b :: l, lastByte := now }

end Stream

/-- The interface with the clock and the stream, which it does not see as a whole. -/
structure Session where
  interface : HeadlessTab
  clock : TimeVal
  stream : Stream

/-- No more than was asked for is read, and the clock does not go back. -/
def Session.Reads (s : Session) (read : SerialResult) (timeNow : TimeVal) : Prop :=
  s.interface.headlessDevOpen = true ∧ s.clock.micros ≤ timeNow.micros ∧
    match read with
    | .error => True
    | .bytes l => l.length ≤ 2 - s.interface.headlessCmd.length

instance (s : Session) (read : SerialResult) (timeNow : TimeVal) :
    Decidable (s.Reads read timeNow) := by
  unfold Session.Reads
  cases read <;> infer_instance

/-- `dataThread` polls the line only if the device is open. -/
def step (cfg : HeadlessSettings) (s : Session) : HeadlessEvent → Option Session
  | .poll read timeNow o =>
    if s.Reads read timeNow then
      (s.interface.checkHeadlessInterface cfg read timeNow o).map
        (⟨·, timeNow, s.stream.receive timeNow.micros read⟩)
    else none
  | .recorder e =>
    if isCommand e then none
    else (Recorder.step cfg.recorder s.interface.tab e).map
      fun t => { s with interface := s.interface.runTab t }
  | .transmit fifoStatus =>
    some { s with interface := { s.interface with
      gpsInit := s.interface.gpsInit.transmit fifoStatus } }
  | .status color first second =>
    some { s with interface :=
      s.interface.writePCSerial (statusString color first second) }

/-- The bytes read complete a pair. -/
def Completes (s : Session) (read : SerialResult) : Prop :=
  ∃ l, read = .bytes l ∧ s.stream.current.length % 2 + l.length = 2

/-- A step that completes a pair executes it. Otherwise no command is carried out; `A!` is
written if a byte has waited too long, and if not, the bytes are kept unless there was an
error, and there is no answer. -/
def Answered (cfg : HeadlessSettings) (s : Session) (e : HeadlessEvent) (t : Session) : Prop :=
  ∃ out, t.interface.serialOut = s.interface.serialOut ++ out ∧
    match e with
    | .poll read timeNow o =>
      (Completes s read → ∃ l p, read = .bytes l ∧
        s.interface.headlessCmd ++ l = [p.1, p.2] ∧
          Executes cfg o p s.interface t.interface out) ∧
        (¬Completes s read → t.interface.commands = s.interface.commands ∧
          t.interface.tab = s.interface.tab ∧ t.interface.gpsInit = s.interface.gpsInit) ∧
        (s.stream.TimedOut read timeNow.micros →
          answers out = [['A', '!']] ∧ t.interface.headlessCmd = []) ∧
        (¬Completes s read → ¬s.stream.TimedOut read timeNow.micros → answers out = [] ∧
          ∀ l, read = .bytes l →
            t.interface.headlessCmd = s.interface.headlessCmd ++ l)
    | _ => answers out = [] ∧ t.interface.headlessCmd = s.interface.headlessCmd ∧
      t.interface.commands = s.interface.commands

/-- The interface has carried out the pairs of bytes of the stream, and keeps what is left. -/
structure Follows (s : Session) : Prop where
  pending : s.interface.headlessCmd = leftover s.stream.current
  commands : s.interface.commands = s.stream.segments.flatMap pairs
  last : s.stream.current.length % 2 = 1 → s.interface.lastTime.micros = s.stream.lastByte
  clock : s.stream.lastByte ≤ s.clock.micros

/-- The comparison of seconds and microseconds is that of the times. -/
theorem resync_iff {lastTime timeNow : TimeVal} (h : lastTime.micros ≤ timeNow.micros) :
    HeadlessTab.resync lastTime timeNow = true ↔ lastTime.micros + 500000 ≤ timeNow.micros := by
  have hlast := lastTime.usec_lt
  have hnow := timeNow.usec_lt
  simp only [TimeVal.micros] at h ⊢
  unfold HeadlessTab.resync
  split_ifs with hsame hnext
  · rw [decide_eq_true_eq]
    omega
  · rw [decide_eq_true_eq]
    omega
  · have hlate : lastTime.tvSec + 2 ≤ timeNow.tvSec := by omega
    clear h hsame hnext
    exact iff_of_true rfl (by omega)

namespace HeadlessTab

variable (cfg : HeadlessSettings) (s : HeadlessTab)

/-- Bytes within what was asked for pass the assertions. -/
theorem checkHeadlessInterface_bytes {b : UInt8} {l : List UInt8} {timeNow : TimeVal}
    (o : CommandOutcome) (hopen : s.headlessDevOpen = true)
    (hasked : (s.headlessCmd ++ b :: l).length ≤ 2) :
    s.checkHeadlessInterface cfg (.bytes (b :: l)) timeNow o =
      if (s.headlessCmd ++ b :: l).length = 2 then
        some { { s with headlessCmd := s.headlessCmd ++ b :: l }.handleCommand cfg o with
          headlessCmd := [], lastTime := .zero }
      else some { s with headlessCmd := s.headlessCmd ++ b :: l, lastTime := timeNow } := by
  rw [List.length_append, List.length_cons] at hasked
  rw [checkHeadlessInterface, if_neg (not_not.mpr ⟨by omega, hopen⟩)]
  · refine if_neg (not_not.mpr ⟨?_, ?_⟩) <;> simp only [List.length_cons] <;> omega
  · exact List.cons_ne_nil b l

end HeadlessTab

variable {cfg : HeadlessSettings} {s t : Session}

theorem Follows.length_pending (h : Follows s) :
    s.interface.headlessCmd.length = s.stream.current.length % 2 := by
  rw [h.pending, length_leftover]

/-- Bytes that are read continue the segment. -/
theorem Follows.pairs_append (h : Follows s) (l : List UInt8) :
    (s.stream.earlier ++ [s.stream.current ++ l]).flatMap pairs =
      s.interface.commands ++ pairs (s.interface.headlessCmd ++ l) := by
  rw [h.commands, h.pending, Stream.segments, List.flatMap_append, List.flatMap_append,
    List.flatMap_singleton, List.flatMap_singleton, Pieces.pairs_append, List.append_assoc]

theorem Follows.segments_flush (h : Follows s) :
    s.interface.commands = s.stream.flush.segments.flatMap pairs := by
  rw [h.commands, Stream.segments, Stream.segments, Stream.flush, List.flatMap_append]
  simp

/-- The test of `checkHeadlessInterface` for a byte that waits too long. -/
theorem Follows.timedOut_iff (h : Follows s) {timeNow : TimeVal}
    (hclock : s.clock.micros ≤ timeNow.micros) :
    (s.interface.headlessCmd.length = 1 ∧
        HeadlessTab.resync s.interface.lastTime timeNow = true) ↔
      s.stream.current.length % 2 = 1 ∧ s.stream.lastByte + 500000 ≤ timeNow.micros := by
  rw [h.length_pending]
  refine and_congr_right fun hodd => ?_
  have hlast := h.last hodd
  have hle := h.clock
  rw [resync_iff (by omega), hlast]

theorem Follows.completes_iff (h : Follows s) {l : List UInt8} :
    Completes s (.bytes l) ↔ (s.interface.headlessCmd ++ l).length = 2 := by
  rw [List.length_append, h.length_pending]
  constructor
  · rintro ⟨l', hl', hpair⟩
    obtain rfl := SerialResult.bytes.inj hl'
    exact hpair
  · intro hpair
    exact ⟨l, rfl, hpair⟩

/-- What is left of the segment is what is left of the buffer. -/
theorem Follows.leftover_append (h : Follows s) (l : List UInt8) :
    leftover (s.stream.current ++ l) = leftover (s.interface.headlessCmd ++ l) := by
  rw [Pieces.leftover_append, h.pending]

/-- The session after a poll that leaves the interface as `u`. -/
def afterPoll (s : Session) (u : HeadlessTab) (timeNow : TimeVal) (read : SerialResult) :
    Session :=
  ⟨u, timeNow, s.stream.receive timeNow.micros read⟩

/-- An error drops what is in the buffer. -/
theorem Follows.poll_error (h : Follows s) {timeNow : TimeVal} (o : CommandOutcome)
    (hreads : s.Reads .error timeNow) : ∃ u,
      s.interface.checkHeadlessInterface cfg .error timeNow o = some u ∧
        Follows (afterPoll s u timeNow .error) ∧
          Answered cfg s (.poll .error timeNow o) (afterPoll s u timeNow .error) := by
  obtain ⟨hopen, hclock, -⟩ := hreads
  have hlen := h.length_pending
  have hclock' := h.clock
  refine ⟨{ s.interface with headlessCmd := [] }, ?_, ⟨rfl, h.segments_flush, ?_, ?_⟩,
    [], by simp [afterPoll], ?_, fun _ => ⟨rfl, rfl, rfl⟩, ?_, ?_⟩
  · rw [HeadlessTab.checkHeadlessInterface, if_neg (not_not.mpr ⟨by omega, hopen⟩)]
  · intro hodd
    simp [afterPoll, Stream.receive, Stream.flush] at hodd
  · exact hclock'.trans hclock
  · rintro ⟨l, hl, -⟩
    simp at hl
  · rintro ⟨hl, -⟩
    simp at hl
  · exact fun _ _ => ⟨rfl, fun l hl => by simp at hl⟩

/-- Nothing is read: only a byte that has waited too long matters. -/
theorem Follows.poll_nothing (h : Follows s) {timeNow : TimeVal} (o : CommandOutcome)
    (hreads : s.Reads (.bytes []) timeNow) : ∃ u,
      s.interface.checkHeadlessInterface cfg (.bytes []) timeNow o = some u ∧
        Follows (afterPoll s u timeNow (.bytes [])) ∧
          Answered cfg s (.poll (.bytes []) timeNow o) (afterPoll s u timeNow (.bytes [])) := by
  obtain ⟨hopen, hclock, -⟩ := hreads
  have hlen := h.length_pending
  have hclock' := h.clock
  have htest := h.timedOut_iff hclock
  have hassert : ¬¬(s.interface.headlessCmd.length ≤ 1 ∧
      s.interface.headlessDevOpen = true) := not_not.mpr ⟨by omega, hopen⟩
  have hcompletes : ¬Completes s (.bytes []) := by
    rw [h.completes_iff, List.append_nil]
    omega
  by_cases hout : s.stream.current.length % 2 = 1 ∧
      s.stream.lastByte + 500000 ≤ timeNow.micros
  · have hreceive : s.stream.receive timeNow.micros (.bytes []) = s.stream.flush := if_pos hout
    refine ⟨{ s.interface with headlessCmd := [] }.writePCSerial ['A', '!'], ?_,
      ⟨?_, ?_, ?_, ?_⟩, [['A', '!']], rfl, fun hq => absurd hq hcompletes,
      fun _ => ⟨rfl, rfl, rfl⟩, fun _ => ⟨rfl, rfl⟩, fun _ hno => absurd ⟨rfl, hout⟩ hno⟩
    · rw [HeadlessTab.checkHeadlessInterface, if_neg hassert]
      exact if_pos (htest.mpr hout)
    · rw [afterPoll, hreceive]
      rfl
    · rw [afterPoll, hreceive]
      exact h.segments_flush
    · rw [afterPoll, hreceive]
      simp [Stream.flush]
    · rw [afterPoll, hreceive]
      exact hclock'.trans hclock
  · have hreceive : s.stream.receive timeNow.micros (.bytes []) = s.stream := if_neg hout
    have hkept : Follows (afterPoll s s.interface timeNow (.bytes [])) := by
      rw [afterPoll, hreceive]
      exact ⟨h.pending, h.commands, h.last, hclock'.trans hclock⟩
    refine ⟨s.interface, ?_, hkept, [], (List.append_nil _).symm,
      fun hq => absurd hq hcompletes, fun _ => ⟨rfl, rfl, rfl⟩, fun hq => absurd hq.2 hout,
      fun _ _ => ⟨rfl, ?_⟩⟩
    · rw [HeadlessTab.checkHeadlessInterface, if_neg hassert]
      exact if_neg fun hq => hout (htest.mp hq)
    · intro l hl
      obtain rfl := SerialResult.bytes.inj hl
      exact (List.append_nil _).symm

theorem not_timedOut {b : UInt8} {l : List UInt8} {now : ℕ} :
    ¬s.stream.TimedOut (.bytes (b :: l)) now := by
  rintro ⟨hl, -⟩
  exact absurd (SerialResult.bytes.inj hl) (List.cons_ne_nil b l)

/-- Bytes are read that complete a command. -/
theorem Follows.poll_pair (h : Follows s) {timeNow : TimeVal} {o : CommandOutcome} {b : UInt8}
    {l : List UInt8} (hpair : (s.interface.headlessCmd ++ b :: l).length = 2) {u : HeadlessTab}
    (hu : u = { { s.interface with
      headlessCmd := s.interface.headlessCmd ++ b :: l }.handleCommand cfg o with
      headlessCmd := [], lastTime := .zero }) :
    Follows (afterPoll s u timeNow (.bytes (b :: l))) ∧
      Answered cfg s (.poll (.bytes (b :: l)) timeNow o)
        (afterPoll s u timeNow (.bytes (b :: l))) := by
  obtain ⟨c, d, hcd⟩ := List.length_eq_two.mp hpair
  obtain ⟨out, hout, hexecutes⟩ := HeadlessTab.handleCommand_executes cfg o
    (s := { s.interface with headlessCmd := s.interface.headlessCmd ++ b :: l }) (p := (c, d)) hcd
  have hleft : leftover (s.stream.current ++ b :: l) = [] := by
    rw [h.leftover_append, hcd]
    rfl
  subst hu
  have hcompletes : Completes s (.bytes (b :: l)) := h.completes_iff.mpr hpair
  refine ⟨⟨hleft.symm, ?_, ?_, le_rfl⟩, out, hout,
    fun _ => ⟨b :: l, (c, d), rfl, hcd, hexecutes.commands, hexecutes.accepted,
      hexecutes.refused⟩,
    fun hq => absurd hcompletes hq, fun hq => absurd hq not_timedOut,
    fun hq => absurd hcompletes hq⟩
  · refine Eq.trans ?_ (h.pairs_append (b :: l)).symm
    simp only [afterPoll, HeadlessTab.handleCommand, hcd, pairs_pair]
  · intro hodd
    have hcount := congrArg List.length hleft
    rw [length_leftover, List.length_nil] at hcount
    simp only [afterPoll, Stream.receive] at hodd
    omega

/-- A byte is read that waits for the second one. -/
theorem Follows.poll_single (h : Follows s) {timeNow : TimeVal} (o : CommandOutcome) {b : UInt8}
    (hnone : s.interface.headlessCmd = []) :
    Follows (afterPoll s { s.interface with headlessCmd := [b], lastTime := timeNow } timeNow
        (.bytes [b])) ∧
      Answered cfg s (.poll (.bytes [b]) timeNow o)
        (afterPoll s { s.interface with headlessCmd := [b], lastTime := timeNow } timeNow
          (.bytes [b])) := by
  have hleft := h.leftover_append [b]
  have hpairs := h.pairs_append [b]
  have hcompletes : ¬Completes s (.bytes [b]) := by
    rw [h.completes_iff, hnone, List.nil_append, List.length_singleton]
    decide
  rw [hnone, List.nil_append] at hleft hpairs
  refine ⟨⟨hleft.symm, ?_, fun _ => rfl, le_rfl⟩, [], (List.append_nil _).symm,
    fun hq => absurd hq hcompletes, fun _ => ⟨rfl, rfl, rfl⟩, fun hq => absurd hq not_timedOut,
    fun _ _ => ⟨rfl, ?_⟩⟩
  · exact (hpairs.trans (List.append_nil _)).symm
  · intro l hl
    obtain rfl := SerialResult.bytes.inj hl
    rw [hnone]
    rfl

theorem Follows.poll_bytes (h : Follows s) {timeNow : TimeVal} (o : CommandOutcome) {b : UInt8}
    {l : List UInt8} (hreads : s.Reads (.bytes (b :: l)) timeNow) : ∃ u,
      s.interface.checkHeadlessInterface cfg (.bytes (b :: l)) timeNow o = some u ∧
        Follows (afterPoll s u timeNow (.bytes (b :: l))) ∧
          Answered cfg s (.poll (.bytes (b :: l)) timeNow o)
            (afterPoll s u timeNow (.bytes (b :: l))) := by
  obtain ⟨hopen, hclock, hasked⟩ := hreads
  have hlen := h.length_pending
  have hfits : (s.interface.headlessCmd ++ b :: l).length ≤ 2 := by
    simp only [List.length_append] at hasked ⊢
    omega
  rw [HeadlessTab.checkHeadlessInterface_bytes cfg _ o hopen hfits]
  by_cases hpair : (s.interface.headlessCmd ++ b :: l).length = 2
  · rw [if_pos hpair]
    exact ⟨_, rfl, h.poll_pair hpair rfl⟩
  · rw [if_neg hpair]
    rw [List.length_append, List.length_cons] at hpair hfits
    have hnone : s.interface.headlessCmd = [] := List.eq_nil_of_length_eq_zero (by omega)
    obtain rfl : l = [] := List.eq_nil_of_length_eq_zero (by omega)
    rw [hnone]
    exact ⟨_, rfl, h.poll_single o hnone⟩

theorem Follows.poll (h : Follows s) {read : SerialResult} {timeNow : TimeVal}
    (o : CommandOutcome) (hreads : s.Reads read timeNow) : ∃ u,
      s.interface.checkHeadlessInterface cfg read timeNow o = some u ∧
        Follows (afterPoll s u timeNow read) ∧
          Answered cfg s (.poll read timeNow o) (afterPoll s u timeNow read) := by
  match read with
  | .error => exact h.poll_error o hreads
  | .bytes [] => exact h.poll_nothing o hreads
  | .bytes (b :: l) => exact h.poll_bytes o hreads

/-- Every step keeps up with the stream and gives the answers it should. -/
theorem step_answered {e : HeadlessEvent} (hs : Follows s) (h : step cfg s e = some t) :
    Follows t ∧ Answered cfg s e t := by
  cases e with
  | poll read timeNow o =>
    simp only [step, Option.ite_none_right_eq_some, Option.map_eq_some_iff] at h
    obtain ⟨hreads, u, hu, rfl⟩ := h
    obtain ⟨u', hu', hfollows, hanswered⟩ := @Follows.poll cfg s hs read timeNow o hreads
    obtain rfl := Option.some.inj (hu'.symm.trans hu)
    exact ⟨hfollows, hanswered⟩
  | recorder e =>
    simp only [step, Option.ite_none_left_eq_some, Option.map_eq_some_iff] at h
    obtain ⟨-, u, -, rfl⟩ := h
    obtain ⟨out, hstatus, hout⟩ := s.interface.runTab_serialOut u
    exact ⟨⟨hs.pending, hs.commands, hs.last, hs.clock⟩, out, hout,
      answers_of_status hstatus, rfl, rfl⟩
  | transmit fifoStatus =>
    obtain rfl := Option.some.inj h
    exact ⟨⟨hs.pending, hs.commands, hs.last, hs.clock⟩, [], (List.append_nil _).symm, rfl, rfl,
      rfl⟩
  | status color first second =>
    obtain rfl := Option.some.inj h
    refine ⟨⟨hs.pending, hs.commands, hs.last, hs.clock⟩, _, rfl, answers_of_status ?_, rfl, rfl⟩
    intro x hx
    obtain rfl := List.mem_singleton.mp hx
    exact length_statusString color first second

/-- The program when the data thread starts. -/
def initial (tab : DisplayTab) (headlessDevOpen : Bool) : Session where
  interface :=
    { tab := tab
      gpsInit := .initial
      headlessDevOpen := headlessDevOpen
      headlessCmd := []
      lastTime := .zero
      serialOut := []
      commands := [] }
  clock := .zero
  stream := ⟨[], [], 0⟩

theorem follows_initial (tab : DisplayTab) (headlessDevOpen : Bool) :
    Follows (initial tab headlessDevOpen) :=
  ⟨rfl, rfl, fun h => by simp [initial] at h, Nat.zero_le _⟩

/-- Whatever is read and whenever: the pairs of bytes of each segment are executed when they are
complete, each with one answer, a byte is given up only after 500 ms, and the next poll fails no
assertion. -/
theorem headless_command_stream (cfg : HeadlessSettings) (tab : DisplayTab)
    (headlessDevOpen : Bool) (es : List HeadlessEvent) :
    EachStep (step cfg) (Answered cfg) (initial tab headlessDevOpen) es ∧
      ∀ t, run (step cfg) (initial tab headlessDevOpen) es = some t →
        t.interface.commands = t.stream.segments.flatMap pairs ∧
          t.interface.headlessCmd = leftover t.stream.current ∧
            ∀ read timeNow o, t.Reads read timeNow →
              (t.interface.checkHeadlessInterface cfg read timeNow o).isSome = true := by
  have hinitial := follows_initial tab headlessDevOpen
  constructor
  · exact eachStep_of_invariant (fun s e t hs h => (step_answered hs h).1)
      (fun s e t hs h => (step_answered hs h).2) hinitial
  · intro t ht
    have hfollows := run_invariant (fun s e t hs h => (step_answered hs h).1) hinitial ht
    refine ⟨hfollows.commands, hfollows.pending, fun read timeNow o hreads => ?_⟩
    obtain ⟨u, hu, -, -⟩ := @Follows.poll cfg t hfollows read timeNow o hreads
    rw [hu]
    rfl

end Headless
