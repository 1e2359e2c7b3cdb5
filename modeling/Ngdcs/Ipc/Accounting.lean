import Ngdcs.Ipc.Delivery
import Ngdcs.Ipc.RoundTrip
import Ngdcs.Lib.Runs

/-! The counter `bytes_received` of the receiving channels of `ipcsock.cpp`, with `BUFFEREDIO`
undefined. -/
namespace Ipc

open Socket Runs

/-- `DA_SocketChan`, `DA_BufferedSocketChan`, `DA_RPipeChan` and `DA_BufferedRPipeChan`. -/
inductive ChanClass where
  | socket | bufferedSocket | rPipe | bufferedRPipe
  deriving DecidableEq

/-- A channel and its `bytes_received`. -/
structure CountedChan where
  chan : RSocketChan
  bytesReceived : ℕ
  deriving DecidableEq

/-- The arguments of `accept_bytes` besides the buffer. -/
structure Call where
  nbytes : ℕ
  lt : nbytes < 2 ^ 32
  readEverything : Bool
  waits : Bool

/-- `DA_RSocketChan::accept_bytes`, which the plain classes inherit; `none` if it never returns. -/
def baseAcceptBytes (call : Call) (c : CountedChan) : Option (ℤ × CountedChan) :=
  match c.chan.acceptBytes call.nbytes call.readEverything call.waits with
  | (.bytes got, chan) =>
    let totalRead := got.length
    some (asInt totalRead, ⟨chan, (c.bytesReceived + totalRead) % 2 ^ 32⟩)
  | (.failed, chan) => some (-1, { c with chan })
  | (.blocked, _) => none

/-- `accept_bytes` of the buffered classes. -/
def bufferedAcceptBytes (call : Call) (c : CountedChan) : Option (ℤ × CountedChan) :=
  (baseAcceptBytes call c).map fun (totalRead, c) =>
    if totalRead ≠ -1 then
      (totalRead, { c with bytesReceived := (c.bytesReceived + asUInt totalRead) % 2 ^ 32 })
    else (totalRead, c)

def ChanClass.buffered : ChanClass → Bool
  | .socket => false
  | .bufferedSocket => true
  | .rPipe => false
  | .bufferedRPipe => true

def ChanClass.acceptBytes (cls : ChanClass) : Call → CountedChan → Option (ℤ × CountedChan) :=
  if cls.buffered then bufferedAcceptBytes else baseAcceptBytes

/-- A channel, and how many bytes its successful calls have returned. -/
structure Account where
  counted : CountedChan
  returned : ℕ
  deriving DecidableEq

namespace Account

def start (chan : RSocketChan) : Account := ⟨⟨chan, 0⟩, 0⟩

/-- A call of `accept_bytes` that returns. -/
def step (cls : ChanClass) (a : Account) (call : Call) : Option Account :=
  (cls.acceptBytes call a.counted).map fun (result, counted) =>
    ⟨counted, if result = -1 then a.returned else a.returned + asUInt result⟩

def Exact (a : Account) : Prop := a.counted.bytesReceived = a.returned

end Account

/-- How many bytes there are for a call, from what arrives before a read fails. -/
def arriving (call : Call) (s : Socket) : ℕ :=
  if call.readEverything then
    if call.nbytes ≤ (delivered call.waits s).length then call.nbytes else 0
  else min call.nbytes ((nextFragment call.waits s).getD []).length

/-- When a call keeps the counter exact: there is nothing for it, or its class is plain, it does
not return -1 for 2^32-1 bytes, and the counter does not wrap round. -/
def Account.Countable (cls : ChanClass) (a : Account) (call : Call) : Prop :=
  let n := arriving call a.counted.chan.socket
  n = 0 ∨ cls.buffered = false ∧ n ≠ 2 ^ 32 - 1 ∧ a.counted.bytesReceived + n < 2 ^ 32

/-! ### What a call gets -/

def ReadOutcome.size : ReadOutcome → ℕ
  | .bytes got => got.length
  | .failed => 0
  | .blocked => 0

section

variable {waits : Bool} {s : Socket}

theorem acceptLoop_bytes_iff {n : ℕ} {got : List UInt8} :
    (∃ bytes t, acceptLoop true waits n got s = (.bytes bytes, t)) ↔
      n ≤ (delivered waits s).length := by
  induction s generalizing n got with
  | nil =>
    cases n with
    | zero => exact iff_of_true ⟨got, [], rfl⟩ (Nat.zero_le _)
    | succ n => cases waits <;> simp [acceptLoop, delivered]
  | cons e s ih =>
    cases n with
    | zero => exact iff_of_true ⟨got, e :: s, by cases e <;> rfl⟩ (Nat.zero_le _)
    | succ n =>
      cases e with
      | fragment b bs =>
        rw [delivered, List.length_append]
        by_cases hle : (b :: bs).length ≤ n + 1
        · rw [acceptLoop, if_pos hle, if_pos rfl, ih]
          omega
        · rw [acceptLoop, if_neg hle]
          exact iff_of_true ⟨_, _, rfl⟩ (by omega)
      | interrupted => exact ih
      | pause =>
        cases waits with
        | true => exact ih
        | false => simp [acceptLoop, delivered]
      | closed => simp [acceptLoop, delivered]
      | failed => simp [acceptLoop, delivered]

theorem recvLoop_bytes_iff {n : ℕ} {got : List UInt8} :
    (∃ bytes t, recvLoop true waits n got s = (.bytes bytes, t)) ↔
      n ≤ (delivered waits s).length := by
  induction s generalizing n got with
  | nil =>
    cases n with
    | zero => exact iff_of_true ⟨got, [], rfl⟩ (Nat.zero_le _)
    | succ n => cases waits <;> simp [recvLoop, delivered]
  | cons e s ih =>
    cases n with
    | zero => exact iff_of_true ⟨got, e :: s, by cases e <;> rfl⟩ (Nat.zero_le _)
    | succ n =>
      cases e with
      | fragment b bs =>
        rw [delivered, List.length_append, recvLoop, if_pos rfl, ih]
        omega
      | interrupted => exact ih
      | pause =>
        cases waits with
        | true => exact ih
        | false => simp [recvLoop, delivered]
      | closed => simp [recvLoop, delivered]
      | failed => simp [recvLoop, delivered]

/-- With `read_everything` set, a call succeeds if all that it asks for arrives. -/
theorem acceptBytes_bytes_iff {n : ℕ} {c : RSocketChan} :
    (∃ got c', c.acceptBytes n true waits = (.bytes got, c')) ↔
      n ≤ (delivered waits c.socket).length := by
  have hread (r : ReadOutcome × Socket) (useUdp : Bool) :
      (∃ got c', (r.1, RSocketChan.mk useUdp r.2) = (.bytes got, c')) ↔
        ∃ got t, r = (.bytes got, t) := by
    constructor
    · rintro ⟨got, c', h⟩
      exact ⟨got, r.2, Prod.ext (Prod.mk.inj h).1 rfl⟩
    · rintro ⟨got, t, rfl⟩
      exact ⟨got, _, rfl⟩
  obtain ⟨useUdp, s⟩ := c
  cases useUdp with
  | false => exact (hread _ false).trans acceptLoop_bytes_iff
  | true => exact (hread _ true).trans recvLoop_bytes_iff

theorem size_acceptBytes (call : Call) (c : RSocketChan) :
    (c.acceptBytes call.nbytes call.readEverything call.waits).1.size =
      arriving call c.socket := by
  obtain ⟨nbytes, lt, readEverything, waits⟩ := call
  unfold arriving
  cases readEverything with
  | true =>
    rw [if_pos rfl]
    by_cases hle : nbytes ≤ (delivered waits c.socket).length
    · obtain ⟨got, c', hread⟩ := acceptBytes_bytes_iff.mpr hle
      rw [if_pos hle, hread]
      exact RSocketChan.acceptBytes_length hread
    · rw [if_neg hle]
      rcases hread : c.acceptBytes nbytes true waits with ⟨outcome, c'⟩
      cases outcome with
      | bytes got => exact absurd (acceptBytes_bytes_iff.mp ⟨got, c', hread⟩) hle
      | failed => rfl
      | blocked => rfl
  | false =>
    rw [if_neg Bool.false_ne_true]
    cases nbytes with
    | zero =>
      rw [RSocketChan.acceptBytes_zero, Nat.zero_min]
      rfl
    | succ n =>
      cases hnext : nextFragment waits c.socket with
      | none =>
        obtain ⟨outcome, c', hfails, hread⟩ := RSocketChan.acceptBytes_none hnext
        rw [hread]
        rcases hfails with rfl | rfl
        · rfl
        · rfl
      | some f =>
        obtain ⟨c', hread⟩ := @RSocketChan.acceptBytes_some waits c f hnext n false (Or.inl rfl)
        rw [hread]
        exact List.length_take

theorem arriving_lt (call : Call) (s : Socket) : arriving call s < 2 ^ 32 := by
  have hlt := call.lt
  unfold arriving
  split_ifs <;> omega

end

/-! ### The counter -/

theorem asUInt_asInt {n : ℕ} (h : n < 2 ^ 32) : asUInt (asInt n) = n := by
  unfold asUInt
  rcases asInt_eq n with h | h <;> omega

theorem asInt_eq_neg_one_iff {n : ℕ} (h : n < 2 ^ 32) : asInt n = -1 ↔ n = 2 ^ 32 - 1 := by
  rcases asInt_eq n with h | h <;> omega

variable {call : Call} {c c' : CountedChan} {result : ℤ}

/-- The plain classes count what they return. -/
theorem baseAcceptBytes_spec (hlt : c.bytesReceived < 2 ^ 32)
    (h : baseAcceptBytes call c = some (result, c')) :
    c'.bytesReceived = (c.bytesReceived + arriving call c.chan.socket) % 2 ^ 32 ∧
      (result = asInt (arriving call c.chan.socket) ∨
        result = -1 ∧ arriving call c.chan.socket = 0) := by
  have hsize := size_acceptBytes call c.chan
  unfold baseAcceptBytes at h
  rcases hread : c.chan.acceptBytes call.nbytes call.readEverything call.waits with ⟨outcome, chan⟩
  rw [hread] at h hsize
  cases outcome with
  | bytes got =>
    obtain ⟨rfl, rfl⟩ := Prod.mk.inj (Option.some.inj h)
    have hgot : got.length = arriving call c.chan.socket := hsize
    rw [← hgot]
    exact ⟨rfl, Or.inl rfl⟩
  | failed =>
    obtain ⟨rfl, rfl⟩ := Prod.mk.inj (Option.some.inj h)
    have hnone : arriving call c.chan.socket = 0 := hsize.symm
    rw [hnone]
    exact ⟨(Nat.mod_eq_of_lt hlt).symm, Or.inr ⟨rfl, rfl⟩⟩
  | blocked => cases h

/-- The buffered classes count it once more. -/
theorem bufferedAcceptBytes_spec (hlt : c.bytesReceived < 2 ^ 32)
    (h : bufferedAcceptBytes call c = some (result, c')) :
    (result = -1 ∧ (arriving call c.chan.socket = 0 ∧ c'.bytesReceived = c.bytesReceived ∨
        arriving call c.chan.socket = 2 ^ 32 - 1 ∧
          c'.bytesReceived = (c.bytesReceived + (2 ^ 32 - 1)) % 2 ^ 32)) ∨
      result ≠ -1 ∧ result = asInt (arriving call c.chan.socket) ∧
        c'.bytesReceived = (c.bytesReceived + 2 * arriving call c.chan.socket) % 2 ^ 32 := by
  have hn := arriving_lt call c.chan.socket
  unfold bufferedAcceptBytes at h
  obtain ⟨⟨totalRead, c''⟩, hbase, hresult⟩ := Option.map_eq_some_iff.mp h
  obtain ⟨hcount, hvalue⟩ := baseAcceptBytes_spec hlt hbase
  dsimp only at hresult
  by_cases hfailed : totalRead = -1
  · rw [if_neg (not_not.mpr hfailed)] at hresult
    cases hresult
    refine Or.inl ⟨hfailed, ?_⟩
    rcases hvalue with hvalue | ⟨-, hzero⟩
    · have hall := (asInt_eq_neg_one_iff hn).mp (hvalue.symm.trans hfailed)
      rw [hall] at hcount
      exact Or.inr ⟨hall, hcount⟩
    · rw [hzero, Nat.add_zero, Nat.mod_eq_of_lt hlt] at hcount
      exact Or.inl ⟨hzero, hcount⟩
  · rw [if_pos hfailed] at hresult
    cases hresult
    rcases hvalue with hvalue | ⟨hvalue, -⟩
    · refine Or.inr ⟨hfailed, hvalue, ?_⟩
      rw [hvalue, asUInt_asInt hn, hcount, Nat.mod_add_mod, Nat.add_assoc, ← Nat.two_mul]
    · exact absurd hvalue hfailed

/-! ### Runs -/

namespace Account

variable {cls : ChanClass} {a t : Account}

theorem step_lt (hlt : a.counted.bytesReceived < 2 ^ 32) (h : a.step cls call = some t) :
    t.counted.bytesReceived < 2 ^ 32 := by
  have hmod (n : ℕ) : n % 2 ^ 32 < 2 ^ 32 := Nat.mod_lt _ (by norm_num)
  unfold step ChanClass.acceptBytes at h
  obtain ⟨⟨result, c'⟩, hcall, rfl⟩ := Option.map_eq_some_iff.mp h
  cases hclass : cls.buffered with
  | false =>
    rw [hclass, if_neg Bool.false_ne_true] at hcall
    exact (baseAcceptBytes_spec hlt hcall).1.symm ▸ hmod _
  | true =>
    rw [hclass, if_pos rfl] at hcall
    rcases bufferedAcceptBytes_spec hlt hcall with ⟨-, ⟨-, heq⟩ | ⟨-, heq⟩⟩ | ⟨-, -, heq⟩
    · exact heq.symm ▸ hlt
    · exact heq.symm ▸ hmod _
    · exact heq.symm ▸ hmod _

/-- A call after which the counter is still exact. -/
theorem step_exact_iff (hexact : a.Exact) (hlt : a.counted.bytesReceived < 2 ^ 32)
    (h : a.step cls call = some t) : t.Exact ↔ a.Countable cls call := by
  have hn := arriving_lt call a.counted.chan.socket
  unfold Exact at hexact
  unfold step ChanClass.acceptBytes at h
  unfold Countable Exact
  obtain ⟨⟨result, c'⟩, hcall, rfl⟩ := Option.map_eq_some_iff.mp h
  cases hclass : cls.buffered with
  | false =>
    rw [hclass, if_neg Bool.false_ne_true] at hcall
    obtain ⟨hcount, hvalue⟩ := baseAcceptBytes_spec hlt hcall
    have hminus := asInt_eq_neg_one_iff hn
    simp only [true_and]
    rcases hvalue with hvalue | ⟨hvalue, hzero⟩
    · rw [hcount, hvalue, asUInt_asInt hn]
      split_ifs <;> omega
    · rw [hcount, hvalue, hzero, if_pos rfl, Nat.add_zero, Nat.mod_eq_of_lt hlt]
      exact iff_of_true hexact (Or.inl rfl)
  | true =>
    rw [hclass, if_pos rfl] at hcall
    simp only [Bool.true_eq_false, false_and, or_false]
    rcases bufferedAcceptBytes_spec hlt hcall with
      ⟨hvalue, ⟨hzero, hcount⟩ | ⟨hall, hcount⟩⟩ | ⟨hvalue, hresult, hcount⟩
    · rw [hcount, if_pos hvalue]
      exact iff_of_true hexact hzero
    · rw [hcount, if_pos hvalue]
      omega
    · have hminus := (asInt_eq_neg_one_iff hn).not.mp (hresult ▸ hvalue)
      rw [hcount, if_neg hvalue, hresult, asUInt_asInt hn]
      omega

/-- From the first call on, the counter of a channel is the number of bytes that its successful
calls have returned as long as every call is `Countable`, and no longer. -/
theorem exact_iff_countable (cls : ChanClass) (chan : RSocketChan) (calls : List Call) :
    EachStep (step cls) (fun _ _ t => t.Exact) (start chan) calls ↔
      EachStep (step cls) (fun a call _ => a.Countable cls call) (start chan) calls := by
  apply @eachStep_iff_of_invariant _ _ _ _ _
    fun a : Account => a.Exact ∧ a.counted.bytesReceived < 2 ^ 32
  · intro a call t hinv hstep
    exact step_exact_iff hinv.1 hinv.2 hstep
  · intro a call t hinv hcountable hstep
    exact ⟨(step_exact_iff hinv.1 hinv.2 hstep).mpr hcountable, step_lt hinv.2 hstep⟩
  · exact ⟨rfl, by norm_num [start]⟩

/-- Three bytes for a buffered channel, counted as six. -/
theorem not_exact : ∃ t,
    (start ⟨false, ofBytes [1, 2, 3]⟩).step .bufferedSocket ⟨3, by decide, true, false⟩ = some t ∧
      t.counted.bytesReceived = 6 ∧ t.returned = 3 :=
  ⟨⟨⟨⟨false, []⟩, 6⟩, 3⟩, by decide +kernel, rfl, rfl⟩

end Account

end Ipc
