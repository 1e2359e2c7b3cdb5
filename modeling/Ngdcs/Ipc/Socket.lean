import Mathlib.Data.List.Basic

/-! The receiving end of a socket channel, `DA_RSocketChan` of `ipcsock.cpp`. What the transport
does is a list of events; every call of `read` takes from the first of them. -/
namespace Ipc

/-- What happens next on a socket: a fragment of one or more bytes arrives, a signal interrupts
`read`, nothing arrives for longer than a timeout (or `select` fails), the sender is gone, or
`read` fails. After the last event nothing happens any more. -/
inductive SocketEvent where
  | fragment (first : UInt8) (more : List UInt8)
  | interrupted
  | pause
  | closed
  | failed
  deriving DecidableEq

abbrev Socket := List SocketEvent

namespace Socket

/-- The bytes that are still to be read. -/
def payload : Socket → List UInt8
  | [] => []
  | .fragment b bs :: s => b :: bs ++ payload s
  | _ :: s => payload s

/-- No timeout and no loss: nothing but fragments and signals. -/
def Clean (s : Socket) : Prop :=
  ∀ e ∈ s, e = .interrupted ∨ ∃ b bs, e = .fragment b bs

/-- A socket that delivers the bytes at once. -/
def ofBytes : List UInt8 → Socket
  | [] => []
  | b :: bs => [.fragment b bs]

end Socket

/-- How a call of `accept_bytes` ends: with the bytes that it stored, with -1, or not at all,
since it waits for more. -/
inductive ReadOutcome where
  | bytes (got : List UInt8)
  | failed
  | blocked
  deriving DecidableEq

/-- The loop of `DA_RSocketChan::accept_bytes` for a TCP channel whose errors are not fatal:
`got` has been stored and `chunk` bytes are missing. `waits` says that `timeout_in_ms` is -1, so
that `message_ready` is always 1. -/
def acceptLoop (readEverything waits : Bool) : ℕ → List UInt8 → Socket → ReadOutcome × Socket
  | 0, got, s => (.bytes got, s)
  | _ + 1, _, [] => (if waits then .blocked else .failed, [])
  | chunk + 1, got, .fragment b bs :: s =>
    if (b :: bs).length ≤ chunk + 1 then
      if readEverything then
        acceptLoop readEverything waits (chunk + 1 - (b :: bs).length) (got ++ b :: bs) s
      else (.bytes (got ++ b :: bs), s)
    else
      (.bytes (got ++ (b :: bs).take (chunk + 1)),
        Socket.ofBytes ((b :: bs).drop (chunk + 1)) ++ s)
  | chunk + 1, got, .interrupted :: s => acceptLoop readEverything waits (chunk + 1) got s
  | chunk + 1, got, .pause :: s =>
    if waits then acceptLoop readEverything waits (chunk + 1) got s else (.failed, s)
  | _ + 1, _, .closed :: s => (.failed, .closed :: s)
  | _ + 1, _, .failed :: s => (.failed, s)

/-- `DA_RSocketChan::accept_bytes` -/
def acceptBytes (nbytes : ℕ) (readEverything waits : Bool) (s : Socket) : ReadOutcome × Socket :=
  acceptLoop readEverything waits nbytes [] s

/-! ### Reading everything from a clean socket -/

theorem payload_append (s t : Socket) : Socket.payload (s ++ t) = s.payload ++ t.payload := by
  induction s with
  | nil => rfl
  | cons e s ih => cases e <;> simp [Socket.payload, ih]

theorem payload_ofBytes (bytes : List UInt8) : (Socket.ofBytes bytes).payload = bytes := by
  cases bytes <;> simp [Socket.ofBytes, Socket.payload]

theorem clean_ofBytes (bytes : List UInt8) : (Socket.ofBytes bytes).Clean := by
  cases bytes with
  | nil => exact nofun
  | cons b bs => exact fun e he => Or.inr ⟨b, bs, List.mem_singleton.mp he⟩

theorem Socket.Clean.append {s t : Socket} (hs : s.Clean) (ht : t.Clean) : Clean (s ++ t) :=
  fun e he => (List.mem_append.mp he).elim (hs e) (ht e)

theorem Socket.Clean.tail {e : SocketEvent} {s : Socket} (h : Clean (e :: s)) : s.Clean :=
  fun e' he' => h e' (List.mem_cons_of_mem e he')

/-- However the bytes are cut up, the wanted ones are stored and the others stay. -/
theorem acceptLoop_clean {s : Socket} (hs : s.Clean) (waits : Bool) {bytes rest : List UInt8}
    (hpayload : s.payload = bytes ++ rest) (got : List UInt8) :
    ∃ t, acceptLoop true waits bytes.length got s = (.bytes (got ++ bytes), t) ∧ t.Clean ∧
      t.payload = rest := by
  induction s generalizing bytes got with
  | nil =>
    obtain ⟨rfl, rfl⟩ := List.append_eq_nil_iff.mp hpayload.symm
    exact ⟨[], by simp [acceptLoop], nofun, rfl⟩
  | cons e s ih =>
    cases bytes with
    | nil => exact ⟨e :: s, by simp [acceptLoop], hs, hpayload⟩
    | cons x xs =>
      rcases hs e List.mem_cons_self with rfl | ⟨b, bs, rfl⟩
      · exact ih hs.tail hpayload got
      · rw [Socket.payload] at hpayload
        rw [List.length_cons, acceptLoop]
        by_cases hle : (b :: bs).length ≤ xs.length + 1
        · obtain ⟨more, hmore⟩ : ∃ more, x :: xs = b :: bs ++ more := by
            obtain ⟨more, hmore⟩ :=
              List.prefix_of_prefix_length_le ⟨Socket.payload s, hpayload⟩ ⟨rest, rfl⟩ hle
            exact ⟨more, hmore.symm⟩
          rw [hmore, List.append_assoc, List.append_cancel_left_eq] at hpayload
          obtain ⟨t, ht, hclean, hrest⟩ := ih hs.tail hpayload (got ++ b :: bs)
          have hlength : xs.length + 1 - (b :: bs).length = more.length := by
            have h := congrArg List.length hmore
            simp only [List.length_cons, List.length_append] at h ⊢
            omega
          refine ⟨t, ?_, hclean, hrest⟩
          rw [if_pos hle, if_pos rfl, hlength, ht, hmore, List.append_assoc]
        · have htake : (b :: bs).take (xs.length + 1) = x :: xs := by
            have h := congrArg (List.take (xs.length + 1)) hpayload
            rwa [List.take_append_of_le_length (by omega),
              List.take_left' (by simp : (x :: xs).length = xs.length + 1)] at h
          have hdrop : (b :: bs).drop (xs.length + 1) ++ Socket.payload s = rest := by
            have h := congrArg (List.drop (xs.length + 1)) hpayload
            rwa [List.drop_append_of_le_length (by omega),
              List.drop_left' (by simp : (x :: xs).length = xs.length + 1)] at h
          rw [if_neg hle, htake]
          refine ⟨_, rfl, (clean_ofBytes _).append hs.tail, ?_⟩
          rw [payload_append, payload_ofBytes, hdrop]

theorem acceptBytes_clean {s : Socket} (hs : s.Clean) (waits : Bool) {bytes rest : List UInt8}
    (hpayload : s.payload = bytes ++ rest) :
    ∃ t, acceptBytes bytes.length true waits s = (.bytes bytes, t) ∧ t.Clean ∧
      t.payload = rest :=
  acceptLoop_clean hs waits hpayload []

/-- What is stored was read, and the rest is still to be read. -/
theorem acceptLoop_payload {readEverything waits : Bool} {n : ℕ} {got bytes : List UInt8}
    {s t : Socket} (h : acceptLoop readEverything waits n got s = (.bytes bytes, t)) :
    got ++ s.payload = bytes ++ t.payload := by
  induction s generalizing n got with
  | nil =>
    cases n with
    | zero =>
      cases h
      rfl
    | succ n => cases waits <;> cases h
  | cons e s ih =>
    cases n with
    | zero =>
      cases h
      rfl
    | succ n =>
      cases e with
      | fragment b bs =>
        rw [acceptLoop] at h
        rw [Socket.payload]
        split_ifs at h
        · rw [← ih h, List.append_assoc]
        · cases h
          rw [List.append_assoc]
        · cases h
          rw [payload_append, payload_ofBytes, List.append_assoc, ← List.append_assoc (List.take _ _),
            List.take_append_drop]
      | interrupted => exact ih h
      | pause =>
        cases waits with
        | true => exact ih h
        | false => cases h
      | closed => cases h
      | failed => cases h

/-- With `read_everything` set, exactly what was asked for is stored. -/
theorem acceptLoop_length {waits : Bool} {n : ℕ} {got bytes : List UInt8} {s t : Socket}
    (h : acceptLoop true waits n got s = (.bytes bytes, t)) : bytes.length = got.length + n := by
  induction s generalizing n got with
  | nil =>
    cases n with
    | zero =>
      cases h
      rfl
    | succ n => cases waits <;> cases h
  | cons e s ih =>
    cases n with
    | zero =>
      simp only [acceptLoop, Prod.mk.injEq, ReadOutcome.bytes.injEq] at h
      rw [h.1, Nat.add_zero]
    | succ n =>
      cases e with
      | fragment b bs =>
        simp only [acceptLoop, ↓reduceIte] at h
        by_cases hle : (b :: bs).length ≤ n + 1
        · rw [if_pos hle] at h
          have hlength := ih h
          simp only [List.length_append, List.length_cons] at hlength hle ⊢
          omega
        · rw [if_neg hle] at h
          simp only [Prod.mk.injEq, ReadOutcome.bytes.injEq] at h
          rw [← h.1, List.length_append, List.length_take]
          omega
      | interrupted => exact ih h
      | pause =>
        cases waits with
        | true => exact ih h
        | false => cases h
      | closed => cases h
      | failed => cases h

end Ipc
