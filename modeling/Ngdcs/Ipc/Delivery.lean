import Ngdcs.Ipc.Socket

/-! What a socket still delivers before the first read that fails, and datagrams. -/
namespace Ipc

namespace Socket

variable (waits : Bool)

/-- The events from the first on that a read does not pass over. -/
def settle : Socket → Socket
  | .interrupted :: s => settle s
  | .pause :: s => if waits then settle s else .pause :: s
  | s => s

/-- The next fragment, if one arrives before a read fails. -/
def nextFragment (s : Socket) : Option (List UInt8) :=
  match settle waits s with
  | .fragment b bs :: _ => some (b :: bs)
  | _ => none

/-- The bytes that arrive before a read fails. -/
def delivered : Socket → List UInt8
  | .fragment b bs :: s => b :: bs ++ delivered s
  | .interrupted :: s => delivered s
  | .pause :: s => if waits then delivered s else []
  | _ => []

/-- How a read ends before which nothing arrives. -/
def ending (s : Socket) : ReadOutcome × Socket :=
  match settle waits s with
  | [] => (if waits then .blocked else .failed, [])
  | .closed :: s => (.failed, .closed :: s)
  | _ :: s => (.failed, s)

end Socket

/-- The loop of `DA_RSocketChan::accept_bytes` for a UDP channel: what does not fit of a datagram
is lost, and an empty datagram ends the loop as a closed connection does. -/
def recvLoop (readEverything waits : Bool) : ℕ → List UInt8 → Socket → ReadOutcome × Socket
  | 0, got, s => (.bytes got, s)
  | _ + 1, _, [] => (if waits then .blocked else .failed, [])
  | chunk + 1, got, .fragment b bs :: s =>
    let got' := got ++ (b :: bs).take (chunk + 1)
    if readEverything then recvLoop readEverything waits (chunk + 1 - (b :: bs).length) got' s
    else (.bytes got', s)
  | chunk + 1, got, .interrupted :: s => recvLoop readEverything waits (chunk + 1) got s
  | chunk + 1, got, .pause :: s =>
    if waits then recvLoop readEverything waits (chunk + 1) got s else (.failed, s)
  | _ + 1, _, .closed :: s => (.failed, s)
  | _ + 1, _, .failed :: s => (.failed, s)

/-- `DA_RSocketChan`: its `use_udp`, and what happens on its handle. -/
structure RSocketChan where
  useUdp : Bool
  socket : Socket
  deriving DecidableEq

/-- `DA_RSocketChan::accept_bytes` -/
def RSocketChan.acceptBytes (c : RSocketChan) (nbytes : ℕ) (readEverything waits : Bool) :
    ReadOutcome × RSocketChan :=
  let r := if c.useUdp then recvLoop readEverything waits nbytes [] c.socket
    else Ipc.acceptBytes nbytes readEverything waits c.socket
  (r.1, { c with socket := r.2 })

/-! ### Settling -/

open Socket

variable {waits : Bool} {s : Socket}

/-- What passes over signals, and over pauses where it waits, may start where the socket settles. -/
theorem eq_settle {α : Type*} (f : Socket → α) (hinterrupted : ∀ s, f (.interrupted :: s) = f s)
    (hpause : waits = true → ∀ s, f (.pause :: s) = f s) (s : Socket) :
    f s = f (settle waits s) := by
  induction s with
  | nil => rfl
  | cons e s ih =>
    cases e with
    | interrupted => exact (hinterrupted s).trans ih
    | pause =>
      cases waits with
      | true => exact (hpause rfl s).trans ih
      | false => rfl
    | fragment b bs => rfl
    | closed => rfl
    | failed => rfl

theorem acceptLoop_settle (readEverything : Bool) (chunk : ℕ) (got : List UInt8) :
    acceptLoop readEverything waits (chunk + 1) got s =
      acceptLoop readEverything waits (chunk + 1) got (settle waits s) := by
  apply eq_settle (acceptLoop readEverything waits (chunk + 1) got) (fun _ => rfl)
  rintro rfl s
  rfl

theorem recvLoop_settle (readEverything : Bool) (chunk : ℕ) (got : List UInt8) :
    recvLoop readEverything waits (chunk + 1) got s =
      recvLoop readEverything waits (chunk + 1) got (settle waits s) := by
  apply eq_settle (recvLoop readEverything waits (chunk + 1) got) (fun _ => rfl)
  rintro rfl s
  rfl

theorem delivered_settle : delivered waits s = delivered waits (settle waits s) := by
  apply eq_settle (delivered waits) (fun _ => rfl)
  rintro rfl s
  rfl

theorem payload_settle : s.payload = (settle waits s).payload :=
  eq_settle Socket.payload (fun _ => rfl) (fun _ _ => rfl) s

/-- What a socket settles to. -/
theorem settle_cases (waits : Bool) (s : Socket) :
    (∃ b bs t, settle waits s = .fragment b bs :: t) ∨
    (settle waits s = [] ∨ (∃ t, settle waits s = .closed :: t) ∨
      (∃ t, settle waits s = .failed :: t) ∨ waits = false ∧ ∃ t, settle waits s = .pause :: t) := by
  induction s with
  | nil => exact Or.inr (Or.inl rfl)
  | cons e s ih =>
    cases e with
    | interrupted => exact ih
    | pause =>
      cases waits with
      | true => exact ih
      | false => exact Or.inr (Or.inr (Or.inr (Or.inr ⟨rfl, s, rfl⟩)))
    | fragment b bs => exact Or.inl ⟨b, bs, s, rfl⟩
    | closed => exact Or.inr (Or.inr (Or.inl ⟨s, rfl⟩))
    | failed => exact Or.inr (Or.inr (Or.inr (Or.inl ⟨s, rfl⟩)))

theorem nextFragment_eq_none_iff : nextFragment waits s = none ↔ delivered waits s = [] := by
  unfold nextFragment
  rw [delivered_settle]
  rcases settle_cases waits s with ⟨b, bs, t, h⟩ | h | ⟨t, h⟩ | ⟨t, h⟩ | ⟨rfl, t, h⟩
  all_goals simp [h, delivered]

theorem nextFragment_ne_nil {f : List UInt8} (h : nextFragment waits s = some f) : f ≠ [] := by
  unfold nextFragment at h
  split at h
  · rw [← Option.some.inj h]
    exact List.cons_ne_nil _ _
  · cases h

/-! ### Reading -/

/-- A read of a TCP channel before which nothing arrives. -/
theorem acceptLoop_ending (h : nextFragment waits s = none) (readEverything : Bool) (chunk : ℕ)
    (got : List UInt8) : acceptLoop readEverything waits (chunk + 1) got s = ending waits s := by
  rw [acceptLoop_settle]
  unfold nextFragment at h
  unfold ending
  rcases settle_cases waits s with ⟨b, bs, t, hs⟩ | hs | ⟨t, hs⟩ | ⟨t, hs⟩ | ⟨rfl, t, hs⟩
  · rw [hs] at h
    cases h
  all_goals
    rw [hs]
    rfl

/-- The reads of one byte follow the delivered bytes. -/
theorem acceptBytes_one {b : UInt8} {bs : List UInt8} (h : delivered waits s = b :: bs) :
    ∃ t, acceptBytes 1 true waits s = (.bytes [b], t) ∧ delivered waits t = bs ∧
      s.payload = b :: t.payload := by
  rw [delivered_settle] at h
  rw [@payload_settle waits]
  unfold acceptBytes
  rw [acceptLoop_settle]
  rcases settle_cases waits s with ⟨c, cs, t, hs⟩ | hs | ⟨t, hs⟩ | ⟨t, hs⟩ | ⟨rfl, t, hs⟩
  · rw [hs] at h ⊢
    rw [delivered, List.cons_append, List.cons.injEq] at h
    obtain ⟨rfl, hrest⟩ := h
    cases cs with
    | nil => exact ⟨t, by simp [acceptLoop], hrest, rfl⟩
    | cons d ds => exact ⟨.fragment d ds :: t, by simp [acceptLoop, ofBytes], hrest, rfl⟩
  all_goals
    rw [hs] at h
    cases h

theorem acceptBytes_one_ending (h : delivered waits s = []) :
    acceptBytes 1 true waits s = ending waits s :=
  acceptLoop_ending (nextFragment_eq_none_iff.mpr h) true 0 []

/-- A read that fails takes no byte. -/
theorem ending_cases (h : delivered waits s = []) :
    ((ending waits s).1 = .failed ∨ (ending waits s).1 = .blocked) ∧
      (ending waits s).2.payload = s.payload := by
  have hpayload := @payload_settle waits s
  rw [delivered_settle] at h
  unfold ending
  rcases settle_cases waits s with ⟨c, cs, t, hs⟩ | hs | ⟨t, hs⟩ | ⟨t, hs⟩ | ⟨rfl, t, hs⟩
  · rw [hs] at h
    cases h
  · rw [hs] at hpayload ⊢
    cases waits
    · exact ⟨Or.inl rfl, hpayload.symm⟩
    · exact ⟨Or.inr rfl, hpayload.symm⟩
  all_goals
    rw [hs] at hpayload ⊢
    exact ⟨Or.inl rfl, hpayload.symm⟩

theorem recvLoop_length {n : ℕ} {got bytes : List UInt8} {t : Socket}
    (h : recvLoop true waits n got s = (.bytes bytes, t)) : bytes.length = got.length + n := by
  induction s generalizing n got with
  | nil =>
    cases n with
    | zero =>
      cases h
      rfl
    | succ n => cases waits <;> cases h
  | cons e s ih =>
    cases n with
    | zero =>
      simp only [recvLoop, Prod.mk.injEq, ReadOutcome.bytes.injEq] at h
      rw [h.1, Nat.add_zero]
    | succ n =>
      cases e with
      | fragment b bs =>
        have hlength := ih h
        rw [List.length_append, List.length_take] at hlength
        omega
      | interrupted => exact ih h
      | pause =>
        cases waits with
        | true => exact ih h
        | false => cases h
      | closed => cases h
      | failed => cases h

/-! ### The reads of a channel -/

namespace RSocketChan

variable {c : RSocketChan}

theorem acceptBytes_zero (readEverything : Bool) :
    c.acceptBytes 0 readEverything waits = (.bytes [], c) := by
  obtain ⟨useUdp, s⟩ := c
  cases useUdp <;> cases s <;> rfl

/-- Where nothing arrives, every read of a byte or more ends in the same way. -/
theorem acceptBytes_none (h : nextFragment waits c.socket = none) :
    ∃ outcome c', (outcome = .failed ∨ outcome = .blocked) ∧
      ∀ n readEverything, c.acceptBytes (n + 1) readEverything waits = (outcome, c') := by
  obtain ⟨useUdp, s⟩ := c
  cases useUdp with
  | false =>
    refine ⟨_, ⟨false, (ending waits s).2⟩, (ending_cases (nextFragment_eq_none_iff.mp h)).1, ?_⟩
    intro n readEverything
    exact congrArg (fun r => (r.1, RSocketChan.mk false r.2)) (acceptLoop_ending h readEverything n [])
  | true =>
    have hread (outcome : ReadOutcome) (t : Socket)
        (hsettled : ∀ n readEverything,
          recvLoop readEverything waits (n + 1) [] (settle waits s) = (outcome, t))
        (n : ℕ) (readEverything : Bool) :
        (RSocketChan.mk true s).acceptBytes (n + 1) readEverything waits = (outcome, ⟨true, t⟩) := by
      rw [acceptBytes, if_pos rfl, recvLoop_settle, hsettled]
    rw [nextFragment_eq_none_iff, delivered_settle] at h
    rcases settle_cases waits s with ⟨b, bs, t, hs⟩ | hs | ⟨t, hs⟩ | ⟨t, hs⟩ | ⟨rfl, t, hs⟩
    · rw [hs] at h
      cases h
    · rw [hs] at hread
      cases waits
      · exact ⟨.failed, _, Or.inl rfl, hread .failed [] fun _ _ => rfl⟩
      · exact ⟨.blocked, _, Or.inr rfl, hread .blocked [] fun _ _ => rfl⟩
    all_goals
      rw [hs] at hread
      exact ⟨.failed, _, Or.inl rfl, hread .failed t fun _ _ => rfl⟩

/-- A read that takes what the next fragment has. -/
theorem acceptBytes_some {f : List UInt8} (h : nextFragment waits c.socket = some f) {n : ℕ}
    {readEverything : Bool} (hone : readEverything = false ∨ n = 0) :
    ∃ c', c.acceptBytes (n + 1) readEverything waits = (.bytes (f.take (n + 1)), c') := by
  obtain ⟨useUdp, s⟩ := c
  unfold nextFragment at h
  split at h
  · rename_i b bs t hs
    obtain rfl := Option.some.inj h
    cases useUdp with
    | false =>
      refine ⟨⟨false, (Ipc.acceptBytes (n + 1) readEverything waits s).2⟩, ?_⟩
      suffices hread : (Ipc.acceptBytes (n + 1) readEverything waits s).1 =
          .bytes ((b :: bs).take (n + 1)) from
        congrArg (fun outcome => (outcome, RSocketChan.mk false _)) hread
      rw [Ipc.acceptBytes, acceptLoop_settle, hs, acceptLoop]
      by_cases hle : (b :: bs).length ≤ n + 1
      · rw [if_pos hle, List.take_of_length_le hle]
        rcases hone with rfl | rfl
        · rfl
        · have hrest : 0 + 1 - (b :: bs).length = 0 := by
            rw [List.length_cons]
            omega
          rw [hrest]
          cases readEverything <;> cases t <;> rfl
      · rw [if_neg hle]
        rfl
    | true =>
      refine ⟨⟨true, (recvLoop readEverything waits (n + 1) [] s).2⟩, ?_⟩
      suffices hread : (recvLoop readEverything waits (n + 1) [] s).1 =
          .bytes ((b :: bs).take (n + 1)) from
        congrArg (fun outcome => (outcome, RSocketChan.mk true _)) hread
      rw [recvLoop_settle, hs, recvLoop]
      rcases hone with rfl | rfl
      · rfl
      · have hrest : 0 + 1 - (b :: bs).length = 0 := by
          rw [List.length_cons]
          omega
        rw [hrest]
        cases readEverything <;> cases t <;> rfl
  · cases h

/-- With `read_everything` set, exactly what was asked for is stored. -/
theorem acceptBytes_length {n : ℕ} {got : List UInt8} {c' : RSocketChan}
    (h : c.acceptBytes n true waits = (.bytes got, c')) : got.length = n := by
  obtain ⟨useUdp, s⟩ := c
  unfold acceptBytes at h
  obtain ⟨houtcome, -⟩ := Prod.mk.inj h
  cases useUdp with
  | false => simpa using acceptLoop_length (Prod.ext houtcome rfl)
  | true => simpa using recvLoop_length (Prod.ext houtcome rfl)

end RSocketChan

end Ipc
