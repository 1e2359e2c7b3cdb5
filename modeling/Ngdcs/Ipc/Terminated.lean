import Ngdcs.Ipc.Delivery
import Ngdcs.Lib.CStrings

/-! `accept(char **s_p, const char *term, int timeout_in_ms)` of `DA_RChan` (`ipcprims.cpp`) over
TCP. It keeps what it reads in a static buffer, and compares the end of that with the terminator
after every byte. -/
namespace Ipc

open CStrings Socket

/-- `sizeof(buffer)` -/
def termBufferSize : ℕ := 1024

/-- How the loop over the bytes ends: at the terminator, with `len` and `too_long`, or where an
accept of a byte does not return 1. -/
inductive LineEnd where
  | found (len : ℕ) (tooLong : Bool)
  | failed
  | blocked

/-- The loop of the accept. `isEnd` is the comparison of the terminator with what stands before
`buffer[len]`. -/
def termLoop (isEnd : List UInt8 → ℕ → Bool) (termlen : ℕ) (waits : Bool) :
    ℕ → List UInt8 → ℕ → Bool → Socket → LineEnd × List UInt8 × Socket
  | 0, buffer, _, _, s => (.failed, buffer, s)
  | fuel + 1, buffer, len, tooLong, s =>
    match acceptBytes 1 true waits s with
    | (.bytes got, s) =>
      let fits := len < termBufferSize - 1
      let buffer := if fits then buffer.set len (got.headD 0) else buffer
      let len := if fits then len + 1 else len
      let tooLong := tooLong || !fits
      if termlen ≤ len ∧ isEnd buffer len then (.found len tooLong, buffer, s)
      else termLoop isEnd termlen waits fuel buffer len tooLong s
    | (.failed, s) => (.failed, buffer, s)
    | (.blocked, s) => (.blocked, buffer, s)

/-- `strncmp(buffer+len-termlen,term,termlen) == 0` -/
def endsWith (term buffer : List UInt8) (len : ℕ) : Bool :=
  (buffer.drop (len - term.length)).take term.length = term

inductive TermOutcome where
  | returned (s : List UInt8)
  | failed
  | blocked
  deriving DecidableEq

/-- `accept(char **s_p, const char *term, int timeout_in_ms)` for a TCP channel, with its static
buffer. Every turn of the loop takes a byte. -/
def acceptTerm (term : List UInt8) (waits : Bool) (buffer : List UInt8) (s : Socket) :
    TermOutcome × List UInt8 × Socket :=
  match termLoop (endsWith term) term.length waits (s.payload.length + 1) buffer 0 false s with
  | (.found len tooLong, buffer, s) =>
    if tooLong then (.failed, buffer, s)
    else
      let buffer := buffer.set (len - term.length) 0
      (.returned (buffer.takeWhile (· ≠ 0)), buffer, s)
  | (.failed, buffer, s) => (.failed, buffer, s)
  | (.blocked, buffer, s) => (.blocked, buffer, s)

/-- `send(const char *s,const char *term)`: what is put on the wire. -/
def sendTerm (s term : List UInt8) : List UInt8 := s ++ term

/-! ### The bytes that the loop takes -/

/-- The loop stops after the least number of bytes that `stop` accepts, while there is room;
`got` has been taken before. -/
structure StopsAfter (stop : List UInt8 → Bool) (got rest : List UInt8) (n : ℕ) : Prop where
  pos : 1 ≤ n
  arrives : n ≤ rest.length
  fits : got.length + n ≤ termBufferSize - 1
  stops : stop (got ++ rest.take n) = true
  first : ∀ m, 1 ≤ m → m < n → stop (got ++ rest.take m) = false

/-- The socket after some reads of a byte. -/
def skipBytes (waits : Bool) : ℕ → Socket → Socket
  | 0, s => s
  | n + 1, s => skipBytes waits n (acceptBytes 1 true waits s).2

/-- The reads of a byte until one fails. -/
def exhaust (waits : Bool) : ℕ → Socket → LineEnd × Socket
  | 0, s => (.failed, s)
  | fuel + 1, s =>
    match acceptBytes 1 true waits s with
    | (.bytes _, s) => exhaust waits fuel s
    | (.failed, s) => (.failed, s)
    | (.blocked, s) => (.blocked, s)

/-- The buffer begins with `got`, for which the loop has not stopped. -/
structure Filled (stop : List UInt8 → Bool) (stale got : List UInt8) : Prop where
  stale_length : stale.length = termBufferSize
  length_le : got.length ≤ termBufferSize - 1
  full : got.length = termBufferSize - 1 → stop got = false

variable {isEnd : List UInt8 → ℕ → Bool} {termlen : ℕ} {waits : Bool} {stop : List UInt8 → Bool}
  {stale got : List UInt8} {b : UInt8} {bs : List UInt8}

theorem append_take_succ (got : List UInt8) (b : UInt8) (bs : List UInt8) (n : ℕ) :
    got ++ (b :: bs).take (n + 1) = got ++ [b] ++ bs.take n := by
  simp

theorem length_concat (got : List UInt8) (b : UInt8) : (got ++ [b]).length = got.length + 1 := by
  rw [List.length_append, List.length_singleton]

theorem stopsAfter_one (hroom : got.length < termBufferSize - 1) (hstop : stop (got ++ [b]) = true) :
    StopsAfter stop got (b :: bs) 1 :=
  ⟨Nat.le_refl 1, Nat.succ_le_succ (Nat.zero_le _), hroom, hstop, fun m hm hlt => by omega⟩

theorem StopsAfter.length_take {rest : List UInt8} {n : ℕ} (h : StopsAfter stop got rest n) :
    (rest.take n).length = n := by
  rw [List.length_take, Nat.min_eq_left h.arrives]

/-- A byte for which the loop does not stop. -/
theorem stopsAfter_succ_iff {n : ℕ} (hstop : stop (got ++ [b]) = false) :
    StopsAfter stop got (b :: bs) (n + 1) ↔ StopsAfter stop (got ++ [b]) bs n := by
  constructor
  · intro h
    have hfits := h.fits
    have hpos : 1 ≤ n := by
      by_contra hzero
      obtain rfl : n = 0 := by omega
      have hstops := h.stops
      rw [append_take_succ, List.take_zero, List.append_nil, hstop] at hstops
      cases hstops
    refine ⟨hpos, Nat.le_of_succ_le_succ h.arrives, ?_, append_take_succ got b bs n ▸ h.stops, ?_⟩
    · rw [length_concat]
      omega
    · intro m hm hlt
      rw [← append_take_succ]
      exact h.first (m + 1) (Nat.le_add_left 1 m) (Nat.succ_lt_succ hlt)
  · intro h
    have hfits := h.fits
    rw [length_concat] at hfits
    refine ⟨Nat.le_add_left 1 n, Nat.succ_le_succ h.arrives, by omega, ?_, ?_⟩
    · rw [append_take_succ]
      exact h.stops
    · intro m hm hlt
      obtain ⟨m, rfl⟩ := Nat.exists_eq_succ_of_ne_zero (Nat.ne_of_gt hm)
      rw [append_take_succ]
      rcases Nat.eq_zero_or_pos m with rfl | hpos
      · rwa [List.take_zero, List.append_nil]
      · exact h.first m hpos (Nat.lt_of_succ_lt_succ hlt)

theorem set_stale (hstale : stale.length = termBufferSize)
    (hlength : got.length < termBufferSize - 1) :
    (got ++ stale.drop got.length).set got.length b =
      got ++ [b] ++ stale.drop (got.length + 1) := by
  have hlt : got.length < stale.length := by
    rw [hstale]
    omega
  rw [List.set_append_right _ _ (Nat.le_refl _), Nat.sub_self, List.drop_eq_getElem_cons hlt,
    List.set_cons_zero, List.append_assoc, List.singleton_append]

theorem Filled.next (h : Filled stop stale got) (hroom : got.length < termBufferSize - 1)
    (hstop : stop (got ++ [b]) = false) : Filled stop stale (got ++ [b]) :=
  ⟨h.stale_length, (length_concat got b).trans_le hroom, fun _ => hstop⟩

section

-- `isEnd` looks at no more than `stop` does
variable (hstop : ∀ got : List UInt8, got.length ≤ termBufferSize - 1 →
  ((termlen ≤ got.length ∧ isEnd (got ++ stale.drop got.length) got.length) ↔ stop got))

include hstop

/-- One turn of the loop while there is room. -/
theorem termLoop_turn {fuel : ℕ} {s t : Socket} (h : Filled stop stale got) (tooLong : Bool)
    (hroom : got.length < termBufferSize - 1)
    (hread : acceptBytes 1 true waits s = (.bytes [b], t)) :
    termLoop isEnd termlen waits (fuel + 1) (got ++ stale.drop got.length) got.length tooLong s =
      if stop (got ++ [b]) then
        (.found (got.length + 1) tooLong, got ++ [b] ++ stale.drop (got.length + 1), t)
      else termLoop isEnd termlen waits fuel (got ++ [b] ++ stale.drop (got.length + 1))
        (got.length + 1) tooLong t := by
  have hmatch := hstop (got ++ [b]) ((length_concat got b).trans_le hroom)
  rw [length_concat] at hmatch
  rw [termLoop, hread]
  simp only [hroom, decide_true, if_true, List.headD_cons, set_stale h.stale_length hroom,
    Bool.not_true, Bool.or_false]
  by_cases hend : stop (got ++ [b]) = true
  · rw [if_pos (hmatch.mpr hend), if_pos hend]
  · rw [if_neg (hmatch.not.mpr hend), if_neg hend]

theorem termLoop_found {n fuel : ℕ} {s : Socket} (h : Filled stop stale got) (hfuel : n ≤ fuel)
    (hn : StopsAfter stop got (delivered waits s) n) :
    termLoop isEnd termlen waits fuel (got ++ stale.drop got.length) got.length false s =
      (.found (got.length + n) false,
        got ++ (delivered waits s).take n ++ stale.drop (got.length + n), skipBytes waits n s) := by
  induction n generalizing fuel s got with
  | zero => exact absurd hn.pos (by decide)
  | succ n ih =>
    obtain ⟨fuel, rfl⟩ := Nat.exists_eq_succ_of_ne_zero (show fuel ≠ 0 by omega)
    have hfits := hn.fits
    have hroom : got.length < termBufferSize - 1 := by omega
    cases hd : delivered waits s with
    | nil =>
      rw [hd] at hn
      exact absurd hn.arrives (Nat.not_succ_le_zero n)
    | cons b bs =>
      obtain ⟨t, ht, hrest, -⟩ := acceptBytes_one hd
      rw [hd] at hn
      rw [termLoop_turn hstop h false hroom ht, skipBytes, ht, append_take_succ]
      by_cases hend : stop (got ++ [b]) = true
      · have hzero : n = 0 := by
          by_contra hne
          have hfirst := hn.first 1 (Nat.le_refl 1) (by omega)
          rw [append_take_succ, List.take_zero, List.append_nil, hend] at hfirst
          cases hfirst
        rw [if_pos hend, hzero, List.take_zero, List.append_nil]
        rfl
      · rw [Bool.not_eq_true] at hend
        have hnext := (stopsAfter_succ_iff hend).mp hn
        have hloop := ih (h.next hroom hend) (Nat.le_of_succ_le_succ hfuel) (hrest.symm ▸ hnext)
        rw [length_concat, hrest, Nat.add_assoc, Nat.add_comm 1] at hloop
        rw [hend, if_neg Bool.false_ne_true]
        exact hloop

/-- Where the loop does not stop it reads on until a read fails. -/
theorem termLoop_exhausted {fuel : ℕ} {s : Socket} (h : Filled stop stale got) (tooLong : Bool)
    (hnever : ∀ n, ¬StopsAfter stop got (delivered waits s) n) :
    ∃ buffer, termLoop isEnd termlen waits fuel (got ++ stale.drop got.length) got.length tooLong s =
      ((exhaust waits fuel s).1, buffer, (exhaust waits fuel s).2) := by
  induction fuel generalizing s got tooLong with
  | zero => exact ⟨_, rfl⟩
  | succ fuel ih =>
    cases hd : delivered waits s with
    | nil =>
      rw [termLoop, exhaust, acceptBytes_one_ending hd]
      rcases (ending_cases hd).1 with hending | hending <;>
        rw [show ending waits s = ((ending waits s).1, (ending waits s).2) from rfl, hending] <;>
        exact ⟨_, rfl⟩
    | cons b bs =>
      obtain ⟨t, ht, hrest, -⟩ := acceptBytes_one hd
      rw [hd] at hnever
      by_cases hroom : got.length < termBufferSize - 1
      · have hend : stop (got ++ [b]) = false := by
          by_contra htrue
          exact hnever 1 (stopsAfter_one hroom (by simpa using htrue))
        have hnext (n : ℕ) : ¬StopsAfter stop (got ++ [b]) (delivered waits t) n := by
          rw [hrest]
          exact fun hn => hnever (n + 1) ((stopsAfter_succ_iff hend).mpr hn)
        obtain ⟨buffer, hbuffer⟩ := ih (h.next hroom hend) tooLong hnext
        refine ⟨buffer, ?_⟩
        rw [length_concat] at hbuffer
        rw [termLoop_turn hstop h tooLong hroom ht, exhaust, ht, hend, if_neg Bool.false_ne_true]
        exact hbuffer
      · have hfull : got.length = termBufferSize - 1 :=
          Nat.le_antisymm h.length_le (Nat.le_of_not_lt hroom)
        have hmatch := (hstop got h.length_le).not.mpr (by simp [h.full hfull])
        obtain ⟨buffer, hbuffer⟩ := ih h (tooLong || !decide False)
          fun n hn => hroom (Nat.lt_of_lt_of_le (Nat.lt_add_of_pos_right hn.pos) hn.fits)
        refine ⟨buffer, ?_⟩
        rw [termLoop, exhaust, ht]
        simp only [hroom, decide_false, if_false]
        rw [if_neg hmatch]
        exact hbuffer

end

/-- The bytes that are skipped, and those that are left. -/
theorem skipBytes_spec {n : ℕ} {s : Socket} (hn : n ≤ (delivered waits s).length) :
    delivered waits (skipBytes waits n s) = (delivered waits s).drop n ∧
      s.payload = (delivered waits s).take n ++ (skipBytes waits n s).payload := by
  induction n generalizing s with
  | zero => exact ⟨rfl, rfl⟩
  | succ n ih =>
    cases hd : delivered waits s with
    | nil =>
      rw [hd] at hn
      exact absurd hn (Nat.not_succ_le_zero n)
    | cons b bs =>
      obtain ⟨t, ht, hrest, hpayload⟩ := acceptBytes_one hd
      rw [hd] at hn
      obtain ⟨hdelivered, hused⟩ := ih (s := t) (hrest.symm ▸ Nat.le_of_succ_le_succ hn)
      rw [skipBytes, ht, hpayload, hused, hdelivered, hrest]
      exact ⟨rfl, rfl⟩

/-! ### The first occurrence of the terminator -/

/-- The terminator occurs at `i`, and nowhere before. -/
structure FirstAt (term stream : List UInt8) (i : ℕ) : Prop where
  occurs : term <+: stream.drop i
  first : ∀ j < i, ¬term <+: stream.drop j

section

variable {term stream : List UInt8}

theorem endsWith_iff (got rest : List UInt8) :
    (term.length ≤ got.length ∧ endsWith term (got ++ rest) got.length) ↔
      decide (term <:+ got) = true := by
  rw [decide_eq_true_iff, List.suffix_iff_eq_drop, endsWith, decide_eq_true_iff]
  have hread (hle : term.length ≤ got.length) :
      ((got ++ rest).drop (got.length - term.length)).take term.length =
        got.drop (got.length - term.length) := by
    have hcount : (got.drop (got.length - term.length)).length = term.length := by
      rw [List.length_drop]
      omega
    rw [List.drop_append_of_le_length (Nat.sub_le _ _), List.take_left' hcount]
  constructor
  · rintro ⟨hle, hend⟩
    exact ((hread hle).symm.trans hend).symm
  · intro hsuffix
    have hle := congrArg List.length hsuffix
    rw [List.length_drop] at hle
    exact ⟨by omega, (hread (by omega)).trans hsuffix.symm⟩

theorem suffix_take_iff {k : ℕ} (hk : k ≤ stream.length) : term <:+ stream.take k ↔
    term.length ≤ k ∧ term <+: stream.drop (k - term.length) := by
  have hlength : (stream.take k).length = k := by
    rw [List.length_take, Nat.min_eq_left hk]
  constructor
  · intro hsuffix
    have hle := hsuffix.length_le
    rw [hlength] at hle
    have heq := List.suffix_iff_eq_drop.mp hsuffix
    rw [hlength, List.drop_take] at heq
    have hprefix := List.take_prefix (k - (k - term.length)) (stream.drop (k - term.length))
    rw [← heq] at hprefix
    exact ⟨hle, hprefix⟩
  · rintro ⟨hle, hprefix⟩
    have heq := List.prefix_iff_eq_take.mp hprefix
    have hcount : k - (k - term.length) = term.length := by omega
    rw [List.suffix_iff_eq_drop, hlength, List.drop_take, hcount]
    exact heq

theorem FirstAt.length_le {i : ℕ} (h : FirstAt term stream i) (hterm : term ≠ []) :
    i + term.length ≤ stream.length := by
  have hle := h.occurs.length_le
  have hpos := List.length_pos_iff.mpr hterm
  rw [List.length_drop] at hle
  omega

/-- The loop stops behind the first occurrence, if that ends within the buffer. -/
theorem FirstAt.stopsAfter {i : ℕ} (h : FirstAt term stream i) (hterm : term ≠ [])
    (hfits : i + term.length ≤ termBufferSize - 1) :
    StopsAfter (fun got => decide (term <:+ got)) [] stream (i + term.length) := by
  have hlength := h.length_le hterm
  have hpos := List.length_pos_iff.mpr hterm
  refine ⟨by omega, hlength, by simpa using hfits, ?_, ?_⟩
  · rw [List.nil_append, decide_eq_true_iff, suffix_take_iff hlength, Nat.add_sub_cancel]
    exact ⟨Nat.le_add_left _ _, h.occurs⟩
  · intro m hm hlt
    rw [List.nil_append, decide_eq_false_iff_not, suffix_take_iff (by omega)]
    exact fun hmatch => h.first _ (by omega) hmatch.2

theorem exhaust_spec {fuel : ℕ} {s : Socket} (hfuel : (delivered waits s).length < fuel) :
    ((exhaust waits fuel s).1 = .failed ∨ (exhaust waits fuel s).1 = .blocked) ∧
      s.payload = delivered waits s ++ (exhaust waits fuel s).2.payload := by
  induction fuel generalizing s with
  | zero => cases hfuel
  | succ fuel ih =>
    rw [exhaust]
    cases hd : delivered waits s with
    | nil =>
      obtain ⟨hending, hpayload⟩ := ending_cases hd
      rw [acceptBytes_one_ending hd]
      rcases hending with hending | hending <;>
        rw [show ending waits s = ((ending waits s).1, (ending waits s).2) from rfl, hending]
      · exact ⟨Or.inl rfl, hpayload.symm⟩
      · exact ⟨Or.inr rfl, hpayload.symm⟩
    | cons b bs =>
      obtain ⟨t, ht, hrest, hpayload⟩ := acceptBytes_one hd
      rw [hd, List.length_cons] at hfuel
      obtain ⟨hfailed, hused⟩ := ih (s := t) (by rw [hrest]; omega)
      rw [ht]
      refine ⟨hfailed, ?_⟩
      rw [hpayload, hused, hrest]
      rfl

theorem payload_eq_nil {s t : Socket} (hall : s.payload = delivered waits s)
    (h : s.payload = delivered waits s ++ t.payload) : t.payload = [] := by
  rw [hall] at h
  exact List.self_eq_append_right.mp h

theorem length_delivered_le (waits : Bool) (s : Socket) :
    (delivered waits s).length ≤ s.payload.length := by
  have h := (@exhaust_spec waits _ s (Nat.lt_succ_self _)).2
  rw [h, List.length_append]
  exact Nat.le_add_right _ _

theorem filled_nil {stop : List UInt8 → Bool} {buffer : List UInt8}
    (hbuffer : buffer.length = termBufferSize) : Filled stop buffer [] :=
  ⟨hbuffer, Nat.zero_le _, nofun⟩

variable {buffer : List UInt8} {s : Socket} (hbuffer : buffer.length = termBufferSize)

include hbuffer

section

variable {isEnd : List UInt8 → ℕ → Bool} {termlen : ℕ} {stop : List UInt8 → Bool}
  (hstop : ∀ got : List UInt8, got.length ≤ termBufferSize - 1 →
    ((termlen ≤ got.length ∧ isEnd (got ++ buffer.drop got.length) got.length) ↔ stop got))

include hstop

/-- The whole loop of an accept, where it stops. -/
theorem termLoop_stops {n : ℕ} (hn : StopsAfter stop [] (delivered waits s) n) :
    termLoop isEnd termlen waits (s.payload.length + 1) buffer 0 false s =
      (.found n false, (delivered waits s).take n ++ buffer.drop n, skipBytes waits n s) := by
  have hfuel : n ≤ s.payload.length + 1 :=
    (hn.arrives.trans (length_delivered_le waits s)).trans (Nat.le_succ _)
  have hloop := termLoop_found hstop (filled_nil hbuffer) hfuel hn
  rwa [List.nil_append, List.nil_append, List.length_nil, List.drop_zero, Nat.zero_add] at hloop

theorem termLoop_never (hnever : ∀ n, ¬StopsAfter stop [] (delivered waits s) n) :
    ∃ b, termLoop isEnd termlen waits (s.payload.length + 1) buffer 0 false s =
      ((exhaust waits (s.payload.length + 1) s).1, b,
        (exhaust waits (s.payload.length + 1) s).2) := by
  obtain ⟨b, hloop⟩ :=
    @termLoop_exhausted _ _ _ _ _ _ hstop _ _ (filled_nil hbuffer) false hnever
  rw [List.nil_append, List.length_nil, List.drop_zero] at hloop
  exact ⟨b, hloop⟩

end

/-- Where the loop stops, what stands before the terminator is returned. -/
theorem acceptTerm_stops {n : ℕ}
    (hn : StopsAfter (fun got => decide (term <:+ got)) [] (delivered waits s) n) :
    ∃ b, acceptTerm term waits buffer s =
      (.returned (((delivered waits s).take (n - term.length)).takeWhile (· ≠ 0)), b,
        skipBytes waits n s) := by
  have hcount := hn.length_take
  refine ⟨((delivered waits s).take n ++ buffer.drop n).set (n - term.length) 0, ?_⟩
  rw [acceptTerm, termLoop_stops hbuffer (fun got _ => endsWith_iff got _) hn]
  simp only [Bool.false_eq_true, if_false]
  rw [takeWhile_set_nul, List.take_append_of_le_length (by omega), List.take_take,
    Nat.min_eq_left (Nat.sub_le _ _)]

theorem acceptTerm_found {i : ℕ} (hterm : term ≠ []) (hfirst : FirstAt term (delivered waits s) i)
    (hfits : i + term.length ≤ termBufferSize - 1) (hnul : 0 ∉ (delivered waits s).take i) :
    ∃ b t, acceptTerm term waits buffer s = (.returned ((delivered waits s).take i), b, t) ∧
      delivered waits t = (delivered waits s).drop (i + term.length) ∧
      s.payload = (delivered waits s).take (i + term.length) ++ t.payload := by
  obtain ⟨b, haccept⟩ := acceptTerm_stops hbuffer (hfirst.stopsAfter hterm hfits)
  rw [Nat.add_sub_cancel, takeWhile_ne hnul] at haccept
  exact ⟨b, _, haccept, skipBytes_spec (hfirst.length_le hterm)⟩

/-- Where the terminator never ends within the buffer, all that is delivered is taken. -/
theorem acceptTerm_lost
    (hnever : ∀ n, ¬StopsAfter (fun got => decide (term <:+ got)) [] (delivered waits s) n) :
    ∃ outcome b, acceptTerm term waits buffer s =
        (outcome, b, (exhaust waits (s.payload.length + 1) s).2) ∧
      ((exhaust waits (s.payload.length + 1) s).1 = .failed ∧ outcome = .failed ∨
        (exhaust waits (s.payload.length + 1) s).1 = .blocked ∧ outcome = .blocked) ∧
      s.payload = delivered waits s ++ (exhaust waits (s.payload.length + 1) s).2.payload := by
  obtain ⟨b, hloop⟩ := termLoop_never hbuffer (fun got _ => endsWith_iff got _) hnever
  obtain ⟨hend, hpayload⟩ := exhaust_spec (Nat.lt_succ_of_le (length_delivered_le waits s))
  unfold acceptTerm
  rw [hloop]
  rcases hend with hend | hend
  · rw [hend]
    exact ⟨.failed, b, rfl, Or.inl ⟨rfl, rfl⟩, hpayload⟩
  · rw [hend]
    exact ⟨.blocked, b, rfl, Or.inr ⟨rfl, rfl⟩, hpayload⟩

end

/-- A line that has the terminator at its end only, as it does in the whole stream. -/
theorem FirstAt.append {term line : List UInt8} (h : FirstAt term (line ++ term) line.length)
    (rest : List UInt8) : FirstAt term (line ++ term ++ rest) line.length := by
  constructor
  · rw [List.append_assoc, List.drop_left]
    exact List.prefix_append _ _
  · intro j hj hoccurs
    apply h.first j hj
    rw [List.drop_append_of_le_length (by rw [List.length_append]; omega)] at hoccurs
    refine List.prefix_of_prefix_length_le hoccurs (List.prefix_append _ _) ?_
    rw [List.length_drop, List.length_append]
    omega

/-- The line up to the first terminator is accepted, and exactly that is taken from the stream,
as long as the terminator ends within the buffer. A line that was sent is accepted if the
terminator is found at its end first. -/
theorem acceptTerm_first_line {term : List UInt8} (hterm : term ≠ []) (waits : Bool)
    {buffer : List UInt8} (hbuffer : buffer.length = termBufferSize) :
    (∀ s i, 0 ∉ delivered waits s → FirstAt term (delivered waits s) i →
      i + term.length ≤ termBufferSize - 1 →
      ∃ b t, acceptTerm term waits buffer s = (.returned ((delivered waits s).take i), b, t) ∧
        delivered waits t = (delivered waits s).drop (i + term.length) ∧
        s.payload = (delivered waits s).take (i + term.length) ++ t.payload) ∧
    ∀ s line rest, 0 ∉ line → FirstAt term (sendTerm line term) line.length →
      (sendTerm line term).length ≤ termBufferSize - 1 →
      delivered waits s = sendTerm line term ++ rest →
      ∃ b t, acceptTerm term waits buffer s = (.returned line, b, t) ∧ delivered waits t = rest := by
  constructor
  · intro s i hnul hfirst hfits
    exact acceptTerm_found hbuffer hterm hfirst hfits fun hmem => hnul (List.mem_of_mem_take hmem)
  · intro s line rest hnul hfirst hfits hstream
    have hline : (delivered waits s).take line.length = line := by
      rw [hstream, sendTerm, List.append_assoc, List.take_left]
    have hfirst' : FirstAt term (delivered waits s) line.length := by
      rw [hstream]
      exact hfirst.append rest
    rw [sendTerm, List.length_append] at hfits
    obtain ⟨b, t, haccept, hrest, -⟩ :=
      acceptTerm_found hbuffer hterm hfirst' hfits (hline.symm ▸ hnul)
    refine ⟨b, t, hline ▸ haccept, ?_⟩
    rw [hrest, hstream, sendTerm, List.drop_left' (by rw [List.length_append])]

/-- Two lines in two fragments, with an interruption within the first terminator. -/
def exampleLines : Socket :=
  [.fragment 50 [48, 48, 13], .interrupted, .fragment 10 [111, 107, 13, 10]]

theorem acceptTerm_first_line_example : ∃ b t,
    acceptTerm [13, 10] false (List.replicate 1024 0) exampleLines =
      (.returned [50, 48, 48], b, t) ∧ delivered false t = [111, 107, 13, 10] :=
  (acceptTerm_first_line (by decide) false List.length_replicate).2 exampleLines [50, 48, 48]
    [111, 107, 13, 10] (by decide) ⟨by decide, by decide⟩ (by decide) (by decide)

/-- A line that is longer than the buffer, and one behind it. -/
def exampleLongLine : Socket :=
  [.fragment 120 (List.replicate 1099 120), .fragment 10 [111, 107, 10]]

/-- The line `ba` does not contain `aa`, but with that as its terminator `b` is accepted. And of
a line of 1100 bytes not only the line is taken but also the one behind it. -/
theorem not_acceptTerm_every_line :
    (acceptTerm [97, 97] false (List.replicate 1024 0) (ofBytes (sendTerm [98, 97] [97, 97]))).1 =
      .returned [98] ∧
    ∃ outcome b t, acceptTerm [10] false (List.replicate 1024 0) exampleLongLine =
      (outcome, b, t) ∧ t.payload = [] := by
  constructor
  · decide +kernel
  · have hnever (n : ℕ) : ¬StopsAfter (fun got => decide ([10] <:+ got)) []
        (delivered false exampleLongLine) n := by
      intro hn
      have hfits : n ≤ 1023 := by simpa [termBufferSize] using hn.fits
      have hline : delivered false exampleLongLine =
        List.replicate 1100 120 ++ [10, 111, 107, 10] := rfl
      have hmem : 10 ∈ List.replicate n (120 : UInt8) := by
        have hstops := hn.stops
        rw [List.nil_append, decide_eq_true_iff, hline, List.take_append_of_le_length
          (by rw [List.length_replicate]; omega), List.take_replicate,
          Nat.min_eq_left (by omega)] at hstops
        exact hstops.subset (List.mem_singleton_self 10)
      exact absurd (List.eq_of_mem_replicate hmem) (by decide)
    have hbuffer : (List.replicate 1024 (0 : UInt8)).length = termBufferSize :=
      List.length_replicate
    obtain ⟨outcome, b, haccept, -, hpayload⟩ := acceptTerm_lost hbuffer hnever
    have hall : exampleLongLine.payload = delivered false exampleLongLine := by
      simp only [exampleLongLine, payload, delivered]
    exact ⟨outcome, b, _, haccept, payload_eq_nil hall hpayload⟩

end Ipc
