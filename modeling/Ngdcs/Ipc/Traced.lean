import Ngdcs.Ipc.Accepts
import Ngdcs.Ipc.RoundTrip

/-! Where an accept with an indentation and a description does what the plain one does. -/
namespace Ipc

open CStrings Socket

/-- What is made of a result may as well be made of the statuses and of what follows. -/
theorem acceptThen_map {α β : Type*} (g : α → β) {stop : AcceptEnd × RSocketChan → α}
    {stop' : AcceptEnd × RSocketChan → β} {next : List UInt8 → RSocketChan → α}
    {next' : List UInt8 → RSocketChan → β} (hstop : ∀ r, g (stop r) = stop' r)
    (hnext : ∀ got c, g (next got c) = next' got c) (bad : ℤ → Bool) (nbytes : ℕ)
    (readEverything waits : Bool) (c : RSocketChan) :
    g (acceptThen stop bad nbytes readEverything waits next c) =
      acceptThen stop' bad nbytes readEverything waits next' c := by
  unfold acceptThen
  rcases c.acceptBytes nbytes readEverything waits with ⟨outcome, c'⟩
  cases outcome with
  | bytes got =>
    by_cases hbad : bad (asInt got.length) = true
    · simp only [hbad, if_true, hstop]
    · simp only [hbad, if_false, Bool.false_eq_true, hnext]
  | failed => exact hstop _
  | blocked => exact hstop _

/-- What an accept does besides printing. -/
def untraced (r : (AcceptEnd × RSocketChan) × TraceFile) : AcceptEnd × RSocketChan := r.1

variable (p : Platform) (indent : ℤ) (descr : List UInt8) (trace : TraceFile)

theorem acceptCharactersThen_map {α β : Type*} (g : α → β) {stop : AcceptEnd × RSocketChan → α}
    {stop' : AcceptEnd × RSocketChan → β} {print : Option (List UInt8) → AcceptEnd × RSocketChan → α}
    {print' : Option (List UInt8) → AcceptEnd × RSocketChan → β}
    (hstop : ∀ r, g (stop r) = stop' r) (hprint : ∀ s r, g (print s r) = print' s r)
    (length : ℤ) (waits : Bool) (c : RSocketChan) :
    g (acceptCharactersThen stop print length waits c) =
      acceptCharactersThen stop' print' length waits c := by
  unfold acceptCharactersThen
  by_cases hnull : length = -1
  · rw [if_pos hnull, if_pos hnull, hprint]
  · rw [if_neg hnull, if_neg hnull]
    apply acceptThen_map g hstop
    intro got c
    by_cases hnegative : length < 0
    · rw [if_pos hnegative, if_pos hnegative, hstop]
    · rw [if_neg hnegative, if_neg hnegative]
      exact hprint _ _

theorem tracedAcceptString_eq (waits : Bool) (c : RSocketChan) :
    untraced (tracedAcceptString p indent descr trace waits c) = acceptStringOn p waits c := by
  unfold tracedAcceptString acceptStringOn acceptLengthThen
  apply acceptThen_map untraced fun _ => rfl
  intro got c
  exact acceptCharactersThen_map untraced (fun _ => rfl) (fun _ _ => rfl) _ waits c

theorem tracedAcceptStrings_eq (waits : Bool) (c : RSocketChan) :
    untraced (tracedAcceptStrings p indent descr trace waits c) = acceptStringsOn p waits c := by
  unfold tracedAcceptStrings acceptStringsOn acceptLengthThen
  exact acceptThen_map untraced (fun _ => rfl) (fun _ _ => rfl) _ _ _ _ c

theorem tracedAcceptBlock_eq (nbytes : ℕ) (waits readEverything : Bool) (c : RSocketChan) :
    untraced (tracedAcceptBlock indent descr trace nbytes waits readEverything c) =
      acceptBlockOn nbytes waits readEverything c := by
  unfold tracedAcceptBlock acceptBlockOn
  exact acceptThen_map untraced (fun _ => rfl) (fun _ _ => rfl) _ _ _ _ c

/-! ### Items -/

theorem untraced_traceItems_iff (t : DataType) (n : ℕ) (r : AcceptEnd × RSocketChan) :
    untraced (traceItems indent descr trace t n r) = r ↔
      ∀ itemsRead vs c, r = (.returned itemsRead (some (.items vs)), c) → 0 < itemsRead := by
  unfold traceItems
  split
  · rename_i itemsRead vs c
    by_cases hnone : itemsRead ≤ 0
    · rw [if_pos hnone]
      constructor
      · intro h
        cases h
      · intro h
        exact absurd hnone (not_le.mpr (h itemsRead vs c rfl))
    · rw [if_neg hnone]
      refine iff_of_true rfl fun k ws c' h => ?_
      cases h
      exact not_le.mp hnone
  · rename_i hother
    exact iff_of_true rfl fun itemsRead vs c h => (hother itemsRead vs c h).elim

theorem acceptThen_bytes {α : Type*} {stop : AcceptEnd × RSocketChan → α} {bad : ℤ → Bool}
    {nbytes : ℕ} {readEverything waits : Bool} {next : List UInt8 → RSocketChan → α}
    {c c' : RSocketChan} {got : List UInt8}
    (h : c.acceptBytes nbytes readEverything waits = (.bytes got, c')) :
    acceptThen stop bad nbytes readEverything waits next c =
      if bad (asInt got.length) then stop (.returned (-1) none, c') else next got c' := by
  unfold acceptThen
  rw [h]

section

variable (t : DataType) (n : ℕ) (temp : List UInt8) (waits readEverything : Bool) (c : RSocketChan)

/-- A status above 0, unless bytes arrive but not those of one item. -/
theorem acceptItemsOn_pos_iff :
    (∀ itemsRead vs c', acceptItemsOn p t n temp waits readEverything c =
        (.returned itemsRead (some (.items vs)), c') → 0 < itemsRead) ↔
      ∀ got c', c.acceptBytes (itemBytes t n) readEverything waits = (.bytes got, c') →
        0 < asInt got.length → canonicalSize t ≤ asInt got.length := by
  have hsize : (0 : ℤ) < canonicalSize t := Int.natCast_pos.mpr (canonicalSize_pos t)
  have hdiv (k : ℤ) : 0 < k / canonicalSize t ↔ canonicalSize t ≤ k := by
    rw [← Int.add_one_le_iff, zero_add, Int.le_ediv_iff_mul_le hsize, one_mul]
  constructor
  · intro h got c' hread hpos
    unfold acceptItemsOn at h
    rw [acceptThen_bytes hread, if_neg (by simpa using hpos)] at h
    exact (hdiv _).mp (h _ _ _ rfl)
  · intro h itemsRead vs c' haccept
    unfold acceptItemsOn at haccept
    rcases hread : c.acceptBytes (itemBytes t n) readEverything waits with ⟨outcome, c''⟩
    cases outcome with
    | bytes got =>
      rw [acceptThen_bytes hread] at haccept
      by_cases hbad : asInt got.length ≤ 0
      · rw [if_pos (by simpa using hbad)] at haccept
        cases haccept
      · rw [if_neg (by simpa using hbad)] at haccept
        obtain ⟨hstatus, -⟩ := AcceptEnd.returned.inj (congrArg Prod.fst haccept)
        rw [← hstatus]
        exact (hdiv _).mpr (h got c'' hread (not_le.mp hbad))
    | failed =>
      unfold acceptThen at haccept
      rw [hread] at haccept
      cases haccept
    | blocked =>
      unfold acceptThen at haccept
      rw [hread] at haccept
      cases haccept

/-- Every item takes at most 8 bytes. -/
theorem canonicalSize_le (t : DataType) : canonicalSize t ≤ 8 := by
  cases t <;> decide

theorem canonicalSize_dvd_itemBytes : canonicalSize t ∣ itemBytes t n := by
  unfold itemBytes
  split_ifs
  · exact dvd_rfl
  · have hsize : canonicalSize t ∣ 2 ^ 32 := by
      cases t <;> decide
    exact (Nat.dvd_mod_iff hsize).mpr (Dvd.intro_left n rfl)

theorem itemBytes_lt : itemBytes t n < 2 ^ 32 := by
  unfold itemBytes
  split_ifs
  · exact (canonicalSize_le t).trans_lt (by norm_num)
  · exact Nat.mod_lt _ (by norm_num)

theorem asInt_of_pos {k : ℕ} (hlt : k < 2 ^ 32) (hpos : 0 < asInt k) : asInt k = k := by
  rcases asInt_eq k with h | h <;> omega

/-- A read that may end early brings the first item if the next fragment has it. -/
theorem firstItem_iff {size m : ℕ} (hsize : size ≤ m + 1) (hsmall : size ≤ 8)
    (hlt : m + 1 < 2 ^ 32) :
    (∀ got c', c.acceptBytes (m + 1) false waits = (.bytes got, c') →
        0 < asInt got.length → size ≤ asInt got.length) ↔
      ∀ f, nextFragment waits c.socket = some f → size ≤ f.length := by
  cases hnext : nextFragment waits c.socket with
  | none =>
    obtain ⟨outcome, c'', hfails, hread⟩ := RSocketChan.acceptBytes_none hnext
    refine iff_of_true ?_ nofun
    intro got c' hread'
    rw [hread] at hread'
    rcases hfails with rfl | rfl <;> cases hread'
  | some f =>
    obtain ⟨c'', hread⟩ := RSocketChan.acceptBytes_some hnext (n := m) (Or.inl rfl)
    have hlength := @List.length_take _ (m + 1) f
    constructor
    · rintro h f' hf'
      cases hf'
      by_contra hshort
      have hnonempty := List.length_pos_iff.mpr (nextFragment_ne_nil hnext)
      have hall : (f.take (m + 1)).length = f.length := by omega
      have hitem := h (f.take (m + 1)) c'' hread
      rw [hall, asInt_of_lt (by omega)] at hitem
      exact hshort (Int.ofNat_le.mp (hitem (Int.natCast_pos.mpr hnonempty)))
    · intro h got c' hread' hpos
      cases hread.symm.trans hread'
      rw [asInt_of_pos (by omega) hpos, hlength]
      exact Int.ofNat_le.mpr (Nat.le_min.mpr ⟨hsize, h f rfl⟩)

/-- A number of items that arrives whole, or nothing, or enough for the first item. -/
theorem tracedAcceptItems_iff :
    untraced (tracedAcceptItems p indent descr trace t n temp waits readEverything c) =
        acceptItemsOn p t n temp waits readEverything c ↔
      readEverything = true ∨ itemBytes t n = 0 ∨
        ∀ f, nextFragment waits c.socket = some f → canonicalSize t ≤ f.length := by
  have hdvd := canonicalSize_dvd_itemBytes t n
  have hlt := itemBytes_lt t n
  unfold tracedAcceptItems
  rw [untraced_traceItems_iff, acceptItemsOn_pos_iff]
  cases readEverything with
  | true =>
    refine iff_of_true ?_ (Or.inl rfl)
    intro got c' hread hpos
    rw [RSocketChan.acceptBytes_length hread] at hpos ⊢
    have hvalue := asInt_of_pos hlt hpos
    rw [hvalue] at hpos ⊢
    exact Int.ofNat_le.mpr (Nat.le_of_dvd (Int.natCast_pos.mp hpos) hdvd)
  | false =>
    rw [or_iff_right Bool.false_ne_true]
    rcases hcount : itemBytes t n with _ | m
    · refine iff_of_true ?_ (Or.inl rfl)
      intro got c' hread hpos
      rw [RSocketChan.acceptBytes_zero] at hread
      cases hread
      cases hpos
    · rw [hcount] at hdvd hlt
      rw [or_iff_right (Nat.succ_ne_zero m)]
      exact firstItem_iff waits c (Nat.le_of_dvd (Nat.succ_pos m) hdvd) (canonicalSize_le t) hlt

/-! ### Pointers -/

theorem acceptPointerOn_ne_block {status : ℤ} {bytes : List UInt8} {c' : RSocketChan} :
    acceptPointerOn p waits c ≠ (.returned status (some (.block bytes)), c') := by
  intro h
  unfold acceptPointerOn at h
  rcases hread : c.acceptBytes (canonicalSize .ptr) true waits with ⟨outcome, c''⟩
  cases outcome with
  | bytes got =>
    rw [acceptThen_bytes hread] at h
    split_ifs at h
    · cases h
    · cases h
  | failed =>
    unfold acceptThen at h
    rw [hread] at h
    cases h
  | blocked =>
    unfold acceptThen at h
    rw [hread] at h
    cases h

/-- The traced accept takes one byte. -/
theorem tracedAcceptPointer_iff :
    untraced (tracedAcceptPointer indent descr trace waits c) = acceptPointerOn p waits c ↔
      nextFragment waits c.socket = none := by
  unfold tracedAcceptPointer
  cases hnext : nextFragment waits c.socket with
  | none =>
    obtain ⟨outcome, c', hfails, hread⟩ := RSocketChan.acceptBytes_none hnext
    refine iff_of_true ?_ rfl
    unfold acceptBlockOn acceptPointerOn acceptThen
    rw [hread 0 true, show canonicalSize .ptr = 7 + 1 from rfl, hread 7 true]
    rcases hfails with rfl | rfl
    · rfl
    · rfl
  | some f =>
    obtain ⟨c', hread⟩ :=
      @RSocketChan.acceptBytes_some waits c f hnext 0 true (Or.inr rfl)
    have hlength : (f.take (0 + 1)).length = 1 := by
      have hnonempty := List.length_pos_iff.mpr (nextFragment_ne_nil hnext)
      rw [List.length_take]
      omega
    refine iff_of_false ?_ nofun
    unfold acceptBlockOn
    rw [acceptThen_bytes hread, if_neg Bool.false_ne_true, hlength, asInt_of_lt (by norm_num)]
    intro h
    exact acceptPointerOn_ne_block p waits c h.symm

end

/-! ### Terminated strings -/

section

variable {term stale rest got : List UInt8} {stop : List UInt8 → Bool} {waits : Bool} {s : Socket}

/-- The least number of bytes for which the loop stops. -/
theorem StopsAfter.of_stop {n : ℕ} (hpos : 1 ≤ n) (harrives : n ≤ rest.length)
    (hfits : got.length + n ≤ termBufferSize - 1) (hstop : stop (got ++ rest.take n) = true) :
    ∃ m, m ≤ n ∧ StopsAfter stop got rest m := by
  induction n using Nat.strong_induction_on with
  | _ n ih =>
    by_cases hearlier : ∃ m, 1 ≤ m ∧ m < n ∧ stop (got ++ rest.take m) = true
    · obtain ⟨m, hm, hlt, hstopped⟩ := hearlier
      obtain ⟨k, hk, hstops⟩ := ih m hlt hm (by omega) (by omega) hstopped
      exact ⟨k, hk.trans hlt.le, hstops⟩
    · push Not at hearlier
      exact ⟨n, le_rfl, hpos, harrives, hfits, hstop, fun m hm hlt => by
        simpa using hearlier m hm hlt⟩

theorem StopsAfter.unique {m n : ℕ} (hm : StopsAfter stop got rest m)
    (hn : StopsAfter stop got rest n) : m = n := by
  rcases Nat.lt_trichotomy m n with hlt | heq | hlt
  · exact absurd hm.stops (by simp [hn.first m hm.pos hlt])
  · exact heq
  · exact absurd hn.stops (by simp [hm.first n hn.pos hlt])

/-- The traced loop stops behind the terminator if the next byte of its buffer is 0 from before. -/
def stopsTraced (term stale got : List UInt8) : Bool :=
  decide (term <:+ got ∧ stale[got.length]? = some 0)

theorem isTail_iff (stale got : List UInt8) :
    (term.length ≤ got.length ∧ isTail term (got ++ stale.drop got.length) got.length) ↔
      stopsTraced term stale got = true := by
  rw [stopsTraced, decide_eq_true_iff, List.suffix_iff_eq_drop, isTail, decide_eq_true_iff]
  have hread (hle : term.length ≤ got.length) :
      ((got ++ stale.drop got.length).drop (got.length - term.length)).take (term.length + 1) =
        got.drop (got.length - term.length) ++ stale[got.length]?.toList := by
    have hcount : (got.drop (got.length - term.length)).length = term.length := by
      rw [List.length_drop]
      omega
    rw [List.drop_append_of_le_length (Nat.sub_le _ _), List.take_append,
      List.take_of_length_le (hcount.trans_le (Nat.le_succ _)), hcount, Nat.add_sub_cancel_left,
      List.take_one, List.head?_drop]
  constructor
  · rintro ⟨hle, hend⟩
    rw [hread hle] at hend
    have hcount : (got.drop (got.length - term.length)).length = term.length := by
      rw [List.length_drop]
      omega
    obtain ⟨hterm, hzero⟩ := List.append_inj hend hcount
    exact ⟨hterm.symm, by simpa using hzero⟩
  · rintro ⟨hterm, hzero⟩
    have hle := congrArg List.length hterm
    rw [List.length_drop] at hle
    have hlength : term.length ≤ got.length := by omega
    refine ⟨hlength, ?_⟩
    rw [hread hlength, ← hterm, hzero]
    rfl

theorem takeWhile_append_iff {a : List UInt8} (hterm : 0 ∉ term) :
    (a ++ term).takeWhile (· ≠ 0) = a.takeWhile (· ≠ 0) ↔ term = [] ∨ 0 ∈ a := by
  by_cases hzero : 0 ∈ a
  · refine iff_of_true ?_ (Or.inr hzero)
    obtain ⟨l, r, rfl⟩ := List.append_of_mem hzero
    rw [List.append_assoc, List.cons_append, takeWhile_append_nul, takeWhile_append_nul]
  · rw [takeWhile_ne hzero, takeWhile_ne (by simp [hzero, hterm]), List.append_right_eq_self,
      or_iff_left hzero]

theorem stopsTraced_false {n : ℕ} (h : decide (term <:+ rest.take n) = false) :
    stopsTraced term stale (rest.take n) = false := by
  rw [decide_eq_false_iff_not] at h
  exact decide_eq_false fun hboth => h hboth.1

/-- Sockets from which different numbers of bytes have been taken. -/
theorem skipBytes_inj {m n : ℕ} (hm : m ≤ (delivered waits s).length)
    (hn : n ≤ (delivered waits s).length) (h : skipBytes waits m s = skipBytes waits n s) :
    m = n := by
  have hpayload := (skipBytes_spec hm).2.symm.trans (skipBytes_spec hn).2
  rw [h] at hpayload
  have htaken := congrArg List.length (List.append_cancel_right hpayload)
  rwa [List.length_take, List.length_take, Nat.min_eq_left hm, Nat.min_eq_left hn] at htaken

/-- The traced loop stops where the plain one does, if a zero is there. -/
theorem StopsAfter.traced {n : ℕ} (hn : StopsAfter (fun got => decide (term <:+ got)) [] rest n)
    (hzero : stale[n]? = some 0) : StopsAfter (stopsTraced term stale) [] rest n := by
  have hsuffix : term <:+ rest.take n := by
    simpa using hn.stops
  refine ⟨hn.pos, hn.arrives, hn.fits, ?_, fun m hm hlt => stopsTraced_false (hn.first m hm hlt)⟩
  rw [List.nil_append, stopsTraced, hn.length_take, decide_eq_true_iff]
  exact ⟨hsuffix, hzero⟩

theorem StopsAfter.traced_zero {n : ℕ} (hn : StopsAfter (stopsTraced term stale) [] rest n) :
    stale[n]? = some 0 := by
  have hstopped := hn.stops
  rw [List.nil_append, stopsTraced, hn.length_take, decide_eq_true_iff] at hstopped
  exact hstopped.2

theorem not_stopsAfter_traced
    (hnever : ∀ n, ¬StopsAfter (fun got => decide (term <:+ got)) [] rest n) (n : ℕ) :
    ¬StopsAfter (stopsTraced term stale) [] rest n := by
  intro hn
  have hstopped := hn.stops
  rw [List.nil_append, stopsTraced, decide_eq_true_iff] at hstopped
  obtain ⟨m, -, hm⟩ := @StopsAfter.of_stop rest [] (fun got => decide (term <:+ got)) n hn.pos
    hn.arrives hn.fits (by simpa using hstopped.1)
  exact hnever m hm

/-- The bytes up to the end of the terminator. -/
theorem StopsAfter.take_eq {n : ℕ} (hn : StopsAfter (fun got => decide (term <:+ got)) [] rest n) :
    rest.take n = rest.take (n - term.length) ++ term := by
  have hsuffix : term <:+ rest.take n := by
    simpa using hn.stops
  have happend := List.suffix_iff_eq_append.mp hsuffix
  rw [hn.length_take, List.take_take, Nat.min_eq_left (Nat.sub_le _ _)] at happend
  exact happend.symm

variable {buffer : List UInt8} (hbuffer : buffer.length = termBufferSize)

include hbuffer

theorem tracedAcceptTermLine_stops {n : ℕ}
    (hn : StopsAfter (stopsTraced term buffer) [] (delivered waits s) n) :
    ∃ b, tracedAcceptTermLine term waits buffer s =
      (.returned (((delivered waits s).take n).takeWhile (· ≠ 0)), b, skipBytes waits n s) := by
  have hcount := hn.length_take
  refine ⟨((delivered waits s).take n ++ buffer.drop n).set n 0, ?_⟩
  rw [tracedAcceptTermLine, termLoop_stops hbuffer (fun got _ => isTail_iff buffer got) hn]
  simp only [Bool.false_eq_true, if_false]
  rw [takeWhile_set_nul, List.take_append_of_le_length hcount.ge, List.take_take, Nat.min_self]

theorem tracedAcceptTermLine_lost
    (hnever : ∀ n, ¬StopsAfter (stopsTraced term buffer) [] (delivered waits s) n) :
    ∃ outcome b, tracedAcceptTermLine term waits buffer s =
        (outcome, b, (exhaust waits (s.payload.length + 1) s).2) ∧
      ((exhaust waits (s.payload.length + 1) s).1 = .failed ∧ outcome = .failed ∨
        (exhaust waits (s.payload.length + 1) s).1 = .blocked ∧ outcome = .blocked) := by
  obtain ⟨b, hloop⟩ := termLoop_never hbuffer (fun got _ => isTail_iff buffer got) hnever
  have hend := (@exhaust_spec waits _ s (Nat.lt_succ_of_le (length_delivered_le waits s))).1
  unfold tracedAcceptTermLine
  rw [hloop]
  rcases hend with hend | hend
  · rw [hend]
    exact ⟨.failed, b, rfl, Or.inl ⟨rfl, rfl⟩⟩
  · rw [hend]
    exact ⟨.blocked, b, rfl, Or.inr ⟨rfl, rfl⟩⟩

variable {tracedBuffer : List UInt8} (htraced : tracedBuffer.length = termBufferSize)

include htraced

/-- Both read until a read fails. -/
theorem tracedAcceptTermLine_never
    (hnever : ∀ n, ¬StopsAfter (fun got => decide (term <:+ got)) [] (delivered waits s) n) :
    (tracedAcceptTermLine term waits tracedBuffer s).1 = (acceptTerm term waits buffer s).1 ∧
      (tracedAcceptTermLine term waits tracedBuffer s).2.2 =
        (acceptTerm term waits buffer s).2.2 := by
  obtain ⟨outcome, b, haccept, hend, -⟩ := acceptTerm_lost hbuffer hnever
  obtain ⟨outcome', b', htraced', hend'⟩ :=
    tracedAcceptTermLine_lost htraced (not_stopsAfter_traced hnever)
  rw [haccept, htraced']
  rcases hend with ⟨hend, rfl⟩ | ⟨hend, rfl⟩
  · rcases hend' with ⟨-, rfl⟩ | ⟨hend', -⟩
    · exact ⟨rfl, rfl⟩
    · rw [hend] at hend'
      cases hend'
  · rcases hend' with ⟨hend', -⟩ | ⟨-, rfl⟩
    · rw [hend] at hend'
      cases hend'
    · exact ⟨rfl, rfl⟩

omit hbuffer in
/-- Without a zero at byte `n` the traced accept does not stop there with a string. -/
theorem tracedAcceptTermLine_goes_on {n : ℕ} (hn : n ≤ (delivered waits s).length)
    (hzero : tracedBuffer[n]? ≠ some 0) (line : List UInt8) :
    ¬((tracedAcceptTermLine term waits tracedBuffer s).1 = .returned line ∧
      (tracedAcceptTermLine term waits tracedBuffer s).2.2 = skipBytes waits n s) := by
  rintro ⟨houtcome, hsocket⟩
  by_cases hstops : ∃ m, StopsAfter (stopsTraced term tracedBuffer) [] (delivered waits s) m
  · obtain ⟨m, hm⟩ := hstops
    obtain ⟨b, haccept⟩ := tracedAcceptTermLine_stops htraced hm
    rw [haccept] at hsocket
    obtain rfl := skipBytes_inj hm.arrives hn hsocket
    exact hzero hm.traced_zero
  · obtain ⟨outcome, b, haccept, hend⟩ :=
      tracedAcceptTermLine_lost htraced (not_exists.mp hstops)
    rw [haccept] at houtcome
    rcases hend with ⟨-, rfl⟩ | ⟨-, rfl⟩
    · cases houtcome
    · cases houtcome

/-- Both end in the same way if neither finds its terminator, or if both stop at the same byte and
a NUL hides that the traced one has not cut off the terminator. -/
theorem tracedAcceptTermLine_iff (hterm : 0 ∉ term) :
    ((tracedAcceptTermLine term waits tracedBuffer s).1 = (acceptTerm term waits buffer s).1 ∧
        (tracedAcceptTermLine term waits tracedBuffer s).2.2 =
          (acceptTerm term waits buffer s).2.2) ↔
      ∀ n, StopsAfter (fun got => decide (term <:+ got)) [] (delivered waits s) n →
        tracedBuffer[n]? = some 0 ∧ (term = [] ∨ 0 ∈ (delivered waits s).take (n - term.length)) := by
  by_cases hstops : ∃ n, StopsAfter (fun got => decide (term <:+ got)) [] (delivered waits s) n
  · obtain ⟨n, hn⟩ := hstops
    have hone (P : ℕ → Prop) : (∀ m, StopsAfter (fun got => decide (term <:+ got)) []
        (delivered waits s) m → P m) ↔ P n :=
      ⟨fun h => h n hn, fun h m hm => hn.unique hm ▸ h⟩
    obtain ⟨b, haccept⟩ := acceptTerm_stops hbuffer hn
    rw [hone, haccept]
    by_cases hzero : tracedBuffer[n]? = some 0
    · obtain ⟨b', htraced'⟩ := tracedAcceptTermLine_stops htraced (hn.traced hzero)
      rw [htraced', hn.take_eq]
      simp only [TermOutcome.returned.injEq, and_true, takeWhile_append_iff hterm, hzero, true_and]
    · exact iff_of_false (tracedAcceptTermLine_goes_on htraced hn.arrives hzero _)
        fun h => hzero h.1
  · have hnever := not_exists.mp hstops
    exact iff_of_true (tracedAcceptTermLine_never hbuffer htraced hnever)
      fun n hn => absurd hn (hnever n)

end

/-! ### All of them -/

/-- When the traced accept agrees with the plain one, for what stands in the static buffer of the
traced one. -/
def Agrees (tracedBuffer : List UInt8) (c : RSocketChan) : AcceptArg → Prop
  | .items t n _ waits readEverything =>
    readEverything = true ∨ itemBytes t n = 0 ∨
      ∀ f, nextFragment waits c.socket = some f → canonicalSize t ≤ f.length
  | .pointer waits => nextFragment waits c.socket = none
  | .term term waits =>
    c.useUdp = true ∨
      ∀ n, StopsAfter (fun got => decide (term.val <:+ got)) [] (delivered waits c.socket) n →
        tracedBuffer[n]? = some 0 ∧
          (term.val = [] ∨ 0 ∈ (delivered waits c.socket).take (n - term.val.length))
  | .string _ => True
  | .strings _ => True
  | .block _ _ _ => True

theorem TermOutcome.toEnd_inj {a b : TermOutcome} : a.toEnd = b.toEnd ↔ a = b := by
  cases a <;> cases b <;> simp [TermOutcome.toEnd]

theorem tracedAcceptTerm_iff (term : CString) (waits : Bool) {buffer tracedBuffer : List UInt8}
    (hbuffer : buffer.length = termBufferSize) (htraced : tracedBuffer.length = termBufferSize)
    (c : RSocketChan) :
    untraced (tracedAcceptTerm indent descr trace term waits tracedBuffer c) =
        acceptTermOn term waits buffer c ↔ Agrees tracedBuffer c (.term term waits) := by
  unfold tracedAcceptTerm acceptTermOn
  rw [Agrees]
  by_cases hudp : c.useUdp = true
  · rw [if_pos hudp, if_pos hudp]
    refine iff_of_true ?_ (Or.inl hudp)
    exact acceptThen_map untraced (fun _ => rfl) (fun _ _ => rfl) _ _ _ _ c
  · rw [if_neg hudp, if_neg hudp, or_iff_right hudp,
      ← tracedAcceptTermLine_iff hbuffer htraced term.property]
    simp only [untraced, Prod.mk.injEq, TermOutcome.toEnd_inj, RSocketChan.mk.injEq, true_and]

theorem tracedAccept_iff {buffer tracedBuffer : List UInt8} (hbuffer : buffer.length = termBufferSize)
    (htraced : tracedBuffer.length = termBufferSize) (arg : AcceptArg) (c : RSocketChan) :
    untraced (tracedAccept p indent descr trace tracedBuffer arg c) = accept p buffer arg c ↔
      Agrees tracedBuffer c arg := by
  cases arg with
  | items t n temp waits readEverything =>
    exact tracedAcceptItems_iff p indent descr trace t n temp waits readEverything c
  | pointer waits => exact tracedAcceptPointer_iff p indent descr trace waits c
  | string waits => exact iff_of_true (tracedAcceptString_eq p indent descr trace waits c) trivial
  | term term waits => exact tracedAcceptTerm_iff indent descr trace term waits hbuffer htraced c
  | strings waits =>
    exact iff_of_true (tracedAcceptStrings_eq p indent descr trace waits c) trivial
  | block nbytes waits readEverything =>
    exact iff_of_true (tracedAcceptBlock_eq indent descr trace nbytes waits readEverything c) trivial

/-- A traced send puts on the wire what the plain one does, whatever the channel makes of it. A
traced accept takes and returns what the plain one does if and only if it `Agrees`. -/
theorem traced_eq_plain_iff {σ : Type} (sendBytes : SendBytes σ) (sendArg : SendArg) (s : σ)
    {buffer tracedBuffer : List UInt8} (hbuffer : buffer.length = termBufferSize)
    (htraced : tracedBuffer.length = termBufferSize) (arg : AcceptArg) (c : RSocketChan) :
    (tracedSend sendBytes p indent descr trace sendArg s).map Prod.fst =
        send sendBytes p sendArg s ∧
      (untraced (tracedAccept p indent descr trace tracedBuffer arg c) = accept p buffer arg c ↔
        Agrees tracedBuffer c arg) :=
  ⟨tracedSend_eq sendBytes p indent descr trace sendArg s,
    tracedAccept_iff p indent descr trace hbuffer htraced arg c⟩

/-- The first four bytes of an array of numbers. -/
def exampleNumbers : RSocketChan := ⟨false, [.pause, .interrupted, .fragment 0 [0, 1, 2]]⟩

theorem traced_eq_plain_iff_example :
    (tracedSend (fun out wire => (0, wire ++ out)) lp64 2 [110] (some [])
        (.string (some [111, 107])) []).map Prod.fst = some (0, [0, 0, 0, 2, 111, 107]) ∧
      untraced (tracedAccept lp64 2 [110] (some []) (List.replicate 1024 0)
          (.items .int 3 [] true false) exampleNumbers) =
        accept lp64 (List.replicate 1024 7) (.items .int 3 [] true false) exampleNumbers := by
  have hboth := @traced_eq_plain_iff lp64 2 [110] (some []) _
    (fun out wire => (0, wire ++ out)) (.string (some [111, 107])) []
    (List.replicate 1024 7) (List.replicate 1024 0) List.length_replicate List.length_replicate
    (.items .int 3 [] true false) exampleNumbers
  refine ⟨hboth.1.trans (by decide +kernel), hboth.2.mpr (Or.inr (Or.inr fun f hf => ?_))⟩
  cases hf
  decide

def newline : CString := ⟨[10], by decide⟩

/-- A line: the traced accept keeps the newline. -/
def exampleLine : RSocketChan := ⟨false, [.fragment 111 [107, 10]]⟩

/-- A pointer: the traced accept takes its first byte and points to that. -/
def examplePointer : RSocketChan := ⟨false, [.fragment 0 [0, 0, 0, 0, 0, 1, 2]]⟩

/-- Part of a number: the plain accept returns 0. -/
def examplePart : RSocketChan := ⟨false, [.fragment 1 []]⟩

theorem not_traced_eq_plain :
    let zeros := List.replicate 1024 0
    (accept lp64 zeros (.term newline false) exampleLine).1 =
        .returned 0 (some (.string (some [111, 107]))) ∧
      (untraced (tracedAccept lp64 0 [] none zeros (.term newline false) exampleLine)).1 =
        .returned 0 (some (.string (some [111, 107, 10]))) ∧
      accept lp64 zeros (.pointer false) examplePointer =
        (.returned 0 (some (.pointer [2, 1, 0, 0, 0, 0, 0, 0])), ⟨false, []⟩) ∧
      untraced (tracedAccept lp64 0 [] none zeros (.pointer false) examplePointer) =
        (.returned 0 (some (.block [0])), ⟨false, [.fragment 0 [0, 0, 0, 0, 1, 2]]⟩) ∧
      (accept lp64 zeros (.items .int 3 [] false false) examplePart).1 =
        .returned 0 (some (.items [])) ∧
      (untraced (tracedAccept lp64 0 [] none zeros (.items .int 3 [] false false)
        examplePart)).1 = .returned (-1) none := by
  decide +kernel

end Ipc
