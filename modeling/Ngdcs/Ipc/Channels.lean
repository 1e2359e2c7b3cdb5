import Ngdcs.Ipc.RoundTrip
import Ngdcs.Ipc.Traced

/-! The accepts on a TCP channel and the typed accepts: they end in the same way, with the same
value and the same bytes left to read. What the sends put on the wire they take back. -/
namespace Ipc

/-- How an accept on a channel ends for a caller that looks only for -1. -/
def typedEnd : AcceptEnd × RSocketChan → Except AcceptError (Accepted × Socket)
  | (.returned _ (some v), c) => .ok (v, c.socket)
  | (.returned _ none, _) => .error .failed
  | (.blocked, _) => .error .blocked
  | (.undefined, _) => .error .undefined

variable {p : Platform} {waits : Bool}

theorem typedEnd_acceptThen (bad : ℤ → Bool) (nbytes : ℕ)
    (next : List UInt8 → RSocketChan → AcceptEnd × RSocketChan) (s : Socket) :
    typedEnd (acceptThen id bad nbytes true waits next ⟨false, s⟩) =
      acceptChecked bad nbytes waits s >>= fun r => typedEnd (next r.1 ⟨false, r.2⟩) := by
  have hread : RSocketChan.acceptBytes ⟨false, s⟩ nbytes true waits =
      ((acceptBytes nbytes true waits s).1, ⟨false, (acceptBytes nbytes true waits s).2⟩) := rfl
  rw [acceptThen, acceptChecked, hread]
  rcases acceptBytes nbytes true waits s with ⟨outcome, t⟩
  cases outcome with
  | bytes got =>
    cases hbad : bad (asInt got.length) with
    | true => simp [hbad, typedEnd, bind, Except.bind]
    | false => simp [hbad, bind, Except.bind]
  | failed => rfl
  | blocked => rfl

/-- What follows an accept of some bytes may be compared for those that it can return. -/
theorem acceptChecked_bind {α : Type} {bad : ℤ → Bool} {nbytes : ℕ} {s : Socket}
    {f g : List UInt8 × Socket → Except AcceptError α}
    (h : ∀ got t, got.length = nbytes → bad (asInt nbytes) = false → f (got, t) = g (got, t)) :
    acceptChecked bad nbytes waits s >>= f = acceptChecked bad nbytes waits s >>= g := by
  cases hread : acceptChecked bad nbytes waits s with
  | error e => rfl
  | ok r =>
    obtain ⟨hlength, hgood⟩ := acceptChecked_ok hread
    exact h r.1 r.2 hlength hgood

theorem acceptItems_one (t : DataType) (s : Socket) : acceptItems p t 1 waits s =
    acceptChecked (· ≤ 0) (canonicalSize t) waits s >>= fun r =>
      .ok ([uncanonize p r.1 (p.sizeof t)], r.2) := by
  have hsize : 1 * canonicalSize t % 2 ^ 32 = canonicalSize t := by
    have hle := canonicalSize_le t
    omega
  unfold acceptItems
  simp only [hsize]
  apply acceptChecked_bind
  intro got u hlength _
  have hle := canonicalSize_le t
  have hcount : (asInt got.length).toNat / canonicalSize t = 1 := by
    rw [hlength, asInt_of_lt (by omega), Int.toNat_natCast]
    exact Nat.div_self (canonicalSize_pos t)
  simp [hcount, List.take_of_length_le hlength.le, pure, Except.pure]

/-! ### Each overload -/

theorem acceptItemsOn_typed (t : DataType) (n : ℕ) (temp : List UInt8) (s : Socket) :
    typedEnd (acceptItemsOn p t n temp waits true ⟨false, s⟩) =
      acceptItems p t n waits s >>= fun r => .ok (.items r.1, r.2) := by
  rw [acceptItemsOn, typedEnd_acceptThen]
  by_cases hone : n = 1
  · obtain rfl := hone
    rw [acceptItems_one, bind_assoc]
    apply acceptChecked_bind
    intro got u hitem _
    have hlength : got.length = canonicalSize t := hitem.trans (if_pos rfl)
    have hread : (got ++ temp.drop got.length).take (canonicalSize t) = got :=
      List.take_left' hlength
    simp [typedEnd, hread, bind, Except.bind]
  · rw [itemBytes, if_neg hone, acceptItems, bind_assoc]
    apply acceptChecked_bind
    intro got u hlength hgood
    have hpos : 0 < asInt got.length := by
      rw [hlength]
      simpa using hgood
    have hcount : (asInt got.length / canonicalSize t).toNat =
        (asInt got.length).toNat / canonicalSize t := by
      obtain ⟨k, hk⟩ := Int.eq_ofNat_of_zero_le hpos.le
      rw [hk, Int.toNat_natCast, ← Int.natCast_div, Int.toNat_natCast]
    simp [typedEnd, hone, hcount, bind, Except.bind, pure, Except.pure]

theorem acceptPointerOn_typed (s : Socket) :
    typedEnd (acceptPointerOn p waits ⟨false, s⟩) =
      acceptPtr p waits s >>= fun r => .ok (.pointer r.1, r.2) := by
  rw [acceptPointerOn, typedEnd_acceptThen, acceptPtr, bind_assoc]
  rfl

/-- The length in front of a string or an array of strings. -/
theorem acceptLengthThen_typed {t : DataType} (ht : t = .int ∨ t = .uint)
    (next : ℕ → RSocketChan → AcceptEnd × RSocketChan) (s : Socket) :
    typedEnd (acceptLengthThen p id waits next ⟨false, s⟩) =
      acceptWord p t waits s >>= fun r => typedEnd (next r.1 ⟨false, r.2⟩) := by
  have hsize : canonicalSize t = canonicalSize .int ∧ p.sizeof t = p.sizeof .int := by
    rcases ht with rfl | rfl
    · exact ⟨rfl, rfl⟩
    · exact ⟨rfl, p.sizeof_uint.trans p.sizeof_int.symm⟩
  rw [acceptLengthThen, typedEnd_acceptThen, acceptWord, acceptItems_one, bind_assoc, bind_assoc,
    hsize.1, hsize.2]
  apply acceptChecked_bind
  intro got u _ _
  simp [bind, Except.bind, pure, Except.pure]

theorem acceptCharactersThen_typed (length : ℤ) (s : Socket) :
    typedEnd (acceptCharactersThen id (fun _ r => r) length waits ⟨false, s⟩) =
      acceptCharacters length waits s >>= fun r => .ok (.string r.1, r.2) := by
  unfold acceptCharactersThen acceptCharacters
  by_cases hnull : length = -1
  · rw [if_pos hnull, if_pos hnull]
    rfl
  · rw [if_neg hnull, if_neg hnull, typedEnd_acceptThen, bind_assoc]
    apply acceptChecked_bind
    intro got u _ _
    by_cases hneg : length < 0
    · simp only [if_pos hneg]
      rfl
    · simp only [if_neg hneg]
      rfl

theorem acceptStringOn_typed (s : Socket) :
    typedEnd (acceptStringOn p waits ⟨false, s⟩) =
      acceptString p waits s >>= fun r => .ok (.string r.1, r.2) := by
  rw [acceptStringOn, acceptLengthThen_typed (Or.inl rfl), acceptString, bind_assoc]
  exact congrArg _ (funext fun r => acceptCharactersThen_typed (asInt r.1) r.2)

/-- The accept of a string returns 0 with a string, or -1 without one. -/
def EndsAsString (r : AcceptEnd × RSocketChan) : Prop :=
  r.2.useUdp = false ∧ ∀ status value, r.1 = .returned status value →
    value = none ∨ status = 0 ∧ ∃ str, value = some (.string str)

theorem endsAsString_acceptThen {bad : ℤ → Bool} {nbytes : ℕ}
    {next : List UInt8 → RSocketChan → AcceptEnd × RSocketChan}
    (hnext : ∀ got s, EndsAsString (next got ⟨false, s⟩)) (s : Socket) :
    EndsAsString (acceptThen id bad nbytes true waits next ⟨false, s⟩) := by
  have hread : RSocketChan.acceptBytes ⟨false, s⟩ nbytes true waits =
      ((acceptBytes nbytes true waits s).1, ⟨false, (acceptBytes nbytes true waits s).2⟩) := rfl
  have hfailed (t : Socket) : EndsAsString (.returned (-1) none, ⟨false, t⟩) :=
    ⟨rfl, fun status value h => Or.inl (AcceptEnd.returned.inj h).2.symm⟩
  rw [acceptThen, hread]
  rcases acceptBytes nbytes true waits s with ⟨outcome, t⟩
  cases outcome with
  | bytes got =>
    cases hbad : bad (asInt got.length) with
    | true => simpa [hbad] using hfailed t
    | false => simpa [hbad] using hnext got t
  | failed => exact hfailed t
  | blocked => exact ⟨rfl, fun _ _ h => by cases h⟩

theorem endsAsString_acceptStringOn (s : Socket) :
    EndsAsString (acceptStringOn p waits ⟨false, s⟩) := by
  have hreturned (str : Option (List UInt8)) (t : Socket) :
      EndsAsString (.returned 0 (some (.string str)), ⟨false, t⟩) :=
    ⟨rfl, fun _ _ h => Or.inr
      ⟨(AcceptEnd.returned.inj h).1.symm, str, (AcceptEnd.returned.inj h).2.symm⟩⟩
  unfold acceptStringOn acceptLengthThen
  apply endsAsString_acceptThen
  intro got t
  dsimp only [acceptCharactersThen]
  generalize asInt (ofMemory p (uncanonize p got (p.sizeof .int))) = length
  by_cases hnull : length = -1
  · rw [if_pos hnull]
    exact hreturned none t
  · rw [if_neg hnull]
    apply endsAsString_acceptThen
    intro got u
    by_cases hneg : length < 0
    · rw [if_pos hneg]
      exact ⟨rfl, fun _ _ h => by cases h⟩
    · rw [if_neg hneg]
      exact hreturned _ u

theorem EndsAsString.of_typedEnd {r : AcceptEnd × RSocketChan} (hr : EndsAsString r)
    {str : Option (List UInt8)} {t : Socket} (h : typedEnd r = .ok (.string str, t)) :
    r = (.returned 0 (some (.string str)), ⟨false, t⟩) := by
  obtain ⟨outcome, useUdp, u⟩ := r
  obtain ⟨rfl, hvalue⟩ := hr
  cases outcome with
  | returned status value =>
    cases value with
    | none => cases h
    | some v =>
      obtain ⟨rfl, rfl⟩ := Prod.mk.inj (Except.ok.inj h)
      obtain ⟨rfl, -⟩ := (hvalue status _ rfl).resolve_left (Option.some_ne_none _)
      rfl
  | blocked => cases h
  | undefined => cases h

theorem acceptStringLoopOn_typed (n : ℕ) (array : List (Option (List UInt8))) (s : Socket) :
    typedEnd (acceptStringLoopOn p n array ⟨false, s⟩) =
      acceptStringLoop p n s >>= fun r => .ok (.strings (array ++ r.1), r.2) := by
  induction n generalizing array s with
  | zero => simp [acceptStringLoopOn, acceptStringLoop, typedEnd, bind, Except.bind]
  | succ n ih =>
    have htyped := @acceptStringOn_typed p true s
    have hends := @endsAsString_acceptStringOn p true s
    rw [acceptStringLoopOn, acceptStringLoop, bind_assoc]
    cases hplain : acceptString p true s with
    | error e =>
      rw [hplain] at htyped
      generalize acceptStringOn p true ⟨false, s⟩ = r at htyped ⊢
      obtain ⟨outcome, c⟩ := r
      cases outcome with
      | returned status value =>
        cases value with
        | none =>
          obtain rfl := Except.error.inj htyped
          simp [typedEnd, bind, Except.bind]
        | some v => cases htyped
      | blocked =>
        obtain rfl := Except.error.inj htyped
        rfl
      | undefined =>
        obtain rfl := Except.error.inj htyped
        rfl
    | ok r =>
      obtain ⟨str, t⟩ := r
      rw [hplain] at htyped
      rw [hends.of_typedEnd htyped]
      refine (ih (array ++ [str]) t).trans ?_
      rw [bind_ok rfl, bind_assoc]
      simp [bind, Except.bind, pure, Except.pure, List.append_assoc]

theorem acceptStringsOn_typed (s : Socket) :
    typedEnd (acceptStringsOn p waits ⟨false, s⟩) =
      acceptStrings p waits s >>= fun r => .ok (.strings r.1, r.2) := by
  rw [acceptStringsOn, acceptLengthThen_typed (Or.inr rfl), acceptStrings, bind_assoc]
  exact congrArg _ (funext fun r => acceptStringLoopOn_typed r.1 [] r.2)

/-! ### Values -/

/-- The overload that belongs to the send of a value. -/
def Value.acceptArg (waits : Bool) : Value → AcceptArg
  | .scalar .ptr _ => .pointer waits
  | .scalar t _ => .items t 1 [] waits true
  | .array t vs => .items t vs.length [] waits true
  | .string _ => .string waits
  | .strings _ => .strings waits

def Value.accepted : Value → Accepted
  | .scalar .ptr v => .pointer v
  | .scalar _ v => .items [v]
  | .array _ vs => .items vs
  | .string str => .string str
  | .strings a => .strings a

/-- The accept of a value on a TCP channel is its typed accept. -/
theorem accept_eq_acceptLike (buffer : List UInt8) (v : Value) (s : Socket) :
    typedEnd (accept p buffer (v.acceptArg waits) ⟨false, s⟩) =
      v.acceptLike p waits s >>= fun r => .ok (r.1.accepted, r.2) := by
  have hscalar (t : DataType) (ht : t ≠ .ptr) (v : List UInt8) :
      typedEnd (acceptItemsOn p t 1 [] waits true ⟨false, s⟩) =
        acceptItems p t 1 waits s >>= fun r =>
          .ok ((Value.scalar t r.1.flatten).accepted, r.2) := by
    rw [acceptItemsOn_typed, acceptItems_one, bind_assoc, bind_assoc]
    apply acceptChecked_bind
    intro got u _ _
    cases t <;> simp [Value.accepted, bind, Except.bind] at ht ⊢
  cases v with
  | scalar t v =>
    have hitems (ht : t ≠ .ptr) := hscalar t ht v
    cases t with
    | ptr =>
      rw [Value.acceptLike, bind_assoc]
      exact acceptPointerOn_typed s
    | _ =>
      rw [Value.acceptLike, bind_assoc]
      · exact hitems (by decide)
      · exact DataType.noConfusion
  | array t vs =>
    rw [Value.acceptLike, bind_assoc]
    exact acceptItemsOn_typed t vs.length [] s
  | string str =>
    rw [Value.acceptLike, bind_assoc]
    exact acceptStringOn_typed s
  | strings a =>
    rw [Value.acceptLike, bind_assoc]
    exact acceptStringsOn_typed s

/-! ### What is sent is accepted -/

/-- A `send_bytes` that never fails: all that was sent. -/
def onWire : SendBytes (List UInt8) := fun out wire => (0, wire ++ out)

theorem sendStringTo_onWire (str : Option (List UInt8)) (wire : List UInt8) :
    sendStringTo onWire p str wire = (0, wire ++ sendString p str) := by
  cases str with
  | none => rfl
  | some str =>
    by_cases hlength : asInt str.length = -1
    · simp [sendStringTo, sendLengthTo, sendScalarTo, onWire, sendString, sendInt, hlength]
    · simp [sendStringTo, sendLengthTo, sendScalarTo, onWire, sendString, sendInt, hlength]

theorem sendStringLoop_onWire (array : List (Option (List UInt8))) (wire : List UInt8) :
    sendStringLoop onWire p array wire = (0, wire ++ array.flatMap (sendString p)) := by
  induction array generalizing wire with
  | nil => simp [sendStringLoop]
  | cons str array ih =>
    have hsent : ¬(0 : ℤ) = -1 := by decide
    rw [sendStringLoop, sendStringTo_onWire, if_neg hsent, ih, List.flatMap_cons,
      List.append_assoc]

/-- The overload that sends a value. -/
def Value.sendArg : Value → SendArg
  | .scalar t v => .scalar t v
  | .array t vs => .array t vs
  | .string str => .string str
  | .strings a => .strings a

theorem send_onWire (v : Value) (wire : List UInt8) :
    send onWire p v.sendArg wire = (v.send p).map fun out => (0, wire ++ out) := by
  cases v with
  | scalar t v => rfl
  | array t vs => rfl
  | string str => exact congrArg some (sendStringTo_onWire str wire)
  | strings a =>
    have hsent : ¬(0 : ℤ) = -1 := by decide
    dsimp only [Value.sendArg, Value.send, send]
    unfold sendStringsTo sendStrings
    by_cases hlength : a.length < 2 ^ 31
    · have hloop := @sendStringLoop_onWire p a (wire ++ sendInt p a.length)
      rw [if_pos hlength, if_pos hlength, Option.map_some, ← List.append_assoc, ← hloop]
      exact congrArg some (if_neg hsent)
    · rw [if_neg hlength, if_neg hlength]
      rfl

/-- What was sent is accepted, whatever the fragments. -/
theorem accept_sent {v : Value} (htyped : v.Typed p) (hfits : v.Fits) {wire rest : List UInt8}
    (hsend : send onWire p v.sendArg [] = some (0, wire)) {s : Socket} (hs : s.Clean)
    (hpayload : s.payload = wire ++ rest) (buffer : List UInt8) :
    ∃ t, typedEnd (accept p buffer (v.acceptArg waits) ⟨false, s⟩) = .ok (v.accepted, t) ∧
      t.Clean ∧ t.payload = rest := by
  rw [send_onWire] at hsend
  obtain ⟨bytes, hbytes, hwire⟩ := Option.map_eq_some_iff.mp hsend
  obtain rfl := (Prod.mk.inj hwire).2
  obtain ⟨t, haccept, hclean, hrest⟩ := acceptLike_clean htyped hfits waits hbytes hs hpayload
  refine ⟨t, ?_, hclean, hrest⟩
  rw [accept_eq_acceptLike, haccept]
  rfl

end Ipc
