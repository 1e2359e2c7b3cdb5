import Ngdcs.Ftp.Connection
import Ngdcs.Ipc.Terminated

/-! The lines of the control connection are the terminated strings of the channel. -/
namespace Ftp

open CStrings Ipc Socket

/-- What the caller of the loop over the bytes of a line gets. -/
def lineOf (r : LineEnd × List UInt8 × Socket) : Option (List UInt8) × Socket :=
  match r.1 with
  | .found len tooLong => (if tooLong then none else some (r.2.1.take (len - 2)), r.2.2)
  | .failed => (none, r.2.2)
  | .blocked => (none, r.2.2)

variable {stale got : List UInt8}

theorem endsLine_iff (got rest : List UInt8) :
    (2 ≤ got.length ∧ got.drop (got.length - 2) = [13, 10]) ↔
      2 ≤ got.length ∧ endsWith [13, 10] (got ++ rest) got.length := by
  have hends := @endsWith_iff [13, 10] got rest
  rw [decide_eq_true_iff, List.suffix_iff_eq_drop] at hends
  constructor
  · rintro ⟨-, hdrop⟩
    exact hends.mpr hdrop.symm
  · intro h
    exact ⟨h.1, (hends.mp h).symm⟩

/-- One turn of the loop, whether or not the byte fits. -/
theorem lineOf_turn {fuel : ℕ} (tooLong : Bool) (t : Socket)
    (ih : acceptLineLoop fuel got tooLong t = lineOf (termLoop (endsWith [13, 10]) 2 false fuel
      (got ++ stale.drop got.length) got.length tooLong t)) :
    (if 2 ≤ got.length ∧ got.drop (got.length - 2) = [13, 10] then
        (if tooLong then none else some (got.take (got.length - 2)), t)
      else acceptLineLoop fuel got tooLong t) =
    lineOf (if 2 ≤ got.length ∧ endsWith [13, 10] (got ++ stale.drop got.length) got.length then
        (.found got.length tooLong, got ++ stale.drop got.length, t)
      else termLoop (endsWith [13, 10]) 2 false fuel (got ++ stale.drop got.length) got.length
        tooLong t) := by
  have hiff := endsLine_iff got (stale.drop got.length)
  by_cases hend : 2 ≤ got.length ∧ got.drop (got.length - 2) = [13, 10]
  · rw [if_pos hend, if_pos (hiff.mp hend)]
    dsimp only [lineOf]
    rw [List.take_append_of_le_length (Nat.sub_le _ _)]
  · rw [if_neg hend, if_neg (hiff.not.mp hend)]
    exact ih

/-- The loop over the bytes of a line leaves out what stands in the buffer from before. -/
theorem acceptLineLoop_eq (hstale : stale.length = termBufferSize)
    (hlength : got.length ≤ termBufferSize - 1) (fuel : ℕ) (tooLong : Bool) (s : Socket) :
    acceptLineLoop fuel got tooLong s = lineOf (termLoop (endsWith [13, 10]) 2 false fuel
      (got ++ stale.drop got.length) got.length tooLong s) := by
  induction fuel generalizing got tooLong s with
  | zero => rfl
  | succ fuel ih =>
    rw [acceptLineLoop, termLoop]
    rcases hread : acceptBytes 1 true false s with ⟨outcome, t⟩
    cases outcome with
    | failed => rfl
    | blocked => rfl
    | bytes bs =>
      have hone : bs.length = 1 := by
        simpa using acceptLoop_length hread
      obtain ⟨b, rfl⟩ := List.length_eq_one_iff.mp hone
      by_cases hroom : got.length < 1024 - 1
      · have hroom' : got.length < termBufferSize - 1 := hroom
        have hnext := lineOf_turn tooLong t (ih ((length_concat got b).trans_le hroom') tooLong t)
        rw [length_concat] at hnext
        simp only [hroom, hroom', decide_true, if_true, List.headD_cons, Bool.not_true,
          Bool.or_false, set_stale hstale hroom', length_concat]
        exact hnext
      · have hfull : ¬got.length < termBufferSize - 1 := hroom
        simp only [hroom, hfull, decide_false, if_false, Bool.not_false, Bool.or_true]
        exact lineOf_turn true t (ih hlength true t)

/-- A line of the control connection is a string that ends with CR LF. -/
theorem acceptLine_eq {buffer : List UInt8} (hbuffer : buffer.length = termBufferSize)
    (s : Socket) : acceptLine s = match acceptTerm [13, 10] false buffer s with
      | (.returned line, _, t) => (some line, t)
      | (_, _, t) => (none, t) := by
  have hloop := @acceptLineLoop_eq buffer [] hbuffer (Nat.zero_le _) (s.payload.length + 1) false s
  rw [List.nil_append, List.length_nil, List.drop_zero] at hloop
  rw [acceptLine, hloop, acceptTerm]
  dsimp only [List.length_cons, List.length_nil, Nat.zero_add, Nat.reduceAdd]
  rcases termLoop (endsWith [13, 10]) 2 false (s.payload.length + 1) buffer 0 false s
    with ⟨ends, b, t⟩
  cases ends with
  | failed => rfl
  | blocked => rfl
  | found len tooLong =>
    cases tooLong with
    | true => rfl
    | false =>
      have hstring := takeWhile_set_nul b (len - 2)
      simp only [lineOf, hstring, Bool.false_eq_true, if_false, Option.map_some]

/-- The first line of what arrives is accepted, if it fits the buffer. -/
theorem acceptLine_first {s : Socket} {i : ℕ} (hfirst : FirstAt [13, 10] (delivered false s) i)
    (hfits : i + 2 ≤ termBufferSize - 1) (hnul : 0 ∉ (delivered false s).take i) :
    ∃ t, acceptLine s = (some ((delivered false s).take i), t) ∧
      delivered false t = (delivered false s).drop (i + 2) := by
  have hbuffer : (List.replicate termBufferSize (0 : UInt8)).length = termBufferSize :=
    List.length_replicate
  obtain ⟨b, t, haccept, hrest, -⟩ :=
    acceptTerm_found hbuffer (List.cons_ne_nil _ _) hfirst hfits hnul
  rw [acceptLine_eq hbuffer, haccept]
  exact ⟨t, rfl, hrest⟩

end Ftp
