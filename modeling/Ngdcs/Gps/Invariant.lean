import Ngdcs.Gps.Framing

/-! The invariant of the GPS parser: where it stores, how far it counts and how it leaves
state 6. -/
namespace Gps

/-- `GPS_MSG_MAX_WORDS`, the length of `lastGPSMsg`. -/
def gpsMsgMaxWords : ℕ := 123

namespace MsgParser

/-- The place in `lastGPSMsg` at which `*usp` is stored, if it is. -/
def storeIndex (p : MsgParser) (prev w : UInt16) : Option ℕ :=
  match p.gpsMsgParseState with
  | 0 => if w = gpsMagicNumber then some 0 else none
  | 1 => if w = 3500 ∨ w = 3501 then some p.gpsMsgWordsBuffered else none
  | 2 =>
    if w = gpsMagicNumber then none
    else if lengthMatches prev w then some p.gpsMsgWordsBuffered else none
  | 3 => if w = gpsMagicNumber then none else some p.gpsMsgWordsBuffered
  | 4 => some p.gpsMsgWordsBuffered
  | 5 =>
    if p.expectedChecksum = p.lastGPSMsg 4 then some p.gpsMsgWordsBuffered
    else if p.lastGPSMsg 4 = gpsMagicNumber ∧ (w = 3500 ∨ w = 3501) then some 1 else none
  | 6 => some p.gpsMsgWordsBuffered
  | _ => none

/-- `lastGPSMsg` with the word stored at this place. -/
def storedAt (p : MsgParser) (w : UInt16) : Option ℕ → ℕ → UInt16
  | none => p.lastGPSMsg
  | some k => Function.update p.lastGPSMsg k w

theorem parseWord_lastGPSMsg (p : MsgParser) (prev w : UInt16) :
    (p.parseWord prev w).1.lastGPSMsg = p.storedAt w (p.storeIndex prev w) := by
  have hindex := storeIndex.eq_1 p prev w
  unfold parseWord
  split
  case h_7 hs =>
    rw [hs] at hindex
    simp only [hindex, storedAt]
    split_ifs <;> rfl
  case h_8 => simp_all [goto, storedAt]
  all_goals
    next hs =>
      rw [hs] at hindex
      rw [hindex]
      split_ifs <;> simp_all [store, goto, MsgParser.restart, storedAt]

/-- The count never passes the length of the longest message, and in state 6 it is short of
the length that belongs to the type word. -/
structure Bounded (p : MsgParser) : Prop extends p.WellFormed where
  count_le : p.gpsMsgWordsBuffered ≤ gpsMsg3501Words

theorem bounded_initial : Bounded .initial :=
  ⟨wellFormed_initial, Nat.zero_le _⟩

theorem WellFormed.count_lt {p : MsgParser} (h : p.WellFormed) (hs : 1 ≤ p.gpsMsgParseState) :
    p.gpsMsgWordsBuffered < gpsMsg3501Words := by
  have hle := h.state_le
  have htotal := (totalWords_bounds (p.lastGPSMsg 1)).2
  have hbody := h.body_count
  have hheader := h.header_count hs
  unfold gpsMsg3501Words
  omega

theorem Bounded.parseWord_count {p : MsgParser} (h : p.Bounded) (prev w : UInt16) :
    (p.parseWord prev w).1.gpsMsgWordsBuffered ≤ gpsMsg3501Words := by
  have hle := h.count_le
  have hlt := h.count_lt
  have hwords : 2 ≤ gpsMsg3501Words := by decide
  unfold MsgParser.parseWord
  split <;> (try simp only) <;> (try split_ifs) <;>
    simp only [store, goto, MsgParser.restart] <;> omega

theorem Bounded.parseWord {p : MsgParser} (h : p.Bounded) (prev w : UInt16) :
    (p.parseWord prev w).1.Bounded :=
  ⟨h.toWellFormed.parseWord prev w, h.parseWord_count prev w⟩

theorem Bounded.parse {p : MsgParser} (h : p.Bounded) (ws : List (UInt16 × UInt16)) :
    (p.parse ws).1.Bounded := by
  induction ws generalizing p with
  | nil => exact h
  | cons u ws ih => exact ih (h.parseWord _ _)

theorem Bounded.storeIndex_lt {p : MsgParser} (h : p.Bounded) {prev w : UInt16} {k : ℕ}
    (hk : p.storeIndex prev w = some k) : k < gpsMsgMaxWords := by
  have hle := h.count_le
  have hwords : gpsMsg3501Words = 28 := rfl
  have hmax : gpsMsgMaxWords = 123 := rfl
  unfold storeIndex at hk
  split at hk <;> (try split_ifs at hk) <;> cases hk <;> omega

/-- One word in state 6: the message goes on until its length is reached. -/
theorem WellFormed.body_word {p : MsgParser} (h : p.WellFormed) (hs : p.gpsMsgParseState = 6)
    (prev w : UInt16) :
    (p.parseWord prev w).1.gpsMsgWordsBuffered = p.gpsMsgWordsBuffered + 1 ∧
      (p.parseWord prev w).1.lastGPSMsg 1 = p.lastGPSMsg 1 ∧
      (p.parseWord prev w).1.gpsMsgParseState =
        if p.gpsMsgWordsBuffered + 1 = totalWords (p.lastGPSMsg 1) then 0 else 6 := by
  have hbody := h.body_count hs
  have hone : (p.store w).lastGPSMsg 1 = p.lastGPSMsg 1 := p.store_of_ne w (by omega)
  have hcount : (p.store w).gpsMsgWordsBuffered = p.gpsMsgWordsBuffered + 1 := rfl
  have hstate : (p.store w).gpsMsgParseState = 6 := hs
  have hne : (3500 : UInt16) ≠ 3501 := by decide
  unfold MsgParser.parseWord
  rw [hs]
  simp only [hone, hcount]
  rcases h.type (by omega) with hty | hty
  · simp only [hty, hne, totalWords_3500, true_and, false_and, if_false]
    split_ifs <;> simp_all [goto]
  · simp only [hty, hne.symm, totalWords_3501, true_and, false_and, if_false]
    split_ifs <;> simp_all [goto]

/-- From state 6, any words that follow complete the message when there are enough of them. -/
theorem WellFormed.body_words {p : MsgParser} (h : p.WellFormed) (hs : p.gpsMsgParseState = 6)
    (ws : List (UInt16 × UInt16))
    (hws : p.gpsMsgWordsBuffered + ws.length ≤ totalWords (p.lastGPSMsg 1)) :
    (p.parse ws).1.gpsMsgWordsBuffered = p.gpsMsgWordsBuffered + ws.length ∧
      (p.parse ws).1.gpsMsgParseState =
        if p.gpsMsgWordsBuffered + ws.length = totalWords (p.lastGPSMsg 1) then 0 else 6 := by
  induction ws generalizing p with
  | nil =>
    have hbody := (h.body_count hs).2
    rw [MsgParser.parse, List.length_nil, Nat.add_zero, if_neg (by omega)]
    exact ⟨rfl, hs⟩
  | cons u ws ih =>
    obtain ⟨hcount, hone, hstate⟩ := h.body_word hs u.1 u.2
    rw [List.length_cons] at hws ⊢
    cases ws with
    | nil => exact ⟨by simpa [MsgParser.parse] using hcount,
        by simpa [MsgParser.parse] using hstate⟩
    | cons v ws =>
      rw [List.length_cons] at hws
      rw [if_neg (by omega)] at hstate
      have hnext := ih (h.parseWord u.1 u.2) hstate (by rw [hcount, hone, List.length_cons]; omega)
      rw [hcount, hone] at hnext
      obtain ⟨hc, hst⟩ := hnext
      have hsum : p.gpsMsgWordsBuffered + 1 + (v :: ws).length =
          p.gpsMsgWordsBuffered + ((v :: ws).length + 1) := by omega
      exact ⟨hc.trans hsum, hsum ▸ hst⟩

/-- What the word `w` does to the parser `p`: the invariant holds on both sides of it, it is
stored inside `lastGPSMsg`, and a message ends exactly when its length is reached. -/
structure SoundWord (p : MsgParser) (prev w : UInt16) : Prop where
  before : p.Bounded
  after : (p.parseWord prev w).1.Bounded
  stored : (p.parseWord prev w).1.lastGPSMsg = p.storedAt w (p.storeIndex prev w)
  store_lt : ∀ k ∈ p.storeIndex prev w, k < gpsMsgMaxWords
  leaves : p.gpsMsgParseState = 6 →
    ((p.parseWord prev w).1.gpsMsgParseState = 0 ↔
      (p.parseWord prev w).1.gpsMsgWordsBuffered =
        totalWords ((p.parseWord prev w).1.lastGPSMsg 1)) ∧
    ((p.parseWord prev w).1.gpsMsgParseState ≠ 0 → (p.parseWord prev w).1.gpsMsgParseState = 6)
  returns : p.gpsMsgParseState = 6 → ∀ ws : List (UInt16 × UInt16),
    p.gpsMsgWordsBuffered + ws.length = totalWords (p.lastGPSMsg 1) →
      (p.parse ws).1.gpsMsgParseState = 0

theorem Bounded.soundWord {p : MsgParser} (h : p.Bounded) (prev w : UInt16) :
    p.SoundWord prev w where
  before := h
  after := h.parseWord prev w
  stored := p.parseWord_lastGPSMsg prev w
  store_lt _ hk := h.storeIndex_lt hk
  leaves hs := by
    obtain ⟨hcount, hone, hstate⟩ := h.body_word hs prev w
    rw [hcount, hone, hstate]
    split_ifs with htotal <;> simp [htotal]
  returns hs ws hws := by
    have hend := (h.body_words hs ws hws.le).2
    rwa [if_pos hws] at hend

end MsgParser

/-- Every word of every sequence of frames meets the invariant and leaves it intact, and so
do the frames as a whole. -/
theorem parser_invariant (env : GpsEnv) (frames : List (ℕ → UInt16))
    (before after : List (UInt16 × UInt16)) (prev w : UInt16)
    (hfeed : feed frames = before ++ (prev, w) :: after) :
    (MsgParser.initial.parse before).1.SoundWord prev w ∧
      (GpsMonitor.initial.processFrames env frames).parser =
        (((MsgParser.initial.parse before).1.parseWord prev w).1.parse after).1 ∧
      (GpsMonitor.initial.processFrames env frames).parser.Bounded := by
  have hp := MsgParser.bounded_initial.parse before
  have hend : (GpsMonitor.initial.processFrames env frames).parser =
      (((MsgParser.initial.parse before).1.parseWord prev w).1.parse after).1 := by
    rw [(processFrames_parses env _ frames).1, hfeed, MsgParser.parse_append]
    rfl
  exact ⟨hp.soundWord prev w, hend, hend ▸ (hp.parseWord prev w).parse after⟩

theorem parser_invariant_in_sample3500 :
    (MsgParser.initial.parse ((feed wholeCut).take 6)).1.SoundWord 1 2 ∧
      (GpsMonitor.initial.processFrames sampleEnv wholeCut).parser =
        (((MsgParser.initial.parse ((feed wholeCut).take 6)).1.parseWord 1 2).1.parse
          ((feed wholeCut).drop 7)).1 ∧
      (GpsMonitor.initial.processFrames sampleEnv wholeCut).parser.Bounded :=
  parser_invariant sampleEnv wholeCut ((feed wholeCut).take 6) ((feed wholeCut).drop 7) 1 2
    (by decide +kernel)

end Gps
