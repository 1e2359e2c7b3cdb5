import Ngdcs.Gps.Framing
import Ngdcs.Lib.Scan
import Mathlib.Data.List.GetD

/-! The parser against a scanner that sees the whole stream. The format of the messages is
stated here without the parser; the parser then follows the online scanner of that format,
except that it tests the checksum one word late. -/
namespace Gps
open Scan

def isMsgType (w : UInt16) : Bool := w == 3500 || w == 3501

/-- The length word of a message counts the words behind the header. -/
def lengthWord (ty : UInt16) : UInt16 := UInt16.ofNat (totalWords ty - 6)

/-- Whether word number `i` of a message fits the words in front of it: the magic number, the
type, the length, any flags but the magic number, the two's complement of the sum of these,
then any words up to the length of the type. -/
def fieldFits (w : ℕ → UInt16) : ℕ → Bool
  | 0 => w 0 == gpsMagicNumber
  | 1 => isMsgType (w 1)
  | 2 => w 2 == lengthWord (w 1)
  | 3 => w 3 != gpsMagicNumber
  | 4 => w 4 == -(w 0 + w 1 + w 2 + w 3)
  | i + 5 => decide (i + 5 < totalWords (w 1))

def wordAt (ws : List UInt16) (i : ℕ) : UInt16 := ws.getD i 0

/-- The words may be the beginning of a message. -/
def isMessageStart (ws : List UInt16) : Bool :=
  (List.range ws.length).all (fieldFits (wordAt ws))

def isMessage (ws : List UInt16) : Bool :=
  isMessageStart ws && ws.length == totalWords (wordAt ws 1)

theorem isMessageStart_iff {ws : List UInt16} :
    isMessageStart ws = true ↔ ∀ i < ws.length, fieldFits (wordAt ws) i = true := by
  simp [isMessageStart]

/-- A field depends only on the words up to it. -/
theorem fieldFits_congr {w w' : ℕ → UInt16} {i : ℕ} (h : ∀ j ≤ i, w j = w' j) :
    fieldFits w i = fieldFits w' i := by
  match i with
  | 0 => simp [fieldFits, h 0]
  | 1 => simp [fieldFits, h 1]
  | 2 => simp [fieldFits, h 1, h 2]
  | 3 => simp [fieldFits, h 3]
  | 4 => simp [fieldFits, h 0, h 1, h 2, h 3, h 4]
  | i + 5 => simp [fieldFits, h 1]

theorem wordAt_append {u : List UInt16} (v : List UInt16) {i : ℕ} (h : i < u.length) :
    wordAt (u ++ v) i = wordAt u i := List.getD_append u v 0 i h

theorem fieldFits_append {u : List UInt16} (v : List UInt16) {i : ℕ} (h : i < u.length) :
    fieldFits (wordAt (u ++ v)) i = fieldFits (wordAt u) i :=
  fieldFits_congr fun _ hj => wordAt_append v (lt_of_le_of_lt hj h)

theorem isMessageStart_left {u v : List UInt16} (h : isMessageStart (u ++ v) = true) :
    isMessageStart u = true :=
  isMessageStart_iff.mpr fun i hi => by
    rw [← fieldFits_append v hi]
    exact isMessageStart_iff.mp h i (by rw [List.length_append]; omega)

theorem isMessage_iff {m : List UInt16} :
    isMessage m = true ↔ isMessageStart m = true ∧ m.length = totalWords (wordAt m 1) := by
  simp [isMessage]

theorem isMessage_length {m : List UInt16} (h : isMessage m = true) : 22 ≤ m.length := by
  rw [(isMessage_iff.mp h).2]
  exact (totalWords_bounds _).1

/-- Behind the header only the length of the words matters. -/
theorem fieldFits_body {w : ℕ → UInt16} {i : ℕ} (h : 5 ≤ i) :
    fieldFits w i = true ↔ i < totalWords (w 1) := by
  obtain ⟨j, rfl⟩ := Nat.exists_eq_add_of_le' h
  simp [fieldFits]

theorem isMessage_maximal {m v : List UInt16} (hm : isMessage m = true)
    (hv : isMessageStart (m ++ v) = true) : v = [] := by
  by_contra hne
  have hlong := isMessage_length hm
  have hpos := List.length_pos_of_ne_nil hne
  have hfit := isMessageStart_iff.mp hv m.length (by rw [List.length_append]; omega)
  rw [fieldFits_body (by omega), wordAt_append v (by omega), (isMessage_iff.mp hm).2] at hfit
  omega

theorem isMessageStart_concat {b : List UInt16} (w : UInt16) (hb : isMessageStart b = true) :
    isMessageStart (b ++ [w]) = fieldFits (wordAt (b ++ [w])) b.length := by
  rw [Bool.eq_iff_iff, isMessageStart_iff]
  constructor
  · intro h
    exact h b.length (by simp)
  · intro h i hi
    rcases (by simp at hi; omega : i < b.length ∨ i = b.length) with hlt | rfl
    · rw [fieldFits_append _ hlt]
      exact isMessageStart_iff.mp hb i hlt
    · exact h

theorem isMessageStart_mismatch {b : List UInt16} {w : UInt16} (hb : isMessageStart b = true)
    (hopen : isMessage b = false) (h : isMessageStart (b ++ [w]) = false) : b.length < 5 := by
  by_contra hlong
  have hlast := isMessageStart_iff.mp hb (b.length - 1) (by omega)
  rw [isMessageStart_concat w hb, ← Bool.not_eq_true, fieldFits_body (by omega),
    wordAt_append _ (by omega)] at h
  have hfull : b.length ≠ totalWords (wordAt b 1) := fun he => by
    simp [isMessage, hb, he] at hopen
  by_cases hfive : b.length = 5
  · have := (totalWords_bounds (wordAt b 1)).1
    omega
  · rw [fieldFits_body (by omega)] at hlast
    omega

/-- The messages that the parser looks for. -/
def gpsFormat : MessageFormat UInt16 where
  viable := isMessageStart
  complete := isMessage
  viable_nil := rfl
  complete_nil := rfl
  viable_left := isMessageStart_left
  viable_of_complete h := (isMessage_iff.mp h).1
  complete_maximal := isMessage_maximal
  mismatch_early hb hopen h hm := by
    have hshort := isMessageStart_mismatch hb hopen h
    have hlong := isMessage_length hm
    omega

theorem resync_of_not_magic {w : UInt16} (ws : List UInt16) (h : w ≠ gpsMagicNumber) :
    gpsFormat.resync (w :: ws) = gpsFormat.resync ws := by
  have hno : isMessageStart (w :: ws) = false := by
    rw [← Bool.not_eq_true, isMessageStart_iff]
    exact fun hall => h (by simpa [fieldFits, wordAt] using hall 0 (by simp))
  rw [MessageFormat.resync]
  exact if_neg (by simp [gpsFormat, hno])

theorem resync_of_mismatch {w : UInt16} {ws : List UInt16} {i : ℕ} (hi : i < (w :: ws).length)
    (h : fieldFits (wordAt (w :: ws)) i = false) :
    gpsFormat.resync (w :: ws) = gpsFormat.resync ws := by
  have hno : isMessageStart (w :: ws) = false := by
    rw [← Bool.not_eq_true, isMessageStart_iff]
    exact fun hall => by simp [hall i hi] at h
  rw [MessageFormat.resync]
  exact if_neg (by simp [gpsFormat, hno])

/-- A single word is kept when it is the magic number. -/
theorem resync_singleton (w : UInt16) :
    gpsFormat.resync [w] = if w = gpsMagicNumber then [w] else [] := by
  split_ifs with hw
  · exact gpsFormat.resync_of_viable (by simp [gpsFormat, isMessageStart, fieldFits, wordAt, hw])
  · rw [resync_of_not_magic [] hw]
    rfl

/-- Words too few for a message are only kept as far as they may become one. -/
theorem next_of_short {b : List UInt16} (w : UInt16) (h : b.length < 21) :
    gpsFormat.next b w = (gpsFormat.resync (b ++ [w]), none) := by
  have hno : isMessage (b ++ [w]) = false := by
    rw [← Bool.not_eq_true]
    intro hm
    have := isMessage_length hm
    rw [List.length_append, List.length_singleton] at this
    omega
  rw [MessageFormat.next]
  exact if_neg (by simp [gpsFormat, hno])

namespace MsgParser

theorem buffered_length (p : MsgParser) : p.buffered.length = p.gpsMsgWordsBuffered := by
  simp [buffered]

theorem wordAt_buffered (p : MsgParser) {i : ℕ} (h : i < p.gpsMsgWordsBuffered) :
    wordAt p.buffered i = p.lastGPSMsg i := by
  simp [wordAt, buffered, h]

theorem buffered_store (p : MsgParser) (w : UInt16) :
    (p.store w).buffered = p.buffered ++ [w] := by
  rw [buffered, buffered]
  show (List.range (p.gpsMsgWordsBuffered + 1)).map (p.store w).lastGPSMsg = _
  rw [List.range_succ, List.map_append, List.map_singleton, store_at]
  congr 1
  exact List.map_congr_left fun i hi => p.store_of_ne w (List.mem_range.mp hi).ne

/-- The parser in step with the online scanner, which keeps the words `b`. In state 5 the
checksum in the buffer has not been looked at, so the scanner may already be further on. -/
structure Tracks (p : MsgParser) (b : List UInt16) : Prop where
  wellFormed : p.WellFormed
  fits : 1 ≤ p.gpsMsgParseState → ∀ i < p.gpsMsgWordsBuffered,
    i < 4 ∨ p.gpsMsgParseState = 6 → fieldFits p.lastGPSMsg i = true
  kept : b = if p.gpsMsgParseState = 0 then [] else gpsFormat.resync p.buffered

theorem tracks_initial : Tracks .initial [] where
  wellFormed := wellFormed_initial
  fits := by simp [initial]
  kept := rfl

theorem tracks_of_state_zero {p : MsgParser} (h : p.gpsMsgParseState = 0) : Tracks p [] where
  wellFormed := wellFormed_of_state_zero h
  fits := by simp [h]
  kept := by simp [h]

/-- Where the header is known to fit, the scanner keeps just the buffered words. -/
theorem Tracks.kept_eq_buffered {p : MsgParser} {b : List UInt16} (h : p.Tracks b)
    (hs : 1 ≤ p.gpsMsgParseState) (hs5 : p.gpsMsgParseState ≠ 5) : b = p.buffered := by
  rw [h.kept, if_neg (by omega)]
  apply gpsFormat.resync_of_viable
  apply isMessageStart_iff.mpr
  intro i hi
  rw [buffered_length] at hi
  have hle := h.wellFormed.state_le
  have hcount := h.wellFormed.header_count hs
  rw [fieldFits_congr fun j hj => p.wordAt_buffered (lt_of_le_of_lt hj hi)]
  exact h.fits hs i hi (by omega)

theorem lengthMatches_iff {ty w : UInt16} (hty : ty = 3500 ∨ ty = 3501) :
    lengthMatches ty w = true ↔ w = lengthWord ty := by
  rcases hty with rfl | rfl
  · simp [lengthMatches, show lengthWord 3500 = 16 from rfl]
  · simp [lengthMatches, show lengthWord 3501 = 22 from rfl]

theorem lengthWord_ne_magic {ty : UInt16} (hty : ty = 3500 ∨ ty = 3501) :
    lengthWord ty ≠ gpsMagicNumber := by
  rcases hty with rfl | rfl <;> decide

theorem msgType_ne_magic {ty : UInt16} (hty : ty = 3500 ∨ ty = 3501) :
    ty ≠ gpsMagicNumber := by
  rcases hty with rfl | rfl <;> decide

theorem expectedChecksum_eq (p : MsgParser) : p.expectedChecksum =
    -(p.lastGPSMsg 0 + p.lastGPSMsg 1 + p.lastGPSMsg 2 + p.lastGPSMsg 3) := by
  simp only [expectedChecksum, List.range_succ, List.range_zero, List.nil_append,
    List.foldl_append, List.foldl_cons, List.foldl_nil, UInt16.zero_add]
  exact UInt16.toBitVec_inj.mp (BitVec.neg_eq_not_add _).symm

/-- One more word in the buffer, with the scanner still looking at all of it. -/
theorem Tracks.store_header {p : MsgParser} {b : List UInt16} (h : p.Tracks b) {k : ℕ}
    (w : UInt16) (hs : p.gpsMsgParseState = k) (hk : 1 ≤ k) (hk4 : k ≤ 4)
    (hty : k = 1 → w = 3500 ∨ w = 3501)
    (hfit : k < 4 → fieldFits (p.store w).lastGPSMsg k = true) :
    Tracks ((p.store w).goto (k + 1)) (gpsFormat.next b w).1 ∧
      none = (gpsFormat.next b w).2 := by
  have hcount : p.gpsMsgWordsBuffered = k :=
    hs ▸ h.wellFormed.header_count (by omega) (by omega)
  have hb := h.kept_eq_buffered (by omega) (by omega)
  rw [next_of_short w (by rw [hb, buffered_length]; omega), hb, ← buffered_store]
  refine ⟨⟨h.wellFormed.store_header w hs hk hk4 hty, ?_, rfl⟩, rfl⟩
  intro _ i hi hi4
  change i < p.gpsMsgWordsBuffered + 1 at hi
  change i < 4 ∨ k + 1 = 6 at hi4
  by_cases hlast : i = k
  · rw [hlast]
    exact hfit (by omega)
  · rw [← h.fits (by omega) i (by omega) (by omega)]
    exact fieldFits_congr fun j hj => p.store_of_ne w (by omega)

/-- After a mismatch on the magic number only that word is kept. -/
theorem Tracks.restart {p : MsgParser} {b : List UInt16} (h : p.Tracks b)
    (hs : 1 ≤ p.gpsMsgParseState) : Tracks p.restart [gpsMagicNumber] := by
  have hmagic := h.wellFormed.magic hs
  have hbuf : p.restart.buffered = [gpsMagicNumber] := by
    simp [buffered, MsgParser.restart, hmagic]
  refine ⟨h.wellFormed.restart hs, ?_, ?_⟩
  · intro _ i hi _
    obtain rfl : i = 0 := by
      change i < 1 at hi
      omega
    simp [fieldFits, MsgParser.restart, hmagic]
  · rw [hbuf, resync_singleton, if_neg (by simp [MsgParser.restart]), if_pos rfl]

/-- The header words that state `k` has accepted, in front of the next word. -/
theorem Tracks.resync_header {p : MsgParser} {b : List UInt16} (h : p.Tracks b) {k : ℕ}
    (w : UInt16) (hs : p.gpsMsgParseState = k) (hk : 1 ≤ k) (hk3 : k ≤ 3)
    (hfit : fieldFits (p.store w).lastGPSMsg k = false) :
    gpsFormat.next b w = (if w = gpsMagicNumber then [w] else [], none) := by
  have hcount : p.gpsMsgWordsBuffered = k :=
    hs ▸ h.wellFormed.header_count (by omega) (by omega)
  have hb := h.kept_eq_buffered (by omega) (by omega)
  have hmis : fieldFits (wordAt (p.buffered ++ [w])) k = false := by
    rw [← hfit, ← buffered_store]
    refine fieldFits_congr fun j hj => wordAt_buffered _ ?_
    show j < p.gpsMsgWordsBuffered + 1
    omega
  rw [next_of_short w (by rw [hb, buffered_length]; omega), hb, ← resync_singleton]
  rcases (by omega : k = 1 ∨ k = 2 ∨ k = 3) with rfl | rfl | rfl
  · have hbuf : p.buffered = [p.lastGPSMsg 0] := by simp [buffered, hcount, List.range_succ]
    rw [hbuf] at hmis ⊢
    exact congrArg (·, none) (resync_of_mismatch (by simp) hmis)
  · have hbuf : p.buffered = [p.lastGPSMsg 0, p.lastGPSMsg 1] := by
      simp [buffered, hcount, List.range_succ]
    rw [hbuf] at hmis ⊢
    exact congrArg (·, none) ((resync_of_mismatch (by simp) hmis).trans
      (resync_of_not_magic _ (msgType_ne_magic (h.wellFormed.type (by omega)))))
  · have hbuf : p.buffered = [p.lastGPSMsg 0, p.lastGPSMsg 1, p.lastGPSMsg 2] := by
      simp [buffered, hcount, List.range_succ]
    have hty := h.wellFormed.type (by omega)
    have hlen : p.lastGPSMsg 2 = lengthWord (p.lastGPSMsg 1) := by
      simpa [fieldFits] using h.fits (by omega) 2 (by omega) (by omega)
    rw [hbuf] at hmis ⊢
    refine congrArg (·, none) ((resync_of_mismatch (by simp) hmis).trans ?_)
    exact (resync_of_not_magic _ (msgType_ne_magic hty)).trans
      (resync_of_not_magic _ (hlen ▸ lengthWord_ne_magic hty))

/-- The five words behind which the checksum is tested. -/
theorem Tracks.header_words {p : MsgParser} {b : List UInt16} (h : p.Tracks b)
    (hs : p.gpsMsgParseState = 5) :
    p.buffered = [p.lastGPSMsg 0, p.lastGPSMsg 1, p.lastGPSMsg 2, p.lastGPSMsg 3,
      p.lastGPSMsg 4] := by
  have hcount := h.wellFormed.header_count (by omega) (by omega)
  simp [buffered, hcount, hs, List.range_succ]

/-- With a valid checksum all five header words fit. -/
theorem Tracks.checksum_fits {p : MsgParser} {b : List UInt16} (h : p.Tracks b)
    (hs : p.gpsMsgParseState = 5) (hcs : p.expectedChecksum = p.lastGPSMsg 4) :
    ∀ i < 5, fieldFits p.lastGPSMsg i = true := by
  have hcount := h.wellFormed.header_count (by omega) (by omega)
  intro i hi
  rcases (by omega : i < 4 ∨ i = 4) with hlt | rfl
  · exact h.fits (by omega) i (by omega) (Or.inl hlt)
  · simp [fieldFits, ← hcs, expectedChecksum_eq]

theorem Tracks.checksum_kept {p : MsgParser} {b : List UInt16} (h : p.Tracks b)
    (hs : p.gpsMsgParseState = 5) (hcs : p.expectedChecksum = p.lastGPSMsg 4) :
    b = p.buffered := by
  have hcount := h.wellFormed.header_count (by omega) (by omega)
  rw [h.kept, if_neg (by omega)]
  apply gpsFormat.resync_of_viable
  apply isMessageStart_iff.mpr
  intro i hi
  rw [buffered_length] at hi
  rw [fieldFits_congr fun j hj => p.wordAt_buffered (lt_of_le_of_lt hj hi)]
  exact h.checksum_fits hs hcs i (by omega)

/-- A valid checksum: the scanner still looks at the whole header. -/
theorem Tracks.checksum_valid {p : MsgParser} {b : List UInt16} (h : p.Tracks b)
    (w : UInt16) (hs : p.gpsMsgParseState = 5) (hcs : p.expectedChecksum = p.lastGPSMsg 4) :
    Tracks ((p.store w).goto 6) (gpsFormat.next b w).1 ∧ none = (gpsFormat.next b w).2 := by
  have hcount : p.gpsMsgWordsBuffered = 5 :=
    hs ▸ h.wellFormed.header_count (by omega) (by omega)
  have htotal := (totalWords_bounds (p.lastGPSMsg 1)).1
  have hfit := h.checksum_fits hs hcs
  have hb := h.checksum_kept hs hcs
  rw [next_of_short w (by rw [hb, buffered_length]; omega), hb, ← buffered_store]
  refine ⟨⟨h.wellFormed.store_body w (by omega) (by omega), ?_, rfl⟩, rfl⟩
  intro _ i hi _
  change i < p.gpsMsgWordsBuffered + 1 at hi
  show fieldFits (p.store w).lastGPSMsg i = true
  rcases (by omega : i < 5 ∨ i = 5) with hlt | rfl
  · rw [← hfit i hlt]
    exact fieldFits_congr fun j hj => p.store_of_ne w (by omega)
  · rw [fieldFits_body le_rfl, p.store_of_ne w (by omega)]
    omega

/-- An invalid checksum: of the header only a magic number in the checksum's place stays. -/
theorem Tracks.checksum_invalid {p : MsgParser} {b : List UInt16} (h : p.Tracks b)
    (hs : p.gpsMsgParseState = 5) (hcs : p.expectedChecksum ≠ p.lastGPSMsg 4) :
    b = if p.lastGPSMsg 4 = gpsMagicNumber then [p.lastGPSMsg 4] else [] := by
  have hcount := h.wellFormed.header_count (by omega) (by omega)
  have hty := h.wellFormed.type (by omega)
  have hlen : p.lastGPSMsg 2 = lengthWord (p.lastGPSMsg 1) := by
    simpa [fieldFits] using h.fits (by omega) 2 (by omega) (by omega)
  have hflags : p.lastGPSMsg 3 ≠ gpsMagicNumber := by
    simpa [fieldFits] using h.fits (by omega) 3 (by omega) (by omega)
  have hmis : fieldFits (wordAt p.buffered) 4 = false := by
    rw [fieldFits_congr fun j hj => p.wordAt_buffered (by omega)]
    show (p.lastGPSMsg 4 == -(p.lastGPSMsg 0 + p.lastGPSMsg 1 + p.lastGPSMsg 2 +
      p.lastGPSMsg 3)) = false
    rw [← expectedChecksum_eq]
    exact beq_false_of_ne hcs.symm
  have hlong : 4 < p.buffered.length := by
    rw [buffered_length]
    omega
  rw [h.kept, if_neg (by omega), ← resync_singleton]
  rw [h.header_words hs] at hmis hlong ⊢
  calc gpsFormat.resync _
      = gpsFormat.resync [p.lastGPSMsg 1, p.lastGPSMsg 2, p.lastGPSMsg 3, p.lastGPSMsg 4] :=
        resync_of_mismatch hlong hmis
    _ = gpsFormat.resync [p.lastGPSMsg 2, p.lastGPSMsg 3, p.lastGPSMsg 4] :=
        resync_of_not_magic _ (msgType_ne_magic hty)
    _ = gpsFormat.resync [p.lastGPSMsg 3, p.lastGPSMsg 4] :=
        resync_of_not_magic _ (hlen ▸ lengthWord_ne_magic hty)
    _ = gpsFormat.resync [p.lastGPSMsg 4] := resync_of_not_magic _ hflags

/-- The word behind an invalid checksum. -/
theorem Tracks.parseWord_checksum {p : MsgParser} {b : List UInt16} (h : p.Tracks b)
    (prev w : UInt16) (hs : p.gpsMsgParseState = 5)
    (hcs : p.expectedChecksum ≠ p.lastGPSMsg 4) :
    Tracks (p.parseWord prev w).1 (gpsFormat.next b w).1 ∧
      (p.parseWord prev w).2 = (gpsFormat.next b w).2 := by
  have hb := h.checksum_invalid hs hcs
  have hwf := h.wellFormed.parseWord prev w
  unfold MsgParser.parseWord at hwf ⊢
  rw [hs] at hwf ⊢
  simp only [if_neg hcs] at hwf ⊢
  by_cases hmagic : p.lastGPSMsg 4 = gpsMagicNumber
  · rw [if_pos hmagic] at hb hwf ⊢
    rw [hb, hmagic, next_of_short w (by simp), List.singleton_append]
    by_cases hty : w = 3500 ∨ w = 3501
    · rw [if_pos hty] at hwf ⊢
      have hstart : isMessageStart [gpsMagicNumber, w] = true := by
        rcases hty with rfl | rfl <;> decide
      refine ⟨⟨hwf, ?_, ?_⟩, rfl⟩
      · intro _ i hi _
        have htwo : i = 0 ∨ i = 1 := by
          change i < 2 at hi
          omega
        rcases htwo with rfl | rfl
        · simp [fieldFits, h.wellFormed.magic (by omega)]
        · simpa [fieldFits, isMsgType] using hty
      · simp [buffered, List.range_succ, h.wellFormed.magic (by omega)]
    · have hmis : fieldFits (wordAt [gpsMagicNumber, w]) 1 = false := by
        simpa [fieldFits, wordAt, isMsgType, not_or] using hty
      rw [if_neg hty, resync_of_mismatch (by simp) hmis, resync_singleton]
      split_ifs with hw
      · rw [hw]
        exact ⟨h.restart (by omega), rfl⟩
      · exact ⟨tracks_of_state_zero rfl, rfl⟩
  · rw [if_neg hmagic] at hb ⊢
    rw [hb, next_of_short w (by simp), List.nil_append, resync_singleton]
    split_ifs with hw
    · rw [hw]
      exact ⟨h.restart (by omega), rfl⟩
    · exact ⟨tracks_of_state_zero rfl, rfl⟩

/-- A body word completes the message in the parser exactly when it does in the format. -/
theorem Tracks.parseWord_body {p : MsgParser} {b : List UInt16} (h : p.Tracks b)
    (prev w : UInt16) (hs : p.gpsMsgParseState = 6) :
    Tracks (p.parseWord prev w).1 (gpsFormat.next b w).1 ∧
      (p.parseWord prev w).2 = (gpsFormat.next b w).2 := by
  have hbody := h.wellFormed.body_count hs
  have hty := h.wellFormed.type (by omega)
  have hb := h.kept_eq_buffered (by omega) (by omega)
  have hone : (p.store w).lastGPSMsg 1 = p.lastGPSMsg 1 := p.store_of_ne w (by omega)
  have hcount : (p.store w).gpsMsgWordsBuffered = p.gpsMsgWordsBuffered + 1 := rfl
  have hfit : ∀ i < p.gpsMsgWordsBuffered + 1,
      fieldFits (p.store w).lastGPSMsg i = true := by
    intro i hi
    rcases (by omega : i < p.gpsMsgWordsBuffered ∨ i = p.gpsMsgWordsBuffered) with hlt | rfl
    · rw [← h.fits (by omega) i hlt (Or.inr hs)]
      exact fieldFits_congr fun j hj => p.store_of_ne w (by omega)
    · rw [fieldFits_body (by omega), hone]
      exact hbody.2
  have hstart : isMessageStart (p.store w).buffered = true := by
    apply isMessageStart_iff.mpr
    intro i hi
    rw [buffered_length] at hi
    rw [fieldFits_congr fun j hj => (p.store w).wordAt_buffered (lt_of_le_of_lt hj hi)]
    exact hfit i hi
  have hcomplete : gpsFormat.complete (p.store w).buffered = true ↔
      p.gpsMsgWordsBuffered + 1 = totalWords (p.lastGPSMsg 1) := by
    show isMessage (p.store w).buffered = true ↔ _
    rw [isMessage_iff, buffered_length, wordAt_buffered _ (by omega), hone, hcount]
    exact and_iff_right hstart
  rw [hb, MessageFormat.next, ← buffered_store]
  unfold MsgParser.parseWord
  rw [hs]
  simp only [hone, hcount]
  by_cases hfull : p.gpsMsgWordsBuffered + 1 = totalWords (p.lastGPSMsg 1)
  · rw [if_pos (hcomplete.mpr hfull)]
    rcases hty with hty | hty
    · rw [if_pos ⟨hty, by rw [hfull, hty]; rfl⟩]
      exact ⟨tracks_of_state_zero rfl, rfl⟩
    · rw [if_neg (by rw [hty]; simp), if_pos ⟨hty, by rw [hfull, hty]; rfl⟩]
      exact ⟨tracks_of_state_zero rfl, rfl⟩
  · rw [if_neg (fun hc => hfull (hcomplete.mp hc))]
    have hgoto : p.store w = (p.store w).goto 6 := by simp [store, goto, hs]
    have htracks : Tracks (p.store w) (gpsFormat.resync (p.store w).buffered) := by
      refine ⟨?_, fun _ i hi _ => hfit i hi, ?_⟩
      · rw [hgoto]
        exact h.wellFormed.store_body w (by omega) (by omega)
      · rw [if_neg]
        show ¬p.gpsMsgParseState = 0
        omega
    have hno (n : ℕ) (ty : UInt16) (hn : totalWords ty = n) :
        ¬(p.lastGPSMsg 1 = ty ∧ p.gpsMsgWordsBuffered + 1 = n) := by
      rintro ⟨rfl, he⟩
      exact hfull (he.trans hn.symm)
    rw [if_neg (hno gpsMsg3500Words 3500 rfl), if_neg (hno gpsMsg3501Words 3501 rfl)]
    exact ⟨htracks, rfl⟩

/-- A magic number in state 0 starts a header. -/
theorem tracks_first (p : MsgParser) {w : UInt16} (hw : w = gpsMagicNumber) :
    Tracks (({ p with gpsMsgWordsBuffered := 0 }.store w).goto 1) [w] := by
  have hbuf : (({ p with gpsMsgWordsBuffered := 0 }.store w).goto 1).buffered = [w] := by
    simp [buffered, store, goto]
  refine ⟨?_, ?_, ?_⟩
  · constructor <;> simp [store, goto, hw]
  · intro _ i hi _
    obtain rfl : i = 0 := by
      change i < 1 at hi
      omega
    simp [fieldFits, store, goto, hw]
  · rw [hbuf, resync_singleton, if_pos hw]
    rfl

theorem Tracks.stored_word {p : MsgParser} {b : List UInt16} (h : p.Tracks b) {k : ℕ}
    (w : UInt16) (hs : p.gpsMsgParseState = k) (hk : 1 ≤ k) (hk5 : k ≤ 5) :
    (p.store w).lastGPSMsg k = w := by
  have hcount : p.gpsMsgWordsBuffered = k :=
    hs ▸ h.wellFormed.header_count (by omega) (by omega)
  rw [← hcount, store_at]

/-- The parser follows the online scanner as long as state 2 looks at the type word. -/
theorem Tracks.parseWord {p : MsgParser} {b : List UInt16} (h : p.Tracks b)
    {prev w : UInt16} (hprev : p.gpsMsgParseState = 2 → prev = p.lastGPSMsg 1) :
    Tracks (p.parseWord prev w).1 (gpsFormat.next b w).1 ∧
      (p.parseWord prev w).2 = (gpsFormat.next b w).2 := by
  have hle := h.wellFormed.state_le
  unfold MsgParser.parseWord
  split
  next hs =>
    have hb : b = [] := by rw [h.kept, if_pos hs]
    rw [hb, next_of_short w (by simp), List.nil_append, resync_singleton]
    split_ifs with hw
    · exact ⟨tracks_first p hw, rfl⟩
    · exact ⟨tracks_of_state_zero hs, rfl⟩
  next hs =>
    have hword := h.stored_word w hs (by omega) (by omega)
    split_ifs with hty hw
    · refine h.store_header w hs (by omega) (by omega) (fun _ => hty) fun _ => ?_
      simpa [fieldFits, hword, isMsgType] using hty
    · rw [h.resync_header w hs (by omega) (by omega) (by
        simpa [fieldFits, hword, isMsgType, not_or] using hty), if_pos hw]
      have hbuf : p.buffered = [w] := by
        simp [buffered, h.wellFormed.header_count (by omega) (by omega), hs,
          h.wellFormed.magic (by omega), hw]
      rw [← hbuf, ← h.kept_eq_buffered (by omega) (by omega)]
      exact ⟨h, rfl⟩
    · rw [h.resync_header w hs (by omega) (by omega) (by
        simpa [fieldFits, hword, isMsgType, not_or] using hty), if_neg hw]
      exact ⟨tracks_of_state_zero rfl, rfl⟩
  next hs =>
    have hty := h.wellFormed.type (by omega)
    have hword := h.stored_word w hs (by omega) (by omega)
    have hcount := h.wellFormed.header_count (by omega) (by omega)
    have hone : (p.store w).lastGPSMsg 1 = p.lastGPSMsg 1 := p.store_of_ne w (by omega)
    split_ifs with hw hlen
    · have hmis : fieldFits (p.store w).lastGPSMsg 2 = false := by
        simp only [fieldFits, hword, hone]
        simpa [hw] using (lengthWord_ne_magic hty).symm
      rw [h.resync_header w hs (by omega) (by omega) hmis, if_pos hw, hw]
      exact ⟨h.restart (by omega), rfl⟩
    · rw [hprev hs, lengthMatches_iff hty] at hlen
      refine h.store_header w hs (by omega) (by omega) (by omega) fun _ => ?_
      simpa [fieldFits, hword, hone] using hlen
    · rw [hprev hs, lengthMatches_iff hty] at hlen
      rw [h.resync_header w hs (by omega) (by omega) (by
        simpa [fieldFits, hword, hone] using hlen), if_neg hw]
      exact ⟨tracks_of_state_zero rfl, rfl⟩
  next hs =>
    have hword := h.stored_word w hs (by omega) (by omega)
    split_ifs with hw
    · have hmis : fieldFits (p.store w).lastGPSMsg 3 = false := by
        simp only [fieldFits, hword]
        simp [hw]
      rw [h.resync_header w hs (by omega) (by omega) hmis, if_pos hw, hw]
      exact ⟨h.restart (by omega), rfl⟩
    · refine h.store_header w hs (by omega) (by omega) (by omega) fun _ => ?_
      simpa [fieldFits, hword] using hw
  next hs => exact h.store_header w hs (by omega) (by omega) (by omega) (by omega)
  next hs =>
    by_cases hcs : p.expectedChecksum = p.lastGPSMsg 4
    · rw [if_pos hcs]
      exact h.checksum_valid w hs hcs
    · have hstep := h.parseWord_checksum prev w hs hcs
      unfold MsgParser.parseWord at hstep
      rw [hs] at hstep
      exact hstep
  next hs =>
    have hstep := h.parseWord_body prev w hs
    unfold MsgParser.parseWord at hstep
    rw [hs] at hstep
    exact hstep
  next h0 h1 h2 h3 h4 h5 h6 =>
    simp only [imp_false] at *
    omega

/-- State 2 is entered with the type word, which is then word 1 of the buffer. -/
theorem WellFormed.type_stored {p : MsgParser} (h : p.WellFormed) (prev w : UInt16)
    (hs : (p.parseWord prev w).1.gpsMsgParseState = 2) :
    (p.parseWord prev w).1.lastGPSMsg 1 = w := by
  unfold MsgParser.parseWord at hs ⊢
  split at hs
  next hs' => split_ifs at hs <;> simp_all [goto]
  next hs' =>
    have hcount := h.header_count (by omega) (by omega)
    split_ifs at hs with hty hw
    · rw [if_pos hty]
      show (p.store w).lastGPSMsg 1 = w
      rw [← hs', ← hcount, store_at]
    · simp [hs'] at hs
    · simp [goto] at hs
  next hs' => split_ifs at hs <;> simp [goto, MsgParser.restart] at hs
  next hs' => split_ifs at hs <;> simp [goto, MsgParser.restart] at hs
  next hs' => simp [goto] at hs
  next hs' =>
    split_ifs at hs with hcs hmagic hty
    · simp [goto] at hs
    · rw [if_neg hcs, if_pos hmagic, if_pos hty]
      simp
    all_goals simp [goto, MsgParser.restart] at hs
  next hs' =>
    simp only at hs
    split_ifs at hs <;> simp [goto, store, hs'] at hs
  next => simp [goto] at hs

end MsgParser

/-- In a feed that continues after the word `last`, every word behind a type word has that
word in front of it in its image. -/
def FaithfulFrom (last : Option UInt16) : List (UInt16 × UInt16) → Prop
  | [] => True
  | (prev, w) :: us =>
    (∀ t, last = some t → isMsgType t = true → prev = t) ∧ FaithfulFrom (some w) us

theorem MsgParser.Tracks.parse {p : MsgParser} {b : List UInt16} {last : Option UInt16}
    {us : List (UInt16 × UInt16)} (h : p.Tracks b)
    (hlast : p.gpsMsgParseState = 2 → last = some (p.lastGPSMsg 1))
    (hfaithful : FaithfulFrom last us) :
    (p.parse us).1.Tracks (gpsFormat.pending b (us.map Prod.snd)) ∧
      (p.parse us).2 = gpsFormat.emitted b (us.map Prod.snd) := by
  induction us generalizing p b last with
  | nil => exact ⟨h, rfl⟩
  | cons u us ih =>
    obtain ⟨prev, w⟩ := u
    obtain ⟨hprev, hrest⟩ := hfaithful
    have hstep := h.parseWord (w := w) fun hs =>
      hprev _ (hlast hs) (by simpa [isMsgType] using h.wellFormed.type (by omega))
    have hnext := ih hstep.1
      (fun hs => congrArg some (h.wellFormed.type_stored prev w hs).symm) hrest
    exact ⟨hnext.1, congrArg₂ (· ++ ·) (congrArg Option.toList hstep.2) hnext.2⟩

/-- No frame boundary falls between a type word and the word behind it: where the GPS words
of a frame end in a type word, no further words follow. -/
def Unsplit : List (ℕ → UInt16) → Prop
  | [] => True
  | image :: frames =>
    (∀ u, (frameFeed image).getLast? = some u → isMsgType u.2 = true → gpsStream frames = []) ∧
      Unsplit frames

def lastWord (last : Option UInt16) : List (UInt16 × UInt16) → Option UInt16
  | [] => last
  | u :: us => lastWord (some u.2) us

theorem lastWord_of_getLast {last : Option UInt16} {us : List (UInt16 × UInt16)}
    {u : UInt16 × UInt16} (h : us.getLast? = some u) : lastWord last us = some u.2 := by
  induction us generalizing last with
  | nil => simp at h
  | cons v us ih =>
    cases us with
    | nil =>
      obtain rfl : v = u := by simpa using h
      rfl
    | cons v' us =>
      have htail : (v' :: us).getLast? = some u := by simpa using h
      rw [lastWord]
      exact ih htail

theorem faithfulFrom_append {last : Option UInt16} {us ws : List (UInt16 × UInt16)} :
    FaithfulFrom last (us ++ ws) ↔
      FaithfulFrom last us ∧ FaithfulFrom (lastWord last us) ws := by
  induction us generalizing last with
  | nil => simp [FaithfulFrom, lastWord]
  | cons u us ih => simp only [List.cons_append, FaithfulFrom, lastWord, ih, and_assoc]

/-- Inside a frame the word in front is always the previous word of the stream. -/
theorem faithfulFrom_areaFeed {last : Option UInt16} {image : ℕ → UInt16} {usp n : ℕ}
    (h : n ≠ 0 → ∀ t, last = some t → isMsgType t = true → image usp = t) :
    FaithfulFrom last (areaFeed image usp n) := by
  induction n generalizing usp last with
  | zero => trivial
  | succ n ih =>
    rw [areaFeed_succ]
    exact ⟨h (by omega), ih fun _ t ht _ => Option.some.inj ht⟩

theorem faithfulFrom_frameFeed {last : Option UInt16} {image : ℕ → UInt16}
    (h : frameFeed image ≠ [] → ∀ t, last = some t → isMsgType t ≠ true) :
    FaithfulFrom last (frameFeed image) := by
  unfold frameFeed at h ⊢
  simp only at h ⊢
  split_ifs at h ⊢ with hdead
  · trivial
  · refine faithfulFrom_areaFeed fun hn t ht hty => absurd hty (h ?_ t ht)
    simpa [areaFeed] using hn

theorem gpsStream_cons (image : ℕ → UInt16) (frames : List (ℕ → UInt16)) :
    gpsStream (image :: frames) = (frameFeed image).map Prod.snd ++ gpsStream frames := by
  simp [gpsStream, feed]

theorem Unsplit.faithful {frames : List (ℕ → UInt16)} (h : Unsplit frames)
    {last : Option UInt16}
    (hlast : ∀ t, last = some t → isMsgType t = true → gpsStream frames = []) :
    FaithfulFrom last (feed frames) := by
  induction frames generalizing last with
  | nil => trivial
  | cons image frames ih =>
    obtain ⟨hend, hrest⟩ := h
    rw [feed, List.flatMap_cons, faithfulFrom_append]
    refine ⟨faithfulFrom_frameFeed fun hne t ht hty => hne ?_, ih hrest ?_⟩
    · have hnil := hlast t ht hty
      rw [gpsStream_cons, List.append_eq_nil_iff] at hnil
      exact List.map_eq_nil_iff.mp hnil.1
    · intro t ht hty
      rcases hl : (frameFeed image).getLast? with _ | u
      · rw [List.getLast?_eq_none_iff.mp hl] at ht
        have hnil := hlast t ht hty
        rw [gpsStream_cons, List.append_eq_nil_iff] at hnil
        exact hnil.2
      · rw [lastWord_of_getLast hl] at ht
        exact hend u hl (Option.some.inj ht ▸ hty)

/-- The message at the end of the stream that the parser has recognised by its header but
not yet completed. -/
def unfinishedMessage (p : MsgParser) : List UInt16 :=
  if p.gpsMsgParseState = 6 then p.buffered else []

theorem MsgParser.Tracks.scan_kept {p : MsgParser} {b : List UInt16} (h : p.Tracks b) :
    gpsFormat.scan b = gpsFormat.scan (unfinishedMessage p) := by
  unfold unfinishedMessage
  split_ifs with hs
  · rw [← h.kept_eq_buffered (by omega) (by omega)]
  · have hle := h.wellFormed.state_le
    have hcount := h.wellFormed.header_count
    have hshort : b.length ≤ 5 := by
      rw [h.kept]
      split_ifs with hzero
      · simp
      · have hsuffix := (gpsFormat.resync_suffix p.buffered).length_le
        rw [buffered_length] at hsuffix
        omega
    refine (gpsFormat.scan_eq_nil_of_short ?_).trans gpsFormat.scan_nil.symm
    intro m hm
    have hlong := isMessage_length hm
    omega

theorem processFrames_tracks (env : GpsEnv) {frames : List (ℕ → UInt16)} (h : Unsplit frames) :
    (GpsMonitor.initial.processFrames env frames).parser.Tracks
        (gpsFormat.pending [] (gpsStream frames)) ∧
      (GpsMonitor.initial.processFrames env frames).messages =
        gpsFormat.emitted [] (gpsStream frames) := by
  obtain ⟨hparser, hmessages⟩ := processFrames_parses env .initial frames
  have hfaithful : FaithfulFrom none (feed frames) := h.faithful (by simp)
  have htracks := MsgParser.tracks_initial.parse (by simp [MsgParser.initial]) hfaithful
  rw [hparser, hmessages]
  exact ⟨htracks.1, by rw [GpsMonitor.initial, List.nil_append]; exact htracks.2⟩

/-- Two cuts of one stream give the same messages if neither has a boundary behind a type
word. -/
theorem messages_eq_of_unsplit (env : GpsEnv) {fs₁ fs₂ : List (ℕ → UInt16)} (h₁ : Unsplit fs₁)
    (h₂ : Unsplit fs₂) (hstream : gpsStream fs₁ = gpsStream fs₂) :
    (GpsMonitor.initial.processFrames env fs₁).messages =
      (GpsMonitor.initial.processFrames env fs₂).messages := by
  rw [(processFrames_tracks env h₁).2, (processFrames_tracks env h₂).2, hstream]

/-- Where no frame boundary follows a type word, the messages completed are the leftmost
messages of the stream, up to those inside a last message that is still unfinished: the
parser stays with a message whose header it has accepted. -/
theorem messages_eq_scan (env : GpsEnv) (frames : List (ℕ → UInt16)) (h : Unsplit frames) :
    gpsFormat.scan (gpsStream frames) =
        (GpsMonitor.initial.processFrames env frames).messages ++ gpsFormat.scan
          (unfinishedMessage (GpsMonitor.initial.processFrames env frames).parser) ∧
      ((GpsMonitor.initial.processFrames env frames).parser.gpsMsgParseState ≠ 6 →
        (GpsMonitor.initial.processFrames env frames).messages =
          gpsFormat.scan (gpsStream frames)) ∧
      ((GpsMonitor.initial.processFrames env frames).parser.gpsMsgParseState = 6 →
        unfinishedMessage (GpsMonitor.initial.processFrames env frames).parser <:+
            gpsStream frames ∧
          gpsFormat.Unfinished
            (unfinishedMessage (GpsMonitor.initial.processFrames env frames).parser) ∧
          5 < (unfinishedMessage
            (GpsMonitor.initial.processFrames env frames).parser).length) := by
  obtain ⟨htracks, hmessages⟩ := processFrames_tracks env h
  have hscan : gpsFormat.scan (gpsStream frames) = _ :=
    (MessageFormat.unfinished_nil gpsFormat).scan_append (gpsStream frames)
  rw [← hmessages, htracks.scan_kept] at hscan
  refine ⟨hscan, ?_, ?_⟩
  · intro hs
    rw [hscan, unfinishedMessage, if_neg hs, MessageFormat.scan_nil, List.append_nil]
  · intro hs
    have hkept := htracks.kept_eq_buffered (by omega) (by omega)
    rw [unfinishedMessage, if_pos hs, ← hkept]
    refine ⟨gpsFormat.pending_suffix [] _, (gpsFormat.unfinished_nil).pending _, ?_⟩
    rw [hkept, MsgParser.buffered_length]
    exact (htracks.wellFormed.body_count hs).1

/-- A false start, then the sample message. -/
theorem messages_eq_scan_after_false_start :
    gpsFormat.scan (gpsStream [gpsFrame ([0x81ff, 3501, 0x81ff] ++ sample3500)]) =
      (GpsMonitor.initial.processFrames sampleEnv
        [gpsFrame ([0x81ff, 3501, 0x81ff] ++ sample3500)]).messages :=
  ((messages_eq_scan sampleEnv [gpsFrame ([0x81ff, 3501, 0x81ff] ++ sample3500)]
    ⟨fun _ _ _ => rfl, trivial⟩).2.1 (by decide +kernel)).symm

/-- The header of a 3501 message and, in the place of its body, a whole 3500 message. -/
def nestedMessage : List UInt16 := [0x81ff, 3501, 22, 0x8000, 0xf03e] ++ sample3500

/-- The scanner finds the inner message of an outer one that the stream does not finish; the
parser is still waiting for the end of the outer one. -/
theorem unfinished_message_hides_inner :
    Unsplit [gpsFrame nestedMessage] ∧
      gpsFormat.scan (gpsStream [gpsFrame nestedMessage]) = [sample3500] ∧
      (GpsMonitor.initial.processFrames sampleEnv [gpsFrame nestedMessage]).messages = [] :=
  ⟨⟨fun _ _ _ => rfl, trivial⟩, by decide +kernel⟩

end Gps
