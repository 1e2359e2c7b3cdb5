import Ngdcs.Gps.Scanner
import Ngdcs.Gps.Simulator.Queue

/-! The parser on simulated messages. It follows the scanner through the frames, unless a
frame begins behind a type word. -/
namespace Gps
open Backlog Scan

/-! ### The words of a message -/

/-- The two halves of 32 bits put together again. -/
theorem halves_append (b : BitVec 32) :
    ((b &&& 0xffff#32).setWidth 16).setWidth 32 |||
      (((b.sshiftRight 16).setWidth 16).setWidth 32) <<< 16 = b := by
  apply BitVec.eq_of_getLsbD_eq
  intro i hi
  have hmask : (0xffff#32).getLsbD i = decide (i < 16) := by
    revert i
    decide
  by_cases hlow : i < 16
  · simp [hmask, hlow, hi]
  · have hhigh : 16 ≤ i := Nat.le_of_not_lt hlow
    simp [hlow, hi, BitVec.getLsbD_sshiftRight, hhigh]
    grind

theorem intAt_eq {msg : List UInt16} {i : ℕ} {x : Int32}
    (h : [msg.getD i 0, msg.getD (i + 1) 0] = intWords x) : intAt msg i = x := by
  have hshift : (x >>> 16).toBitVec = x.toBitVec.sshiftRight 16 := by simp
  have hhalves := halves_append x.toBitVec
  rw [← hshift] at hhalves
  rw [intWords, List.cons.injEq, List.cons.injEq] at h
  rw [intAt, h.1, h.2.1]
  exact Int32.toBitVec_inj.mp hhalves

/-- `add3501` gets back what the simulator encoded. -/
theorem add3501_words (fix : NavFix) : add3501 (SimMessage.m3501 fix).words = fix := by
  unfold add3501
  congr <;> exact intAt_eq rfl

/-- Behind the header only the length matters. -/
theorem isMessage_of_header {m : List UInt16} (hlength : m.length = totalWords (wordAt m 1))
    (hheader : ∀ i < 5, fieldFits (wordAt m) i = true) : isMessage m = true := by
  apply isMessage_iff.mpr
  refine ⟨?_, hlength⟩
  apply isMessageStart_iff.mpr
  intro i hi
  by_cases hbody : 5 ≤ i
  · exact (fieldFits_body hbody).mpr (hlength ▸ hi)
  · exact hheader i (Nat.lt_of_not_le hbody)

/-- The header of a simulated message is the same whatever it says. -/
theorem wordAt_header (m : SimMessage) {i : ℕ} (hi : i < 5) : wordAt m.words i =
    wordAt (match m with
      | .m3500 _ _ => simHeader 3500 gpsMsg3500Words
      | .m3501 _ => simHeader 3501 gpsMsg3501Words) i := by
  cases m with
  | m3500 gpsMode systemStatus =>
    rw [SimMessage.words, List.append_assoc, List.append_assoc]
    exact wordAt_append _ hi
  | m3501 fix =>
    rw [SimMessage.words, List.append_assoc, List.append_assoc]
    exact wordAt_append _ hi

theorem isMessage_words (m : SimMessage) : isMessage m.words = true := by
  apply isMessage_of_header
  · cases m <;> rfl
  · intro i hi
    rw [fieldFits_congr fun j hj => wordAt_header m (lt_of_le_of_lt hj hi)]
    cases m with
    | m3500 gpsMode systemStatus =>
      exact (by decide : ∀ i < 5,
        fieldFits (wordAt (simHeader 3500 gpsMsg3500Words)) i = true) i hi
    | m3501 fix =>
      exact (by decide : ∀ i < 5,
        fieldFits (wordAt (simHeader 3501 gpsMsg3501Words)) i = true) i hi

/-! ### The parser -/

namespace MsgParser

/-- Through the words of one frame the parser follows the scanner, as long as it does not
begin in state 2. -/
theorem Tracks.parse_area {p : MsgParser} {b : List UInt16} (h : p.Tracks b)
    {image : ℕ → UInt16} {usp n : ℕ}
    (hprev : n ≠ 0 → p.gpsMsgParseState = 2 → image usp = p.lastGPSMsg 1) :
    (p.parse (areaFeed image usp n)).1.Tracks
        (gpsFormat.pending b ((areaFeed image usp n).map Prod.snd)) ∧
      (p.parse (areaFeed image usp n)).2 =
        gpsFormat.emitted b ((areaFeed image usp n).map Prod.snd) := by
  induction n generalizing p b usp with
  | zero => exact ⟨h, rfl⟩
  | succ n ih =>
    obtain ⟨htracks, hword⟩ := h.parseWord (w := image (usp + 1)) (hprev (Nat.succ_ne_zero n))
    obtain ⟨hrest, hwords⟩ := ih htracks fun _ hs =>
      (h.wellFormed.type_stored (image usp) (image (usp + 1)) hs).symm
    rw [areaFeed_succ]
    exact ⟨hrest, congrArg₂ (· ++ ·) (congrArg Option.toList hword) hwords⟩

/-- State 2 is the one in which the scanner keeps two words. -/
theorem Tracks.state_two_iff {p : MsgParser} {b : List UInt16} (h : p.Tracks b) :
    p.gpsMsgParseState = 2 ↔ b.length = 2 := by
  have hle := h.wellFormed.state_le
  have hheader := h.wellFormed.header_count
  constructor
  · intro hs
    rw [h.kept_eq_buffered (by omega) (by omega), buffered_length,
      hheader (by omega) (by omega), hs]
  · intro hb
    have hpos : p.gpsMsgParseState ≠ 0 := by
      intro hs
      rw [h.kept, if_pos hs] at hb
      cases hb
    have hfive : p.gpsMsgParseState ≠ 5 := by
      intro hs
      by_cases hcs : p.expectedChecksum = p.lastGPSMsg 4
      · have hstart := h.checksum_kept hs hcs
        rw [hstart, buffered_length, hheader (by omega) (by omega)] at hb
        omega
      · rw [h.checksum_invalid hs hcs] at hb
        split_ifs at hb
        cases hb
    rw [h.kept_eq_buffered (by omega) hfive, buffered_length] at hb
    by_cases hsix : p.gpsMsgParseState = 6
    · have := (h.wellFormed.body_count hsix).1
      omega
    · rw [← hb, hheader (by omega) (by omega)]

/-- Too few words for a message complete none. -/
theorem emitted_of_short {ws : List UInt16} (h : ws.length < 22) :
    gpsFormat.emitted [] ws = [] := by
  have hscan : gpsFormat.scan ws = [] := by
    apply gpsFormat.scan_eq_nil_of_short
    intro m hm
    exact lt_of_lt_of_le h (isMessage_length hm)
  have hsplit : gpsFormat.scan ws = _ := (MessageFormat.unfinished_nil gpsFormat).scan_append ws
  rw [hscan] at hsplit
  exact (List.append_eq_nil_iff.mp hsplit.symm).1

/-- Without a magic number no message begins. -/
theorem pending_of_not_magic {ws : List UInt16} (h : gpsMagicNumber ∉ ws) :
    gpsFormat.pending [] ws = [] := by
  induction ws with
  | nil => rfl
  | cons w ws ih =>
    have hw : w ≠ gpsMagicNumber := fun he => h (he ▸ List.mem_cons_self)
    have hnext : gpsFormat.next [] w = ([], none) := by
      rw [next_of_short w (by decide), List.nil_append, resync_singleton, if_neg hw]
    rw [MessageFormat.pending, hnext]
    exact ih fun hmem => h (List.mem_cons_of_mem w hmem)

/-- Behind the first two words of a message the parser needs the type word in front of the
next word. It gives the message up, and goes on with the words behind that one. -/
theorem Tracks.parse_lost {p : MsgParser} {b : List UInt16} (h : p.Tracks b)
    (hb : b.length = 2) {image : ℕ → UInt16} {usp n : ℕ} (htype : isMsgType (image usp) = false)
    (hmagic : image (usp + 1) ≠ gpsMagicNumber) :
    (p.parse (areaFeed image usp (n + 1))).1.Tracks
        (gpsFormat.pending [] ((areaFeed image (usp + 1) n).map Prod.snd)) ∧
      (p.parse (areaFeed image usp (n + 1))).2 =
        gpsFormat.emitted [] ((areaFeed image (usp + 1) n).map Prod.snd) := by
  have hs : p.gpsMsgParseState = 2 := h.state_two_iff.mpr hb
  have hno : lengthMatches (image usp) (image (usp + 1)) = false := by
    rw [isMsgType, Bool.or_eq_false_iff] at htype
    rw [lengthMatches, htype.1, htype.2]
    rfl
  have hword : p.parseWord (image usp) (image (usp + 1)) = (p.goto 0, none) := by
    unfold MsgParser.parseWord
    rw [hs]
    simp [hmagic, hno]
  rw [areaFeed_succ, MsgParser.parse, hword]
  exact Tracks.parse_area (tracks_of_state_zero rfl) fun _ hs => by cases hs

end MsgParser

/-! ### What the parser does with the messages -/

/-- The colour for the status word of a 3500 message. -/
def validColor (systemStatus : UInt16) : Color :=
  if systemStatus &&& 0x1 ≠ 0 then .green else .red

def is3500 (msg : List UInt16) : Bool := msg.getD 1 0 == 3500

/-- Every 3501 message goes to `add3501`, and the colours are those of the last 3500. -/
structure Shows (g : GpsMonitor) : Prop where
  skip : g.gps3501skip = 0
  added : g.added3501 = g.messages.filter fun msg => !is3500 msg
  status : ∀ msg, (g.messages.filter is3500).getLast? = some msg →
    g.airNavCheckColor = GpsMonitor.airNavColor (msg.getD 9 0) ∧
      g.gpsValidCheckColor = validColor (msg.getD 10 0)

namespace Shows

variable {g : GpsMonitor} {env : GpsEnv}

theorem initial : Shows .initial where
  skip := rfl
  added := rfl
  status := fun _ h => by cases h

theorem handleMessage (h : Shows g) (hskip : env.currentNavDurationSkip = 0)
    (msg : List UInt16) : Shows (g.handleMessage env msg) := by
  have hzero := h.skip
  unfold GpsMonitor.handleMessage
  by_cases htype : msg.getD 1 0 = 3500
  · have his : is3500 msg = true := beq_iff_eq.mpr htype
    simp only [if_pos htype]
    constructor
    · exact hzero
    · simpa [GpsMonitor.handle3500, List.filter_append, his] using h.added
    · intro last hlast
      rw [GpsMonitor.handle3500, List.filter_append, List.filter_singleton, his] at hlast
      obtain rfl : msg = last := by simpa using hlast
      exact ⟨rfl, rfl⟩
  · have his : is3500 msg = false := beq_eq_false_iff_ne.mpr htype
    simp only [if_neg htype, GpsMonitor.handle3501]
    rw [if_pos hzero.le]
    constructor
    · exact hskip
    · simp [List.filter_append, his, h.added]
    · intro last hlast
      apply h.status last
      simpa [List.filter_append, his] using hlast

theorem processWord (h : Shows g) (hskip : env.currentNavDurationSkip = 0)
    (prev w : UInt16) : Shows (g.processWord env prev w) := by
  unfold GpsMonitor.processWord
  have hparser (p : MsgParser) : Shows { g with parser := p } := ⟨h.skip, h.added, h.status⟩
  obtain ⟨p, _ | msg⟩ := g.parser.parseWord prev w
  · exact hparser p
  · exact (hparser p).handleMessage hskip msg

theorem wordLoop (h : Shows g) (hskip : env.currentNavDurationSkip = 0) (image : ℕ → UInt16)
    (n usp : ℕ) : Shows (GpsMonitor.wordLoop env image n usp g) := by
  induction n generalizing usp g with
  | zero => exact h
  | succ n ih => exact ih (h.processWord hskip _ _) (usp + 1)

/-- A frame with GPS data in it -/
theorem processImageGPSData (h : Shows g) (hskip : env.currentNavDurationSkip = 0)
    {image : ℕ → UInt16} (hvalid : image (gpsImageOffset / 2) ≠ gpsNoData) :
    Shows (g.processImageGPSData env image) := by
  unfold GpsMonitor.processImageGPSData
  simp only []
  rw [if_neg hvalid]
  apply wordLoop _ hskip
  exact ⟨h.skip, h.added, h.status⟩

end Shows

end Gps
