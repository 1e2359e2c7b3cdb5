import Ngdcs.Gps.Parser
import Mathlib.Tactic.Common

/-! How the cutting of the GPS stream into frames shows in the parser. Only state 2 looks at
the word in front, which at the start of a frame is the word count. -/
namespace Gps

/-- The words of a message of this type. -/
def totalWords (ty : UInt16) : ℕ := if ty = 3500 then gpsMsg3500Words else gpsMsg3501Words

@[simp] theorem totalWords_3500 : totalWords 3500 = gpsMsg3500Words := rfl

@[simp] theorem totalWords_3501 : totalWords 3501 = gpsMsg3501Words := rfl

theorem totalWords_bounds (ty : UInt16) : 22 ≤ totalWords ty ∧ totalWords ty ≤ 28 := by
  unfold totalWords gpsMsg3500Words gpsMsg3501Words
  split_ifs <;> omega

namespace MsgParser

/-- What every parser state reached satisfies, whatever the frames were. -/
structure WellFormed (p : MsgParser) : Prop where
  state_le : p.gpsMsgParseState ≤ 6
  header_count : 1 ≤ p.gpsMsgParseState → p.gpsMsgParseState ≤ 5 →
    p.gpsMsgWordsBuffered = p.gpsMsgParseState
  body_count : p.gpsMsgParseState = 6 →
    6 ≤ p.gpsMsgWordsBuffered ∧ p.gpsMsgWordsBuffered < totalWords (p.lastGPSMsg 1)
  magic : 1 ≤ p.gpsMsgParseState → p.lastGPSMsg 0 = gpsMagicNumber
  type : 2 ≤ p.gpsMsgParseState → p.lastGPSMsg 1 = 3500 ∨ p.lastGPSMsg 1 = 3501

theorem wellFormed_initial : WellFormed .initial := by
  constructor <;> simp [initial]

theorem wellFormed_of_state_zero {p : MsgParser} (h : p.gpsMsgParseState = 0) :
    p.WellFormed := by
  constructor <;> simp [h]

theorem WellFormed.restart {p : MsgParser} (h : p.WellFormed) (hs : 1 ≤ p.gpsMsgParseState) :
    p.restart.WellFormed := by
  constructor <;> simp [MsgParser.restart, h.magic hs]

theorem store_of_ne (p : MsgParser) (w : UInt16) {i : ℕ} (h : i ≠ p.gpsMsgWordsBuffered) :
    (p.store w).lastGPSMsg i = p.lastGPSMsg i := by
  simp [store, h]

theorem store_at (p : MsgParser) (w : UInt16) :
    (p.store w).lastGPSMsg p.gpsMsgWordsBuffered = w := by
  simp [store]

/-- Storing one more header word. -/
theorem WellFormed.store_header {p : MsgParser} (h : p.WellFormed) {k : ℕ} (w : UInt16)
    (hs : p.gpsMsgParseState = k) (hk : 1 ≤ k) (hk4 : k ≤ 4)
    (hty : k = 1 → w = 3500 ∨ w = 3501) : ((p.store w).goto (k + 1)).WellFormed := by
  have hcount : p.gpsMsgWordsBuffered = k := hs ▸ h.header_count (by omega) (by omega)
  have hmagic : (p.store w).lastGPSMsg 0 = gpsMagicNumber := by
    rw [p.store_of_ne w (by omega)]
    exact h.magic (by omega)
  have htype : (p.store w).lastGPSMsg 1 = 3500 ∨ (p.store w).lastGPSMsg 1 = 3501 := by
    by_cases hone : k = 1
    · have hat := p.store_at w
      rw [hcount, hone] at hat
      rw [hat]
      exact hty hone
    · rw [p.store_of_ne w (by omega)]
      exact h.type (by omega)
  exact {
    state_le := by show k + 1 ≤ 6; omega
    header_count := fun _ _ => by show p.gpsMsgWordsBuffered + 1 = k + 1; omega
    body_count := fun hsix => by change k + 1 = 6 at hsix; omega
    magic := fun _ => hmagic
    type := fun _ => htype }

/-- Storing a body word that leaves the message unfinished. -/
theorem WellFormed.store_body {p : MsgParser} (h : p.WellFormed) (w : UInt16)
    (hs : 5 ≤ p.gpsMsgParseState)
    (hlt : p.gpsMsgWordsBuffered + 1 < totalWords (p.lastGPSMsg 1)) :
    ((p.store w).goto 6).WellFormed := by
  have hcount : 5 ≤ p.gpsMsgWordsBuffered := by
    rcases (by have := h.state_le; omega : p.gpsMsgParseState = 5 ∨ p.gpsMsgParseState = 6) with
      hfive | hsix
    · rw [h.header_count (by omega) (by omega)]
      omega
    · exact (by omega : 5 ≤ 6).trans (h.body_count hsix).1
  have hone : (p.store w).lastGPSMsg 1 = p.lastGPSMsg 1 := p.store_of_ne w (by omega)
  exact {
    state_le := le_rfl
    header_count := fun _ hle => by change 6 ≤ 5 at hle; omega
    body_count := fun _ => by
      show 6 ≤ p.gpsMsgWordsBuffered + 1 ∧
        p.gpsMsgWordsBuffered + 1 < totalWords ((p.store w).lastGPSMsg 1)
      rw [hone]
      exact ⟨by omega, hlt⟩
    magic := fun _ => (p.store_of_ne w (by omega)).trans (h.magic (by omega))
    type := fun _ => hone ▸ h.type (by omega) }

theorem WellFormed.parseWord {p : MsgParser} (h : p.WellFormed) (prev w : UInt16) :
    (p.parseWord prev w).1.WellFormed := by
  have hle := h.state_le
  unfold MsgParser.parseWord
  split
  next hs =>
    split_ifs with hw
    · constructor <;> simp [store, goto, hw]
    · exact h
  next hs =>
    split_ifs with hty hmagic
    · exact h.store_header w hs (by omega) (by omega) fun _ => hty
    · exact h
    · exact wellFormed_of_state_zero rfl
  next hs =>
    split_ifs
    · exact h.restart (by omega)
    · exact h.store_header w hs (by omega) (by omega) (by omega)
    · exact wellFormed_of_state_zero rfl
  next hs =>
    split_ifs
    · exact h.restart (by omega)
    · exact h.store_header w hs (by omega) (by omega) (by omega)
  next hs => exact h.store_header w hs (by omega) (by omega) (by omega)
  next hs =>
    have hcount := h.header_count (by omega) (by omega)
    have htotal := totalWords_bounds (p.lastGPSMsg 1)
    split_ifs with hcs hmagic hty
    · exact h.store_body w (by omega) (by omega)
    · constructor <;> simp [hty, h.magic (by omega)]
    · exact h.restart (by omega)
    · exact wellFormed_of_state_zero rfl
    · exact h.restart (by omega)
    · exact wellFormed_of_state_zero rfl
  next hs =>
    have hbody := h.body_count hs
    have hone : (p.store w).lastGPSMsg 1 = p.lastGPSMsg 1 := p.store_of_ne w (by omega)
    have hcount : (p.store w).gpsMsgWordsBuffered = p.gpsMsgWordsBuffered + 1 := rfl
    have hstore : p.store w = (p.store w).goto 6 := by simp [store, goto, hs]
    simp only
    split_ifs with h3500 h3501
    · exact wellFormed_of_state_zero rfl
    · exact wellFormed_of_state_zero rfl
    · rw [hstore]
      apply h.store_body w (by omega)
      rw [hone, hcount] at h3500 h3501
      rcases h.type (by omega) with hty | hty
      · simp only [hty, totalWords_3500, true_and] at *
        omega
      · simp only [hty, totalWords_3501, true_and] at *
        omega
  next => exact wellFormed_of_state_zero rfl

/-- Parsers that agree on everything but the unused part of `lastGPSMsg`. -/
structure Same (p q : MsgParser) : Prop where
  state : p.gpsMsgParseState = q.gpsMsgParseState
  count : p.gpsMsgWordsBuffered = q.gpsMsgWordsBuffered
  words : ∀ i < p.gpsMsgWordsBuffered, p.lastGPSMsg i = q.lastGPSMsg i

theorem Same.refl (p : MsgParser) : Same p p := ⟨rfl, rfl, fun _ _ => rfl⟩

theorem Same.goto {p q : MsgParser} (h : Same p q) (k : ℕ) : Same (p.goto k) (q.goto k) :=
  ⟨rfl, h.count, h.words⟩

theorem Same.store {p q : MsgParser} (h : Same p q) (w : UInt16) :
    Same (p.store w) (q.store w) := by
  refine ⟨h.state, congrArg (· + 1) h.count, ?_⟩
  intro i hi
  by_cases hlast : i = p.gpsMsgWordsBuffered
  · rw [hlast, store_at, h.count, store_at]
  · have hlt : i < p.gpsMsgWordsBuffered := by
      change i < p.gpsMsgWordsBuffered + 1 at hi
      omega
    rw [p.store_of_ne w hlast, q.store_of_ne w (h.count ▸ hlast), h.words i hlt]

theorem Same.restart {p q : MsgParser} (h : Same p q) (hp : 1 ≤ p.gpsMsgWordsBuffered) :
    Same p.restart q.restart :=
  ⟨rfl, rfl, fun i hi => h.words i (lt_of_lt_of_le hi hp)⟩

theorem Same.buffered {p q : MsgParser} (h : Same p q) : p.buffered = q.buffered := by
  rw [MsgParser.buffered, MsgParser.buffered, ← h.count]
  exact List.map_congr_left fun i hi => h.words i (List.mem_range.mp hi)

theorem Same.expectedChecksum {p q : MsgParser} (h : Same p q)
    (hp : 4 ≤ p.gpsMsgWordsBuffered) : p.expectedChecksum = q.expectedChecksum := by
  simp [MsgParser.expectedChecksum, List.range_succ, h.words 0 (by omega),
    h.words 1 (by omega), h.words 2 (by omega), h.words 3 (by omega)]

/-- A word has the same effect on both parsers, unless they stand in state 2 and the words in
front of it give different verdicts on it. -/
theorem Same.parseWord {p q : MsgParser} (h : Same p q) (hp : p.WellFormed)
    {prev prev' w : UInt16}
    (hprev : p.gpsMsgParseState = 2 → lengthMatches prev w = lengthMatches prev' w) :
    Same (p.parseWord prev w).1 (q.parseWord prev' w).1 ∧
      (p.parseWord prev w).2 = (q.parseWord prev' w).2 := by
  have hstate := h.state
  have hle := hp.state_le
  unfold MsgParser.parseWord
  rw [← hstate]
  split
  next hs =>
    have hempty : Same { p with gpsMsgWordsBuffered := 0 } { q with gpsMsgWordsBuffered := 0 } :=
      ⟨hstate, rfl, fun i hi => absurd hi (Nat.not_lt_zero i)⟩
    split_ifs
    · exact ⟨(hempty.store w).goto 1, rfl⟩
    · exact ⟨h, rfl⟩
  next hs =>
    split_ifs
    · exact ⟨(h.store w).goto 2, rfl⟩
    · exact ⟨h, rfl⟩
    · exact ⟨h.goto 0, rfl⟩
  next hs =>
    have hcount := hp.header_count (by omega) (by omega)
    split_ifs with _ hlen hlen' hlen'
    · exact ⟨h.restart (by omega), rfl⟩
    · exact ⟨(h.store w).goto 3, rfl⟩
    · exact absurd (hprev hs ▸ hlen) hlen'
    · exact absurd (hprev hs ▸ hlen') hlen
    · exact ⟨h.goto 0, rfl⟩
  next hs =>
    have hcount := hp.header_count (by omega) (by omega)
    split_ifs
    · exact ⟨h.restart (by omega), rfl⟩
    · exact ⟨(h.store w).goto 4, rfl⟩
  next hs => exact ⟨(h.store w).goto 5, rfl⟩
  next hs =>
    have hcount := hp.header_count (by omega) (by omega)
    rw [← h.expectedChecksum (by omega), ← h.words 4 (by omega)]
    split_ifs
    · exact ⟨(h.store w).goto 6, rfl⟩
    · refine ⟨⟨rfl, rfl, ?_⟩, rfl⟩
      intro i hi
      have hi2 : i = 0 ∨ i = 1 := by
        change i < 2 at hi
        omega
      rcases hi2 with rfl | rfl
      · simp [h.words 0 (by omega)]
      · simp
    · exact ⟨h.restart (by omega), rfl⟩
    · exact ⟨h.goto 0, rfl⟩
    · exact ⟨h.restart (by omega), rfl⟩
    · exact ⟨h.goto 0, rfl⟩
  next hs =>
    have hbody := hp.body_count hs
    have hstore := h.store w
    have hone : (p.store w).lastGPSMsg 1 = (q.store w).lastGPSMsg 1 := by
      apply hstore.words
      show 1 < p.gpsMsgWordsBuffered + 1
      omega
    simp only [hone, hstore.count, hstore.buffered]
    split_ifs
    · exact ⟨hstore.goto 0, rfl⟩
    · exact ⟨hstore.goto 0, rfl⟩
    · exact ⟨hstore, rfl⟩
  next => exact ⟨h.goto 0, rfl⟩

/-- Different verdicts on a length word leave the parsers in different states. -/
theorem parseWord_differs {p q : MsgParser} {prev prev' w : UInt16}
    (hp : p.gpsMsgParseState = 2) (hq : q.gpsMsgParseState = 2)
    (hne : lengthMatches prev w ≠ lengthMatches prev' w) :
    (p.parseWord prev w).1.gpsMsgParseState ≠ (q.parseWord prev' w).1.gpsMsgParseState := by
  have hmagic : w ≠ gpsMagicNumber := by
    rintro rfl
    simp [lengthMatches, gpsMagicNumber] at hne
  unfold parseWord
  rw [hp, hq]
  simp only [if_neg hmagic]
  split_ifs with hlen hlen' hlen'
  · exact absurd (hlen.trans hlen'.symm) hne
  · simp [goto]
  · simp [goto]
  · rw [Bool.not_eq_true] at hlen hlen'
    exact absurd (hlen.trans hlen'.symm) hne

theorem parse_append (p : MsgParser) (us ws : List (UInt16 × UInt16)) :
    p.parse (us ++ ws) =
      (((p.parse us).1.parse ws).1, (p.parse us).2 ++ ((p.parse us).1.parse ws).2) := by
  induction us generalizing p with
  | nil => rfl
  | cons u us ih => simp [parse, ih]

theorem parse_concat (p : MsgParser) (us : List (UInt16 × UInt16)) (prev w : UInt16) :
    p.parse (us ++ [(prev, w)]) = (((p.parse us).1.parseWord prev w).1,
      (p.parse us).2 ++ ((p.parse us).1.parseWord prev w).2.toList) := by
  rw [parse_append]
  simp [parse]

theorem WellFormed.parse {p : MsgParser} (h : p.WellFormed) (ws : List (UInt16 × UInt16)) :
    (p.parse ws).1.WellFormed := by
  induction ws generalizing p with
  | nil => exact h
  | cons u us ih => exact ih (h.parseWord _ _)

end MsgParser

section Feed

variable (env : GpsEnv)

theorem processWord_parse (g : GpsMonitor) (prev w : UInt16) :
    (g.processWord env prev w).parser = (g.parser.parseWord prev w).1 ∧
    (g.processWord env prev w).messages =
      g.messages ++ (g.parser.parseWord prev w).2.toList := by
  unfold GpsMonitor.processWord
  obtain ⟨p, _ | m⟩ := g.parser.parseWord prev w
  · simp
  · simp only [GpsMonitor.handleMessage, GpsMonitor.handle3500, GpsMonitor.handle3501]
    split_ifs <;> simp

/-- What the frames hand to the parser, and what it makes of it. -/
def Parses (g t : GpsMonitor) (ws : List (UInt16 × UInt16)) : Prop :=
  t.parser = (g.parser.parse ws).1 ∧ t.messages = g.messages ++ (g.parser.parse ws).2

theorem Parses.append {g t u : GpsMonitor} {us ws : List (UInt16 × UInt16)}
    (h : Parses g t us) (h' : Parses t u ws) : Parses g u (us ++ ws) := by
  obtain ⟨hp, hm⟩ := h
  obtain ⟨hp', hm'⟩ := h'
  rw [Parses, MsgParser.parse_append]
  exact ⟨by rw [hp', hp], by rw [hm', hm, hp, List.append_assoc]⟩

theorem areaFeed_succ (image : ℕ → UInt16) (usp n : ℕ) :
    areaFeed image usp (n + 1) = (image usp, image (usp + 1)) :: areaFeed image (usp + 1) n := by
  rw [areaFeed, List.range_succ_eq_map, List.map_cons, List.map_map]
  refine congrArg _ (List.map_congr_left ?_)
  intro i _
  simp only [Function.comp, Nat.succ_eq_add_one]
  rw [show usp + (i + 1) = usp + 1 + i by omega,
    show usp + 1 + (i + 1) = usp + 1 + 1 + i by omega]

theorem wordLoop_parses (image : ℕ → UInt16) (n usp : ℕ) (g : GpsMonitor) :
    Parses g (GpsMonitor.wordLoop env image n (usp + 1) g) (areaFeed image usp n) := by
  induction n generalizing usp g with
  | zero => exact ⟨rfl, (List.append_nil _).symm⟩
  | succ n ih =>
    have hword : Parses g (g.processWord env (image usp) (image (usp + 1)))
        [(image usp, image (usp + 1))] := by
      simpa [Parses, MsgParser.parse] using processWord_parse env g (image usp) (image (usp + 1))
    rw [areaFeed_succ]
    exact hword.append (ih (usp + 1) _)

theorem processImageGPSData_parses (g : GpsMonitor) (image : ℕ → UInt16) :
    Parses g (g.processImageGPSData env image) (frameFeed image) := by
  unfold GpsMonitor.processImageGPSData frameFeed
  simp only
  split
  next =>
    split_ifs <;> exact ⟨rfl, (List.append_nil _).symm⟩
  next => exact wordLoop_parses env image _ _ _

theorem processFrames_parses (g : GpsMonitor) (frames : List (ℕ → UInt16)) :
    Parses g (g.processFrames env frames) (feed frames) := by
  induction frames generalizing g with
  | nil => exact ⟨rfl, (List.append_nil _).symm⟩
  | cons image frames ih => exact (processImageGPSData_parses env g image).append (ih _)

theorem processFrames_wellFormed (frames : List (ℕ → UInt16)) :
    (GpsMonitor.initial.processFrames env frames).parser.WellFormed := by
  rw [(processFrames_parses env _ frames).1]
  exact MsgParser.wellFormed_initial.parse _

end Feed

/-- The same messages completed and the same parser state reached. -/
structure SameOutcome (r r' : MsgParser × List (List UInt16)) : Prop where
  parser : r.1.Same r'.1
  messages : r.2 = r'.2

/-- What state 2 finds on a word by looking at the word in front of it in the image. -/
def lengthVerdict (u : UInt16 × UInt16) : Bool := MsgParser.lengthMatches u.1 u.2

/-- If word number `n` is read in state 2, the words in front of it in the two cuts lead to
the same verdict on it. -/
def SameVerdict (p : MsgParser) (us ws : List (UInt16 × UInt16)) (n : ℕ) : Prop :=
  (p.parse (us.take n)).1.gpsMsgParseState = 2 →
    us[n]?.map lengthVerdict = ws[n]?.map lengthVerdict

instance (p : MsgParser) (us ws : List (UInt16 × UInt16)) (n : ℕ) :
    Decidable (SameVerdict p us ws n) := inferInstanceAs (Decidable (_ → _))

/-- Two cuts of one stream: at every word they offer the same word, or both have ended. -/
theorem cut_cases {us ws : List (UInt16 × UInt16)} (h : us.map Prod.snd = ws.map Prod.snd)
    (n : ℕ) : (us[n]? = none ∧ ws[n]? = none) ∨
      ∃ prev prev' w, us[n]? = some (prev, w) ∧ ws[n]? = some (prev', w) := by
  have hn : us[n]?.map Prod.snd = ws[n]?.map Prod.snd := by
    rw [← List.getElem?_map, ← List.getElem?_map, h]
  rcases hu : us[n]? with _ | ⟨prev, w⟩ <;> rcases hw : ws[n]? with _ | ⟨prev', w'⟩
  · exact Or.inl ⟨rfl, rfl⟩
  · simp [hu, hw] at hn
  · simp [hu, hw] at hn
  · simp only [hu, hw, Option.map_some, Option.some.injEq] at hn
    exact Or.inr ⟨prev, prev', w, rfl, by rw [hn]⟩

theorem sameOutcome_succ {p q : MsgParser} {us ws : List (UInt16 × UInt16)} {n : ℕ}
    (hp : p.WellFormed) (hstream : us.map Prod.snd = ws.map Prod.snd)
    (h : SameOutcome (p.parse (us.take n)) (q.parse (ws.take n)))
    (hv : SameVerdict p us ws n) :
    SameOutcome (p.parse (us.take (n + 1))) (q.parse (ws.take (n + 1))) := by
  rw [List.take_add_one, List.take_add_one]
  rcases cut_cases hstream n with ⟨hu, hw⟩ | ⟨prev, prev', w, hu, hw⟩
  · rw [hu, hw]
    simpa using h
  · have hverdict : (p.parse (us.take n)).1.gpsMsgParseState = 2 →
        MsgParser.lengthMatches prev w = MsgParser.lengthMatches prev' w := fun htwo => by
      simpa [hu, hw, lengthVerdict] using hv htwo
    have hnext := h.parser.parseWord (hp.parse _) hverdict
    rw [hu, hw, Option.toList_some, Option.toList_some, MsgParser.parse_concat,
      MsgParser.parse_concat]
    exact ⟨hnext.1, by rw [h.messages, hnext.2]⟩

/-- Two parsers keep agreeing on two cuts of one stream exactly as long as the look-back of
state 2 makes no difference. -/
theorem sameOutcome_iff {p q : MsgParser} {us ws : List (UInt16 × UInt16)} (hp : p.WellFormed)
    (hpq : p.Same q) (hstream : us.map Prod.snd = ws.map Prod.snd) :
    (∀ n, SameOutcome (p.parse (us.take n)) (q.parse (ws.take n))) ↔
      ∀ n < us.length, SameVerdict p us ws n := by
  constructor
  · intro h n _ htwo
    rcases cut_cases hstream n with ⟨hu, hw⟩ | ⟨prev, prev', w, hu, hw⟩
    · rw [hu, hw]
    · have hbefore := (h n).parser.state
      have hafter := (h (n + 1)).parser.state
      rw [List.take_add_one, List.take_add_one, hu, hw, Option.toList_some, Option.toList_some,
        MsgParser.parse_concat, MsgParser.parse_concat] at hafter
      rw [hu, hw, Option.map_some, Option.map_some]
      by_contra hne
      exact MsgParser.parseWord_differs htwo (hbefore ▸ htwo) (fun he => hne (congrArg some he))
        hafter
  · intro hv n
    induction n with
    | zero => exact ⟨hpq, rfl⟩
    | succ n ih =>
      apply sameOutcome_succ hp hstream ih
      by_cases hn : n < us.length
      · exact hv n hn
      · have hlen : us.length = ws.length := by simpa using congrArg List.length hstream
        intro _
        rw [List.getElem?_eq_none (by omega), List.getElem?_eq_none (by omega)]

/-- The monitor after some frames, from the start of the program. -/
def Reached (env : GpsEnv) (g : GpsMonitor) : Prop :=
  ∃ frames, g = GpsMonitor.initial.processFrames env frames

/-- For any two cuts of a stream into frames, started in the same reached parser state:
messages and state agree at every word exactly when the word in front gives the same verdict
in both cuts at every word read in state 2. The agreement then holds at the end. -/
theorem framing_independent_iff (env : GpsEnv) {g₁ g₂ : GpsMonitor} (hg₁ : Reached env g₁)
    (hstart : g₁.parser.Same g₂.parser) {fs₁ fs₂ : List (ℕ → UInt16)}
    (hstream : gpsStream fs₁ = gpsStream fs₂) :
    ((∀ n, SameOutcome (g₁.parser.parse ((feed fs₁).take n))
        (g₂.parser.parse ((feed fs₂).take n))) ↔
      ∀ n < (feed fs₁).length, SameVerdict g₁.parser (feed fs₁) (feed fs₂) n) ∧
    ((∀ n < (feed fs₁).length, SameVerdict g₁.parser (feed fs₁) (feed fs₂) n) →
      (g₁.processFrames env fs₁).parser.Same (g₂.processFrames env fs₂).parser ∧
      ∃ completed, (g₁.processFrames env fs₁).messages = g₁.messages ++ completed ∧
        (g₂.processFrames env fs₂).messages = g₂.messages ++ completed) := by
  have hwf : g₁.parser.WellFormed := by
    obtain ⟨frames, rfl⟩ := hg₁
    exact processFrames_wellFormed env frames
  have hiff := sameOutcome_iff hwf hstart hstream
  refine ⟨hiff, ?_⟩
  intro hv
  have hend := hiff.mpr hv (max (feed fs₁).length (feed fs₂).length)
  rw [List.take_of_length_le (le_max_left _ _), List.take_of_length_le (le_max_right _ _)] at hend
  obtain ⟨hp₁, hm₁⟩ := processFrames_parses env g₁ fs₁
  obtain ⟨hp₂, hm₂⟩ := processFrames_parses env g₂ fs₂
  exact ⟨hp₁ ▸ hp₂ ▸ hend.parser, _, hm₁, hend.messages ▸ hm₂⟩

/-- A frame whose GPS area holds these words. -/
def gpsFrame (words : List UInt16) (i : ℕ) : UInt16 :=
  if i < 341 then 0 else if i = 341 then UInt16.ofNat words.length else words.getD (i - 342) 0

/-- A complete 3500 message. -/
def sample3500 : List UInt16 :=
  [0x81ff, 3500, 16, 0x8000, 0xf045, 1, 2, 3, 4, 7, 1, 11, 12, 13, 14, 15, 16, 17, 18, 19, 20, 21]

def sampleEnv : GpsEnv := ⟨30, 0, true⟩

/-- The sample message in one frame, and cut behind its first `n` words. -/
def wholeCut : List (ℕ → UInt16) := [gpsFrame sample3500]

def splitCut (n : ℕ) : List (ℕ → UInt16) :=
  [gpsFrame (sample3500.take n), gpsFrame (sample3500.drop n)]

theorem framing_independent_after_length_word :
    (GpsMonitor.initial.processFrames sampleEnv wholeCut).parser.Same
        (GpsMonitor.initial.processFrames sampleEnv (splitCut 3)).parser ∧
      ∃ completed,
        (GpsMonitor.initial.processFrames sampleEnv wholeCut).messages = [] ++ completed ∧
        (GpsMonitor.initial.processFrames sampleEnv (splitCut 3)).messages = [] ++ completed :=
  (framing_independent_iff sampleEnv ⟨[], rfl⟩ (.refl _) (by decide +kernel)).2
    (by decide +kernel)

/-- Cut behind the type word, the message is lost: state 2 then looks at the word count. -/
theorem framing_dependent_after_type_word :
    gpsStream wholeCut = gpsStream (splitCut 2) ∧
      (GpsMonitor.initial.processFrames sampleEnv wholeCut).messages = [sample3500] ∧
      (GpsMonitor.initial.processFrames sampleEnv (splitCut 2)).messages = [] := by
  decide +kernel

end Gps
