import Ngdcs.Headless.Interface

/-! What the commands of the headless program ask for: which pairs of characters are requests,
when a request is accepted, what it does then, and how it is answered. -/
namespace Headless
open Recorder

/-- The requests that come over the line. -/
inductive Request where
  | record | stop | abort | gpsInit

/-- The request of a pair of bytes: the characters `RE`, `ST`, `AB` or `II`. -/
def request (p : UInt8 × UInt8) : Option Request :=
  if p = (82, 69) then some .record
  else if p = (83, 84) then some .stop
  else if p = (65, 66) then some .abort
  else if p = (73, 73) then some .gpsInit
  else none

namespace HeadlessTab

variable (cfg : HeadlessSettings) (s : HeadlessTab)

/-- A recording is started from rest, stopped while science data are recorded, and aborted
unless there is none; the GPS unit can always be initialized. -/
def Accepts : Option Request → Prop
  | some .record => s.tab.recordState = .notRecording
  | some .stop => s.tab.recordState = .science
  | some .abort => s.tab.recordState ≠ .notRecording
  | some .gpsInit => True
  | none => False

/-- What the button of a request does to the recorder and to the initialization of the GPS. -/
def pressButton (o : CommandOutcome) : Option Request → DisplayTab × Gps.GpsInit
  | some .record => (s.tab.recordButtonWork cfg.recorder o.files o.replies, s.gpsInit)
  | some .stop => (s.tab.stopButtonWork cfg.recorder, s.gpsInit)
  | some .abort => (s.tab.requestAbort, s.gpsInit)
  | some .gpsInit => (s.tab, s.gpsInit.onGPSInitButton true cfg.gpsSim cfg.gpsInitMode
      (UInt32.ofNat s.tab.frameCount) true)
  | none => (s.tab, s.gpsInit)

end HeadlessTab

/-- Answers have two characters, everything else on the line has three. -/
def answers (out : List (List Char)) : List (List Char) := out.filter fun x => x.length == 2

/-- The pair `p` has been carried out, with `A+` as its answer, or refused with `A!`. -/
structure Executes (cfg : HeadlessSettings) (o : CommandOutcome) (p : UInt8 × UInt8)
    (s t : HeadlessTab) (out : List (List Char)) : Prop where
  commands : t.commands = s.commands ++ [p]
  accepted : s.Accepts (request p) → answers out = [['A', '+']] ∧
    (t.tab, t.gpsInit) = s.pressButton cfg o (request p)
  refused : ¬s.Accepts (request p) → answers out = [['A', '!']] ∧
    (t.tab, t.gpsInit) = (s.tab, s.gpsInit)

theorem length_statusString (color : StatusColor) (first second : Char) :
    (statusString color first second).length = 3 := by cases color <;> rfl

theorem length_recordStatus (st : RecordState) : (recordStatus st).length = 3 := by
  cases st <;> rfl

theorem answers_of_status {out : List (List Char)} (h : ∀ x ∈ out, x.length = 3) :
    answers out = [] := by
  unfold answers
  rw [List.filter_eq_nil_iff]
  intro x hx
  simp [h x hx]

/-- Comparing two bytes as a string with two characters, none of them null. -/
theorem strcmpEq_pair {a b : UInt8} {c d : Char} (hc : UInt8.ofNat c.toNat ≠ 0)
    (hd : UInt8.ofNat d.toNat ≠ 0) : strcmpEq [a, b] [c, d] = true ↔
      (a, b) = (UInt8.ofNat c.toNat, UInt8.ofNat d.toNat) := by
  rw [strcmpEq, beq_iff_eq, Prod.mk.injEq, List.map_cons, List.map_cons, List.map_nil]
  by_cases ha : a = 0
  · subst ha
    constructor
    · intro h
      simp at h
    · rintro ⟨h, -⟩
      exact absurd h.symm hc
  · rw [List.takeWhile_cons_of_pos (by simpa using ha), List.cons.injEq]
    refine and_congr_right fun _ => ?_
    by_cases hb : b = 0
    · subst hb
      constructor
      · intro h
        simp at h
      · intro h
        exact absurd h.symm hd
    · rw [List.takeWhile_cons_of_pos (by simpa using hb)]
      simp

namespace HeadlessTab

variable (cfg : HeadlessSettings) (s : HeadlessTab)

theorem runTab_serialOut (t : DisplayTab) : ∃ out, (∀ x ∈ out, x.length = 3) ∧
    (s.runTab t).serialOut = s.serialOut ++ out := by
  refine ⟨_, ?_, rfl⟩
  intro x hx
  obtain ⟨st, -, rfl⟩ := List.mem_map.mp hx
  exact length_recordStatus st

theorem recordButtonWork_serialOut (o : CommandOutcome) : ∃ out, (∀ x ∈ out, x.length = 3) ∧
    (s.recordButtonWork cfg o).serialOut = s.serialOut ++ out := by
  unfold recordButtonWork
  simp only
  generalize (if s.tab.blockFrameRate = numFrameRates - 1 then none else o.space) = space
  obtain ⟨out, hout, heq⟩ := runTab_serialOut
    { s with serialOut := s.serialOut ++ space.toList.map (statusString · 'R' 'S') }
    (s.tab.recordButtonWork cfg.recorder o.files o.replies)
  refine ⟨space.toList.map (statusString · 'R' 'S') ++ out, ?_, ?_⟩
  · intro x hx
    rcases List.mem_append.mp hx with hx | hx
    · obtain ⟨color, -, rfl⟩ := List.mem_map.mp hx
      exact length_statusString color 'R' 'S'
    · exact hout x hx
  · rw [heq, List.append_assoc]

/-- The first thing that a command writes is its answer. -/
def StartsWith (r : List Char) (u : HeadlessTab) : Prop :=
  ∃ out, (∀ x ∈ out, x.length = 3) ∧ u.serialOut = s.serialOut ++ r :: out

variable {s}

theorem StartsWith.of_writePCSerial {r : List Char} {u : HeadlessTab}
    (h : ∃ out, (∀ x ∈ out, x.length = 3) ∧
      u.serialOut = (s.writePCSerial r).serialOut ++ out) : s.StartsWith r u := by
  obtain ⟨out, hout, heq⟩ := h
  refine ⟨out, hout, ?_⟩
  rw [heq]
  simp [writePCSerial]

theorem startsWith_writePCSerial (r : List Char) : s.StartsWith r (s.writePCSerial r) :=
  .of_writePCSerial ⟨[], by simp, by simp⟩

/-- The command in the buffer is the request of its two bytes: it is accepted, and its button
pressed, or refused. -/
theorem command_request (o : CommandOutcome) {p : UInt8 × UInt8}
    (hcmd : s.headlessCmd = [p.1, p.2]) :
    (s.Accepts (request p) ∧ s.StartsWith ['A', '+'] (s.command cfg o) ∧
        ((s.command cfg o).tab, (s.command cfg o).gpsInit) =
          s.pressButton cfg o (request p)) ∨
      (¬s.Accepts (request p) ∧ s.command cfg o = s.writePCSerial ['A', '!']) := by
  have hrecord : strcmpEq s.headlessCmd ['R', 'E'] = true ↔ p = (82, 69) := by
    rw [hcmd]
    exact strcmpEq_pair (by decide) (by decide)
  have hstop : strcmpEq s.headlessCmd ['S', 'T'] = true ↔ p = (83, 84) := by
    rw [hcmd]
    exact strcmpEq_pair (by decide) (by decide)
  have habort : strcmpEq s.headlessCmd ['A', 'B'] = true ↔ p = (65, 66) := by
    rw [hcmd]
    exact strcmpEq_pair (by decide) (by decide)
  have hinit : strcmpEq s.headlessCmd ['I', 'I'] = true ↔ p = (73, 73) := by
    rw [hcmd]
    exact strcmpEq_pair (by decide) (by decide)
  simp only [command, hrecord, hstop, habort, hinit, request]
  split_ifs with h1 hidle h2 hscience h3 hactive h4
  · exact Or.inl ⟨hidle, .of_writePCSerial (recordButtonWork_serialOut cfg _ o), rfl⟩
  · exact Or.inr ⟨hidle, rfl⟩
  · exact Or.inl ⟨hscience, .of_writePCSerial (runTab_serialOut _ _), rfl⟩
  · exact Or.inr ⟨hscience, rfl⟩
  · exact Or.inl ⟨hactive, .of_writePCSerial (runTab_serialOut _ _), rfl⟩
  · exact Or.inr ⟨hactive, rfl⟩
  · exact Or.inl ⟨trivial, startsWith_writePCSerial _, rfl⟩
  · exact Or.inr ⟨not_false, rfl⟩

theorem StartsWith.answers {r : List Char} {u : HeadlessTab} (h : s.StartsWith r u)
    (hr : r.length = 2) : ∃ out, u.serialOut = s.serialOut ++ out ∧ answers out = [r] := by
  obtain ⟨out, hstatus, hout⟩ := h
  refine ⟨r :: out, hout, ?_⟩
  unfold Headless.answers
  rw [List.filter_cons_of_pos]
  · exact congrArg _ (answers_of_status hstatus)
  · simp [hr]

/-- A pair in the buffer is executed. -/
theorem handleCommand_executes (o : CommandOutcome) {p : UInt8 × UInt8}
    (hcmd : s.headlessCmd = [p.1, p.2]) : ∃ out,
      (s.handleCommand cfg o).serialOut = s.serialOut ++ out ∧
        Executes cfg o p s (s.handleCommand cfg o) out := by
  have hnoted : (s.handleCommand cfg o).commands = s.commands ++ [p] := by
    rw [handleCommand, hcmd]
  rcases command_request cfg o hcmd with ⟨haccepts, hstarts, hdone⟩ | ⟨hrefuses, hsame⟩
  · obtain ⟨out, hout, hanswers⟩ := hstarts.answers rfl
    exact ⟨out, hout, hnoted, fun _ => ⟨hanswers, hdone⟩, fun h => absurd haccepts h⟩
  · obtain ⟨out, hout, hanswers⟩ := (startsWith_writePCSerial (s := s) ['A', '!']).answers rfl
    refine ⟨out, ?_, hnoted, fun h => absurd h hrefuses, fun _ => ⟨hanswers, ?_⟩⟩
    · rw [← hout, ← hsame]
      rfl
    · change ((s.command cfg o).tab, (s.command cfg o).gpsInit) = _
      rw [hsame]
      rfl

end HeadlessTab

end Headless
