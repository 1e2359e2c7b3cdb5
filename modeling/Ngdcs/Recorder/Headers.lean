import Ngdcs.Recorder.OpenFiles

/-! The `lines` value of the headers. Frames are counted when they are appended to the image
file, and the count is reset and reported elsewhere. -/
namespace Recorder
open Runs DisplayTab

variable {cfg : Settings} {s t u : DisplayTab} {e : RecorderEvent}

/-- The frames appended to the image file of a recording, in order. -/
def framesAppended (s : DisplayTab) (n : ℕ) : List WrittenFrame :=
  s.history.written.filter fun w => decide (w.recording = n)

/-- The members that the count depends on; frames may have been seen in between. -/
structure SameLines (s t : DisplayTab) : Prop where
  idle : t.recordState = .notRecording → s.recordState = .notRecording
  files : t.files = s.files
  framesWritten : t.framesWritten = s.framesWritten
  frameCount : s.frameCount ≤ t.frameCount
  currentRecording : t.currentRecording = s.currentRecording
  opened : t.history.opened = s.history.opened
  written : t.history.written = s.history.written
  headers : t.history.headers = s.history.headers

theorem SameLines.refl (s : DisplayTab) : SameLines s s :=
  ⟨id, rfl, rfl, le_rfl, rfl, rfl, rfl, rfl⟩

/-- What can happen to the count: nothing, a frame is appended, the files are closed, a call of
`openFiles` fails, or it succeeds and the count starts again. -/
inductive LineEffect (s t : DisplayTab) : Prop where
  | unrelated (same : SameLines s t)
  | appends (n : ℕ) (st : RecordState) (image : s.files.imageFP = some n)
      (same : SameLines { s with
        frameCount := s.frameCount + 1
        framesWritten := s.framesWritten + 1
        history := { s.history with
          written := s.history.written ++ [⟨n, st, s.frameCount + 1⟩] } } t)
  | closes (same : SameLines s.closeFiles { t with recordState := s.recordState })
  | failsToOpen (r : OpenResult) (fails : r ≠ .ok) (same : SameLines (s.openFiles r) t)
  | opens (recording : t.recordState ≠ .notRecording)
      (same : SameLines { s.openFiles .ok with framesWritten := 0 } t)

/-- Entering a state closes the files or leaves them alone. -/
theorem lineEffect_enterPhase (cfg : Settings) (s : DisplayTab) (st : RecordState) (out : Bool) :
    LineEffect s { s.enterPhase cfg st with outOfSpace := out } := by
  by_cases h : st = .notRecording
  · subst h
    exact .closes ⟨fun h => h, rfl, rfl, le_rfl, rfl, rfl, rfl, rfl⟩
  · refine .unrelated ⟨?_, enterPhase_files cfg s h, ?_, ?_, by simp, by simp, by simp,
      enterPhase_headers cfg s h⟩
    · intro hidle
      exact absurd ((enterPhase_recordState cfg s st).symm.trans hidle) h
    · cases st <;> rfl
    · cases st <;> exact le_rfl

theorem DisplayTab.FrameNoted.lineEffect (h : FrameNoted s u) : LineEffect s u := by
  have hstate : u.recordState = .notRecording → s.recordState = .notRecording :=
    h.recordState.symm.trans
  obtain ⟨failed, frames, happended, hwritten⟩ := h.appended
  cases failed with
  | true =>
    obtain ⟨hcount, rfl⟩ := happended
    rw [List.append_nil] at hwritten
    exact .unrelated ⟨hstate, h.files, hcount, h.frameCount ▸ Nat.le_succ _, h.currentRecording,
      h.opened, hwritten, h.headers⟩
  | false =>
    obtain ⟨n, himage, hcount, rfl⟩ := happended
    exact .appends n s.recordState himage ⟨hstate, h.files, hcount, h.frameCount.ge,
      h.currentRecording, h.opened, hwritten, h.headers⟩

theorem recordButtonWork_lineEffect (cfg : Settings) (s : DisplayTab) (r : OpenResult)
    (a : RecordReplies) : ∃ u, SameLines s u ∧ LineEffect u (s.recordButtonWork cfg r a) := by
  unfold recordButtonWork
  rcases hp : s.prepareRecording cfg a with _ | u
  · exact ⟨s, .refl s, .unrelated (.refl s)⟩
  · have hopens (st : RecordState) (hst : st = .dark1Cal ∨ st = .science) :
        LineEffect u (((u.openFiles .ok).leaveIdleForRecording cfg).enterPhase cfg st) := by
      rcases hst with rfl | rfl
      · exact .opens (by simp) ⟨fun h => by simp at h, rfl, rfl, le_rfl, rfl, rfl, rfl, rfl⟩
      · exact .opens (by simp) ⟨fun h => by simp at h, rfl, rfl, le_rfl, rfl, rfl, rfl, rfl⟩
    refine ⟨u, ?_, ?_⟩
    · obtain ⟨_, _, _, _, _, rfl⟩ := prepareRecording_eq hp
      exact ⟨id, rfl, rfl, le_rfl, rfl, rfl, rfl, rfl⟩
    · simp only
      split_ifs with hr
      · subst hr
        unfold startRecording
        simp only
        split_ifs
        · exact hopens .science (by simp)
        · exact hopens .dark1Cal (by simp)
      · exact .failsToOpen r hr (.refl _)

/-- A step is at most two of these: what a frame does, and the state that is entered. -/
theorem step_lineEffect (h : step cfg s e = some t) :
    ∃ u, LineEffect s u ∧ LineEffect u t := by
  cases step_effect h with
  | records u r a press after =>
    obtain ⟨cs, rfl⟩ := recordPress_eq press
    obtain ⟨v, hsame, hline⟩ := recordButtonWork_lineEffect cfg { s with callbacks := cs } r a
    rw [after]
    exact ⟨v, .unrelated { hsame with }, hline⟩
  | frame image w event effect idle =>
    subst event
    obtain ⟨u, hnoted, rfl | ⟨st, out, -, rfl⟩⟩ := imageFrame_noted cfg s h
    · exact ⟨t, hnoted.lineEffect, .unrelated (.refl t)⟩
    · exact ⟨u, hnoted.lineEffect, lineEffect_enterPhase cfg u st out⟩
  | poll event after =>
    by_cases hstop : s.stopRequested = true
    · rw [after, noImageData_eq cfg s hstop]
      refine ⟨{ s with stopRequested := false }, .unrelated
        ⟨id, rfl, rfl, le_rfl, rfl, rfl, rfl, rfl⟩, ?_⟩
      exact lineEffect_enterPhase cfg _ _ (enterPhase cfg _ _).outOfSpace
    · rw [after, noImageData, if_neg hstop]
      exact ⟨s, .unrelated (.refl s), .unrelated (.refl s)⟩
  | side press event frame effect =>
    have hsame := step_untouched h press frame event
    exact ⟨t, .unrelated ⟨hsame.recordState.symm.trans, hsame.files, hsame.framesWritten,
      hsame.frameCount.ge, hsame.currentRecording, hsame.opened, hsame.written, hsame.headers⟩,
      .unrelated (.refl t)⟩

/-- What holds of the count in every state. -/
structure LinesCounted (s : DisplayTab) : Prop where
  idle : s.recordState = .notRecording → s.files.imageFP = none
  header_open : ∀ n, s.files.imageFP = some n → s.files.imageHdrFP = some n
  header_opened : ∀ n, s.files.imageHdrFP = some n → n ∈ s.history.opened
  counted : ∀ n, s.files.imageHdrFP = some n →
    s.framesWritten = (framesAppended s n).length
  opened_le : ∀ n ∈ s.history.opened, n ≤ s.currentRecording
  opened : ∀ w ∈ s.history.written, w.recording ∈ s.history.opened
  ordered : s.history.written.Pairwise fun v w => v.frame < w.frame
  processed : ∀ w ∈ s.history.written, w.frame ≤ s.frameCount
  headers : ∀ h ∈ s.history.headers, h.1 ∈ s.history.opened ∧
    s.files.imageFP ≠ some h.1 ∧ h.2 = (framesAppended s h.1).length

theorem linesCounted_initial (cfg : Settings) (u : StartUp) : LinesCounted (initial cfg u) := by
  constructor <;> simp [initial, OutputFiles.closed, History.empty]

theorem SameLines.linesCounted (h : SameLines s t) (hs : LinesCounted s) : LinesCounted t := by
  have happended (n : ℕ) : framesAppended t n = framesAppended s n := by
    simp [framesAppended, h.written]
  constructor
  · intro hidle
    rw [h.files]
    exact hs.idle (h.idle hidle)
  · rw [h.files]
    exact hs.header_open
  · rw [h.files, h.opened]
    exact hs.header_opened
  · intro n hn
    rw [h.files] at hn
    rw [happended, h.framesWritten]
    exact hs.counted n hn
  · rw [h.opened, h.currentRecording]
    exact hs.opened_le
  · rw [h.written, h.opened]
    exact hs.opened
  · rw [h.written]
    exact hs.ordered
  · intro w hw
    rw [h.written] at hw
    exact (hs.processed w hw).trans h.frameCount
  · intro p hp
    rw [h.headers] at hp
    rw [h.opened, h.files, happended]
    exact hs.headers p hp

/-- Only the recording whose image file is open gets the frame. -/
theorem framesAppended_append (n m : ℕ) (st : RecordState) (k : ℕ) {h : History}
    (hw : t.history.written = h.written ++ [⟨n, st, k⟩]) (hs : s.history = h) :
    (framesAppended t m).length = (framesAppended s m).length + if n = m then 1 else 0 := by
  subst hs
  by_cases hm : n = m <;> simp [framesAppended, hw, List.filter_append, hm]

theorem LinesCounted.append (hs : LinesCounted s) {n : ℕ} (st : RecordState)
    (himage : s.files.imageFP = some n) : LinesCounted { s with
      frameCount := s.frameCount + 1
      framesWritten := s.framesWritten + 1
      history := { s.history with
        written := s.history.written ++ [⟨n, st, s.frameCount + 1⟩] } } := by
  have hhdr := hs.header_open n himage
  have hlength := fun m => framesAppended_append (s := s) (t := { s with
      frameCount := s.frameCount + 1
      framesWritten := s.framesWritten + 1
      history := { s.history with
        written := s.history.written ++ [⟨n, st, s.frameCount + 1⟩] } })
    n m st (s.frameCount + 1) rfl rfl
  refine ⟨hs.idle, hs.header_open, hs.header_opened, ?_, hs.opened_le, ?_, ?_, ?_, ?_⟩
  · intro m hm
    obtain rfl : n = m := Option.some.inj (hhdr.symm.trans hm)
    rw [hlength, if_pos rfl, ← hs.counted n hhdr]
  · simp only [List.mem_append, List.mem_singleton]
    rintro w (hw | rfl)
    · exact hs.opened w hw
    · exact hs.header_opened n hhdr
  · refine List.pairwise_append.mpr ⟨hs.ordered, List.pairwise_singleton _ _, ?_⟩
    intro v hv w hw
    rw [List.mem_singleton.mp hw]
    exact Nat.lt_succ_of_le (hs.processed v hv)
  · simp only [List.mem_append, List.mem_singleton]
    rintro w (hw | rfl)
    · exact (hs.processed w hw).trans (Nat.le_succ _)
    · exact le_rfl
  · intro p hp
    obtain ⟨hopened, hclosed, hlines⟩ := hs.headers p hp
    have hne : n ≠ p.1 := fun h => hclosed (h ▸ himage)
    exact ⟨hopened, hclosed, by rw [hlength, if_neg hne, hlines]; rfl⟩

/-- A header gets the count of its own recording. -/
theorem LinesCounted.closeFiles (hs : LinesCounted s) : LinesCounted s.closeFiles := by
  refine ⟨fun _ => rfl, by rintro _ ⟨⟩, by rintro _ ⟨⟩, by rintro _ ⟨⟩, hs.opened_le, hs.opened,
    hs.ordered, hs.processed, ?_⟩
  simp only [DisplayTab.closeFiles, List.mem_append, List.mem_map, Option.mem_toList]
  rintro p (hp | ⟨n, hn, rfl⟩)
  · obtain ⟨hopened, -, hlines⟩ := hs.headers p hp
    exact ⟨hopened, by rintro ⟨⟩, hlines⟩
  · exact ⟨hs.header_opened n hn, by rintro ⟨⟩, hs.counted n hn⟩

/-- A failed call leaves the image file closed, and the header of an earlier recording open
only where the image file itself could not be opened. -/
theorem LinesCounted.failsToOpen (hs : LinesCounted s) {r : OpenResult} (hr : r ≠ .ok) :
    LinesCounted (s.openFiles r) := by
  have hclosed : (s.openFiles r).files.imageFP = none := by cases r <;> first | rfl | contradiction
  have hheader (n : ℕ) (h : (s.openFiles r).files.imageHdrFP = some n) :
      s.files.imageHdrFP = some n := by
    cases r <;> first | exact h | contradiction
  have hhistory : (s.openFiles r).history = s.history := by cases r <;> first | rfl | contradiction
  have hcurrent : (s.openFiles r).currentRecording = s.currentRecording + 1 := by cases r <;> rfl
  have hframes : (s.openFiles r).framesWritten = s.framesWritten := by cases r <;> rfl
  have hcount : (s.openFiles r).frameCount = s.frameCount := by cases r <;> rfl
  constructor
  · exact fun _ => hclosed
  · simp [hclosed]
  · rw [hhistory]
    exact fun n hn => hs.header_opened n (hheader n hn)
  · intro n hn
    rw [hframes, framesAppended, hhistory]
    exact hs.counted n (hheader n hn)
  · intro n hn
    rw [hhistory] at hn
    rw [hcurrent]
    exact (hs.opened_le n hn).trans (Nat.le_succ _)
  · rw [hhistory]
    exact hs.opened
  · rw [hhistory]
    exact hs.ordered
  · rw [hhistory, hcount]
    exact hs.processed
  · rw [hhistory]
    intro p hp
    obtain ⟨hopened, -, hlines⟩ := hs.headers p hp
    refine ⟨hopened, by simp [hclosed], ?_⟩
    rw [hlines, framesAppended, framesAppended, hhistory]

/-- A new recording has no frames yet, and its count starts at zero. -/
theorem LinesCounted.opens (hs : LinesCounted s) (hrec : t.recordState ≠ .notRecording)
    (h : SameLines { s.openFiles .ok with framesWritten := 0 } t) : LinesCounted t := by
  have hfiles : t.files = .openedBy (s.currentRecording + 1) := h.files
  have hopened : t.history.opened = s.history.opened ++ [s.currentRecording + 1] := h.opened
  have hcurrent : t.currentRecording = s.currentRecording + 1 := h.currentRecording
  have hwritten : t.history.written = s.history.written := h.written
  have hnew : framesAppended t (s.currentRecording + 1) = [] := by
    rw [framesAppended, hwritten, List.filter_eq_nil_iff]
    intro w hw
    have hle := hs.opened_le _ (hs.opened w hw)
    simp only [decide_eq_true_eq]
    omega
  constructor
  · exact fun hidle => absurd hidle hrec
  · simp [hfiles, OutputFiles.openedBy]
  · simp [hfiles, hopened, OutputFiles.openedBy]
  · intro n hn
    obtain rfl : s.currentRecording + 1 = n := by
      simpa [hfiles, OutputFiles.openedBy] using hn
    rw [hnew, h.framesWritten]
    rfl
  · rw [hopened, hcurrent]
    simp only [List.mem_append, List.mem_singleton]
    rintro n (hn | rfl)
    · exact (hs.opened_le n hn).trans (Nat.le_succ _)
    · exact le_rfl
  · rw [hwritten, hopened]
    exact fun w hw => List.mem_append_left _ (hs.opened w hw)
  · rw [hwritten]
    exact hs.ordered
  · rw [hwritten]
    exact fun w hw => (hs.processed w hw).trans h.frameCount
  · intro p hp
    rw [h.headers] at hp
    obtain ⟨hold, -, hlines⟩ := hs.headers p hp
    have hle := hs.opened_le _ hold
    refine ⟨hopened ▸ List.mem_append_left _ hold, ?_, ?_⟩
    · simp only [hfiles, OutputFiles.openedBy, ne_eq, Option.some.injEq]
      omega
    · rw [hlines, framesAppended, framesAppended, hwritten]

theorem LineEffect.linesCounted (h : LineEffect s t) (hs : LinesCounted s) : LinesCounted t := by
  cases h with
  | unrelated same => exact same.linesCounted hs
  | appends n st image same => exact same.linesCounted (hs.append st image)
  | closes same =>
    have ht := same.linesCounted hs.closeFiles
    exact { ht with idle := fun _ => congrArg OutputFiles.imageFP same.files }
  | failsToOpen r fails same => exact same.linesCounted (hs.failsToOpen fails)
  | opens recording same => exact hs.opens recording same

theorem step_linesCounted (hs : LinesCounted s) (h : step cfg s e = some t) : LinesCounted t := by
  obtain ⟨u, hu, ht⟩ := step_lineEffect h
  exact ht.linesCounted (hu.linesCounted hs)

/-! ### Frames behind a point of the run -/

/-- What is appended after `b` was processed after `b`, for the recording whose image file was
open in `b` or for a later one. -/
structure AppendedSince (b s : DisplayTab) : Prop where
  frameCount : b.frameCount ≤ s.frameCount
  currentRecording : b.currentRecording ≤ s.currentRecording
  image : ∀ n, s.files.imageFP = some n →
    b.files.imageFP = some n ∨ b.currentRecording < n
  appended : ∃ new, s.history.written = b.history.written ++ new ∧ ∀ w ∈ new,
    b.frameCount < w.frame ∧
      (b.files.imageFP = some w.recording ∨ b.currentRecording < w.recording)

theorem AppendedSince.refl (b : DisplayTab) : AppendedSince b b :=
  ⟨le_rfl, le_rfl, fun _ => Or.inl, [], (List.append_nil _).symm, by simp⟩

variable {b : DisplayTab}

theorem AppendedSince.of_same (h : SameLines s t) (hs : AppendedSince b s) :
    AppendedSince b t where
  frameCount := hs.frameCount.trans h.frameCount
  currentRecording := h.currentRecording ▸ hs.currentRecording
  image := h.files ▸ hs.image
  appended := h.written ▸ hs.appended

theorem LineEffect.appendedSince (h : LineEffect s t) (hs : AppendedSince b s) :
    AppendedSince b t := by
  cases h with
  | unrelated same => exact hs.of_same same
  | appends n st image same =>
    obtain ⟨new, hwritten, hnew⟩ := hs.appended
    refine .of_same same ⟨hs.frameCount.trans (Nat.le_succ _), hs.currentRecording, hs.image,
      new ++ [⟨n, st, s.frameCount + 1⟩], by simp [hwritten], ?_⟩
    simp only [List.mem_append, List.mem_singleton]
    rintro w (hw | rfl)
    · exact hnew w hw
    · exact ⟨Nat.lt_succ_of_le hs.frameCount, hs.image n image⟩
  | closes same =>
    have ht : AppendedSince b { t with recordState := s.recordState } :=
      .of_same same ⟨hs.frameCount, hs.currentRecording, nofun, hs.appended⟩
    exact { ht with }
  | failsToOpen r fails same =>
    have hclosed : (s.openFiles r).files.imageFP = none := by
      cases r <;> first | rfl | contradiction
    refine .of_same same ⟨?_, ?_, by simp [hclosed], ?_⟩
    · cases r <;> exact hs.frameCount
    · cases r <;> exact hs.currentRecording.trans (Nat.le_succ _)
    · cases r <;> exact hs.appended
  | opens recording same =>
    refine .of_same same ⟨hs.frameCount, hs.currentRecording.trans (Nat.le_succ _), ?_,
      hs.appended⟩
    intro n hn
    obtain rfl : s.currentRecording + 1 = n := Option.some.inj hn
    exact Or.inr (Nat.lt_succ_of_le hs.currentRecording)

theorem step_appendedSince (hs : AppendedSince b s) (h : step cfg s e = some t) :
    AppendedSince b t := by
  obtain ⟨u, hu, ht⟩ := step_lineEffect h
  exact ht.appendedSince (hu.appendedSince hs)

/-- In every run, each header has the number of frames appended to its image file; frames are
appended in their order and once, none that was processed before the file was opened, and none
once the recorder has gone idle. -/
theorem header_lines (cfg : Settings) (u : StartUp) (es : List RecorderEvent) {t : DisplayTab}
    (hrun : run (step cfg) (initial cfg u) es = some t) :
    (∀ h ∈ t.history.headers, h.2 = (framesAppended t h.1).length) ∧
      t.history.written.Pairwise (fun v w => v.frame < w.frame) ∧
      ∀ es₁ es₂ s, es = es₁ ++ es₂ → run (step cfg) (initial cfg u) es₁ = some s →
        (∀ w ∈ t.history.written, w.frame ≤ s.frameCount →
          w ∈ s.history.written ∧ w.recording ∈ s.history.opened) ∧
        (s.recordState = .notRecording → ∀ n ∈ s.history.opened,
          framesAppended t n = framesAppended s n) := by
  have ht := run_invariant (fun _ _ _ hs h => step_linesCounted hs h)
    (linesCounted_initial cfg u) hrun
  refine ⟨fun h hh => (ht.headers h hh).2.2, ht.ordered, ?_⟩
  rintro es₁ es₂ s rfl hrun₁
  obtain ⟨s', hs', hrun₂⟩ := run_append_eq_some.mp hrun
  obtain rfl : s = s' := Option.some.inj (hrun₁.symm.trans hs')
  have hs := run_invariant (fun _ _ _ hs h => step_linesCounted hs h)
    (linesCounted_initial cfg u) hrun₁
  have hsince := run_invariant (fun _ _ _ hs h => step_appendedSince hs h)
    (AppendedSince.refl s) hrun₂
  obtain ⟨new, hwritten, hnew⟩ := hsince.appended
  constructor
  · intro w hw hle
    have hold : w ∈ s.history.written := by
      rcases List.mem_append.mp (hwritten ▸ hw) with hold | hlate
      · exact hold
      · exact absurd (hnew w hlate).1 (Nat.not_lt.mpr hle)
    exact ⟨hold, hs.opened w hold⟩
  · intro hidle n hn
    have hnone : new.filter (fun w => decide (w.recording = n)) = [] := by
      rw [List.filter_eq_nil_iff]
      intro w hw
      have hlater : s.currentRecording < w.recording := by
        simpa [hs.idle hidle] using (hnew w hw).2
      have hle := hs.opened_le n hn
      simp only [decide_eq_true_eq]
      omega
    rw [framesAppended, hwritten, List.filter_append, hnone, List.append_nil]
    rfl

/-- The frame of the stop and one frame of dark 2 are in the image file, the later one is not. -/
theorem header_lines_two : ∃ t, run (step dark2Only) (initial dark2Only plainStart)
    [.onRecordButton .ok yesToAll, .callback .ok yesToAll, .onStopButton,
      .imageFrame emptyLine1 allWritten, .imageFrame emptyLine1 allWritten,
      .imageFrame emptyLine1 allWritten] = some t ∧
      t.history.headers = [(1, 2)] ∧ (framesAppended t 1).length = 2 := by
  have hend : (run (step dark2Only) (initial dark2Only plainStart)
      [.onRecordButton .ok yesToAll, .callback .ok yesToAll, .onStopButton,
        .imageFrame emptyLine1 allWritten, .imageFrame emptyLine1 allWritten,
        .imageFrame emptyLine1 allWritten]).map (fun t => t.history.headers) = some [(1, 2)] := by
    decide +kernel
  obtain ⟨t, hrun, hheaders⟩ := Option.map_eq_some_iff.mp hend
  obtain ⟨hlines, -, -⟩ := header_lines dark2Only plainStart _ hrun
  exact ⟨t, hrun, hheaders, (hlines (1, 2) (by simp [hheaders])).symm⟩

end Recorder
