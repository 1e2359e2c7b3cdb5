import Ngdcs.Recorder.OpenFiles

/-! What becomes of a recording: an abort should delete only the recording it aborts, and
every other recording should be handed to the recordings tab once. -/
namespace Recorder
open Runs DisplayTab

variable {cfg : Settings} {s t : DisplayTab} {e : RecorderEvent}

/-- The number of hand-overs to the recordings tab that wait for the main thread. -/
def pendingHandOvers (s : DisplayTab) : ℕ := s.callbacks.count .refreshRecordControls

/-- What was deleted was being recorded when its abort was confirmed, what ended without an
abort is not deleted, and the window hands it to the recordings tab once. -/
structure AbortDeletesOnlyAborted (cfg : Settings) (s : DisplayTab) : Prop where
  unlinked : ∀ n ∈ s.history.unlinked, n ∈ s.history.abortConfirmed
  kept : ∀ n, (n, false) ∈ s.history.ended → n ∉ s.history.unlinked
  added : cfg.headless = false → ∀ n, (n, false) ∈ s.history.ended →
    s.history.added.count n + (if n = s.currentRecording then pendingHandOvers s else 0) = 1

/-- No request is acted upon when its recording is over: no abort is confirmed before the last
recording has been handed over, no poll without data finds a request in the idle state, and
`recordButtonWork` runs neither during a recording nor before the hand-over. -/
def NoLateRequest (s : DisplayTab) (e : RecorderEvent) (_ : DisplayTab) : Prop :=
  (e.confirmsAbort = true → s.recordState = .notRecording → pendingHandOvers s = 0) ∧
    (e.findsNoData = true → s.recordState = .notRecording → s.stopRequested = false) ∧
    ((recordPress s e).isSome = true → s.recordState = .notRecording ∧ pendingHandOvers s = 0)

instance : Decidable (NoLateRequest s e t) := inferInstanceAs (Decidable (_ ∧ _))

/-- The invariant: also, what a recording in progress is called has not been used before, an
abort of it has been confirmed, and a waiting hand-over is that of the last recording. -/
structure Bookkeeping (cfg : Settings) (s : DisplayTab) : Prop
    extends AbortDeletesOnlyAborted cfg s where
  confirmed : s.recordState ≠ .notRecording → s.stopIsAbort = true →
    s.currentRecording ∈ s.history.abortConfirmed
  pending : s.recordState ≠ .notRecording → pendingHandOvers s = 0
  handOver : pendingHandOvers s ≠ 0 → (s.currentRecording, false) ∈ s.history.ended →
    s.stopIsAbort = false
  past : ∀ n, (n ∈ s.history.unlinked ∨ n ∈ s.history.added ∨ ∃ b, (n, b) ∈ s.history.ended) →
    n ≤ s.currentRecording ∧ (s.recordState ≠ .notRecording → n ≠ s.currentRecording)

theorem bookkeeping_initial (cfg : Settings) (u : StartUp) : Bookkeeping cfg (initial cfg u) := by
  refine ⟨⟨?_, ?_, ?_⟩, ?_, ?_, ?_, ?_⟩ <;> simp [initial, History.empty, pendingHandOvers]

/-- The members that the invariant is about. -/
structure SameBooks (s t : DisplayTab) : Prop where
  idle : t.recordState = .notRecording ↔ s.recordState = .notRecording
  stopIsAbort : t.stopIsAbort = true → s.stopIsAbort = true
  currentRecording : t.currentRecording = s.currentRecording
  pending : pendingHandOvers t = pendingHandOvers s
  ended : t.history.ended = s.history.ended
  unlinked : t.history.unlinked = s.history.unlinked
  added : t.history.added = s.history.added
  abortConfirmed : t.history.abortConfirmed = s.history.abortConfirmed

theorem SameRecording.sameBooks (h : SameRecording s t) : SameBooks s t where
  idle := by rw [h.recordState]
  stopIsAbort := fun ha => h.stopIsAbort ▸ ha
  currentRecording := h.currentRecording
  pending := by rw [pendingHandOvers, h.callbacks, pendingHandOvers]
  ended := h.ended
  unlinked := h.unlinked
  added := h.added
  abortConfirmed := h.abortConfirmed

theorem Bookkeeping.of_same (hs : Bookkeeping cfg s) (h : SameBooks s t) : Bookkeeping cfg t := by
  obtain ⟨hidle, habort, hcur, hpend, hended, hunlinked, hadded, hconf⟩ := h
  refine ⟨⟨?_, ?_, ?_⟩, ?_, ?_, ?_, ?_⟩ <;>
    simp only [ne_eq, hidle, hcur, hpend, hended, hunlinked, hadded, hconf]
  · exact hs.unlinked
  · exact hs.kept
  · exact hs.added
  · exact fun hrec ha => hs.confirmed hrec (habort ha)
  · exact hs.pending
  · intro hne hn
    have hno := hs.handOver hne hn
    rcases ha : t.stopIsAbort with _ | _
    · rfl
    · rw [habort ha] at hno
      exact hno
  · exact hs.past

theorem pendingHandOvers_enterPhase {st : RecordState} (h : st ≠ .notRecording) :
    pendingHandOvers (s.enterPhase cfg st) = pendingHandOvers s := by
  unfold pendingHandOvers
  rw [enterPhase_callbacks]
  cases st <;> cases cfg.headless <;> simp_all [phaseNotice]

theorem pendingHandOvers_enterIdleState (h : cfg.headless = false) :
    pendingHandOvers (s.enterIdleState cfg) = pendingHandOvers s + 1 := by
  have hnotice := enterPhase_callbacks cfg s .notRecording
  simp only [enterPhase, phaseNotice, h] at hnotice
  simp [pendingHandOvers, hnotice]

theorem mem_ended_enterIdleState {n : ℕ} {b : Bool} (hrec : s.recordState ≠ .notRecording) :
    (n, b) ∈ (s.enterIdleState cfg).history.ended ↔
      (n, b) ∈ s.history.ended ∨ n = s.currentRecording ∧ b = s.stopIsAbort := by
  simp [enterIdleState_ended, hrec]

theorem mem_unlinked_enterIdleState {n : ℕ} :
    n ∈ (s.enterIdleState cfg).history.unlinked ↔
      n ∈ s.history.unlinked ∨ n = s.currentRecording ∧ s.stopIsAbort = true := by
  rw [enterIdleState_unlinked]
  split_ifs with h <;> simp [h]

/-- The end of a recording, by itself or by an abort. -/
theorem Bookkeeping.enterIdleState (hs : Bookkeeping cfg s) (hrec : s.recordState ≠ .notRecording) :
    Bookkeeping cfg (s.enterIdleState cfg) := by
  have hunused (n : ℕ) (hn : n ∈ s.history.unlinked ∨ n ∈ s.history.added ∨
      ∃ b, (n, b) ∈ s.history.ended) : n ≠ s.currentRecording := (hs.past n hn).2 hrec
  refine ⟨⟨?_, ?_, ?_⟩, fun h => absurd rfl h,
    fun h => absurd rfl h, ?_, fun n hn => ⟨?_, fun h => absurd rfl h⟩⟩
  · intro n hn
    rcases mem_unlinked_enterIdleState.mp hn with hn | ⟨rfl, habort⟩
    · exact hs.unlinked n hn
    · exact hs.confirmed hrec habort
  · intro n hn hmem
    rcases (mem_ended_enterIdleState hrec).mp hn with hn | ⟨rfl, habort⟩ <;>
      rcases mem_unlinked_enterIdleState.mp hmem with hmem | ⟨h, habort'⟩
    · exact hs.kept n hn hmem
    · exact hunused n (Or.inr (Or.inr ⟨_, hn⟩)) h
    · exact hunused _ (Or.inl hmem) rfl
    · simp [habort'] at habort
  · intro hwindow n hn
    show s.history.added.count n + (if n = s.currentRecording then _ else 0) = 1
    rw [pendingHandOvers_enterIdleState hwindow, hs.pending hrec]
    rcases (mem_ended_enterIdleState hrec).mp hn with hn | ⟨rfl, -⟩
    · have hadded := hs.added hwindow n hn
      have hn' := hunused n (Or.inr (Or.inr ⟨_, hn⟩))
      rw [if_neg hn'] at hadded ⊢
      exact hadded
    · have hnone : s.currentRecording ∉ s.history.added :=
        fun h => hunused _ (Or.inr (Or.inl h)) rfl
      rw [if_pos rfl]
      exact congrArg (· + 1) (List.count_eq_zero.mpr hnone)
  · intro _ hn
    rcases (mem_ended_enterIdleState hrec).mp hn with hn | ⟨-, habort⟩
    · exact absurd rfl (hunused _ (Or.inr (Or.inr ⟨_, hn⟩)))
    · exact habort.symm
  · rcases hn with hn | hn | ⟨b, hn⟩
    · rcases mem_unlinked_enterIdleState.mp hn with hn | ⟨rfl, -⟩
      · exact (hs.past n (Or.inl hn)).1
      · exact le_rfl
    · exact (hs.past n (Or.inr (Or.inl hn))).1
    · rcases (mem_ended_enterIdleState hrec).mp hn with hn | ⟨rfl, -⟩
      · exact (hs.past n (Or.inr (Or.inr ⟨b, hn⟩))).1
      · exact le_rfl

/-- A frame or a poll during a recording. -/
theorem Bookkeeping.frame (hs : Bookkeeping cfg s) (hrec : s.recordState ≠ .notRecording)
    (h : FrameEffect cfg s t) : Bookkeeping cfg t := by
  cases h with
  | stays same => exact hs.of_same same.sameBooks
  | enters st u before stop target after =>
    have hbefore : SameBooks s u := by
      have := before.sameBooks
      exact ⟨this.1, this.2, this.3, this.4, this.5, this.6, this.7, this.8⟩
    have hu := hs.of_same hbefore
    have hurec : u.recordState ≠ .notRecording := mt hbefore.idle.mp hrec
    refine Bookkeeping.of_same ?_ after.sameBooks
    by_cases hst : st = .notRecording
    · subst hst
      exact hu.enterIdleState hurec
    · exact hu.of_same
        { idle := by simp [hst, hurec]
          stopIsAbort := fun ha => enterPhase_stopIsAbort cfg u st ▸ ha
          currentRecording := enterPhase_currentRecording cfg u st
          pending := pendingHandOvers_enterPhase hst
          ended := enterPhase_ended cfg u hst
          unlinked := enterPhase_unlinked cfg u hst
          added := enterPhase_added cfg u st
          abortConfirmed := enterPhase_abortConfirmed cfg u st }

/-- `openFiles` takes a new name, whether it succeeds or not. -/
theorem Bookkeeping.openFiles (hs : Bookkeeping cfg s) (hnone : pendingHandOvers s = 0)
    (hcur : t.currentRecording = s.currentRecording + 1)
    (hpend : pendingHandOvers t = 0)
    (habort : t.recordState ≠ .notRecording → t.stopIsAbort = false)
    (hended : t.history.ended = s.history.ended)
    (hunlinked : t.history.unlinked = s.history.unlinked)
    (hadded : t.history.added = s.history.added)
    (hconf : t.history.abortConfirmed = s.history.abortConfirmed) : Bookkeeping cfg t := by
  refine ⟨⟨?_, ?_, ?_⟩, ?_, fun _ => hpend,
    fun h => absurd hpend h, ?_⟩
  · rw [hunlinked, hconf]
    exact hs.unlinked
  · rw [hended, hunlinked]
    exact hs.kept
  · intro hwindow n hn
    rw [hended] at hn
    have hold := hs.added hwindow n hn
    simpa [hadded, hpend, hnone] using hold
  · intro hrec ha
    simp [habort hrec] at ha
  · intro n hn
    rw [hunlinked, hadded, hended] at hn
    have hle := (hs.past n hn).1
    rw [hcur]
    omega

theorem pendingHandOvers_recordPress {u : DisplayTab} {r : OpenResult} {a : RecordReplies}
    (h : recordPress s e = some (u, r, a)) : pendingHandOvers u = pendingHandOvers s := by
  cases e with
  | callback r a =>
    simp only [recordPress, Option.ite_none_right_eq_some, Option.some.injEq,
      Prod.mk.injEq] at h
    obtain ⟨hhead, rfl, -, -⟩ := h
    rcases hc : s.callbacks with _ | ⟨c, cs⟩
    · simp [hc] at hhead
    · have hc' : c = .pressRecordButton := by simpa [hc] using hhead
      simp [pendingHandOvers, hc, hc']
  | onRecordButton r a =>
    simp only [recordPress, Option.some.injEq, Prod.mk.injEq] at h
    rw [h.1]
  | headlessRecord r a =>
    simp only [recordPress, Option.ite_none_right_eq_some, Option.some.injEq,
      Prod.mk.injEq] at h
    rw [h.2.1]
  | _ => simp [recordPress] at h

theorem Bookkeeping.records {u : DisplayTab} {r : OpenResult} {a : RecordReplies}
    (hu : Bookkeeping cfg u) (hidle : u.recordState = .notRecording)
    (hnone : pendingHandOvers u = 0) (h : RecordEffect cfg u r a t) : Bookkeeping cfg t := by
  cases h with
  | cancelled given after =>
    subst after
    exact hu
  | failed v given same files after =>
    subst after
    have hv := hu.of_same same.sameBooks
    have hvidle := same.recordState.trans hidle
    have hvnone := same.sameBooks.pending.trans hnone
    apply hv.openFiles hvnone
    · cases r <;> rfl
    · cases r <;> exact hvnone
    · rw [openFiles_recordState]
      exact fun h => absurd hvidle h
    all_goals cases r <;> rfl
  | started v st given same files phase after =>
    subst after
    have hv := hu.of_same same.sameBooks
    have hvnone := same.sameBooks.pending.trans hnone
    have hst : st ≠ .notRecording := by rcases phase with rfl | rfl <;> simp
    apply hv.openFiles hvnone
    · rw [enterPhase_currentRecording]
      rfl
    · rw [pendingHandOvers_enterPhase hst]
      exact hvnone
    · rw [enterPhase_stopIsAbort]
      exact fun _ => rfl
    · rw [enterPhase_ended cfg _ hst]
      rfl
    · rw [enterPhase_unlinked cfg _ hst]
      rfl
    · rw [enterPhase_added]
      rfl
    · rw [enterPhase_abortConfirmed]
      rfl

/-- A confirmed abort, of the recording in progress or when nothing waits to be handed over. -/
theorem Bookkeeping.requestAbort {c : Controls} (hs : Bookkeeping cfg s)
    (hlate : s.recordState = .notRecording → pendingHandOvers s = 0) :
    Bookkeeping cfg ({ s with controls := c }.requestAbort) := by
  have hconf (n : ℕ) (hn : n ∈ s.history.abortConfirmed) :
      n ∈ ({ s with controls := c }.requestAbort).history.abortConfirmed := by
    simp only [DisplayTab.requestAbort]
    split_ifs
    · exact List.mem_append_left _ hn
    · exact hn
  refine ⟨⟨fun n hn => hconf n (hs.unlinked n hn), hs.kept, hs.added⟩, ?_,
    hs.pending, ?_, hs.past⟩
  · intro hrec _
    change s.recordState ≠ .notRecording at hrec
    simp [DisplayTab.requestAbort, hrec]
  · intro hne _
    by_cases hidle : s.recordState = .notRecording
    · exact absurd (hlate hidle) hne
    · exact absurd (hs.pending hidle) hne

/-- The main thread hands over what ended without an abort. -/
theorem Bookkeeping.handsOver {cs : List Callback} (hs : Bookkeeping cfg s)
    (hqueue : s.callbacks = .refreshRecordControls :: cs) :
    Bookkeeping cfg ({ s with callbacks := cs }.recordControlsUpdateWork cfg) := by
  have hpend : pendingHandOvers s = cs.count .refreshRecordControls + 1 := by
    simp [pendingHandOvers, hqueue]
  have hidle : s.recordState = .notRecording := by
    by_contra hrec
    have hnone := hs.pending hrec
    omega
  refine ⟨⟨hs.unlinked, hs.kept, ?_⟩, fun hrec => absurd hidle hrec,
    fun hrec => absurd hidle hrec, fun _ => hs.handOver (by omega),
    fun n hn => ⟨?_, fun hrec => absurd hidle hrec⟩⟩
  · intro hwindow n hn
    have hold := hs.added hwindow n hn
    simp only [recordControlsUpdateWork, pendingHandOvers]
    by_cases hcur : n = s.currentRecording
    · subst hcur
      rw [if_pos rfl] at hold ⊢
      have habort := hs.handOver (by omega) hn
      rw [if_neg (by simp [habort]), List.count_append, List.count_singleton_self]
      omega
    · rw [if_neg hcur] at hold ⊢
      split_ifs
      · exact hold
      · have hne : ¬s.currentRecording = n := fun h => hcur h.symm
        simpa [List.count_append, hne] using hold
  · rcases hn with hn | hn | hn
    · exact (hs.past n (Or.inl hn)).1
    · simp only [recordControlsUpdateWork] at hn
      split_ifs at hn
      · exact (hs.past n (Or.inr (Or.inl hn))).1
      · rcases List.mem_append.mp hn with hn | hn
        · exact (hs.past n (Or.inr (Or.inl hn))).1
        · exact (List.mem_singleton.mp hn).le
    · exact (hs.past n (Or.inr (Or.inr hn))).1

theorem SideEffect.bookkeeping (h : SideEffect cfg s e t) (hs : Bookkeeping cfg s)
    (hlate : NoLateRequest s e t) : Bookkeeping cfg t := by
  have hfiles := h.sameFiles
  cases h with
  | quiet same calibration record stop =>
    have hbooks := same.sameBooks
    exact hs.of_same ⟨hbooks.idle, hbooks.stopIsAbort, hbooks.currentRecording, hbooks.pending,
      hbooks.ended, hbooks.unlinked, hbooks.added, hbooks.abortConfirmed⟩
  | stop cs queue request after =>
    subst after
    refine hs.of_same ⟨Iff.rfl, fun h => absurd h (by simp [stopButtonWork]), rfl, ?_, rfl, rfl,
      rfl, rfl⟩
    rcases queue with queue | queue <;> simp [pendingHandOvers, queue, stopButtonWork]
  | stopIgnored cs queue insensitive after =>
    subst after
    exact hs.of_same ⟨Iff.rfl, id, rfl, by simp [pendingHandOvers, queue], rfl, rfl, rfl, rfl⟩
  | abort c event record after =>
    subst after
    apply hs.requestAbort
    intro hidle
    rcases event with rfl | ⟨-, hrec⟩
    · exact hlate.1 rfl hidle
    · exact absurd hidle hrec
  | refreshRecord cs queue after =>
    subst after
    exact hs.handsOver queue
  | refreshStop cs queue after =>
    subst after
    exact hs.of_same ⟨Iff.rfl, id, rfl,
      by simp [pendingHandOvers, queue, stopButtonUpdateWork], rfl, rfl, rfl, rfl⟩
  | sample first second event effect =>
    have hpend : pendingHandOvers t = pendingHandOvers s := by
      cases effect <;> simp [pendingHandOvers, dispatch]
    refine hs.of_same ⟨by rw [hfiles.recordState], ?_, hfiles.currentRecording, hpend,
      hfiles.ended, hfiles.unlinked, ?_, ?_⟩ <;> cases effect <;> first | exact id | rfl

theorem step_bookkeeping (hs : Bookkeeping cfg s) (hlate : NoLateRequest s e t)
    (h : step cfg s e = some t) : Bookkeeping cfg t := by
  cases step_effect h with
  | records u r a press after =>
    have hidle := hlate.2.2 (by simp [press])
    have hpend := pendingHandOvers_recordPress press
    obtain ⟨cs, rfl⟩ := recordPress_eq press
    have hu : Bookkeeping cfg { s with callbacks := cs } :=
      hs.of_same ⟨Iff.rfl, id, rfl, hpend, rfl, rfl, rfl, rfl⟩
    rw [after]
    exact hu.records hidle.1 (hpend.trans hidle.2) (recordButtonWork_effect cfg _ r a)
  | frame image w event effect idle =>
    by_cases hidle : s.recordState = .notRecording
    · exact hs.of_same (idle hidle).sameBooks
    · exact hs.frame hidle effect
  | poll event after =>
    subst event after
    by_cases hidle : s.recordState = .notRecording
    · have hstop : s.stopRequested = false := hlate.2.1 rfl hidle
      rw [noImageData, if_neg (by simp [hstop])]
      exact hs
    · exact hs.frame hidle (noImageData_effect cfg s)
  | side press event frame effect => exact effect.bookkeeping hs hlate

end Recorder
