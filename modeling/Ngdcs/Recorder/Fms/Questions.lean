import Ngdcs.Recorder.OpenFiles

/-! The questions of `recordButtonWork` in test mode. Each of them runs a main loop of its own,
in which callbacks are delivered, other presses of the record button among them, while the data
thread goes on. So the function is cut at its questions here; `Recorder.step` answers them
at once. -/
namespace Recorder
open Runs DisplayTab

/-- What a question of `recordButtonWork` is about. -/
inductive Question where
  | obc | mount | frameRate
  deriving DecidableEq

namespace DisplayTab

variable (cfg : Settings) (s : DisplayTab) (r : OpenResult) (out : Option Bool)

/-- `recordButtonWork` from `openFiles` on. -/
def openAndStart : DisplayTab :=
  if r = .ok then (s.openFiles r).startRecording cfg else s.openFiles r

/-- `recordButtonWork` from the check of the frame rate on, to its end or to a question: there
is one where the check fails if the answer is no. -/
def recordFromFrameRate : DisplayTab × Option Question :=
  match s.checkFrameRate cfg false out with
  | none => (s, some .frameRate)
  | some s => (s.openAndStart cfg r, none)

/-- `recordButtonWork` from the check of the mount on. -/
def recordFromMount : DisplayTab × Option Question :=
  match s.checkMount cfg false with
  | none => (s, some .mount)
  | some s => s.recordFromFrameRate cfg r out

/-- `recordButtonWork` from the beginning. -/
def recordFromOBC : DisplayTab × Option Question :=
  match s.checkOBC cfg false with
  | none => (s, some .obc)
  | some s => s.recordFromMount cfg r out

end DisplayTab

/-- `recordButtonWork` behind a question that is answered with yes. -/
def Question.confirmed (cfg : Settings) (s : DisplayTab) (r : OpenResult) (out : Option Bool) :
    Question → DisplayTab × Option Question
  | .obc => s.recordFromMount cfg r out
  | .mount => s.recordFromFrameRate cfg r out
  | .frameRate => (s.openAndStart cfg r, none)

/-- The window with its questions, the latest one first, which has to be answered first. -/
structure FmsWindow where
  tab : DisplayTab
  questions : List Question

/-- A call of `recordButtonWork` has come to its end or to a question. -/
def FmsWindow.proceed (w : FmsWindow) (p : DisplayTab × Option Question) : FmsWindow :=
  ⟨p.1, p.2.toList ++ w.questions⟩

/-- What the user does, who has to answer a question first. -/
def RecorderEvent.byUser : RecorderEvent → Bool
  | .onRecordButton _ _ | .onStopButton | .onAbortButton | .abortAnswered _
  | .onOBCControlCombo _ | .onMountControlCombo _ => true
  | _ => false

/-- What can happen: an event of the recorder, whose replies are not looked at, or the answer to
the latest question. -/
inductive FmsEvent where
  | recorder (e : RecorderEvent)
  | answered (yes : Bool) (files : OpenResult) (outOfSpace : Option Bool)

def FmsWindow.step (cfg : Settings) (w : FmsWindow) : FmsEvent → Option FmsWindow
  | .recorder e =>
    if e.byUser && !w.questions.isEmpty then none
    else match recordPress w.tab e with
      | none => (Recorder.step cfg w.tab e).map fun t => { w with tab := t }
      | some (u, r, a) =>
        if (Recorder.step cfg w.tab e).isSome then
          some (w.proceed (u.recordFromOBC cfg r a.outOfSpace))
        else none
  | .answered yes r out =>
    match w.questions with
    | [] => none
    | q :: qs =>
      let w := { w with questions := qs }
      some (if yes then w.proceed (q.confirmed cfg w.tab r out) else w)

namespace FmsEvent

def samplesHigh : FmsEvent → Bool
  | .recorder e => e.samplesHigh
  | .answered _ _ _ => false

def samplesLow : FmsEvent → Bool
  | .recorder e => e.samplesLow
  | .answered _ _ _ => false

def findsNoData : FmsEvent → Bool
  | .recorder e => e.findsNoData
  | .answered _ _ _ => false

end FmsEvent

/-- `recordButtonWork` is called, or a call of it waits for an answer or gets one. -/
def FmsWindow.inRecordButtonWork (w : FmsWindow) : FmsEvent → Bool
  | .recorder e => (recordPress w.tab e).isSome || !w.questions.isEmpty
  | .answered _ _ _ => !w.questions.isEmpty

/-- The window when the data thread starts. -/
def FmsWindow.initial (cfg : Settings) (u : StartUp) : FmsWindow := ⟨Recorder.initial cfg u, []⟩

variable {cfg : Settings} {s t : DisplayTab} {r : OpenResult} {out : Option Bool}

/-! ### The checks -/

/-- Only test mode asks. -/
def Settings.AsksInTestMode (cfg : Settings) : Prop :=
  cfg.headless = false ∧ cfg.operationalMode = false

/-- What a check of `s` does for each answer: it goes through without a question, in test mode
with nothing changed, or it asks and changes nothing. -/
inductive CheckEffect (cfg : Settings) (s : DisplayTab) (check : Bool → Option DisplayTab) :
    Prop where
  | passes (u : DisplayTab) (same : SameRecording s u) (unchanged : cfg.AsksInTestMode → u = s)
      (result : ∀ yes, check yes = some u)
  | asks (test : cfg.AsksInTestMode) (confirmed : check true = some s)
      (cancelled : check false = none)

theorem checkOBC_effect (cfg : Settings) (s : DisplayTab) :
    CheckEffect cfg s (s.checkOBC cfg) := by
  by_cases hnone : cfg.obcInterface = false ∨ s.mostRecentOBCMode = .auto
  · exact .passes s (.refl s) (fun _ => rfl) fun yes => by rw [checkOBC, if_pos hnone]
  by_cases hforced : cfg.headless = true ∨ cfg.operationalMode = true
  · refine .passes { s with mostRecentOBCMode := .auto } (by constructor <;> rfl) ?_ ?_
    · rintro ⟨hwindow, htest⟩
      simp [hwindow, htest] at hforced
    · intro yes
      rw [checkOBC, if_neg hnone, if_pos hforced]
  · exact .asks (by simpa [Settings.AsksInTestMode] using hforced)
      (by rw [checkOBC, if_neg hnone, if_neg hforced, if_pos rfl])
      (by rw [checkOBC, if_neg hnone, if_neg hforced, if_neg Bool.false_ne_true])

theorem checkMount_effect (cfg : Settings) (s : DisplayTab) :
    CheckEffect cfg s (s.checkMount cfg) := by
  by_cases hnone : cfg.mountUsed = false ∨ s.mostRecentMountMode = .auto
  · exact .passes s (.refl s) (fun _ => rfl) fun yes => by rw [checkMount, if_pos hnone]
  by_cases hforced : cfg.headless = true ∨ cfg.operationalMode = true
  · refine .passes { s with mostRecentMountMode := .auto } (by constructor <;> rfl) ?_ ?_
    · rintro ⟨hwindow, htest⟩
      simp [hwindow, htest] at hforced
    · intro yes
      rw [checkMount, if_neg hnone, if_pos hforced]
  · exact .asks (by simpa [Settings.AsksInTestMode] using hforced)
      (by rw [checkMount, if_neg hnone, if_neg hforced, if_pos rfl])
      (by rw [checkMount, if_neg hnone, if_neg hforced, if_neg Bool.false_ne_true])

theorem checkFrameRate_effect (cfg : Settings) (s : DisplayTab) (out : Option Bool) :
    CheckEffect cfg s (s.checkFrameRate cfg · out) := by
  by_cases hnone : s.blockFrameRate = numFrameRates - 1
  · exact .passes s (.refl s) (fun _ => rfl) fun yes => by rw [checkFrameRate, if_pos hnone]
  by_cases hheadless : cfg.headless = true
  · refine .passes _ ?_ ?_ fun yes => by rw [checkFrameRate, if_neg hnone, if_pos hheadless]
    · constructor <;> rfl
    · rintro ⟨hwindow, -⟩
      simp [hwindow] at hheadless
  by_cases hforced : cfg.operationalMode = true
  · refine .passes _ ?_ ?_ fun yes => by
      rw [checkFrameRate, if_neg hnone, if_neg hheadless, if_pos hforced]
    · constructor <;> rfl
    · rintro ⟨-, htest⟩
      simp [htest] at hforced
  · exact .asks ⟨by simpa using hheadless, by simpa using hforced⟩
      (by rw [checkFrameRate, if_neg hnone, if_neg hheadless, if_neg hforced, if_pos rfl])
      (by rw [checkFrameRate, if_neg hnone, if_neg hheadless, if_neg hforced,
        if_neg Bool.false_ne_true])

/-! ### What becomes of a call -/

/-- The replies of a call whose questions, if any, were all answered with yes. -/
def yesReplies (out : Option Bool) : RecordReplies := ⟨true, true, true, out⟩

/-- A part of `recordButtonWork` that began in `s` comes to a question of test mode, with nothing
done that concerns a recording, or ends as the whole function does. -/
inductive CallEffect (cfg : Settings) (s : DisplayTab) (r : OpenResult) (out : Option Bool) :
    DisplayTab × Option Question → Prop where
  | asks (t : DisplayTab) (q : Question) (same : SameRecording s t)
      (test : cfg.AsksInTestMode) :
      CallEffect cfg s r out (t, some q)
  | ends (t : DisplayTab) (effect : RecordEffect cfg s r (yesReplies out) t) :
      CallEffect cfg s r out (t, none)

theorem openAndStart_effect (h : SameRecording s t) :
    RecordEffect cfg s r (yesReplies out) (t.openAndStart cfg r) := by
  have hgiven : ¬UserCancels cfg s (yesReplies out) := by simp [UserCancels, yesReplies]
  unfold openAndStart
  split_ifs with hr
  · subst hr
    unfold startRecording
    simp only
    split_ifs
    · exact .started t .science hgiven h rfl (Or.inr rfl) rfl
    · exact .started t .dark1Cal hgiven h rfl (Or.inl rfl) rfl
  · exact .failed t hgiven h hr rfl

theorem recordFromFrameRate_effect (h : SameRecording s t) :
    CallEffect cfg s r out (t.recordFromFrameRate cfg r out) := by
  unfold recordFromFrameRate
  cases checkFrameRate_effect cfg t out with
  | passes u same unchanged result =>
    rw [result false]
    exact .ends _ (openAndStart_effect (h.trans same))
  | asks test confirmed cancelled =>
    rw [cancelled]
    exact .asks t .frameRate h test

theorem recordFromMount_effect (h : SameRecording s t) :
    CallEffect cfg s r out (t.recordFromMount cfg r out) := by
  unfold recordFromMount
  cases checkMount_effect cfg t with
  | passes u same unchanged result =>
    rw [result false]
    exact recordFromFrameRate_effect (h.trans same)
  | asks test confirmed cancelled =>
    rw [cancelled]
    exact .asks t .mount h test

theorem recordFromOBC_effect (cfg : Settings) (s : DisplayTab) (r : OpenResult)
    (out : Option Bool) : CallEffect cfg s r out (s.recordFromOBC cfg r out) := by
  unfold recordFromOBC
  cases checkOBC_effect cfg s with
  | passes u same unchanged result =>
    rw [result false]
    exact recordFromMount_effect same
  | asks test confirmed cancelled =>
    rw [cancelled]
    exact .asks s .obc (.refl s) test

theorem Question.confirmed_effect (q : Question) (cfg : Settings) (s : DisplayTab)
    (r : OpenResult) (out : Option Bool) : CallEffect cfg s r out (q.confirmed cfg s r out) := by
  cases q with
  | obc => exact recordFromMount_effect (.refl s)
  | mount => exact recordFromFrameRate_effect (.refl s)
  | frameRate => exact .ends _ (openAndStart_effect (.refl s))

/-! ### Answers at once -/

/-- The reply to a question. -/
def DisplayTab.RecordReplies.to (a : RecordReplies) : Question → Bool
  | .obc => a.recordWithOBC
  | .mount => a.recordWithMount
  | .frameRate => a.recordAtRate

/-- The question that a call has come to, if any, is answered before anything else happens. -/
def answeredAtOnce (cfg : Settings) (r : OpenResult) (a : RecordReplies) :
    DisplayTab × Option Question → DisplayTab × Option Question
  | (s, none) => (s, none)
  | (s, some q) => if a.to q then q.confirmed cfg s r a.outOfSpace else (s, none)

/-- The end of a call: cancelled in `s`, or with what the checks have made of `s`. -/
def checked (cfg : Settings) (r : OpenResult) (s : DisplayTab) :
    Option DisplayTab → DisplayTab × Option Question
  | none => (s, none)
  | some u => (u.openAndStart cfg r, none)

theorem answeredAtOnce_checked (a : RecordReplies) (u : Option DisplayTab) :
    answeredAtOnce cfg r a (checked cfg r s u) = checked cfg r s u := by
  cases u <;> rfl

theorem CheckEffect.test_of_none {check : Bool → Option DisplayTab} {yes : Bool}
    (h : CheckEffect cfg s check) (hnone : check yes = none) : cfg.AsksInTestMode := by
  cases h with
  | passes u same unchanged result => simp [result yes] at hnone
  | asks test confirmed cancelled => exact test

variable (cfg s r) (a : RecordReplies)

theorem answer_recordFromFrameRate :
    answeredAtOnce cfg r a (s.recordFromFrameRate cfg r a.outOfSpace) =
      checked cfg r s (s.checkFrameRate cfg a.recordAtRate a.outOfSpace) := by
  unfold recordFromFrameRate
  cases checkFrameRate_effect cfg s a.outOfSpace with
  | passes u same unchanged result =>
    simp only [result]
    rfl
  | asks test confirmed cancelled =>
    cases hyes : a.recordAtRate with
    | true =>
      simp only [cancelled, confirmed, answeredAtOnce, RecordReplies.to, hyes, if_true]
      rfl
    | false => simp [cancelled, answeredAtOnce, RecordReplies.to, hyes, checked]

theorem answers_recordFromMount :
    (answeredAtOnce cfg r a)^[2] (s.recordFromMount cfg r a.outOfSpace) =
      checked cfg r s ((s.checkMount cfg a.recordWithMount).bind
        (checkFrameRate cfg · a.recordAtRate a.outOfSpace)) := by
  unfold recordFromMount
  cases checkMount_effect cfg s with
  | passes u same unchanged result =>
    simp only [result, Option.bind_some, Function.iterate_succ_apply, Function.iterate_zero_apply,
      answer_recordFromFrameRate, answeredAtOnce_checked]
    cases hu : u.checkFrameRate cfg a.recordAtRate a.outOfSpace with
    | none => rw [unchanged ((checkFrameRate_effect cfg u a.outOfSpace).test_of_none hu)]
    | some v => rfl
  | asks test confirmed cancelled =>
    cases hyes : a.recordWithMount with
    | true =>
      simp only [cancelled, confirmed, Option.bind_some, Function.iterate_succ_apply,
        Function.iterate_zero_apply, ← answer_recordFromFrameRate]
      simp only [answeredAtOnce, RecordReplies.to, hyes, if_true, Question.confirmed]
    | false => simp [cancelled, answeredAtOnce, RecordReplies.to, hyes, checked]

theorem test_of_checks_none (h : ((s.checkMount cfg a.recordWithMount).bind
    (checkFrameRate cfg · a.recordAtRate a.outOfSpace)) = none) : cfg.AsksInTestMode := by
  cases hmount : s.checkMount cfg a.recordWithMount with
  | none => exact (checkMount_effect cfg s).test_of_none hmount
  | some u =>
    rw [hmount, Option.bind_some] at h
    exact (checkFrameRate_effect cfg u a.outOfSpace).test_of_none h

/-- A call whose questions are answered at once does what `recordButtonWork` does. -/
theorem answers_recordFromOBC :
    (answeredAtOnce cfg r a)^[3] (s.recordFromOBC cfg r a.outOfSpace) =
      (s.recordButtonWork cfg r a, none) := by
  have hwhole : (s.recordButtonWork cfg r a, none) =
      checked cfg r s (s.prepareRecording cfg a) := by
    unfold recordButtonWork
    cases s.prepareRecording cfg a <;> rfl
  rw [hwhole]
  unfold recordFromOBC prepareRecording
  cases checkOBC_effect cfg s with
  | passes u same unchanged result =>
    simp only [result, Option.bind_some, Function.iterate_succ_apply' _ 2,
      answers_recordFromMount, answeredAtOnce_checked]
    cases hu : (u.checkMount cfg a.recordWithMount).bind
        (checkFrameRate cfg · a.recordAtRate a.outOfSpace) with
    | none => rw [unchanged (test_of_checks_none cfg u a hu)]
    | some v => rfl
  | asks test confirmed cancelled =>
    cases hyes : a.recordWithOBC with
    | true =>
      simp only [cancelled, confirmed, Option.bind_some, ← answers_recordFromMount,
        Function.iterate_succ_apply _ 2]
      simp only [answeredAtOnce, RecordReplies.to, hyes, if_true, Question.confirmed]
    | false => simp [cancelled, answeredAtOnce, RecordReplies.to, hyes, checked]

/-! ### Steps -/

variable {cfg} {s} {e : RecorderEvent} {u : DisplayTab} {r} {a}

theorem step_of_recordPress (press : recordPress s e = some (u, r, a)) (h : step cfg s e = some t) :
    t = u.recordButtonWork cfg r a := by
  cases e with
  | onRecordButton r a =>
    simp only [recordPress, Option.some.injEq, Prod.mk.injEq] at press
    obtain ⟨rfl, rfl, rfl⟩ := press
    simp only [step, Option.ite_none_right_eq_some, Option.some.injEq] at h
    exact h.2.symm
  | callback r a =>
    simp only [recordPress, Option.ite_none_right_eq_some, Option.some.injEq,
      Prod.mk.injEq] at press
    obtain ⟨hhead, rfl, rfl, rfl⟩ := press
    obtain ⟨cs, hcs⟩ := List.head?_eq_some_iff.mp hhead
    simp only [step, runCallback, hcs, Option.some.injEq] at h
    rw [← h, hcs, List.tail_cons]
  | headlessRecord r a =>
    simp only [recordPress, Option.ite_none_right_eq_some, Option.some.injEq,
      Prod.mk.injEq] at press
    obtain ⟨hidle, rfl, rfl, rfl⟩ := press
    simp only [step, hidle, if_true, Option.ite_none_right_eq_some, Option.some.injEq] at h
    exact h.2.symm
  | _ => simp [recordPress] at press

/-- Outside of test mode there are no questions, and the window does what the recorder does. -/
theorem FmsWindow.step_recorder (w : FmsWindow) (htest : ¬cfg.AsksInTestMode)
    (hnone : w.questions = []) (e : RecorderEvent) :
    w.step cfg (.recorder e) = (Recorder.step cfg w.tab e).map (⟨·, []⟩) := by
  obtain ⟨s, qs⟩ := w
  subst hnone
  simp only [FmsWindow.step, List.isEmpty_nil, Bool.not_true, Bool.and_false, Bool.false_eq_true,
    if_false]
  cases hpress : recordPress s e with
  | none => rfl
  | some p =>
    obtain ⟨u, r, a⟩ := p
    simp only
    cases hstep : Recorder.step cfg s e with
    | none => rfl
    | some t =>
      have hend : u.recordFromOBC cfg r a.outOfSpace = (u.recordButtonWork cfg r a, none) := by
        have hcall := recordFromOBC_effect cfg u r a.outOfSpace
        rw [← answers_recordFromOBC]
        generalize u.recordFromOBC cfg r a.outOfSpace = p at hcall ⊢
        cases hcall with
        | asks v q same test => exact absurd test htest
        | ends v effect => rfl
      rw [hend, step_of_recordPress hpress hstep]
      rfl

end Recorder
