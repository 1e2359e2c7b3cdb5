import Ngdcs.FrameRing.Accounting

/-! When a slot is filled again. The ready count drops as soon as the first frame of a slot
is handed out, so the slot in use is protected only while another slot is free. -/
namespace FrameRing
open Runs

variable {α : Type*}

/-- The consumer has popped `slot` and is not done with it: frames of it remain to be handed
out, or the last one handed out is still being read. -/
def SlotInUse (s : RingRun α) (slot : ℕ) : Prop :=
  (s.fb.framesLeftInBuffer ≠ 0 ∧ ∃ p, s.fb.currentImageBuffer = some p ∧ p.slot = slot) ∨
    ∃ p, s.reading = some p ∧ p.slot = slot

/-- `FetchThread` does not copy a frame into a slot in use. -/
def SparesSlotInUse (s : RingRun α) : RingEvent α → RingRun α → Prop
  | .fetch _ _, _ => ¬SlotInUse s s.fb.nextFreeImageBuffer
  | _, _ => True

/-- Some popped slot is in use. -/
def HoldsSlot (s : RingRun α) : Prop :=
  s.fb.framesLeftInBuffer ≠ 0 ∨ s.reading.isSome = true

instance (s : RingRun α) : Decidable (HoldsSlot s) := inferInstanceAs (Decidable (_ ∨ _))

/-- `FetchThread` copies a frame only while two slots are not ready, or none is in use. -/
def FetchHasSlack (c : RingShape) (s : RingRun α) : RingEvent α → RingRun α → Prop
  | .fetch _ _, _ => s.fb.readyImageBuffers + 1 < c.numBuffers ∨ ¬HoldsSlot s
  | _, _ => True

instance (c : RingShape) (s : RingRun α) (e : RingEvent α) (t : RingRun α) :
    Decidable (FetchHasSlack c s e t) :=
  match e with
  | .fetch _ _ => inferInstanceAs (Decidable (_ ∨ ¬HoldsSlot s))
  | .publish | .recheck | .frameIsAvailable | .getFrame => inferInstanceAs (Decidable True)

/-- The frame last handed out still has the contents that were fetched for it. -/
def ReadingIntact (s : RingRun α) : Prop :=
  ∀ p, s.reading = some p →
    s.fetched[s.returned.length - 1]? = some (s.fb.imageBuffers p.slot p.frame)

theorem Numbered.popped_pos {c : RingShape} {s : RingRun α} (h : Numbered c s)
    (hold : HoldsSlot s) : 0 < s.poppedSlots.length := by
  have hframes := h.frames
  by_contra hzero
  have hnone : s.poppedSlots.length = 0 := by omega
  rw [hnone, Nat.zero_mul] at hframes
  rcases hold with hleft | hread
  · omega
  · obtain ⟨p, hp⟩ := Option.isSome_iff_exists.mp hread
    have hlast := h.reading p hp
    have hnil : s.returned = [] := List.eq_nil_of_length_eq_zero (by omega)
    simp [hnil] at hlast

/-- The frame being read is the last one returned, in the slot popped last. -/
theorem Numbered.reading_eq {c : RingShape} {s : RingRun α} (h : Numbered c s)
    {p : FramePtr} (hp : s.reading = some p) :
    p = framePtr c (s.returned.length - 1) ∧ 0 < s.returned.length ∧
      p.slot = (s.poppedSlots.length - 1) % c.numBuffers := by
  have hlast := h.reading p hp
  have hpos : 0 < s.returned.length := by
    rcases List.eq_nil_or_concat s.returned with hnil | ⟨l, a, ha⟩
    · simp [hnil] at hlast
    · simp [ha]
  have hpopped := h.popped_pos (Or.inr (by simp [hp]))
  have hptr : p = framePtr c (s.returned.length - 1) := by
    rw [h.returned, List.getLast?_map, List.getLast?_range] at hlast
    simpa [hpos.ne'] using hlast.symm
  refine ⟨hptr, hpos, ?_⟩
  have hframes := h.frames
  have hleft := h.left_lt
  obtain ⟨q, hq⟩ := Nat.exists_eq_succ_of_ne_zero hpopped.ne'
  rw [hq, Nat.succ_mul] at hframes
  rw [hptr, framePtr_eq_slotPtr c (q := q) (r := c.framesInOne - s.fb.framesLeftInBuffer - 1)
    (by omega) (by omega), hq]
  rfl

theorem Numbered.slotInUse_iff {c : RingShape} {s : RingRun α} (h : Numbered c s) (slot : ℕ) :
    SlotInUse s slot ↔
      HoldsSlot s ∧ slot = (s.poppedSlots.length - 1) % c.numBuffers := by
  constructor
  · rintro (⟨hleft, p, hp, rfl⟩ | ⟨p, hp, rfl⟩)
    · have hpopped := h.popped_pos (Or.inl hleft)
      have hcur := h.current
      rw [if_neg hpopped.ne', hp] at hcur
      exact ⟨Or.inl hleft, congrArg FramePtr.slot (Option.some.inj hcur)⟩
    · exact ⟨Or.inr (by simp [hp]), (h.reading_eq hp).2.2⟩
  · rintro ⟨hold, rfl⟩
    rcases hold with hleft | hread
    · have hpopped := h.popped_pos (Or.inl hleft)
      have hcur := h.current
      rw [if_neg hpopped.ne'] at hcur
      exact Or.inl ⟨hleft, _, hcur, rfl⟩
    · obtain ⟨p, hp⟩ := Option.isSome_iff_exists.mp hread
      exact Or.inr ⟨p, hp, (h.reading_eq hp).2.2⟩

/-- The slot being filled is the one in use exactly when all other slots are ready. -/
theorem Numbered.free_eq_inUse_iff {c : RingShape} {s : RingRun α} (h : Numbered c s)
    (hp : s.fb.fetchPoint = .fetching) (hold : HoldsSlot s) :
    s.fb.nextFreeImageBuffer = (s.poppedSlots.length - 1) % c.numBuffers ↔
      ¬s.fb.readyImageBuffers + 1 < c.numBuffers := by
  have hpopped := h.popped_pos hold
  have hroom := h.room (by simp [hp])
  have hready := h.ready
  have hun : s.filledSlots.length = s.publishedSlots.length := by simpa [hp] using h.unpublished
  rw [h.free]
  constructor
  · intro heq hslack
    exact Ring.mod_ne_of_lt (by omega) (by omega) heq.symm
  · intro hfull
    exact Ring.mod_eq_of_revolution (by omega)

theorem spares_iff_hasSlack {c : RingShape} (s : RingRun α) (e : RingEvent α) (t : RingRun α)
    (h : Numbered c s) (hst : step c s e = some t) :
    SparesSlotInUse s e t ↔ FetchHasSlack c s e t := by
  cases e with
  | fetch x released =>
    simp only [step, Option.ite_none_right_eq_some] at hst
    simp only [SparesSlotInUse, FetchHasSlack, h.slotInUse_iff, not_and]
    by_cases hold : HoldsSlot s
    · simp [hold, h.free_eq_inUse_iff hst.1 hold]
    · simp [hold]
  | publish | recheck | frameIsAvailable | getFrame => simp [SparesSlotInUse, FetchHasSlack]

/-- The number of the oldest slot whose contents still matter to the consumer. -/
def oldestNeeded (s : RingRun α) : ℕ :=
  if HoldsSlot s then s.poppedSlots.length - 1 else s.poppedSlots.length

/-- Every frame from the oldest needed slot on is in the ring as it was fetched. -/
def Intact (c : RingShape) (s : RingRun α) : Prop :=
  ∀ i, oldestNeeded s * c.framesInOne ≤ i → i < s.fetched.length →
    s.fetched[i]? = some (s.fb.imageBuffers (framePtr c i).slot (framePtr c i).frame)

theorem intact_initial [Inhabited α] (c : RingShape) : Intact c (.initial : RingRun α) := by
  intro i _ hi
  simp [RingRun.initial] at hi

/-- Copying a frame leaves every other cell of the ring alone. -/
theorem fetch_memory (c : RingShape) (s : RingRun α) (x : α) (released : Bool) :
    (s.fetch c x released).fb.imageBuffers =
      Ring.write s.fb.imageBuffers s.fb.nextFreeImageBuffer s.fb.thisFrame x := by
  cases released with
  | false => rw [fetch_unreleased]
  | true =>
    by_cases hlast : s.fb.thisFrame + 1 = c.framesInOne
    · rw [fetch_completes c s x hlast]
    · rw [fetch_within c s x hlast]

theorem fetch_oldestNeeded (c : RingShape) (s : RingRun α) (x : α) (released : Bool) :
    oldestNeeded (s.fetch c x released) = oldestNeeded s := by
  cases released with
  | false => rw [fetch_unreleased]; rfl
  | true =>
    by_cases hlast : s.fb.thisFrame + 1 = c.framesInOne
    · rw [fetch_completes c s x hlast]; rfl
    · rw [fetch_within c s x hlast]; rfl

theorem Numbered.free_cell {c : RingShape} {s : RingRun α} (h : Numbered c s) :
    framePtr c s.fetched.length = ⟨s.fb.nextFreeImageBuffer, s.fb.thisFrame⟩ := by
  rw [h.fetched, h.free]
  exact framePtr_eq_slotPtr c h.thisFrame_lt rfl

/-- With slack, the cell being filled lies within one revolution of every needed frame. -/
theorem Numbered.write_misses {c : RingShape} {s : RingRun α} (h : Numbered c s)
    (hp : s.fb.fetchPoint = .fetching)
    (hslack : s.fb.readyImageBuffers + 1 < c.numBuffers ∨ ¬HoldsSlot s) {i : ℕ}
    (hlow : oldestNeeded s * c.framesInOne ≤ i) (hi : i < s.fetched.length) :
    ((framePtr c i).slot, (framePtr c i).frame) ≠
      (s.fb.nextFreeImageBuffer, s.fb.thisFrame) := by
  have hroom := h.room (by simp [hp])
  have hun : s.filledSlots.length = s.publishedSlots.length := by simpa [hp] using h.unpublished
  have hready := h.ready
  have hslot : s.fetched.length / c.framesInOne = s.filledSlots.length := by
    rw [h.fetched, Ring.div_mul_add _ h.thisFrame_lt]
  have hlow' : oldestNeeded s ≤ i / c.framesInOne :=
    (Nat.le_div_iff_mul_le c.framesInOne_pos).mpr hlow
  have hnear : s.fetched.length / c.framesInOne < i / c.framesInOne + c.numBuffers := by
    rw [hslot]
    unfold oldestNeeded at hlow'
    split_ifs at hlow' with hold
    · rcases hslack with hslack | hnone
      · omega
      · exact absurd hold hnone
    · omega
  have hcell := Ring.cell_ne hi hnear
  have hfree := h.free_cell
  intro heq
  apply hcell
  have hlast : Ring.cell c.numBuffers c.framesInOne s.fetched.length =
      (s.fb.nextFreeImageBuffer, s.fb.thisFrame) :=
    Prod.ext (congrArg FramePtr.slot hfree) (congrArg FramePtr.frame hfree)
  rw [hlast, ← heq]
  rfl

theorem intact_fetch {c : RingShape} {s : RingRun α} (h : Numbered c s) (hin : Intact c s)
    (hp : s.fb.fetchPoint = .fetching)
    (hslack : s.fb.readyImageBuffers + 1 < c.numBuffers ∨ ¬HoldsSlot s) (x : α)
    (released : Bool) : Intact c (s.fetch c x released) := by
  intro i hlow hi
  rw [fetch_oldestNeeded] at hlow
  rw [fetch_memory]
  by_cases hold : i < s.fetched.length
  · rw [Ring.write_of_ne _ _ (h.write_misses hp hslack hlow hold), ← hin i hlow hold]
    cases released with
    | false => rfl
    | true => exact List.getElem?_append_left hold
  · cases released with
    | false => exact absurd hi hold
    | true =>
      have hlen : i = s.fetched.length := by
        have : i < (s.fetched ++ [x]).length := hi
        rw [List.length_append, List.length_singleton] at this
        omega
      rw [hlen, h.free_cell, Ring.write_same]
      exact List.getElem?_concat_length

/-- Fewer frames are needed after every call of the consumer. -/
theorem getFrame_oldestNeeded (c : RingShape) (s : RingRun α) :
    oldestNeeded s ≤ oldestNeeded (s.getFrame c) := by
  by_cases hl : s.fb.framesLeftInBuffer = 0
  · by_cases hr : s.fb.readyImageBuffers = 0
    · rw [getFrame_empty c s hr hl]
      unfold oldestNeeded
      split_ifs with hbefore hafter hafter
      · exact le_rfl
      · exact Nat.sub_le _ _
      · simp [HoldsSlot, hl] at hafter
      · exact le_rfl
    · rw [getFrame_pop c s hr hl]
      unfold oldestNeeded
      simp only [List.length_append, List.length_singleton]
      split_ifs <;> omega
  · have hold : HoldsSlot s := Or.inl hl
    have hpop : (s.getFrame c).poppedSlots = s.poppedSlots := by
      simp [RingRun.getFrame, hl]
    unfold oldestNeeded
    rw [if_pos hold, hpop]
    split_ifs <;> omega

theorem intact_getFrame {c : RingShape} {s : RingRun α} (hin : Intact c s) :
    Intact c (s.getFrame c) := by
  have hmem : (s.getFrame c).fb.imageBuffers = s.fb.imageBuffers := by
    simp only [RingRun.getFrame, FrameBuffer.getFrame]
    split_ifs <;> rfl
  intro i hlow hi
  rw [hmem]
  exact hin i ((Nat.mul_le_mul_right _ (getFrame_oldestNeeded c s)).trans hlow) hi

theorem intact_step {c : RingShape} (s : RingRun α) (e : RingEvent α) (t : RingRun α)
    (h : Numbered c s ∧ Intact c s) (hslack : FetchHasSlack c s e t)
    (hst : step c s e = some t) : Numbered c t ∧ Intact c t := by
  refine ⟨numbered_step s e t h.1 hst, ?_⟩
  cases e with
  | fetch x released =>
    simp only [step, Option.ite_none_right_eq_some, Option.some.injEq] at hst
    obtain ⟨hp, rfl⟩ := hst
    exact intact_fetch h.1 h.2 hp hslack x released
  | publish | recheck =>
    simp only [step, Option.ite_none_right_eq_some, Option.some.injEq] at hst
    obtain ⟨hp, rfl⟩ := hst
    exact h.2
  | frameIsAvailable => exact Option.some.inj hst ▸ h.2
  | getFrame => exact Option.some.inj hst ▸ intact_getFrame h.2

theorem Intact.reading {c : RingShape} {s : RingRun α} (hin : Intact c s)
    (h : Numbered c s) : ReadingIntact s := by
  intro p hp
  obtain ⟨hptr, hpos, -⟩ := h.reading_eq hp
  have hold : HoldsSlot s := Or.inr (by simp [hp])
  have hpopped := h.popped_pos hold
  have hframes := h.frames
  have hleft := h.left_lt
  have hfetched := h.fetched
  obtain ⟨q, hq⟩ := Nat.exists_eq_succ_of_ne_zero hpopped.ne'
  have hle : s.poppedSlots.length ≤ s.filledSlots.length := by
    have := h.ready
    have := h.unpublished
    omega
  have hmul := Nat.mul_le_mul_right c.framesInOne hle
  rw [hptr]
  apply hin
  · rw [oldestNeeded, if_pos hold, hq, Nat.succ_sub_one]
    rw [hq, Nat.succ_mul] at hframes
    omega
  · omega

/-- `FetchThread` stays out of the slot in use along a run exactly when it copies frames only
with slack, and then every frame handed out keeps its contents until the next call. -/
theorem fetch_spares_slot_in_use_iff [Inhabited α] (fh : ℕ) (es : List (RingEvent α)) :
    (EachStep (step (alphaDataShape fh)) SparesSlotInUse .initial es ↔
      EachStep (step (alphaDataShape fh)) (FetchHasSlack (alphaDataShape fh)) .initial es) ∧
    (EachStep (step (alphaDataShape fh)) (FetchHasSlack (alphaDataShape fh)) .initial es →
      ∀ s, run (step (alphaDataShape fh)) .initial es = some s → ReadingIntact s) := by
  constructor
  · exact eachStep_iff_of_invariant spares_iff_hasSlack
      (fun s e t h _ hst => numbered_step s e t h hst) (numbered_initial _)
  · intro hslack s hrun
    obtain ⟨hnum, hin⟩ := EachStep.invariant intact_step
      ⟨numbered_initial _, intact_initial _⟩ hslack hrun
    exact hin.reading hnum

theorem fetch_spares_slot_in_use_first_slot :
    EachStep (step (alphaDataShape 480)) SparesSlotInUse .initial firstSlotEvents ∧
      ∃ s, run (step (alphaDataShape 480)) .initial firstSlotEvents = some s ∧
        ReadingIntact s := by
  have hslack : EachStep (step (alphaDataShape 480)) (FetchHasSlack (alphaDataShape 480))
      .initial firstSlotEvents := by decide
  have hiff := fetch_spares_slot_in_use_iff 480 firstSlotEvents
  exact ⟨hiff.1.mpr hslack, _, rfl, hiff.2 hslack _ rfl⟩

/-- A camera of 1024 lines fills the whole ring before the consumer asks for a frame. -/
def fullRingEvents : List (RingEvent ℕ) :=
  (List.range 200).flatMap fun i => [.fetch i true, .publish]

/-- What the consumer and `FetchThread` have in hand. -/
structure RingView where
  fetchPoint : FetchPoint
  nextFree : ℕ
  thisFrame : ℕ
  reading : Option FramePtr
  returned : ℕ
  firstFetched : Option ℕ
  firstCell : ℕ
  deriving DecidableEq

def ringView (s : RingRun ℕ) : RingView where
  fetchPoint := s.fb.fetchPoint
  nextFree := s.fb.nextFreeImageBuffer
  thisFrame := s.fb.thisFrame
  reading := s.reading
  returned := s.returned.length
  firstFetched := s.fetched[0]?
  firstCell := s.fb.imageBuffers 0 0

/-- With all other slots ready, the frame being read is overwritten by the next one. -/
theorem fetch_overwrites_slot_in_use :
    ∃ s t : RingRun ℕ,
      run (step (alphaDataShape 1024)) .initial (fullRingEvents ++ [.getFrame, .recheck]) =
        some s ∧
      step (alphaDataShape 1024) s (.fetch 200 true) = some t ∧
      ¬SparesSlotInUse s (.fetch 200 true) t ∧ ReadingIntact s ∧ ¬ReadingIntact t := by
  have hview : (run (step (alphaDataShape 1024)) .initial
      (fullRingEvents ++ [.getFrame, .recheck])).map ringView =
      some ⟨.fetching, 0, 0, some ⟨0, 0⟩, 1, some 0, 0⟩ := by decide +kernel
  obtain ⟨s, hs, hv⟩ := Option.map_eq_some_iff.mp hview
  simp only [ringView, RingView.mk.injEq] at hv
  obtain ⟨hpoint, hfree, hthis, hread, hret, hfetched, hmem⟩ := hv
  refine ⟨s, s.fetch (alphaDataShape 1024) 200 true, hs, by simp [step, hpoint], ?_, ?_, ?_⟩
  · simp only [SparesSlotInUse, not_not]
    exact Or.inr ⟨_, hread, hfree.symm⟩
  · intro p hp
    obtain rfl : ⟨0, 0⟩ = p := Option.some.inj (hread.symm.trans hp)
    rw [hret, hmem]
    exact hfetched
  · intro hintact
    have hbefore := (List.getElem?_eq_some_iff.mp hfetched).1
    have hafter := hintact ⟨0, 0⟩ hread
    rw [fetch_memory, hfree, hthis, Ring.write_same] at hafter
    have hkeep : (s.fetch (alphaDataShape 1024) 200 true).fetched[0]? = some 0 := by
      rw [← hfetched]
      exact List.getElem?_append_left hbefore
    have hone : (s.fetch (alphaDataShape 1024) 200 true).returned.length - 1 = 0 := by
      show s.returned.length - 1 = 0
      rw [hret]
    rw [hone, hkeep] at hafter
    simp at hafter

end FrameRing
