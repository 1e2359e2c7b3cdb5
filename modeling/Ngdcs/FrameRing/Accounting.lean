import Ngdcs.FrameRing.Model
import Mathlib.Tactic.Linarith

/-! Bookkeeping of the frame ring. Slots are counted by how often one was filled, published
and popped since the start; the ring indices are those counts modulo the number of slots. -/
namespace FrameRing
open Runs

variable {α : Type*}

/-- The first `m` slots of the ring in the order of use. -/
def slotsUpTo (c : RingShape) (m : ℕ) : List ℕ := (List.range m).map (· % c.numBuffers)

@[simp] theorem slotsUpTo_length (c : RingShape) (m : ℕ) : (slotsUpTo c m).length = m := by
  simp [slotsUpTo]

theorem slotsUpTo_succ (c : RingShape) (m : ℕ) :
    slotsUpTo c (m + 1) = slotsUpTo c m ++ [m % c.numBuffers] :=
  Ring.map_mod_range_succ _ _

theorem slotsUpTo_append (c : RingShape) (l m : ℕ) :
    slotsUpTo c (l + m) = slotsUpTo c l ++ (List.range m).map fun j => (l + j) % c.numBuffers := by
  rw [slotsUpTo, List.range_add, List.map_append, List.map_map]
  rfl

/-- The pointer under which the ring hands out frame number `i`. -/
def framePtr (c : RingShape) (i : ℕ) : FramePtr :=
  let at_ := Ring.cell c.numBuffers c.framesInOne i
  ⟨at_.1, at_.2⟩

/-- The pointer that stands in slot number `q`, at position `r` or one past the last. -/
def slotPtr (c : RingShape) (q r : ℕ) : FramePtr := ⟨q % c.numBuffers, r⟩

theorem framePtr_eq_slotPtr (c : RingShape) {q r i : ℕ} (hr : r < c.framesInOne)
    (hi : i = q * c.framesInOne + r) : framePtr c i = slotPtr c q r := by
  rw [hi, framePtr, Ring.cell_mul_add q hr, slotPtr]

/-- The counts behind the ring indices. -/
structure Numbered (c : RingShape) (s : RingRun α) : Prop where
  free : s.fb.nextFreeImageBuffer = s.filledSlots.length % c.numBuffers
  populated : s.fb.nextPopulatedImageBuffer = s.poppedSlots.length % c.numBuffers
  ready : s.publishedSlots.length = s.poppedSlots.length + s.fb.readyImageBuffers
  ready_le : s.fb.readyImageBuffers ≤ c.numBuffers
  room : s.fb.fetchPoint ≠ .waiting → s.fb.readyImageBuffers < c.numBuffers
  filled : s.filledSlots = slotsUpTo c s.filledSlots.length
  published : s.publishedSlots = slotsUpTo c s.publishedSlots.length
  popped : s.poppedSlots = slotsUpTo c s.poppedSlots.length
  unpublished : s.filledSlots.length =
    s.publishedSlots.length + if s.fb.fetchPoint = .publishing then 1 else 0
  frames : s.returned.length + s.fb.framesLeftInBuffer =
    s.poppedSlots.length * c.framesInOne
  left_lt : s.fb.framesLeftInBuffer < c.framesInOne
  returned : s.returned = (List.range s.returned.length).map (framePtr c)
  current : s.fb.currentImageBuffer =
    if s.poppedSlots.length = 0 then none
    else some (slotPtr c (s.poppedSlots.length - 1)
      (c.framesInOne - s.fb.framesLeftInBuffer))
  reading : ∀ p, s.reading = some p → s.returned.getLast? = some p
  thisFrame_lt : s.fb.thisFrame < c.framesInOne
  slotStart : s.fb.fetchPoint ≠ .fetching → s.fb.thisFrame = 0
  fetched : s.fetched.length = s.filledSlots.length * c.framesInOne + s.fb.thisFrame

theorem numbered_initial [Inhabited α] (c : RingShape) :
    Numbered c (RingRun.initial : RingRun α) where
  free := by simp [RingRun.initial, FrameBuffer.initial]
  populated := by simp [RingRun.initial, FrameBuffer.initial]
  ready := rfl
  ready_le := Nat.zero_le _
  room _ := c.numBuffers_pos
  filled := rfl
  published := rfl
  popped := rfl
  unpublished := rfl
  frames := by simp [RingRun.initial, FrameBuffer.initial]
  left_lt := c.framesInOne_pos
  returned := rfl
  current := rfl
  reading := by simp [RingRun.initial]
  thisFrame_lt := c.framesInOne_pos
  slotStart _ := rfl
  fetched := by simp [RingRun.initial, FrameBuffer.initial]

theorem fetch_unreleased (c : RingShape) (s : RingRun α) (x : α) :
    s.fetch c x false = { s with
      fb := { s.fb with
        imageBuffers :=
          Ring.write s.fb.imageBuffers s.fb.nextFreeImageBuffer s.fb.thisFrame x } } := by
  simp [RingRun.fetch, FrameBuffer.fetchFrame, RingRun.completesSlot]

theorem fetch_within (c : RingShape) (s : RingRun α) (x : α)
    (h : s.fb.thisFrame + 1 ≠ c.framesInOne) :
    s.fetch c x true = { s with
      fb := { s.fb with
        imageBuffers :=
          Ring.write s.fb.imageBuffers s.fb.nextFreeImageBuffer s.fb.thisFrame x
        thisFrame := s.fb.thisFrame + 1 }
      fetched := s.fetched ++ [x] } := by
  simp [RingRun.fetch, FrameBuffer.fetchFrame, RingRun.completesSlot, h]

theorem fetch_completes (c : RingShape) (s : RingRun α) (x : α)
    (h : s.fb.thisFrame + 1 = c.framesInOne) :
    s.fetch c x true = { s with
      fb := { s.fb with
        imageBuffers :=
          Ring.write s.fb.imageBuffers s.fb.nextFreeImageBuffer s.fb.thisFrame x
        thisFrame := 0
        nextFreeImageBuffer := Ring.bump c.numBuffers s.fb.nextFreeImageBuffer
        fetchPoint := .publishing }
      fetched := s.fetched ++ [x]
      filledSlots := s.filledSlots ++ [s.fb.nextFreeImageBuffer] } := by
  simp [RingRun.fetch, FrameBuffer.fetchFrame, RingRun.completesSlot, h]

theorem getFrame_empty (c : RingShape) (s : RingRun α) (hr : s.fb.readyImageBuffers = 0)
    (hl : s.fb.framesLeftInBuffer = 0) : s.getFrame c = { s with reading := none } := by
  simp [RingRun.getFrame, FrameBuffer.getFrame, hr, hl]

theorem getFrame_within (c : RingShape) (s : RingRun α) {p : FramePtr}
    (hl : s.fb.framesLeftInBuffer ≠ 0) (hp : s.fb.currentImageBuffer = some p) :
    s.getFrame c = { s with
      fb := { s.fb with
        currentImageBuffer := some p.next
        framesLeftInBuffer := s.fb.framesLeftInBuffer - 1 }
      returned := s.returned ++ [p]
      reading := some p } := by
  simp [RingRun.getFrame, FrameBuffer.getFrame, hl, hp]

theorem getFrame_pop (c : RingShape) (s : RingRun α) (hr : s.fb.readyImageBuffers ≠ 0)
    (hl : s.fb.framesLeftInBuffer = 0) :
    s.getFrame c = { s with
      fb := { s.fb with
        nextPopulatedImageBuffer := Ring.bump c.numBuffers s.fb.nextPopulatedImageBuffer
        readyImageBuffers := s.fb.readyImageBuffers - 1
        currentImageBuffer := some (FramePtr.next ⟨s.fb.nextPopulatedImageBuffer, 0⟩)
        framesLeftInBuffer := c.framesInOne - 1 }
      poppedSlots := s.poppedSlots ++ [s.fb.nextPopulatedImageBuffer]
      returned := s.returned ++ [⟨s.fb.nextPopulatedImageBuffer, 0⟩]
      reading := some ⟨s.fb.nextPopulatedImageBuffer, 0⟩ } := by
  simp [RingRun.getFrame, FrameBuffer.getFrame, hr, hl]

theorem waitWhileFull_fetchPoint_ne (c : RingShape) (fb : FrameBuffer α) :
    (fb.waitWhileFull c).fetchPoint ≠ .publishing := by
  unfold FrameBuffer.waitWhileFull
  split_ifs <;> simp

theorem waitWhileFull_room {c : RingShape} {fb : FrameBuffer α}
    (hle : fb.readyImageBuffers ≤ c.numBuffers)
    (hne : (fb.waitWhileFull c).fetchPoint ≠ .waiting) :
    fb.readyImageBuffers < c.numBuffers := by
  have hfull : fb.readyImageBuffers ≠ c.numBuffers := fun he =>
    hne (by simp [FrameBuffer.waitWhileFull, he])
  omega

theorem numbered_fetch {c : RingShape} {s : RingRun α} (h : Numbered c s)
    (hp : s.fb.fetchPoint = .fetching) (x : α) (released : Bool) :
    Numbered c (s.fetch c x released) := by
  have hroom := h.room (by simp [hp])
  have hun : s.filledSlots.length = s.publishedSlots.length := by simpa [hp] using h.unpublished
  cases released with
  | false => rw [fetch_unreleased]; exact { h with }
  | true =>
    by_cases hlast : s.fb.thisFrame + 1 = c.framesInOne
    · rw [fetch_completes c s x hlast]
      exact { h with
        free := by simp [h.free, Ring.bump_mod c.numBuffers_pos]
        room := fun _ => hroom
        filled := by
          rw [List.length_append, List.length_singleton, slotsUpTo_succ, ← h.filled, h.free]
        unpublished := by simp [hun]
        thisFrame_lt := c.framesInOne_pos
        slotStart := fun _ => rfl
        fetched := by
          simp only [List.length_append, List.length_singleton, h.fetched]
          rw [Nat.add_mul, Nat.one_mul, Nat.add_zero, ← hlast]
          omega }
    · rw [fetch_within c s x hlast]
      have hlt := h.thisFrame_lt
      exact { h with
        thisFrame_lt := by show s.fb.thisFrame + 1 < c.framesInOne; omega
        slotStart := fun hne => absurd hp hne
        fetched := by simp [h.fetched, Nat.add_assoc] }

theorem numbered_waitWhileFull {c : RingShape} {s : RingRun α} (h : Numbered c s)
    (hp : s.fb.fetchPoint = .waiting) :
    Numbered c { s with fb := s.fb.waitWhileFull c } := by
  have hun : s.filledSlots.length = s.publishedSlots.length := by simpa [hp] using h.unpublished
  exact { h with
    room := waitWhileFull_room h.ready_le
    unpublished := by rw [if_neg (waitWhileFull_fetchPoint_ne c s.fb)]; exact hun
    slotStart := fun _ => h.slotStart (by simp [hp]) }

theorem numbered_publish {c : RingShape} {s : RingRun α} (h : Numbered c s)
    (hp : s.fb.fetchPoint = .publishing) : Numbered c (s.publish c) := by
  have hroom := h.room (by simp [hp])
  have hun : s.filledSlots.length = s.publishedSlots.length + 1 := by
    simpa [hp] using h.unpublished
  have hready := h.ready
  exact { h with
    ready := by
      show s.filledSlots.length = s.poppedSlots.length + (s.fb.readyImageBuffers + 1)
      omega
    ready_le := hroom
    room := by
      have hle : ({ s.fb with readyImageBuffers := s.fb.readyImageBuffers + 1 } :
          FrameBuffer α).readyImageBuffers ≤ c.numBuffers := hroom
      exact waitWhileFull_room hle
    published := h.filled
    unpublished := by
      have hne : (s.publish c).fb.fetchPoint ≠ .publishing := waitWhileFull_fetchPoint_ne c _
      rw [if_neg hne]
      rfl
    slotStart := fun _ => h.slotStart (by simp [hp]) }

/-- Handing out the next frame of the slot in use. -/
theorem numbered_getFrame_within {c : RingShape} {s : RingRun α} (h : Numbered c s)
    (hl : s.fb.framesLeftInBuffer ≠ 0) : Numbered c (s.getFrame c) := by
  have hlt := h.left_lt
  have hframes := h.frames
  have hpop : s.poppedSlots.length ≠ 0 := by
    intro h0
    rw [h0, Nat.zero_mul] at hframes
    omega
  have hcur : s.fb.currentImageBuffer = some (slotPtr c (s.poppedSlots.length - 1)
      (c.framesInOne - s.fb.framesLeftInBuffer)) := by simpa [hpop] using h.current
  have hptr : framePtr c s.returned.length = slotPtr c (s.poppedSlots.length - 1)
      (c.framesInOne - s.fb.framesLeftInBuffer) := by
    obtain ⟨q, hq⟩ := Nat.exists_eq_succ_of_ne_zero hpop
    apply framePtr_eq_slotPtr c (by omega)
    rw [hq, Nat.succ_mul] at hframes
    rw [hq, Nat.succ_sub_one]
    omega
  rw [getFrame_within c s hl hcur]
  exact { h with
    frames := by
      show (s.returned ++ [_]).length + (s.fb.framesLeftInBuffer - 1) =
        s.poppedSlots.length * c.framesInOne
      rw [List.length_append, List.length_singleton]
      omega
    left_lt := by
      show s.fb.framesLeftInBuffer - 1 < c.framesInOne
      omega
    returned := by
      rw [List.length_append, List.length_singleton, List.range_succ, List.map_append,
        ← h.returned, List.map_singleton, hptr]
    current := by
      have hnext : c.framesInOne - s.fb.framesLeftInBuffer + 1 =
          c.framesInOne - (s.fb.framesLeftInBuffer - 1) := by omega
      simp [hpop, slotPtr, FramePtr.next, hnext]
    reading := fun p hp => by simpa using hp }

/-- Popping the oldest ready slot. -/
theorem numbered_getFrame_pop {c : RingShape} {s : RingRun α} (h : Numbered c s)
    (hr : s.fb.readyImageBuffers ≠ 0) (hl : s.fb.framesLeftInBuffer = 0) :
    Numbered c (s.getFrame c) := by
  have hpos := c.framesInOne_pos
  have hframes := h.frames
  have hptr : framePtr c s.returned.length = ⟨s.fb.nextPopulatedImageBuffer, 0⟩ := by
    rw [h.populated]
    exact framePtr_eq_slotPtr c hpos (by omega)
  rw [getFrame_pop c s hr hl]
  exact { h with
    populated := by simp [h.populated, Ring.bump_mod c.numBuffers_pos]
    ready := by
      have := h.ready
      simp only [List.length_append, List.length_singleton]
      omega
    ready_le := by
      have := h.ready_le
      show s.fb.readyImageBuffers - 1 ≤ _
      omega
    room := fun hne => by
      have := h.room hne
      show s.fb.readyImageBuffers - 1 < _
      omega
    popped := by
      rw [List.length_append, List.length_singleton, slotsUpTo_succ, ← h.popped, h.populated]
    frames := by
      simp only [List.length_append, List.length_singleton, Nat.add_mul, Nat.one_mul]
      omega
    left_lt := by
      show c.framesInOne - 1 < c.framesInOne
      omega
    returned := by
      rw [List.length_append, List.length_singleton, List.range_succ, List.map_append,
        ← h.returned, List.map_singleton, hptr]
    current := by
      have hone : c.framesInOne - (c.framesInOne - 1) = 1 := by omega
      simp [slotPtr, FramePtr.next, h.populated, hone]
    reading := fun p hp => by simpa using hp }

theorem numbered_getFrame {c : RingShape} {s : RingRun α} (h : Numbered c s) :
    Numbered c (s.getFrame c) := by
  by_cases hl : s.fb.framesLeftInBuffer = 0
  · by_cases hr : s.fb.readyImageBuffers = 0
    · rw [getFrame_empty c s hr hl]
      exact { h with reading := by simp }
    · exact numbered_getFrame_pop h hr hl
  · exact numbered_getFrame_within h hl

theorem numbered_step {c : RingShape} (s : RingRun α) (e : RingEvent α) (t : RingRun α)
    (h : Numbered c s) (hst : step c s e = some t) : Numbered c t := by
  cases e with
  | fetch x released =>
    simp only [step, Option.ite_none_right_eq_some, Option.some.injEq] at hst
    obtain ⟨hp, rfl⟩ := hst
    exact numbered_fetch h hp x released
  | publish =>
    simp only [step, Option.ite_none_right_eq_some, Option.some.injEq] at hst
    obtain ⟨hp, rfl⟩ := hst
    exact numbered_publish h hp
  | recheck =>
    simp only [step, Option.ite_none_right_eq_some, Option.some.injEq] at hst
    obtain ⟨hp, rfl⟩ := hst
    exact numbered_waitWhileFull h hp
  | frameIsAvailable => exact Option.some.inj hst ▸ h
  | getFrame => exact Option.some.inj hst ▸ numbered_getFrame h

theorem numbered_run [Inhabited α] {c : RingShape} {es : List (RingEvent α)} {s : RingRun α}
    (h : run (step c) .initial es = some s) : Numbered c s :=
  run_invariant numbered_step (numbered_initial c) h

/-- The slots that are ready and not yet popped, oldest first, by the ring members alone. -/
def readySlots (c : RingShape) (fb : FrameBuffer α) : List ℕ :=
  (List.range fb.readyImageBuffers).map fun j =>
    (fb.nextPopulatedImageBuffer + j) % c.numBuffers

/-- The frames of the published slots in the order in which they were fetched. -/
def publishedFrames (c : RingShape) (s : RingRun α) : List FramePtr :=
  s.publishedSlots.flatMap fun slot => (List.range c.framesInOne).map (FramePtr.mk slot)

theorem slotFrames (c : RingShape) (q : ℕ) :
    (List.range c.framesInOne).map (fun r => framePtr c (q * c.framesInOne + r)) =
      (List.range c.framesInOne).map (FramePtr.mk (q % c.numBuffers)) := by
  apply List.map_congr_left
  intro r hr
  exact framePtr_eq_slotPtr c (List.mem_range.mp hr) rfl

theorem flatMap_slotsUpTo (c : RingShape) (m : ℕ) :
    (slotsUpTo c m).flatMap (fun slot => (List.range c.framesInOne).map (FramePtr.mk slot)) =
      (List.range (m * c.framesInOne)).map (framePtr c) := by
  induction m with
  | zero => simp [slotsUpTo]
  | succ m ih =>
    rw [slotsUpTo_succ, List.flatMap_append, ih, Nat.succ_mul, List.range_add, List.map_append,
      List.map_map, List.flatMap_singleton, ← slotFrames]
    rfl

theorem Numbered.popped_append_ready {c : RingShape} {s : RingRun α} (h : Numbered c s) :
    s.poppedSlots ++ readySlots c s.fb = s.publishedSlots := by
  rw [h.published, h.ready, slotsUpTo_append, ← h.popped, readySlots, h.populated]
  simp only [Nat.mod_add_mod]

theorem Numbered.published_begins {c : RingShape} {s : RingRun α} (h : Numbered c s) :
    s.publishedSlots <+: s.filledSlots := by
  rw [h.filled, h.unpublished, slotsUpTo_append, ← h.published]
  exact List.prefix_append _ _

theorem Numbered.frames_balance {c : RingShape} {s : RingRun α} (h : Numbered c s) :
    s.returned.length + s.fb.framesLeftInBuffer + s.fb.readyImageBuffers * c.framesInOne =
      s.publishedSlots.length * c.framesInOne := by
  rw [h.frames, h.ready, Nat.add_mul]

theorem Numbered.returned_begins {c : RingShape} {s : RingRun α} (h : Numbered c s) :
    s.returned <+: publishedFrames c s := by
  have hbal := h.frames_balance
  rw [publishedFrames, h.published, flatMap_slotsUpTo, h.returned]
  have hsplit : s.publishedSlots.length * c.framesInOne = s.returned.length +
      (s.fb.framesLeftInBuffer + s.fb.readyImageBuffers * c.framesInOne) := by omega
  rw [hsplit, List.range_add, List.map_append]
  exact List.prefix_append _ _

theorem Numbered.free_modEq {c : RingShape} {s : RingRun α} (h : Numbered c s) :
    s.fb.nextFreeImageBuffer ≡ s.fb.nextPopulatedImageBuffer + s.fb.readyImageBuffers +
      (if s.fb.fetchPoint = .publishing then 1 else 0) [MOD c.numBuffers] := by
  rw [h.free, h.unpublished, h.ready, h.populated, Nat.add_assoc, Nat.add_assoc]
  exact (Nat.mod_modEq _ _).trans ((Nat.mod_modEq _ _).symm.add_right _)

/-- While a slot is being filled it is not among the ready ones: the producer is less than
one revolution ahead of the oldest ready slot. -/
theorem Numbered.filling_not_ready {c : RingShape} {s : RingRun α} (h : Numbered c s)
    (hp : s.fb.fetchPoint = .fetching) :
    s.fb.nextFreeImageBuffer ∉ readySlots c s.fb := by
  have hroom := h.room (by simp [hp])
  have hun : s.filledSlots.length = s.publishedSlots.length := by simpa [hp] using h.unpublished
  have hready := h.ready
  intro hmem
  simp only [readySlots, List.mem_map, List.mem_range, h.populated, Nat.mod_add_mod,
    h.free] at hmem
  obtain ⟨j, hj, heq⟩ := hmem
  exact Ring.mod_ne_of_lt (by omega) (by omega) heq

/-- What the ring members and the history of the ring agree on in a reachable state. -/
structure Accounting (c : RingShape) (s : RingRun α) : Prop where
  ready_le : s.fb.readyImageBuffers ≤ c.numBuffers
  nextFree_lt : s.fb.nextFreeImageBuffer < c.numBuffers
  nextPopulated_lt : s.fb.nextPopulatedImageBuffer < c.numBuffers
  index_modEq : s.fb.fetchPoint ≠ .publishing →
    s.fb.nextFreeImageBuffer ≡ s.fb.nextPopulatedImageBuffer + s.fb.readyImageBuffers
      [MOD c.numBuffers]
  filling_not_ready : s.fb.fetchPoint = .fetching →
    s.fb.nextFreeImageBuffer ∉ readySlots c s.fb
  popped_in_order : s.poppedSlots ++ readySlots c s.fb = s.publishedSlots
  published_in_order : s.publishedSlots <+: s.filledSlots
  frames_balance : s.returned.length + s.fb.framesLeftInBuffer +
    s.fb.readyImageBuffers * c.framesInOne = s.publishedSlots.length * c.framesInOne
  returned_in_order : s.returned <+: publishedFrames c s

theorem Numbered.accounting {c : RingShape} {s : RingRun α} (h : Numbered c s) :
    Accounting c s where
  ready_le := h.ready_le
  nextFree_lt := h.free ▸ Nat.mod_lt _ c.numBuffers_pos
  nextPopulated_lt := h.populated ▸ Nat.mod_lt _ c.numBuffers_pos
  index_modEq hp := by simpa [hp] using h.free_modEq
  filling_not_ready := h.filling_not_ready
  popped_in_order := h.popped_append_ready
  published_in_order := h.published_begins
  frames_balance := h.frames_balance
  returned_in_order := h.returned_begins

/-- The accounting holds after every interleaving of `FetchThread` with the consumer, for
every frame height the camera may have. -/
theorem ring_accounting [Inhabited α] (fh : ℕ) (es : List (RingEvent α)) (s : RingRun α)
    (h : run (step (alphaDataShape fh)) .initial es = some s) :
    Accounting (alphaDataShape fh) s :=
  (numbered_run h).accounting

/-- A slot of three frames is filled, with one failed release, and its first frame taken. -/
def firstSlotEvents : List (RingEvent ℕ) :=
  [.fetch 7 true, .fetch 8 false, .fetch 8 true, .fetch 9 true, .publish, .getFrame,
    .fetch 10 true]

theorem ring_accounting_first_slot :
    ∃ s : RingRun ℕ, run (step (alphaDataShape 480)) .initial firstSlotEvents = some s ∧
      Accounting (alphaDataShape 480) s ∧ s.fb.framesLeftInBuffer = 2 :=
  ⟨_, rfl, ring_accounting 480 firstSlotEvents _ rfl, rfl⟩

end FrameRing
