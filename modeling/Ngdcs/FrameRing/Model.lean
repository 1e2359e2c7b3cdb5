import Ngdcs.Lib.Runs
import Ngdcs.Lib.Ring
import Mathlib.Data.List.Basic

/-! The frame ring of `AlphaDataFrameBuffer`: `FetchThread` fills the slots, the data thread
takes frames out of them through `frameIsAvailable` and `getFrame`. Both sides share
`m_readyImageBuffers` under `m_fetchSem`, so each critical section is one step here. -/
namespace FrameRing
open Runs

/-- `NUM_IMAGE_BUFFERS` -/
def numImageBuffers : ℕ := 200

/-- `MAX_BUFFER_HEIGHT` -/
def maxBufferHeight : ℕ := 1500

/-- `m_framesPerBuffer`, as the constructor computes it from the frame height. -/
def framesPerBuffer (fh : ℕ) : ℕ :=
  if maxBufferHeight / fh < 1 then 1 else maxBufferHeight / fh

theorem framesPerBuffer_pos (fh : ℕ) : 0 < framesPerBuffer fh := by
  unfold framesPerBuffer
  split <;> omega

structure RingShape where
  numBuffers : ℕ
  framesInOne : ℕ
  numBuffers_pos : 0 < numBuffers
  framesInOne_pos : 0 < framesInOne

/-- The ring that the constructor sets up for a camera of `fh` lines. -/
def alphaDataShape (fh : ℕ) : RingShape where
  numBuffers := numImageBuffers
  framesInOne := framesPerBuffer fh
  numBuffers_pos := by decide
  framesInOne_pos := framesPerBuffer_pos fh

/-- A `void *` into the ring, counted in frames from the start of a slot. One past the last
frame of a slot is a value that `m_currentImageBuffer` really takes. -/
structure FramePtr where
  slot : ℕ
  frame : ℕ
  deriving DecidableEq

def FramePtr.next (p : FramePtr) : FramePtr := { p with frame := p.frame + 1 }

/-- Where `FetchThread` stands: about to fetch a frame, between advancing the slot index and
incrementing the ready count, or in the wait loop of a full ring. -/
inductive FetchPoint where
  | fetching | publishing | waiting
  deriving DecidableEq

/-- The ring members of `AlphaDataFrameBuffer`, with the local variables of `FetchThread`. -/
structure FrameBuffer (α : Type*) where
  nextFreeImageBuffer : ℕ
  nextPopulatedImageBuffer : ℕ
  readyImageBuffers : ℕ
  imageBuffers : ℕ → ℕ → α
  currentImageBuffer : Option FramePtr
  framesLeftInBuffer : ℕ
  thisFrame : ℕ
  fetchPoint : FetchPoint

variable {α : Type*}

/-- The state the constructor leaves: empty ring, buffers cleared by `memset`. -/
def FrameBuffer.initial [Inhabited α] : FrameBuffer α where
  nextFreeImageBuffer := 0
  nextPopulatedImageBuffer := 0
  readyImageBuffers := 0
  imageBuffers _ _ := default
  currentImageBuffer := none
  framesLeftInBuffer := 0
  thisFrame := 0
  fetchPoint := .fetching

namespace FrameBuffer

def frameIsAvailable (fb : FrameBuffer α) : Bool :=
  decide (0 < fb.readyImageBuffers) || decide (fb.framesLeftInBuffer ≠ 0)

def getFrame (c : RingShape) (fb : FrameBuffer α) : Option FramePtr × FrameBuffer α :=
  if fb.readyImageBuffers = 0 ∧ fb.framesLeftInBuffer = 0 then (none, fb)
  else if fb.framesLeftInBuffer ≠ 0 then
    (fb.currentImageBuffer,
      { fb with
        currentImageBuffer := fb.currentImageBuffer.map FramePtr.next
        framesLeftInBuffer := fb.framesLeftInBuffer - 1 })
  else
    let result : FramePtr := ⟨fb.nextPopulatedImageBuffer, 0⟩
    (some result,
      { fb with
        nextPopulatedImageBuffer := Ring.bump c.numBuffers fb.nextPopulatedImageBuffer
        readyImageBuffers := fb.readyImageBuffers - 1
        currentImageBuffer := some result.next
        framesLeftInBuffer := c.framesInOne - 1 })

/-- One delivered frame: `memcpy` into the slot, then `ReleaseFrameChk`, whose failure leaves
the position to be overwritten by the next frame. -/
def fetchFrame (c : RingShape) (fb : FrameBuffer α) (frame : α) (released : Bool) :
    FrameBuffer α :=
  let fb := { fb with
    imageBuffers := Ring.write fb.imageBuffers fb.nextFreeImageBuffer fb.thisFrame frame }
  if released then
    if fb.thisFrame + 1 = c.framesInOne then
      { fb with
        thisFrame := 0
        nextFreeImageBuffer := Ring.bump c.numBuffers fb.nextFreeImageBuffer
        fetchPoint := .publishing }
    else { fb with thisFrame := fb.thisFrame + 1 }
  else fb

/-- The test of the wait loop, made with `m_fetchSem` held. -/
def waitWhileFull (c : RingShape) (fb : FrameBuffer α) : FrameBuffer α :=
  { fb with
    fetchPoint := if fb.readyImageBuffers = c.numBuffers then .waiting else .fetching }

/-- `m_readyImageBuffers++` and the first test of the wait loop. -/
def publish (c : RingShape) (fb : FrameBuffer α) : FrameBuffer α :=
  waitWhileFull c { fb with readyImageBuffers := fb.readyImageBuffers + 1 }

end FrameBuffer

/-- A frame buffer in use, with the history that the properties speak about: slots in the
order in which they were filled, published and popped, the frames fetched, the pointers
returned, and the one whose frame the consumer is still reading. -/
structure RingRun (α : Type*) where
  fb : FrameBuffer α
  filledSlots : List ℕ
  publishedSlots : List ℕ
  poppedSlots : List ℕ
  fetched : List α
  returned : List FramePtr
  reading : Option FramePtr

def RingRun.initial [Inhabited α] : RingRun α where
  fb := .initial
  filledSlots := []
  publishedSlots := []
  poppedSlots := []
  fetched := []
  returned := []
  reading := none

/-- Steps of `FetchThread` and calls of the consumer. A failed `GetFrame` of the SDK makes
`FetchThread` loop without effect and is no event. -/
inductive RingEvent (α : Type*) where
  | fetch (frame : α) (released : Bool)
  | publish
  | recheck
  | frameIsAvailable
  | getFrame

namespace RingRun

/-- The frame that completes a slot, if this fetch does. -/
def completesSlot (c : RingShape) (s : RingRun α) (released : Bool) : Bool :=
  released && decide (s.fb.thisFrame + 1 = c.framesInOne)

def fetch (c : RingShape) (s : RingRun α) (frame : α) (released : Bool) : RingRun α :=
  { s with
    fb := s.fb.fetchFrame c frame released
    fetched := if released then s.fetched ++ [frame] else s.fetched
    filledSlots :=
      if s.completesSlot c released then s.filledSlots ++ [s.fb.nextFreeImageBuffer]
      else s.filledSlots }

def publish (c : RingShape) (s : RingRun α) : RingRun α :=
  { s with fb := s.fb.publish c, publishedSlots := s.filledSlots }

def getFrame (c : RingShape) (s : RingRun α) : RingRun α :=
  { s with
    fb := (s.fb.getFrame c).2
    poppedSlots :=
      if s.fb.readyImageBuffers ≠ 0 ∧ s.fb.framesLeftInBuffer = 0 then
        s.poppedSlots ++ [s.fb.nextPopulatedImageBuffer]
      else s.poppedSlots
    returned := s.returned ++ (s.fb.getFrame c).1.toList
    reading := (s.fb.getFrame c).1 }

end RingRun

/-- One atomic step. The producer's events are enabled at their point of `FetchThread`; the
consumer may call at any time. -/
def step (c : RingShape) (s : RingRun α) : RingEvent α → Option (RingRun α)
  | .fetch frame released =>
      if s.fb.fetchPoint = .fetching then some (s.fetch c frame released) else none
  | .publish => if s.fb.fetchPoint = .publishing then some (s.publish c) else none
  | .recheck =>
      if s.fb.fetchPoint = .waiting then some { s with fb := s.fb.waitWhileFull c } else none
  | .frameIsAvailable => some s
  | .getFrame => some (s.getFrame c)

end FrameRing
