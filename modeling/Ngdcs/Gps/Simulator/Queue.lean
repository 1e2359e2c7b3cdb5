import Ngdcs.Gps.Framing
import Ngdcs.Gps.Simulator.Model
import Ngdcs.Lib.Backlog
import Mathlib.Data.List.GetD

/-! The words of the simulated messages on their way through the buffer. How the messages are
cut into chunks depends on the frame rate and the kind of simulation only. -/
namespace Gps
open Backlog

def SimMessage.size (m : SimMessage) : ℕ := m.words.length

@[simp] theorem size_m3500 (gpsMode systemStatus : UInt16) :
    (SimMessage.m3500 gpsMode systemStatus).size = gpsMsg3500Words := rfl

@[simp] theorem size_m3501 (fix : NavFix) :
    (SimMessage.m3501 fix).size = gpsMsg3501Words := rfl

theorem SimMessage.size_pos (m : SimMessage) : 0 < m.size := by
  cases m with
  | m3500 gpsMode systemStatus => exact (by decide : 0 < gpsMsg3500Words)
  | m3501 fix => exact (by decide : 0 < gpsMsg3501Words)

theorem length_words (ms : List SimMessage) :
    (ms.flatMap SimMessage.words).length = total SimMessage.size ms :=
  length_flatMap SimMessage.words ms

/-! ### Chunks -/

/-- The sizes of the messages in the buffer, and how much of the first one has been placed. -/
abbrev Layout := Pending ℕ

namespace Layout

def waiting (q : Layout) : ℕ := q.left id

/-- A message of `n` words comes, which is dropped where it does not fit. -/
def offer (n : ℕ) (q : Layout) : Layout :=
  if q.waiting + n > msgSimBufWords then q else ⟨q.items ++ [n], q.done⟩

def place (q : Layout) : Layout := (advance id (q.done + min maxChunk q.waiting) q.items).2

/-- One frame, for which a 3500 or a 3501 message may be due. -/
def frame (is3500 is3501 : Bool) (q : Layout) : Layout :=
  let q := if is3500 then q.offer gpsMsg3500Words else q
  let q := if is3501 then q.offer gpsMsg3501Words else q
  q.place

/-- After `n` frames -/
def after (cfg : SimSettings) : ℕ → Layout
  | 0 => ⟨[], 0⟩
  | n + 1 => (after cfg n).frame (GpsSimulator.due3500 cfg (UInt32.ofNat (n + 1)))
      (GpsSimulator.due3501 cfg (UInt32.ofNat (n + 1)))

end Layout

/-- The layout of messages of which `n` words have been placed. -/
def layoutOf (n : ℕ) (ms : List SimMessage) : Layout :=
  ⟨(advance SimMessage.size n ms).2.items.map SimMessage.size,
    (advance SimMessage.size n ms).2.done⟩

theorem layoutOf_eq (n : ℕ) (ms : List SimMessage) :
    layoutOf n ms = (advance id n (ms.map SimMessage.size)).2 :=
  congrArg Prod.snd (advance_sizes n ms).symm

theorem placeChunk_state (s : GpsSimulator) (image : ℕ → UInt16) :
    (s.placeChunk image).1 = { s with msgSimBuf := s.msgSimBuf.drop maxChunk } := by
  unfold GpsSimulator.placeChunk
  split_ifs with hnil
  · simp [List.drop_eq_drop_iff]
  · rw [not_not] at hnil
    rw [List.drop_eq_nil_of_le (hnil ▸ Nat.zero_le _), ← List.length_eq_zero_iff.mp hnil]

/-- The words that have been placed and the ones in the buffer are those of the messages. -/
structure Buffers (stream : List UInt16) (q : Layout) (s : GpsSimulator) : Prop where
  order : stream ++ s.msgSimBuf = s.enqueued.flatMap SimMessage.words
  held : s.msgSimBuf.length ≤ s.mostWords
  bounded : s.mostWords ≤ msgSimBufWords
  layout : q = layoutOf stream.length s.enqueued

namespace Buffers

variable {stream : List UInt16} {q : Layout} {s : GpsSimulator}

theorem initial : Buffers [] ⟨[], 0⟩ .initial where
  order := rfl
  held := Nat.zero_le _
  bounded := Nat.zero_le _
  layout := rfl

theorem length_eq (h : Buffers stream q s) :
    stream.length + s.msgSimBuf.length = total SimMessage.size s.enqueued := by
  rw [← List.length_append, h.order, length_words]

theorem placed_le (h : Buffers stream q s) :
    stream.length ≤ total SimMessage.size s.enqueued := by
  have := h.length_eq
  omega

theorem waiting_eq (h : Buffers stream q s) : q.waiting = s.msgSimBuf.length := by
  have hlength := h.length_eq
  have hsizes : total id (s.enqueued.map SimMessage.size) = total SimMessage.size s.enqueued :=
    total_sizes SimMessage.size s.enqueued
  rw [Layout.waiting, h.layout, layoutOf_eq, left_advance (hsizes ▸ h.placed_le), hsizes]
  omega

/-- A message that fits goes behind the others, and the layout says whether it fits. -/
theorem push (h : Buffers stream q s) {m : SimMessage} {k : ℕ} (hm : m.size = k)
    (s' : GpsSimulator) (hbuf : s'.msgSimBuf = s.msgSimBuf)
    (henqueued : s'.enqueued = s.enqueued) (hmost : s'.mostWords = s.mostWords) :
    Buffers stream (q.offer k)
      (if s.msgSimBuf.length + k > msgSimBufWords then s else s'.push m) := by
  unfold Layout.offer
  rw [h.waiting_eq]
  split_ifs with hfull
  · exact h
  · constructor
    · show stream ++ (s'.msgSimBuf ++ m.words) = (s'.enqueued ++ [m]).flatMap SimMessage.words
      rw [hbuf, henqueued, ← List.append_assoc, h.order, List.flatMap_append,
        List.flatMap_singleton]
    · show (s'.msgSimBuf ++ m.words).length ≤ max s'.mostWords _
      rw [List.length_append]
      exact le_max_right _ _
    · show max s'.mostWords (s'.msgSimBuf.length + m.size) ≤ msgSimBufWords
      rw [hmost, hbuf, hm]
      exact max_le h.bounded (Nat.le_of_not_lt hfull)
    · show _ = layoutOf stream.length (s'.enqueued ++ [m])
      rw [henqueued, layoutOf, advance_append SimMessage.size_pos [m] h.placed_le,
        List.map_append, h.layout, layoutOf, List.map_singleton, hm]

theorem queue3500 (h : Buffers stream q s) (frameCount : UInt32) (f : SimInput) :
    Buffers stream (q.offer gpsMsg3500Words) (s.queue3500 frameCount f) :=
  h.push (size_m3500 _ _) _ rfl rfl rfl

theorem queue3501 (h : Buffers stream q s) (f : SimInput) :
    Buffers stream (q.offer gpsMsg3501Words) (s.queue3501 f) :=
  h.push (size_m3501 _) _ rfl rfl rfl

theorem fill (h : Buffers stream q s) (cfg : SimSettings) (frameCount : UInt32) (f : SimInput) :
    let q' := if GpsSimulator.due3500 cfg frameCount then q.offer gpsMsg3500Words else q
    Buffers stream (if GpsSimulator.due3501 cfg frameCount then q'.offer gpsMsg3501Words else q')
      (s.fill cfg frameCount f) := by
  unfold GpsSimulator.fill
  cases GpsSimulator.due3500 cfg frameCount <;> cases GpsSimulator.due3501 cfg frameCount
  · exact h
  · exact h.queue3501 f
  · exact h.queue3500 frameCount f
  · exact (h.queue3500 frameCount f).queue3501 f

/-- The words of a chunk go from the buffer to the frame. -/
theorem placeChunk (h : Buffers stream q s) (image : ℕ → UInt16) :
    Buffers (stream ++ s.msgSimBuf.take maxChunk) q.place (s.placeChunk image).1 := by
  rw [placeChunk_state]
  constructor
  · show (stream ++ s.msgSimBuf.take _) ++ s.msgSimBuf.drop _ = _
    rw [List.append_assoc, List.take_append_drop, h.order]
  · show (s.msgSimBuf.drop _).length ≤ s.mostWords
    rw [List.length_drop]
    exact (Nat.sub_le _ _).trans h.held
  · exact h.bounded
  · show _ = layoutOf _ s.enqueued
    rw [List.length_append, List.length_take, layoutOf, advance_add _ h.placed_le, Layout.place,
      h.waiting_eq, h.layout, layoutOf]
    exact congrArg Prod.snd (advance_sizes _ _)

theorem addGPSSimToFrame (h : Buffers stream q s) (cfg : SimSettings) (frameCount : UInt32)
    (f : SimInput) (image : ℕ → UInt16) :
    Buffers (stream ++ (s.fill cfg frameCount f).msgSimBuf.take maxChunk)
      (q.frame (GpsSimulator.due3500 cfg frameCount) (GpsSimulator.due3501 cfg frameCount))
      (s.addGPSSimToFrame cfg frameCount f image).1 :=
  (h.fill cfg frameCount f).placeChunk _

end Buffers

/-- What the messages of a frame keep when they are put into the buffer is kept by the frame. -/
theorem fill_invariant {I : GpsSimulator → Prop} {cfg : SimSettings} {s : GpsSimulator}
    {frameCount : UInt32} {f : SimInput}
    (h3500 : ∀ t, I t → I ({ t with gpsMode := GpsSimulator.nextGpsMode frameCount f }.push
      (.m3500 (GpsSimulator.nextGpsMode frameCount f) 1)))
    (h3501 : ∀ t, I t → I ({ t with simIteration := t.simIteration + 1 }.push
      (.m3501 (GpsSimulator.navFix t.gpsMode (f.trajectory t.simIteration)))))
    (hs : I s) : I (s.fill cfg frameCount f) := by
  have hqueue3500 (t : GpsSimulator) (ht : I t) : I (t.queue3500 frameCount f) := by
    unfold GpsSimulator.queue3500
    split_ifs
    · exact ht
    · exact h3500 t ht
  have hqueue3501 (t : GpsSimulator) (ht : I t) : I (t.queue3501 f) := by
    unfold GpsSimulator.queue3501
    split_ifs
    · exact ht
    · exact h3501 t ht
  unfold GpsSimulator.fill
  cases GpsSimulator.due3500 cfg frameCount <;> cases GpsSimulator.due3501 cfg frameCount
  · exact hs
  · exact hqueue3501 s hs
  · exact hqueue3500 s hs
  · exact hqueue3501 _ (hqueue3500 s hs)

/-- Messages are only queued behind the others. -/
structure Behind (s t : GpsSimulator) : Prop where
  enqueued : s.enqueued <+: t.enqueued
  msgSimBuf : s.msgSimBuf <+: t.msgSimBuf

theorem Behind.push {s t t' : GpsSimulator} (h : Behind s t) (m : SimMessage)
    (hbuf : t'.msgSimBuf = t.msgSimBuf) (henqueued : t'.enqueued = t.enqueued) :
    Behind s (t'.push m) := by
  constructor
  · exact h.enqueued.trans (henqueued ▸ List.prefix_append _ _)
  · exact h.msgSimBuf.trans (hbuf ▸ List.prefix_append _ _)

theorem behind_fill (cfg : SimSettings) (s : GpsSimulator) (frameCount : UInt32) (f : SimInput) :
    Behind s (s.fill cfg frameCount f) := by
  apply fill_invariant
  · intro t ht
    exact ht.push _ rfl rfl
  · intro t ht
    exact ht.push _ rfl rfl
  · exact ⟨List.prefix_rfl, List.prefix_rfl⟩

/-! ### Frames -/

theorem writeWords_of_mem {image : ℕ → UInt16} {usp i : ℕ} {words : List UInt16} (h : usp ≤ i)
    (h' : i < usp + words.length) : writeWords image usp words i = words.getD (i - usp) 0 :=
  if_pos ⟨h, h'⟩

theorem writeWords_of_not_mem {image : ℕ → UInt16} {usp i : ℕ} {words : List UInt16}
    (h : i < usp ∨ usp + words.length ≤ i) : writeWords image usp words i = image i := by
  apply if_neg
  omega

/-- The GPS area of an image holds these words. -/
structure Holds (image : ℕ → UInt16) (chunk : List UInt16) : Prop where
  short : chunk.length ≤ maxChunk
  valid : image 340 ≠ gpsNoData
  count : image 341 = UInt16.ofNat chunk.length
  words : ∀ i, (h : i < chunk.length) → image (342 + i) = chunk[i]

namespace Holds

variable {image image' : ℕ → UInt16} {chunk : List UInt16}

theorem congr (h : Holds image chunk) (heq : ∀ i, 340 ≤ i → i < 363 → image' i = image i) :
    Holds image' chunk where
  short := h.short
  valid := by
    rw [heq 340 (by decide) (by decide)]
    exact h.valid
  count := by
    rw [heq 341 (by decide) (by decide)]
    exact h.count
  words := by
    intro i hi
    have hshort : chunk.length ≤ 21 := h.short
    rw [heq (342 + i) (by omega) (by omega)]
    exact h.words i hi

/-- The parser is fed the words; in front of the first one it finds their number. -/
theorem feed (h : Holds image chunk) : frameFeed image = areaFeed image 341 chunk.length := by
  have hnat : (image 341).toNat = chunk.length := by
    rw [h.count, UInt16.toNat_ofNat']
    apply Nat.mod_eq_of_lt
    exact lt_of_le_of_lt h.short (by decide)
  unfold frameFeed
  exact (if_neg h.valid).trans (congrArg _ hnat)

theorem feed_words (h : Holds image chunk) : (frameFeed image).map Prod.snd = chunk := by
  rw [h.feed, areaFeed, List.map_map]
  apply List.ext_getElem
  · simp
  · intro i hi hi'
    simpa using h.words i hi'

end Holds

/-- A chunk written behind its length, with anything behind it. -/
theorem holds_writeWords (image : ℕ → UInt16) {chunk : List UInt16} (rest : List UInt16)
    (hshort : chunk.length ≤ maxChunk) :
    Holds (writeWords image 340 ([0xBABE, UInt16.ofNat chunk.length] ++ chunk ++ rest)) chunk := by
  have hat (i : ℕ) (hi : i < 2 + chunk.length) :
      writeWords image 340 ([0xBABE, UInt16.ofNat chunk.length] ++ chunk ++ rest) (340 + i) =
        (0xBABE :: UInt16.ofNat chunk.length :: (chunk ++ rest)).getD i 0 := by
    rw [writeWords_of_mem (Nat.le_add_right _ _), Nat.add_sub_cancel_left]
    · rfl
    · simp only [List.length_append, List.length_cons, List.length_nil]
      omega
  constructor
  · exact hshort
  · rw [hat 0 (by omega)]
    exact (by decide : (0xBABE : UInt16) ≠ gpsNoData)
  · exact hat 1 (by omega)
  · intro i hi
    rw [show 342 + i = 340 + (i + 2) by omega, hat (i + 2) (by omega), List.getD_cons_succ,
      List.getD_cons_succ, List.getD_append _ _ _ _ hi]
    exact List.getD_eq_getElem _ _ hi

theorem holds_nil {image : ℕ → UInt16} (h : image 340 = 0) (h' : image 341 = 0) :
    Holds image [] where
  short := Nat.zero_le _
  valid := by
    rw [h]
    decide
  count := h'
  words := fun i hi => absurd hi (Nat.not_lt_zero i)

theorem holds_placeChunk (s : GpsSimulator) {image : ℕ → UInt16} (h : image 340 = 0)
    (h' : image 341 = 0) : Holds (s.placeChunk image).2 (s.msgSimBuf.take maxChunk) := by
  unfold GpsSimulator.placeChunk
  split_ifs with hnil
  · have hchunk : (s.msgSimBuf.take maxChunk).length = min maxChunk s.msgSimBuf.length :=
      List.length_take
    have htake : s.msgSimBuf.take (min maxChunk s.msgSimBuf.length) =
        s.msgSimBuf.take maxChunk := by
      rw [List.take_eq_take_iff, Nat.min_assoc, Nat.min_self]
    have hwritten := holds_writeWords image
      (List.replicate (maxChunk - min maxChunk s.msgSimBuf.length) 0)
      (List.length_take_le maxChunk s.msgSimBuf)
    rw [hchunk, ← htake] at hwritten
    rw [← htake]
    exact hwritten
  · rw [not_not] at hnil
    rw [List.length_eq_zero_iff.mp hnil]
    exact holds_nil h h'

variable (cfg : SimSettings)

/-- Next to the GPS area only the PPS data and the timestamp are written. -/
theorem holds_frame (s : GpsSimulator) (frameCount : UInt32) (f : SimInput) :
    Holds (s.addGPSSimToFrame cfg frameCount f (simImageFrame cfg.frameWidthSamples f.pixels)).2
      ((s.fill cfg frameCount f).msgSimBuf.take maxChunk) := by
  have hwidth : 363 ≤ cfg.frameWidthSamples :=
    (by decide : ∀ w ∈ frameWidthsSamples, 363 ≤ w) _ cfg.width_mem
  have hline1 (i : ℕ) (hi : 340 ≤ i) (hi' : i < 363) :
      (if GpsSimulator.due3500 cfg frameCount = true then
        writeWords (simImageFrame cfg.frameWidthSamples f.pixels)
          (Recorder.DisplayTab.ppsImageOffset / 2)
          [0xBABE, 2, frameCount.toUInt16, (frameCount >>> 16).toUInt16]
      else simImageFrame cfg.frameWidthSamples f.pixels) i = 0 := by
    have hempty : simImageFrame cfg.frameWidthSamples f.pixels i = 0 := if_pos (by omega)
    split_ifs
    · rw [writeWords_of_not_mem (Or.inr _), hempty]
      simp only [Recorder.DisplayTab.ppsImageOffset, List.length_cons, List.length_nil]
      omega
    · exact hempty
  apply (holds_placeChunk (s.fill cfg frameCount f) (hline1 340 (by decide) (by decide))
    (hline1 341 (by decide) (by decide))).congr
  intro i hi _
  apply writeWords_of_not_mem
  rw [List.length_singleton]
  omega

end Gps
