import Mathlib.Algebra.Order.Ring.Int
import Mathlib.Data.List.Basic
import Mathlib.Tactic.SplitIfs

/-! `appFrame::readPCSerial`, which reads from a serial line as long as `select` finds
something there. The result of `read` goes into the running offset as it is. -/
namespace Serial

/-- What `read` finds: bytes, of which it takes as many as were asked for, the end of the
file, or an error. -/
inductive ReadResult where
  | data (first : UInt8) (more : List UInt8)
  | endOfFile
  | error
  deriving DecidableEq

/-- The bytes that a call of `read` stores. -/
def ReadResult.delivered (request : ℤ) : ReadResult → List UInt8
  | .data first more => (first :: more).take request.toNat
  | .endOfFile | .error => []

/-- `readStatus` -/
def ReadResult.status (request : ℤ) : ReadResult → ℤ
  | .data first more => ((first :: more).take request.toNat).length
  | .endOfFile => 0
  | .error => -1

/-- What `select` finds: nothing before the timeout (or an error), or a device that is ready
and what a `read` would find there. -/
abbrev SelectResult := Option ReadResult

/-- A call of `read(fd, buf+offset, request)` and what it stored. -/
structure ReadCall where
  offset : ℤ
  request : ℤ
  delivered : List UInt8
  deriving DecidableEq

/-- The loop: `bytesRead`, the calls of `read` so far, and the value returned. -/
structure SerialRead where
  bytesRead : ℤ
  calls : List ReadCall
  returned : Option ℤ
  deriving DecidableEq

def SerialRead.initial : SerialRead := ⟨0, [], none⟩

/-- The number of bytes that the calls stored. -/
def stored (calls : List ReadCall) : ℕ := (calls.map fun c => c.delivered.length).sum

namespace SerialRead

variable (bufSize : ℕ) (s : SerialRead)

def chunk : ℤ := if s.bytesRead + 256 > bufSize then bufSize - s.bytesRead else 256

/-- `read(fd, buf+bytesRead, chunk)` -/
def readCall (r : ReadResult) : ReadCall :=
  ⟨s.bytesRead, s.chunk bufSize, r.delivered (s.chunk bufSize)⟩

/-- The body of the loop. -/
def read (r : ReadResult) : SerialRead :=
  { s with
    bytesRead := s.bytesRead + r.status (s.chunk bufSize)
    calls := s.calls ++ [s.readCall bufSize r] }

def finish : SerialRead := { s with returned := some s.bytesRead }

/-- `while (select(...) == 1 && bytesRead < bufSize)`, for what `select` has found so far. -/
def loop (s : SerialRead) : List SelectResult → SerialRead
  | [] => s
  | none :: _ => s.finish
  | some r :: rest => if s.bytesRead < bufSize then (s.read bufSize r).loop rest else s.finish

end SerialRead

def readPCSerial (bufSize : ℕ) (found : List SelectResult) : SerialRead :=
  SerialRead.initial.loop bufSize found

/-- Writes stay in the buffer, no request exceeds the room left, the value returned is the
number of bytes stored unless it is -1, and a call that stores nothing is the last one. -/
structure Sound (bufSize : ℕ) (s : SerialRead) : Prop where
  inside : ∀ c ∈ s.calls, ∀ j < c.delivered.length,
    0 ≤ c.offset + j ∧ c.offset + j < bufSize
  fits : ∀ (before : List ReadCall) (c : ReadCall) (after : List ReadCall),
    s.calls = before ++ c :: after → c.request ≤ bufSize - stored before
  value : ∀ v, s.returned = some v →
    -1 ≤ v ∧ v ≤ bufSize ∧ (0 ≤ v → v = stored s.calls)
  stops : ∀ (before : List ReadCall) (c : ReadCall) (after : List ReadCall),
    s.calls = before ++ c :: after → c.delivered = [] → after = []

/-- `select` does not find the device ready again. -/
def NotReady : List SelectResult → Prop
  | some _ :: _ => False
  | _ => True

/-- As long as the buffer has room for more than the `n` bytes in it: a read without data is
not followed by another one, and one that fails is the first. A failed read behind others
does no harm while `select` waits. -/
def DryOnlyAtEnd (bufSize : ℕ) : ℕ → List SelectResult → Prop
  | _, [] | _, none :: _ => True
  | n, some (.data _ more) :: rest =>
    n < bufSize → DryOnlyAtEnd bufSize (n + min (min 256 (bufSize - n)) (more.length + 1)) rest
  | n, some .endOfFile :: rest => n < bufSize → NotReady rest
  | n, some .error :: rest => n < bufSize → NotReady rest ∧ (n = 0 ∨ rest = [])

@[simp] theorem stored_nil : stored [] = 0 := rfl

@[simp] theorem stored_concat (calls : List ReadCall) (c : ReadCall) :
    stored (calls ++ [c]) = stored calls + c.delivered.length := by
  simp [stored]

theorem calls_loop (bufSize : ℕ) (s : SerialRead) (found : List SelectResult) :
    s.calls <+: (s.loop bufSize found).calls := by
  induction found generalizing s with
  | nil => exact List.prefix_rfl
  | cons o rest ih =>
    cases o with
    | none => exact List.prefix_rfl
    | some r =>
      rw [SerialRead.loop]
      split_ifs
      · exact (List.prefix_append _ _).trans (ih (s.read bufSize r))
      · exact List.prefix_rfl

/-- The invariant of the loop until a read stores nothing: the bytes stored lie in the buffer
from its start, without a gap. -/
structure Filled (bufSize : ℕ) (s : SerialRead) : Prop where
  count : s.bytesRead = stored s.calls
  room : stored s.calls ≤ bufSize
  running : s.returned = none
  inside : ∀ c ∈ s.calls, ∀ j < c.delivered.length,
    0 ≤ c.offset + j ∧ c.offset + j < bufSize
  fits : ∀ (before : List ReadCall) (c : ReadCall) (after : List ReadCall),
    s.calls = before ++ c :: after → c.request ≤ bufSize - stored before
  wet : ∀ c ∈ s.calls, c.delivered ≠ []

theorem filled_initial (bufSize : ℕ) : Filled bufSize .initial := by
  constructor <;> simp [SerialRead.initial]

variable {bufSize : ℕ} {s : SerialRead} {r : ReadResult}

theorem Filled.chunk_eq (h : Filled bufSize s) :
    s.chunk bufSize = min 256 (bufSize - stored s.calls : ℕ) := by
  have hcount := h.count
  have hroom := h.room
  unfold SerialRead.chunk
  split_ifs <;> omega

/-- One more call from a filled buffer keeps to the room left. -/
theorem Filled.read_fits (h : Filled bufSize s) (r : ReadResult) (before : List ReadCall)
    (c : ReadCall) (after : List ReadCall)
    (heq : (s.read bufSize r).calls = before ++ c :: after) :
    c.request ≤ bufSize - stored before := by
  rcases List.eq_nil_or_concat' after with rfl | ⟨more, last, rfl⟩
  · obtain ⟨rfl, hc⟩ := List.append_inj' heq rfl
    obtain rfl := List.cons.inj hc |>.1
    have hchunk := h.chunk_eq
    have hroom := h.room
    simp only [SerialRead.readCall]
    omega
  · rw [← List.cons_append, ← List.append_assoc] at heq
    exact h.fits before c more (List.append_inj' heq rfl).1

theorem delivered_length_le (r : ReadResult) (request : ℤ) (hr : 0 ≤ request) :
    ((r.delivered request).length : ℤ) ≤ request := by
  cases r with
  | data first more =>
    simp only [ReadResult.delivered, List.length_take]
    omega
  | endOfFile | error => simpa [ReadResult.delivered] using hr

theorem Filled.read_inside (h : Filled bufSize s) (r : ReadResult) (c : ReadCall)
    (hc : c ∈ (s.read bufSize r).calls) (j : ℕ) (hj : j < c.delivered.length) :
    0 ≤ c.offset + j ∧ c.offset + j < bufSize := by
  rcases List.mem_append.mp hc with hc | hc
  · exact h.inside c hc j hj
  · obtain rfl := List.mem_singleton.mp hc
    have hchunk := h.chunk_eq
    have hcount := h.count
    have hroom := h.room
    have hlen := delivered_length_le r (s.chunk bufSize) (by omega)
    simp only [SerialRead.readCall] at hj ⊢
    omega

/-- Bytes that were read keep the invariant. -/
theorem Filled.read_data (h : Filled bufSize s) {first : UInt8} {more : List UInt8}
    (hroom : s.bytesRead < bufSize) : Filled bufSize (s.read bufSize (.data first more)) ∧
      stored (s.read bufSize (.data first more)).calls = stored s.calls +
        min (min 256 (bufSize - stored s.calls)) (more.length + 1) := by
  have hchunk := h.chunk_eq
  have hcount := h.count
  have htaken : (ReadResult.delivered (s.chunk bufSize) (.data first more)).length =
      min (min 256 (bufSize - stored s.calls)) (more.length + 1) := by
    simp only [ReadResult.delivered, List.length_take, List.length_cons]
    omega
  have hstored : stored (s.read bufSize (.data first more)).calls = stored s.calls +
      min (min 256 (bufSize - stored s.calls)) (more.length + 1) := by
    simp only [SerialRead.read, SerialRead.readCall, stored_concat, htaken]
  refine ⟨⟨?_, ?_, h.running, h.read_inside _, h.read_fits _, ?_⟩, hstored⟩
  · have hstatus : ReadResult.status (s.chunk bufSize) (.data first more) =
        min (min 256 (bufSize - stored s.calls)) (more.length + 1) := by
      rw [← htaken]
      rfl
    rw [hstored]
    simp only [SerialRead.read, hstatus, hcount]
    omega
  · rw [hstored]
    omega
  · intro c hc
    rcases List.mem_append.mp hc with hc | hc
    · exact h.wet c hc
    · obtain rfl := List.mem_singleton.mp hc
      intro hnil
      have hzero := htaken.symm.trans (congrArg List.length hnil)
      rw [List.length_nil] at hzero
      omega

/-- What holds of a filled buffer that is returned, or still waited for. -/
theorem Filled.sound (h : Filled bufSize s) : Sound bufSize s where
  inside := h.inside
  fits := h.fits
  value v hv := by simp [h.running] at hv
  stops before c after heq hdry := by
    exact absurd hdry (h.wet c (by simp [heq]))

theorem Filled.finish (h : Filled bufSize s) : Sound bufSize s.finish where
  inside := h.inside
  fits := h.fits
  value v hv := by
    have hcount := h.count
    have hroom := h.room
    obtain rfl := Option.some.inj hv
    simp only [SerialRead.finish]
    omega
  stops := h.sound.stops

/-- A read that stores nothing does no harm by itself. -/
theorem Filled.read_dry (h : Filled bufSize s) (r : ReadResult) :
    Sound bufSize (s.read bufSize r) where
  inside := h.read_inside r
  fits := h.read_fits r
  value v hv := by simp [SerialRead.read, h.running] at hv
  stops before c after heq hc := by
    rcases List.eq_nil_or_concat' after with rfl | ⟨more, last, rfl⟩
    · rfl
    · rw [← List.cons_append, ← List.append_assoc] at heq
      have hmem : c ∈ s.calls := by
        rw [(List.append_inj' heq rfl).1]
        simp
      exact absurd hc (h.wet c hmem)

/-- After a read that stores nothing the loop must not read again. -/
theorem not_sound_of_dry {rest : List SelectResult} {r' : ReadResult}
    (hdry : r.delivered (s.chunk bufSize) = [])
    (hroom : (s.read bufSize r).bytesRead < bufSize) :
    ¬Sound bufSize ((s.read bufSize r).loop bufSize (some r' :: rest)) := by
  intro h
  rw [SerialRead.loop, if_pos hroom] at h
  obtain ⟨after, hafter⟩ := calls_loop bufSize ((s.read bufSize r).read bufSize r') rest
  have hcalls : (((s.read bufSize r).read bufSize r').loop bufSize rest).calls =
      s.calls ++ s.readCall bufSize r :: (s.read bufSize r).readCall bufSize r' :: after := by
    rw [← hafter]
    simp [SerialRead.read]
  exact List.cons_ne_nil _ _ (h.stops _ _ _ hcalls hdry)

/-- It may wait for `select`, or return. -/
theorem Filled.dry_iff (h : Filled bufSize s) (hdry : r.delivered (s.chunk bufSize) = [])
    (hroom : (s.read bufSize r).bytesRead < bufSize) (rest : List SelectResult) :
    Sound bufSize ((s.read bufSize r).loop bufSize rest) ↔
      NotReady rest ∧ (rest = [] ∨ Sound bufSize (s.read bufSize r).finish) := by
  match rest with
  | [] => exact iff_of_true (h.read_dry r) ⟨trivial, Or.inl rfl⟩
  | none :: rest =>
    constructor
    · intro hs
      exact ⟨trivial, Or.inr hs⟩
    · rintro ⟨-, hnil | hs⟩
      · exact absurd hnil (List.cons_ne_nil _ _)
      · exact hs
  | some r' :: rest => exact iff_of_false (not_sound_of_dry hdry hroom) fun hq => hq.1

/-- What it returns then is the number of bytes and the status of the read. -/
theorem Filled.finish_dry_iff (h : Filled bufSize s) (hdry : r.delivered (s.chunk bufSize) = [])
    (status : ℤ) (hstatus : r.status (s.chunk bufSize) = status) :
    Sound bufSize (s.read bufSize r).finish ↔
      -1 ≤ stored s.calls + status ∧ stored s.calls + status ≤ bufSize ∧
        (0 ≤ stored s.calls + status → status = 0) := by
  have hread := h.read_dry r
  have hvalue : (s.read bufSize r).bytesRead = stored s.calls + status := by
    rw [← h.count, ← hstatus]
    rfl
  have hstored : stored (s.read bufSize r).calls = stored s.calls := by
    simp [SerialRead.read, SerialRead.readCall, hdry]
  constructor
  · intro hs
    have hv := hs.value _ rfl
    simp only [SerialRead.finish, hvalue, hstored] at hv
    omega
  · rintro ⟨hlow, hhigh, hzero⟩
    refine ⟨hread.inside, hread.fits, ?_, hread.stops⟩
    intro v hv
    obtain rfl := Option.some.inj hv
    simp only [SerialRead.finish, hvalue, hstored]
    omega

theorem Filled.endOfFile_iff (h : Filled bufSize s) (hroom : s.bytesRead < bufSize)
    (rest : List SelectResult) :
    Sound bufSize ((s.read bufSize .endOfFile).loop bufSize rest) ↔ NotReady rest := by
  have hcount := h.count
  have hfinish := (h.finish_dry_iff (r := .endOfFile) rfl 0 rfl).mpr
    ⟨by omega, by omega, fun _ => rfl⟩
  rw [h.dry_iff rfl (by simpa [SerialRead.read, ReadResult.status] using hroom)]
  exact and_iff_left (Or.inr hfinish)

theorem Filled.error_iff (h : Filled bufSize s) (hroom : s.bytesRead < bufSize)
    (rest : List SelectResult) :
    Sound bufSize ((s.read bufSize .error).loop bufSize rest) ↔
      NotReady rest ∧ (stored s.calls = 0 ∨ rest = []) := by
  have hcount := h.count
  have hless : (s.read bufSize .error).bytesRead < bufSize := by
    simp only [SerialRead.read, ReadResult.status]
    omega
  rw [h.dry_iff rfl hless, h.finish_dry_iff rfl (-1) rfl, or_comm]
  apply and_congr_right
  intro _
  apply or_congr_left
  omega

/-- From a filled buffer on, the loop is sound exactly on the sequences of the condition. -/
theorem Filled.sound_iff (h : Filled bufSize s) (found : List SelectResult) :
    Sound bufSize (s.loop bufSize found) ↔ DryOnlyAtEnd bufSize (stored s.calls) found := by
  have hcount := h.count
  induction found generalizing s with
  | nil => exact iff_of_true h.sound trivial
  | cons o rest ih =>
    cases o with
    | none => exact iff_of_true h.finish trivial
    | some r =>
      by_cases hroom : s.bytesRead < bufSize
      swap
      · rw [SerialRead.loop, if_neg hroom]
        apply iff_of_true h.finish
        cases r <;> exact fun hlt => absurd hlt (by omega)
      have hn : stored s.calls < bufSize := by omega
      rw [SerialRead.loop, if_pos hroom]
      cases r with
      | data first more =>
        obtain ⟨hread, hstored⟩ := h.read_data hroom
        have hrest := ih hread hread.count
        rw [hstored] at hrest
        simpa only [DryOnlyAtEnd, hn, true_implies] using hrest
      | endOfFile =>
        simp only [DryOnlyAtEnd, hn, true_implies]
        exact h.endOfFile_iff hroom rest
      | error =>
        simp only [DryOnlyAtEnd, hn, true_implies]
        exact h.error_iff hroom rest

/-- Whatever `select` and `read` return, the loop keeps to its buffer, returns what it stored
and ends, exactly if a read without data ends it, and if none fails behind others. -/
theorem readPCSerial_sound_iff (bufSize : ℕ) (found : List SelectResult) :
    Sound bufSize (readPCSerial bufSize found) ↔ DryOnlyAtEnd bufSize 0 found :=
  (filled_initial bufSize).sound_iff found

/-- An error and then data: a byte is stored in front of the buffer. -/
theorem error_then_data_before_buffer :
    (⟨-1, 3, [65]⟩ : ReadCall) ∈
        (readPCSerial 2 [some .error, some (.data 65 []), none]).calls ∧
      ¬Sound 2 (readPCSerial 2 [some .error, some (.data 65 []), none]) := by
  refine ⟨by decide, fun h => ?_⟩
  exact absurd (h.inside ⟨-1, 3, [65]⟩ (by decide) 0 (by decide)).1 (by decide)

end Serial
