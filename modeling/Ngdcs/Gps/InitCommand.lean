import Ngdcs.Gps.Parser

/-! The command that reinitializes the GPS: `onGPSInitButton` prepares message 3510, and each
call of `lookForImageData` passes some more of its bytes to the serial transmit FIFO. -/
namespace Gps

/-- `GPS_MSG_3510_WORDS` -/
def gpsMsg3510Words : ℕ := 27

/-- `GPSSIM_...` -/
inductive GpsSim where
  | none | all | allBut3
  deriving DecidableEq

/-- `GPSINITMODE_...` -/
inductive GpsInitMode where
  | ground | air
  deriving DecidableEq

/-- `(~cs)+1`, with `cs` the sum of the words. -/
def checksum (words : List UInt16) : UInt16 := ~~~words.foldl (· + ·) 0 + 1

/-- The magic number, the type, the number of words behind the header, the flags, and
`GPS_MSG_3510_CHECKSUM`. -/
def gpsInitHeader : List UInt16 :=
  let header := [gpsMagicNumber, 3510, UInt16.ofNat (gpsMsg3510Words - 6), 0x8000]
  header ++ [checksum header]

/-- Data validity, mode, position, altitude, speed and track, date and time, heading, the
alignment sequence, two reserved words. -/
def gpsInitData (mode : GpsInitMode) : List UInt16 :=
  [0x0061, 0, 0, 0, 0, 0, 0, 0, 0, 0, 0, 0, 0, 0, 0, 0, 0, 0,
    if mode = .air then 0x175 else 0x174, 0, 0]

/-- Message 3510. -/
def gpsInitMessage (mode : GpsInitMode) : List UInt16 :=
  gpsInitHeader ++ gpsInitData mode ++ [checksum (gpsInitData mode)]

/-- The bytes of a word in memory, the low one first. -/
def wordBytes (w : UInt16) : List UInt8 := [w.toUInt8, (w >>> 8).toUInt8]

def memory (words : List UInt16) : List UInt8 := words.flatMap wordBytes

/-- The members behind the command. `txFifo` are the bytes passed to the transmit FIFO since
the command was last prepared. -/
structure GpsInit where
  frameCountAtGPSInit : UInt32
  gpsInitCommand : List UInt16
  gpsInitBytesSent : UInt32
  txFifo : List UInt8
  deriving DecidableEq

namespace GpsInit

/-- The constructor of `DisplayTab`. -/
def initial : GpsInit where
  frameCountAtGPSInit := ~~~0
  gpsInitCommand := List.replicate gpsMsg3510Words 0
  gpsInitBytesSent := ~~~0
  txFifo := []

/-- `reply` is the answer of the user, who is asked unless the program is headless. -/
def onGPSInitButton (s : GpsInit) (headless : Bool) (gpsSim : GpsSim) (mode : GpsInitMode)
    (frameCount : UInt32) (reply : Bool) : GpsInit :=
  if !headless && !reply then s
  else if gpsSim ≠ .none then { s with frameCountAtGPSInit := frameCount }
  else
    { s with
      gpsInitCommand := gpsInitMessage mode
      gpsInitBytesSent := 0
      txFifo := [] }

/-- The FIFO is nearly full. -/
def nearlyFull (fifoStatus : UInt32) : Bool := (fifoStatus &&& ((1 : UInt32) <<< 11)) != 0

/-- The loop of `AlphaDataFrameBuffer::writeExtSerial` from byte `i` on: the bytes it writes.
`fifoStatus` is what the status register holds each time. -/
def writeExtSerial (fifoStatus : ℕ → UInt32) : ℕ → List UInt8 → List UInt8
  | _, [] => []
  | i, b :: bytes =>
    if i = 1 then []
    else if nearlyFull (fifoStatus i) then []
    else b :: writeExtSerial fifoStatus (i + 1) bytes

/-- The part of `lookForImageData` that sends the command. -/
def transmit (s : GpsInit) (fifoStatus : ℕ → UInt32) : GpsInit :=
  if s.gpsInitBytesSent < UInt32.ofNat (gpsMsg3510Words * 2) then
    let written :=
      writeExtSerial fifoStatus 0 ((memory s.gpsInitCommand).drop s.gpsInitBytesSent.toNat)
    { s with
      gpsInitBytesSent := s.gpsInitBytesSent + UInt32.ofNat written.length
      txFifo := s.txFifo ++ written }
  else s

end GpsInit

theorem length_memory (words : List UInt16) : (memory words).length = 2 * words.length := by
  induction words with
  | nil => rfl
  | cons w words ih =>
    have hcons : memory (w :: words) = wordBytes w ++ memory words := rfl
    rw [hcons, List.length_append, ih, List.length_cons]
    simp only [wordBytes, List.length_cons, List.length_nil]
    omega

theorem length_gpsInitMessage (mode : GpsInitMode) : (gpsInitMessage mode).length = 27 := by
  cases mode <;> rfl

/-- The header and the data each sum to zero with their checksums. -/
theorem sum_gpsInitMessage (mode : GpsInitMode) :
    ((gpsInitMessage mode).take 5).foldl (· + ·) 0 = 0 ∧
      ((gpsInitMessage mode).drop 5).foldl (· + ·) 0 = 0 := by
  cases mode <;> decide

namespace GpsInit

theorem writeExtSerial_prefix (fifoStatus : ℕ → UInt32) (i : ℕ) (bytes : List UInt8) :
    writeExtSerial fifoStatus i bytes <+: bytes := by
  induction bytes generalizing i with
  | nil => exact List.prefix_rfl
  | cons b bytes ih =>
    rw [writeExtSerial]
    split_ifs
    · exact List.nil_prefix
    · exact List.nil_prefix
    · exact List.cons_prefix_cons.mpr ⟨rfl, ih (i + 1)⟩

/-- What has been sent of a message is its beginning, and the count says how much. -/
structure Sending (mode : GpsInitMode) (s : GpsInit) : Prop where
  command : s.gpsInitCommand = gpsInitMessage mode
  sent : s.txFifo <+: memory (gpsInitMessage mode)
  count : s.gpsInitBytesSent.toNat = s.txFifo.length

theorem length_message (mode : GpsInitMode) : (memory (gpsInitMessage mode)).length = 54 := by
  rw [length_memory, length_gpsInitMessage]

variable {mode : GpsInitMode} {s : GpsInit}

theorem Sending.bound (h : Sending mode s) : s.txFifo.length ≤ 54 :=
  length_message mode ▸ h.sent.length_le

theorem Sending.drop_eq (h : Sending mode s) :
    s.txFifo ++ (memory s.gpsInitCommand).drop s.gpsInitBytesSent.toNat =
      memory (gpsInitMessage mode) := by
  obtain ⟨rest, hrest⟩ := h.sent
  rw [h.command, h.count, ← hrest, List.drop_left]

/-- One call sends the bytes that come next. -/
theorem Sending.transmit (h : Sending mode s) (fifoStatus : ℕ → UInt32) :
    Sending mode (s.transmit fifoStatus) := by
  unfold GpsInit.transmit
  split_ifs with hmore
  swap
  · exact h
  obtain ⟨rest, hrest⟩ := writeExtSerial_prefix fifoStatus 0
    ((memory s.gpsInitCommand).drop s.gpsInitBytesSent.toNat)
  have hall := h.drop_eq
  rw [← hrest, ← List.append_assoc] at hall
  have hlength := congrArg List.length hall
  rw [length_message, List.length_append, List.length_append] at hlength
  refine ⟨h.command, ⟨rest, hall⟩, ?_⟩
  have hcount := h.count
  simp only [UInt32.toNat_add, UInt32.toNat_ofNat', List.length_append]
  omega

theorem Sending.polls (h : Sending mode s) (polls : List (ℕ → UInt32)) :
    Sending mode (polls.foldl GpsInit.transmit s) := by
  induction polls generalizing s with
  | nil => exact h
  | cons fifoStatus polls ih => exact ih (h.transmit fifoStatus)

/-- A press prepares the message; nothing of it has been sent. -/
theorem press_eq (s : GpsInit) (headless : Bool) (mode : GpsInitMode) (frameCount : UInt32) :
    s.onGPSInitButton headless .none mode frameCount true =
      { s with
        gpsInitCommand := gpsInitMessage mode
        gpsInitBytesSent := 0
        txFifo := [] } := by
  simp [onGPSInitButton]

theorem sending_press (s : GpsInit) (headless : Bool) (mode : GpsInitMode)
    (frameCount : UInt32) :
    Sending mode (s.onGPSInitButton headless .none mode frameCount true) := by
  rw [press_eq]
  exact ⟨rfl, List.nil_prefix, rfl⟩

/-- The calls that find room in the FIFO. -/
def withRoom (polls : List (ℕ → UInt32)) : ℕ :=
  polls.countP fun fifoStatus => !nearlyFull (fifoStatus 0)

/-- A call that finds room in the FIFO writes one byte. -/
theorem length_writeExtSerial (fifoStatus : ℕ → UInt32) (bytes : List UInt8) :
    (writeExtSerial fifoStatus 0 bytes).length = min bytes.length (withRoom [fifoStatus]) := by
  rcases bytes with _ | ⟨b, bytes⟩
  · rw [writeExtSerial, List.length_nil, Nat.zero_min]
  · cases hfull : nearlyFull (fifoStatus 0) with
    | true => simp [writeExtSerial, withRoom, hfull]
    | false => cases bytes <;> simp [writeExtSerial, withRoom, hfull]

/-- A call sends one byte if it finds room, as long as there is one. -/
theorem Sending.length_transmit (h : Sending mode s) (fifoStatus : ℕ → UInt32) :
    (s.transmit fifoStatus).txFifo.length =
      min 54 (s.txFifo.length + withRoom [fifoStatus]) := by
  have hbound := h.bound
  have hcount := h.count
  have hlength := congrArg List.length h.drop_eq
  rw [length_message, List.length_append] at hlength
  unfold GpsInit.transmit
  split_ifs with hmore
  · simp only [List.length_append, length_writeExtSerial]
    omega
  · have hge : ¬s.txFifo.length < 54 := fun hlt =>
      hmore (UInt32.lt_iff_toNat_lt.mpr (by rw [hcount]; exact hlt))
    omega

theorem Sending.length_polls (h : Sending mode s) (polls : List (ℕ → UInt32)) :
    (polls.foldl GpsInit.transmit s).txFifo.length =
      min 54 (s.txFifo.length + withRoom polls) := by
  induction polls generalizing s with
  | nil =>
    have hbound := h.bound
    rw [List.foldl_nil, withRoom, List.countP_nil]
    omega
  | cons fifoStatus polls ih =>
    have hone : withRoom (fifoStatus :: polls) = withRoom [fifoStatus] + withRoom polls := by
      unfold withRoom
      rw [← List.countP_append, List.singleton_append]
    rw [List.foldl_cons, ih (h.transmit fifoStatus), h.length_transmit, hone]
    omega

/-- Whatever the FIFO says and however often it is asked, what was sent since the press is the
beginning of message 3510, one byte for each call that found room until all 54 are sent; the
count says how much; and the message is well formed. -/
theorem gps_init_in_order (s : GpsInit) (headless : Bool) (mode : GpsInitMode)
    (frameCount : UInt32) (polls : List (ℕ → UInt32)) :
    let t := polls.foldl GpsInit.transmit
      (s.onGPSInitButton headless .none mode frameCount true)
    t.txFifo <+: memory t.gpsInitCommand ∧ (memory t.gpsInitCommand).length = 54 ∧
      t.txFifo = (memory t.gpsInitCommand).take (withRoom polls) ∧
      (54 ≤ withRoom polls → t.txFifo = memory t.gpsInitCommand) ∧
      t.gpsInitBytesSent.toNat = t.txFifo.length ∧ t.gpsInitBytesSent.toNat ≤ 54 ∧
      t.gpsInitCommand = gpsInitMessage mode ∧ t.gpsInitCommand.getD 1 0 = 3510 ∧
      (t.gpsInitCommand.take 5).foldl (· + ·) 0 = 0 ∧
      (t.gpsInitCommand.drop 5).foldl (· + ·) 0 = 0 := by
  intro t
  have hstart := sending_press s headless mode frameCount
  have h : Sending mode t := hstart.polls polls
  have hempty : (s.onGPSInitButton headless .none mode frameCount true).txFifo = [] :=
    congrArg txFifo (press_eq s headless mode frameCount)
  have hlength : t.txFifo.length = min 54 (withRoom polls) := by
    rw [hstart.length_polls polls, hempty, List.length_nil, Nat.zero_add]
  have htake : t.txFifo = (memory (gpsInitMessage mode)).take (withRoom polls) := by
    rw [List.prefix_iff_eq_take.mp h.sent, hlength, List.take_eq_take_iff, length_message]
    omega
  obtain ⟨hheader, hdata⟩ := sum_gpsInitMessage mode
  have hbound := h.bound
  rw [← h.count] at hbound
  rw [h.command]
  refine ⟨h.sent, length_message mode, htake, fun hroom => ?_, h.count, hbound, rfl,
    by cases mode <;> rfl, hheader, hdata⟩
  rw [htake, List.take_of_length_le (by rw [length_message]; exact hroom)]

end GpsInit

end Gps
