import Mathlib.Algebra.Order.Ring.Int
import Mathlib.Data.List.Basic
import Mathlib.Tactic.SplitIfs
import Ngdcs.Ipc.Socket

/-! The typed sends of `DA_WChan` and accepts of `DA_RChan` (`ipcprims.cpp`) and the canonical
form of numbers (`ipcosdep.cpp`). A number is the string of its bytes in memory. -/
namespace Ipc

/-- `DA_ChanBase::CHAR`, ... -/
inductive DataType where
  | char | uchar | short | ushort | int | uint | ulongint | float | double | ptr
  deriving DecidableEq

/-- `canonical_sizes` -/
def canonicalSize : DataType → ℕ
  | .char => 1
  | .uchar => 1
  | .short => 2
  | .ushort => 2
  | .int => 4
  | .uint => 4
  | .ulongint => 8
  | .float => 4
  | .double => 8
  | .ptr => 8

/-- The byte order and the sizes of the C types. No type is longer than its canonical form;
`canonize` gives up where one is. -/
structure Platform where
  bigEndian : Bool
  sizeof : DataType → ℕ
  sizeof_le : ∀ t, sizeof t ≤ canonicalSize t
  sizeof_int : sizeof .int = 4
  sizeof_uint : sizeof .uint = 4

/-- The value of an `int` with the low 32 bits of `n`. -/
def asInt (n : ℕ) : ℤ :=
  let low : ℤ := n % 2 ^ 32
  if low < 2 ^ 31 then low else low - 2 ^ 32

/-- The value of an `int` as a `u_int`. -/
def asUInt (i : ℤ) : ℕ := (i % 2 ^ 32).toNat

/-- The four bytes of a 32-bit number, the most significant first. -/
def wordBytes (n : ℕ) : List UInt8 :=
  [.ofNat (n / 2 ^ 24), .ofNat (n / 2 ^ 16), .ofNat (n / 2 ^ 8), .ofNat n]

def wordOf (bytes : List UInt8) : ℕ := bytes.foldl (fun n b => n * 256 + b.toNat) 0

/-- A 32-bit number in memory. -/
def toMemory (p : Platform) (n : ℕ) : List UInt8 :=
  if p.bigEndian then wordBytes n else (wordBytes n).reverse

def ofMemory (p : Platform) (bytes : List UInt8) : ℕ :=
  if p.bigEndian then wordOf bytes else wordOf bytes.reverse

/-- `canonize`: zero bytes are put in front of the most significant byte where the canonical
form is longer, and `flip_word` turns the bytes round on a little-endian machine. -/
def canonize (p : Platform) (v : List UInt8) (toSize : ℕ) : List UInt8 :=
  if p.bigEndian then List.replicate (toSize - v.length) 0 ++ v
  else (v ++ List.replicate (toSize - v.length) 0).reverse

/-- `uncanonize` -/
def uncanonize (p : Platform) (v : List UInt8) (toSize : ℕ) : List UInt8 :=
  if p.bigEndian then v.drop (v.length - toSize) else (v.drop (v.length - toSize)).reverse

/-! ### Sending -/

/-- `send(ctype v)` of `SIMPLE_SEND` -/
def sendScalar (p : Platform) (t : DataType) (v : List UInt8) : List UInt8 :=
  canonize p v (canonicalSize t)

/-- `send(const ctype *v_p, u_int n)` of `SIMPLE_SEND`. The buffer has `n` times the canonical
size modulo `2 ^ 32` bytes; where that wraps, the loop writes beyond it. -/
def sendArray (p : Platform) (t : DataType) (vs : List (List UInt8)) : Option (List UInt8) :=
  if vs.length * canonicalSize t < 2 ^ 32 then some (vs.flatMap (sendScalar p t)) else none

def sendInt (p : Platform) (i : ℤ) : List UInt8 := sendScalar p .int (toMemory p (asUInt i))

/-- `send(const char *s)` -/
def sendString (p : Platform) (s : Option (List UInt8)) : List UInt8 :=
  match s with
  | none => sendInt p (-1)
  | some s =>
    let length := asInt s.length
    if length = -1 then sendInt p length else sendInt p length ++ s.take (asUInt length)

/-- `send(const char *const *array, int length)` for an array whose length is an `int`. -/
def sendStrings (p : Platform) (array : List (Option (List UInt8))) : Option (List UInt8) :=
  if array.length < 2 ^ 31 then
    some (sendInt p array.length ++ array.flatMap (sendString p))
  else none

/-! ### Accepting -/

/-- How an accept goes wrong: it returns -1, waits for ever, or writes outside its buffer. -/
inductive AcceptError where
  | failed | blocked | undefined
  deriving DecidableEq

/-- The bytes that a call of `accept_bytes` stored, for a caller that returns -1 when the result,
an `int`, satisfies `bad`. -/
def acceptChecked (bad : ℤ → Bool) (nbytes : ℕ) (waits : Bool) (s : Socket) :
    Except AcceptError (List UInt8 × Socket) :=
  match acceptBytes nbytes true waits s with
  | (.bytes got, s) => if bad (asInt got.length) then .error .failed else .ok (got, s)
  | (.failed, _) => .error .failed
  | (.blocked, _) => .error .blocked

/-- `accept(ctype *v_p, u_int n, ..)` of `SIMPLE_ACCEPT` with `read_everything` set; the case of
one item has a buffer of its own and is otherwise the same. -/
def acceptItems (p : Platform) (t : DataType) (n : ℕ) (waits : Bool) (s : Socket) :
    Except AcceptError (List (List UInt8) × Socket) := do
  let size := canonicalSize t
  let (got, s) ← acceptChecked (· ≤ 0) (n * size % 2 ^ 32) waits s
  let itemsRead := (asInt got.length).toNat / size
  return ((List.range itemsRead).map fun i : ℕ =>
    uncanonize p ((got.drop (i * size)).take size) (p.sizeof t), s)

/-- `accept(void **v_p, int timeout_in_ms)` -/
def acceptPtr (p : Platform) (waits : Bool) (s : Socket) :
    Except AcceptError (List UInt8 × Socket) := do
  let (got, s) ← acceptChecked (· = -1) (canonicalSize .ptr) waits s
  return (uncanonize p got (p.sizeof .ptr), s)

/-- A 32-bit number, accepted as one item. -/
def acceptWord (p : Platform) (t : DataType) (waits : Bool) (s : Socket) :
    Except AcceptError (ℕ × Socket) := do
  let (items, s) ← acceptItems p t 1 waits s
  return (ofMemory p items.flatten, s)

/-- The string whose length has been accepted: it ends at the first NUL, and a negative length
puts the final NUL in front of the buffer. -/
def acceptCharacters (length : ℤ) (waits : Bool) (s : Socket) :
    Except AcceptError (Option (List UInt8) × Socket) :=
  if length = -1 then .ok (none, s)
  else do
    let (got, s) ← acceptChecked (· = -1) (asUInt length) waits s
    if length < 0 then .error .undefined else .ok (some (got.takeWhile (· ≠ 0)), s)

/-- `accept(char **s_p, int timeout_in_ms)` -/
def acceptString (p : Platform) (waits : Bool) (s : Socket) :
    Except AcceptError (Option (List UInt8) × Socket) := do
  let (word, s) ← acceptWord p .int waits s
  acceptCharacters (asInt word) waits s

/-- The loop of `accept(char ***array_p, int timeout_in_ms)`; its accepts wait. -/
def acceptStringLoop (p : Platform) :
    ℕ → Socket → Except AcceptError (List (Option (List UInt8)) × Socket)
  | 0, s => .ok ([], s)
  | n + 1, s => do
    let (string, s) ← acceptString p true s
    let (array, s) ← acceptStringLoop p n s
    return (string :: array, s)

/-- `accept(char ***array_p, int timeout_in_ms)` -/
def acceptStrings (p : Platform) (waits : Bool) (s : Socket) :
    Except AcceptError (List (Option (List UInt8)) × Socket) := do
  let (length, s) ← acceptWord p .uint waits s
  acceptStringLoop p length s

end Ipc
