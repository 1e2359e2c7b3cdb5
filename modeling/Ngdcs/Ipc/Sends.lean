import Ngdcs.Ipc.Terminated
import Ngdcs.Ipc.Typed

/-! The sends of `ipcprims.cpp`, and those with an indentation and a description, which print a
line to `trace_fp`. -/
namespace Ipc

open CStrings

/-! ### The trace file -/

/-- What is printed of a value. -/
inductive TraceItem where
  | value (t : DataType) (v : List UInt8)
  | elements (n : ℤ)
  | text (s : Option (List UInt8))
  | strings (n : ℤ)
  | bytes (n : ℤ)

/-- `"OUT %*s%s: ..."` or `"IN  %*s%s: ..."` -/
structure TraceLine where
  out : Bool
  indent : ℤ
  descr : List UInt8
  item : TraceItem

/-- `trace_fp`: NULL, or what has been printed. -/
abbrev TraceFile := Option (List TraceLine)

def TraceFile.print (f : TraceFile) (line : TraceLine) : TraceFile := f.map (· ++ [line])

/-! ### Sending -/

section

/-- `send_bytes` of the class of the channel. -/
abbrev SendBytes (σ : Type*) := List UInt8 → σ → ℤ × σ

variable {σ : Type*} (sendBytes : SendBytes σ) (p : Platform)

/-- `send(ctype v)` -/
def sendScalarTo (t : DataType) (v : List UInt8) (s : σ) : ℤ × σ := sendBytes (sendScalar p t v) s

/-- `send(const ctype *v_p,u_int n)` -/
def sendArrayTo (t : DataType) (vs : List (List UInt8)) (s : σ) : Option (ℤ × σ) :=
  (sendArray p t vs).map fun out =>
    let r := sendBytes out s
    (if r.1 = -1 then -1 else 0, r.2)

def sendLengthTo (length : ℤ) (s : σ) : ℤ × σ :=
  sendScalarTo sendBytes p .int (toMemory p (asUInt length)) s

/-- `send(const char *s)` -/
def sendStringTo (str : Option (List UInt8)) (s : σ) : ℤ × σ :=
  let length := match str with
    | none => -1
    | some str => asInt str.length
  let r := sendLengthTo sendBytes p length s
  if r.1 = -1 then (-1, r.2)
  else if length = -1 then (0, r.2)
  else sendBytes ((str.getD []).take (asUInt length)) r.2

/-- `send(const char *s,const char *term)` -/
def sendTermTo (str : Option (List UInt8)) (term : List UInt8) (s : σ) : ℤ × σ :=
  match str with
  | none => (-1, s)
  | some str => sendBytes (sendTerm str term) s

def sendStringLoop : List (Option (List UInt8)) → σ → ℤ × σ
  | [], s => (0, s)
  | str :: array, s =>
    let r := sendStringTo sendBytes p str s
    if r.1 = -1 then (-1, r.2) else sendStringLoop array r.2

/-- `send(const char *const *array,int length)` for an array whose length is an `int`. -/
def sendStringsTo (array : List (Option (List UInt8))) (s : σ) : Option (ℤ × σ) :=
  if array.length < 2 ^ 31 then
    let r := sendLengthTo sendBytes p array.length s
    some (if r.1 = -1 then (-1, r.2) else sendStringLoop sendBytes p array r.2)
  else none

/-- `send(const void *ptr,u_int nbytes)` -/
def sendBlockTo (bytes : List UInt8) (s : σ) : ℤ × σ := sendBytes bytes s

/-- The arguments of the overloads of `send`. -/
inductive SendArg where
  | scalar (t : DataType) (v : List UInt8)
  | array (t : DataType) (vs : List (List UInt8))
  | string (str : Option (List UInt8))
  | term (str : Option (List UInt8)) (term : List UInt8)
  | strings (array : List (Option (List UInt8)))
  | block (bytes : List UInt8)

/-- The plain overload; `none` where the source leaves its arrays. -/
def send (arg : SendArg) (s : σ) : Option (ℤ × σ) :=
  match arg with
  | .scalar t v => some (sendScalarTo sendBytes p t v s)
  | .array t vs => sendArrayTo sendBytes p t vs s
  | .string str => some (sendStringTo sendBytes p str s)
  | .term str term => some (sendTermTo sendBytes str term s)
  | .strings array => sendStringsTo sendBytes p array s
  | .block bytes => some (sendBlockTo sendBytes bytes s)

variable (indent : ℤ) (descr : List UInt8) (trace : TraceFile)

/-- `TRACED_SEND`, and the overload for `void *` -/
def tracedSendScalar (t : DataType) (v : List UInt8) (s : σ) : (ℤ × σ) × TraceFile :=
  let trace := trace.print ⟨true, indent, descr, .value t v⟩
  (sendScalarTo sendBytes p t v s, trace)

def tracedSendArray (t : DataType) (vs : List (List UInt8)) (s : σ) :
    Option ((ℤ × σ) × TraceFile) :=
  let trace := trace.print ⟨true, indent, descr, .elements (asInt vs.length)⟩
  (sendArrayTo sendBytes p t vs s).map fun r => (r, trace)

def tracedSendString (str : Option (List UInt8)) (s : σ) : (ℤ × σ) × TraceFile :=
  let trace := trace.print ⟨true, indent, descr, .text str⟩
  let length := match str with
    | none => -1
    | some str => asInt str.length
  let r := sendLengthTo sendBytes p length s
  (if r.1 = -1 then (-1, r.2)
    else if length = -1 then (0, r.2)
    else sendBytes ((str.getD []).take (asUInt length)) r.2, trace)

def tracedSendTerm (str : Option (List UInt8)) (term : List UInt8) (s : σ) :
    (ℤ × σ) × TraceFile :=
  match str with
  | none => ((-1, s), trace)
  | some str =>
    let result := sendBytes (sendTerm str term) s
    (result, trace.print ⟨true, indent, descr, .text str⟩)

/-- `if (send(0,"string",array[i]) == -1) return -1;` -/
def tracedSendStringLoop : List (Option (List UInt8)) → σ → TraceFile → (ℤ × σ) × TraceFile
  | [], s, trace => ((0, s), trace)
  | str :: array, s, trace =>
    let r := tracedSendString sendBytes p 0 (bytes "string") trace str s
    if r.1.1 = -1 then ((-1, r.1.2), r.2) else tracedSendStringLoop array r.1.2 r.2

def tracedSendStrings (array : List (Option (List UInt8))) (s : σ) :
    Option ((ℤ × σ) × TraceFile) :=
  if array.length < 2 ^ 31 then
    let trace := trace.print ⟨true, indent, descr, .strings array.length⟩
    let r := sendLengthTo sendBytes p array.length s
    some (if r.1 = -1 then ((-1, r.2), trace)
      else tracedSendStringLoop sendBytes p array r.2 trace)
  else none

def tracedSendBlock (bytes : List UInt8) (s : σ) : (ℤ × σ) × TraceFile :=
  let trace := trace.print ⟨true, indent, descr, .bytes (asInt bytes.length)⟩
  (sendBytes bytes s, trace)

def tracedSend (arg : SendArg) (s : σ) : Option ((ℤ × σ) × TraceFile) :=
  match arg with
  | .scalar t v => some (tracedSendScalar sendBytes p indent descr trace t v s)
  | .array t vs => tracedSendArray sendBytes p indent descr trace t vs s
  | .string str => some (tracedSendString sendBytes p indent descr trace str s)
  | .term str term => some (tracedSendTerm sendBytes indent descr trace str term s)
  | .strings array => tracedSendStrings sendBytes p indent descr trace array s
  | .block bytes => some (tracedSendBlock sendBytes indent descr trace bytes s)

theorem tracedSendString_eq (str : Option (List UInt8)) (s : σ) :
    (tracedSendString sendBytes p indent descr trace str s).1 = sendStringTo sendBytes p str s :=
  rfl

theorem tracedSendStringLoop_eq (array : List (Option (List UInt8))) (s : σ) :
    (tracedSendStringLoop sendBytes p array s trace).1 = sendStringLoop sendBytes p array s := by
  induction array generalizing s trace with
  | nil => rfl
  | cons str array ih =>
    have hsame := tracedSendString_eq sendBytes p 0 (bytes "string") trace str s
    rw [tracedSendStringLoop, sendStringLoop, ← hsame]
    by_cases hfailed : (tracedSendString sendBytes p 0 (bytes "string") trace str s).1.1 = -1
    · rw [if_pos hfailed, if_pos hfailed]
    · rw [if_neg hfailed, if_neg hfailed]
      exact ih _ _

/-- Whatever the channel does with the bytes, and whether or not there is a trace file. -/
theorem tracedSend_eq (arg : SendArg) (s : σ) :
    (tracedSend sendBytes p indent descr trace arg s).map Prod.fst = send sendBytes p arg s := by
  cases arg with
  | scalar t v => rfl
  | array t vs =>
    simp only [tracedSend, tracedSendArray, send]
    cases sendArrayTo sendBytes p t vs s <;> rfl
  | string str => rfl
  | term str term => cases str <;> rfl
  | strings array =>
    simp only [tracedSend, tracedSendStrings, send, sendStringsTo]
    by_cases hlength : array.length < 2 ^ 31
    · rw [if_pos hlength, if_pos hlength]
      by_cases hfailed : (sendLengthTo sendBytes p array.length s).1 = -1
      · rw [if_pos hfailed, if_pos hfailed]
        rfl
      · rw [if_neg hfailed, if_neg hfailed]
        exact congrArg some (tracedSendStringLoop_eq sendBytes p _ array _)
    · rw [if_neg hlength, if_neg hlength]
      rfl
  | block bytes => rfl

end

end Ipc
