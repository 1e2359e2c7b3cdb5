import Ngdcs.Ipc.Sends

/-! The accepts of `ipcprims.cpp` on a socket channel, and those with an indentation and a
description. -/
namespace Ipc

open CStrings

/-- What an accept stores for its caller. -/
inductive Accepted where
  | items (vs : List (List UInt8))
  | pointer (v : List UInt8)
  | string (str : Option (List UInt8))
  | strings (array : List (Option (List UInt8)))
  | block (bytes : List UInt8)
  deriving DecidableEq

/-- An accept returns a status, waits for ever, or writes outside its buffer. -/
inductive AcceptEnd where
  | returned (status : ℤ) (value : Option Accepted)
  | blocked
  | undefined
  deriving DecidableEq

section

variable (p : Platform)

/-- A call of `accept_bytes` in a function that returns -1 where the result is `bad`; `stop` is
what becomes of a status on the way out. -/
def acceptThen {α : Type*} (stop : AcceptEnd × RSocketChan → α) (bad : ℤ → Bool) (nbytes : ℕ)
    (readEverything waits : Bool) (next : List UInt8 → RSocketChan → α) (c : RSocketChan) : α :=
  match c.acceptBytes nbytes readEverything waits with
  | (.bytes got, c) => if bad (asInt got.length) then stop (.returned (-1) none, c) else next got c
  | (.failed, c) => stop (.returned (-1) none, c)
  | (.blocked, c) => stop (.blocked, c)

/-- The bytes that `accept(ctype *v_p,u_int n, ..)` asks for. -/
def itemBytes (t : DataType) (n : ℕ) : ℕ :=
  if n = 1 then canonicalSize t else n * canonicalSize t % 2 ^ 32

/-- `accept(ctype *v_p,u_int n,int timeout_in_ms,int read_everything)`; `temp` is what stands in
the buffer of the case `n == 1`. -/
def acceptItemsOn (t : DataType) (n : ℕ) (temp : List UInt8) (waits readEverything : Bool) :
    RSocketChan → AcceptEnd × RSocketChan :=
  let size := canonicalSize t
  acceptThen id (· ≤ 0) (itemBytes t n) readEverything waits fun got c =>
    let itemsRead := asInt got.length / size
    let items := if n = 1 then [uncanonize p ((got ++ temp.drop got.length).take size) (p.sizeof t)]
      else (List.range itemsRead.toNat).map fun i =>
        uncanonize p ((got.drop (i * size)).take size) (p.sizeof t)
    (.returned itemsRead (some (.items items)), c)

/-- `accept(void **v_p,int timeout_in_ms)` -/
def acceptPointerOn (waits : Bool) : RSocketChan → AcceptEnd × RSocketChan :=
  acceptThen id (· = -1) (canonicalSize .ptr) true waits fun got c =>
    (.returned 0 (some (.pointer (uncanonize p got (p.sizeof .ptr)))), c)

/-- `accept(&length,1,timeout_in_ms,1)` for an `int` or a `u_int`. -/
def acceptLengthThen {α : Type*} (stop : AcceptEnd × RSocketChan → α) (waits : Bool)
    (next : ℕ → RSocketChan → α) : RSocketChan → α :=
  acceptThen stop (· ≤ 0) (canonicalSize .int) true waits fun got c =>
    next (ofMemory p (uncanonize p got (p.sizeof .int))) c

/-- The accepts of a string behind its length; `print` is what they do before they return 0. -/
def acceptCharactersThen {α : Type*} (stop : AcceptEnd × RSocketChan → α)
    (print : Option (List UInt8) → AcceptEnd × RSocketChan → α) (length : ℤ) (waits : Bool)
    (c : RSocketChan) : α :=
  if length = -1 then print none (.returned 0 (some (.string none)), c)
  else
    acceptThen stop (· = -1) (asUInt length) true waits (fun got c =>
      if length < 0 then stop (.undefined, c)
      else
        let s := got.takeWhile (· ≠ 0)
        print (some s) (.returned 0 (some (.string (some s))), c)) c

/-- `accept(char **s_p,int timeout_in_ms)` -/
def acceptStringOn (waits : Bool) : RSocketChan → AcceptEnd × RSocketChan :=
  acceptLengthThen p id waits fun word c =>
    acceptCharactersThen id (fun _ r => r) (asInt word) waits c

/-- The loop of `accept(char ***array_p,int timeout_in_ms)` over the strings. -/
def acceptStringLoopOn : ℕ → List (Option (List UInt8)) → RSocketChan → AcceptEnd × RSocketChan
  | 0, array, c => (.returned 0 (some (.strings array)), c)
  | n + 1, array, c =>
    match acceptStringOn p true c with
    | (.returned 0 (some (.string str)), c) => acceptStringLoopOn n (array ++ [str]) c
    | (.blocked, c) => (.blocked, c)
    | (.undefined, c) => (.undefined, c)
    | (.returned _ _, c) => (.returned (-1) none, c)

/-- `accept(char ***array_p,int timeout_in_ms)` -/
def acceptStringsOn (waits : Bool) : RSocketChan → AcceptEnd × RSocketChan :=
  acceptLengthThen p id waits fun length c => acceptStringLoopOn p length [] c

/-- `accept(void **ptr,u_int nbytes,int timeout_in_ms,int read_everything)` -/
def acceptBlockOn (nbytes : ℕ) (waits readEverything : Bool) :
    RSocketChan → AcceptEnd × RSocketChan :=
  acceptThen id (fun _ => false) nbytes readEverything waits fun got c =>
    (.returned (asInt got.length) (some (.block got)), c)

/-- The first place in a datagram at which `strncmp(buffer+len,term,termlen) == 0`. -/
def findTerm (term got : List UInt8) : Option ℕ :=
  (List.range (got.length + 1 - term.length)).find? fun len =>
    decide ((got.drop len).take term.length = term)

/-- How the accepts of a terminated string end for `use_udp`. -/
def termInDatagram (term got : List UInt8) : TermOutcome :=
  match findTerm term got with
  | none => .failed
  | some len => .returned ((got.take len).takeWhile (· ≠ 0))

def TermOutcome.toEnd : TermOutcome → AcceptEnd
  | .returned s => .returned 0 (some (.string (some s)))
  | .failed => .returned (-1) none
  | .blocked => .blocked

/-- `accept(char **s_p,const char *term,int timeout_in_ms)`; `buffer` is its static array. -/
def acceptTermOn (term : CString) (waits : Bool) (buffer : List UInt8) (c : RSocketChan) :
    AcceptEnd × RSocketChan :=
  if c.useUdp then
    acceptThen id (· = -1) termBufferSize false waits
      (fun got c => ((termInDatagram term.val got).toEnd, c)) c
  else
    let r := acceptTerm term.val waits buffer c.socket
    (r.1.toEnd, { c with socket := r.2.2 })

/-- The arguments of the overloads of `accept`. -/
inductive AcceptArg where
  | items (t : DataType) (n : ℕ) (temp : List UInt8) (waits readEverything : Bool)
  | pointer (waits : Bool)
  | string (waits : Bool)
  | term (term : CString) (waits : Bool)
  | strings (waits : Bool)
  | block (nbytes : ℕ) (waits readEverything : Bool)

/-- The plain overload. -/
def accept (buffer : List UInt8) (arg : AcceptArg) (c : RSocketChan) : AcceptEnd × RSocketChan :=
  match arg with
  | .items t n temp waits readEverything => acceptItemsOn p t n temp waits readEverything c
  | .pointer waits => acceptPointerOn p waits c
  | .string waits => acceptStringOn p waits c
  | .term term waits => acceptTermOn term waits buffer c
  | .strings waits => acceptStringsOn p waits c
  | .block nbytes waits readEverything => acceptBlockOn nbytes waits readEverything c

variable (indent : ℤ) (descr : List UInt8) (trace : TraceFile)

/-- What `TRACED_ACCEPT` does with the outcome of the plain accept. -/
def traceItems (t : DataType) (n : ℕ) :
    AcceptEnd × RSocketChan → (AcceptEnd × RSocketChan) × TraceFile
  | (.returned itemsRead (some (.items vs)), c) =>
    if itemsRead ≤ 0 then ((.returned (-1) none, c), trace)
    else
      let item := if n = 1 then .value t (vs.headD []) else .elements (asInt n)
      ((.returned itemsRead (some (.items vs)), c), trace.print ⟨false, indent, descr, item⟩)
  | r => (r, trace)

/-- `TRACED_ACCEPT` -/
def tracedAcceptItems (t : DataType) (n : ℕ) (temp : List UInt8) (waits readEverything : Bool)
    (c : RSocketChan) : (AcceptEnd × RSocketChan) × TraceFile :=
  traceItems indent descr trace t n (acceptItemsOn p t n temp waits readEverything c)

/-- What the traced accept of a pointer does with the outcome of `accept(v_p,1,timeout_in_ms,1)`. -/
def tracePointer : AcceptEnd × RSocketChan → (AcceptEnd × RSocketChan) × TraceFile
  | (.returned status (some (.block bytes)), c) =>
    if status = -1 then ((.returned (-1) none, c), trace)
    else
      ((.returned 0 (some (.block bytes)), c),
        trace.print ⟨false, indent, descr, .value .ptr bytes⟩)
  | r => (r, trace)

/-- `accept(int indent,const char *descr,void **v_p,int timeout_in_ms)`, for which
`accept(v_p,1,timeout_in_ms,1)` is the accept of a block of bytes. -/
def tracedAcceptPointer (waits : Bool) (c : RSocketChan) : (AcceptEnd × RSocketChan) × TraceFile :=
  tracePointer indent descr trace (acceptBlockOn 1 waits true c)

def tracedAcceptString (waits : Bool) : RSocketChan → (AcceptEnd × RSocketChan) × TraceFile :=
  acceptLengthThen p (·, trace) waits fun word c =>
    acceptCharactersThen (·, trace) (fun s r => (r, trace.print ⟨false, indent, descr, .text s⟩))
      (asInt word) waits c

/-- `strcmp(buffer+len-termlen, term) == 0` -/
def isTail (term buffer : List UInt8) (len : ℕ) : Bool :=
  (buffer.drop (len - term.length)).take (term.length + 1) = term ++ [0]

/-- The part of the traced accept of a terminated string for a TCP channel. It has a static buffer
of its own. -/
def tracedAcceptTermLine (term : List UInt8) (waits : Bool) (buffer : List UInt8) (s : Socket) :
    TermOutcome × List UInt8 × Socket :=
  match termLoop (isTail term) term.length waits (s.payload.length + 1) buffer 0 false s with
  | (.found len tooLong, buffer, s) =>
    if tooLong then (.failed, buffer, s)
    else
      let buffer := buffer.set len 0
      (.returned (buffer.takeWhile (· ≠ 0)), buffer, s)
  | (.failed, buffer, s) => (.failed, buffer, s)
  | (.blocked, buffer, s) => (.blocked, buffer, s)

def tracedAcceptTerm (term : CString) (waits : Bool) (buffer : List UInt8) (c : RSocketChan) :
    (AcceptEnd × RSocketChan) × TraceFile :=
  let print : TermOutcome → TraceFile
    | .returned s => trace.print ⟨false, indent, descr, .text (some s)⟩
    | _ => trace
  if c.useUdp then
    acceptThen (·, trace) (· = -1) termBufferSize false waits
      (fun got c =>
        let outcome := termInDatagram term.val got
        ((outcome.toEnd, c), print outcome)) c
  else
    let r := tracedAcceptTermLine term.val waits buffer c.socket
    ((r.1.toEnd, { c with socket := r.2.2 }), print r.1)

def tracedAcceptStrings (waits : Bool) : RSocketChan → (AcceptEnd × RSocketChan) × TraceFile :=
  acceptLengthThen p (·, trace) waits fun length c =>
    let trace := trace.print ⟨false, indent, descr, .strings (asInt length)⟩
    (acceptStringLoopOn p length [] c, trace)

def tracedAcceptBlock (nbytes : ℕ) (waits readEverything : Bool) :
    RSocketChan → (AcceptEnd × RSocketChan) × TraceFile :=
  let trace := trace.print ⟨false, indent, descr, .bytes (asInt nbytes)⟩
  acceptThen (·, trace) (fun _ => false) nbytes readEverything waits fun got c =>
    ((.returned (asInt got.length) (some (.block got)), c), trace)

/-- The overload with an indentation and a description. -/
def tracedAccept (buffer : List UInt8) (arg : AcceptArg) (c : RSocketChan) :
    (AcceptEnd × RSocketChan) × TraceFile :=
  match arg with
  | .items t n temp waits readEverything =>
    tracedAcceptItems p indent descr trace t n temp waits readEverything c
  | .pointer waits => tracedAcceptPointer indent descr trace waits c
  | .string waits => tracedAcceptString p indent descr trace waits c
  | .term term waits => tracedAcceptTerm indent descr trace term waits buffer c
  | .strings waits => tracedAcceptStrings p indent descr trace waits c
  | .block nbytes waits readEverything =>
    tracedAcceptBlock indent descr trace nbytes waits readEverything c

end

end Ipc
