import Ngdcs.Ipc.Typed
import Ngdcs.Lib.CStrings
import Ngdcs.Lib.Pieces

/-! What is sent over a channel is what the matching accepts return. -/
namespace Ipc

open CStrings Pieces

/-! ### Numbers -/

theorem asInt_eq (n : ℕ) : asInt n = n % 2 ^ 32 ∧ n % 2 ^ 32 < 2 ^ 31 ∨
    asInt n = n % 2 ^ 32 - 2 ^ 32 ∧ 2 ^ 31 ≤ n % 2 ^ 32 := by
  unfold asInt
  simp only
  split_ifs <;> omega

theorem asInt_of_lt {n : ℕ} (hn : n < 2 ^ 31) : asInt n = n := by
  rcases asInt_eq n with h | h <;> omega

theorem asInt_asUInt {i : ℤ} (hlo : -2 ^ 31 ≤ i) (hhi : i < 2 ^ 31) : asInt (asUInt i) = i := by
  unfold asUInt
  rcases asInt_eq (i % 2 ^ 32).toNat with h | h <;> omega

theorem asUInt_lt (i : ℤ) : asUInt i < 2 ^ 32 := by
  unfold asUInt
  omega

theorem asUInt_natCast {n : ℕ} (hn : n < 2 ^ 32) : asUInt n = n := by
  unfold asUInt
  omega

theorem wordOf_wordBytes {n : ℕ} (hn : n < 2 ^ 32) : wordOf (wordBytes n) = n := by
  simp only [wordOf, wordBytes, List.foldl_cons, List.foldl_nil, UInt8.toNat_ofNat']
  omega

variable (p : Platform)

theorem ofMemory_toMemory {n : ℕ} (hn : n < 2 ^ 32) : ofMemory p (toMemory p n) = n := by
  unfold ofMemory toMemory
  split_ifs
  · exact wordOf_wordBytes hn
  · rw [List.reverse_reverse]
    exact wordOf_wordBytes hn

theorem length_toMemory (n : ℕ) : (toMemory p n).length = 4 := by
  unfold toMemory
  split_ifs <;> simp [wordBytes]

theorem length_canonize {v : List UInt8} {size : ℕ} (hv : v.length ≤ size) :
    (canonize p v size).length = size := by
  unfold canonize
  split_ifs <;> simp <;> omega

/-- Taking a number back from its canonical form. -/
theorem uncanonize_canonize {v : List UInt8} {size : ℕ} (hv : v.length ≤ size) :
    uncanonize p (canonize p v size) v.length = v := by
  have hlength := length_canonize p hv
  have hspare : (List.replicate (size - v.length) (0 : UInt8)).length = size - v.length :=
    List.length_replicate
  unfold uncanonize
  rw [hlength]
  unfold canonize
  split_ifs
  · exact List.drop_left' hspare
  · rw [List.reverse_append, List.drop_left' (by rw [List.length_reverse, hspare]),
      List.reverse_reverse]

variable {p}

/-! ### Single accepts -/

theorem acceptChecked_clean (bad : ℤ → Bool) {bytes rest : List UInt8} {s : Socket}
    (waits : Bool) (hs : s.Clean) (hpayload : s.payload = bytes ++ rest)
    (hgood : bad (asInt bytes.length) = false) :
    ∃ t, acceptChecked bad bytes.length waits s = .ok (bytes, t) ∧ t.Clean ∧
      t.payload = rest := by
  obtain ⟨t, ht, hclean, hrest⟩ := acceptBytes_clean hs waits hpayload
  refine ⟨t, ?_, hclean, hrest⟩
  unfold acceptChecked
  rw [ht]
  simp [hgood]

/-- Only what was asked for is accepted, and only if its length is not bad. -/
theorem acceptChecked_ok {bad : ℤ → Bool} {n : ℕ} {waits : Bool} {s t : Socket}
    {got : List UInt8} (h : acceptChecked bad n waits s = .ok (got, t)) :
    got.length = n ∧ bad (asInt n) = false := by
  unfold acceptChecked at h
  cases hread : acceptBytes n true waits s with
  | mk outcome t' =>
    cases outcome with
    | bytes got' =>
      have hlength : got'.length = n := by
        simpa using acceptLoop_length hread
      rw [hread] at h
      simp only at h
      split_ifs at h with hbad
      · obtain ⟨rfl, -⟩ := Prod.mk.inj (Except.ok.inj h)
        exact ⟨hlength, by simpa [hlength] using hbad⟩
    | failed => simp [hread] at h
    | blocked => simp [hread] at h

theorem length_sendScalar {t : DataType} {v : List UInt8} (hv : v.length = p.sizeof t) :
    (sendScalar p t v).length = canonicalSize t :=
  length_canonize p (hv ▸ p.sizeof_le t)

/-- Every number of an array takes the same room. -/
theorem length_mem_map_sendScalar {t : DataType} {vs : List (List UInt8)}
    (hvs : ∀ v ∈ vs, v.length = p.sizeof t) :
    ∀ x ∈ vs.map (sendScalar p t), x.length = canonicalSize t := by
  intro x hx
  obtain ⟨v, hv, rfl⟩ := List.mem_map.mp hx
  exact length_sendScalar (hvs v hv)

/-- The numbers of an array one by one. -/
theorem map_range_flatMap {t : DataType} {vs : List (List UInt8)}
    (hvs : ∀ v ∈ vs, v.length = p.sizeof t) :
    ((List.range vs.length).map fun i : ℕ => uncanonize p
      (((vs.flatMap (sendScalar p t)).drop (i * canonicalSize t)).take (canonicalSize t))
      (p.sizeof t)) = vs := by
  have hread := congrArg (List.map fun x => uncanonize p x (p.sizeof t))
    (map_piece_flatten (length_mem_map_sendScalar hvs))
  rw [List.map_map, List.map_map, List.length_map] at hread
  refine hread.trans ((List.map_congr_left fun v hv => ?_).trans (List.map_id vs))
  have hle : v.length ≤ canonicalSize t := hvs v hv ▸ p.sizeof_le t
  rw [Function.comp_apply, ← hvs v hv]
  exact uncanonize_canonize p hle

theorem canonicalSize_pos (t : DataType) : 0 < canonicalSize t := by
  cases t <;> decide

theorem length_flatMap_sendScalar {t : DataType} {vs : List (List UInt8)}
    (hvs : ∀ v ∈ vs, v.length = p.sizeof t) :
    (vs.flatMap (sendScalar p t)).length = vs.length * canonicalSize t := by
  have hlength := length_flatten_pieces (length_mem_map_sendScalar hvs)
  rwa [List.length_map] at hlength

theorem acceptItems_clean {t : DataType} {vs : List (List UInt8)} {rest : List UInt8} {s : Socket}
    (waits : Bool) (hs : s.Clean)
    (hpayload : s.payload = vs.flatMap (sendScalar p t) ++ rest)
    (hvs : ∀ v ∈ vs, v.length = p.sizeof t) (hpos : 0 < vs.length)
    (hlt : vs.length * canonicalSize t < 2 ^ 31) :
    ∃ u, acceptItems p t vs.length waits s = .ok (vs, u) ∧ u.Clean ∧ u.payload = rest := by
  have hlength := length_flatMap_sendScalar hvs
  have hmod : vs.length * canonicalSize t % 2 ^ 32 = (vs.flatMap (sendScalar p t)).length := by
    rw [hlength]
    omega
  have hvalue : asInt (vs.flatMap (sendScalar p t)).length = vs.length * canonicalSize t := by
    rw [hlength, asInt_of_lt hlt, Int.natCast_mul]
  have hprod : 0 < vs.length * canonicalSize t := Nat.mul_pos hpos (canonicalSize_pos t)
  obtain ⟨u, hu, hclean, hrest⟩ := acceptChecked_clean (· ≤ 0) waits hs hpayload
    (by simp only [hvalue, decide_eq_false_iff_not]; omega)
  refine ⟨u, ?_, hclean, hrest⟩
  have hcount : (asInt (vs.flatMap (sendScalar p t)).length).toNat / canonicalSize t =
      vs.length := by
    rw [hlength, asInt_of_lt hlt, Int.toNat_natCast]
    exact Nat.mul_div_cancel _ (canonicalSize_pos t)
  unfold acceptItems
  simp only [hmod]
  rw [hu]
  simp only [bind, Except.bind, pure, Except.pure, hcount, map_range_flatMap hvs]

/-- A number sent as an `int` and accepted as an `int` or `u_int`. -/
theorem acceptWord_clean {t : DataType} {n : ℕ} {rest : List UInt8} {s : Socket} (waits : Bool)
    (ht : t = .int ∨ t = .uint) (hn : n < 2 ^ 32) (hs : s.Clean)
    (hpayload : s.payload = sendScalar p .int (toMemory p n) ++ rest) :
    ∃ u, acceptWord p t waits s = .ok (n, u) ∧ u.Clean ∧ u.payload = rest := by
  have hsize : canonicalSize t = 4 ∧ p.sizeof t = 4 := by
    rcases ht with rfl | rfl
    · exact ⟨rfl, p.sizeof_int⟩
    · exact ⟨rfl, p.sizeof_uint⟩
  have hsame : sendScalar p .int (toMemory p n) =
      [toMemory p n].flatMap (sendScalar p t) := by
    rw [List.flatMap_singleton, sendScalar, sendScalar, hsize.1, canonicalSize]
  rw [hsame] at hpayload
  obtain ⟨u, hu, hclean, hrest⟩ := acceptItems_clean waits hs hpayload
    (fun v hv => by rw [List.mem_singleton.mp hv, length_toMemory, hsize.2]) (by simp)
    (by rw [hsize.1]; simp)
  refine ⟨u, ?_, hclean, hrest⟩
  unfold acceptWord
  rw [List.length_singleton] at hu
  rw [hu]
  simp only [bind, Except.bind, pure, Except.pure, List.flatten_cons, List.flatten_nil,
    List.append_nil, ofMemory_toMemory p hn]

theorem bind_ok {ε α β : Type} {x : Except ε α} {f : α → Except ε β} {a : α} (h : x = .ok a) :
    (x >>= f) = f a := by
  rw [h]
  rfl

theorem acceptCharacters_clean {x rest : List UInt8} {s : Socket} (waits : Bool)
    (hnul : 0 ∉ x) (hlt : x.length < 2 ^ 31) (hs : s.Clean) (hpayload : s.payload = x ++ rest) :
    ∃ u, acceptCharacters x.length waits s = .ok (some x, u) ∧ u.Clean ∧ u.payload = rest := by
  have hword : asUInt x.length = x.length := asUInt_natCast (by omega)
  obtain ⟨u, hu, hclean, hrest⟩ := acceptChecked_clean (· = -1) waits hs hpayload
    (by rw [asInt_of_lt hlt]; simp)
  refine ⟨u, ?_, hclean, hrest⟩
  rw [acceptCharacters, if_neg (by omega), hword, bind_ok hu]
  exact (if_neg (by omega)).trans (by rw [takeWhile_ne hnul])

theorem acceptString_clean {string : Option (List UInt8)} {rest : List UInt8} {s : Socket}
    (waits : Bool) (hnul : ∀ x ∈ string, 0 ∉ x) (hfits : ∀ x ∈ string, x.length < 2 ^ 31)
    (hs : s.Clean) (hpayload : s.payload = sendString p string ++ rest) :
    ∃ u, acceptString p waits s = .ok (string, u) ∧ u.Clean ∧ u.payload = rest := by
  cases string with
  | none =>
    obtain ⟨u, hu, hclean, hrest⟩ :=
      acceptWord_clean waits (Or.inl rfl) (asUInt_lt (-1)) hs hpayload
    have hnull : asInt (asUInt (-1)) = -1 := asInt_asUInt (by omega) (by omega)
    refine ⟨u, ?_, hclean, hrest⟩
    rw [acceptString, bind_ok hu]
    simp only [hnull]
    exact if_pos rfl
  | some x =>
    have hlt : x.length < 2 ^ 31 := hfits x rfl
    have hword : asUInt x.length = x.length := asUInt_natCast (by omega)
    have hsend : sendString p (some x) = sendInt p x.length ++ x := by
      unfold sendString
      simp only [asInt_of_lt hlt]
      rw [if_neg (by omega), hword, List.take_length]
    rw [hsend, List.append_assoc] at hpayload
    obtain ⟨u, hu, hclean, hrest⟩ :=
      acceptWord_clean waits (Or.inl rfl) (asUInt_lt x.length) hs hpayload
    rw [acceptString, bind_ok hu]
    simp only [hword, asInt_of_lt hlt]
    exact acceptCharacters_clean waits (hnul x rfl) hlt hclean hrest

theorem acceptStringLoop_clean {array : List (Option (List UInt8))} {rest : List UInt8}
    {s : Socket} (hnul : ∀ string ∈ array, ∀ x ∈ string, 0 ∉ x)
    (hfits : ∀ string ∈ array, ∀ x ∈ string, x.length < 2 ^ 31) (hs : s.Clean)
    (hpayload : s.payload = array.flatMap (sendString p) ++ rest) :
    ∃ u, acceptStringLoop p array.length s = .ok (array, u) ∧ u.Clean ∧ u.payload = rest := by
  induction array generalizing s with
  | nil => exact ⟨s, rfl, hs, hpayload⟩
  | cons string array ih =>
    rw [List.flatMap_cons, List.append_assoc] at hpayload
    obtain ⟨u, hu, hclean, hrest⟩ := acceptString_clean true (hnul string List.mem_cons_self)
      (hfits string List.mem_cons_self) hs hpayload
    obtain ⟨w, hw, hclean', hrest'⟩ :=
      ih (fun x hx => hnul x (List.mem_cons_of_mem string hx))
        (fun x hx => hfits x (List.mem_cons_of_mem string hx)) hclean hrest
    refine ⟨w, ?_, hclean', hrest'⟩
    rw [List.length_cons, acceptStringLoop, hu]
    simp only [bind, Except.bind, hw]
    rfl

theorem acceptStrings_clean {array : List (Option (List UInt8))} {bytes rest : List UInt8}
    {s : Socket} (waits : Bool) (hnul : ∀ string ∈ array, ∀ x ∈ string, 0 ∉ x)
    (hfits : ∀ string ∈ array, ∀ x ∈ string, x.length < 2 ^ 31) (hs : s.Clean)
    (hsend : sendStrings p array = some bytes) (hpayload : s.payload = bytes ++ rest) :
    ∃ u, acceptStrings p waits s = .ok (array, u) ∧ u.Clean ∧ u.payload = rest := by
  unfold sendStrings at hsend
  split_ifs at hsend with hlt
  obtain rfl := Option.some.inj hsend
  have hword : asUInt array.length = array.length := asUInt_natCast (by omega)
  rw [List.append_assoc] at hpayload
  obtain ⟨u, hu, hclean, hrest⟩ :=
    acceptWord_clean waits (Or.inr rfl) (asUInt_lt array.length) hs hpayload
  obtain ⟨w, hw, hclean', hrest'⟩ := acceptStringLoop_clean hnul hfits hclean hrest
  refine ⟨w, ?_, hclean', hrest'⟩
  unfold acceptStrings
  rw [hu]
  simp only [bind, Except.bind, hword, hw]

/-! ### What is accepted fits -/

theorem bind_eq_ok {ε α β : Type} {x : Except ε α} {f : α → Except ε β} {b : β} :
    (x >>= f) = .ok b ↔ ∃ a, x = .ok a ∧ f a = .ok b := by
  cases x with
  | error e => exact ⟨nofun, fun ⟨a, ha, _⟩ => nomatch ha⟩
  | ok a => exact ⟨fun h => ⟨a, rfl, h⟩, fun ⟨a', ha, h⟩ => by cases ha; exact h⟩

theorem acceptItems_fits {t : DataType} {vs : List (List UInt8)} {waits : Bool} {s u : Socket}
    (h : acceptItems p t vs.length waits s = .ok (vs, u)) :
    0 < vs.length ∧ vs.length * canonicalSize t < 2 ^ 31 := by
  obtain ⟨⟨got, s'⟩, hgot, hitems⟩ := bind_eq_ok.mp h
  obtain ⟨hlength, hgood⟩ := acceptChecked_ok hgot
  obtain ⟨hvs, -⟩ := Prod.mk.inj (Except.ok.inj hitems)
  have hcount := congrArg List.length hvs
  rw [List.length_map, List.length_range, hlength] at hcount
  simp only [decide_eq_false_iff_not, not_le] at hgood
  generalize hm : vs.length * canonicalSize t % 2 ^ 32 = m at hcount hgood hlength
  have hlt : m < 2 ^ 31 := by
    rcases asInt_eq m with hm' | hm' <;> omega
  rw [asInt_of_lt hlt, Int.toNat_natCast] at hcount
  rw [asInt_of_lt hlt] at hgood
  have hle : vs.length * canonicalSize t ≤ m := hcount ▸ Nat.div_mul_le_self m _
  refine ⟨Nat.pos_of_ne_zero fun hzero => ?_, lt_of_le_of_lt hle hlt⟩
  rw [hzero, Nat.zero_mul] at hm
  omega

theorem acceptString_fits {string : Option (List UInt8)} {waits : Bool} {s u : Socket}
    (h : acceptString p waits s = .ok (string, u)) : ∀ x ∈ string, x.length < 2 ^ 31 := by
  obtain ⟨⟨word, s'⟩, -, hrest⟩ := bind_eq_ok.mp h
  simp only [acceptCharacters] at hrest
  split_ifs at hrest with hnull hneg
  · obtain ⟨rfl, -⟩ := Prod.mk.inj (Except.ok.inj hrest)
    exact nofun
  · obtain ⟨got, -, hstring⟩ := bind_eq_ok.mp hrest
    cases hstring
  · obtain ⟨⟨got, s''⟩, hgot, hstring⟩ := bind_eq_ok.mp hrest
    obtain ⟨rfl, -⟩ := Prod.mk.inj (Except.ok.inj hstring)
    obtain ⟨hlength, -⟩ := acceptChecked_ok hgot
    intro x hx
    obtain rfl := Option.some.inj hx
    have hle := (List.takeWhile_sublist (l := got) (· ≠ 0)).length_le
    have hbound : asUInt (asInt word) < 2 ^ 31 := by
      unfold asUInt
      rcases asInt_eq word with hw | hw <;> omega
    exact lt_of_le_of_lt hle (hlength.trans_lt hbound)

theorem acceptStringLoop_fits {n : ℕ} {array : List (Option (List UInt8))} {s u : Socket}
    (h : acceptStringLoop p n s = .ok (array, u)) :
    ∀ string ∈ array, ∀ x ∈ string, x.length < 2 ^ 31 := by
  induction n generalizing s u array with
  | zero =>
    cases h
    exact nofun
  | succ n ih =>
    obtain ⟨⟨string, s'⟩, hstring, hrest⟩ := bind_eq_ok.mp h
    obtain ⟨⟨array', s''⟩, harray, hcons⟩ := bind_eq_ok.mp hrest
    obtain ⟨rfl, -⟩ := Prod.mk.inj (Except.ok.inj hcons)
    intro string' hmem
    rcases List.mem_cons.mp hmem with rfl | hmem
    · exact acceptString_fits hstring
    · exact ih harray string' hmem

/-! ### Sequences of values -/

inductive Value where
  | scalar (t : DataType) (v : List UInt8)
  | array (t : DataType) (vs : List (List UInt8))
  | string (s : Option (List UInt8))
  | strings (a : List (Option (List UInt8)))

/-- Numbers have the size of their type, there is an accept for arrays of the type, and strings
end at their first NUL. -/
def Value.Typed (p : Platform) : Value → Prop
  | .scalar t v => v.length = p.sizeof t
  | .array t vs => t ≠ .ptr ∧ ∀ v ∈ vs, v.length = p.sizeof t
  | .string s => ∀ x ∈ s, 0 ∉ x
  | .strings a => ∀ s ∈ a, ∀ x ∈ s, 0 ∉ x

def TypedValue (p : Platform) := { v : Value // v.Typed p }

def Value.send (p : Platform) : Value → Option (List UInt8)
  | .scalar t v => some (sendScalar p t v)
  | .array t vs => sendArray p t vs
  | .string s => some (sendString p s)
  | .strings a => sendStrings p a

/-- The accept that belongs to the send of `v`: of the same type and, for an array, the same
count. -/
def Value.acceptLike (p : Platform) (waits : Bool) (s : Socket) :
    Value → Except AcceptError (Value × Socket)
  | .scalar .ptr _ => do
    let (v, s) ← acceptPtr p waits s
    return (.scalar .ptr v, s)
  | .scalar t _ => do
    let (items, s) ← acceptItems p t 1 waits s
    return (.scalar t items.flatten, s)
  | .array t vs => do
    let (items, s) ← acceptItems p t vs.length waits s
    return (.array t items, s)
  | .string _ => do
    let (text, s) ← acceptString p waits s
    return (.string text, s)
  | .strings _ => do
    let (texts, s) ← acceptStrings p waits s
    return (.strings texts, s)

/-- The values that the accepts can return: an array of at least one item and less than `2 ^ 31`
bytes, strings of less than `2 ^ 31` bytes, and an array of strings with a count that is an
`int`. -/
def Value.Fits : Value → Prop
  | .scalar _ _ => True
  | .array t vs => 0 < vs.length ∧ vs.length * canonicalSize t < 2 ^ 31
  | .string s => ∀ x ∈ s, x.length < 2 ^ 31
  | .strings a => a.length < 2 ^ 31 ∧ ∀ s ∈ a, ∀ x ∈ s, x.length < 2 ^ 31

/-- The bytes of a sequence of sends. -/
def sendAll (p : Platform) : List (TypedValue p) → Option (List UInt8)
  | [] => some []
  | v :: vs => do
    let bytes ← v.val.send p
    let more ← sendAll p vs
    return bytes ++ more

/-- Every accept returns the value that was sent, having read the bytes that were sent for it. -/
def AcceptsAll (p : Platform) (waits : Bool) : List (TypedValue p) → Socket → Prop
  | [], _ => True
  | v :: vs, s => ∃ bytes t, v.val.send p = some bytes ∧
    v.val.acceptLike p waits s = .ok (v.val, t) ∧ s.payload = bytes ++ t.payload ∧
    AcceptsAll p waits vs t

/-- The sends succeed, and the accepts return the values from every socket that delivers the
bytes, whatever the fragments and signals. -/
def RoundTrips (p : Platform) (waits : Bool) (vs : List (TypedValue p)) : Prop :=
  ∃ bytes, sendAll p vs = some bytes ∧
    ∀ s : Socket, s.Clean → s.payload = bytes → AcceptsAll p waits vs s

/-- Each accept takes back what was sent. -/
theorem acceptLike_clean {v : Value} (htyped : v.Typed p) (hfits : v.Fits)
    {bytes rest : List UInt8} {s : Socket} (waits : Bool) (hsend : v.send p = some bytes)
    (hs : s.Clean) (hpayload : s.payload = bytes ++ rest) :
    ∃ t, v.acceptLike p waits s = .ok (v, t) ∧ t.Clean ∧ t.payload = rest := by
  cases v with
  | scalar t v =>
    obtain rfl := Option.some.inj hsend
    have hv : v.length = p.sizeof t := htyped
    by_cases hptr : t = .ptr
    · subst hptr
      have hlength : (sendScalar p .ptr v).length = canonicalSize .ptr :=
        length_canonize p (hv ▸ p.sizeof_le .ptr)
      obtain ⟨u, hu, hclean, hrest⟩ := acceptChecked_clean (· = -1) waits hs hpayload
        (by rw [hlength]; decide)
      refine ⟨u, ?_, hclean, hrest⟩
      rw [hlength] at hu
      have hback : uncanonize p (sendScalar p .ptr v) (p.sizeof .ptr) = v :=
        hv ▸ uncanonize_canonize p (hv ▸ p.sizeof_le .ptr)
      unfold Value.acceptLike acceptPtr
      simp only [bind, Except.bind, pure, Except.pure, hu, hback]
    · have hone : sendScalar p t v = [v].flatMap (sendScalar p t) := by simp
      rw [hone] at hpayload
      have hsize : canonicalSize t ≤ 8 := by cases t <;> decide
      obtain ⟨u, hu, hclean, hrest⟩ := acceptItems_clean waits hs hpayload
        (fun w hw => List.mem_singleton.mp hw ▸ hv) (by simp) (by simp; omega)
      refine ⟨u, ?_, hclean, hrest⟩
      rw [List.length_singleton] at hu
      cases t <;> first
        | exact absurd rfl hptr
        | simp only [Value.acceptLike, bind, Except.bind, pure, Except.pure, hu,
            List.flatten_cons, List.flatten_nil, List.append_nil]
  | array t vs =>
    simp only [Value.send, sendArray] at hsend
    split_ifs at hsend
    obtain rfl := Option.some.inj hsend
    obtain ⟨u, hu, hclean, hrest⟩ :=
      acceptItems_clean waits hs hpayload htyped.2 hfits.1 hfits.2
    refine ⟨u, ?_, hclean, hrest⟩
    simp only [Value.acceptLike, bind, Except.bind, pure, Except.pure, hu]
  | string text =>
    obtain rfl := Option.some.inj hsend
    obtain ⟨u, hu, hclean, hrest⟩ := acceptString_clean waits htyped hfits hs hpayload
    refine ⟨u, ?_, hclean, hrest⟩
    simp only [Value.acceptLike, bind, Except.bind, pure, Except.pure, hu]
  | strings texts =>
    obtain ⟨u, hu, hclean, hrest⟩ :=
      acceptStrings_clean waits htyped hfits.2 hs hsend hpayload
    refine ⟨u, ?_, hclean, hrest⟩
    simp only [Value.acceptLike, bind, Except.bind, pure, Except.pure, hu]

/-- A value that was accepted as it was sent fits. -/
theorem acceptLike_fits {v : Value} {bytes : List UInt8} {waits : Bool} {s t : Socket}
    (hsend : v.send p = some bytes) (h : v.acceptLike p waits s = .ok (v, t)) : v.Fits := by
  cases v with
  | scalar t v => trivial
  | array t vs =>
    obtain ⟨⟨items, s'⟩, hitems, hvalue⟩ := bind_eq_ok.mp h
    obtain ⟨hsame, -⟩ := Prod.mk.inj (Except.ok.inj hvalue)
    injection hsame with _ hsame
    exact acceptItems_fits (hsame ▸ hitems)
  | string text =>
    obtain ⟨⟨text', s'⟩, htext, hvalue⟩ := bind_eq_ok.mp h
    obtain ⟨hsame, -⟩ := Prod.mk.inj (Except.ok.inj hvalue)
    injection hsame with hsame
    exact acceptString_fits (hsame ▸ htext)
  | strings texts =>
    obtain ⟨⟨texts', s'⟩, htexts, hvalue⟩ := bind_eq_ok.mp h
    obtain ⟨hsame, -⟩ := Prod.mk.inj (Except.ok.inj hvalue)
    injection hsame with hsame
    obtain ⟨⟨length, s''⟩, -, hloop⟩ := bind_eq_ok.mp htexts
    have hcount : texts.length < 2 ^ 31 := by
      simp only [Value.send, sendStrings] at hsend
      split_ifs at hsend with hlt
      exact hlt
    exact ⟨hcount, acceptStringLoop_fits (hsame ▸ hloop)⟩

theorem send_of_fits {v : Value} (h : v.Fits) : ∃ bytes, v.send p = some bytes := by
  cases v with
  | scalar t v => exact ⟨_, rfl⟩
  | array t vs =>
    have hlt : vs.length * canonicalSize t < 2 ^ 32 := lt_trans h.2 (by decide)
    exact ⟨_, if_pos hlt⟩
  | string text => exact ⟨_, rfl⟩
  | strings texts => exact ⟨_, if_pos h.1⟩

theorem sendAll_of_fits {vs : List (TypedValue p)} (h : ∀ v ∈ vs, v.val.Fits) :
    ∃ bytes, sendAll p vs = some bytes := by
  induction vs with
  | nil => exact ⟨[], rfl⟩
  | cons v vs ih =>
    obtain ⟨bytes, hbytes⟩ := send_of_fits (p := p) (h v List.mem_cons_self)
    obtain ⟨more, hmore⟩ := ih fun w hw => h w (List.mem_cons_of_mem v hw)
    exact ⟨bytes ++ more, by simp [sendAll, hbytes, hmore]⟩

theorem acceptsAll_of_fits {vs : List (TypedValue p)} (h : ∀ v ∈ vs, v.val.Fits) (waits : Bool)
    {bytes : List UInt8} {s : Socket} (hsend : sendAll p vs = some bytes) (hs : s.Clean)
    (hpayload : s.payload = bytes) : AcceptsAll p waits vs s := by
  induction vs generalizing s bytes with
  | nil => trivial
  | cons v vs ih =>
    simp only [sendAll, Option.bind_eq_bind, Option.bind_eq_some_iff, Option.pure_def,
      Option.some.injEq] at hsend
    obtain ⟨first, hfirst, more, hmore, rfl⟩ := hsend
    obtain ⟨t, ht, hclean, hrest⟩ :=
      acceptLike_clean v.property (h v List.mem_cons_self) waits hfirst hs hpayload
    exact ⟨first, t, hfirst, ht, hpayload.trans (by rw [hrest]),
      ih (fun w hw => h w (List.mem_cons_of_mem v hw)) hmore hclean hrest⟩

theorem AcceptsAll.fits {vs : List (TypedValue p)} {waits : Bool} {s : Socket}
    (h : AcceptsAll p waits vs s) : ∀ v ∈ vs, v.val.Fits := by
  induction vs generalizing s with
  | nil => exact nofun
  | cons v vs ih =>
    obtain ⟨bytes, t, hsend, haccept, -, hrest⟩ := h
    intro w hw
    rcases List.mem_cons.mp hw with rfl | hw
    · exact acceptLike_fits hsend haccept
    · exact ih hrest w hw

/-- A sequence of typed sends comes back from the matching accepts exactly when every value
fits: no array is empty, and nothing has `2 ^ 31` bytes. -/
theorem roundTrips_iff (p : Platform) (waits : Bool) (vs : List (TypedValue p)) :
    RoundTrips p waits vs ↔ ∀ v ∈ vs, v.val.Fits := by
  constructor
  · rintro ⟨bytes, -, haccepts⟩
    exact (haccepts (Socket.ofBytes bytes) (clean_ofBytes bytes) (payload_ofBytes bytes)).fits
  · intro hfits
    obtain ⟨bytes, hbytes⟩ := sendAll_of_fits hfits
    exact ⟨bytes, hbytes, fun s hs hpayload => acceptsAll_of_fits hfits waits hbytes hs hpayload⟩

/-- A machine with the sizes of the canonical types. -/
def lp64 : Platform where
  bigEndian := false
  sizeof := canonicalSize
  sizeof_le := fun _ => le_rfl
  sizeof_int := rfl
  sizeof_uint := rfl

/-- The array of no items. -/
def noItems : TypedValue lp64 := ⟨.array .int [], by simp [Value.Typed]⟩

/-- It is sent as no bytes at all, and the accept for it fails whatever follows. -/
theorem empty_array_not_accepted : sendAll lp64 [noItems] = some [] ∧
    noItems.val.acceptLike lp64 true [] = .error .failed ∧ ¬RoundTrips lp64 true [noItems] := by
  refine ⟨rfl, rfl, ?_⟩
  rintro ⟨bytes, hbytes, haccepts⟩
  obtain rfl := Option.some.inj hbytes
  obtain ⟨_, t, -, haccept, -⟩ := haccepts [] nofun rfl
  cases haccept

end Ipc
