import Mathlib.Tactic.Ring
import Ngdcs.Ipc.RoundTrip
import Ngdcs.Lib.Stores

/-! `canonize` and `uncanonize` (`ipcosdep.cpp`) byte by byte, with the bytes turned round in
place. Numbers of any size and byte order meet in one canonical form. -/
namespace Ipc

open Stores

/-- `FATAL_COMM_ERROR`, which exits, or a byte outside an array. -/
inductive CanonizeError where
  | fatal | outside
  deriving DecidableEq

/-- The loop of `flip_word`, with `turns` left. -/
def flipLoop (size : ℕ) : ℕ → ℕ → List UInt8 → Option (List UInt8)
  | 0, _, p => some p
  | turns + 1, i, p => do
    let temp ← p[i]?
    let last ← p[size - 1 - i]?
    let p ← store p i last
    let p ← store p (size - 1 - i) temp
    flipLoop size turns (i + 1) p

def flipWord (size : ℕ) (p : List UInt8) : Option (List UInt8) := flipLoop size (size / 2) 0 p

def inArrays (r : Option (List UInt8)) : Except CanonizeError (List UInt8) :=
  match r with
  | some a => .ok a
  | none => .error .outside

/-- `memset(to+i,0,n)` and `memcpy(to+i,from,n)` are consecutive stores. `v` holds the
`from_size` bytes at `from`. -/
def canonizeBytes (p : Platform) (v dest : List UInt8) (toSize : ℕ) :
    Except CanonizeError (List UInt8) :=
  if p.bigEndian = false then
    if v.length ≠ toSize then
      if v.length < toSize then inArrays do
        let dest ← stores dest 0 (List.replicate toSize 0)
        let dest ← stores dest 0 v
        flipWord toSize dest
      else .error .fatal
    else inArrays do
      let dest ← stores dest 0 v
      flipWord toSize dest
  else if v.length ≠ toSize then
    if v.length < toSize then inArrays do
      let sparebytes := toSize - v.length
      let dest ← stores dest 0 (List.replicate sparebytes 0)
      stores dest sparebytes v
    else .error .fatal
  else inArrays (stores dest 0 v)

def uncanonizeBytes (p : Platform) (v dest : List UInt8) (toSize : ℕ) :
    Except CanonizeError (List UInt8) :=
  if p.bigEndian = false then
    if v.length ≠ toSize then
      if v.length > toSize then inArrays do
        let sparebytes := v.length - toSize
        let dest ← stores dest 0 ((v.drop sparebytes).take toSize)
        flipWord toSize dest
      else .error .fatal
    else inArrays do
      let dest ← stores dest 0 (v.take toSize)
      flipWord toSize dest
  else if v.length ≠ toSize then
    if v.length > toSize then inArrays do
      let sparebytes := v.length - toSize
      stores dest 0 ((v.drop sparebytes).take toSize)
    else .error .fatal
  else inArrays (stores dest 0 (v.take toSize))

/-! ### Turning the bytes round -/

section

variable {size : ℕ} {a : List UInt8}

/-- The bytes after `i` turns: those outside of the middle have changed places. -/
structure Flipped (size i : ℕ) (a b : List UInt8) : Prop where
  length_eq : b.length = a.length
  outer : ∀ k, k < i ∨ size - i ≤ k → k < size → b[k]? = a[size - 1 - k]?
  inner : ∀ k, i ≤ k → k < size - i ∨ size ≤ k → b[k]? = a[k]?

theorem Flipped.initial (size : ℕ) (a : List UInt8) : Flipped size 0 a a where
  length_eq := rfl
  outer k hk hsize := by omega
  inner _ _ _ := rfl

/-- One turn exchanges the outermost bytes of the middle. -/
theorem Flipped.turn {i : ℕ} {b : List UInt8} (h : Flipped size i a b) (hi : i < size / 2)
    (hsize : size ≤ a.length) : ∃ x y, b[i]? = some x ∧ b[size - 1 - i]? = some y ∧
      store b i y = some (b.set i y) ∧
      store (b.set i y) (size - 1 - i) x = some ((b.set i y).set (size - 1 - i) x) ∧
      Flipped size (i + 1) a ((b.set i y).set (size - 1 - i) x) := by
  have hlength := h.length_eq
  have hx : i < b.length := by omega
  have hy : size - 1 - i < b.length := by omega
  refine ⟨b[i], b[size - 1 - i], List.getElem?_eq_getElem hx, List.getElem?_eq_getElem hy,
    if_pos hx, if_pos (by rwa [List.length_set]), ⟨by simpa using hlength, ?_, ?_⟩⟩
  · intro k hk hksize
    by_cases hfirst : k = i
    · subst hfirst
      rw [List.getElem?_set_ne (by omega), List.getElem?_set_self hx,
        ← List.getElem?_eq_getElem hy]
      exact h.inner _ (by omega) (by omega)
    · by_cases hlast : k = size - 1 - i
      · subst hlast
        have hswap : size - 1 - (size - 1 - i) = i := by omega
        rw [List.getElem?_set_self (by rwa [List.length_set]), ← List.getElem?_eq_getElem hx,
          hswap]
        exact h.inner i (le_refl i) (by omega)
      · rw [List.getElem?_set_ne (by omega), List.getElem?_set_ne (by omega)]
        exact h.outer k (by omega) hksize
  · intro k hk hksize
    rw [List.getElem?_set_ne (by omega), List.getElem?_set_ne (by omega)]
    exact h.inner k (by omega) (by omega)

theorem flipLoop_flipped {turns i : ℕ} {b : List UInt8} (h : Flipped size i a b)
    (hturns : i + turns = size / 2) (hsize : size ≤ a.length) :
    ∃ c, flipLoop size turns i b = some c ∧ Flipped size (size / 2) a c := by
  induction turns generalizing i b with
  | zero =>
    rw [Nat.add_zero] at hturns
    exact ⟨b, rfl, hturns ▸ h⟩
  | succ turns ih =>
    obtain ⟨x, y, hx, hy, hfirst, hlast, hnext⟩ := h.turn (by omega) hsize
    obtain ⟨c, hc, hflipped⟩ := ih hnext (by omega)
    refine ⟨c, ?_, hflipped⟩
    rw [flipLoop, hx, hy]
    simp only [Option.bind_eq_bind, Option.bind_some, hfirst, hlast, hc]

/-- `flip_word` turns round the first `size` bytes. -/
theorem flipWord_eq (hsize : size ≤ a.length) :
    flipWord size a = some ((a.take size).reverse ++ a.drop size) := by
  obtain ⟨c, hc, hflipped⟩ := flipLoop_flipped (Flipped.initial size a) (Nat.zero_add _) hsize
  rw [flipWord, hc]
  congr 1
  apply List.ext_getElem?
  intro k
  have htake : (a.take size).reverse.length = size := by
    rw [List.length_reverse, List.length_take, Nat.min_eq_left hsize]
  by_cases hk : k < size
  · have hrev : (a.take size).reverse[k]? = a[size - 1 - k]? := by
      rw [List.getElem?_reverse (by rw [List.length_take]; omega), List.length_take,
        Nat.min_eq_left hsize, List.getElem?_take_of_lt (by omega)]
    rw [List.getElem?_append_left (by omega), hrev]
    by_cases hmiddle : k < size / 2 ∨ size - size / 2 ≤ k
    · exact hflipped.outer k hmiddle hk
    · have hself : size - 1 - k = k := by omega
      rw [hself]
      exact hflipped.inner k (by omega) (by omega)
  · rw [List.getElem?_append_right (by omega), htake, List.getElem?_drop,
      Nat.add_sub_cancel' (by omega)]
    exact hflipped.inner k (by omega) (by omega)

end

/-! ### Canonical form -/

variable (p q : Platform)

/-- The bytes in memory, the most significant first. -/
def inOrder (v : List UInt8) : List UInt8 := if p.bigEndian then v else v.reverse

theorem length_inOrder (v : List UInt8) : (inOrder p v).length = v.length := by
  unfold inOrder
  split_ifs
  · rfl
  · exact List.length_reverse

theorem inOrder_inOrder (v : List UInt8) : inOrder p (inOrder p v) = v := by
  unfold inOrder
  split_ifs
  · rfl
  · exact List.reverse_reverse v

/-- Zeros stand in front of the most significant byte. -/
theorem canonize_eq (v : List UInt8) (size : ℕ) :
    canonize p v size = List.replicate (size - v.length) 0 ++ inOrder p v := by
  unfold canonize inOrder
  split_ifs
  · rfl
  · rw [List.reverse_append, List.reverse_replicate]

theorem uncanonize_eq (v : List UInt8) (size : ℕ) :
    uncanonize p v size = inOrder p (v.drop (v.length - size)) := by
  unfold uncanonize inOrder
  split_ifs <;> rfl

variable {p q} {v dest : List UInt8}

theorem overwrite_all {xs : List UInt8} (h : xs.length = dest.length) :
    overwrite dest 0 xs = xs := by
  rw [overwrite, List.take_zero, List.nil_append, Nat.zero_add, h, List.drop_length,
    List.append_nil]

theorem flipWord_all (a : List UInt8) : flipWord a.length a = some a.reverse := by
  rw [flipWord_eq (le_refl _), List.take_length, List.drop_length, List.append_nil]

/-- Every branch leaves the canonical form. -/
theorem canonizeBytes_eq (hv : v.length ≤ dest.length) :
    canonizeBytes p v dest dest.length = .ok (canonize p v dest.length) := by
  have hzeros (n : ℕ) (hn : n ≤ dest.length) : stores dest 0 (List.replicate n 0) =
      some (List.replicate n 0 ++ dest.drop n) := by
    rw [stores_eq (by simpa using hn), overwrite, List.take_zero, List.nil_append,
      List.length_replicate, Nat.zero_add]
  unfold canonizeBytes canonize
  cases p.bigEndian with
  | false =>
    rw [if_pos rfl, if_neg Bool.false_ne_true]
    by_cases hne : v.length = dest.length
    · have hflip := flipWord_all v
      rw [hne] at hflip
      rw [if_neg (not_not.mpr hne), stores_eq (by omega), overwrite_all hne, Option.bind_eq_bind,
        Option.bind_some, hflip, hne, Nat.sub_self, List.replicate_zero, List.append_nil]
      rfl
    · have hcopy : stores (List.replicate dest.length 0) 0 v =
          some (v ++ List.replicate (dest.length - v.length) 0) := by
        rw [stores_eq (by simpa using hv), overwrite, List.take_zero, List.nil_append,
          List.drop_replicate, Nat.zero_add]
      have hlength : (v ++ List.replicate (dest.length - v.length) 0).length = dest.length := by
        rw [List.length_append, List.length_replicate]
        omega
      have hflip := flipWord_all (v ++ List.replicate (dest.length - v.length) 0)
      rw [hlength] at hflip
      rw [if_pos hne, if_pos (by omega), hzeros _ (le_refl _), List.drop_length, List.append_nil]
      simp only [Option.bind_eq_bind, Option.bind_some, hcopy, hflip]
      rfl
  | true =>
    rw [if_neg (Ne.symm Bool.false_ne_true), if_pos rfl]
    by_cases hne : v.length = dest.length
    · rw [if_neg (not_not.mpr hne), stores_eq (by omega), overwrite_all hne, hne, Nat.sub_self]
      rfl
    · have hlength : (List.replicate (dest.length - v.length) (0 : UInt8)).length =
          dest.length - v.length := List.length_replicate
      have hcopy : stores (List.replicate (dest.length - v.length) 0 ++
          dest.drop (dest.length - v.length)) (dest.length - v.length) v =
          some (List.replicate (dest.length - v.length) 0 ++ v) := by
        rw [stores_eq (by rw [List.length_append, hlength, List.length_drop]; omega), overwrite,
          List.take_left' hlength, List.drop_eq_nil_of_le, List.append_nil]
        rw [List.length_append, hlength, List.length_drop]
        omega
      rw [if_pos hne, if_pos (by omega)]
      simp only [hzeros _ (Nat.sub_le _ _), Option.bind_eq_bind, Option.bind_some, hcopy]
      rfl

theorem uncanonizeBytes_eq (hv : dest.length ≤ v.length) :
    uncanonizeBytes p v dest dest.length = .ok (uncanonize p v dest.length) := by
  have hlength : (v.drop (v.length - dest.length)).length = dest.length := by
    rw [List.length_drop]
    omega
  have htake : (v.drop (v.length - dest.length)).take dest.length =
      v.drop (v.length - dest.length) := List.take_of_length_le (le_of_eq hlength)
  have hcopy : stores dest 0 (v.drop (v.length - dest.length)) =
      some (v.drop (v.length - dest.length)) := by
    rw [stores_eq (by omega), overwrite_all hlength]
  have hflip := flipWord_all (v.drop (v.length - dest.length))
  rw [hlength] at hflip
  have hall (hne : v.length = dest.length) :
      v.take dest.length = v.drop (v.length - dest.length) := by
    rw [hne, Nat.sub_self, List.drop_zero, ← hne, List.take_length]
  unfold uncanonizeBytes uncanonize
  cases p.bigEndian with
  | false =>
    rw [if_pos rfl, if_neg Bool.false_ne_true]
    by_cases hne : v.length = dest.length
    · rw [if_neg (not_not.mpr hne), hall hne, hcopy, Option.bind_eq_bind, Option.bind_some, hflip]
      rfl
    · rw [if_pos hne, if_pos (by omega)]
      simp only [htake, hcopy, Option.bind_eq_bind, Option.bind_some, hflip]
      rfl
  | true =>
    rw [if_neg (Ne.symm Bool.false_ne_true), if_pos rfl]
    by_cases hne : v.length = dest.length
    · rw [if_neg (not_not.mpr hne), hall hne, hcopy]
      rfl
    · rw [if_pos hne, if_pos (by omega)]
      simp only [htake, hcopy]
      rfl

/-! ### Values -/

theorem ofMemory_eq (p : Platform) (v : List UInt8) : ofMemory p v = wordOf (inOrder p v) := by
  unfold ofMemory inOrder
  split_ifs <;> rfl

theorem foldl_word (n : ℕ) (v : List UInt8) :
    v.foldl (fun n b => n * 256 + b.toNat) n = n * 256 ^ v.length + wordOf v := by
  induction v generalizing n with
  | nil => simp [wordOf]
  | cons b v ih =>
    have hword : wordOf (b :: v) = b.toNat * 256 ^ v.length + wordOf v := by
      rw [wordOf, List.foldl_cons, Nat.zero_mul, Nat.zero_add, ih]
    rw [List.foldl_cons, ih, hword, List.length_cons]
    ring

theorem wordOf_append (u v : List UInt8) :
    wordOf (u ++ v) = wordOf u * 256 ^ v.length + wordOf v := by
  rw [wordOf, List.foldl_append, foldl_word]
  rfl

theorem wordOf_cons (b : UInt8) (v : List UInt8) :
    wordOf (b :: v) = b.toNat * 256 ^ v.length + wordOf v := by
  rw [wordOf, List.foldl_cons, foldl_word, Nat.zero_mul, Nat.zero_add]

theorem wordOf_lt (v : List UInt8) : wordOf v < 256 ^ v.length := by
  induction v with
  | nil => exact Nat.one_pos
  | cons b v ih =>
    have hb : b.toNat + 1 ≤ 256 := b.toNat_lt
    rw [wordOf_cons, List.length_cons, pow_succ]
    calc b.toNat * 256 ^ v.length + wordOf v < (b.toNat + 1) * 256 ^ v.length := by
          rw [Nat.succ_mul]
          omega
      _ ≤ 256 * 256 ^ v.length := Nat.mul_le_mul_right _ hb
      _ = 256 ^ v.length * 256 := Nat.mul_comm _ _

theorem wordOf_replicate (n : ℕ) (v : List UInt8) :
    wordOf (List.replicate n 0 ++ v) = wordOf v := by
  induction n with
  | zero => rfl
  | succ n ih =>
    rw [List.replicate_succ, List.cons_append, wordOf_cons, ih]
    exact (congrArg (· + wordOf v) (Nat.zero_mul _)).trans (Nat.zero_add _)

/-- Strings of one length are as different as their values. -/
theorem wordOf_injective {u v : List UInt8} (hlength : u.length = v.length)
    (h : wordOf u = wordOf v) : u = v := by
  induction u generalizing v with
  | nil => exact (List.length_eq_zero_iff.mp hlength.symm).symm
  | cons b u ih =>
    cases v with
    | nil => cases hlength
    | cons c v =>
      have hrest : u.length = v.length := Nat.succ.inj hlength
      rw [wordOf_cons, wordOf_cons, hrest] at h
      have hu := hrest ▸ wordOf_lt u
      have hfirst := congrArg (· / 256 ^ v.length) h
      have hlast := congrArg (· % 256 ^ v.length) h
      simp only [Nat.mul_add_mod', Nat.mod_eq_of_lt hu, Nat.mod_eq_of_lt (wordOf_lt v)] at hlast
      rw [hlast, Nat.add_right_cancel_iff] at h
      have hpos : 0 < 256 ^ v.length := Nat.pow_pos (by decide)
      rw [ih hrest hlast, UInt8.toNat_inj.mp (Nat.eq_of_mul_eq_mul_right hpos h)]

/-- Leading bytes that are zero may be dropped. -/
theorem wordOf_drop {w : List UInt8} {size : ℕ} (hsize : size ≤ w.length)
    (hw : wordOf w < 256 ^ size) : wordOf (w.drop (w.length - size)) = wordOf w := by
  have hsplit := wordOf_append (w.take (w.length - size)) (w.drop (w.length - size))
  have hlength : (w.drop (w.length - size)).length = size := by
    rw [List.length_drop]
    omega
  rw [List.take_append_drop, hlength] at hsplit
  have hzero : wordOf (w.take (w.length - size)) = 0 := by
    by_contra hne
    have hle : 256 ^ size ≤ wordOf (w.take (w.length - size)) * 256 ^ size :=
      Nat.le_mul_of_pos_left _ (Nat.pos_of_ne_zero hne)
    omega
  rw [hsplit, hzero, Nat.zero_mul, Nat.zero_add]

theorem wordOf_canonize (p : Platform) (v : List UInt8) (size : ℕ) :
    wordOf (canonize p v size) = ofMemory p v := by
  rw [canonize_eq, wordOf_replicate, ofMemory_eq]

/-- Whatever the sizes and the byte orders: what is canonized comes back; one value has one
canonical form; and a value that fits the receiver arrives there. -/
theorem canonical_wire :
    (∀ (p : Platform) (v dest back : List UInt8), v.length ≤ dest.length →
      back.length = v.length → ∃ w, canonizeBytes p v dest dest.length = .ok w ∧
        uncanonizeBytes p w back back.length = .ok v) ∧
    (∀ (p q : Platform) (u v dest dest' : List UInt8), dest.length = dest'.length →
      u.length ≤ dest.length → v.length ≤ dest.length → ofMemory p u = ofMemory q v →
      canonizeBytes p u dest dest.length = canonizeBytes q v dest' dest'.length) ∧
    ∀ (p q : Platform) (v dest back : List UInt8), v.length ≤ dest.length →
      back.length ≤ dest.length → ofMemory p v < 256 ^ back.length →
      ∃ w u, canonizeBytes p v dest dest.length = .ok w ∧
        uncanonizeBytes q w back back.length = .ok u ∧ u.length = back.length ∧
        ofMemory q u = ofMemory p v := by
  refine ⟨?_, ?_, ?_⟩
  · intro p v dest back hv hback
    have hlength := length_canonize p hv
    refine ⟨_, canonizeBytes_eq hv, ?_⟩
    rw [uncanonizeBytes_eq (by omega), hback, uncanonize_canonize p hv]
  · intro p q u v dest dest' hdest hu hv hvalue
    rw [canonizeBytes_eq hu, canonizeBytes_eq (hdest ▸ hv)]
    apply congrArg
    apply wordOf_injective
    · rw [length_canonize p hu, length_canonize q (hdest ▸ hv), hdest]
    · rw [wordOf_canonize, wordOf_canonize, hvalue]
  · intro p q v dest back hv hback hfits
    have hlength := length_canonize p hv
    have hword := wordOf_canonize p v dest.length
    refine ⟨_, _, canonizeBytes_eq hv, uncanonizeBytes_eq (by omega), ?_, ?_⟩
    · rw [uncanonize_eq, length_inOrder, List.length_drop]
      omega
    · rw [uncanonize_eq, ofMemory_eq, inOrder_inOrder, wordOf_drop (by omega) (by omega), hword]

/-- The byte order is the other one. -/
def bigEndian64 : Platform := { lp64 with bigEndian := true }

/-- 4660, sent as two bytes with the least significant first and received as two bytes with the
most significant first. -/
theorem canonical_wire_example : ∃ w u,
    canonizeBytes lp64 [52, 18] [7, 7, 7, 7] 4 = .ok w ∧
    uncanonizeBytes bigEndian64 w [9, 9] 2 = .ok u ∧ u.length = 2 ∧
    ofMemory bigEndian64 u = ofMemory lp64 [52, 18] :=
  canonical_wire.2.2 lp64 bigEndian64 [52, 18] [7, 7, 7, 7] [9, 9] (by decide) (by decide)
    (by decide)

end Ipc
