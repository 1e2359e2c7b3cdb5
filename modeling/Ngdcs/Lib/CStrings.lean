import Mathlib.Algebra.Order.Group.Int
import Mathlib.Data.List.TakeWhile
import Mathlib.Tactic.IntervalCases
import Mathlib.Tactic.SplitIfs

/-! Functions of the C library on strings, as lists of bytes without the final NUL: numbers
printed with `%d` and read with `strtol`, and the order of `strcmp`. -/
namespace CStrings

/-- A string literal, of ASCII characters. -/
def bytes (s : String) : List UInt8 := s.toList.map fun c => .ofNat c.toNat

/-- What a `const char *` points to. -/
abbrev CString := { s : List UInt8 // 0 ∉ s }

/-- `strncpy` of a string into `n` bytes. -/
def strncpy (n : ℕ) (s : List UInt8) : List UInt8 :=
  s.take n ++ List.replicate (n - s.length) 0

theorem length_strncpy (n : ℕ) (s : List UInt8) : (strncpy n s).length = n := by
  simp [strncpy]
  omega

/-- A string copied piece by piece. -/
theorem flatten_strncpy {size n : ℕ} {s : List UInt8} (hs : s.length ≤ n * size) :
    ((List.range n).map fun j => strncpy size (s.drop (j * size))).flatten =
      s ++ List.replicate (n * size - s.length) 0 := by
  induction n generalizing s with
  | zero =>
    rw [Nat.zero_mul, Nat.le_zero, List.length_eq_zero_iff] at hs
    simp [hs]
  | succ n ih =>
    have hrest : (s.drop size).length ≤ n * size := by
      rw [List.length_drop]
      rw [Nat.succ_mul] at hs
      omega
    have hdrop (j : ℕ) : s.drop (j.succ * size) = (s.drop size).drop (j * size) := by
      rw [List.drop_drop, Nat.succ_mul, Nat.add_comm]
    rw [List.range_succ_eq_map, List.map_cons, List.map_map, List.flatten_cons, Nat.zero_mul,
      List.drop_zero]
    simp only [Function.comp_def, hdrop, ih hrest]
    rw [Nat.succ_mul] at hs ⊢
    rcases Nat.le_total s.length size with hle | hle
    · rw [strncpy, List.take_of_length_le hle, List.drop_eq_nil_of_le hle, List.nil_append,
        List.append_assoc, List.replicate_append_replicate]
      congr 2
      simp
      omega
    · rw [strncpy, Nat.sub_eq_zero_of_le hle, List.replicate_zero, List.append_nil,
        ← List.append_assoc, List.take_append_drop, List.length_drop]
      congr 2
      omega

theorem takeWhile_ne {b : UInt8} {s : List UInt8} (hs : b ∉ s) : s.takeWhile (· ≠ b) = s := by
  rw [List.takeWhile_eq_self_iff]
  exact fun c hc => by simpa using fun h : c = b => hs (h ▸ hc)

theorem takeWhile_ne_append {b : UInt8} {s rest : List UInt8} (hs : b ∉ s) :
    (s ++ b :: rest).takeWhile (· ≠ b) = s := by
  rw [List.takeWhile_append_of_pos fun c hc => by simpa using fun h : c = b => hs (h ▸ hc)]
  simp

/-- A string in an array ends at its first NUL. -/
theorem takeWhile_append_nul (s rest : List UInt8) :
    (s ++ 0 :: rest).takeWhile (· ≠ 0) = s.takeWhile (· ≠ 0) := by
  induction s with
  | nil => simp
  | cons b s ih =>
    rw [List.cons_append, List.takeWhile_cons, List.takeWhile_cons, ih]

/-- The string before a NUL that is written into an array. -/
theorem takeWhile_set_nul (s : List UInt8) (n : ℕ) :
    (s.set n 0).takeWhile (· ≠ 0) = (s.take n).takeWhile (· ≠ 0) := by
  by_cases hn : n < s.length
  · rw [List.set_eq_take_append_cons_drop, if_pos hn]
    exact takeWhile_append_nul _ _
  · have hle : s.length ≤ n := Nat.le_of_not_lt hn
    rw [List.set_eq_of_length_le hle, List.take_of_length_le hle]

/-! ### Numbers -/

/-- The decimal digits of `n`, where `fuel` is more than `n`. -/
def printDigits : ℕ → ℕ → List UInt8
  | 0, _ => []
  | fuel + 1, n =>
    if n < 10 then [.ofNat (48 + n)] else printDigits fuel (n / 10) ++ [.ofNat (48 + n % 10)]

def printNat (n : ℕ) : List UInt8 := printDigits (n + 1) n

/-- `%d` -/
def printInt (i : ℤ) : List UInt8 := if i < 0 then 45 :: printNat i.natAbs else printNat i.natAbs

/-- `isspace` in the C locale. -/
def isSpace (b : UInt8) : Bool := b = 32 || (9 ≤ b && b ≤ 13)

/-- `isdigit` -/
def isDigit (b : UInt8) : Bool := 48 ≤ b && b ≤ 57

/-- The value of a digit of a base up to 36. -/
def digitValue (b : UInt8) : Option ℕ :=
  if 48 ≤ b.toNat ∧ b.toNat ≤ 57 then some (b.toNat - 48)
  else if 97 ≤ b.toNat ∧ b.toNat ≤ 122 then some (b.toNat - 87)
  else if 65 ≤ b.toNat ∧ b.toNat ≤ 90 then some (b.toNat - 55)
  else none

/-- The digits at the start of a string, after digits with the value `n`, and what follows. -/
def scanDigits (base : ℕ) (n : ℕ) : List UInt8 → ℕ × List UInt8
  | [] => (n, [])
  | b :: s =>
    match digitValue b with
    | none => (n, b :: s)
    | some d => if d < base then scanDigits base (n * base + d) s else (n, b :: s)

def isDigitOf (base : ℕ) (b : UInt8) : Bool :=
  match digitValue b with
  | none => false
  | some d => d < base

/-- The digits of an unsigned number in the notation of C (decimal, octal after 0, hexadecimal
after 0x); `none` where there are none. -/
def scanNumber : List UInt8 → Option (ℕ × List UInt8)
  | 48 :: x :: d :: s =>
    if (x = 120 || x = 88) && isDigitOf 16 d then some (scanDigits 16 0 (d :: s))
    else some (scanDigits 8 0 (x :: d :: s))
  | 48 :: s => some (scanDigits 8 0 s)
  | b :: s => if isDigitOf 10 b then some (scanDigits 10 0 (b :: s)) else none
  | [] => none

/-- The greatest value of a `long`. -/
def longMax : ℤ := 2 ^ 63 - 1

/-- `strtol(s, &end, 0)`: the number, limited to the range of a `long`, and `end`. -/
def strtol (s : List UInt8) : ℤ × List UInt8 :=
  let start := s.dropWhile isSpace
  let negative := start.head? = some 45
  let digits := if start.head? = some 45 || start.head? = some 43 then start.tail else start
  match scanNumber digits with
  | none => (0, s)
  | some (n, rest) => (if negative then max (-n) (-longMax - 1) else min n longMax, rest)

/-- A `long` stored in an `int`. -/
def longToInt (i : ℤ) : ℤ := i.bmod (2 ^ 32)

theorem longToInt_of_abs {i : ℤ} (hi : |i| < 2 ^ 31) : longToInt i = i := by
  rw [abs_lt] at hi
  unfold longToInt
  rw [Int.bmod_def]
  split_ifs <;> omega

theorem longToInt_le {i : ℤ} (hi : 0 ≤ i) : longToInt i ≤ i := by
  unfold longToInt
  rw [Int.bmod_def]
  split_ifs <;> omega

theorem digitValue_digit {d : ℕ} (hd : d < 10) : digitValue (.ofNat (48 + d)) = some d := by
  interval_cases d <;> rfl

theorem scanDigits_printDigits {fuel n : ℕ} (hn : n < fuel) (rest : List UInt8) :
    scanDigits 10 0 (printDigits fuel n ++ rest) = scanDigits 10 n rest := by
  induction fuel generalizing n rest with
  | zero => omega
  | succ fuel ih =>
    rw [printDigits]
    split_ifs with hlt
    · rw [List.singleton_append, scanDigits, digitValue_digit hlt]
      simp only [if_pos hlt, Nat.zero_mul, Nat.zero_add]
    · have hdigit : n % 10 < 10 := Nat.mod_lt n (by decide)
      have hvalue : n / 10 * 10 + n % 10 = n := Nat.div_add_mod' n 10
      rw [List.append_assoc, ih (by omega), List.singleton_append, scanDigits,
        digitValue_digit hdigit]
      simp only [if_pos hdigit, hvalue]

/-- A number begins with a digit, and with 0 only if it is 0. -/
theorem printDigits_head {fuel n : ℕ} (hn : n < fuel) :
    ∃ d s, printDigits fuel n = .ofNat (48 + d) :: s ∧ d < 10 ∧ (0 < n → 0 < d) := by
  induction fuel generalizing n with
  | zero => omega
  | succ fuel ih =>
    rw [printDigits]
    split_ifs with hlt
    · exact ⟨n, [], rfl, hlt, id⟩
    · obtain ⟨d, s, hd, hlt', hpos⟩ := ih (n := n / 10) (by omega)
      exact ⟨d, _, by rw [hd, List.cons_append], hlt', fun _ => hpos (by omega)⟩

theorem scanNumber_of_ne {b : UInt8} {s : List UInt8} (hb : b ≠ 48) :
    scanNumber (b :: s) = if isDigitOf 10 b then some (scanDigits 10 0 (b :: s)) else none := by
  unfold scanNumber
  split <;> simp_all

theorem scanNumber_printNat (n : ℕ) : scanNumber (printNat n) = some (n, []) := by
  rcases Nat.eq_zero_or_pos n with rfl | hpos
  · decide
  · obtain ⟨d, s, hd, hlt, hdpos⟩ := printDigits_head (Nat.lt_succ_self n)
    have hscan := scanDigits_printDigits (Nat.lt_succ_self n) []
    have hne : UInt8.ofNat (48 + d) ≠ 48 := by
      have := hdpos hpos
      interval_cases d <;> decide
    have hdigit : isDigitOf 10 (.ofNat (48 + d)) = true := by
      unfold isDigitOf
      rw [digitValue_digit hlt]
      simpa using hlt
    rw [List.append_nil, hd] at hscan
    rw [printNat, hd, scanNumber_of_ne hne, if_pos hdigit, hscan]
    rfl

/-- What is printed with `%d` is read back. -/
theorem strtol_printInt {i : ℤ} (hi : |i| < 2 ^ 63) : strtol (printInt i) = (i, []) := by
  have hnat := scanNumber_printNat i.natAbs
  unfold printInt
  split_ifs with hneg
  · have hstart : (45 :: printNat i.natAbs).dropWhile isSpace = 45 :: printNat i.natAbs := rfl
    unfold strtol
    simp only [hstart, List.head?_cons, List.tail_cons, decide_true, Bool.true_or, if_true, hnat]
    unfold longMax
    rw [abs_lt] at hi
    congr 1
    omega
  · obtain ⟨d, s, hd, hlt, -⟩ := printDigits_head (Nat.lt_succ_self i.natAbs)
    have hstart : (printNat i.natAbs).dropWhile isSpace = printNat i.natAbs := by
      rw [printNat, hd, List.dropWhile_cons_of_neg]
      interval_cases d <;> decide
    have hsign : (printNat i.natAbs).head? ≠ some 45 ∧ (printNat i.natAbs).head? ≠ some 43 := by
      rw [printNat, hd, List.head?_cons, Ne, Option.some.injEq, Ne, Option.some.injEq]
      interval_cases d <;> decide
    unfold strtol
    simp only [hstart, hsign.1, hsign.2, decide_false, Bool.or_self, if_false, hnat,
      Bool.false_eq_true]
    unfold longMax
    rw [abs_lt] at hi
    congr 1
    omega

theorem mem_printDigits {fuel n : ℕ} {b : UInt8} (hb : b ∈ printDigits fuel n) :
    ∃ d < 10, b = .ofNat (48 + d) := by
  induction fuel generalizing n with
  | zero => cases hb
  | succ fuel ih =>
    rw [printDigits] at hb
    split_ifs at hb with hlt
    · exact ⟨n, hlt, List.mem_singleton.mp hb⟩
    · rcases List.mem_append.mp hb with hb | hb
      · exact ih hb
      · exact ⟨n % 10, Nat.mod_lt n (by decide), List.mem_singleton.mp hb⟩

/-- What is printed with `%d` has only digits and a sign. -/
theorem notMem_printInt {i : ℤ} {b : UInt8} (hb : b < 45) : b ∉ printInt i := by
  have hnat (n : ℕ) : b ∉ printNat n := by
    intro hmem
    obtain ⟨d, hd, rfl⟩ := mem_printDigits hmem
    interval_cases d <;> exact absurd hb (by decide)
  unfold printInt
  split_ifs
  · rw [List.mem_cons, not_or]
    exact ⟨UInt8.ne_of_lt hb, hnat _⟩
  · exact hnat _

theorem length_printDigits {fuel n k : ℕ} (hn : n < 10 ^ (k + 1)) :
    (printDigits fuel n).length ≤ k + 1 := by
  induction k generalizing fuel n with
  | zero =>
    cases fuel with
    | zero => exact Nat.zero_le _
    | succ fuel => rw [printDigits, if_pos (by omega), List.length_singleton]
  | succ k ih =>
    cases fuel with
    | zero => exact Nat.zero_le _
    | succ fuel =>
      rw [printDigits]
      split_ifs
      · simp
      · have hdiv : n / 10 < 10 ^ (k + 1) := by
          rw [Nat.div_lt_iff_lt_mul (by decide), ← Nat.pow_succ]
          exact hn
        rw [List.length_append, List.length_singleton]
        exact Nat.succ_le_succ (ih hdiv)

theorem length_printInt {i : ℤ} {k : ℕ} (hi : |i| < 10 ^ (k + 1)) :
    (printInt i).length ≤ k + 2 := by
  have hlt : i.natAbs < 10 ^ (k + 1) := by
    rw [← Int.natCast_natAbs] at hi
    exact_mod_cast hi
  have hnat : (printNat i.natAbs).length ≤ k + 1 := length_printDigits hlt
  unfold printInt
  split_ifs
  · exact Nat.succ_le_succ hnat
  · exact Nat.le_succ_of_le hnat

/-! ### Order -/

/-- `strcmp(a, b) > 0` -/
def strcmpGreater : List UInt8 → List UInt8 → Bool
  | [], _ => false
  | _ :: _, [] => true
  | x :: xs, y :: ys => if x = y then strcmpGreater xs ys else y < x

theorem strcmpGreater_asymm {a b : List UInt8} (h : strcmpGreater a b = true) :
    strcmpGreater b a = false := by
  induction a generalizing b with
  | nil => cases h
  | cons x xs ih =>
    cases b with
    | nil => rfl
    | cons y ys =>
      rw [strcmpGreater] at h ⊢
      by_cases hxy : x = y
      · rw [if_pos hxy] at h
        rw [if_pos hxy.symm]
        exact ih h
      · rw [if_neg hxy] at h
        rw [if_neg (Ne.symm hxy)]
        have hlt : y < x := by simpa using h
        simpa using UInt8.le_of_lt hlt

/-- What is not greater than something that is not greater is not greater. -/
theorem not_strcmpGreater_trans {a b c : List UInt8} (hab : strcmpGreater a b = false)
    (hbc : strcmpGreater b c = false) : strcmpGreater a c = false := by
  induction a generalizing b c with
  | nil => rfl
  | cons x xs ih =>
    cases b with
    | nil => cases hab
    | cons y ys =>
      cases c with
      | nil => cases hbc
      | cons z zs =>
        rw [strcmpGreater] at hab hbc ⊢
        rcases eq_or_ne x y with rfl | hxy
        · rw [if_pos rfl] at hab
          rcases eq_or_ne x z with rfl | hxz
          · rw [if_pos rfl] at hbc ⊢
            exact ih hab hbc
          · rw [if_neg hxz] at hbc ⊢
            exact hbc
        · rw [if_neg hxy] at hab
          have hle : x ≤ y := by simpa using hab
          have hlt : x < y := UInt8.lt_of_le_of_ne hle hxy
          have hle' : y ≤ z := by
            rcases eq_or_ne y z with rfl | hyz
            · exact UInt8.le_refl y
            · rw [if_neg hyz] at hbc
              simpa using hbc
          have hxz : x < z := UInt8.lt_of_lt_of_le hlt hle'
          rw [if_neg (UInt8.ne_of_lt hxz)]
          simpa using UInt8.le_of_lt hxz

end CStrings
