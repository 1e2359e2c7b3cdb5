import Ngdcs.Lib.CStrings

/-! Where `strtol` stops, and what a leading zero does to a decimal number that it reads. -/
namespace CStrings

/-- A byte that is in no number. -/
structure Separator (b : UInt8) : Prop where
  space : isSpace b = false
  digit : digitValue b = none
  sign : b ≠ 45 ∧ b ≠ 43

theorem separator_comma : Separator 44 := ⟨rfl, rfl, by decide⟩

theorem separator_rparen : Separator 41 := ⟨rfl, rfl, by decide⟩

section Append

variable {b : UInt8} (hb : Separator b) (rest : List UInt8)
include hb

theorem scanDigits_append (base n : ℕ) (s : List UInt8) :
    scanDigits base n (s ++ b :: rest) =
      ((scanDigits base n s).1, (scanDigits base n s).2 ++ b :: rest) := by
  induction s generalizing n with
  | nil => simp [scanDigits, hb.digit]
  | cons x s ih =>
    rw [List.cons_append, scanDigits, scanDigits]
    cases digitValue x with
    | none => rfl
    | some d =>
      simp only
      split_ifs
      · exact ih _
      · rfl

theorem isDigitOf_separator (base : ℕ) : isDigitOf base b = false := by
  rw [isDigitOf, hb.digit]

theorem scanNumber_separator :
    scanNumber (48 :: b :: rest) = some (scanDigits 8 0 (b :: rest)) := by
  have hnotx : (b = 120 || b = 88) = false := by
    have h120 : b ≠ 120 := fun h => absurd (h ▸ hb.digit) (by decide)
    have h88 : b ≠ 88 := fun h => absurd (h ▸ hb.digit) (by decide)
    simp [h120, h88]
  cases rest with
  | nil => rfl
  | cons d rest =>
    rw [scanNumber, hnotx]
    rfl

theorem scanNumber_append (s : List UInt8) :
    scanNumber (s ++ b :: rest) = (scanNumber s).map fun r => (r.1, r.2 ++ b :: rest) := by
  have happend := scanDigits_append hb rest
  rcases s with _ | ⟨x, s⟩
  · have hzero : b ≠ 48 := fun h => absurd (h ▸ hb.digit) (by decide)
    rw [List.nil_append, scanNumber_of_ne hzero, isDigitOf_separator hb]
    rfl
  by_cases hx : x = 48
  · subst hx
    rcases s with _ | ⟨y, _ | ⟨d, s⟩⟩
    · have hone := happend 8 0 []
      rw [List.nil_append] at hone
      rw [List.singleton_append, scanNumber_separator hb, hone]
      rfl
    · have hone := happend 8 0 [y]
      rw [List.singleton_append] at hone
      rw [List.cons_append, List.singleton_append, scanNumber, isDigitOf_separator hb,
        Bool.and_false, if_neg Bool.false_ne_true, hone]
      rfl
    · have hhex := happend 16 0 (d :: s)
      have hoct := happend 8 0 (y :: d :: s)
      simp only [List.cons_append] at hhex hoct ⊢
      rw [scanNumber, scanNumber, hhex, hoct]
      split_ifs <;> rfl
  · rw [List.cons_append, scanNumber_of_ne hx, scanNumber_of_ne hx, ← List.cons_append, happend]
    split_ifs <;> rfl

theorem dropWhile_separator (s : List UInt8) :
    (s ++ b :: rest).dropWhile isSpace = s.dropWhile isSpace ++ b :: rest := by
  induction s with
  | nil =>
    rw [List.nil_append, List.dropWhile_nil, List.nil_append, List.dropWhile_cons_of_neg]
    rw [hb.space]
    exact Bool.false_ne_true
  | cons x s ih =>
    rw [List.cons_append, List.dropWhile_cons, List.dropWhile_cons]
    split_ifs
    · exact ih
    · rfl

/-- What `strtol` makes of a string does not depend on what follows a separator. -/
theorem strtol_append (s : List UInt8) :
    strtol (s ++ b :: rest) = ((strtol s).1, (strtol s).2 ++ b :: rest) := by
  have hsign : ∀ c, b ≠ c → ∀ t : List UInt8,
      ((t ++ b :: rest).head? = some c ↔ t.head? = some c) := by
    intro c hc t
    cases t <;> simp [hc]
  unfold strtol
  simp only [dropWhile_separator hb, hsign 45 hb.sign.1, hsign 43 hb.sign.2]
  generalize s.dropWhile isSpace = t
  have hdigits : (if (t.head? = some 45 || t.head? = some 43) = true then (t ++ b :: rest).tail
      else t ++ b :: rest) =
      (if (t.head? = some 45 || t.head? = some 43) = true then t.tail else t) ++ b :: rest := by
    cases t with
    | nil => rfl
    | cons x t => split_ifs <;> rfl
  rw [hdigits, scanNumber_append hb]
  cases scanNumber (if (t.head? = some 45 || t.head? = some 43) = true then t.tail else t) with
  | none => rfl
  | some r => rfl

end Append

theorem scanDigits_suffix (base n : ℕ) (s : List UInt8) : (scanDigits base n s).2 <:+ s := by
  induction s generalizing n with
  | nil => exact List.suffix_rfl
  | cons x s ih =>
    rw [scanDigits]
    cases digitValue x with
    | none => exact List.suffix_rfl
    | some d =>
      simp only
      split_ifs
      · exact (ih _).trans (List.suffix_cons x s)
      · exact List.suffix_rfl

theorem scanNumber_suffix {s : List UInt8} {r : ℕ × List UInt8} (h : scanNumber s = some r) :
    r.2 <:+ s := by
  unfold scanNumber at h
  split at h
  next x d s =>
    split_ifs at h
    · obtain rfl := Option.some.inj h
      exact (scanDigits_suffix 16 0 (d :: s)).trans
        ((List.suffix_cons x _).trans (List.suffix_cons 48 _))
    · obtain rfl := Option.some.inj h
      exact (scanDigits_suffix 8 0 (x :: d :: s)).trans (List.suffix_cons 48 _)
  next s _ =>
    obtain rfl := Option.some.inj h
    exact (scanDigits_suffix 8 0 s).trans (List.suffix_cons 48 s)
  next b s _ _ =>
    split_ifs at h
    obtain rfl := Option.some.inj h
    exact scanDigits_suffix 10 0 (b :: s)
  next => cases h

/-- `end` points into the string. -/
theorem strtol_suffix (s : List UInt8) : (strtol s).2 <:+ s := by
  unfold strtol
  simp only
  generalize hdigits : (if (decide ((s.dropWhile isSpace).head? = some 45) ||
    decide ((s.dropWhile isSpace).head? = some 43)) = true then (s.dropWhile isSpace).tail
    else s.dropWhile isSpace) = digits
  have hsuffix : digits <:+ s := by
    rw [← hdigits]
    split_ifs
    · exact (List.tail_suffix _).trans (List.dropWhile_suffix _)
    · exact List.dropWhile_suffix _
  cases hscan : scanNumber digits with
  | none => exact List.suffix_rfl
  | some r => exact (scanNumber_suffix hscan).trans hsuffix

/-- The decimal value of digits that follow digits with the value `n`. -/
def decimalFrom (n : ℕ) (s : List UInt8) : ℕ := s.foldl (fun n b => n * 10 + (b.toNat - 48)) n

/-- The decimal value of digits. -/
def decimal (s : List UInt8) : ℕ := decimalFrom 0 s

theorem le_decimalFrom (n : ℕ) (s : List UInt8) : n ≤ decimalFrom n s := by
  induction s generalizing n with
  | nil => exact Nat.le_refl n
  | cons b s ih => exact (by omega : n ≤ n * 10 + (b.toNat - 48)).trans (ih _)

theorem digitValue_of_isDigit {b : UInt8} (h : isDigit b = true) :
    digitValue b = some (b.toNat - 48) ∧ b.toNat - 48 < 10 := by
  have hrange : 48 ≤ b.toNat ∧ b.toNat ≤ 57 := by
    simpa [isDigit, UInt8.le_iff_toNat_le] using h
  rw [digitValue, if_pos hrange]
  exact ⟨rfl, by omega⟩

/-- Decimal digits are read to their end. -/
theorem scanDigits_decimal {s : List UInt8} (hs : ∀ b ∈ s, isDigit b = true) (n : ℕ) :
    scanDigits 10 n s = (decimalFrom n s, []) := by
  induction s generalizing n with
  | nil => rfl
  | cons b s ih =>
    obtain ⟨hvalue, hlt⟩ := digitValue_of_isDigit (hs b List.mem_cons_self)
    rw [scanDigits, hvalue]
    simp only [if_pos hlt]
    exact ih (fun c hc => hs c (List.mem_cons_of_mem b hc)) _

/-- The octal and the decimal value of the same digits: equal below 8, else the octal one is
less. -/
def OctalBelow (n m : ℕ) : Prop := (n = m ∧ m ≤ 7) ∨ (n < m ∧ 8 ≤ m)

theorem scanDigits_octal {s : List UInt8} (hs : ∀ b ∈ s, isDigit b = true) {n m : ℕ}
    (h : OctalBelow n m) :
    ((scanDigits 8 n s).2 = [] → OctalBelow (scanDigits 8 n s).1 (decimalFrom m s)) ∧
      (decimalFrom m s ≤ 7 → (scanDigits 8 n s).2 = []) := by
  induction s generalizing n m with
  | nil => exact ⟨fun _ => h, fun _ => rfl⟩
  | cons b s ih =>
    obtain ⟨hvalue, hlt⟩ := digitValue_of_isDigit (hs b List.mem_cons_self)
    have hrest := fun c hc => hs c (List.mem_cons_of_mem b hc)
    have hle := le_decimalFrom (m * 10 + (b.toNat - 48)) s
    have hcons : decimalFrom m (b :: s) = decimalFrom (m * 10 + (b.toNat - 48)) s := rfl
    rw [scanDigits, hvalue, hcons]
    by_cases hoct : b.toNat - 48 < 8
    · simp only [if_pos hoct]
      apply ih hrest
      unfold OctalBelow at h ⊢
      omega
    · simp only [if_neg hoct]
      constructor
      · intro hnil
        cases hnil
      · intro hsmall
        omega

/-- A decimal number that `strtol` does not take for an octal one. -/
def PlainDecimal (s : List UInt8) : Prop := s.head? = some 48 → decimal s ≤ 7

instance (s : List UInt8) : Decidable (PlainDecimal s) := inferInstanceAs (Decidable (_ → _))

theorem strtol_of_digit {b : UInt8} {s : List UInt8} {r : ℕ × List UInt8}
    (hb : isDigit b = true) (hr : scanNumber (b :: s) = some r) :
    strtol (b :: s) = (min (r.1 : ℤ) longMax, r.2) := by
  have hrange : 48 ≤ b.toNat ∧ b.toNat ≤ 57 := by
    simpa [isDigit, UInt8.le_iff_toNat_le] using hb
  have hspace : isSpace b = false := by
    have h32 : b ≠ 32 := by
      rintro rfl
      exact absurd hrange.1 (by decide)
    have h13 : ¬b ≤ 13 := by
      rw [UInt8.le_iff_toNat_le]
      exact fun h => absurd (hrange.1.trans h) (by decide)
    simp [isSpace, h32, h13]
  have hstart : (b :: s).dropWhile isSpace = b :: s :=
    List.dropWhile_cons_of_neg (by rw [hspace]; exact Bool.false_ne_true)
  have hminus : b ≠ 45 := by
    rintro rfl
    exact absurd hrange.1 (by decide)
  have hplus : b ≠ 43 := by
    rintro rfl
    exact absurd hrange.1 (by decide)
  obtain ⟨n, rest⟩ := r
  unfold strtol
  simp only [hstart, List.head?_cons, Option.some.injEq, hminus, hplus, decide_false,
    Bool.or_self, Bool.false_eq_true, if_false, hr]

theorem scanNumber_octal {s : List UInt8} (hs : ∀ b ∈ s, isDigit b = true) :
    scanNumber (48 :: s) = some (scanDigits 8 0 s) := by
  rcases s with _ | ⟨x, _ | ⟨y, s⟩⟩
  · rfl
  · rfl
  · have hx : (x = 120 || x = 88) = false := by
      have h120 : x ≠ 120 := fun h => absurd (h ▸ hs x List.mem_cons_self) (by decide)
      have h88 : x ≠ 88 := fun h => absurd (h ▸ hs x List.mem_cons_self) (by decide)
      simp [h120, h88]
    rw [scanNumber, hx]
    rfl

/-- `strtol` reads decimal digits with their value exactly where they are not taken for octal
ones; else it does not read all of them, or reads a lower value. -/
theorem strtol_decimal {s : List UInt8} (hne : s ≠ []) (hs : ∀ b ∈ s, isDigit b = true)
    (hlong : (decimal s : ℤ) ≤ longMax) :
    (PlainDecimal s → strtol s = ((decimal s : ℤ), [])) ∧
      (¬PlainDecimal s → (strtol s).2 = [] → 0 ≤ (strtol s).1 ∧ (strtol s).1 < decimal s) := by
  rcases s with _ | ⟨b, s⟩
  · exact absurd rfl hne
  by_cases hb : b = 48
  · subst hb
    have hrest := fun c hc => hs c (List.mem_cons_of_mem 48 hc)
    have hdecimal : decimal (48 :: s) = decimalFrom 0 s := rfl
    obtain ⟨hbelow, hread⟩ := scanDigits_octal hrest (n := 0) (m := 0) (Or.inl ⟨rfl, by decide⟩)
    rw [hdecimal] at hlong ⊢
    rw [strtol_of_digit (hs 48 List.mem_cons_self) (scanNumber_octal hrest)]
    constructor
    · intro hplain
      have hsmall := hplain rfl
      rw [hdecimal] at hsmall
      have hall := hread hsmall
      have hvalue := hbelow hall
      unfold OctalBelow at hvalue
      refine Prod.ext ?_ hall
      show min ((scanDigits 8 0 s).1 : ℤ) longMax = decimalFrom 0 s
      omega
    · intro hnot hall
      have hlarge : ¬decimalFrom 0 s ≤ 7 := fun h => hnot fun _ => h
      have hvalue := hbelow hall
      unfold OctalBelow at hvalue
      show 0 ≤ min ((scanDigits 8 0 s).1 : ℤ) longMax ∧
        min ((scanDigits 8 0 s).1 : ℤ) longMax < decimalFrom 0 s
      omega
  · have hdigit : isDigitOf 10 b = true := by
      obtain ⟨hvalue, hlt⟩ := digitValue_of_isDigit (hs b List.mem_cons_self)
      rw [isDigitOf, hvalue]
      simpa using hlt
    have hscan := scanNumber_of_ne (s := s) hb
    rw [if_pos hdigit, scanDigits_decimal hs] at hscan
    rw [strtol_of_digit (hs b List.mem_cons_self) hscan]
    constructor
    · intro _
      exact Prod.ext (min_eq_left hlong) rfl
    · intro hnot
      exact absurd (fun hhead => absurd (Option.some.inj hhead) hb) hnot

end CStrings
