import Ngdcs.Lib.Runs
import Ngdcs.Lib.Stores
import Ngdcs.Settings.GetValue
import Ngdcs.Settings.SaveLoad

/-! `encrypted` and `decrypted` on their arrays: the string that they are given, which may be read
up to its NUL, and the static results of 64 bytes, which keep what earlier calls have left. -/
namespace Settings

open CStrings Stores Pieces

/-- `strncpy(pt, s, n)`, where `s` runs to the end of what may be read. -/
def strncpyFrom : ℕ → List UInt8 → Option (List UInt8)
  | 0, _ => some []
  | _ + 1, [] => none
  | n + 1, c :: s =>
    if c = 0 then some (List.replicate (n + 1) 0) else (strncpyFrom n s).map (c :: ·)

/-- The two digits of each byte of `ct`, from `result[i]` on. -/
def storeHex (result : List UInt8) (i : ℕ) : List UInt8 → Option (List UInt8)
  | [] => some result
  | b :: ct => do
    let result ← store result i (hexDigit (b >>> 4))
    let result ← store result (i + 1) (hexDigit (b &&& 15))
    storeHex result (i + 2) ct

/-- The bytes with the next `n` pairs of digits. -/
def loadHex : ℕ → List UInt8 → Option (List UInt8)
  | 0, _ => some []
  | n + 1, c :: d :: s => (loadHex n s).map (((fromHexDigit c <<< 4) + fromHexDigit d) :: ·)
  | _ + 1, _ => none

section

variable (cipher : Blowfish) (key password : List UInt8)

/-- The loop of `encrypted`, with `blocks` turns left, and the NUL at the end. -/
def encryptLoop : ℕ → ℕ → List UInt8 → Option (List UInt8)
  | 0, j, result => store result (j * 16) 0
  | blocks + 1, j, result => do
    let pt ← strncpyFrom 8 ((password ++ [0]).drop (j * 8))
    let result ← storeHex result (j * 16) (cipher.ecbEncrypt key pt)
    encryptLoop blocks (j + 1) result

/-- `SettingsBlock::encrypted` on its static result; `none` where it leaves an array. -/
def encryptedResult (result : List UInt8) : Option (List UInt8) :=
  if cipher.setup key then encryptLoop cipher key password (encryptedBlocks password) 0 result
  else store result 0 0

/-- The loop of `decrypted`, with `blocks` turns left. -/
def decryptLoop : ℕ → ℕ → List UInt8 → Option (List UInt8)
  | 0, _, result => some result
  | blocks + 1, j, result => do
    let ct ← loadHex 8 ((password ++ [0]).drop (j * 16))
    let result ← stores result (j * 8) (cipher.ecbDecrypt key ct)
    decryptLoop blocks (j + 1) result

/-- `SettingsBlock::decrypted` on its static result; `none` where it leaves an array. -/
def decryptedResult (result : List UInt8) : Option (List UInt8) :=
  if cipher.setup key then decryptLoop cipher key password (decryptedBlocks password) 0 result
  else store result 0 0

end

/-! ### One block -/

theorem strncpyFrom_eq {s : List UInt8} (hs : 0 ∉ s) (n : ℕ) :
    strncpyFrom n (s ++ [0]) = some (strncpy n s) := by
  induction s generalizing n with
  | nil => cases n <;> simp [strncpyFrom, strncpy]
  | cons c s ih =>
    obtain ⟨hc, hs⟩ := not_or.mp (List.mem_cons.not.mp hs)
    cases n with
    | zero => simp [strncpyFrom, strncpy]
    | succ n =>
      rw [List.cons_append, strncpyFrom, if_neg (Ne.symm hc), ih hs]
      simp [strncpy]

theorem storeHex_eq (result : List UInt8) (i : ℕ) (ct : List UInt8) :
    storeHex result i ct = stores result i (toHex ct) := by
  induction ct generalizing result i with
  | nil => rfl
  | cons b ct ih =>
    have hhex : toHex (b :: ct) = hexDigit (b >>> 4) :: hexDigit (b &&& 15) :: toHex ct := rfl
    rw [storeHex, hhex, stores]
    simp only [stores, Option.bind_eq_bind, ih]

theorem loadHex_eq {n : ℕ} {s : List UInt8} (hs : n * 2 ≤ s.length) :
    loadHex n s = some (fromHex (s.take (n * 2))) := by
  induction n generalizing s with
  | zero => simp [loadHex, fromHex]
  | succ n ih =>
    match s, hs with
    | [], hs => simp at hs
    | [_], hs => simp at hs; omega
    | c :: d :: s, hs =>
      simp only [List.length_cons] at hs
      rw [loadHex, ih (by omega), Nat.succ_mul, List.take_succ_cons, List.take_succ_cons, fromHex]
      rfl

theorem loadHex_none {n : ℕ} {s : List UInt8} (hs : s.length < n * 2) : loadHex n s = none := by
  induction n generalizing s with
  | zero => omega
  | succ n ih =>
    match s, hs with
    | [], _ => rfl
    | [_], _ => rfl
    | c :: d :: s, hs =>
      simp only [List.length_cons] at hs
      rw [loadHex, ih (by omega)]
      rfl

/-! ### All blocks -/

section

variable (cipher : Blowfish) (key password : List UInt8)

/-- The digits of some blocks of 8 bytes. -/
def digitsOf (j blocks : ℕ) : List UInt8 :=
  ((List.range' j blocks).map fun j =>
    toHex (cipher.ecbEncrypt key (strncpy 8 (password.drop (j * 8))))).flatten

/-- The bytes that some blocks of 16 digits stand for. -/
def plainOf (j blocks : ℕ) : List UInt8 :=
  ((List.range' j blocks).map fun j =>
    cipher.ecbDecrypt key (fromHex (piece 16 j (password ++ [0])))).flatten

variable {cipher key password}

theorem length_digitsOf (j blocks : ℕ) :
    (digitsOf cipher key password j blocks).length = blocks * 16 := by
  have hpieces : ∀ p ∈ (List.range' j blocks).map fun j =>
      toHex (cipher.ecbEncrypt key (strncpy 8 (password.drop (j * 8)))), p.length = 16 := by
    intro p hp
    obtain ⟨i, -, rfl⟩ := List.mem_map.mp hp
    rw [length_toHex, cipher.length_ecbEncrypt key _ (length_strncpy 8 _)]
  rw [digitsOf, length_flatten_pieces hpieces, List.length_map, List.length_range']

theorem notMem_digitsOf (j blocks : ℕ) : 0 ∉ digitsOf cipher key password j blocks := by
  intro hmem
  obtain ⟨p, hp, hnul⟩ := List.mem_flatten.mp hmem
  obtain ⟨i, -, rfl⟩ := List.mem_map.mp hp
  exact notMem_toHex (by decide) _ hnul

theorem encryptLoop_eq (hpassword : 0 ∉ password) {blocks j : ℕ}
    (hblocks : (j + blocks) * 8 < password.length + 8) (result : List UInt8) :
    encryptLoop cipher key password blocks j result =
      stores result (j * 16) (digitsOf cipher key password j blocks ++ [0]) := by
  induction blocks generalizing j result with
  | zero => rw [encryptLoop, digitsOf, List.range'_zero, List.map_nil, List.flatten_nil,
      List.nil_append, stores_singleton]
  | succ blocks ih =>
    have hdrop : (password ++ [0]).drop (j * 8) = password.drop (j * 8) ++ [0] :=
      List.drop_append_of_le_length (by omega)
    have hrest : 0 ∉ password.drop (j * 8) := fun h => hpassword (List.mem_of_mem_drop h)
    have hdigits : digitsOf cipher key password j (blocks + 1) =
        toHex (cipher.ecbEncrypt key (strncpy 8 (password.drop (j * 8)))) ++
          digitsOf cipher key password (j + 1) blocks := by
      rw [digitsOf, List.range'_succ, List.map_cons, List.flatten_cons]
      rfl
    have hlength : (toHex (cipher.ecbEncrypt key (strncpy 8 (password.drop (j * 8))))).length =
        16 := by
      rw [length_toHex, cipher.length_ecbEncrypt key _ (length_strncpy 8 _)]
    rw [encryptLoop, hdrop, strncpyFrom_eq hrest, hdigits, List.append_assoc, stores_append,
      hlength]
    simp only [Option.bind_eq_bind, Option.bind_some, storeHex_eq]
    have hnext (r : List UInt8) := ih (j := j + 1) (by omega) r
    simp only [hnext, Nat.succ_mul]

theorem length_fromHex {s : List UInt8} {n : ℕ} (hs : s.length = n * 2) :
    (fromHex s).length = n := by
  induction n generalizing s with
  | zero =>
    rw [Nat.zero_mul, List.length_eq_zero_iff] at hs
    rw [hs]
    rfl
  | succ n ih =>
    match s, hs with
    | [], hs => simp at hs
    | [_], hs => simp at hs; omega
    | c :: d :: s, hs =>
      simp only [List.length_cons] at hs
      rw [fromHex, List.length_cons, ih (by omega)]

theorem length_block {j : ℕ} (hj : (j + 1) * 16 ≤ password.length + 1) :
    (cipher.ecbDecrypt key (fromHex (piece 16 j (password ++ [0])))).length = 8 := by
  apply cipher.length_ecbDecrypt
  apply length_fromHex
  rw [piece, List.length_take, List.length_drop, List.length_append, List.length_singleton]
  omega

theorem length_plainOf {j blocks : ℕ} (hblocks : (j + blocks) * 16 ≤ password.length + 1) :
    (plainOf cipher key password j blocks).length = blocks * 8 := by
  have hpieces : ∀ p ∈ (List.range' j blocks).map fun j =>
      cipher.ecbDecrypt key (fromHex (piece 16 j (password ++ [0]))), p.length = 8 := by
    intro p hp
    obtain ⟨i, hi, rfl⟩ := List.mem_map.mp hp
    have hi := List.mem_range'_1.mp hi
    exact length_block (by omega)
  rw [plainOf, length_flatten_pieces hpieces, List.length_map, List.length_range']

theorem loadHex_block {j : ℕ} (hj : (j + 1) * 16 ≤ password.length + 1) :
    loadHex 8 ((password ++ [0]).drop (j * 16)) =
      some (fromHex (piece 16 j (password ++ [0]))) := by
  apply loadHex_eq
  rw [List.length_drop, List.length_append, List.length_singleton]
  omega

theorem decryptLoop_eq {blocks j : ℕ} (hblocks : (j + blocks) * 16 ≤ password.length + 1)
    (result : List UInt8) : decryptLoop cipher key password blocks j result =
      stores result (j * 8) (plainOf cipher key password j blocks) := by
  induction blocks generalizing j result with
  | zero => rfl
  | succ blocks ih =>
    have hj : (j + 1) * 16 ≤ password.length + 1 := by omega
    have hplain : plainOf cipher key password j (blocks + 1) =
        cipher.ecbDecrypt key (fromHex (piece 16 j (password ++ [0]))) ++
          plainOf cipher key password (j + 1) blocks := by
      rw [plainOf, List.range'_succ, List.map_cons, List.flatten_cons]
      rfl
    rw [decryptLoop, loadHex_block hj, hplain, stores_append, length_block hj]
    have hnext (r : List UInt8) := ih (j := j + 1) (by omega) r
    simp only [Option.bind_eq_bind, Option.bind_some, hnext, Nat.succ_mul]

/-- A block that does not end in front of the NUL or with it is read beyond. -/
theorem decryptLoop_none {blocks j : ℕ} (hj : j * 16 ≤ password.length + 1)
    (hblocks : password.length + 1 < (j + blocks) * 16) (result : List UInt8) :
    decryptLoop cipher key password blocks j result = none := by
  induction blocks generalizing j result with
  | zero => omega
  | succ blocks ih =>
    rw [decryptLoop]
    by_cases hnext : (j + 1) * 16 ≤ password.length + 1
    · simp only [loadHex_block hnext, Option.bind_eq_bind, Option.bind_some,
        Option.bind_eq_none_iff]
      exact fun r _ => ih hnext (by omega) r
    · have hload : loadHex 8 ((password ++ [0]).drop (j * 16)) = none := by
        apply loadHex_none
        rw [List.length_drop, List.length_append, List.length_singleton]
        omega
      rw [hload]
      rfl

theorem encryptedBlocks_lt (password : List UInt8) :
    encryptedBlocks password * 8 < password.length + 8 := by
  have hle : longToInt (password.length + 7) ≤ password.length + 7 := longToInt_le (by omega)
  unfold encryptedBlocks
  omega

/-- The result of `encrypted` in its array. -/
theorem encryptedResult_eq (hkey : key.length = 8) (hpassword : 0 ∉ password)
    (result : List UInt8) : encryptedResult cipher key password result =
      stores result 0 (digitsOf cipher key password 0 (encryptedBlocks password) ++ [0]) := by
  have hblocks := encryptedBlocks_lt password
  rw [encryptedResult, if_pos (cipher.setup_of_length key hkey),
    encryptLoop_eq hpassword (by omega), Nat.zero_mul]

theorem decryptedResult_eq (hkey : key.length = 8)
    (hblocks : decryptedBlocks password * 16 ≤ password.length + 1) (result : List UInt8) :
    decryptedResult cipher key password result =
      stores result 0 (plainOf cipher key password 0 (decryptedBlocks password)) := by
  rw [decryptedResult, if_pos (cipher.setup_of_length key hkey), decryptLoop_eq (by omega),
    Nat.zero_mul]

section

variable {result : List UInt8} (hresult : result.length = 64)

include hresult

theorem encryptedResult_isSome_iff (hkey : key.length = 8) (hpassword : 0 ∉ password) :
    (encryptedResult cipher key password result).isSome ↔ encryptedBlocks password < 4 := by
  rw [encryptedResult_eq hkey hpassword, stores_isSome_iff 0 (by simp), List.length_append,
    length_digitsOf, List.length_singleton, hresult]
  omega

theorem decryptedResult_isSome_iff (hkey : key.length = 8) :
    (decryptedResult cipher key password result).isSome ↔
      decryptedBlocks password * 16 ≤ password.length + 1 ∧ decryptedBlocks password ≤ 8 := by
  by_cases hblocks : decryptedBlocks password * 16 ≤ password.length + 1
  · have hlength :=
      @length_plainOf cipher key password 0 (decryptedBlocks password) (by omega)
    rw [decryptedResult_eq hkey hblocks, and_iff_right hblocks]
    rcases Nat.eq_zero_or_pos (decryptedBlocks password) with hzero | hpos
    · simp [hzero, plainOf, stores]
    · have hne : plainOf cipher key password 0 (decryptedBlocks password) ≠ [] := by
        rw [ne_eq, ← List.length_eq_zero_iff]
        omega
      rw [stores_isSome_iff 0 hne, hlength, hresult]
      omega
  · have hnone : decryptedResult cipher key password result = none := by
      rw [decryptedResult, if_pos (cipher.setup_of_length key hkey)]
      exact decryptLoop_none (by omega) (by omega) result
    simp [hnone, hblocks]

/-- The text of `encrypted` is what its array holds up to the NUL. -/
theorem encrypted_eq (hkey : key.length = 8) (hpassword : 0 ∉ password) :
    encrypted cipher key password =
      (encryptedResult cipher key password result).map (·.takeWhile (· ≠ 0)) := by
  have hiff := @encryptedResult_isSome_iff cipher key password result hresult hkey hpassword
  rw [encrypted, if_pos (cipher.setup_of_length key hkey)]
  split_ifs with hblocks
  · have hroom : 0 + (digitsOf cipher key password 0 (encryptedBlocks password) ++ [0]).length ≤
        result.length := by
      rw [List.length_append, length_digitsOf, List.length_singleton, hresult]
      omega
    rw [encryptedResult_eq hkey hpassword, stores_eq hroom, Option.map_some, overwrite,
      List.take_zero, List.nil_append, List.append_assoc, List.singleton_append,
      takeWhile_ne_append (notMem_digitsOf 0 _), digitsOf, List.range_eq_range']
  · rw [Option.not_isSome_iff_eq_none.mp (hiff.not.mpr hblocks)]
    rfl

/-- The text of `decrypted` is what its array holds up to the first NUL. -/
theorem decrypted_eq (hkey : key.length = 8) : decrypted cipher key result password =
    (decryptedResult cipher key password result).bind fun result =>
      if 0 ∈ result then some (result.takeWhile (· ≠ 0)) else none := by
  have hiff := @decryptedResult_isSome_iff cipher key password result hresult hkey
  rw [decrypted, if_pos (cipher.setup_of_length key hkey)]
  split_ifs with hblocks
  · have hroom : 0 + (plainOf cipher key password 0 (decryptedBlocks password)).length ≤
        result.length := by
      rw [length_plainOf (by omega), hresult]
      omega
    rw [decryptedResult_eq hkey hblocks.1, stores_eq hroom, Option.bind_some, overwrite,
      List.take_zero, List.nil_append, Nat.zero_add, plainOf, List.range_eq_range']
  · rw [Option.not_isSome_iff_eq_none.mp (hiff.not.mpr hblocks)]
    rfl

end

end

/-! ### Texts from the settings file -/

theorem matchLine_value {key piece v : List UInt8} (h : matchLine key piece = .value v) :
    0 ∉ v ∧ v.length ≤ piece.length := by
  have hmem (s : List UInt8) : 0 ∉ s.takeWhile (· ≠ 0) := by
    intro h0
    simpa using List.mem_takeWhile_imp h0
  unfold matchLine at h
  simp only at h
  split_ifs at h
  rw [← Found.value.inj h]
  have hprefix := (List.takeWhile_prefix (· ≠ 0)).trans
    (List.takeWhile_prefix (l := (piece.drop key.length).drop 3) (p := (· ≠ 10)))
  refine ⟨hmem _, hprefix.length_le.trans ?_⟩
  simp only [List.length_drop]
  omega

theorem getValue_value {file key v : List UInt8} (h : getValue file key = .value v) :
    0 ∉ v ∧ v.length ≤ maxNgdcsLineLen := by
  have hfind (pieces : List (List UInt8)) (hpieces : ∀ p ∈ pieces, TextLines.Piece maxNgdcsLineLen p)
      (h : findLine key pieces = .value v) : 0 ∉ v ∧ v.length ≤ maxNgdcsLineLen := by
    induction pieces with
    | nil => cases h
    | cons p pieces ih =>
      unfold findLine at h
      cases hmatch : matchLine key p with
      | missing =>
        rw [hmatch] at h
        exact ih (fun q hq => hpieces q (List.mem_cons_of_mem p hq)) h
      | value w =>
        rw [hmatch] at h
        obtain ⟨hnul, hlength⟩ := matchLine_value hmatch
        obtain rfl := Found.value.inj h
        exact ⟨hnul, hlength.trans (hpieces p List.mem_cons_self).length_le⟩
      | overrun =>
        rw [hmatch] at h
        cases h
  exact hfind _ (fun p hp => TextLines.fgetsAll_piece hp) h

section

variable (cipher : Blowfish) (mac : Option (List UInt8))

/-- `encrypted` stays in its arrays for the password of `setECSPassword`, and `decrypted` for the
text in a settings file. -/
def StaysInArrays (file password result : List UInt8) : Prop :=
  (encryptedResult cipher (macKey mac) password result).isSome ∧
    ∀ v, getValue file (bytes "ecspassword") = .value v →
      (decryptedResult cipher (macKey mac) v result).isSome

/-- The password makes at most three blocks, as it does with up to 24 characters, and the text
in the file is one of at most 128 digits that ends a block of 16, perhaps with its NUL as the
last of them. -/
theorem staysInArrays_iff {file password result : List UInt8} (hpassword : 0 ∉ password)
    (hresult : result.length = 64) : StaysInArrays cipher mac file password result ↔
      longToInt (password.length + 7) < 32 ∧
      ∀ v, getValue file (bytes "ecspassword") = .value v →
        (v.length % 16 = 0 ∨ v.length % 16 = 15) ∧ v.length ≤ 128 := by
  have hkey := length_macKey mac
  have hencrypted : encryptedBlocks password < 4 ↔ longToInt (password.length + 7) < 32 := by
    unfold encryptedBlocks
    omega
  unfold StaysInArrays
  rw [encryptedResult_isSome_iff hresult hkey hpassword, hencrypted]
  apply and_congr_right
  intro
  apply forall₂_congr
  intro v hv
  have hlength : v.length ≤ 256 := (getValue_value hv).2
  rw [decryptedResult_isSome_iff hresult hkey, decryptedBlocks_eq (by omega)]
  omega

end

/-- The text in the file of the example is one block of 16 digits. -/
def exampleBlockFile : List UInt8 := bytes "ecspassword = 3132333435363738" ++ [10]

theorem staysInArrays_example :
    StaysInArrays exampleCipher none exampleBlockFile (bytes "secret") (List.replicate 64 0) :=
  (staysInArrays_iff exampleCipher none (by decide) List.length_replicate).mpr
    ⟨by decide, by
      intro v hv
      have hvalue : getValue exampleBlockFile (bytes "ecspassword") =
          .value (bytes "3132333435363738") := by decide +kernel
      rw [hvalue] at hv
      cases hv
      decide⟩

/-- The text in the file of the example is a single digit. -/
def exampleDigitFile : List UInt8 := bytes "ecspassword = 0" ++ [10]

/-- A password of 25 characters, and a file with one digit. -/
theorem not_staysInArrays :
    ¬StaysInArrays exampleCipher none [] (List.replicate 25 120) (List.replicate 64 0) ∧
    ¬StaysInArrays exampleCipher none exampleDigitFile [] (List.replicate 64 0) := by
  constructor
  · rintro ⟨h, -⟩
    revert h
    decide +kernel
  · rintro ⟨-, h⟩
    have hvalue : getValue exampleDigitFile (bytes "ecspassword") = .value [48] := by
      decide +kernel
    have hread := h [48] hvalue
    revert hread
    decide +kernel

/-! ### Histories of calls -/

/-- The static results of the two functions. -/
structure CipherState where
  encrypted : List UInt8
  decrypted : List UInt8

def CipherState.initial : CipherState := ⟨List.replicate 64 0, List.replicate 64 0⟩

inductive CipherCall where
  | encrypt (key : List UInt8) (password : CString)
  | decrypt (key : List UInt8) (text : CString)

/-- A call that stays in its arrays. -/
def CipherState.step (cipher : Blowfish) (s : CipherState) : CipherCall → Option CipherState
  | .encrypt key password =>
    (encryptedResult cipher key password s.encrypted).map fun r => { s with encrypted := r }
  | .decrypt key text =>
    (decryptedResult cipher key text s.decrypted).map fun r => { s with decrypted := r }

/-- The string that begins at the start of the array. -/
def ReadsAs (array s : List UInt8) : Prop := s ++ [0] <+: array

structure CipherState.Sized (s : CipherState) : Prop where
  encrypted : s.encrypted.length = 64
  decrypted : s.decrypted.length = 64

section

variable {cipher : Blowfish} {key : List UInt8}

theorem length_storeHex {ct result r : List UInt8} {i : ℕ} (h : storeHex result i ct = some r) :
    r.length = result.length := by
  rw [storeHex_eq] at h
  exact length_stores h

theorem length_encryptLoop {password result r : List UInt8} {blocks j : ℕ}
    (h : encryptLoop cipher key password blocks j result = some r) :
    r.length = result.length := by
  induction blocks generalizing j result with
  | zero => exact length_store h
  | succ blocks ih =>
    obtain ⟨pt, -, h⟩ := Option.bind_eq_some_iff.mp h
    obtain ⟨next, hnext, h⟩ := Option.bind_eq_some_iff.mp h
    exact (ih h).trans (length_storeHex hnext)

theorem length_decryptLoop {password result r : List UInt8} {blocks j : ℕ}
    (h : decryptLoop cipher key password blocks j result = some r) :
    r.length = result.length := by
  induction blocks generalizing j result with
  | zero => exact congrArg List.length (Option.some.inj h).symm
  | succ blocks ih =>
    obtain ⟨ct, -, h⟩ := Option.bind_eq_some_iff.mp h
    obtain ⟨next, hnext, h⟩ := Option.bind_eq_some_iff.mp h
    exact (ih h).trans (length_stores hnext)

theorem CipherState.Sized.step {s t : CipherState} {call : CipherCall} (hs : s.Sized)
    (h : s.step cipher call = some t) : t.Sized := by
  cases call with
  | encrypt key password =>
    obtain ⟨r, hr, rfl⟩ := Option.map_eq_some_iff.mp h
    refine ⟨?_, hs.decrypted⟩
    unfold encryptedResult at hr
    split_ifs at hr
    · exact (length_encryptLoop hr).trans hs.encrypted
    · exact (length_store hr).trans hs.encrypted
  | decrypt key text =>
    obtain ⟨r, hr, rfl⟩ := Option.map_eq_some_iff.mp h
    refine ⟨hs.encrypted, ?_⟩
    unfold decryptedResult at hr
    split_ifs at hr
    · exact (length_decryptLoop hr).trans hs.decrypted
    · exact (length_store hr).trans hs.decrypted

theorem CipherState.sized_run {s : CipherState} {calls : List CipherCall}
    (h : Runs.run (CipherState.step cipher) CipherState.initial calls = some s) : s.Sized :=
  Runs.run_invariant (I := CipherState.Sized) (fun _ _ _ hs ht => hs.step ht)
    ⟨List.length_replicate, List.length_replicate⟩ h

/-- What a string in an array reads as is determined by the array. -/
theorem ReadsAs.unique {array s t : List UInt8} (hs : ReadsAs array s) (ht : ReadsAs array t)
    (hs0 : 0 ∉ s) (ht0 : 0 ∉ t) : s = t := by
  obtain ⟨u, rfl⟩ := hs
  obtain ⟨v, hv⟩ := ht
  have h := congrArg (List.takeWhile (· ≠ 0)) hv
  rw [List.append_assoc, List.append_assoc, List.singleton_append, List.singleton_append,
    takeWhile_ne_append hs0, takeWhile_ne_append ht0] at h
  exact h.symm

/-- `decrypted(encrypted(password))` reads as the password. -/
def RoundTrip (cipher : Blowfish) (key : List UInt8) (s : CipherState) (password : CString) :
    Prop :=
  ∃ t text u, s.step cipher (.encrypt key password) = some t ∧ ReadsAs t.encrypted text.1 ∧
    t.step cipher (.decrypt key text) = some u ∧ ReadsAs u.decrypted password

section

variable {s : CipherState} (hs : s.Sized) (hkey : key.length = 8) {password : CString}
  (hlength : password.1.length ≤ 24)

include hs hkey hlength

theorem step_encrypt : ∃ r, s.step cipher (.encrypt key password) = some { s with encrypted := r } ∧
    ReadsAs r (hexBlocks cipher key password).flatten := by
  have hblocks : encryptedBlocks password.1 = (password.1.length + 7) / 8 :=
    encryptedBlocks_eq (by omega)
  have hdigits : digitsOf cipher key password 0 (encryptedBlocks password.1) =
      (hexBlocks cipher key password.1).flatten := by
    rw [hblocks, digitsOf, ← List.range_eq_range', hexBlocks]
  have hroom : 0 + ((hexBlocks cipher key password.1).flatten ++ [0]).length ≤
      s.encrypted.length := by
    rw [List.length_append, length_hexBlocks_flatten, List.length_singleton, hs.encrypted]
    omega
  refine ⟨overwrite s.encrypted 0 ((hexBlocks cipher key password.1).flatten ++ [0]), ?_, ⟨_, rfl⟩⟩
  rw [CipherState.step, encryptedResult_eq hkey password.2, hdigits, stores_eq hroom]
  rfl

/-- The blocks of the password are stored, with the zeros that fill the last, and nothing behind
them. -/
theorem step_decrypt {text : CString} (htext : text.1 = (hexBlocks cipher key password).flatten) :
    s.step cipher (.decrypt key text) = some { s with
      decrypted := overwrite s.decrypted 0 (password.1 ++
        List.replicate ((password.1.length + 7) / 8 * 8 - password.1.length) 0) } := by
  have hhex := @length_hexBlocks_flatten cipher key password.1
  have hblocks : decryptedBlocks text.1 = (password.1.length + 7) / 8 := by
    rw [htext, decryptedBlocks_eq (hhex.trans_lt (by omega)), hhex]
    omega
  have hplain : plainOf cipher key text 0 (decryptedBlocks text.1) = password.1 ++
      List.replicate ((password.1.length + 7) / 8 * 8 - password.1.length) 0 := by
    rw [hblocks, plainOf, ← List.range_eq_range', htext, piece_append_nul hhex.symm,
      decrypt_hexBlocks]
  have hroom : 0 + (password.1 ++
      List.replicate ((password.1.length + 7) / 8 * 8 - password.1.length) 0).length ≤
      s.decrypted.length := by
    rw [List.length_append, List.length_replicate, hs.decrypted]
    omega
  have hread : decryptedBlocks text.1 * 16 ≤ text.1.length + 1 := by
    rw [hblocks, htext, hhex]
    omega
  rw [CipherState.step, decryptedResult_eq hkey hread, hplain, stores_eq hroom]
  rfl

omit hkey in
/-- Without a zero in the last block the string goes on to what was in the array. -/
theorem readsAs_overwrite : ReadsAs (overwrite s.decrypted 0 (password.1 ++
      List.replicate ((password.1.length + 7) / 8 * 8 - password.1.length) 0)) password ↔
    password.1.length % 8 ≠ 0 ∨ s.decrypted[password.1.length]? = some 0 := by
  unfold ReadsAs overwrite
  rw [List.take_zero, List.nil_append, List.append_assoc, List.prefix_append_right_inj]
  by_cases hfull : password.1.length % 8 = 0
  · have hzero : (password.1.length + 7) / 8 * 8 - password.1.length = 0 := by omega
    have hlt : password.1.length < s.decrypted.length := by
      rw [hs.decrypted]
      omega
    rw [hzero, List.replicate_zero, List.append_nil, List.nil_append, Nat.zero_add,
      List.drop_eq_getElem_cons hlt, List.getElem?_eq_getElem hlt, List.cons_prefix_cons]
    simp [hfull, eq_comm]
  · obtain ⟨n, hn⟩ := Nat.exists_eq_succ_of_ne_zero
      (show (password.1.length + 7) / 8 * 8 - password.1.length ≠ 0 by omega)
    rw [hn, List.replicate_succ]
    simp [hfull, List.cons_prefix_cons]

theorem roundTrip_iff_of_sized : RoundTrip cipher key s password ↔
    password.1.length % 8 ≠ 0 ∨ s.decrypted[password.1.length]? = some 0 := by
  obtain ⟨r, hencrypt, hreads⟩ := @step_encrypt cipher key s hs hkey password hlength
  have hnul : 0 ∉ (hexBlocks cipher key password.1).flatten := notMem_hexBlocks (by decide)
  have ht : ({ s with encrypted := r } : CipherState).Sized := hs.step hencrypt
  constructor
  · rintro ⟨t, text, u, hst, htext, htu, hu⟩
    rw [hencrypt] at hst
    obtain rfl := Option.some.inj hst
    have heq : text.1 = (hexBlocks cipher key password.1).flatten :=
      htext.unique hreads text.2 hnul
    rw [step_decrypt ht hkey hlength heq] at htu
    obtain rfl := Option.some.inj htu
    exact (readsAs_overwrite hs hlength).mp hu
  · intro h
    exact ⟨_, ⟨_, hnul⟩, _, hencrypt, hreads, step_decrypt ht hkey hlength rfl,
      (readsAs_overwrite hs hlength).mpr h⟩

end

/-- After any calls, a password is read back exactly when its last block is not full, or its end
is marked by a zero that is already in the array. -/
theorem roundTrip_iff {s : CipherState} {calls : List CipherCall}
    (hrun : Runs.run (CipherState.step cipher) CipherState.initial calls = some s)
    (hkey : key.length = 8) {password : CString} (hlength : password.1.length ≤ 24) :
    RoundTrip cipher key s password ↔
      password.1.length % 8 ≠ 0 ∨ s.decrypted[password.1.length]? = some 0 :=
  roundTrip_iff_of_sized (CipherState.sized_run hrun) hkey hlength

end

/-- A call that leaves 16 bytes in the array of `decrypted`. -/
def exampleCalls : List CipherCall :=
  [.decrypt (macKey none) ⟨List.replicate 32 52, by decide⟩]

/-- The password of the example takes a block of 8 bytes with two zeros. -/
theorem roundTrip_example : ∃ s,
    Runs.run (CipherState.step exampleCipher) CipherState.initial exampleCalls = some s ∧
    RoundTrip exampleCipher (macKey none) s ⟨bytes "secret", by decide⟩ := by
  have hrun : (Runs.run (CipherState.step exampleCipher) CipherState.initial
      exampleCalls).isSome = true := by decide +kernel
  obtain ⟨s, hs⟩ := Option.isSome_iff_exists.mp hrun
  exact ⟨s, hs, (@roundTrip_iff exampleCipher (macKey none) s exampleCalls hs (length_macKey none)
    ⟨bytes "secret", by decide⟩ (by decide)).mpr (Or.inl (by decide))⟩

/-- A password of 8 characters, after a longer result. -/
theorem not_roundTrip : ∃ s,
    Runs.run (CipherState.step exampleCipher) CipherState.initial exampleCalls = some s ∧
    ¬RoundTrip exampleCipher (macKey none) s ⟨bytes "password", by decide⟩ := by
  have hrun : (Runs.run (CipherState.step exampleCipher) CipherState.initial exampleCalls).map
      CipherState.decrypted = some (List.replicate 16 68 ++ List.replicate 48 0) := by
    decide +kernel
  obtain ⟨s, hs, hdecrypted⟩ := Option.map_eq_some_iff.mp hrun
  refine ⟨s, hs, fun h => ?_⟩
  have hzero := (roundTrip_iff_of_sized (CipherState.sized_run hs) (length_macKey none)
    (by decide)).mp h
  rw [hdecrypted] at hzero
  revert hzero
  decide

end Settings
