import Ngdcs.Lib.Pieces
import Ngdcs.Settings.File

/-! The password for the ECS server in the saved settings. It is encrypted in blocks of 8 bytes
with the MAC address as the key, and written in hexadecimal. -/
namespace Settings

open CStrings Pieces

/-- `blowfish_setup`, `blowfish_ecb_encrypt` and `blowfish_ecb_decrypt` of `libtomcrypt`. -/
structure Blowfish where
  setup : List UInt8 → Bool
  ecbEncrypt : List UInt8 → List UInt8 → List UInt8
  ecbDecrypt : List UInt8 → List UInt8 → List UInt8
  setup_of_length : ∀ key, key.length = 8 → setup key = true
  length_ecbEncrypt : ∀ key pt, pt.length = 8 → (ecbEncrypt key pt).length = 8
  length_ecbDecrypt : ∀ key ct, ct.length = 8 → (ecbDecrypt key ct).length = 8
  ecbDecrypt_ecbEncrypt : ∀ key pt, pt.length = 8 → ecbDecrypt key (ecbEncrypt key pt) = pt

/-- The key with the six bytes of `getMacAddr`, or without them if it fails. -/
def macKey (mac : Option (List UInt8)) : List UInt8 := strncpy 8 ((mac.getD []).take 6)

def hexDigit (digit : UInt8) : UInt8 := if digit < 10 then 48 + digit else 97 + digit - 10

def toHex (ct : List UInt8) : List UInt8 :=
  ct.flatMap fun b : UInt8 => [hexDigit (b >>> 4), hexDigit (b &&& 15)]

/-- The value of a digit, where `c` is a `char` and so may be negative. -/
def fromHexDigit (c : UInt8) : UInt8 := if c ≤ 57 || 128 ≤ c then c - 48 else c - 97 + 10

def fromHex : List UInt8 → List UInt8
  | c :: d :: s => ((fromHexDigit c <<< 4) + fromHexDigit d) :: fromHex s
  | _ => []

/-- The blocks of 8 bytes that `encrypted` makes: `(int)(strlen(password)+7)/8`. -/
def encryptedBlocks (password : List UInt8) : ℕ := (longToInt (password.length + 7) / 8).toNat

/-- The blocks of 16 digits that `decrypted` reads, with `j < (int)strlen(password)` in steps of
16. -/
def decryptedBlocks (password : List UInt8) : ℕ :=
  ((longToInt password.length + 15) / 16).toNat

/-- `SettingsBlock::encrypted`; `none` where it writes beyond its result of 64 bytes. -/
def encrypted (cipher : Blowfish) (key password : List UInt8) : Option (List UInt8) :=
  if cipher.setup key then
    if encryptedBlocks password < 4 then
      some (((List.range (encryptedBlocks password)).map fun j =>
        toHex (cipher.ecbEncrypt key (strncpy 8 (password.drop (j * 8))))).flatten)
    else none
  else some []

/-- `SettingsBlock::decrypted`; `result` is the static array of 64 bytes, and the result is
`none` where digits are looked for beyond the NUL at the end of `password`, or where the array
is left. The NUL may be read as a digit. -/
def decrypted (cipher : Blowfish) (key result password : List UInt8) : Option (List UInt8) :=
  if cipher.setup key then
    if decryptedBlocks password * 16 ≤ password.length + 1 ∧ decryptedBlocks password ≤ 8 then
      let pt := ((List.range (decryptedBlocks password)).map fun j =>
        cipher.ecbDecrypt key (fromHex (piece 16 j (password ++ [0])))).flatten
      let result := pt ++ result.drop pt.length
      if 0 ∈ result then some (result.takeWhile (· ≠ 0)) else none
    else none
  else some []

theorem encryptedBlocks_eq {password : List UInt8} (h : password.length < 2 ^ 31 - 7) :
    encryptedBlocks password = (password.length + 7) / 8 := by
  have hint : longToInt (password.length + 7) = password.length + 7 :=
    longToInt_of_abs (abs_lt.mpr (by omega))
  rw [encryptedBlocks, hint]
  omega

theorem decryptedBlocks_eq {password : List UInt8} (h : password.length < 2 ^ 31) :
    decryptedBlocks password = (password.length + 15) / 16 := by
  have hint : longToInt password.length = password.length :=
    longToInt_of_abs (abs_lt.mpr (by omega))
  rw [decryptedBlocks, hint]
  omega

/-! ### Hexadecimal -/

theorem length_toHex (ct : List UInt8) : (toHex ct).length = 2 * ct.length := by
  induction ct with
  | nil => rfl
  | cons b ct ih =>
    rw [toHex, List.flatMap_cons, List.length_append, ← toHex, ih, List.length_cons]
    exact (Nat.mul_add_one 2 _).symm ▸ Nat.add_comm _ _

theorem forall_uint8 {p : UInt8 → Prop} (h : ∀ n : Fin 256, p (.ofFin n)) (b : UInt8) : p b :=
  h b.toFin

theorem fromHexDigits (b : UInt8) :
    (fromHexDigit (hexDigit (b >>> 4)) <<< 4) + fromHexDigit (hexDigit (b &&& 15)) = b := by
  revert b
  apply forall_uint8
  decide +kernel

theorem fromHex_toHex (ct : List UInt8) : fromHex (toHex ct) = ct := by
  induction ct with
  | nil => rfl
  | cons b ct ih => exact congrArg₂ List.cons (fromHexDigits b) ih

theorem hexDigit_ge (b : UInt8) :
    (48 : UInt8) ≤ hexDigit (b >>> 4) ∧ (48 : UInt8) ≤ hexDigit (b &&& 15) := by
  revert b
  apply forall_uint8
  decide +kernel

theorem notMem_toHex {c : UInt8} (hc : c < 48) (ct : List UInt8) : c ∉ toHex ct := by
  intro hmem
  obtain ⟨b, -, hb⟩ := List.mem_flatMap.mp hmem
  obtain ⟨hhigh, hlow⟩ := hexDigit_ge b
  rcases List.mem_pair.mp hb with rfl | rfl
  · exact absurd hc (UInt8.not_lt.mpr hhigh)
  · exact absurd hc (UInt8.not_lt.mpr hlow)

/-! ### Round trip -/

section

variable (cipher : Blowfish) (key password : List UInt8)

/-- The digits of each block of 8 bytes. -/
def hexBlocks : List (List UInt8) :=
  (List.range ((password.length + 7) / 8)).map fun j =>
    toHex (cipher.ecbEncrypt key (strncpy 8 (password.drop (j * 8))))

variable {cipher key password}

theorem length_mem_hexBlocks : ∀ p ∈ hexBlocks cipher key password, p.length = 16 := by
  intro p hp
  obtain ⟨j, -, rfl⟩ := List.mem_map.mp hp
  rw [length_toHex, cipher.length_ecbEncrypt key _ (length_strncpy 8 _)]

theorem length_hexBlocks :
    (hexBlocks cipher key password).length = (password.length + 7) / 8 := by
  rw [hexBlocks, List.length_map, List.length_range]

theorem length_hexBlocks_flatten :
    (hexBlocks cipher key password).flatten.length = (password.length + 7) / 8 * 16 := by
  rw [length_flatten_pieces length_mem_hexBlocks, length_hexBlocks]

theorem notMem_hexBlocks {c : UInt8} (hc : c < 48) :
    c ∉ (hexBlocks cipher key password).flatten := by
  intro hmem
  obtain ⟨p, hp, hcp⟩ := List.mem_flatten.mp hmem
  obtain ⟨j, -, rfl⟩ := List.mem_map.mp hp
  exact notMem_toHex hc _ hcp

/-- The blocks are decrypted one by one to the password and the zeros that fill the last. -/
theorem decrypt_hexBlocks :
    ((List.range ((password.length + 7) / 8)).map fun j =>
      cipher.ecbDecrypt key (fromHex (piece 16 j (hexBlocks cipher key password).flatten))).flatten =
    password ++ List.replicate ((password.length + 7) / 8 * 8 - password.length) 0 := by
  have hread := congrArg (List.map fun p => cipher.ecbDecrypt key (fromHex p))
    (map_piece_flatten (@length_mem_hexBlocks cipher key password))
  rw [length_hexBlocks, List.map_map] at hread
  refine (congrArg List.flatten (hread.trans ?_)).trans (flatten_strncpy (by omega))
  rw [hexBlocks, List.map_map]
  refine List.map_congr_left fun j _ => ?_
  rw [Function.comp_apply, fromHex_toHex, cipher.ecbDecrypt_ecbEncrypt key _ (length_strncpy 8 _)]

/-- The final NUL is not part of any whole piece. -/
theorem piece_append_nul {digits : List UInt8} {n : ℕ} (hn : n * 16 = digits.length) :
    (List.range n).map (fun j => cipher.ecbDecrypt key (fromHex (piece 16 j (digits ++ [0])))) =
      (List.range n).map fun j => cipher.ecbDecrypt key (fromHex (piece 16 j digits)) := by
  apply List.map_congr_left
  intro j hj
  have hj := List.mem_range.mp hj
  rw [piece, piece, List.drop_append_of_le_length (by omega), List.take_append_of_le_length]
  rw [List.length_drop]
  omega

/-- The zeros that fill the last block and those of the array. -/
theorem fill_append_zeros (hlength : password.length ≤ 24) :
    List.replicate ((password.length + 7) / 8 * 8 - password.length) (0 : UInt8) ++
      (List.replicate 64 0).drop (password ++
        List.replicate ((password.length + 7) / 8 * 8 - password.length) 0).length =
      0 :: List.replicate (63 - password.length) 0 := by
  rw [List.drop_replicate, List.replicate_append_replicate, ← List.replicate_succ]
  congr 1
  simp
  omega

variable (cipher) in
/-- A password that was encrypted is decrypted by a process that has not decrypted one before. -/
theorem decrypted_encrypted (hkey : key.length = 8) (hlength : password.length ≤ 24)
    (hnul : 0 ∉ password) :
    ∃ hex, encrypted cipher key password = some hex ∧ 10 ∉ hex ∧ 0 ∉ hex ∧ hex.length ≤ 48 ∧
      decrypted cipher key (List.replicate 64 0) hex = some password := by
  have hsetup := cipher.setup_of_length key hkey
  have hhex := @length_hexBlocks_flatten cipher key password
  have hblocks : encryptedBlocks password = (password.length + 7) / 8 :=
    encryptedBlocks_eq (by omega)
  refine ⟨(hexBlocks cipher key password).flatten, ?_, notMem_hexBlocks (by decide),
    notMem_hexBlocks (by decide), by omega, ?_⟩
  · rw [encrypted, if_pos hsetup, hblocks, if_pos (by omega), hexBlocks]
  · have hread : decryptedBlocks (hexBlocks cipher key password).flatten =
        (password.length + 7) / 8 := by
      rw [decryptedBlocks_eq (hhex.trans_lt (by omega)), hhex]
      omega
    rw [decrypted, if_pos hsetup, hread, if_pos (by omega), piece_append_nul hhex.symm,
      decrypt_hexBlocks]
    simp only [List.append_assoc, fill_append_zeros hlength]
    rw [if_pos (by simp), takeWhile_ne_append hnul]

end

end Settings
