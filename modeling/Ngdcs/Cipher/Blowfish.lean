import Mathlib.Data.List.FinRange
import Ngdcs.Cipher.Tables
import Ngdcs.Lib.Feistel

/-! The Blowfish block cipher of `libtomcrypt`: the key schedule, and what encryption and
decryption undo. -/
namespace Cipher

open Feistel Function

/-- `struct blowfish_key` -/
structure BlowfishKey where
  S : Vector (Vector UInt32 256) 4
  K : Vector UInt32 18

abbrev Block := Vector UInt8 8

/-- The word of four bytes, the highest first. -/
def word (a b c d : UInt8) : UInt32 :=
  a.toUInt32 <<< 24 ||| b.toUInt32 <<< 16 ||| c.toUInt32 <<< 8 ||| d.toUInt32

/-- `LOAD32H` of the four bytes from `i` on. -/
def load32H (y : Block) (i : Fin 8) : UInt32 :=
  word (y.get i) (y.get (i + 1)) (y.get (i + 2)) (y.get (i + 3))

/-- `STORE32H` of a word into the first four bytes and of another into the last four. -/
def store32H (x z : UInt32) : Block :=
  #v[(x >>> 24).toUInt8, (x >>> 16).toUInt8, (x >>> 8).toUInt8, x.toUInt8,
    (z >>> 24).toUInt8, (z >>> 16).toUInt8, (z >>> 8).toUInt8, z.toUInt8]

/-- `byte(x, n)` as an index. -/
def byte (x n : UInt32) : Fin 256 := (x >>> (8 * n)).toUInt8.toFin

/-- `S[n][i]` -/
def BlowfishKey.sbox (skey : BlowfishKey) (n : ℕ) (i : Fin 256) : UInt32 :=
  ((skey.S[n]?).getD (Vector.replicate 256 0)).get i

/-- `F` -/
def BlowfishKey.F (skey : BlowfishKey) (x : UInt32) : UInt32 :=
  ((skey.sbox 0 (byte x 3) + skey.sbox 1 (byte x 2)) ^^^ skey.sbox 2 (byte x 1)) +
    skey.sbox 3 (byte x 0)

section

variable (skey : BlowfishKey)

/-- A turn of the loop of `blowfish_ecb_encrypt`, which is four rounds. -/
def encryptTurn (r : Fin 18) (b : UInt32 × UInt32) : UInt32 × UInt32 :=
  let L := b.1 ^^^ skey.K.get r
  let R := b.2 ^^^ skey.F L
  let R := R ^^^ skey.K.get (r + 1)
  let L := L ^^^ skey.F R
  let L := L ^^^ skey.K.get (r + 2)
  let R := R ^^^ skey.F L
  let R := R ^^^ skey.K.get (r + 3)
  let L := L ^^^ skey.F R
  (L, R)

/-- A turn of the loop of `blowfish_ecb_decrypt`. -/
def decryptTurn (r : Fin 18) (b : UInt32 × UInt32) : UInt32 × UInt32 :=
  let L := b.1 ^^^ skey.F b.2
  let R := b.2 ^^^ skey.K.get r
  let R := R ^^^ skey.F L
  let L := L ^^^ skey.K.get (r - 1)
  let L := L ^^^ skey.F R
  let R := R ^^^ skey.K.get (r - 2)
  let R := R ^^^ skey.F L
  let L := L ^^^ skey.K.get (r - 3)
  (L, R)

def blowfishEcbEncrypt (pt : Block) : Block :=
  let b := turns (encryptTurn skey) [0, 4, 8, 12] (load32H pt 0, load32H pt 4)
  let R := b.2 ^^^ skey.K.get 17
  let L := b.1 ^^^ skey.K.get 16
  store32H R L

def blowfishEcbDecrypt (ct : Block) : Block :=
  let R := load32H ct 0 ^^^ skey.K.get 17
  let L := load32H ct 4 ^^^ skey.K.get 16
  let b := turns (decryptTurn skey) [15, 11, 7, 3] (L, R)
  store32H b.1 b.2

end

/-! ### Key schedule -/

section

variable {keylen : ℕ} (key : Vector UInt8 keylen)

/-- The next four bytes of the key, which is read around and around. -/
def keyWord (y : Fin keylen) : UInt32 × Fin keylen :=
  (List.range 4).foldl
    (fun s _ => (s.1 <<< 8 ||| (key.get s.2).toUInt32,
      if h : s.2 + 1 < keylen then ⟨s.2 + 1, h⟩ else ⟨0, s.2.pos⟩)) (0, y)

/-- `x[i] = a` -/
def put {α : Type} {n : ℕ} (x : Vector α n) (i : Fin n) (a : α) : Vector α n := x.set i a i.isLt

/-- The initial arrays, with the bytes of the key in `K`. -/
def loadKey (y : Fin keylen) : BlowfishKey where
  S := origS
  K := ((List.finRange 18).foldl
    (fun s x => (put s.1 x (origP.get x ^^^ (keyWord key s.2).1), (keyWord key s.2).2))
    (Vector.replicate 18 0, y)).1

/-- The even indices, at which two words are stored. -/
def evens (n : ℕ) : List (Fin n) := (List.finRange n).filter (·.val % 2 = 0)

def encryptK (s : Block × BlowfishKey) : Block × BlowfishKey :=
  (evens 18).foldl
    (fun s x =>
      let B := blowfishEcbEncrypt s.2 s.1
      let K := put s.2.K x (load32H B 0)
      (B, { s.2 with K := put K (x + 1) (load32H B 4) })) s

def encryptS (s : Block × BlowfishKey) : Block × BlowfishKey :=
  (List.finRange 4).foldl
    (fun s x => (evens 256).foldl
      (fun s y =>
        let B := blowfishEcbEncrypt s.2 s.1
        let row := put (s.2.S.get x) y (load32H B 0)
        (B, { s.2 with S := put s.2.S x (put row (y + 1) (load32H B 4)) })) s) s

/-- `blowfish_setup`; `none` stands for its errors. -/
def blowfishSetup (numRounds : ℤ) : Option BlowfishKey :=
  if h : 8 ≤ keylen ∧ keylen ≤ 56 then
    if numRounds = 0 ∨ numRounds = 16 then
      some (encryptS (encryptK (Vector.replicate 8 0, loadKey key ⟨0, by omega⟩))).2
    else none
  else none

end

/-! ### Words and bytes -/

theorem toBitVec_word (a b c d : UInt8) :
    (word a b c d).toBitVec = a.toBitVec ++ b.toBitVec ++ c.toBitVec ++ d.toBitVec := by
  apply BitVec.eq_of_getLsbD_eq
  intro i hi
  simp [word]
  grind

theorem bytes_append (x : BitVec 32) :
    (x >>> 24).setWidth 8 ++ (x >>> 16).setWidth 8 ++ (x >>> 8).setWidth 8 ++ x.setWidth 8 = x := by
  apply BitVec.eq_of_getLsbD_eq
  intro i hi
  simp
  grind

theorem toBitVec_shifted (x n : UInt32) : (x >>> n).toUInt8.toBitVec =
    (x.toBitVec >>> (n.toBitVec % 32)).setWidth 8 := rfl

theorem word_bytes (x : UInt32) :
    word (x >>> 24).toUInt8 (x >>> 16).toUInt8 (x >>> 8).toUInt8 x.toUInt8 = x := by
  apply UInt32.toBitVec_inj.mp
  rw [toBitVec_word, toBitVec_shifted, toBitVec_shifted, toBitVec_shifted]
  exact bytes_append x.toBitVec

theorem bytes_word (a b c d : UInt8) :
    (word a b c d >>> 24).toUInt8 = a ∧ (word a b c d >>> 16).toUInt8 = b ∧
      (word a b c d >>> 8).toUInt8 = c ∧ (word a b c d).toUInt8 = d := by
  refine ⟨?_, ?_, ?_, ?_⟩
  all_goals
    apply UInt8.toBitVec_inj.mp
    apply BitVec.eq_of_getLsbD_eq
    intro i hi
    simp [word]
    try grind

theorem load32H_store32H (x z : UInt32) :
    load32H (store32H x z) 0 = x ∧ load32H (store32H x z) 4 = z :=
  ⟨word_bytes x, word_bytes z⟩

theorem store32H_load32H (b : Block) : store32H (load32H b 0) (load32H b 4) = b := by
  obtain ⟨h0, h1, h2, h3⟩ := bytes_word (b.get 0) (b.get 1) (b.get 2) (b.get 3)
  obtain ⟨h4, h5, h6, h7⟩ := bytes_word (b.get 4) (b.get 5) (b.get 6) (b.get 7)
  apply Vector.ext
  intro i hi
  match i, hi with
  | 0, _ => exact h0
  | 1, _ => exact h1
  | 2, _ => exact h2
  | 3, _ => exact h3
  | 4, _ => exact h4
  | 5, _ => exact h5
  | 6, _ => exact h6
  | 7, _ => exact h7

/-! ### Rounds -/

section

variable (skey : BlowfishKey)

theorem xor_xor_self (a b : UInt32) : (a ^^^ b) ^^^ b = a := by
  rw [UInt32.xor_assoc, UInt32.xor_self, UInt32.xor_zero]

theorem encryptTurn_eq (r : Fin 18) (b : UInt32 × UInt32) : encryptTurn skey r b =
    mixSwapped (· ^^^ ·) skey.F (skey.K.get (r + 3)) (mix (· ^^^ ·) skey.F (skey.K.get (r + 2))
      (mixSwapped (· ^^^ ·) skey.F (skey.K.get (r + 1))
        (mix (· ^^^ ·) skey.F (skey.K.get r) b))) := rfl

theorem decryptTurn_eq (r : Fin 18) (b : UInt32 × UInt32) : decryptTurn skey (r + 3) b =
    unmix (· ^^^ ·) skey.F (skey.K.get r) (unmixSwapped (· ^^^ ·) skey.F (skey.K.get (r + 1))
      (unmix (· ^^^ ·) skey.F (skey.K.get (r + 2))
        (unmixSwapped (· ^^^ ·) skey.F (skey.K.get (r + 3)) b))) := by
  have h1 : r + 3 - 1 = r + 2 := by omega
  have h2 : r + 3 - 2 = r + 1 := by omega
  have h3 : r + 3 - 3 = r := by omega
  unfold decryptTurn
  rw [h1, h2, h3]
  rfl

theorem decryptTurn_encryptTurn (r : Fin 18) :
    LeftInverse (decryptTurn skey (r + 3)) (encryptTurn skey r) := by
  intro b
  rw [decryptTurn_eq, encryptTurn_eq, unmixSwapped_mixSwapped _ xor_xor_self,
    unmix_mix _ xor_xor_self, unmixSwapped_mixSwapped _ xor_xor_self, unmix_mix _ xor_xor_self]

theorem encryptTurn_decryptTurn (r : Fin 18) :
    LeftInverse (encryptTurn skey r) (decryptTurn skey (r + 3)) := by
  intro b
  rw [decryptTurn_eq, encryptTurn_eq, mix_unmix _ xor_xor_self,
    mixSwapped_unmixSwapped _ xor_xor_self, mix_unmix _ xor_xor_self,
    mixSwapped_unmixSwapped _ xor_xor_self]

theorem decryptTurns_encryptTurns (b : UInt32 × UInt32) :
    turns (decryptTurn skey) [15, 11, 7, 3] (turns (encryptTurn skey) [0, 4, 8, 12] b) = b :=
  leftInverse_turns (decryptTurn_encryptTurn skey) [0, 4, 8, 12] b

theorem encryptTurns_decryptTurns (b : UInt32 × UInt32) :
    turns (encryptTurn skey) [0, 4, 8, 12] (turns (decryptTurn skey) [15, 11, 7, 3] b) = b :=
  leftInverse_turns (encryptTurn_decryptTurn skey) [12, 8, 4, 0] b

theorem blowfishEcbDecrypt_encrypt :
    LeftInverse (blowfishEcbDecrypt skey) (blowfishEcbEncrypt skey) := by
  intro pt
  have hload := load32H_store32H
  simp only [blowfishEcbDecrypt, blowfishEcbEncrypt, (hload _ _).1, (hload _ _).2, xor_xor_self]
  rw [decryptTurns_encryptTurns]
  exact store32H_load32H pt

theorem blowfishEcbEncrypt_decrypt :
    LeftInverse (blowfishEcbEncrypt skey) (blowfishEcbDecrypt skey) := by
  intro ct
  have hload := load32H_store32H
  simp only [blowfishEcbDecrypt, blowfishEcbEncrypt, (hload _ _).1, (hload _ _).2, Prod.mk.eta]
  rw [encryptTurns_decryptTurns, xor_xor_self, xor_xor_self]
  exact store32H_load32H ct

end

section

variable {keylen : ℕ} (key : Vector UInt8 keylen) (numRounds : ℤ)

theorem blowfishSetup_isSome_iff : (blowfishSetup key numRounds).isSome ↔
    (8 ≤ keylen ∧ keylen ≤ 56) ∧ (numRounds = 0 ∨ numRounds = 16) := by
  unfold blowfishSetup
  split_ifs with hlength hrounds
  · exact iff_of_true rfl ⟨hlength, hrounds⟩
  · exact iff_of_false (by decide) fun h => hrounds h.2
  · exact iff_of_false (by decide) fun h => hlength h.1

/-- The setup succeeds for the lengths and rounds that it allows, and under the schedule of a
key, decryption and encryption undo each other on every block. -/
theorem blowfish_correct :
    ((blowfishSetup key numRounds).isSome ↔
      (8 ≤ keylen ∧ keylen ≤ 56) ∧ (numRounds = 0 ∨ numRounds = 16)) ∧
    ∀ skey ∈ blowfishSetup key numRounds, ∀ block,
      blowfishEcbDecrypt skey (blowfishEcbEncrypt skey block) = block ∧
      blowfishEcbEncrypt skey (blowfishEcbDecrypt skey block) = block :=
  ⟨blowfishSetup_isSome_iff key numRounds, fun skey _ block =>
    ⟨blowfishEcbDecrypt_encrypt skey block, blowfishEcbEncrypt_decrypt skey block⟩⟩

end

/-- The key of eight zeros, which is that of a machine without a MAC address. -/
theorem blowfish_correct_zeros : ∃ skey, blowfishSetup (Vector.replicate 8 0) 0 = some skey ∧
    ∀ block, blowfishEcbDecrypt skey (blowfishEcbEncrypt skey block) = block := by
  obtain ⟨hsetup, hblocks⟩ := blowfish_correct (Vector.replicate 8 0) 0
  obtain ⟨skey, hskey⟩ := Option.isSome_iff_exists.mp (hsetup.mpr (by decide))
  exact ⟨skey, hskey, fun block => (hblocks skey hskey block).1⟩

end Cipher
