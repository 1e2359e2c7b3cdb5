import Ngdcs.Cipher.Blowfish
import Ngdcs.Settings.Password

/-! The password under the cipher that the program is linked with. -/
namespace Settings

open Cipher Function

/-- `blowfish_setup(key, 8, 0, &skey)` for the bytes of a list. -/
def scheduleOf (key : List UInt8) : Option BlowfishKey := blowfishSetup key.toArray.toVector 0

/-- A function on blocks for lists of 8 bytes. -/
def onBlock (f : Block → Block) (bytes : List UInt8) : List UInt8 :=
  if h : bytes.toArray.size = 8 then (f ⟨bytes.toArray, h⟩).toList else bytes

theorem length_onBlock (f : Block → Block) {bytes : List UInt8} (h : bytes.length = 8) :
    (onBlock f bytes).length = 8 := by
  have hf : onBlock f bytes = (f ⟨bytes.toArray, h⟩).toList := dif_pos h
  rw [hf, Vector.length_toList]

theorem onBlock_onBlock {f g : Block → Block} (h : LeftInverse g f) {bytes : List UInt8}
    (hlength : bytes.length = 8) : onBlock g (onBlock f bytes) = bytes := by
  have hf : onBlock f bytes = (f ⟨bytes.toArray, hlength⟩).toList := dif_pos hlength
  have hvector : ∀ block : Block, onBlock g block.toList = (g block).toList := fun block =>
    dif_pos block.size_toArray
  rw [hf, hvector, h]
  rfl

/-- The functions of `libtomcrypt` with the schedule of a key. Nothing is encrypted or decrypted
where the setup fails. -/
def libtomcrypt : Blowfish where
  setup key := (scheduleOf key).isSome
  ecbEncrypt key pt := (scheduleOf key).elim pt fun skey => onBlock (blowfishEcbEncrypt skey) pt
  ecbDecrypt key ct := (scheduleOf key).elim ct fun skey => onBlock (blowfishEcbDecrypt skey) ct
  setup_of_length key h := by
    have hsize : key.toArray.size = 8 := h
    apply (blowfishSetup_isSome_iff _ 0).mpr
    omega
  length_ecbEncrypt key pt h := by
    cases scheduleOf key with
    | none => exact h
    | some skey => exact length_onBlock _ h
  length_ecbDecrypt key ct h := by
    cases scheduleOf key with
    | none => exact h
    | some skey => exact length_onBlock _ h
  ecbDecrypt_ecbEncrypt key pt h := by
    cases scheduleOf key with
    | none => rfl
    | some skey => exact onBlock_onBlock (blowfishEcbDecrypt_encrypt skey) h

/-- A password that is saved can be read by the next process on the same machine, whatever its
MAC address is. -/
theorem password_restored (mac : Option (List UInt8)) {password : List UInt8}
    (hlength : password.length ≤ 24) (hnul : 0 ∉ password) :
    ∃ hex, encrypted libtomcrypt (macKey mac) password = some hex ∧
      10 ∉ hex ∧ 0 ∉ hex ∧ hex.length ≤ 48 ∧
      decrypted libtomcrypt (macKey mac) (List.replicate 64 0) hex = some password :=
  decrypted_encrypted libtomcrypt (CStrings.length_strncpy 8 _) hlength hnul

theorem password_restored_default :
    ∃ hex, encrypted libtomcrypt (macKey none) (CStrings.bytes "secret") = some hex ∧
      10 ∉ hex ∧ 0 ∉ hex ∧ hex.length ≤ 48 ∧
      decrypted libtomcrypt (macKey none) (List.replicate 64 0) hex =
        some (CStrings.bytes "secret") :=
  password_restored none (by decide) (by decide)

end Settings
