import BoarPack.Library.Base64
import BoarPack.Library.Unicode

/-! `ScryptConfigService` and `ScryptService`: what is encrypted, over UTF-8, AES-256-CTR and base64, and decrypted
again. -/
namespace BoarPack.Scrypt

/-- What is used of Node: the derivation of keys, the keystream of AES-256-CTR by its key and initialization vector, and
the text that is made of bytes that are no UTF-8. -/
structure Platform where
  scrypt : String → String → (length : Nat) → Vector UInt8 length
  keystream : Vector UInt8 32 → List UInt8 → Nat → UInt8
  malformed : List UInt8 → String

def bufferFrom (str : String) : List UInt8 := str.toUTF8.data.toList

def Platform.toString (platform : Platform) (buffer : List UInt8) : String :=
  (String.fromUTF8? ⟨buffer.toArray⟩).getD (platform.malformed buffer)

/-- `Joi.string().length(16).hex()`. -/
def ivSchema (iv : String) : Bool :=
  iv.length = 16 && iv.toList.all (fun c => c.isDigit || ('a' ≤ c && c ≤ 'f') || ('A' ≤ c && c ≤ 'F'))

structure TScryptConfig where
  salt : String
  iv : String
  set : salt ≠ "" ∧ iv ≠ ""
  valid : ivSchema iv = true

def config (salt iv : Option String) : Except String TScryptConfig :=
  let salt := salt.getD ""
  let iv := iv.getD ""
  if set : salt ≠ "" ∧ iv ≠ "" then
    if valid : ivSchema iv = true then .ok ⟨salt,iv,set,valid⟩
    else .error "IV is invalid, check SCRYPT_IV env variable"
  else .error "SCRYPT_SALT or SCRYPT_IV env variables are not set"

structure Cipher where
  keystream : Nat → UInt8
  position : Nat := 0

/-- `createCipheriv('aes-256-ctr', key, iv)`, which takes an initialization vector of one block. -/
def createCipheriv (platform : Platform) (key : Vector UInt8 32) (iv : String) : Except String Cipher :=
  if (bufferFrom iv).length = 16 then .ok { keystream := platform.keystream key (bufferFrom iv) }
  else .error "Invalid initialization vector"

def Cipher.update (cipher : Cipher) (data : List UInt8) : List UInt8 × Cipher :=
  (data.mapIdx (fun i byte => byte ^^^ cipher.keystream (cipher.position + i)),
    { cipher with position := cipher.position + data.length })

def Cipher.final (_ : Cipher) : List UInt8 := []

section

variable (platform : Platform) (config : TScryptConfig)

def encrypt (str : String) : Except String String := do
  let key := platform.scrypt config.salt "salt" 32
  let cipher ← createCipheriv platform key config.iv
  let (updated,cipher) := cipher.update (bufferFrom str)
  let encrypted := updated ++ cipher.final
  return String.ofList (Base64.encode encrypted)

def decrypt (str : String) : Except String String := do
  let key := platform.scrypt config.salt "salt" 32
  let decipher ← createCipheriv platform key config.iv
  let (updated,decipher) := decipher.update (Base64.decode str.toList)
  let decrypted := updated ++ decipher.final
  return platform.toString decrypted

end

private theorem update_update (cipher : Cipher) (data : List UInt8) :
    (cipher.update (cipher.update data).1).1 = data := by
  apply List.ext_getElem
  · simp [Cipher.update]
  · intro i inside bound
    simp only [Cipher.update,List.getElem_mapIdx]
    rw [UInt8.xor_assoc,UInt8.xor_self,UInt8.xor_zero]

private theorem toString_bufferFrom (platform : Platform) (str : String) :
    platform.toString (bufferFrom str) = str := by
  have whole : (⟨(bufferFrom str).toArray⟩ : ByteArray) = str.toByteArray := by
    simp [bufferFrom]
  rw [Platform.toString,whole,String.fromUTF8?,dif_pos str.isValidUTF8]
  rfl

private theorem hex_ascii {c : Char} (hex : (c.isDigit || ('a' ≤ c && c ≤ 'f') || ('A' ≤ c && c ≤ 'F')) = true) :
    c.val ≤ 127 := by
  simp only [Char.isDigit,Char.le_def,Bool.or_eq_true,Bool.and_eq_true,decide_eq_true_eq] at hex
  rcases hex with (⟨_,most⟩ | ⟨_,most⟩) | ⟨_,most⟩
  · exact UInt32.le_trans most (by decide)
  · exact UInt32.le_trans most (by decide)
  · exact UInt32.le_trans most (by decide)

private theorem length_iv (config : TScryptConfig) : (bufferFrom config.iv).length = 16 := by
  obtain ⟨length,hex⟩ := Bool.and_eq_true_iff.mp config.valid
  have ascii : ∀ c ∈ config.iv.toList, c.val ≤ 127 := fun c member => hex_ascii (List.all_eq_true.mp hex c member)
  rw [bufferFrom,← Unicode.utf8_toList,Unicode.length_utf8_ascii ascii,String.length_toList]
  exact of_decide_eq_true length

section

variable (platform : Platform) (config : TScryptConfig)

def cipher : Cipher :=
  { keystream := platform.keystream (platform.scrypt config.salt "salt" 32) (bufferFrom config.iv) }

theorem created : createCipheriv platform (platform.scrypt config.salt "salt" 32) config.iv =
    .ok (cipher platform config) :=
  if_pos (length_iv config)

private theorem encrypt_ok (str : String) :
    encrypt platform config str =
      .ok (String.ofList (Base64.encode ((cipher platform config).update (bufferFrom str)).1)) := by
  simp [encrypt,created,Cipher.final,bind,Except.bind,pure,Except.pure]

private theorem decrypt_ok (str : String) :
    decrypt platform config str =
      .ok (platform.toString ((cipher platform config).update (Base64.decode str.toList)).1) := by
  simp [decrypt,created,Cipher.final,bind,Except.bind,pure,Except.pure]

end

/-- Decrypting undoes encrypting, which fails for no configuration and no text; and so do the layers for data of
every length. -/
theorem decrypt_encrypt (platform : Platform) (config : TScryptConfig) :
    (∀ str, (encrypt platform config str).bind (decrypt platform config) = .ok str) ∧
    (∀ str, platform.toString (bufferFrom str) = str) ∧
    (∀ data, Base64.decode (Base64.encode data) = data) ∧
    (∀ cipher : Cipher, ∀ data, (cipher.update (Base64.decode (Base64.encode (cipher.update data).1))).1 = data) := by
  refine ⟨fun str => ?_,toString_bufferFrom platform,Base64.decode_encode,fun cipher data => ?_⟩
  · rw [encrypt_ok,Except.bind,decrypt_ok,String.toList_ofList,Base64.decode_encode,update_update,toString_bufferFrom]
  · rw [Base64.decode_encode,update_update]

end BoarPack.Scrypt
