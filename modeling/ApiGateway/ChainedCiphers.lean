import Mathlib.Logic.Equiv.Basic
import ApiGateway.Library.Chaining
import ApiGateway.PayloadRoundTrips

/-!
# The format of a chained block cipher

One of the algorithms authenticates nothing. Its wire is the initial block of the call
and the blocks of a standard cipher in a standard mode. So whoever has the key can write
and read the wire without the service.

What the service relies on in that mode follows from the block cipher alone.
-/

namespace ApiGateway.CryptoService

open Encodings

/-- The cipher of 16-byte blocks. -/
abbrev Aes := Chaining.BlockCipher Bytes (Chaining.Block 16)

/-- The platform pads and chains a block cipher, under legal keys only. -/
structure Primitives.Chains (primitives : Primitives) (aes : Aes) : Prop where
  encrypts : ∀ key (initial : Chaining.Block 16) plaintext, LegalKey key →
    primitives.cbcEncrypt key initial.toList plaintext =
      some (Chaining.encrypt aes key initial plaintext)
  decrypts : ∀ key (initial : Chaining.Block 16) ciphertext, LegalKey key → ciphertext ≠ [] →
    primitives.cbcDecrypt key initial.toList ciphertext =
      Chaining.decrypt aes key initial ciphertext
  refuses : ∀ key iv data, ¬ LegalKey key →
    primitives.cbcEncrypt key iv data = none ∧ primitives.cbcDecrypt key iv data = none

/-- The initial block of a call. -/
def Primitives.initial (primitives : Primitives) : Chaining.Block 16 :=
  Chaining.blockAt 16 (primitives.random aesCbcIvSize)

section Chained

variable {primitives : Primitives} {aes : Aes}

theorem toList_blockAt_sized {iv : Bytes} (sized : iv.length = 16) :
    (Chaining.blockAt 16 iv).toList = iv := by
  rw [Chaining.toList_blockAt (Nat.le_of_eq sized.symm), List.take_of_length_le (Nat.le_of_eq sized)]

/-- The laws of the chained mode follow from the block cipher's. -/
theorem Primitives.Chains.cbc_inverse (chains : primitives.Chains aes) {key iv plaintext ciphertext : Bytes}
    (sized : iv.length = 16) (encrypted : primitives.cbcEncrypt key iv plaintext = some ciphertext) :
    ciphertext.length = 16 * (plaintext.length / 16 + 1) ∧
      primitives.cbcDecrypt key iv ciphertext = some plaintext := by
  by_cases legal : LegalKey key
  · rw [← toList_blockAt_sized sized] at encrypted ⊢
    rw [chains.encrypts key _ plaintext legal] at encrypted
    obtain rfl := Option.some.inj encrypted
    have length := @Chaining.length_encrypt _ _ aes key (Chaining.blockAt 16 iv) (by decide) plaintext
    have filled : Chaining.encrypt aes key (Chaining.blockAt 16 iv) plaintext ≠ [] := by
      intro empty
      rw [empty, List.length_nil] at length
      omega
    exact ⟨length, (chains.decrypts key _ _ legal filled).trans
      (Chaining.decrypt_encrypt (by decide) (by decide) plaintext)⟩
  · rw [(chains.refuses key iv plaintext legal).1] at encrypted
    cases encrypted

theorem encryptAesCbc_chained (lawful : primitives.Lawful) (chains : primitives.Chains aes)
    {key : Bytes} (legal : LegalKey key) (plaintext : Bytes) :
    encryptAesCbc primitives plaintext key =
      .ok (Chaining.encryptFramed aes key primitives.initial plaintext) := by
  have initial : primitives.initial.toList = primitives.random aesCbcIvSize :=
    toList_blockAt_sized (lawful.random_length _)
  rw [encryptAesCbc_run lawful, ← initial, chains.encrypts key _ plaintext legal, Option.map_some,
    orThrow_some, Chaining.encryptFramed]

/-- A wire with some ciphertext is read as the block cipher reads it. -/
theorem decryptAesCbc_chained (chains : primitives.Chains aes) {key : Bytes} (legal : LegalKey key)
    {wire : Bytes} (long : 16 < wire.length) :
    decryptAesCbc primitives wire key = orThrow refused (Chaining.decryptFramed aes key wire) := by
  rcases @decryptAesCbc_cases primitives wire key with ⟨short, _⟩ | ⟨iv, cipher, framed, decrypts⟩
  · omega
  · obtain ⟨rfl, sized, _⟩ := framed
    have filled : cipher ≠ [] := by
      rintro rfl
      simp [sized] at long
    have front : Chaining.blockAt 16 (iv ++ cipher) = Chaining.blockAt 16 iv := by
      rw [← toList_blockAt_sized sized, Chaining.blockAt_append, toList_blockAt_sized sized]
    rw [List.append_nil] at decrypts long ⊢
    rw [decrypts, Chaining.decryptFramed, if_pos (Nat.le_of_lt long), front, List.drop_left' sized,
      ← chains.decrypts key _ cipher legal filled, toList_blockAt_sized sized]

/-- Decryption of a text with its wire. -/
theorem decrypt_read {algorithm : CryptoAlgorithm} {encoding : Encoding} {key text : Text}
    {keyBytes wire : Bytes} (ciphers : algorithm ≠ .NONE)
    (decoded : decodeKey key encoding = .ok keyBytes) (read : decodeData text encoding = .ok wire)
    (small : wire.length ≤ maxPayloadSize) (iv : Option Text) :
    decrypt primitives text algorithm key iv encoding =
      decryptWith primitives algorithm wire keyBytes := by
  rw [decrypt, if_neg ciphers, decoded, ok_bind, read, ok_bind, decide_eq_true small, require_true,
    ok_bind]

end Chained

section Sample

/-- Blocks and what AES makes of them under the zero key of 128 bits. -/
def sampleBlocks : List (Chaining.Block 16 × Chaining.Block 16) :=
  [(#v[0x61, 0x73, 0x6b, 0x0d, 0x0d, 0x0d, 0x0d, 0x0d,
        0x0d, 0x0d, 0x0d, 0x0d, 0x0d, 0x0d, 0x0d, 0x0d],
      #v[0x1f, 0x96, 0xd4, 0xde, 0x27, 0x7b, 0xe9, 0xcf,
        0x95, 0x8f, 0xf8, 0xe0, 0x6d, 0x10, 0x5c, 0xdb]),
    (#v[0x6f, 0x6b, 0x0e, 0x0e, 0x0e, 0x0e, 0x0e, 0x0e,
        0x0e, 0x0e, 0x0e, 0x0e, 0x0e, 0x0e, 0x0e, 0x0e],
      #v[0x33, 0xd0, 0xa7, 0x9a, 0x21, 0x9f, 0x58, 0x5e,
        0x86, 0x58, 0x97, 0xad, 0x52, 0x23, 0x8f, 0x6d]),
    (#v[0x7b, 0x22, 0x70, 0x61, 0x79, 0x22, 0x3a, 0x31,
        0x2c, 0x22, 0x74, 0x6f, 0x22, 0x3a, 0x32, 0x7d],
      #v[0x06, 0x55, 0x38, 0x55, 0x09, 0x97, 0xc6, 0xed,
        0x29, 0xae, 0xf3, 0xb2, 0xdb, 0x9b, 0x95, 0xc4]),
    (#v[0x16, 0x45, 0x28, 0x45, 0x19, 0x87, 0xd6, 0xfd,
        0x39, 0xbe, 0xe3, 0xa2, 0xcb, 0x8b, 0x85, 0xd4],
      #v[0x43, 0x96, 0xe0, 0xc0, 0xa5, 0x05, 0x0e, 0xe7,
        0x2a, 0xfa, 0x45, 0x37, 0x2c, 0x64, 0xe1, 0x02])]

/-- A permutation that is AES on these blocks. -/
def sampleSwaps : Equiv.Perm (Chaining.Block 16) :=
  sampleBlocks.foldr (fun pair others => (Equiv.swap pair.1 pair.2).trans others) (Equiv.refl _)

def sampleAes : Aes where
  encipher := fun _ block => sampleSwaps block
  decipher := fun _ block => sampleSwaps.symm block
  decipher_encipher := fun _ block => sampleSwaps.symm_apply_apply block

/-- The sample platform with its chained mode over the sample cipher. -/
def chainedPrimitives : Primitives :=
  { samplePrimitives with
    cbcEncrypt := fun key iv plaintext =>
      if iv.length = 16 ∧ LegalKey key then
        some (Chaining.encrypt sampleAes key (Chaining.blockAt 16 iv) plaintext)
      else none
    cbcDecrypt := fun key iv ciphertext =>
      if iv.length = 16 ∧ LegalKey key then
        if ciphertext = [] then some []
        else Chaining.decrypt sampleAes key (Chaining.blockAt 16 iv) ciphertext
      else none }

theorem blockAt_toList (block : Chaining.Block 16) : Chaining.blockAt 16 block.toList = block := by
  have same := Chaining.blockAt_append block []
  rwa [List.append_nil] at same

theorem chainedPrimitives_chains : chainedPrimitives.Chains sampleAes where
  encrypts := fun key initial plaintext legal => by
    simp [chainedPrimitives, legal, blockAt_toList]
  decrypts := fun key initial ciphertext legal filled => by
    simp [chainedPrimitives, legal, filled, blockAt_toList]
  refuses := fun key iv data illegal => by simp [chainedPrimitives, illegal]

theorem chainedPrimitives_lawful : chainedPrimitives.Lawful where
  rent_length := samplePrimitives_lawful.rent_length
  random_length := samplePrimitives_lawful.random_length
  cbc_key := fun key iv plaintext sized => by simp [chainedPrimitives, sized]
  cbc_length := fun key iv plaintext ciphertext encrypted => by
    have sized : iv.length = 16 := by
      by_contra other
      simp [chainedPrimitives, other] at encrypted
    exact (chainedPrimitives_chains.cbc_inverse sized encrypted).1
  cbc_inverse := fun key iv plaintext ciphertext encrypted => by
    have sized : iv.length = 16 := by
      by_contra other
      simp [chainedPrimitives, other] at encrypted
    exact (chainedPrimitives_chains.cbc_inverse sized encrypted).2
  gcm_key := samplePrimitives_lawful.gcm_key
  gcm_length := samplePrimitives_lawful.gcm_length
  gcm_exact := samplePrimitives_lawful.gcm_exact
  hmac_length := samplePrimitives_lawful.hmac_length

end Sample

end ApiGateway.CryptoService
