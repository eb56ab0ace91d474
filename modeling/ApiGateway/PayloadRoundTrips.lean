import ApiGateway.WireFormats

/-!
# Payloads that decrypt to what was encrypted

Text encodings are read as they are written, so the wire formats decide what
comes back. Within the size that decryption accepts, what encryption returns
decrypts to the plaintext.

The two sizes that are checked differ: encryption limits the plaintext, and
decryption the longer wire. Without an algorithm the payload passes through text,
which replaces bytes that are no text. Exactly these two cases lose a plaintext.
-/

namespace ApiGateway.CryptoService

open Encodings

section Texts

theorem decodeData_encodeData (data : Bytes) (encoding : Encoding) :
    decodeData (encodeData data encoding) encoding = .ok data := by
  cases encoding with
  | Base64 => exact congrArg (orThrow badFormat) (fromBase64_toBase64 data)
  | Hex => exact congrArg (orThrow badFormat) (fromHex_toHex data)

variable {primitives : Primitives} {algorithm : CryptoAlgorithm} {encoding : Encoding} {key : Text} {keyBytes : Bytes}

/-- With a decoded key and an acceptable size, encryption is the cipher's. -/
theorem encrypt_run (ciphers : algorithm ≠ .NONE) (decoded : decodeKey key encoding = .ok keyBytes)
    {plaintext : Bytes} (small : plaintext.length ≤ maxPayloadSize) (iv : Option Text) :
    encrypt primitives plaintext algorithm key iv encoding =
      (encryptWith primitives algorithm plaintext keyBytes).map (fun wire => encodeData wire encoding) := by
  unfold encrypt
  rw [if_neg ciphers, decoded, ok_bind, decide_eq_true small, require_true, ok_bind]
  cases encryptWith primitives algorithm plaintext keyBytes <;> rfl

/-- Decryption reads its own encoding and checks the size of the wire. -/
theorem decrypt_run (ciphers : algorithm ≠ .NONE) (decoded : decodeKey key encoding = .ok keyBytes)
    (wire : Bytes) (iv : Option Text) :
    decrypt primitives (encodeData wire encoding) algorithm key iv encoding =
      if wire.length ≤ maxPayloadSize then decryptWith primitives algorithm wire keyBytes
      else .error ⟨"Encrypted payload exceeds maximum size of 10485760 bytes".toList⟩ := by
  unfold decrypt
  rw [if_neg ciphers, decoded, ok_bind, decodeData_encodeData, ok_bind]
  by_cases small : wire.length ≤ maxPayloadSize
  · rw [decide_eq_true small, require_true, ok_bind, if_pos small]
  · rw [decide_eq_false small, require_false, error_bind, if_neg small]

end Texts

section Sample

/-- As many bytes of one value as complete a block, and at least one. -/
def padded (plaintext : Bytes) : Bytes :=
  plaintext ++ List.replicate (16 - plaintext.length % 16) (UInt8.ofNat (16 - plaintext.length % 16))

/-- The bytes without as many of them as the last one says. -/
def unpadded (ciphertext : Bytes) : Option Bytes :=
  ciphertext.getLast?.map (fun last => ciphertext.take (ciphertext.length - last.toNat))

/-- The bytes of a quoted letter between two others. -/
def quotation : Bytes := [0x61, 0x22, 0x62]

/-- The first block of the key stream of AES under the zero key and nonce of 256 and
96 bits; nothing for any other. -/
def sampleStream (key nonce : Bytes) : Bytes :=
  if key = newBytes 32 ∧ nonce = newBytes 12 then
    [0xce, 0xa7, 0x40, 0x3d, 0x4d, 0x60, 0x6b, 0x6e, 0x07, 0x4e, 0xc5, 0xd3, 0xba, 0xf3, 0x9d, 0x18]
  else []

/-- The tags that go with it for the quotation and the empty plaintext; zeros for
everything else. -/
def sampleTag (key nonce plaintext : Bytes) : Bytes :=
  if key = newBytes 32 ∧ nonce = newBytes 12 ∧ plaintext = quotation then
    [0xea, 0xbf, 0xfa, 0x1a, 0x9f, 0x75, 0xd5, 0x49, 0x11, 0x97, 0x6b, 0x34, 0xe1, 0xd1, 0xe7, 0x91]
  else if key = newBytes 32 ∧ nonce = newBytes 12 ∧ plaintext = [] then
    [0x53, 0x0f, 0x8a, 0xfb, 0xc7, 0x45, 0x36, 0xb9, 0xa9, 0x63, 0xb4, 0xf1, 0xc4, 0xcb, 0x73, 0x8b]
  else newBytes 16

/-- Bytes under a key stream, which may end before them. -/
def masked : Bytes → Bytes → Bytes
  | mask :: stream, byte :: bytes => (mask ^^^ byte) :: masked stream bytes
  | _, bytes => bytes

theorem length_masked (stream bytes : Bytes) : (masked stream bytes).length = bytes.length := by
  fun_induction masked stream bytes with
  | case1 mask stream byte bytes ih => exact congrArg Nat.succ ih
  | case2 stream bytes ends => rfl

theorem masked_masked (stream bytes : Bytes) : masked stream (masked stream bytes) = bytes := by
  fun_induction masked stream bytes with
  | case1 mask stream byte bytes ih => rw [masked, ih, ← UInt8.xor_assoc, UInt8.xor_self, UInt8.zero_xor]
  | case2 stream bytes ends => rw [masked.eq_2 stream bytes ends]

/-- Ciphers with the platform's sizes. Those with a tag are AES for what the samples
encrypt; the others pad but do not hide. -/
def samplePrimitives : Primitives where
  rent := fun minimumLength => List.replicate (minimumLength + 4) 0xFF
  random := newBytes
  cbcEncrypt := fun key iv plaintext =>
    if iv.length = 16 ∧ LegalKey key then some (padded plaintext) else none
  cbcDecrypt := fun _ _ ciphertext => unpadded ciphertext
  gcmEncrypt := fun key nonce plaintext =>
    if nonce.length = 12 ∧ LegalKey key then
      some (masked (sampleStream key nonce) plaintext, sampleTag key nonce plaintext)
    else none
  gcmDecrypt := fun key nonce ciphertext tag =>
    if (nonce.length = 12 ∧ LegalKey key) ∧
        tag = sampleTag key nonce (masked (sampleStream key nonce) ciphertext) then
      some (masked (sampleStream key nonce) ciphertext)
    else none
  hmacSha256 := fun _ _ => newBytes 32

theorem padded_length (plaintext : Bytes) :
    (padded plaintext).length = 16 * (plaintext.length / 16 + 1) := by
  rw [padded, List.length_append, List.length_replicate]
  omega

theorem unpadded_padded (plaintext : Bytes) : unpadded (padded plaintext) = some plaintext := by
  obtain ⟨fewer, count⟩ : ∃ fewer, 16 - plaintext.length % 16 = fewer + 1 :=
    ⟨15 - plaintext.length % 16, by omega⟩
  have small : fewer + 1 < 256 := by omega
  have last : (padded plaintext).getLast? = some (UInt8.ofNat (fewer + 1)) := by
    rw [padded, count, List.replicate_succ', ← List.append_assoc, List.getLast?_concat]
  have shown : (UInt8.ofNat (fewer + 1)).toNat = fewer + 1 := UInt8.toNat_ofNat_of_lt small
  have rest : (padded plaintext).length - (fewer + 1) = plaintext.length := by
    rw [padded, List.length_append, List.length_replicate]
    omega
  rw [unpadded, last, Option.map_some, shown, rest, padded, List.take_left]

theorem sampleTag_length (key nonce plaintext : Bytes) :
    (sampleTag key nonce plaintext).length = 16 := by
  unfold sampleTag
  split
  · rfl
  · split <;> rfl

theorem samplePrimitives_lawful : samplePrimitives.Lawful where
  rent_length := fun minimumLength => by simp [samplePrimitives]
  random_length := fun length => by simp [samplePrimitives, newBytes]
  cbc_key := fun key iv plaintext sized => by simp [samplePrimitives, sized]
  cbc_length := fun key iv plaintext ciphertext encrypted => by
    simp only [samplePrimitives, Option.ite_none_right_eq_some, Option.some.injEq] at encrypted
    rw [← encrypted.2, padded_length]
  cbc_inverse := fun key iv plaintext ciphertext encrypted => by
    simp only [samplePrimitives, Option.ite_none_right_eq_some, Option.some.injEq] at encrypted
    rw [← encrypted.2]
    exact unpadded_padded plaintext
  gcm_key := fun key nonce plaintext sized => by simp [samplePrimitives, sized]
  gcm_length := fun key nonce plaintext ciphertext tag sealed => by
    simp only [samplePrimitives, Option.ite_none_right_eq_some, Option.some.injEq, Prod.mk.injEq]
      at sealed
    obtain ⟨_, rfl, rfl⟩ := sealed
    exact ⟨length_masked _ _, sampleTag_length key nonce plaintext⟩
  gcm_exact := fun key nonce plaintext ciphertext tag => by
    simp only [samplePrimitives, Option.ite_none_right_eq_some, Option.some.injEq, Prod.mk.injEq]
    constructor
    · rintro ⟨⟨usable, rfl⟩, rfl⟩
      exact ⟨usable, masked_masked _ _, rfl⟩
    · rintro ⟨usable, rfl, rfl⟩
      rw [masked_masked]
      exact ⟨⟨usable, rfl⟩, rfl⟩
  hmac_length := fun key data => rfl

end Sample

section Results

variable {primitives : Primitives}

/-- What decryption accepts, what it reads, and that it undoes encryption. -/
structure ExactWireFormats (primitives : Primitives) : Prop where
  aesCbcHmac : ∀ wire key plaintext, decryptAesCbcHmac primitives wire key = .ok plaintext ↔
    64 ≤ key.length ∧ 48 ≤ wire.length ∧ ∃ iv cipher tag, Framed 16 32 wire iv cipher tag ∧
      tag = primitives.hmacSha256 (hmacKey key) (iv ++ cipher) ∧
      primitives.cbcDecrypt (aesKey key) iv cipher = some plaintext
  aesGcm : ∀ wire key plaintext, decryptAesGcm primitives wire key = .ok plaintext ↔
    28 ≤ wire.length ∧ ∃ nonce cipher tag, Framed 12 16 wire nonce cipher tag ∧
      primitives.gcmEncrypt key nonce plaintext = some (cipher, tag)
  aesCbc : ∀ wire key plaintext, decryptAesCbc primitives wire key = .ok plaintext ↔
    16 ≤ wire.length ∧ ∃ iv cipher, Framed 16 0 wire iv cipher [] ∧
      primitives.cbcDecrypt key iv cipher = some plaintext
  inRange : ∀ algorithm wire plaintext key,
    decryptWith primitives algorithm wire key ≠ .error outOfRange ∧
      encryptWith primitives algorithm plaintext key ≠ .error outOfRange
  inverse : ∀ algorithm encoding key keyBytes iv plaintext, algorithm ≠ .NONE →
    decodeKey key encoding = .ok keyBytes → AcceptsKey algorithm keyBytes →
      framedLength algorithm plaintext.length ≤ maxPayloadSize →
        ∃ text, encrypt primitives plaintext algorithm key iv encoding = .ok text ∧
          decrypt primitives text algorithm key iv encoding = .ok plaintext

/-- Wires are decoded exactly, over their whole extent and within bounds, and a
plaintext whose wire is not too long comes back. -/
theorem wire_formats_exact (lawful : primitives.Lawful) : ExactWireFormats primitives where
  aesCbcHmac := decryptAesCbcHmac_iff
  aesGcm := fun wire key plaintext => by
    simp only [decryptAesGcm_iff lawful, lawful.gcm_exact]
  aesCbc := decryptAesCbc_iff
  inRange := fun algorithm wire plaintext key =>
    ⟨decryptWith_inRange lawful algorithm wire key, encryptWith_inRange lawful algorithm plaintext key⟩
  inverse := by
    intro algorithm encoding key keyBytes iv plaintext ciphers decoded accepts fits
    obtain ⟨wire, encrypted, sized, decrypted⟩ := encryptWith_accepted lawful ciphers accepts plaintext
    have small : plaintext.length ≤ maxPayloadSize :=
      Nat.le_trans (plain_le_framed algorithm plaintext.length) fits
    refine ⟨encodeData wire encoding, ?_, ?_⟩
    · rw [encrypt_run ciphers decoded small, encrypted]
      rfl
    · rw [decrypt_run ciphers decoded, if_pos (sized ▸ fits), decrypted]

/-- The zero key of 256 bits in hexadecimal digits. -/
def zeroKey : Text := List.replicate 64 '0'

theorem wire_formats_exact_zeroKey :
    ∃ text, encrypt samplePrimitives quotation .AES_256_GCM zeroKey none .Hex = .ok text ∧
      decrypt samplePrimitives text .AES_256_GCM zeroKey none .Hex = .ok quotation :=
  (wire_formats_exact samplePrimitives_lawful).inverse .AES_256_GCM .Hex zeroKey (newBytes 32) none
    quotation (by decide) (by decide) (by decide) (by decide)

/-- The plaintext is well formed text where it passes through text. Otherwise the
key is not accepted, or the plaintext is refused for its size, or its wire is not
too long. -/
def Returnable (algorithm : CryptoAlgorithm) (encoding : Encoding) (key : Text) (plaintext : Bytes) :
    Prop :=
  if algorithm = .NONE then WellFormed plaintext
  else (∀ keyBytes, decodeKey key encoding = .ok keyBytes → ¬ AcceptsKey algorithm keyBytes) ∨
    maxPayloadSize < plaintext.length ∨ framedLength algorithm plaintext.length ≤ maxPayloadSize

/-- Whatever encryption returns decrypts to the plaintext exactly for returnable
plaintexts. -/
theorem decrypt_encrypt_iff (lawful : primitives.Lawful) (algorithm : CryptoAlgorithm)
    (encoding : Encoding) (key : Text) (iv : Option Text) (plaintext : Bytes) :
    (∀ text, encrypt primitives plaintext algorithm key iv encoding = .ok text →
        decrypt primitives text algorithm key iv encoding = .ok plaintext) ↔
      Returnable algorithm encoding key plaintext := by
  by_cases ciphers : algorithm = .NONE
  · subst algorithm
    simp only [encrypt, decrypt, Returnable, if_true, Except.ok.injEq, forall_eq']
    exact toUtf8_fromUtf8_iff plaintext
  · rw [Returnable, if_neg ciphers]
    cases decoded : decodeKey key encoding with
    | error fault =>
      have threw : encrypt primitives plaintext algorithm key iv encoding = .error fault := by
        rw [encrypt, if_neg ciphers, decoded, error_bind]
      simp [threw]
    | ok keyBytes =>
      by_cases small : plaintext.length ≤ maxPayloadSize
      · rw [encrypt_run ciphers decoded small]
        by_cases accepts : AcceptsKey algorithm keyBytes
        · obtain ⟨wire, encrypted, sized, decrypted⟩ :=
            encryptWith_accepted lawful ciphers accepts plaintext
          rw [encrypted]
          simp only [Except.map, Except.ok.injEq, forall_eq', decrypt_run ciphers decoded, sized,
            accepts, not_true_eq_false, false_or, Nat.not_lt.mpr small]
          by_cases fits : framedLength algorithm plaintext.length ≤ maxPayloadSize
          · simp only [fits, if_true, decrypted]
          · simp only [fits, if_false, reduceCtorEq]
        · have refuses : ∀ text, (encryptWith primitives algorithm plaintext keyBytes).map
              (fun wire => encodeData wire encoding) ≠ .ok text := by
            intro text
            cases ended : encryptWith primitives algorithm plaintext keyBytes with
            | error fault => exact fun same => nomatch same
            | ok wire => exact absurd ended (encryptWith_refuses lawful accepts plaintext wire)
          simp [refuses, accepts]
      · have threw : encrypt primitives plaintext algorithm key iv encoding =
            .error ⟨"Plain payload exceeds maximum size of 10485760 bytes".toList⟩ := by
          rw [encrypt, if_neg ciphers, decoded, ok_bind, decide_eq_false small, require_false,
            error_bind]
        simp [threw, Nat.lt_of_not_le small]

theorem decrypt_encrypt_iff_zeroKey :
    (∀ text, encrypt samplePrimitives quotation .AES_256_GCM zeroKey none .Hex = .ok text →
        decrypt samplePrimitives text .AES_256_GCM zeroKey none .Hex = .ok quotation) ↔
      Returnable .AES_256_GCM .Hex zeroKey quotation :=
  decrypt_encrypt_iff samplePrimitives_lawful .AES_256_GCM .Hex zeroKey none quotation

/-- A plaintext that is accepted and whose wire is too long is lost. -/
theorem long_wire_lost (lawful : primitives.Lawful) {algorithm : CryptoAlgorithm}
    (ciphers : algorithm ≠ .NONE) {encoding : Encoding} {key : Text} {keyBytes : Bytes}
    (decoded : decodeKey key encoding = .ok keyBytes) (accepts : AcceptsKey algorithm keyBytes)
    {plaintext : Bytes} (small : plaintext.length ≤ maxPayloadSize)
    (long : maxPayloadSize < framedLength algorithm plaintext.length) (iv : Option Text) :
    ∃ text, encrypt primitives plaintext algorithm key iv encoding = .ok text ∧
      decrypt primitives text algorithm key iv encoding ≠ .ok plaintext := by
  obtain ⟨wire, encrypted, sized, _⟩ := encryptWith_accepted lawful ciphers accepts plaintext
  refine ⟨encodeData wire encoding, ?_, ?_⟩
  · rw [encrypt_run ciphers decoded small, encrypted]
    rfl
  · rw [decrypt_run ciphers decoded, sized, if_neg (Nat.not_le_of_lt long)]
    exact fun same => nomatch same

/-- Without an algorithm a byte that is no text comes back as the three bytes of
the replacement character; with one the largest plaintext does not come back. -/
theorem lone_byte_replaced :
    (encrypt samplePrimitives [0xFF] .NONE [] none .Base64 = .ok [replacementChar] ∧
      decrypt samplePrimitives [replacementChar] .NONE [] none .Base64 = .ok [0xEF, 0xBF, 0xBD]) ∧
    ∃ text, encrypt samplePrimitives (newBytes maxPayloadSize) .AES_256_GCM zeroKey none .Hex =
        .ok text ∧
      decrypt samplePrimitives text .AES_256_GCM zeroKey none .Hex ≠ .ok (newBytes maxPayloadSize) := by
  refine ⟨⟨by decide, by decide⟩, ?_⟩
  have decoded : decodeKey zeroKey .Hex = .ok (newBytes 32) := by
    decide
  have sized : (newBytes maxPayloadSize).length = maxPayloadSize := List.length_replicate
  have long : maxPayloadSize < framedLength .AES_256_GCM (newBytes maxPayloadSize).length := by
    rw [sized]
    decide
  exact long_wire_lost samplePrimitives_lawful (by decide) decoded (by decide) (Nat.le_of_eq sized) long
    none

end Results

end ApiGateway.CryptoService
