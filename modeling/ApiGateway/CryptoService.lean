import ApiGateway.Interfaces
import ApiGateway.Library.Buffers
import ApiGateway.Library.Encodings

/-!
# The crypto service

The service encrypts to a wire format and decrypts from it. Every wire format
begins with the initialisation vector or nonce of the call; two of them end with
a tag. Wire formats are passed as text, without an algorithm the payload is.

The ciphers, the message authentication code, the source of random bytes and the
pool of buffers are the platform's. What the service relies on in them is listed
in `Lawful`: decryption undoes encryption, the sizes of keys, blocks and tags,
and that a rented buffer is long enough.
-/

namespace ApiGateway.CryptoService

open Encodings

/-- What the service calls in the platform's cryptography. A cipher that throws
has no value. -/
structure Primitives where
  rent : Nat → Bytes
  random : Nat → Bytes
  cbcEncrypt : (key iv plaintext : Bytes) → Option Bytes
  cbcDecrypt : (key iv ciphertext : Bytes) → Option Bytes
  gcmEncrypt : (key nonce plaintext : Bytes) → Option (Bytes × Bytes)
  gcmDecrypt : (key nonce ciphertext tag : Bytes) → Option Bytes
  hmacSha256 : (key data : Bytes) → Bytes

/-- Keys of 128, 192 and 256 bits. -/
def LegalKey (key : Bytes) : Prop := key.length = 16 ∨ key.length = 24 ∨ key.length = 32

instance (key : Bytes) : Decidable (LegalKey key) :=
  inferInstanceAs (Decidable (key.length = 16 ∨ key.length = 24 ∨ key.length = 32))

/-- What is documented of the platform's cryptography. A padded ciphertext has a
whole number of 16-byte blocks and always more bytes than its plaintext. -/
structure Primitives.Lawful (primitives : Primitives) : Prop where
  rent_length : ∀ minimumLength, minimumLength ≤ (primitives.rent minimumLength).length
  random_length : ∀ length, (primitives.random length).length = length
  cbc_key : ∀ key iv plaintext, iv.length = 16 →
    ((primitives.cbcEncrypt key iv plaintext).isSome ↔ LegalKey key)
  cbc_length : ∀ key iv plaintext ciphertext,
    primitives.cbcEncrypt key iv plaintext = some ciphertext →
      ciphertext.length = 16 * (plaintext.length / 16 + 1)
  cbc_inverse : ∀ key iv plaintext ciphertext,
    primitives.cbcEncrypt key iv plaintext = some ciphertext →
      primitives.cbcDecrypt key iv ciphertext = some plaintext
  gcm_key : ∀ key nonce plaintext, nonce.length = 12 →
    ((primitives.gcmEncrypt key nonce plaintext).isSome ↔ LegalKey key)
  gcm_length : ∀ key nonce plaintext ciphertext tag,
    primitives.gcmEncrypt key nonce plaintext = some (ciphertext, tag) →
      ciphertext.length = plaintext.length ∧ tag.length = 16
  gcm_exact : ∀ key nonce plaintext ciphertext tag,
    primitives.gcmDecrypt key nonce ciphertext tag = some plaintext ↔
      primitives.gcmEncrypt key nonce plaintext = some (ciphertext, tag)
  hmac_length : ∀ key data, (primitives.hmacSha256 key data).length = 32

section Faults

/-- A range or a copy reaches beyond a buffer. -/
def outOfRange : Fault := ⟨"ArgumentOutOfRangeException".toList⟩

/-- The text is no encoding of bytes. -/
def badFormat : Fault := ⟨"FormatException".toList⟩

/-- A key, a padding or a tag is refused. -/
def refused : Fault := ⟨"CryptographicException".toList⟩

/-- The value, or the fault of having none. -/
def orThrow {α : Type} (fault : Fault) : Option α → Except Fault α
  | some value => .ok value
  | none => .error fault

/-- The bytes from a start up to a stop. -/
def slice (bytes : Bytes) (start stop : Nat) : Except Fault Bytes :=
  orThrow outOfRange (Buffers.range start stop bytes)

/-- Copy a number of bytes from a start of one array to a start of another. -/
def arrayCopy (source : Bytes) (sourceIndex : Nat) (destination : Bytes) (destinationIndex length : Nat) :
    Except Fault Bytes :=
  orThrow outOfRange (Buffers.copy source sourceIndex destination destinationIndex length)

/-- Throw when a check fails. -/
def require (holds : Bool) (fault : Fault) : Except Fault Unit :=
  if holds then .ok () else .error fault

end Faults

def maxPayloadSize : Nat := 10 * 1024 * 1024

def aesGcmNonceSize : Nat := 12

def aesGcmTagSize : Nat := 16

def aesCbcIvSize : Nat := 16

def hmacSize : Nat := 32

/-- A new array. -/
def newBytes (length : Nat) : Bytes := List.replicate length 0

section Encodings

/-- Read bytes from text. -/
def decodeText (text : Text) : Encoding → Except Fault Bytes
  | .Base64 => orThrow badFormat (fromBase64 text)
  | .Hex => orThrow badFormat (fromHex text)

def decodeKey (key : Text) (encoding : Encoding) : Except Fault Bytes := decodeText key encoding

def decodeData (data : Text) (encoding : Encoding) : Except Fault Bytes := decodeText data encoding

def encodeData (data : Bytes) : Encoding → Text
  | .Base64 => toBase64 data
  | .Hex => toHex data

end Encodings

section Algorithms

variable (primitives : Primitives)

/-- Nonce, ciphertext, tag. -/
def encryptAesGcm (plaintext key : Bytes) : Except Fault Bytes := do
  let nonce := primitives.random aesGcmNonceSize
  let (ciphertext, tag) ← orThrow refused (primitives.gcmEncrypt key nonce plaintext)
  let cipherBuf ← arrayCopy ciphertext 0 (primitives.rent plaintext.length) 0 plaintext.length
  let tagBuf ← arrayCopy tag 0 (primitives.rent aesGcmTagSize) 0 aesGcmTagSize
  let result := newBytes (aesGcmNonceSize + plaintext.length + aesGcmTagSize)
  let result ← arrayCopy nonce 0 result 0 nonce.length
  let result ← arrayCopy cipherBuf 0 result aesGcmNonceSize plaintext.length
  arrayCopy tagBuf 0 result (aesGcmNonceSize + plaintext.length) aesGcmTagSize

def decryptAesGcm (ciphertext key : Bytes) : Except Fault Bytes := do
  require (aesGcmNonceSize + aesGcmTagSize ≤ ciphertext.length)
    ⟨"Ciphertext too short for AES-GCM".toList⟩
  let nonce ← slice ciphertext 0 aesGcmNonceSize
  let tagOffset := ciphertext.length - aesGcmTagSize
  let tag ← slice ciphertext tagOffset ciphertext.length
  let cipher ← slice ciphertext aesGcmNonceSize tagOffset
  let opened ← orThrow refused (primitives.gcmDecrypt key nonce cipher tag)
  let plaintextBuf ← arrayCopy opened 0 (primitives.rent cipher.length) 0 cipher.length
  arrayCopy plaintextBuf 0 (newBytes cipher.length) 0 cipher.length

/-- Initialisation vector, ciphertext. -/
def encryptAesCbc (plaintext key : Bytes) : Except Fault Bytes := do
  let iv := primitives.random aesCbcIvSize
  let ciphertext ← orThrow refused (primitives.cbcEncrypt key iv plaintext)
  let result := newBytes (aesCbcIvSize + ciphertext.length)
  let result ← arrayCopy iv 0 result 0 iv.length
  arrayCopy ciphertext 0 result aesCbcIvSize ciphertext.length

def decryptAesCbc (ciphertext key : Bytes) : Except Fault Bytes := do
  require (aesCbcIvSize ≤ ciphertext.length) ⟨"Ciphertext too short for AES-CBC".toList⟩
  let iv ← slice ciphertext 0 aesCbcIvSize
  let cipher ← slice ciphertext aesCbcIvSize ciphertext.length
  orThrow refused (primitives.cbcDecrypt key iv cipher)

/-- Initialisation vector, ciphertext, authentication code of both. The first 32
bytes of the key encrypt and the next 32 authenticate. -/
def encryptAesCbcHmac (plaintext key : Bytes) : Except Fault Bytes := do
  require (64 ≤ key.length) ⟨"Key must be at least 64 bytes for AES-256-CBC-HMAC".toList⟩
  let aesKey ← slice key 0 32
  let hmacKey ← slice key 32 64
  let iv := primitives.random aesCbcIvSize
  let ciphertext ← orThrow refused (primitives.cbcEncrypt aesKey iv plaintext)
  let hmacValue := primitives.hmacSha256 hmacKey (iv ++ ciphertext)
  let result := newBytes (aesCbcIvSize + ciphertext.length + hmacSize)
  let result ← arrayCopy iv 0 result 0 iv.length
  let result ← arrayCopy ciphertext 0 result aesCbcIvSize ciphertext.length
  arrayCopy hmacValue 0 result (aesCbcIvSize + ciphertext.length) hmacSize

def decryptAesCbcHmac (ciphertext key : Bytes) : Except Fault Bytes := do
  require (64 ≤ key.length) ⟨"Key must be at least 64 bytes for AES-256-CBC-HMAC".toList⟩
  require (aesCbcIvSize + hmacSize ≤ ciphertext.length)
    ⟨"Ciphertext too short for AES-256-CBC-HMAC".toList⟩
  let aesKey ← slice key 0 32
  let hmacKey ← slice key 32 64
  let iv ← slice ciphertext 0 aesCbcIvSize
  let hmacOffset := ciphertext.length - hmacSize
  let receivedHmac ← slice ciphertext hmacOffset ciphertext.length
  let cipher ← slice ciphertext aesCbcIvSize hmacOffset
  require (receivedHmac == primitives.hmacSha256 hmacKey (iv ++ cipher))
    ⟨"HMAC verification failed".toList⟩
  orThrow refused (primitives.cbcDecrypt aesKey iv cipher)

/-- The decryption an algorithm selects. -/
def decryptWith (algorithm : CryptoAlgorithm) (cipherBytes keyBytes : Bytes) : Except Fault Bytes :=
  match algorithm with
  | .AES_128_CBC => decryptAesCbc primitives cipherBytes keyBytes
  | .AES_256_GCM => decryptAesGcm primitives cipherBytes keyBytes
  | .AES_256_CBC_HMAC => decryptAesCbcHmac primitives cipherBytes keyBytes
  | .NONE => .error ⟨"Algorithm NONE not supported".toList⟩

/-- The encryption an algorithm selects. -/
def encryptWith (algorithm : CryptoAlgorithm) (plainData keyBytes : Bytes) : Except Fault Bytes :=
  match algorithm with
  | .AES_128_CBC => encryptAesCbc primitives plainData keyBytes
  | .AES_256_GCM => encryptAesGcm primitives plainData keyBytes
  | .AES_256_CBC_HMAC => encryptAesCbcHmac primitives plainData keyBytes
  | .NONE => .error ⟨"Algorithm NONE not supported".toList⟩

/-- The initialisation vector that is passed in is not used. -/
def decrypt (encryptedData : Text) (algorithm : CryptoAlgorithm) (key : Text) (_iv : Option Text)
    (encoding : Encoding) : Except Fault Bytes :=
  if algorithm = .NONE then .ok (toUtf8 encryptedData)
  else do
    let keyBytes ← decodeKey key encoding
    let cipherBytes ← decodeData encryptedData encoding
    require (cipherBytes.length ≤ maxPayloadSize)
      ⟨"Encrypted payload exceeds maximum size of 10485760 bytes".toList⟩
    decryptWith primitives algorithm cipherBytes keyBytes

def encrypt (plainData : Bytes) (algorithm : CryptoAlgorithm) (key : Text) (_iv : Option Text)
    (encoding : Encoding) : Except Fault Text :=
  if algorithm = .NONE then .ok (fromUtf8 plainData)
  else do
    let keyBytes ← decodeKey key encoding
    require (plainData.length ≤ maxPayloadSize)
      ⟨"Plain payload exceeds maximum size of 10485760 bytes".toList⟩
    let cipherBytes ← encryptWith primitives algorithm plainData keyBytes
    pure (encodeData cipherBytes encoding)

/-- The service as the stages see it. -/
def cryptoService : ICryptoService where
  decrypt := decrypt primitives
  encrypt := encrypt primitives

end Algorithms

end ApiGateway.CryptoService
