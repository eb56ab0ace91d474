import ApiGateway.EncryptedRequests
import ApiGateway.Library.Runs

/-!
# Encrypted requests that are altered on their way

The chained format does not say who wrote it. Blocks can be cut off in front of it and
its initial block can be changed without the key, and the plaintext is then altered in
the same places. The gateway forwards it in the caller's name.

The authenticated format ends with a code of all that is before it. Under it a request
reaches the upstream decrypted exactly if that code is the one under the caller's key.
-/

namespace ApiGateway.PayloadTampering

open Effects Encodings CryptoService Concurrent Envelopes EncryptedExchange

/-- What can be done to a wire without its key. -/
inductive Alteration where
  | cut (blocks : Nat)
  | change (mask : Chaining.Block 16)

/-- The altered bytes, of a wire or of a plaintext. -/
def Alteration.apply : Alteration → Bytes → Bytes
  | .cut blocks, bytes => bytes.drop (16 * blocks)
  | .change mask, bytes => Chaining.change mask bytes

/-- A plaintext has all that is altered. -/
def Alteration.Within : Bytes → Alteration → Prop
  | plaintext, .cut blocks => 16 * blocks ≤ plaintext.length
  | plaintext, .change _ => 16 ≤ plaintext.length

instance (plaintext : Bytes) : (alteration : Alteration) → Decidable (alteration.Within plaintext)
  | .cut _ => inferInstanceAs (Decidable (_ ≤ _))
  | .change _ => inferInstanceAs (Decidable (_ ≤ _))

/-- Alterations one after another. -/
def altered (alterations : List Alteration) (bytes : Bytes) : Bytes :=
  Runs.run Alteration.apply alterations bytes

/-- Each alteration is within what the ones before it have left. -/
def AllWithin (alterations : List Alteration) (plaintext : Bytes) : Prop :=
  Runs.Along Alteration.apply (fun left alteration => alteration.Within left) alterations plaintext

section Wires

variable {primitives : Primitives} {aes : Aes} {keyBytes wire plaintext : Bytes}

/-- An altered wire decrypts to the plaintext altered alike, and is no longer. -/
theorem opens_altered (opened : Chaining.decryptFramed aes keyBytes wire = some plaintext)
    {alterations : List Alteration} (within : AllWithin alterations plaintext) :
    Chaining.decryptFramed aes keyBytes (altered alterations wire) =
        some (altered alterations plaintext) ∧
      (altered alterations wire).length ≤ wire.length := by
  have kept : ∀ (sent read : Bytes) (alteration : Alteration),
      Chaining.decryptFramed aes keyBytes sent = some read ∧ sent.length ≤ wire.length →
      alteration.Within read →
      Chaining.decryptFramed aes keyBytes (alteration.apply sent) = some (alteration.apply read) ∧
        (alteration.apply sent).length ≤ wire.length := by
    rintro sent read alteration ⟨reads, bounded⟩ inside
    cases alteration with
    | cut blocks =>
      refine ⟨Chaining.decryptFramed_cut (by decide) (by decide) reads inside, ?_⟩
      rw [Alteration.apply, List.length_drop]
      omega
    | change mask =>
      have long := Chaining.length_of_decryptFramed (by decide) (by decide) reads
      refine ⟨Chaining.decryptFramed_change (by decide) (by decide) mask reads inside, ?_⟩
      rw [Alteration.apply, Chaining.change, List.length_append, Vector.length_toList,
        List.length_drop]
      omega
  exact Runs.related_run kept within ⟨opened, Nat.le_refl _⟩

/-- The service decrypts what was altered. -/
theorem decrypt_altered (chains : primitives.Chains aes) {encoding : Encoding} {key : Text}
    (decoded : decodeKey key encoding = .ok keyBytes) (legal : LegalKey keyBytes)
    (opened : Chaining.decryptFramed aes keyBytes wire = some plaintext)
    (small : wire.length ≤ maxPayloadSize) {alterations : List Alteration}
    (within : AllWithin alterations plaintext) (iv : Option Text) :
    decrypt primitives (encodeData (altered alterations wire) encoding) .AES_128_CBC key iv
      encoding = .ok (altered alterations plaintext) := by
  obtain ⟨reads, shorter⟩ := opens_altered opened within
  have long := Chaining.length_of_decryptFramed (by decide) (by decide) reads
  rw [decrypt_read (by decide) decoded (decodeData_encodeData _ _) (Nat.le_trans shorter small),
    decryptWith, decryptAesCbc_chained chains legal long, reads, orThrow_some]

end Wires

section Requests

variable {platform : Platform} {primitives : Primitives} {aes : Aes} {policy : EndpointPolicy}
  {profile : UserProfile} {clientId : Text} {surroundings : Surroundings}
  {connection : Connection Gateway} {keyBytes plaintext : Bytes}

/-- Under the chained format an altered request reaches the upstream decrypted, altered
and in the caller's name. -/
theorem altered_forwarded (chains : primitives.Chains aes) (readsBack : ReadsBack platform)
    (ready : Ready platform policy profile clientId surroundings connection)
    (decoded : decodeKey profile.encryptionKey policy.cryptoConfig.encoding = .ok keyBytes)
    (chained : policy.cryptoConfig.algorithm = .AES_128_CBC) (legal : LegalKey keyBytes)
    (initial : Chaining.Block 16) (alterations : List Alteration)
    (small : framedLength .AES_128_CBC plaintext.length ≤ maxPayloadSize)
    (within : AllWithin alterations plaintext) :
    ∃ delivery, exchange platform (cryptoService primitives) surroundings
        (carrying platform policy
          (altered alterations (Chaining.encryptFramed aes keyBytes initial plaintext)) connection) =
        some delivery ∧
      Forwards platform surroundings policy clientId (altered alterations plaintext) delivery := by
  have opened : Chaining.decryptFramed aes keyBytes
      (Chaining.encryptFramed aes keyBytes initial plaintext) = some plaintext :=
    Chaining.decryptFramed_encryptFramed (by decide) (by decide) plaintext
  have sized : (Chaining.encryptFramed aes keyBytes initial plaintext).length ≤ maxPayloadSize := by
    rw [Chaining.encryptFramed, List.length_append, Vector.length_toList,
      Chaining.length_encrypt (by decide)]
    exact small
  have decrypted := decrypt_altered chains decoded legal opened sized within profile.encryptionIv
  have filled : altered alterations (Chaining.encryptFramed aes keyBytes initial plaintext) ≠ [] := by
    have long := Chaining.length_of_decryptFramed (by decide) (by decide)
      (opens_altered opened within).1
    intro empty
    rw [empty, List.length_nil] at long
    omega
  rw [← chained] at decrypted
  obtain ⟨delivery, _, ran, forwards, _⟩ :=
    ready.delivers (carries_wrapped readsBack policy filled) decrypted
  exact ⟨delivery, ran, forwards⟩

/-- Under the authenticated format a request reaches the upstream decrypted exactly if its
wire ends with the code of what is before it. -/
theorem authenticated_forwarded_iff (readsBack : ReadsBack platform)
    (ready : Ready platform policy profile clientId surroundings connection)
    (decoded : decodeKey profile.encryptionKey policy.cryptoConfig.encoding = .ok keyBytes)
    (authenticated : policy.cryptoConfig.algorithm = .AES_256_CBC_HMAC)
    {wire : Bytes} (filled : wire ≠ []) (small : wire.length ≤ maxPayloadSize) :
    (∃ delivery, exchange platform (cryptoService primitives) surroundings
        (carrying platform policy wire connection) = some delivery ∧
      delivery.context.body = .replaced plaintext) ↔
      64 ≤ keyBytes.length ∧ 48 ≤ wire.length ∧ ∃ iv cipher tag, Framed 16 32 wire iv cipher tag ∧
        tag = primitives.hmacSha256 (hmacKey keyBytes) (iv ++ cipher) ∧
        primitives.cbcDecrypt (aesKey keyBytes) iv cipher = some plaintext := by
  rw [carrying, ready.forwarded_iff (carries_wrapped readsBack policy filled), authenticated,
    decrypt_read (by decide) decoded (decodeData_encodeData _ _) small, decryptWith,
    decryptAesCbcHmac_iff]

/-- Only the authenticated format keeps a request as its caller wrote it: the gateway
forwards chained requests altered on their way, and under the other format none whose
wire does not end with the code of what is before it. -/
theorem only_codes_protect_requests (chains : primitives.Chains aes) (readsBack : ReadsBack platform)
    (ready : Ready platform policy profile clientId surroundings connection)
    (decoded : decodeKey profile.encryptionKey policy.cryptoConfig.encoding = .ok keyBytes) :
    (policy.cryptoConfig.algorithm = .AES_128_CBC → LegalKey keyBytes →
      ∀ initial plaintext alterations, framedLength .AES_128_CBC plaintext.length ≤ maxPayloadSize →
        AllWithin alterations plaintext →
        ∃ delivery, exchange platform (cryptoService primitives) surroundings
            (carrying platform policy (altered alterations
              (Chaining.encryptFramed aes keyBytes initial plaintext)) connection) = some delivery ∧
          Forwards platform surroundings policy clientId (altered alterations plaintext) delivery) ∧
    (policy.cryptoConfig.algorithm = .AES_256_CBC_HMAC →
      ∀ wire plaintext, wire ≠ [] → wire.length ≤ maxPayloadSize →
        ((∃ delivery, exchange platform (cryptoService primitives) surroundings
            (carrying platform policy wire connection) = some delivery ∧
          delivery.context.body = .replaced plaintext) ↔
          64 ≤ keyBytes.length ∧ 48 ≤ wire.length ∧
            ∃ iv cipher tag, Framed 16 32 wire iv cipher tag ∧
              tag = primitives.hmacSha256 (hmacKey keyBytes) (iv ++ cipher) ∧
              primitives.cbcDecrypt (aesKey keyBytes) iv cipher = some plaintext)) :=
  ⟨fun chained legal initial _ alterations =>
      altered_forwarded chains readsBack ready decoded chained legal initial alterations,
    fun authenticated _ _ => authenticated_forwarded_iff readsBack ready decoded authenticated⟩

/-- The first block of a payment with its amount replaced. -/
def amountMask : Chaining.Block 16 :=
  Vector.ofFn (fun index => if index.val = 7 then 0x08 else 0)

theorem only_codes_protect_requests_amount :
    ∃ delivery, exchange spacedPlatform (cryptoService chainedPrimitives) (chainedSurroundings [])
        (carrying spacedPlatform chainedPolicy (altered [.change amountMask]
          (Chaining.encryptFramed sampleAes (newBytes 16) chainedPrimitives.initial
            (toUtf8 "\x7b\"pay\":1,\"to\":2\x7d".toList))) (chainedCall [])) = some delivery ∧
      delivery.context.body = .replaced (toUtf8 "\x7b\"pay\":9,\"to\":2\x7d".toList) := by
  have within : AllWithin [.change amountMask] (toUtf8 "\x7b\"pay\":1,\"to\":2\x7d".toList) :=
    ⟨by decide, trivial⟩
  obtain ⟨delivery, ran, forwards⟩ := (only_codes_protect_requests chainedPrimitives_chains
    spacedPlatform_readsBack (chained_ready []) chained_key).1 (by decide) (Or.inl rfl)
      chainedPrimitives.initial _ [.change amountMask] (by decide) within
  have changed : altered [.change amountMask] (toUtf8 "\x7b\"pay\":1,\"to\":2\x7d".toList) =
      toUtf8 "\x7b\"pay\":9,\"to\":2\x7d".toList := by
    decide +kernel
  exact ⟨delivery, ran, changed ▸ forwards.body⟩

end Requests

end ApiGateway.PayloadTampering
