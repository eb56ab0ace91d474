import Mathlib.Data.Set.Insert
import ApiGateway.PayloadRoundTrips

/-!
# The key size in an algorithm's name

The ciphers accept keys of three sizes, and the service hands them the decoded
key as it is, except for the algorithm that splits a long key in two. Which keys a
call uses shows in what it returns once a cipher refuses a key, or once the code
under a key is another one.
-/

namespace ApiGateway.CryptoService

open Encodings

section UsedKeys

/-- The platform when its ciphers refuse a key. -/
def Primitives.refusing (primitives : Primitives) (refusedKey : Bytes) : Primitives where
  rent := primitives.rent
  random := primitives.random
  cbcEncrypt := fun key iv plaintext =>
    if key = refusedKey then none else primitives.cbcEncrypt key iv plaintext
  cbcDecrypt := fun key iv ciphertext =>
    if key = refusedKey then none else primitives.cbcDecrypt key iv ciphertext
  gcmEncrypt := fun key nonce plaintext =>
    if key = refusedKey then none else primitives.gcmEncrypt key nonce plaintext
  gcmDecrypt := fun key nonce ciphertext tag =>
    if key = refusedKey then none else primitives.gcmDecrypt key nonce ciphertext tag
  hmacSha256 := primitives.hmacSha256

/-- The platform when the authentication code under one key is another one. -/
def Primitives.tagging (primitives : Primitives) (taggedKey : Bytes) (tag : Bytes → Bytes) :
    Primitives :=
  { primitives with
    hmacSha256 := fun key data => if key = taggedKey then tag data else primitives.hmacSha256 key data }

variable {α : Type}

/-- The keys a call encrypts or decrypts under. -/
def cipherKeys (call : Primitives → Except Fault α) (primitives : Primitives) : Set Bytes :=
  {key | call (primitives.refusing key) ≠ call primitives}

/-- The keys a call authenticates under. -/
def macKeys (call : Primitives → Except Fault α) (primitives : Primitives) : Set Bytes :=
  {key | ∃ tag : Bytes → Bytes, (∀ data, (tag data).length = hmacSize) ∧
    call (primitives.tagging key tag) ≠ call primitives}

/-- How many bytes the bits in an algorithm's name are. -/
def namedKeySize : CryptoAlgorithm → Nat
  | .NONE => 0
  | .AES_128_CBC => 16
  | .AES_256_GCM => 32
  | .AES_256_CBC_HMAC => 32

/-- One key of the named size encrypts, and where the algorithm authenticates the
next 32 bytes do. -/
structure StrongAsNamed (algorithm : CryptoAlgorithm) (keyBytes : Bytes)
    (call : Primitives → Except Fault α) (primitives : Primitives) : Prop where
  encrypts : ∃ key, cipherKeys call primitives = {key} ∧ key.length = namedKeySize algorithm
  authenticates : algorithm = .AES_256_CBC_HMAC → ∃ key macKey rest,
    keyBytes = key ++ macKey ++ rest ∧ cipherKeys call primitives = {key} ∧
      macKeys call primitives = {macKey} ∧ macKey.length = 32

/-- Every call that returns is as strong as the algorithm's name says. -/
structure NameIsStrength (primitives : Primitives) (algorithm : CryptoAlgorithm)
    (encoding : Encoding) (key : Text) : Prop where
  encrypt : ∀ plainData iv text, encrypt primitives plainData algorithm key iv encoding = .ok text →
    ∃ keyBytes, decodeKey key encoding = .ok keyBytes ∧ StrongAsNamed algorithm keyBytes
      (fun platform => encrypt platform plainData algorithm key iv encoding) primitives
  decrypt : ∀ encryptedData iv plainData,
    decrypt primitives encryptedData algorithm key iv encoding = .ok plainData →
      ∃ keyBytes, decodeKey key encoding = .ok keyBytes ∧ StrongAsNamed algorithm keyBytes
        (fun platform => decrypt platform encryptedData algorithm key iv encoding) primitives

end UsedKeys

section Agreement

/-- The part of the decoded key that the ciphers receive. -/
def cipherKey (algorithm : CryptoAlgorithm) (keyBytes : Bytes) : Bytes :=
  match algorithm with
  | .AES_256_CBC_HMAC => aesKey keyBytes
  | _ => keyBytes

/-- Two platforms agree under a key of the ciphers and a key of the authentication
code. -/
structure AgreeUnder (key macKey : Bytes) (platform other : Primitives) : Prop where
  rent : platform.rent = other.rent
  random : platform.random = other.random
  cbcEncrypt : platform.cbcEncrypt key = other.cbcEncrypt key
  cbcDecrypt : platform.cbcDecrypt key = other.cbcDecrypt key
  gcmEncrypt : platform.gcmEncrypt key = other.gcmEncrypt key
  gcmDecrypt : platform.gcmDecrypt key = other.gcmDecrypt key
  hmacSha256 : platform.hmacSha256 macKey = other.hmacSha256 macKey

theorem refusing_agrees (primitives : Primitives) {key refusedKey : Bytes} (macKey : Bytes)
    (different : key ≠ refusedKey) : AgreeUnder key macKey (primitives.refusing refusedKey) primitives where
  rent := rfl
  random := rfl
  cbcEncrypt := funext fun _ => funext fun _ => if_neg different
  cbcDecrypt := funext fun _ => funext fun _ => if_neg different
  gcmEncrypt := funext fun _ => funext fun _ => if_neg different
  gcmDecrypt := funext fun _ => funext fun _ => funext fun _ => if_neg different
  hmacSha256 := rfl

theorem tagging_agrees (primitives : Primitives) (key : Bytes) {macKey taggedKey : Bytes}
    (different : macKey ≠ taggedKey) (tag : Bytes → Bytes) :
    AgreeUnder key macKey (primitives.tagging taggedKey tag) primitives where
  rent := rfl
  random := rfl
  cbcEncrypt := rfl
  cbcDecrypt := rfl
  gcmEncrypt := rfl
  gcmDecrypt := rfl
  hmacSha256 := funext fun _ => if_neg different

variable {platform other : Primitives} {algorithm : CryptoAlgorithm} {keyBytes : Bytes}

/-- Encryption asks the platform only under the two parts of the key. -/
theorem encryptWith_agrees
    (agree : AgreeUnder (cipherKey algorithm keyBytes) (hmacKey keyBytes) platform other)
    (plaintext : Bytes) :
    encryptWith platform algorithm plaintext keyBytes =
      encryptWith other algorithm plaintext keyBytes := by
  cases algorithm with
  | NONE => rfl
  | AES_128_CBC =>
    have same : platform.cbcEncrypt keyBytes = other.cbcEncrypt keyBytes := agree.cbcEncrypt
    simp only [encryptWith, encryptAesCbc, agree.random, same]
  | AES_256_GCM =>
    have same : platform.gcmEncrypt keyBytes = other.gcmEncrypt keyBytes := agree.gcmEncrypt
    simp only [encryptWith, encryptAesGcm, agree.random, agree.rent, same]
  | AES_256_CBC_HMAC =>
    have same : platform.cbcEncrypt (aesKey keyBytes) = other.cbcEncrypt (aesKey keyBytes) :=
      agree.cbcEncrypt
    unfold encryptWith encryptAesCbcHmac
    by_cases long : 64 ≤ keyBytes.length
    · simp only [decide_eq_true long, require_true, ok_bind, (slice_keys long).1,
        (slice_keys long).2, agree.random, same, agree.hmacSha256]
    · simp only [decide_eq_false long, require_false, error_bind]

/-- So does decryption. -/
theorem decryptWith_agrees
    (agree : AgreeUnder (cipherKey algorithm keyBytes) (hmacKey keyBytes) platform other)
    (wire : Bytes) :
    decryptWith platform algorithm wire keyBytes = decryptWith other algorithm wire keyBytes := by
  cases algorithm with
  | NONE => rfl
  | AES_128_CBC =>
    have same : platform.cbcDecrypt keyBytes = other.cbcDecrypt keyBytes := agree.cbcDecrypt
    simp only [decryptWith, decryptAesCbc, same]
  | AES_256_GCM =>
    have same : platform.gcmDecrypt keyBytes = other.gcmDecrypt keyBytes := agree.gcmDecrypt
    simp only [decryptWith, decryptAesGcm, agree.rent, same]
  | AES_256_CBC_HMAC =>
    have same : platform.cbcDecrypt (aesKey keyBytes) = other.cbcDecrypt (aesKey keyBytes) :=
      agree.cbcDecrypt
    unfold decryptWith decryptAesCbcHmac
    by_cases long : 64 ≤ keyBytes.length
    · simp only [decide_eq_true long, require_true, ok_bind, (slice_keys long).1,
        (slice_keys long).2, same, agree.hmacSha256]
    · simp only [decide_eq_false long, require_false, error_bind]

end Agreement

section Refusal

variable {primitives : Primitives} {algorithm : CryptoAlgorithm} {keyBytes : Bytes}

theorem bind_eq_ok_iff {α β : Type} {outcome : Except Fault α} {following : α → Except Fault β}
    {result : β} :
    (outcome >>= following) = .ok result ↔ ∃ value, outcome = .ok value ∧ following value = .ok result := by
  cases outcome with
  | error fault => simp
  | ok value => simp

/-- Refusing the ciphers' key stops every encryption. -/
theorem encryptWith_refusing (plaintext wire : Bytes) :
    encryptWith (primitives.refusing (cipherKey algorithm keyBytes)) algorithm plaintext keyBytes ≠
      .ok wire := by
  intro returned
  cases algorithm with
  | NONE => cases returned
  | AES_128_CBC =>
    simp [encryptWith, encryptAesCbc, Primitives.refusing, cipherKey] at returned
  | AES_256_GCM =>
    simp [encryptWith, encryptAesGcm, Primitives.refusing, cipherKey] at returned
  | AES_256_CBC_HMAC =>
    rw [encryptWith, encryptAesCbcHmac] at returned
    by_cases long : 64 ≤ keyBytes.length
    · simp [long, slice_keys long, Primitives.refusing, cipherKey] at returned
    · simp [long] at returned

/-- And every decryption. -/
theorem decryptWith_refusing (wire plaintext : Bytes) :
    decryptWith (primitives.refusing (cipherKey algorithm keyBytes)) algorithm wire keyBytes ≠
      .ok plaintext := by
  intro returned
  cases algorithm with
  | NONE => cases returned
  | AES_128_CBC =>
    simp [decryptWith, decryptAesCbc, bind_eq_ok_iff, Primitives.refusing, cipherKey] at returned
  | AES_256_GCM =>
    simp [decryptWith, decryptAesGcm, bind_eq_ok_iff, Primitives.refusing, cipherKey] at returned
  | AES_256_CBC_HMAC =>
    obtain ⟨_, _, iv, cipher, tag, _, _, decrypted⟩ :=
      (decryptAesCbcHmac_iff wire keyBytes plaintext).mp returned
    simp [Primitives.refusing, cipherKey] at decrypted

/-- Another authentication code. -/
theorem exists_other_tag (mac : Bytes → Bytes) :
    ∃ tag : Bytes → Bytes, (∀ data, (tag data).length = hmacSize) ∧ ∀ data, tag data ≠ mac data := by
  refine ⟨fun data => List.replicate hmacSize (if (mac data).head? = some 0 then 1 else 0),
    fun data => List.length_replicate, ?_⟩
  intro data same
  have first := congrArg List.head? same
  by_cases zero : (mac data).head? = some 0
  · simp [zero, hmacSize] at first
  · simp [zero, hmacSize] at first
    exact zero first.symm

theorem tagging_lawful (lawful : primitives.Lawful) (taggedKey : Bytes) {tag : Bytes → Bytes}
    (sized : ∀ data, (tag data).length = hmacSize) : (primitives.tagging taggedKey tag).Lawful where
  rent_length := lawful.rent_length
  random_length := lawful.random_length
  cbc_key := lawful.cbc_key
  cbc_length := lawful.cbc_length
  cbc_inverse := lawful.cbc_inverse
  gcm_key := lawful.gcm_key
  gcm_length := lawful.gcm_length
  gcm_exact := lawful.gcm_exact
  hmac_length := fun key data => by
    by_cases tagged : key = taggedKey
    · exact (congrArg List.length (if_pos tagged)).trans (sized data)
    · exact (congrArg List.length (if_neg tagged)).trans (lawful.hmac_length key data)

/-- Another code under the authenticating key writes another wire. -/
theorem encryptWith_tagging (lawful : primitives.Lawful) {tag : Bytes → Bytes}
    (sized : ∀ data, (tag data).length = hmacSize)
    (other : ∀ data, tag data ≠ primitives.hmacSha256 (hmacKey keyBytes) data) {plaintext wire : Bytes}
    (returned : encryptWith primitives .AES_256_CBC_HMAC plaintext keyBytes = .ok wire) :
    encryptWith (primitives.tagging (hmacKey keyBytes) tag) .AES_256_CBC_HMAC plaintext keyBytes ≠
      .ok wire := by
  intro again
  have long : 64 ≤ keyBytes.length := by
    by_contra short
    exact @encryptWith_refuses primitives lawful .AES_256_CBC_HMAC keyBytes short plaintext wire returned
  rw [encryptWith, encryptAesCbcHmac_run lawful plaintext long, orThrow_eq_ok_iff,
    Option.map_eq_some_iff] at returned
  rw [encryptWith, encryptAesCbcHmac_run (tagging_lawful lawful _ sized) plaintext long,
    orThrow_eq_ok_iff, Option.map_eq_some_iff] at again
  obtain ⟨ciphertext, encrypted, rfl⟩ := returned
  obtain ⟨sameCiphertext, encryptedAgain, same⟩ := again
  obtain rfl : ciphertext = sameCiphertext := Option.some.inj (encrypted.symm.trans encryptedAgain)
  have sameCode : (primitives.tagging (hmacKey keyBytes) tag).hmacSha256 (hmacKey keyBytes)
      (primitives.random aesCbcIvSize ++ ciphertext) =
        primitives.hmacSha256 (hmacKey keyBytes) (primitives.random aesCbcIvSize ++ ciphertext) :=
    List.append_cancel_left same
  exact other _ ((if_pos rfl).symm.trans sameCode)

/-- And opens no wire that opened. -/
theorem decryptWith_tagging {tag : Bytes → Bytes}
    (other : ∀ data, tag data ≠ primitives.hmacSha256 (hmacKey keyBytes) data) {wire plaintext : Bytes}
    (returned : decryptWith primitives .AES_256_CBC_HMAC wire keyBytes = .ok plaintext) :
    decryptWith (primitives.tagging (hmacKey keyBytes) tag) .AES_256_CBC_HMAC wire keyBytes ≠
      .ok plaintext := by
  obtain ⟨long, _, iv, cipher, code, ⟨rfl, ivSized, codeSized⟩, written, _⟩ :=
    (decryptAesCbcHmac_iff wire keyBytes plaintext).mp returned
  have wrong : code ≠ (primitives.tagging (hmacKey keyBytes) tag).hmacSha256 (hmacKey keyBytes)
      (iv ++ cipher) := by
    intro same
    exact other (iv ++ cipher) ((if_pos rfl).symm.trans (same.symm.trans written))
  rw [decryptWith, decryptAesCbcHmac_frame ivSized codeSized cipher long, if_neg wrong]
  exact fun same => by cases same

end Refusal

section Calls

variable {primitives : Primitives} {algorithm : CryptoAlgorithm} {encoding : Encoding} {key : Text}
  {keyBytes : Bytes}

/-- When encryption returns. -/
theorem encrypt_eq_ok_iff (ciphers : algorithm ≠ .NONE) (plainData : Bytes) (iv : Option Text)
    (text : Text) :
    encrypt primitives plainData algorithm key iv encoding = .ok text ↔
      ∃ keyBytes, decodeKey key encoding = .ok keyBytes ∧ plainData.length ≤ maxPayloadSize ∧
        ∃ wire, encryptWith primitives algorithm plainData keyBytes = .ok wire ∧
          encodeData wire encoding = text := by
  rw [encrypt]
  rw [if_neg ciphers, bind_eq_ok_iff]
  refine exists_congr fun decodedKey => and_congr_right fun _ => ?_
  by_cases small : plainData.length ≤ maxPayloadSize
  · rw [decide_eq_true small, require_true, ok_bind, bind_eq_ok_iff, and_iff_right small]
    exact exists_congr fun wire => and_congr_right fun _ => ⟨Except.ok.inj, congrArg Except.ok⟩
  · simp [small]

/-- When decryption returns. -/
theorem decrypt_eq_ok_iff (ciphers : algorithm ≠ .NONE) (encryptedData : Text) (iv : Option Text)
    (plainData : Bytes) :
    decrypt primitives encryptedData algorithm key iv encoding = .ok plainData ↔
      ∃ keyBytes, decodeKey key encoding = .ok keyBytes ∧
        ∃ wire, decodeData encryptedData encoding = .ok wire ∧ wire.length ≤ maxPayloadSize ∧
          decryptWith primitives algorithm wire keyBytes = .ok plainData := by
  rw [decrypt]
  rw [if_neg ciphers, bind_eq_ok_iff]
  refine exists_congr fun decodedKey => and_congr_right fun _ => ?_
  rw [bind_eq_ok_iff]
  refine exists_congr fun wire => and_congr_right fun _ => ?_
  by_cases small : wire.length ≤ maxPayloadSize
  · rw [decide_eq_true small, require_true, ok_bind, and_iff_right small]
  · simp [small]

/-- The keys of a call are what it depends on the platform for. -/
theorem cipherKeys_eq {α : Type} {call : Primitives → Except Fault α}
    (agrees : ∀ platform,
      AgreeUnder (cipherKey algorithm keyBytes) (hmacKey keyBytes) platform primitives →
        call platform = call primitives)
    (stops : call (primitives.refusing (cipherKey algorithm keyBytes)) ≠ call primitives) :
    cipherKeys call primitives = {cipherKey algorithm keyBytes} := by
  ext used
  constructor
  · intro uses
    by_contra different
    exact uses (agrees _ (refusing_agrees primitives (hmacKey keyBytes) (Ne.symm different)))
  · rintro rfl
    exact stops

theorem macKeys_eq {α : Type} {call : Primitives → Except Fault α}
    (agrees : ∀ platform,
      AgreeUnder (cipherKey algorithm keyBytes) (hmacKey keyBytes) platform primitives →
        call platform = call primitives)
    (stops : ∀ tag : Bytes → Bytes, (∀ data, (tag data).length = hmacSize) →
      (∀ data, tag data ≠ primitives.hmacSha256 (hmacKey keyBytes) data) →
        call (primitives.tagging (hmacKey keyBytes) tag) ≠ call primitives) :
    macKeys call primitives = {hmacKey keyBytes} := by
  ext used
  constructor
  · rintro ⟨tag, _, uses⟩
    by_contra different
    exact uses (agrees _ (tagging_agrees primitives (cipherKey algorithm keyBytes) (Ne.symm different) tag))
  · rintro rfl
    obtain ⟨tag, sized, other⟩ := exists_other_tag (primitives.hmacSha256 (hmacKey keyBytes))
    exact ⟨tag, sized, stops tag sized other⟩

/-- The keys that an encryption which returned used. -/
theorem encrypt_keys (lawful : primitives.Lawful) (ciphers : algorithm ≠ .NONE)
    (decoded : decodeKey key encoding = .ok keyBytes) {plainData : Bytes} {iv : Option Text} {text : Text}
    (returned : encrypt primitives plainData algorithm key iv encoding = .ok text) :
    cipherKeys (fun platform => encrypt platform plainData algorithm key iv encoding) primitives =
        {cipherKey algorithm keyBytes} ∧
      (algorithm = .AES_256_CBC_HMAC →
        macKeys (fun platform => encrypt platform plainData algorithm key iv encoding) primitives =
          {hmacKey keyBytes}) := by
  have agrees : ∀ platform,
      AgreeUnder (cipherKey algorithm keyBytes) (hmacKey keyBytes) platform primitives →
        encrypt platform plainData algorithm key iv encoding =
          encrypt primitives plainData algorithm key iv encoding := by
    intro platform agree
    simp only [encrypt, decoded, ok_bind, encryptWith_agrees agree]
  have sameWire : ∀ platform, encrypt platform plainData algorithm key iv encoding =
      encrypt primitives plainData algorithm key iv encoding →
        ∃ wire, encryptWith platform algorithm plainData keyBytes = .ok wire ∧
          encryptWith primitives algorithm plainData keyBytes = .ok wire := by
    intro platform same
    obtain ⟨_, alsoDecoded, _, wire, wrote, encoded⟩ :=
      (encrypt_eq_ok_iff ciphers plainData iv text).mp returned
    obtain ⟨_, decodedAgain, _, wireAgain, wroteAgain, encodedAgain⟩ :=
      (encrypt_eq_ok_iff ciphers plainData iv text).mp (same.trans returned)
    obtain rfl := Except.ok.inj (alsoDecoded.symm.trans decoded)
    obtain rfl := Except.ok.inj (decodedAgain.symm.trans decoded)
    have read := congrArg (fun text => decodeData text encoding) (encoded.trans encodedAgain.symm)
    simp only [decodeData_encodeData, Except.ok.injEq] at read
    exact ⟨wireAgain, wroteAgain, read ▸ wrote⟩
  refine ⟨cipherKeys_eq agrees ?_, ?_⟩
  · intro same
    obtain ⟨wire, wrote, _⟩ := sameWire _ same
    exact encryptWith_refusing plainData wire wrote
  · rintro rfl
    apply macKeys_eq agrees
    intro tag sized other same
    obtain ⟨wire, wroteAgain, wrote⟩ := sameWire _ same
    exact encryptWith_tagging lawful sized other wrote wroteAgain

/-- The keys that a decryption which returned used. -/
theorem decrypt_keys (ciphers : algorithm ≠ .NONE) (decoded : decodeKey key encoding = .ok keyBytes)
    {encryptedData : Text} {iv : Option Text} {plainData : Bytes}
    (returned : decrypt primitives encryptedData algorithm key iv encoding = .ok plainData) :
    cipherKeys (fun platform => decrypt platform encryptedData algorithm key iv encoding) primitives =
        {cipherKey algorithm keyBytes} ∧
      (algorithm = .AES_256_CBC_HMAC →
        macKeys (fun platform => decrypt platform encryptedData algorithm key iv encoding) primitives =
          {hmacKey keyBytes}) := by
  have agrees : ∀ platform,
      AgreeUnder (cipherKey algorithm keyBytes) (hmacKey keyBytes) platform primitives →
        decrypt platform encryptedData algorithm key iv encoding =
          decrypt primitives encryptedData algorithm key iv encoding := by
    intro platform agree
    simp only [decrypt, decoded, ok_bind, decryptWith_agrees agree]
  have sameWire : ∀ platform, decrypt platform encryptedData algorithm key iv encoding =
      decrypt primitives encryptedData algorithm key iv encoding →
        ∃ wire, decryptWith platform algorithm wire keyBytes = .ok plainData ∧
          decryptWith primitives algorithm wire keyBytes = .ok plainData := by
    intro platform same
    obtain ⟨_, alsoDecoded, wire, read, _, opened⟩ :=
      (decrypt_eq_ok_iff ciphers encryptedData iv plainData).mp returned
    obtain ⟨_, decodedAgain, wireAgain, readAgain, _, openedAgain⟩ :=
      (decrypt_eq_ok_iff ciphers encryptedData iv plainData).mp (same.trans returned)
    obtain rfl := Except.ok.inj (alsoDecoded.symm.trans decoded)
    obtain rfl := Except.ok.inj (decodedAgain.symm.trans decoded)
    obtain rfl := Except.ok.inj (readAgain.symm.trans read)
    exact ⟨wireAgain, openedAgain, opened⟩
  refine ⟨cipherKeys_eq agrees ?_, ?_⟩
  · intro same
    obtain ⟨wire, opened, _⟩ := sameWire _ same
    exact decryptWith_refusing wire plainData opened
  · rintro rfl
    apply macKeys_eq agrees
    intro tag sized other same
    obtain ⟨wire, openedAgain, opened⟩ := sameWire _ same
    exact decryptWith_tagging other opened openedAgain

end Calls

section Strength

variable {primitives : Primitives} {algorithm : CryptoAlgorithm} {keyBytes : Bytes}

/-- Decryption too refuses a key that is none of the three sizes. -/
def Primitives.ChecksKeys (primitives : Primitives) : Prop :=
  ∀ key iv ciphertext plaintext, primitives.cbcDecrypt key iv ciphertext = some plaintext → LegalKey key

/-- Decryption returns under accepted keys only. -/
theorem decryptWith_accepts (lawful : primitives.Lawful) (checks : primitives.ChecksKeys)
    (ciphers : algorithm ≠ .NONE) {wire plaintext : Bytes}
    (returned : decryptWith primitives algorithm wire keyBytes = .ok plaintext) :
    AcceptsKey algorithm keyBytes := by
  cases algorithm with
  | NONE => exact absurd rfl ciphers
  | AES_128_CBC =>
    obtain ⟨_, iv, cipher, _, decrypted⟩ := (decryptAesCbc_iff wire keyBytes plaintext).mp returned
    exact checks _ _ _ _ decrypted
  | AES_256_GCM =>
    obtain ⟨_, nonce, cipher, tag, ⟨_, nonceSized, _⟩, opened⟩ :=
      (decryptAesGcm_iff lawful wire keyBytes plaintext).mp returned
    have sealed := (lawful.gcm_exact _ _ _ _ _).mp opened
    exact (lawful.gcm_key keyBytes nonce plaintext nonceSized).mp (Option.isSome_of_eq_some sealed)
  | AES_256_CBC_HMAC => exact ((decryptAesCbcHmac_iff wire keyBytes plaintext).mp returned).1

theorem encryptWith_accepts (lawful : primitives.Lawful) {plaintext wire : Bytes}
    (returned : encryptWith primitives algorithm plaintext keyBytes = .ok wire) :
    AcceptsKey algorithm keyBytes := by
  by_contra refuses
  exact encryptWith_refuses lawful refuses plaintext wire returned

/-- A key of the named size, or one that is split, is as strong as the name says. -/
theorem strong_of_keys {α : Type} {call : Primitives → Except Fault α}
    (accepts : AcceptsKey algorithm keyBytes)
    (named : algorithm = .AES_256_CBC_HMAC ∨ keyBytes.length = namedKeySize algorithm)
    (keys : cipherKeys call primitives = {cipherKey algorithm keyBytes} ∧
      (algorithm = .AES_256_CBC_HMAC → macKeys call primitives = {hmacKey keyBytes})) :
    StrongAsNamed algorithm keyBytes call primitives := by
  by_cases split : algorithm = .AES_256_CBC_HMAC
  · subst split
    have long : 64 ≤ keyBytes.length := accepts
    have keySized : (aesKey keyBytes).length = 32 := by
      rw [aesKey, List.length_take]
      omega
    have macSized : (hmacKey keyBytes).length = 32 := by
      rw [hmacKey, List.length_take, List.length_drop]
      omega
    refine ⟨⟨aesKey keyBytes, keys.1, keySized⟩, fun _ =>
      ⟨aesKey keyBytes, hmacKey keyBytes, (keyBytes.drop 32).drop 32, ?_, keys.1, keys.2 rfl, macSized⟩⟩
    rw [aesKey, hmacKey, List.append_assoc, List.take_append_drop, List.take_append_drop]
  · have whole : cipherKey algorithm keyBytes = keyBytes := by
      cases algorithm with
      | AES_256_CBC_HMAC => exact absurd rfl split
      | _ => rfl
    refine ⟨⟨keyBytes, keys.1.trans (congrArg _ whole), ?_⟩, fun same => absurd same split⟩
    exact named.resolve_left split

/-- The algorithm splits its key, or the key does not decode to one that the ciphers
accept in another size than the name says. -/
def SizedAsNamed (algorithm : CryptoAlgorithm) (encoding : Encoding) (key : Text) : Prop :=
  algorithm = .AES_256_CBC_HMAC ∨ ∀ keyBytes, decodeKey key encoding = .ok keyBytes →
    LegalKey keyBytes → keyBytes.length = namedKeySize algorithm

/-- Calls under a key are as strong as the name says exactly when the key has the
named size. -/
theorem name_is_strength_iff (lawful : primitives.Lawful) (checks : primitives.ChecksKeys)
    (ciphers : algorithm ≠ .NONE) (encoding : Encoding) (key : Text) :
    NameIsStrength primitives algorithm encoding key ↔ SizedAsNamed algorithm encoding key := by
  have legal : ∀ {keyBytes}, algorithm ≠ .AES_256_CBC_HMAC →
      (AcceptsKey algorithm keyBytes ↔ LegalKey keyBytes) := by
    intro keyBytes whole
    cases algorithm with
    | NONE => exact absurd rfl ciphers
    | AES_256_CBC_HMAC => exact absurd rfl whole
    | _ => exact Iff.rfl
  constructor
  · intro strength
    refine or_iff_not_imp_left.mpr fun whole keyBytes decoded accepted => ?_
    obtain ⟨wire, wrote, _⟩ := encryptWith_accepted lawful ciphers ((legal whole).mpr accepted) []
    have returned : encrypt primitives [] algorithm key none encoding = .ok (encodeData wire encoding) :=
      (encrypt_eq_ok_iff ciphers [] none _).mpr
        ⟨keyBytes, decoded, Nat.zero_le _, wire, wrote, rfl⟩
    obtain ⟨_, _, ⟨used, usedKeys, sized⟩, _⟩ := strength.encrypt [] none _ returned
    have same := (encrypt_keys lawful ciphers decoded returned).1.symm.trans usedKeys
    rw [Set.singleton_eq_singleton_iff] at same
    cases algorithm with
    | AES_256_CBC_HMAC => exact absurd rfl whole
    | _ => exact (congrArg List.length same).trans sized
  · intro sized
    have named : ∀ keyBytes, decodeKey key encoding = .ok keyBytes →
        AcceptsKey algorithm keyBytes →
          algorithm = .AES_256_CBC_HMAC ∨ keyBytes.length = namedKeySize algorithm := by
      intro keyBytes decoded accepts
      refine or_iff_not_imp_left.mpr fun whole => ?_
      exact sized.resolve_left whole keyBytes decoded ((legal whole).mp accepts)
    constructor
    · intro plainData iv text returned
      obtain ⟨keyBytes, decoded, _, wire, wrote, _⟩ :=
        (encrypt_eq_ok_iff ciphers plainData iv text).mp returned
      have accepts := encryptWith_accepts lawful wrote
      exact ⟨keyBytes, decoded, strong_of_keys accepts (named keyBytes decoded accepts)
        (encrypt_keys lawful ciphers decoded returned)⟩
    · intro encryptedData iv plainData returned
      obtain ⟨keyBytes, decoded, wire, _, _, opened⟩ :=
        (decrypt_eq_ok_iff ciphers encryptedData iv plainData).mp returned
      have accepts := decryptWith_accepts lawful checks ciphers opened
      exact ⟨keyBytes, decoded, strong_of_keys accepts (named keyBytes decoded accepts)
        (decrypt_keys ciphers decoded returned)⟩

end Strength

/-- The sample ciphers with a check of the key that decrypts. -/
def checkingPrimitives : Primitives :=
  { samplePrimitives with
    cbcDecrypt := fun key _ ciphertext => if LegalKey key then unpadded ciphertext else none }

theorem checkingPrimitives_lawful : checkingPrimitives.Lawful where
  rent_length := samplePrimitives_lawful.rent_length
  random_length := samplePrimitives_lawful.random_length
  cbc_key := samplePrimitives_lawful.cbc_key
  cbc_length := samplePrimitives_lawful.cbc_length
  cbc_inverse := fun key iv plaintext ciphertext encrypted => by
    have legal : LegalKey key := by
      by_contra illegal
      simp [checkingPrimitives, samplePrimitives, illegal] at encrypted
    exact (if_pos legal).trans (samplePrimitives_lawful.cbc_inverse key iv plaintext ciphertext encrypted)
  gcm_key := samplePrimitives_lawful.gcm_key
  gcm_length := samplePrimitives_lawful.gcm_length
  gcm_exact := samplePrimitives_lawful.gcm_exact
  hmac_length := samplePrimitives_lawful.hmac_length

theorem checkingPrimitives_checks : checkingPrimitives.ChecksKeys := by
  intro key iv ciphertext plaintext decrypted
  by_contra illegal
  simp [checkingPrimitives, illegal] at decrypted

theorem name_is_strength_iff_zeroKey :
    NameIsStrength checkingPrimitives .AES_256_GCM .Hex zeroKey ↔
      SizedAsNamed .AES_256_GCM .Hex zeroKey :=
  name_is_strength_iff checkingPrimitives_lawful checkingPrimitives_checks (by decide) .Hex zeroKey

/-- The key that the seed data gives a profile, 16 bytes long. -/
def seedKey : Text := "ekFMN1g1QVZSbThsNElmcw==".toList

/-- Under it AES-256-GCM encrypts with 128 bits. -/
theorem seedKey_halves_strength :
    (∃ text keyBytes, encrypt checkingPrimitives [] .AES_256_GCM seedKey none .Base64 = .ok text ∧
      cipherKeys (fun platform => encrypt platform [] .AES_256_GCM seedKey none .Base64)
        checkingPrimitives = {keyBytes} ∧ keyBytes.length = 16) ∧
    ¬ NameIsStrength checkingPrimitives .AES_256_GCM .Base64 seedKey := by
  obtain ⟨keyBytes, decoded, sized⟩ : ∃ keyBytes, decodeKey seedKey .Base64 = .ok keyBytes ∧
      keyBytes.length = 16 := by
    refine ⟨[122, 65, 76, 55, 88, 53, 65, 86, 82, 109, 56, 108, 52, 73, 102, 115], ?_, rfl⟩
    decide
  obtain ⟨wire, wrote, _⟩ := encryptWith_accepted checkingPrimitives_lawful
    (by decide : CryptoAlgorithm.AES_256_GCM ≠ .NONE) (Or.inl sized : AcceptsKey .AES_256_GCM keyBytes) []
  have returned : encrypt checkingPrimitives [] .AES_256_GCM seedKey none .Base64 =
      .ok (encodeData wire .Base64) :=
    (encrypt_eq_ok_iff (by decide) [] none _).mpr
      ⟨keyBytes, decoded, Nat.zero_le _, wire, wrote, rfl⟩
  have keys := (encrypt_keys checkingPrimitives_lawful (by decide) decoded returned).1
  refine ⟨⟨_, keyBytes, returned, keys, sized⟩, fun strength => ?_⟩
  obtain ⟨_, _, ⟨used, usedKeys, usedSized⟩, _⟩ := strength.encrypt [] none _ returned
  have same : keyBytes = used := Set.singleton_eq_singleton_iff.mp (keys.symm.trans usedKeys)
  have both : (16 : Nat) = 32 := sized.symm.trans ((congrArg List.length same).trans usedSized)
  exact absurd both (by decide)

end ApiGateway.CryptoService
