import ApiGateway.CryptoService

/-!
# Wire formats are read as they are written

Each encryption writes a frame: a front of fixed length, the ciphertext, and for
two of the three algorithms a back of fixed length. Each decryption takes the
same frame apart, and rejects what is too short to be one. So every range taken
and every copy made is inside its array, a decryption returns a plaintext exactly
for the frames of ciphertexts that open, and it opens what encryption wrote.
-/

namespace ApiGateway.CryptoService

open Encodings

section Faults

variable {α : Type}

@[simp] theorem orThrow_some (fault : Fault) (value : α) : orThrow fault (some value) = .ok value := rfl

@[simp] theorem orThrow_none (fault : Fault) : (orThrow fault none : Except Fault α) = .error fault :=
  rfl

theorem orThrow_eq_ok_iff {fault : Fault} {outcome : Option α} {value : α} :
    orThrow fault outcome = .ok value ↔ outcome = some value := by
  cases outcome <;> simp

@[simp] theorem require_true (fault : Fault) : require true fault = .ok () := rfl

@[simp] theorem require_false (fault : Fault) : require false fault = .error fault := rfl

@[simp] theorem ok_bind {β : Type} (value : α) (following : α → Except Fault β) :
    (Except.ok value >>= following) = following value := rfl

@[simp] theorem error_bind {β : Type} (fault : Fault) (following : α → Except Fault β) :
    (Except.error fault >>= following) = .error fault := rfl

theorem slice_front {front : Bytes} {size : Nat} (sized : front.length = size) (rest : Bytes) :
    slice (front ++ rest) 0 size = .ok front := by
  rw [slice, ← sized, Buffers.range_front, orThrow_some]

theorem slice_back (front : Bytes) {back : Bytes} {size : Nat} (sized : back.length = size) :
    slice (front ++ back) ((front ++ back).length - size) (front ++ back).length = .ok back := by
  rw [slice, ← sized, Buffers.range_back, orThrow_some]

theorem slice_middle {front back : Bytes} {before after : Nat} (frontSized : front.length = before)
    (backSized : back.length = after) (middle : Bytes) :
    slice (front ++ middle ++ back) before ((front ++ middle ++ back).length - after) =
      .ok middle := by
  rw [slice, ← frontSized, ← backSized, Buffers.range_middle, orThrow_some]

/-- What follows the front is a back that begins where the front ends. -/
theorem slice_rest {front : Bytes} {size : Nat} (sized : front.length = size) (rest : Bytes) :
    slice (front ++ rest) size (front ++ rest).length = .ok rest := by
  have back := slice_back front (rfl : rest.length = rest.length)
  have start : (front ++ rest).length - rest.length = size := by
    rw [List.length_append, Nat.add_sub_cancel, sized]
  rwa [start] at back

theorem arrayCopy_span {piece buffer : Bytes} {size : Nat} (sized : piece.length = size)
    (room : size ≤ buffer.length) :
    arrayCopy piece 0 buffer 0 size = .ok (piece ++ buffer.drop size) := by
  rw [arrayCopy, ← sized, Buffers.copy_span (sized ▸ room), orThrow_some]

theorem arrayCopy_first {former : Bytes} {size : Nat} (sized : former.length = size) (room : Nat) :
    arrayCopy former 0 (newBytes (size + room)) 0 size = .ok (former ++ newBytes room) := by
  have copied := @Buffers.copy_first _ (0 : UInt8) former [] room
  rw [List.append_nil] at copied
  rw [arrayCopy, newBytes, ← sized, copied, orThrow_some, newBytes]

theorem arrayCopy_next {former latter : Bytes} {start size : Nat} (begun : former.length = start)
    (sized : latter.length = size) (junk : Bytes) (room : Nat) :
    arrayCopy (latter ++ junk) 0 (former ++ newBytes (size + room)) start size =
      .ok (former ++ latter ++ newBytes room) := by
  rw [arrayCopy, newBytes, ← begun, ← sized, Buffers.copy_next, orThrow_some, newBytes]

theorem arrayCopy_last {former latter : Bytes} {start size : Nat} (begun : former.length = start)
    (sized : latter.length = size) (junk : Bytes) :
    arrayCopy (latter ++ junk) 0 (former ++ newBytes size) start size = .ok (former ++ latter) := by
  simpa [newBytes] using arrayCopy_next begun sized junk 0

end Faults

variable {primitives : Primitives}

section Frames

theorem encryptAesGcm_run (lawful : primitives.Lawful) (plaintext key : Bytes) :
    encryptAesGcm primitives plaintext key =
      orThrow refused ((primitives.gcmEncrypt key (primitives.random aesGcmNonceSize) plaintext).map
        (fun sealed => primitives.random aesGcmNonceSize ++ sealed.1 ++ sealed.2)) := by
  have nonceSized := lawful.random_length aesGcmNonceSize
  unfold encryptAesGcm
  dsimp only
  cases sealing : primitives.gcmEncrypt key (primitives.random aesGcmNonceSize) plaintext with
  | none => rfl
  | some sealed =>
    obtain ⟨ciphertext, tag⟩ := sealed
    obtain ⟨cipherSized, tagLength⟩ := lawful.gcm_length _ _ _ _ _ sealing
    have tagSized : tag.length = aesGcmTagSize := tagLength
    dsimp only [orThrow_some, Option.map_some, ok_bind]
    rw [arrayCopy_span cipherSized (lawful.rent_length _), ok_bind,
      arrayCopy_span tagSized (lawful.rent_length _), ok_bind, nonceSized, Nat.add_assoc,
      arrayCopy_first nonceSized, ok_bind, arrayCopy_next nonceSized cipherSized, ok_bind,
      arrayCopy_last (by rw [List.length_append, nonceSized, cipherSized]) tagSized]

theorem encryptAesCbc_run (lawful : primitives.Lawful) (plaintext key : Bytes) :
    encryptAesCbc primitives plaintext key =
      orThrow refused ((primitives.cbcEncrypt key (primitives.random aesCbcIvSize) plaintext).map
        (fun ciphertext => primitives.random aesCbcIvSize ++ ciphertext)) := by
  have ivSized := lawful.random_length aesCbcIvSize
  unfold encryptAesCbc
  dsimp only
  cases primitives.cbcEncrypt key (primitives.random aesCbcIvSize) plaintext with
  | none => rfl
  | some ciphertext =>
    have copied := arrayCopy_last ivSized (rfl : ciphertext.length = ciphertext.length) []
    rw [List.append_nil] at copied
    dsimp only [orThrow_some, Option.map_some, ok_bind]
    rw [ivSized, arrayCopy_first ivSized, ok_bind, copied]

/-- The part of a long key that encrypts. -/
def aesKey (key : Bytes) : Bytes := key.take 32

/-- The part of a long key that authenticates. -/
def hmacKey (key : Bytes) : Bytes := (key.drop 32).take 32

theorem slice_keys {key : Bytes} (long : 64 ≤ key.length) :
    slice key 0 32 = .ok (aesKey key) ∧ slice key 32 64 = .ok (hmacKey key) := by
  have former : (0 : Nat) ≤ 32 ∧ 32 ≤ key.length := by omega
  have latter : 32 ≤ 64 ∧ 64 ≤ key.length := ⟨by decide, long⟩
  constructor
  · rw [slice, Buffers.range, if_pos former]
    rfl
  · rw [slice, Buffers.range, if_pos latter, List.drop_take]
    rfl

theorem encryptAesCbcHmac_run (lawful : primitives.Lawful) (plaintext : Bytes) {key : Bytes}
    (long : 64 ≤ key.length) :
    encryptAesCbcHmac primitives plaintext key =
      orThrow refused ((primitives.cbcEncrypt (aesKey key) (primitives.random aesCbcIvSize)
        plaintext).map (fun ciphertext => primitives.random aesCbcIvSize ++ ciphertext ++
          primitives.hmacSha256 (hmacKey key) (primitives.random aesCbcIvSize ++ ciphertext))) := by
  have ivSized := lawful.random_length aesCbcIvSize
  unfold encryptAesCbcHmac
  rw [decide_eq_true long, require_true, ok_bind, (slice_keys long).1, ok_bind, (slice_keys long).2,
    ok_bind]
  dsimp only
  cases primitives.cbcEncrypt (aesKey key) (primitives.random aesCbcIvSize) plaintext with
  | none => rfl
  | some ciphertext =>
    have tagSized : (primitives.hmacSha256 (hmacKey key)
        (primitives.random aesCbcIvSize ++ ciphertext)).length = hmacSize := lawful.hmac_length _ _
    have copied := arrayCopy_next ivSized (rfl : ciphertext.length = ciphertext.length) [] hmacSize
    have last := arrayCopy_last (by rw [List.length_append, ivSized] :
      (primitives.random aesCbcIvSize ++ ciphertext).length = aesCbcIvSize + ciphertext.length)
        tagSized []
    rw [List.append_nil] at copied last
    dsimp only [orThrow_some, Option.map_some, ok_bind]
    rw [ivSized, Nat.add_assoc, arrayCopy_first ivSized, ok_bind, copied, ok_bind, last]

/-- A frame is opened with its own parts. -/
theorem decryptAesGcm_frame (lawful : primitives.Lawful) {nonce tag : Bytes}
    (nonceSized : nonce.length = aesGcmNonceSize) (tagSized : tag.length = aesGcmTagSize)
    (cipher key : Bytes) :
    decryptAesGcm primitives (nonce ++ cipher ++ tag) key =
      orThrow refused (primitives.gcmDecrypt key nonce cipher tag) := by
  have long : aesGcmNonceSize + aesGcmTagSize ≤ (nonce ++ cipher ++ tag).length := by
    simp only [List.length_append, nonceSized, tagSized]
    omega
  have front := slice_front nonceSized (cipher ++ tag)
  rw [← List.append_assoc] at front
  unfold decryptAesGcm
  rw [decide_eq_true long, require_true, ok_bind, front, ok_bind]
  dsimp only
  rw [slice_back (nonce ++ cipher) tagSized, ok_bind, slice_middle nonceSized tagSized, ok_bind]
  cases opening : primitives.gcmDecrypt key nonce cipher tag with
  | none => rfl
  | some plaintext =>
    have sized : plaintext.length = cipher.length :=
      (lawful.gcm_length _ _ _ _ _ ((lawful.gcm_exact _ _ _ _ _).mp opening)).1.symm
    have copied := @arrayCopy_last [] _ _ _ rfl sized
      ((primitives.rent cipher.length).drop cipher.length)
    rw [orThrow_some, ok_bind, arrayCopy_span sized (lawful.rent_length _), ok_bind]
    simpa using copied

theorem decryptAesCbc_frame {iv : Bytes} (ivSized : iv.length = aesCbcIvSize) (cipher key : Bytes) :
    decryptAesCbc primitives (iv ++ cipher) key =
      orThrow refused (primitives.cbcDecrypt key iv cipher) := by
  have long : aesCbcIvSize ≤ (iv ++ cipher).length := by
    rw [List.length_append, ivSized]
    exact Nat.le_add_right _ _
  unfold decryptAesCbc
  rw [decide_eq_true long, require_true, ok_bind, slice_front ivSized, ok_bind, slice_rest ivSized,
    ok_bind]

theorem decryptAesCbcHmac_frame {iv tag : Bytes} (ivSized : iv.length = aesCbcIvSize)
    (tagSized : tag.length = hmacSize) (cipher : Bytes) {key : Bytes} (long : 64 ≤ key.length) :
    decryptAesCbcHmac primitives (iv ++ cipher ++ tag) key =
      if tag = primitives.hmacSha256 (hmacKey key) (iv ++ cipher) then
        orThrow refused (primitives.cbcDecrypt (aesKey key) iv cipher)
      else .error ⟨"HMAC verification failed".toList⟩ := by
  have whole : aesCbcIvSize + hmacSize ≤ (iv ++ cipher ++ tag).length := by
    simp only [List.length_append, ivSized, tagSized]
    omega
  have front := slice_front ivSized (cipher ++ tag)
  rw [← List.append_assoc] at front
  unfold decryptAesCbcHmac
  rw [decide_eq_true long, require_true, ok_bind, decide_eq_true whole, require_true, ok_bind,
    (slice_keys long).1, ok_bind, (slice_keys long).2, ok_bind, front, ok_bind]
  dsimp only
  rw [slice_back (iv ++ cipher) tagSized, ok_bind, slice_middle ivSized tagSized, ok_bind]
  by_cases same : tag = primitives.hmacSha256 (hmacKey key) (iv ++ cipher)
  · rw [if_pos same, beq_iff_eq.mpr same, require_true, ok_bind]
  · rw [if_neg same, beq_eq_false_iff_ne.mpr same, require_false, error_bind]

end Frames

section Exactness

/-- A wire is a front, a body and a back, the first and the last of given lengths. -/
def Framed (before after : Nat) (wire front body back : Bytes) : Prop :=
  wire = front ++ body ++ back ∧ front.length = before ∧ back.length = after

theorem decryptAesGcm_cases (lawful : primitives.Lawful) (wire key : Bytes) :
    (wire.length < 28 ∧ decryptAesGcm primitives wire key =
        .error ⟨"Ciphertext too short for AES-GCM".toList⟩) ∨
      ∃ nonce cipher tag, Framed 12 16 wire nonce cipher tag ∧
        decryptAesGcm primitives wire key =
          orThrow refused (primitives.gcmDecrypt key nonce cipher tag) := by
  by_cases whole : aesGcmNonceSize + aesGcmTagSize ≤ wire.length
  · obtain ⟨nonce, cipher, tag, rfl, nonceSized, tagSized⟩ := Buffers.exists_framed whole
    exact Or.inr ⟨nonce, cipher, tag, ⟨rfl, nonceSized, tagSized⟩,
      decryptAesGcm_frame lawful nonceSized tagSized cipher key⟩
  · refine Or.inl ⟨Nat.lt_of_not_le whole, ?_⟩
    unfold decryptAesGcm
    rw [decide_eq_false whole, require_false, error_bind]

theorem decryptAesCbc_cases (wire key : Bytes) :
    (wire.length < 16 ∧ decryptAesCbc primitives wire key =
        .error ⟨"Ciphertext too short for AES-CBC".toList⟩) ∨
      ∃ iv cipher, Framed 16 0 wire iv cipher [] ∧
        decryptAesCbc primitives wire key = orThrow refused (primitives.cbcDecrypt key iv cipher) := by
  by_cases whole : aesCbcIvSize ≤ wire.length
  · obtain ⟨iv, cipher, back, rfl, ivSized, none⟩ := @Buffers.exists_framed _ _ 0 _ whole
    obtain rfl := List.length_eq_zero_iff.mp none
    refine Or.inr ⟨iv, cipher, ⟨rfl, ivSized, rfl⟩, ?_⟩
    rw [List.append_nil, decryptAesCbc_frame ivSized]
  · refine Or.inl ⟨Nat.lt_of_not_le whole, ?_⟩
    unfold decryptAesCbc
    rw [decide_eq_false whole, require_false, error_bind]

/-- A short key is refused before anything is read. -/
theorem decryptAesCbcHmac_shortKey {key : Bytes} (short : key.length < 64) (wire : Bytes) :
    decryptAesCbcHmac primitives wire key =
      .error ⟨"Key must be at least 64 bytes for AES-256-CBC-HMAC".toList⟩ := by
  unfold decryptAesCbcHmac
  rw [decide_eq_false (Nat.not_le_of_lt short), require_false, error_bind]

theorem decryptAesCbcHmac_cases {key : Bytes} (long : 64 ≤ key.length) (wire : Bytes) :
    (wire.length < 48 ∧ decryptAesCbcHmac primitives wire key =
        .error ⟨"Ciphertext too short for AES-256-CBC-HMAC".toList⟩) ∨
      ∃ iv cipher tag, Framed 16 32 wire iv cipher tag ∧
        decryptAesCbcHmac primitives wire key =
          if tag = primitives.hmacSha256 (hmacKey key) (iv ++ cipher) then
            orThrow refused (primitives.cbcDecrypt (aesKey key) iv cipher)
          else .error ⟨"HMAC verification failed".toList⟩ := by
  by_cases whole : aesCbcIvSize + hmacSize ≤ wire.length
  · obtain ⟨iv, cipher, tag, rfl, ivSized, tagSized⟩ := Buffers.exists_framed whole
    exact Or.inr ⟨iv, cipher, tag, ⟨rfl, ivSized, tagSized⟩,
      decryptAesCbcHmac_frame ivSized tagSized cipher long⟩
  · refine Or.inl ⟨Nat.lt_of_not_le whole, ?_⟩
    unfold decryptAesCbcHmac
    rw [decide_eq_true long, require_true, ok_bind, decide_eq_false whole, require_false, error_bind]

/-- The wire opens under a tag: it is long enough and a frame of what the cipher
opens. -/
theorem decryptAesGcm_iff (lawful : primitives.Lawful) (wire key plaintext : Bytes) :
    decryptAesGcm primitives wire key = .ok plaintext ↔
      28 ≤ wire.length ∧ ∃ nonce cipher tag, Framed 12 16 wire nonce cipher tag ∧
        primitives.gcmDecrypt key nonce cipher tag = some plaintext := by
  constructor
  · intro returned
    rcases decryptAesGcm_cases lawful wire key with ⟨_, threw⟩ | ⟨nonce, cipher, tag, framed, opens⟩
    · cases threw.symm.trans returned
    · refine ⟨?_, nonce, cipher, tag, framed, orThrow_eq_ok_iff.mp (opens.symm.trans returned)⟩
      obtain ⟨rfl, nonceSized, tagSized⟩ := framed
      simp only [List.length_append]
      omega
  · rintro ⟨_, nonce, cipher, tag, ⟨rfl, nonceSized, tagSized⟩, opened⟩
    rw [decryptAesGcm_frame lawful nonceSized tagSized, opened, orThrow_some]

theorem decryptAesCbc_iff (wire key plaintext : Bytes) :
    decryptAesCbc primitives wire key = .ok plaintext ↔
      16 ≤ wire.length ∧ ∃ iv cipher, Framed 16 0 wire iv cipher [] ∧
        primitives.cbcDecrypt key iv cipher = some plaintext := by
  constructor
  · intro returned
    rcases decryptAesCbc_cases wire key with ⟨_, threw⟩ | ⟨iv, cipher, framed, decrypts⟩
    · cases threw.symm.trans returned
    · refine ⟨?_, iv, cipher, framed, orThrow_eq_ok_iff.mp (decrypts.symm.trans returned)⟩
      obtain ⟨rfl, ivSized, _⟩ := framed
      simp only [List.length_append]
      omega
  · rintro ⟨_, iv, cipher, ⟨rfl, ivSized, _⟩, decrypted⟩
    rw [List.append_nil, decryptAesCbc_frame ivSized, decrypted, orThrow_some]

/-- The tag is that of everything before it. -/
theorem decryptAesCbcHmac_iff (wire key plaintext : Bytes) :
    decryptAesCbcHmac primitives wire key = .ok plaintext ↔
      64 ≤ key.length ∧ 48 ≤ wire.length ∧ ∃ iv cipher tag, Framed 16 32 wire iv cipher tag ∧
        tag = primitives.hmacSha256 (hmacKey key) (iv ++ cipher) ∧
        primitives.cbcDecrypt (aesKey key) iv cipher = some plaintext := by
  constructor
  · intro returned
    by_cases long : 64 ≤ key.length
    · rcases decryptAesCbcHmac_cases long wire with ⟨_, threw⟩ | ⟨iv, cipher, tag, framed, checks⟩
      · cases threw.symm.trans returned
      · rw [checks] at returned
        by_cases same : tag = primitives.hmacSha256 (hmacKey key) (iv ++ cipher)
        · rw [if_pos same] at returned
          refine ⟨long, ?_, iv, cipher, tag, framed, same, orThrow_eq_ok_iff.mp returned⟩
          obtain ⟨rfl, ivSized, tagSized⟩ := framed
          simp only [List.length_append]
          omega
        · rw [if_neg same] at returned
          cases returned
    · cases (decryptAesCbcHmac_shortKey (Nat.lt_of_not_le long) wire).symm.trans returned
  · rintro ⟨long, _, iv, cipher, tag, ⟨rfl, ivSized, tagSized⟩, same, decrypted⟩
    rw [decryptAesCbcHmac_frame ivSized tagSized cipher long, if_pos same, decrypted, orThrow_some]

end Exactness

section Bounds

theorem error_inRange {α : Type} {fault : Fault} (other : fault ≠ outOfRange) :
    (Except.error fault : Except Fault α) ≠ .error outOfRange :=
  fun same => other (Except.error.inj same)

/-- The cipher's own refusal is no range error. -/
theorem orThrow_refused_inRange {α : Type} (outcome : Option α) :
    orThrow refused outcome ≠ .error outOfRange := by
  cases outcome with
  | none => exact error_inRange (by decide)
  | some value => exact fun same => nomatch same

/-- No range and no copy of a decryption reaches beyond its array. -/
theorem decryptWith_inRange (lawful : primitives.Lawful) (algorithm : CryptoAlgorithm)
    (wire key : Bytes) : decryptWith primitives algorithm wire key ≠ .error outOfRange := by
  cases algorithm with
  | NONE => exact error_inRange (by decide)
  | AES_128_CBC =>
    rw [decryptWith]
    rcases @decryptAesCbc_cases primitives wire key with ⟨_, threw⟩ | ⟨_, _, _, decrypts⟩
    · rw [threw]
      exact error_inRange (by decide)
    · rw [decrypts]
      exact orThrow_refused_inRange _
  | AES_256_GCM =>
    rw [decryptWith]
    rcases decryptAesGcm_cases lawful wire key with ⟨_, threw⟩ | ⟨_, _, _, _, opens⟩
    · rw [threw]
      exact error_inRange (by decide)
    · rw [opens]
      exact orThrow_refused_inRange _
  | AES_256_CBC_HMAC =>
    rw [decryptWith]
    by_cases long : 64 ≤ key.length
    · rcases @decryptAesCbcHmac_cases primitives _ long wire with
        ⟨_, threw⟩ | ⟨_, _, _, _, checks⟩
      · rw [threw]
        exact error_inRange (by decide)
      · rw [checks]
        split
        · exact orThrow_refused_inRange _
        · exact error_inRange (by decide)
    · rw [decryptAesCbcHmac_shortKey (Nat.lt_of_not_le long)]
      exact error_inRange (by decide)

/-- Nor of an encryption. -/
theorem encryptWith_inRange (lawful : primitives.Lawful) (algorithm : CryptoAlgorithm)
    (plaintext key : Bytes) : encryptWith primitives algorithm plaintext key ≠ .error outOfRange := by
  cases algorithm with
  | NONE => exact error_inRange (by decide)
  | AES_128_CBC =>
    rw [encryptWith, encryptAesCbc_run lawful]
    exact orThrow_refused_inRange _
  | AES_256_GCM =>
    rw [encryptWith, encryptAesGcm_run lawful]
    exact orThrow_refused_inRange _
  | AES_256_CBC_HMAC =>
    rw [encryptWith]
    by_cases long : 64 ≤ key.length
    · rw [encryptAesCbcHmac_run lawful plaintext long]
      exact orThrow_refused_inRange _
    · unfold encryptAesCbcHmac
      rw [decide_eq_false long, require_false, error_bind]
      exact error_inRange (by decide)

end Bounds

section RoundTrip

/-- The keys an algorithm accepts. -/
def AcceptsKey (algorithm : CryptoAlgorithm) (key : Bytes) : Prop :=
  match algorithm with
  | .NONE => True
  | .AES_128_CBC => LegalKey key
  | .AES_256_GCM => LegalKey key
  | .AES_256_CBC_HMAC => 64 ≤ key.length

instance (algorithm : CryptoAlgorithm) (key : Bytes) : Decidable (AcceptsKey algorithm key) := by
  cases algorithm <;> unfold AcceptsKey <;> infer_instance

/-- How many bytes the wire of a plaintext has. -/
def framedLength (algorithm : CryptoAlgorithm) (plainLength : Nat) : Nat :=
  match algorithm with
  | .NONE => plainLength
  | .AES_128_CBC => 16 + 16 * (plainLength / 16 + 1)
  | .AES_256_GCM => 12 + plainLength + 16
  | .AES_256_CBC_HMAC => 16 + 16 * (plainLength / 16 + 1) + 32

theorem plain_le_framed (algorithm : CryptoAlgorithm) (plainLength : Nat) :
    plainLength ≤ framedLength algorithm plainLength := by
  cases algorithm <;> simp only [framedLength] <;> omega

/-- Under an accepted key encryption writes a wire of the framed length, which
decryption reads. -/
theorem encryptWith_accepted (lawful : primitives.Lawful) {algorithm : CryptoAlgorithm}
    (ciphers : algorithm ≠ .NONE) {key : Bytes} (accepts : AcceptsKey algorithm key)
    (plaintext : Bytes) :
    ∃ wire, encryptWith primitives algorithm plaintext key = .ok wire ∧
      wire.length = framedLength algorithm plaintext.length ∧
      decryptWith primitives algorithm wire key = .ok plaintext := by
  have ivSized := lawful.random_length aesCbcIvSize
  cases algorithm with
  | NONE => exact absurd rfl ciphers
  | AES_128_CBC =>
    obtain ⟨ciphertext, encrypted⟩ := Option.isSome_iff_exists.mp
      ((lawful.cbc_key key _ plaintext ivSized).mpr accepts)
    refine ⟨primitives.random aesCbcIvSize ++ ciphertext, ?_, ?_, ?_⟩
    · rw [encryptWith, encryptAesCbc_run lawful, encrypted, Option.map_some, orThrow_some]
    · rw [List.length_append, ivSized, lawful.cbc_length _ _ _ _ encrypted]
      rfl
    · rw [decryptWith, decryptAesCbc_frame ivSized, lawful.cbc_inverse _ _ _ _ encrypted,
        orThrow_some]
  | AES_256_GCM =>
    have nonceSized := lawful.random_length aesGcmNonceSize
    obtain ⟨⟨ciphertext, tag⟩, sealed⟩ := Option.isSome_iff_exists.mp
      ((lawful.gcm_key key _ plaintext nonceSized).mpr accepts)
    obtain ⟨cipherSized, tagSized⟩ := lawful.gcm_length _ _ _ _ _ sealed
    refine ⟨primitives.random aesGcmNonceSize ++ ciphertext ++ tag, ?_, ?_, ?_⟩
    · rw [encryptWith, encryptAesGcm_run lawful, sealed, Option.map_some, orThrow_some]
    · rw [List.length_append, List.length_append, nonceSized, cipherSized, tagSized]
      rfl
    · rw [decryptWith, decryptAesGcm_frame lawful nonceSized tagSized,
        (lawful.gcm_exact _ _ _ _ _).mpr sealed, orThrow_some]
  | AES_256_CBC_HMAC =>
    have long : 64 ≤ key.length := accepts
    have legal : LegalKey (aesKey key) := by
      refine Or.inr (Or.inr ?_)
      rw [aesKey, List.length_take]
      omega
    obtain ⟨ciphertext, encrypted⟩ := Option.isSome_iff_exists.mp
      ((lawful.cbc_key (aesKey key) _ plaintext ivSized).mpr legal)
    refine ⟨primitives.random aesCbcIvSize ++ ciphertext ++ primitives.hmacSha256 (hmacKey key)
      (primitives.random aesCbcIvSize ++ ciphertext), ?_, ?_, ?_⟩
    · rw [encryptWith, encryptAesCbcHmac_run lawful plaintext long, encrypted, Option.map_some,
        orThrow_some]
    · rw [List.length_append, List.length_append, ivSized, lawful.cbc_length _ _ _ _ encrypted,
        lawful.hmac_length]
      rfl
    · rw [decryptWith, decryptAesCbcHmac_frame ivSized (lawful.hmac_length _ _) ciphertext long,
        if_pos rfl, lawful.cbc_inverse _ _ _ _ encrypted, orThrow_some]

/-- Under any other key it throws. -/
theorem encryptWith_refuses (lawful : primitives.Lawful) {algorithm : CryptoAlgorithm} {key : Bytes}
    (refuses : ¬ AcceptsKey algorithm key) (plaintext wire : Bytes) :
    encryptWith primitives algorithm plaintext key ≠ .ok wire := by
  intro returned
  cases algorithm with
  | NONE => exact refuses trivial
  | AES_128_CBC =>
    rw [encryptWith, encryptAesCbc_run lawful, orThrow_eq_ok_iff, Option.map_eq_some_iff] at returned
    obtain ⟨ciphertext, encrypted, _⟩ := returned
    exact refuses ((lawful.cbc_key _ _ _ (lawful.random_length aesCbcIvSize)).mp
      (Option.isSome_iff_exists.mpr ⟨ciphertext, encrypted⟩))
  | AES_256_GCM =>
    rw [encryptWith, encryptAesGcm_run lawful, orThrow_eq_ok_iff, Option.map_eq_some_iff] at returned
    obtain ⟨ciphertext, sealed, _⟩ := returned
    exact refuses ((lawful.gcm_key _ _ _ (lawful.random_length aesGcmNonceSize)).mp
      (Option.isSome_iff_exists.mpr ⟨ciphertext, sealed⟩))
  | AES_256_CBC_HMAC =>
    have short : ¬ 64 ≤ key.length := refuses
    unfold encryptWith encryptAesCbcHmac at returned
    rw [decide_eq_false short, require_false, error_bind] at returned
    cases returned

end RoundTrip

end ApiGateway.CryptoService
