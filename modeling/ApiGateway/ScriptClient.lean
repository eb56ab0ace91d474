import ApiGateway.EncryptedRequests

/-!
# The script's side of an encrypted exchange

The end-to-end script writes and reads the chained format on its own, in another language
and with other libraries. It posts what it encrypts in a JSON object and decrypts the
member of the object that it receives.

It and the service agree: each opens what the other has encrypted, and on what is Base64
they open the same texts to the same bytes. So through the gateway the upstream receives
what the script has encrypted, and the script what the upstream has answered.
-/

namespace ApiGateway.ScriptClient

open Effects Encodings CryptoService Concurrent Envelopes EncryptedExchange

/-- What the script calls in its packages. What raises has no value. -/
structure Packages where
  urandom : Nat → Bytes
  padder : Bytes → Bytes
  unpadder : Bytes → Option Bytes
  encryptor : (key iv data : Bytes) → Option Bytes
  decryptor : (key iv data : Bytes) → Option Bytes
  loads : Text → Option JsonElement

/-- What is documented of them. A cipher in the chained mode takes whole blocks, and a JSON
text is read as it was written by the platform. -/
structure Packages.Lawful (packages : Packages) (platform : Platform) (aes : Aes) : Prop where
  urandom_length : ∀ size, (packages.urandom size).length = size
  pads : ∀ data, packages.padder data = Chaining.pad 16 data
  unpads : ∀ data, packages.unpadder data = Chaining.unpad 16 data
  encrypts : ∀ key (initial : Chaining.Block 16) data, LegalKey key → data.length % 16 = 0 →
    packages.encryptor key initial.toList data = some (Chaining.encryptBlocks aes key initial data)
  decrypts : ∀ key (initial : Chaining.Block 16) data, LegalKey key → data.length % 16 = 0 →
    packages.decryptor key initial.toList data = some (Chaining.decryptBlocks aes key initial data)
  partial_block : ∀ key iv data, data.length % 16 ≠ 0 → packages.decryptor key iv data = none
  loads_wrapped : ∀ name value, packages.loads
      ('{' :: (platform.quoteJson name ++ ':' :: (platform.quoteJson value ++ ['}']))) =
    some (.object [(name, .string value)])

section Base64

/-- Read letters of Base64 one by one, from so many letters into a group on, with the bits
that are left of the last one and the padding since. Other characters are skipped. -/
def a2bBase64 : Text → (quadPos leftchar pads : Nat) → Option Bytes
  | [], quadPos, _, _ => if quadPos = 0 then some [] else none
  | character :: rest, quadPos, leftchar, pads =>
    if character = '=' then
      if 2 ≤ quadPos then
        if 4 ≤ quadPos + (pads + 1) then some [] else a2bBase64 rest quadPos leftchar (pads + 1)
      else a2bBase64 rest quadPos leftchar pads
    else
      match base64Value character with
      | none => a2bBase64 rest quadPos leftchar pads
      | some value =>
        match quadPos with
        | 0 => a2bBase64 rest 1 value 0
        | 1 => (a2bBase64 rest 2 (value % 16) 0).map (byteOf (leftchar * 4 + value / 16) :: ·)
        | 2 => (a2bBase64 rest 3 (value % 4) 0).map (byteOf (leftchar * 16 + value / 4) :: ·)
        | _ => (a2bBase64 rest 0 0 0).map (byteOf (leftchar * 64 + value) :: ·)

/-- Only ASCII is read at all. -/
def b64decode (text : Text) : Option Bytes :=
  if text.all (fun character => character.toNat < 128) then a2bBase64 text 0 0 0 else none

/-- A letter with a value is one of the alphabet's. -/
theorem letter_of_value {character : Char} {value : Nat}
    (read : base64Value character = some value) : character ≠ '=' ∧ character.toNat < 128 := by
  have all : alphabet.all (fun letter => letter != '=' && decide (letter.toNat < 128)) = true := by
    unfold alphabet
    rw [String.toList_ofList]
    decide +kernel
  have member : character ∈ alphabet := by
    obtain ⟨inside, same, _⟩ := List.findIdx?_eq_some_iff_getElem.mp read
    exact (beq_iff_eq.mp same) ▸ List.getElem_mem inside
  simpa using List.all_eq_true.mp all character member

theorem blank_valueless {character : Char} (blank : isBlank character = true) :
    character ≠ '=' ∧ base64Value character = none ∧ character.toNat < 128 := by
  simp only [isBlank, Bool.or_eq_true, beq_iff_eq] at blank
  rcases blank with ((rfl | rfl) | rfl) | rfl <;> decide +kernel

/-- Blanks are skipped. -/
theorem a2bBase64_blanks (text : Text) (quadPos leftchar pads : Nat) :
    a2bBase64 (text.filter (fun character => !isBlank character)) quadPos leftchar pads =
      a2bBase64 text quadPos leftchar pads := by
  induction text generalizing quadPos leftchar pads with
  | nil => rfl
  | cons character rest ih =>
    cases blank : isBlank character with
    | true =>
      obtain ⟨unpadded, valueless, _⟩ := blank_valueless blank
      rw [List.filter_cons_of_neg (by simp [blank]), ih, a2bBase64, if_neg unpadded, valueless]
    | false =>
      rw [List.filter_cons_of_pos (by simp [blank])]
      simp only [a2bBase64, ih]

/-- Groups of letters are read as groups. -/
theorem a2bBase64_groups {text : Text} {bytes : Bytes} (read : readGroups text = some bytes) :
    a2bBase64 text 0 0 0 = some bytes ∧ ∀ character ∈ text, character.toNat < 128 := by
  fun_induction readGroups text generalizing bytes with
  | case1 =>
    cases read
    exact ⟨rfl, by simp⟩
  | case2 first second third fourth rest ih =>
    simp only [Option.bind_eq_bind, Option.bind_eq_some_iff] at read
    obtain ⟨high, firstRead, next, secondRead, grouped⟩ := read
    obtain ⟨firstLetter, firstSmall⟩ := letter_of_value firstRead
    obtain ⟨secondLetter, secondSmall⟩ := letter_of_value secondRead
    split at grouped
    · next ends =>
      obtain ⟨rfl, rfl, rfl⟩ := ends
      obtain rfl := Option.some.inj grouped
      simp [a2bBase64, firstLetter, firstRead, secondLetter, secondRead, firstSmall, secondSmall]
    · simp only [Option.bind_eq_some_iff] at grouped
      obtain ⟨middle, thirdRead, grouped⟩ := grouped
      obtain ⟨thirdLetter, thirdSmall⟩ := letter_of_value thirdRead
      split at grouped
      · next ends =>
        obtain ⟨rfl, rfl⟩ := ends
        obtain rfl := Option.some.inj grouped
        simp [a2bBase64, firstLetter, firstRead, secondLetter, secondRead, thirdLetter, thirdRead,
          firstSmall, secondSmall, thirdSmall]
      · simp only [Option.bind_eq_some_iff, Option.some.injEq] at grouped
        obtain ⟨low, fourthRead, others, restRead, rfl⟩ := grouped
        obtain ⟨fourthLetter, fourthSmall⟩ := letter_of_value fourthRead
        obtain ⟨same, restSmall⟩ := ih restRead
        simp [a2bBase64, firstLetter, firstRead, secondLetter, secondRead, thirdLetter, thirdRead,
          fourthLetter, fourthRead, same, firstSmall, secondSmall, thirdSmall, fourthSmall]
        exact restSmall
  | case3 text empty short => cases read

/-- What the service reads as Base64 the script reads alike. -/
theorem b64decode_read {text : Text} {bytes : Bytes} (read : fromBase64 text = some bytes) :
    b64decode text = some bytes := by
  obtain ⟨same, small⟩ := a2bBase64_groups read
  have ascii : text.all (fun character => character.toNat < 128) = true := by
    rw [List.all_eq_true]
    intro character member
    rw [decide_eq_true_eq]
    cases blank : isBlank character with
    | true => exact (blank_valueless blank).2.2
    | false => exact small character (List.mem_filter.mpr ⟨member, by simp [blank]⟩)
  rw [b64decode, if_pos ascii, ← a2bBase64_blanks, same]

end Base64

section Ciphers

variable (packages : Packages)

/-- Initial block and ciphertext, in Base64. -/
def encryptAes128Cbc (plaintext key : Bytes) : Option Text := do
  let iv := packages.urandom 16
  let padded := packages.padder plaintext
  let ciphertext ← packages.encryptor key iv padded
  some (toBase64 (iv ++ ciphertext))

def decryptAes128Cbc (b64Data : Text) (key : Bytes) : Option Bytes := do
  let raw ← b64decode b64Data
  let iv := raw.take 16
  let ciphertext := raw.drop 16
  let padded ← packages.decryptor key iv ciphertext
  packages.unpadder padded

variable {packages} {platform : Platform} {aes : Aes} (scripted : packages.Lawful platform aes)
  {key : Bytes} (legal : LegalKey key)
include scripted legal

/-- The script writes the format of the block cipher. -/
theorem encryptAes128Cbc_framed (plaintext : Bytes) :
    encryptAes128Cbc packages plaintext key = some (toBase64 (Chaining.encryptFramed aes key
      (Chaining.blockAt 16 (packages.urandom 16)) plaintext)) := by
  have initial : (Chaining.blockAt 16 (packages.urandom 16)).toList = packages.urandom 16 :=
    toList_blockAt_sized (scripted.urandom_length 16)
  have whole : (Chaining.pad 16 plaintext).length % 16 = 0 := by
    rw [Chaining.length_pad (by decide), Nat.mul_mod_right]
  have encrypted := scripted.encrypts key (Chaining.blockAt 16 (packages.urandom 16)) _ legal whole
  rw [initial, ← scripted.pads] at encrypted
  simp only [encryptAes128Cbc, encrypted, Option.bind_eq_bind, Option.bind_some]
  rw [Chaining.encryptFramed, initial, Chaining.encrypt, scripted.pads]

/-- And reads it. -/
theorem decryptAes128Cbc_framed {text : Text} {wire : Bytes} (read : b64decode text = some wire)
    (long : 16 ≤ wire.length) :
    decryptAes128Cbc packages text key = Chaining.decryptFramed aes key wire := by
  have initial : (Chaining.blockAt 16 wire).toList = wire.take 16 := Chaining.toList_blockAt long
  simp only [decryptAes128Cbc, read, Option.bind_eq_bind, Option.bind_some]
  rw [Chaining.decryptFramed, if_pos long, Chaining.decrypt]
  by_cases whole : (wire.drop 16).length % 16 = 0
  · have decrypted := scripted.decrypts key (Chaining.blockAt 16 wire) _ legal whole
    rw [initial] at decrypted
    rw [decrypted, Option.bind_some, scripted.unpads, if_pos whole]
  · rw [scripted.partial_block key _ _ whole, Option.bind_none, if_neg whole]

end Ciphers

section Agreement

variable {primitives : Primitives} {packages : Packages} {platform : Platform} {aes : Aes}
  {key : Text} {keyBytes : Bytes}

/-- The service and the script open what the other encrypts, and the same texts alike. -/
structure Agree (primitives : Primitives) (packages : Packages) (key : Text) (keyBytes : Bytes) :
    Prop where
  service_opens : ∀ plaintext iv, framedLength .AES_128_CBC plaintext.length ≤ maxPayloadSize →
    ∃ text, encryptAes128Cbc packages plaintext keyBytes = some text ∧
      decrypt primitives text .AES_128_CBC key iv .Base64 = .ok plaintext
  script_opens : ∀ plaintext iv text,
    encrypt primitives plaintext .AES_128_CBC key iv .Base64 = .ok text →
      decryptAes128Cbc packages text keyBytes = some plaintext
  alike : ∀ text wire plaintext iv, fromBase64 text = some wire → 16 < wire.length →
    wire.length ≤ maxPayloadSize →
      (decrypt primitives text .AES_128_CBC key iv .Base64 = .ok plaintext ↔
        decryptAes128Cbc packages text keyBytes = some plaintext)

theorem script_agrees (lawful : primitives.Lawful) (chains : primitives.Chains aes)
    (scripted : packages.Lawful platform aes) (decoded : decodeKey key .Base64 = .ok keyBytes)
    (legal : LegalKey keyBytes) : Agree primitives packages key keyBytes := by
  have alike : ∀ text wire plaintext iv, fromBase64 text = some wire → 16 < wire.length →
      wire.length ≤ maxPayloadSize →
      (decrypt primitives text .AES_128_CBC key iv .Base64 = .ok plaintext ↔
        decryptAes128Cbc packages text keyBytes = some plaintext) := by
    intro text wire plaintext iv read long small
    have decodedText : decodeData text .Base64 = .ok wire := congrArg (orThrow badFormat) read
    rw [decrypt_read (by decide) decoded decodedText small, decryptWith,
      decryptAesCbc_chained chains legal long, orThrow_eq_ok_iff,
      decryptAes128Cbc_framed scripted legal (b64decode_read read) (Nat.le_of_lt long)]
  have framed : ∀ (initial : Chaining.Block 16) (plaintext : Bytes),
      Chaining.decryptFramed aes keyBytes (Chaining.encryptFramed aes keyBytes initial plaintext) =
        some plaintext :=
    fun initial plaintext => Chaining.decryptFramed_encryptFramed (by decide) (by decide) plaintext
  have long : ∀ (initial : Chaining.Block 16) (plaintext : Bytes),
      16 < (Chaining.encryptFramed aes keyBytes initial plaintext).length :=
    fun initial plaintext => Chaining.length_of_decryptFramed (by decide) (by decide)
      (framed initial plaintext)
  refine ⟨fun plaintext iv small => ?_, fun plaintext iv text encrypted => ?_, alike⟩
  · have sized : (Chaining.encryptFramed aes keyBytes
        (Chaining.blockAt 16 (packages.urandom 16)) plaintext).length ≤ maxPayloadSize := by
      rw [Chaining.encryptFramed, List.length_append, Vector.length_toList,
        Chaining.length_encrypt (by decide)]
      exact small
    refine ⟨_, encryptAes128Cbc_framed scripted legal plaintext, ?_⟩
    rw [alike _ _ plaintext iv (fromBase64_toBase64 _) (long _ _) sized,
      decryptAes128Cbc_framed scripted legal (b64decode_read (fromBase64_toBase64 _))
        (Nat.le_of_lt (long _ _)), framed]
  · by_cases small : plaintext.length ≤ maxPayloadSize
    · rw [encrypt_run (by decide) decoded small, encryptWith,
        encryptAesCbc_chained lawful chains legal] at encrypted
      obtain rfl := Except.ok.inj encrypted
      exact (decryptAes128Cbc_framed scripted legal (b64decode_read (fromBase64_toBase64 _))
        (Nat.le_of_lt (long _ _))).trans (framed _ _)
    · rw [CryptoService.encrypt, if_neg (by decide), decoded, ok_bind, decide_eq_false small, require_false,
        error_bind] at encrypted
      cases encrypted

end Agreement

section Bodies

/-- Four hexadecimal digits of a unit behind a backslash. -/
def unicodeEscape (unit : Nat) : Text :=
  Char.ofNat 92 :: 'u' :: [4096, 256, 16, 1].map (fun place =>
    "0123456789abcdef".toList.getD (unit / place % 16) '0')

/-- Anything but printable ASCII is escaped. -/
def escapeAscii (character : Char) : Text :=
  let code := character.toNat
  if character = '"' ∨ code = 92 then [Char.ofNat 92, character]
  else if code = 10 then [Char.ofNat 92, 'n']
  else if code = 13 then [Char.ofNat 92, 'r']
  else if code = 9 then [Char.ofNat 92, 't']
  else if code = 12 then [Char.ofNat 92, 'f']
  else if code = 8 then [Char.ofNat 92, 'b']
  else if 32 ≤ code ∧ code ≤ 126 then [character]
  else if code < 0x10000 then unicodeEscape code
  else unicodeEscape (0xD800 + (code - 0x10000) / 1024) ++
    unicodeEscape (0xDC00 + (code - 0x10000) % 1024)

/-- An object with one member, with a blank behind the colon. -/
def dumps (name value : Text) : Text :=
  "\x7b\"".toList ++ name.flatMap escapeAscii ++ "\": \"".toList ++ value.flatMap escapeAscii ++
    "\"\x7d".toList

/-- The body that the script posts. -/
def postedBody (encrypted : Text) : Bytes := toUtf8 (dumps "data".toList encrypted)

/-- Bytes that are no text raise. -/
def decodeUtf8 (bytes : Bytes) : Option Text :=
  if toUtf8 (fromUtf8 bytes) = bytes then some (fromUtf8 bytes) else none

/-- The text of a received object's member, decrypted. -/
def unwrapped (packages : Packages) (body key : Bytes) : Option Bytes := do
  let resp ← packages.loads (← decodeUtf8 body)
  match resp with
  | .object members =>
    match Dictionary.lookupIn "data".toList members.reverse with
    | some (.string data) => decryptAes128Cbc packages data key
    | _ => none
  | _ => none

/-- The platform parses what the script has written of Base64. -/
def ParsesDumped (platform : Platform) : Prop :=
  ∀ wire, platform.parseJson (dumps "data".toList (toBase64 wire)) =
    .ok (.object [("data".toList, .string (toBase64 wire))])

variable {platform : Platform} {packages : Packages} {aes : Aes} {policy : EndpointPolicy}

/-- The service finds the script's text. -/
theorem carries_posted (readsBack : ReadsBack platform) (parses : ParsesDumped platform)
    (field : policy.cryptoConfig.payloadWrapperFieldName = "data".toList) {wire : Bytes}
    (filled : wire ≠ []) : Carries platform policy (toBase64 wire) (postedBody (toBase64 wire)) := by
  have front : (dumps "data".toList (toBase64 wire)).head? = some '{' := rfl
  have read : platform.readText (postedBody (toBase64 wire)) =
      dumps "data".toList (toBase64 wire) := by
    apply readsBack.decodes
    rw [front]
    decide
  have shown : (toBase64 wire).isEmpty = false := by
    cases letters : toBase64 wire with
    | nil => exact absurd letters (encodeData_ne_nil filled .Base64)
    | cons first rest => rfl
  constructor
  · rw [read]
    have brace : isWhiteSpace '{' = false := by decide
    exact List.all_eq_false.mpr ⟨'{', List.mem_of_mem_head? front, by simp [brace]⟩
  · rw [read, field, DecryptTransform.extractPayload, parses, ok_bind]
    simp [DecryptTransform.tryGetProperty, Dictionary.lookupIn, DecryptTransform.getString, shown]

/-- The script finds the service's text. -/
theorem unwrapped_wrapped (scripted : packages.Lawful platform aes) (payload : Text) (key : Bytes) :
    unwrapped packages (toUtf8 (EncryptResponseTransform.wrap platform "data".toList payload)) key =
      decryptAes128Cbc packages payload key := by
  have decoded : decodeUtf8 (toUtf8 (EncryptResponseTransform.wrap platform "data".toList payload)) =
      some (EncryptResponseTransform.wrap platform "data".toList payload) := by
    rw [decodeUtf8, fromUtf8_toUtf8, if_pos rfl]
  have loaded : packages.loads (EncryptResponseTransform.wrap platform "data".toList payload) =
      some (.object [("data".toList, .string payload)]) := scripted.loads_wrapped _ _
  simp only [unwrapped, decoded, loaded, Option.bind_eq_bind, Option.bind_some]
  simp [Dictionary.lookupIn]

end Bodies

section Exchange

variable {platform : Platform} {primitives : Primitives} {packages : Packages} {aes : Aes}
  {policy : EndpointPolicy} {profile : UserProfile} {clientId : Text} {surroundings : Surroundings}
  {connection : Connection Gateway} {keyBytes plaintext : Bytes}

/-- A policy under which the script's format is exchanged, and the script's key for it. -/
structure Matches (policy : EndpointPolicy) (profile : UserProfile) (keyBytes : Bytes) : Prop where
  chained : policy.cryptoConfig.algorithm = .AES_128_CBC
  base64 : policy.cryptoConfig.encoding = .Base64
  field : policy.cryptoConfig.payloadWrapperFieldName = "data".toList
  decoded : decodeKey profile.encryptionKey .Base64 = .ok keyBytes
  legal : LegalKey keyBytes

/-- What the script encrypts and posts reaches the upstream decrypted. If the upstream
answers with success and a text that can be read and the caller's profile is then in the
cache, the script decrypts what it receives to that text. -/
theorem script_exchange (lawful : primitives.Lawful) (chains : primitives.Chains aes)
    (scripted : packages.Lawful platform aes) (readsBack : ReadsBack platform)
    (parses : ParsesDumped platform)
    (ready : Ready platform policy profile clientId surroundings connection)
    (expects : policy.encryptResponse = true) (suits : Matches policy profile keyBytes)
    (small : framedLength .AES_128_CBC plaintext.length ≤ maxPayloadSize) :
    ∃ text delivery, encryptAes128Cbc packages plaintext keyBytes = some text ∧
      exchange platform (cryptoService primitives) surroundings
        (withBody (postedBody text) connection) = some delivery ∧
      Forwards platform surroundings policy clientId plaintext delivery ∧
      EncryptResponseTransform.cachedProfile delivery.sent clientId policy =
        (if EncryptedExchange.Retains connection.services clientId policy then some profile else none) ∧
      delivery.answered = surroundings.meanwhile delivery.sent ∧
      ∀ response text, surroundings.upstream delivery.context delivery.headers = some response →
        response.isSuccessStatusCode = true →
        EncryptResponseTransform.readAsStringAsync platform response = .ok text → text ≠ [] →
        framedLength .AES_128_CBC (toUtf8 text).length ≤ maxPayloadSize →
        EncryptResponseTransform.cachedProfile delivery.answered clientId policy = some profile →
          unwrapped packages (EncryptResponseTransform.sentBody delivery.returned) keyBytes =
            some (toUtf8 text) := by
  have agrees := script_agrees lawful chains scripted suits.decoded suits.legal
  obtain ⟨text, encrypted, opened⟩ := agrees.service_opens plaintext profile.encryptionIv small
  have written := encryptAes128Cbc_framed scripted suits.legal plaintext
  rw [Option.some.inj (encrypted.symm.trans written)] at opened
  have filled : Chaining.encryptFramed aes keyBytes
      (Chaining.blockAt 16 (packages.urandom 16)) plaintext ≠ [] := by
    simp [Chaining.encryptFramed]
  obtain ⟨delivery, context, ran, forwards, retained, later, responds⟩ :=
    @Ready.delivers _ primitives _ _ _ _ _ _ _ _ ready
      (carries_posted readsBack parses suits.field filled)
      (by rw [suits.chained, suits.base64]; exact opened)
  refine ⟨_, delivery, written, ran, forwards, retained, later,
    fun response upstreamText replied success reads shown fits cached => ?_⟩
  have encrypts : Encrypts platform policy clientId response context :=
    ⟨responds.serves, expects, responds.answered.trans replied, responds.named, ready.nonempty,
      responds.unsent, responds.copies⟩
  have answered := encrypts_run (cryptoService primitives) encrypts success responds.ended
  rw [responds.services, cached] at answered
  simp only [reads, shown, if_false] at answered
  have fitting : Fits policy profile upstreamText := by
    rw [Fits, suits.chained, suits.base64]
    exact fun _ => ⟨⟨keyBytes, suits.decoded, suits.legal⟩, fits⟩
  obtain ⟨payload, _, wrote, _⟩ := encrypted_text lawful shown fitting
  obtain ⟨sent, _⟩ := answered payload (by
    rw [EncryptResponseTransform.encryptBody, readsBack.encodes]
    exact wrote)
  rw [suits.chained, suits.base64] at wrote
  rw [sent, readsBack.encodes, suits.field, unwrapped_wrapped scripted]
  exact agrees.script_opens _ _ _ wrote

end Exchange

section Sample

/-- Packages over the sample cipher. -/
def samplePackages : Packages where
  urandom := newBytes
  padder := Chaining.pad 16
  unpadder := Chaining.unpad 16
  encryptor := fun key iv data =>
    if (iv.length = 16 ∧ LegalKey key) ∧ data.length % 16 = 0 then
      some (Chaining.encryptBlocks sampleAes key (Chaining.blockAt 16 iv) data)
    else none
  decryptor := fun key iv data =>
    if (iv.length = 16 ∧ LegalKey key) ∧ data.length % 16 = 0 then
      some (Chaining.decryptBlocks sampleAes key (Chaining.blockAt 16 iv) data)
    else none
  loads := fun text => (readObject text).toOption

theorem samplePackages_lawful : samplePackages.Lawful spacedPlatform sampleAes where
  urandom_length := fun size => by simp [samplePackages, newBytes]
  pads := fun _ => rfl
  unpads := fun _ => rfl
  encrypts := fun key initial data legal whole => by
    simp [samplePackages, legal, whole, blockAt_toList]
  decrypts := fun key initial data legal whole => by
    simp [samplePackages, legal, whole, blockAt_toList]
  partial_block := fun key iv data broken => by simp [samplePackages, broken]
  loads_wrapped := fun name value =>
    congrArg Except.toOption (quotingPlatform_readsBack.parses name value)

/-- Neither the script nor the platform escapes anything in Base64. -/
theorem toBase64_unescaped (wire : Bytes) :
    (toBase64 wire).flatMap escapeAscii = toBase64 wire ∧
      (toBase64 wire).flatMap escape = toBase64 wire := by
  have all : ('=' :: alphabet).all (fun letter =>
      decide (escapeAscii letter = [letter] ∧ escape letter = [letter])) = true := by
    unfold alphabet
    rw [String.toList_ofList]
    decide +kernel
  have each : ∀ letter ∈ toBase64 wire, escapeAscii letter = [letter] ∧ escape letter = [letter] := by
    intro letter member
    exact of_decide_eq_true (List.all_eq_true.mp all letter
      (List.mem_cons.mpr (toBase64_mem wire letter member)))
  exact ⟨(List.flatMap_congr (fun letter member => (each letter member).1)).trans
      (List.flatMap_singleton' _),
    (List.flatMap_congr (fun letter member => (each letter member).2)).trans
      (List.flatMap_singleton' _)⟩

theorem spacedPlatform_parses : ParsesDumped spacedPlatform := by
  intro wire
  obtain ⟨unescaped, unquoted⟩ := toBase64_unescaped wire
  have former := readQuoted_quoted "data".toList
    (':' :: ' ' :: '"' :: (toBase64 wire ++ ['"', '}']))
  have latter := quotingPlatform_readsBack.parses "data".toList (toBase64 wire)
  have written : dumps "data".toList (toBase64 wire) = '{' :: '"' :: ("data".toList.flatMap escape ++
      '"' :: ':' :: ' ' :: '"' :: (toBase64 wire ++ ['"', '}'])) := by
    rw [dumps, unescaped]
    rfl
  have member : quoted (toBase64 wire) ++ ['}'] = '"' :: (toBase64 wire ++ ['"', '}']) := by
    rw [quoted, unquoted]
    simp
  have object : readObject ('{' :: (quoted "data".toList ++ ':' :: (quoted (toBase64 wire) ++ ['}']))) =
      .ok (.object [("data".toList, .string (toBase64 wire))]) := latter
  rw [member] at object
  have parsed : spacedPlatform.parseJson = readSpaced := rfl
  rw [written, parsed, readSpaced, former]
  exact object

/-- What is asked in the script's key is answered in it. -/
theorem script_exchange_ask :
    ∃ text delivery, encryptAes128Cbc samplePackages (toUtf8 "ask".toList) (newBytes 16) = some text ∧
      exchange spacedPlatform (cryptoService chainedPrimitives)
        (chainedSurroundings (toUtf8 "ok".toList)) (withBody (postedBody text) (chainedCall [])) =
          some delivery ∧
      delivery.context.body = .replaced (toUtf8 "ask".toList) ∧
      unwrapped samplePackages (EncryptResponseTransform.sentBody delivery.returned) (newBytes 16) =
        some (toUtf8 "ok".toList) := by
  have suits : Matches chainedPolicy chainedProfile (newBytes 16) :=
    ⟨by decide, by decide, by decide, chained_key, Or.inl rfl⟩
  obtain ⟨text, delivery, encrypted, ran, forwards, cached, answered, received⟩ :=
    script_exchange chainedPrimitives_lawful chainedPrimitives_chains samplePackages_lawful
      spacedPlatform_readsBack spacedPlatform_parses (chained_ready (toUtf8 "ok".toList)) rfl suits
      (by decide : framedLength .AES_128_CBC (toUtf8 "ask".toList).length ≤ maxPayloadSize)
  have reads : EncryptResponseTransform.readAsStringAsync spacedPlatform
      ⟨200, some "utf-8".toList, toUtf8 "ok".toList⟩ = .ok "ok".toList := by
    decide
  have retains : EncryptedExchange.Retains (chainedCall []).services "alice".toList chainedPolicy :=
    (by decide : EncryptedExchange.Retains chainedServing "alice".toList chainedPolicy)
  have returned := received ⟨200, some "utf-8".toList, toUtf8 "ok".toList⟩ "ok".toList rfl rfl reads
    (by decide) (by decide) (by rw [answered]; exact cached.trans (if_pos retains))
  exact ⟨text, delivery, encrypted, ran, forwards.body, returned⟩

end Sample

end ApiGateway.ScriptClient
