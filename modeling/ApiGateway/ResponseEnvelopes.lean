import ApiGateway.Decryption
import ApiGateway.Encryption
import ApiGateway.PayloadRoundTrips

/-!
# Responses that can be sent back

The response stage encrypts a body and wraps it in a JSON object. The request stage
unwraps a body and decrypts it. Under one policy and one profile the second undoes
the first, whatever the upstream's text is.

Of the platform it is assumed that it encodes in UTF-8, reads back what has no byte
order mark in front, and parses the object it has written. Nothing is assumed of the
charset in which the upstream has written its text.
-/

namespace ApiGateway.Envelopes

open Effects Encodings CryptoService

/-- What the stages rely on in the platform's texts and JSON. -/
structure ReadsBack (platform : Platform) : Prop where
  encodes : ∀ text, platform.getBytes text = toUtf8 text
  decodes : ∀ text, text.head? ≠ some (Char.ofNat 0xFEFF) → platform.readText (toUtf8 text) = text
  parses : ∀ name value,
    platform.parseJson
        ('{' :: (platform.quoteJson name ++ ':' :: (platform.quoteJson value ++ ['}']))) =
      .ok (.object [(name, .string value)])

/-- A body is written for the caller: its length is announced and the upstream's
body is not copied. -/
structure Writes (before after : ResponseTransformContext Gateway) (body : Bytes) : Prop where
  written : after.connection.response.written = before.connection.response.written ++ body
  announced : after.connection.response.contentLength = some body.length
  suppressed : after.suppressResponseBody = true

/-- Under a policy and a profile, every request with a body is forwarded with other
bytes in its place. -/
def Replaces (platform : Platform) (cryptoService : ICryptoService) (policy : EndpointPolicy)
    (profile : UserProfile) (body bytes : Bytes) : Prop :=
  ∀ (connection : Connection Gateway) (resolved found : Gateway) (clientId : Text),
    PolicyResolver.resolvePolicyAsync platform connection.context.path connection.context.method
        connection.services = (.ok (some policy), resolved) →
    connection.context.user.clientId platform.caseMap = some clientId → clientId ≠ [] →
    connection.context.body = .incoming body →
    DecryptTransform.ProfileFound (DecryptTransform.gatewayServices platform cryptoService) clientId
      policy.service.id resolved profile found →
    ∃ after, DecryptTransform.forwarded platform
        (DecryptTransform.gatewayServices platform cryptoService) connection = some after ∧
      after.context.body = .replaced bytes ∧ after.context.contentLength = some bytes.length

/-- Without an algorithm nothing is asked of the profile. Otherwise its key is one
that the algorithm accepts, and the encrypted text has an acceptable size. -/
def Fits (policy : EndpointPolicy) (profile : UserProfile) (text : Text) : Prop :=
  policy.cryptoConfig.algorithm ≠ .NONE →
    (∃ keyBytes, decodeKey profile.encryptionKey policy.cryptoConfig.encoding = .ok keyBytes ∧
      AcceptsKey policy.cryptoConfig.algorithm keyBytes) ∧
    framedLength policy.cryptoConfig.algorithm (toUtf8 text).length ≤ maxPayloadSize

section Envelope

variable {platform : Platform} {primitives : Primitives} {policy : EndpointPolicy}
  {profile : UserProfile}

theorem encodeData_ne_nil {data : Bytes} (filled : data ≠ []) (encoding : Encoding) :
    encodeData data encoding ≠ [] := by
  intro empty
  have read := decodeData_encodeData data encoding
  have nothing : decodeData [] encoding = .ok [] := by
    cases encoding <;> decide
  rw [empty, nothing] at read
  exact filled (Except.ok.inj read).symm

/-- A text that fits encrypts to a text that is not empty and decrypts to its bytes. -/
theorem encrypted_text (lawful : primitives.Lawful) {text : Text} (filled : text ≠ [])
    (fits : Fits policy profile text) :
    ∃ encryptedData, encryptedData ≠ [] ∧
      encrypt primitives (toUtf8 text) policy.cryptoConfig.algorithm profile.encryptionKey
        profile.encryptionIv policy.cryptoConfig.encoding = .ok encryptedData ∧
      decrypt primitives encryptedData policy.cryptoConfig.algorithm profile.encryptionKey
        profile.encryptionIv policy.cryptoConfig.encoding = .ok (toUtf8 text) := by
  by_cases ciphers : policy.cryptoConfig.algorithm = .NONE
  · refine ⟨text, filled, ?_, ?_⟩
    · rw [encrypt, if_pos ciphers, fromUtf8_toUtf8]
    · rw [decrypt, if_pos ciphers]
  · obtain ⟨⟨keyBytes, decoded, accepts⟩, small⟩ := fits ciphers
    obtain ⟨wire, wrote, sized, opened⟩ := encryptWith_accepted lawful ciphers accepts (toUtf8 text)
    have plainSmall : (toUtf8 text).length ≤ maxPayloadSize :=
      Nat.le_trans (plain_le_framed policy.cryptoConfig.algorithm _) small
    have wireFilled : wire ≠ [] := by
      rintro rfl
      have plain := plain_le_framed policy.cryptoConfig.algorithm (toUtf8 text).length
      have textFilled := length_le_toUtf8 text
      have positive := List.length_pos_of_ne_nil filled
      rw [List.length_nil] at sized
      omega
    refine ⟨encodeData wire policy.cryptoConfig.encoding, encodeData_ne_nil wireFilled _, ?_, ?_⟩
    · rw [encrypt_run ciphers decoded plainSmall, wrote]
      rfl
    · rw [decrypt_run ciphers decoded, if_pos (sized ▸ small), opened]

/-- The wrapper begins with a brace, so it is read back from its bytes. -/
theorem wrap_read (readsBack : ReadsBack platform) (fieldName encryptedData : Text) :
    platform.readText (toUtf8 (EncryptResponseTransform.wrap platform fieldName encryptedData)) =
      EncryptResponseTransform.wrap platform fieldName encryptedData := by
  apply readsBack.decodes _
  rw [EncryptResponseTransform.wrap, List.head?_cons]
  decide

/-- And its payload is what was wrapped. -/
theorem extractPayload_wrap (readsBack : ReadsBack platform) (fieldName : Text) {encryptedData : Text}
    (filled : encryptedData ≠ []) :
    DecryptTransform.extractPayload platform fieldName
      (EncryptResponseTransform.wrap platform fieldName encryptedData) = .ok (some encryptedData) := by
  have parsed : platform.parseJson (EncryptResponseTransform.wrap platform fieldName encryptedData) =
      .ok (.object [(fieldName, .string encryptedData)]) := readsBack.parses fieldName encryptedData
  have member : DecryptTransform.tryGetProperty fieldName
      (.object [(fieldName, .string encryptedData)]) = .ok (some (.string encryptedData)) := by
    simp [DecryptTransform.tryGetProperty, Dictionary.lookupIn]
  have kept : (some encryptedData).filter (fun value => !value.isEmpty) = some encryptedData := by
    simp [filled]
  rw [DecryptTransform.extractPayload, parsed, ok_bind, member, ok_bind]
  exact congrArg Except.ok kept

/-- The request stage replaces a wrapped payload by its decryption. -/
theorem wrap_replaced (readsBack : ReadsBack platform) (expects : policy.payloadExpectation = .Decrypted)
    {encryptedData : Text} (filled : encryptedData ≠ []) {bytes : Bytes}
    (decrypts : decrypt primitives encryptedData policy.cryptoConfig.algorithm profile.encryptionKey
      profile.encryptionIv policy.cryptoConfig.encoding = .ok bytes) :
    Replaces platform (cryptoService primitives) policy profile
      (toUtf8 (EncryptResponseTransform.wrap platform policy.cryptoConfig.payloadWrapperFieldName
        encryptedData)) bytes := by
  intro connection resolved found clientId asked named nonempty incoming profileFound
  have identified : (connection.context.user.clientId platform.caseMap).filter
      (fun value => !value.isEmpty) = some clientId :=
    Option.filter_eq_some_iff.mpr ⟨named, by simpa using nonempty⟩
  have text := wrap_read readsBack policy.cryptoConfig.payloadWrapperFieldName encryptedData
  have nonblank : Text.isNullOrWhiteSpace (some (EncryptResponseTransform.wrap platform
      policy.cryptoConfig.payloadWrapperFieldName encryptedData)) = false := by
    have brace : isWhiteSpace '{' = false := by decide
    simp [Text.isNullOrWhiteSpace, EncryptResponseTransform.wrap, brace]
  have opens : DecryptTransform.Opens platform
      (DecryptTransform.gatewayServices platform (cryptoService primitives)) policy clientId
      (EncryptResponseTransform.wrap platform policy.cryptoConfig.payloadWrapperFieldName encryptedData)
      resolved found bytes :=
    ⟨encryptedData, profile, extractPayload_wrap readsBack _ filled, profileFound, decrypts⟩
  have resolves : (DecryptTransform.gatewayServices platform
      (cryptoService primitives)).policyResolver.resolvePolicyAsync connection.context.path
        connection.context.method connection.services = (.ok (some policy), resolved) := asked
  obtain ⟨after, sent, context⟩ := DecryptTransform.forwarded_identified resolves expects identified
  rw [← text] at nonblank opens
  rw [DecryptTransform.decryptBody_opens (DecryptTransform.resolvedAt resolved connection) incoming
    nonblank opens] at context
  exact ⟨after, sent, by rw [context]; rfl, by rw [context]; rfl⟩

/-- What the response stage writes for a caller, sent back as a request's body under
the same policy and profile, is replaced by the bytes of the upstream's text in UTF-8,
whatever charset it was read by. -/
theorem response_reads_back (lawful : primitives.Lawful) (readsBack : ReadsBack platform)
    {context : ResponseTransformContext Gateway} {response : ProxyResponse} {clientId text : Text}
    (asked : (PolicyResolver.resolvePolicyAsync platform context.connection.context.path
      context.connection.context.method context.connection.services).1 = .ok (some policy))
    (encrypts : policy.encryptResponse = true) (expects : policy.payloadExpectation = .Decrypted)
    (answered : context.proxyResponse = some response) (success : response.isSuccessStatusCode = true)
    (reads : EncryptResponseTransform.readAsStringAsync platform response = .ok text)
    (filled : text ≠ [])
    (named : context.connection.context.user.clientId platform.caseMap = some clientId)
    (nonempty : clientId ≠ [])
    (cached : EncryptResponseTransform.cachedProfile context.connection.services clientId policy =
      some profile)
    (fits : Fits policy profile text) :
    ∃ wrapped : Text,
      Writes context (EncryptResponseTransform.applyAsync platform
        (EncryptResponseTransform.gatewayServices platform (cryptoService primitives)) context).2
          (toUtf8 wrapped) ∧
      Replaces platform (cryptoService primitives) policy profile (toUtf8 wrapped) (toUtf8 text) := by
  obtain ⟨encryptedData, dataFilled, encrypted, decrypted⟩ := encrypted_text lawful filled fits
  refine ⟨EncryptResponseTransform.wrap platform policy.cryptoConfig.payloadWrapperFieldName
    encryptedData, ?_, wrap_replaced readsBack expects dataFilled decrypted⟩
  have body : EncryptResponseTransform.encryptBody platform
      (EncryptResponseTransform.gatewayServices platform (cryptoService primitives)) policy profile
      text = .ok encryptedData := by
    rw [EncryptResponseTransform.encryptBody, readsBack.encodes]
    exact encrypted
  have shown : text.isEmpty = false := by simp [filled]
  rw [EncryptResponseTransform.applyAsync_run asked encrypts answered success named nonempty, cached]
  simp only [reads, shown, Bool.false_eq_true, if_false, body]
  constructor
  · exact congrArg (_ ++ ·) (readsBack.encodes _)
  · exact congrArg (fun bytes : Bytes => some bytes.length) (readsBack.encodes _)
  · rfl

end Envelope

section Sample

/-- A quote and a backslash are written after a backslash. -/
def escape (character : Char) : Text :=
  if character = '"' ∨ character = Char.ofNat 92 then [Char.ofNat 92, character] else [character]

def quoted (text : Text) : Text := '"' :: (text.flatMap escape ++ ['"'])

/-- A quoted text behind its opening quote, or behind a backslash, and what follows
it. -/
def readQuoted : Bool → Text → Option (Text × Text)
  | _, [] => none
  | true, first :: rest => (readQuoted false rest).map (Prod.map (List.cons first) id)
  | false, first :: rest =>
    if first = '"' then some ([], rest)
    else if first = Char.ofNat 92 then readQuoted true rest
    else (readQuoted false rest).map (Prod.map (List.cons first) id)

/-- An object with one member that is a text, written without spaces. -/
def readObject : Text → Except Fault JsonElement
  | '{' :: '"' :: rest =>
    match readQuoted false rest with
    | some (name, ':' :: '"' :: behind) =>
      match readQuoted false behind with
      | some (value, ['}']) => .ok (.object [(name, .string value)])
      | _ => .error ⟨"JsonException".toList⟩
    | _ => .error ⟨"JsonException".toList⟩
  | _ => .error ⟨"JsonException".toList⟩

theorem readQuoted_quoted (text rest : Text) :
    readQuoted false (text.flatMap escape ++ '"' :: rest) = some (text, rest) := by
  induction text with
  | nil => simp [readQuoted]
  | cons first others readOthers =>
    rw [List.flatMap_cons, escape]
    by_cases special : first = '"' ∨ first = Char.ofNat 92
    · have apart : Char.ofNat 92 ≠ '"' := by decide
      rw [if_pos special, List.append_assoc, List.cons_append, List.singleton_append, readQuoted,
        if_neg apart, if_pos rfl, readQuoted, readOthers]
      rfl
    · obtain ⟨noQuote, noBackslash⟩ := not_or.mp special
      rw [if_neg special, List.append_assoc, List.singleton_append, readQuoted, if_neg noQuote,
        if_neg noBackslash, readOthers]
      rfl

/-- The text of bytes in UTF-8, without a byte order mark in front. -/
def unmarked (bytes : Bytes) : Text :=
  if (fromUtf8 bytes).head? = some (Char.ofNat 0xFEFF) then (fromUtf8 bytes).tail
  else fromUtf8 bytes

/-- The sample platform with texts in UTF-8 and quoted JSON texts. -/
def quotingPlatform : Platform :=
  { plainPlatform with
    readText := unmarked
    readContent := plainContent unmarked
    getBytes := toUtf8
    getBytes_ne_nil := by
      intro text filled empty
      have longer := length_le_toUtf8 text
      rw [empty] at longer
      exact filled (List.length_eq_zero_iff.mp (Nat.le_zero.mp longer))
    quoteJson := quoted
    parseJson := readObject }

theorem quotingPlatform_readsBack : ReadsBack quotingPlatform where
  encodes := fun text => rfl
  decodes := by
    intro text apart
    simp only [quotingPlatform, unmarked, fromUtf8_toUtf8, if_neg apart]
  parses := by
    intro name value
    have former := readQuoted_quoted name (':' :: (quoted value ++ ['}']))
    have latter := readQuoted_quoted value ['}']
    simp only [quotingPlatform, quoted, List.cons_append, List.append_assoc, List.nil_append,
      readObject] at former ⊢
    simp only [former, latter]

/-- A service whose endpoint takes and returns encrypted payloads. -/
def echoService : Service :=
  .sample 1 "orders".toList "/orders".toList "v1".toList "orders".toList
    "[\"http://orders\"]".toList

def echoEndpoint : Endpoint :=
  { Endpoint.sample 2 1 "echo".toList "POST".toList "/echo".toList with
    payloadExpectation := .Decrypted
    encryptResponse := true }

def echoPolicy : EndpointPolicy :=
  PolicyResolver.buildEndpointPolicy quotingPlatform .sample echoService echoEndpoint

/-- A profile with the zero key of 256 bits. -/
def echoProfile : UserProfile where
  id := Guid.numbered 3
  userId := "alice".toList
  serviceId := some (Guid.numbered 1)
  encryptionKey := List.replicate 43 'A' ++ ['=']
  encryptionIv := none
  isEnabled := true

/-- A process that has loaded the endpoint and cached the profile. -/
def echoGateway : Gateway :=
  (PolicyCache.setUserProfileAsync "alice".toList (some (Guid.numbered 1)) echoProfile oneHour
    (PolicyResolver.refreshPoliciesAsync quotingPlatform
      (Gateway.started (Database.ofEndpoint .sample echoService echoEndpoint))).2).2

/-- A call of the endpoint. -/
def echoRequest (body : Bytes) : HttpContext :=
  HttpContext.request (Principal.subject "alice".toList) "/gateway/orders/echo".toList "POST".toList
    body

/-- The upstream has answered a call of the endpoint. -/
def echoed : ResponseTransformContext Gateway where
  connection :=
    { services := echoGateway
      context := echoRequest []
      response := .fresh }
  proxyResponse := some ⟨200, some "utf-8".toList, toUtf8 "a\"b".toList⟩
  suppressResponseBody := false

def echoResolved : Gateway :=
  (PolicyResolver.resolvePolicyAsync quotingPlatform "/gateway/orders/echo".toList "POST".toList
    echoGateway).2

theorem echo_resolved :
    PolicyResolver.resolvePolicyAsync quotingPlatform "/gateway/orders/echo".toList "POST".toList
      echoGateway = (.ok (some echoPolicy), echoResolved) :=
  Prod.ext (by decide) rfl

theorem echo_cached :
    EncryptResponseTransform.cachedProfile echoGateway "alice".toList echoPolicy = some echoProfile := by
  decide

/-- The text with a quote in it comes back from the request that returns it. -/
theorem response_reads_back_echo :
    ∃ wrapped after,
      Writes echoed (EncryptResponseTransform.applyAsync quotingPlatform
        (EncryptResponseTransform.gatewayServices quotingPlatform (cryptoService samplePrimitives))
          echoed).2 (toUtf8 wrapped) ∧
      DecryptTransform.forwarded quotingPlatform
        (DecryptTransform.gatewayServices quotingPlatform (cryptoService samplePrimitives))
          ⟨echoGateway, echoRequest (toUtf8 wrapped), .fresh⟩ = some after ∧
      after.context.body = .replaced (toUtf8 "a\"b".toList) ∧ after.context.contentLength = some 3 := by
  have fits : Fits echoPolicy echoProfile "a\"b".toList := by
    intro _
    exact ⟨⟨newBytes 32, by decide, by decide⟩, by decide⟩
  have reads : EncryptResponseTransform.readAsStringAsync quotingPlatform
      ⟨200, some "utf-8".toList, toUtf8 "a\"b".toList⟩ = .ok "a\"b".toList := by
    decide
  have asked : (PolicyResolver.resolvePolicyAsync quotingPlatform echoed.connection.context.path
      echoed.connection.context.method echoed.connection.services).1 = .ok (some echoPolicy) :=
    congrArg Prod.fst echo_resolved
  have named : echoed.connection.context.user.clientId quotingPlatform.caseMap =
      some "alice".toList := by
    decide
  obtain ⟨wrapped, writes, replaces⟩ := response_reads_back samplePrimitives_lawful
    quotingPlatform_readsBack asked rfl rfl rfl rfl reads (by decide) named (by decide) echo_cached fits
  obtain ⟨after, sent, body, announced⟩ := replaces
    ⟨echoGateway, echoRequest (toUtf8 wrapped), .fresh⟩ echoResolved _ "alice".toList echo_resolved
    named (by decide) rfl (.cached _ (Prod.ext (by decide) rfl))
  exact ⟨wrapped, after, writes, sent, body, announced⟩

end Sample

end ApiGateway.Envelopes
