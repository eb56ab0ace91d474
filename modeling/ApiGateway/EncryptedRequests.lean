import ApiGateway.ChainedCiphers
import ApiGateway.EncryptedExchange

/-!
# Requests with an encrypted payload

A known caller sends a wire in the wrapper that its policy names. The request reaches the
upstream decrypted exactly if the wire decrypts under the profile in effect.
-/

namespace ApiGateway.EncryptedExchange

open Effects Encodings CryptoService Concurrent Envelopes

section Requests

variable {platform : Platform} {primitives : Primitives} {policy : EndpointPolicy}
  {profile : UserProfile} {clientId : Text} {surroundings : Surroundings}
  {connection : Connection Gateway} {plaintext : Bytes}

/-- The same request with another body. -/
def withBody (body : Bytes) (connection : Connection Gateway) : Connection Gateway :=
  { connection with context := { connection.context with body := .incoming body } }

/-- A request whose body carries a wire under a policy. -/
def carrying (platform : Platform) (policy : EndpointPolicy) (wire : Bytes)
    (connection : Connection Gateway) : Connection Gateway :=
  withBody (toUtf8 (EncryptResponseTransform.wrap platform
    policy.cryptoConfig.payloadWrapperFieldName
      (encodeData wire policy.cryptoConfig.encoding))) connection

/-- A policy that expects encrypted requests serves a caller's, whatever happens before
the upstream answers. The caller is known by name and has a profile in effect. -/
structure Ready (platform : Platform) (policy : EndpointPolicy) (profile : UserProfile)
    (clientId : Text) (surroundings : Surroundings) (connection : Connection Gateway) : Prop where
  serves : Serves platform connection.context policy connection.services
  connected : connection.services.Connected
  expects : policy.payloadExpectation = .Decrypted
  removable : ∀ name ∈ policy.headersToRemove, Removable name
  undisturbed : ∀ gateway, Serves platform connection.context policy gateway →
    Serves platform connection.context policy (surroundings.meanwhile gateway)
  named : connection.context.user.clientId platform.caseMap = some clientId
  nonempty : clientId ≠ []
  unsent : connection.response.written = []
  effective : DecryptTransform.profileInEffect connection.services clientId policy.service.id =
    some profile

/-- Nothing of this depends on the body. -/
theorem Ready.withBody (ready : Ready platform policy profile clientId surroundings connection)
    (body : Bytes) :
    Ready platform policy profile clientId surroundings (withBody body connection) where
  serves := ⟨ready.serves.held, ready.serves.published⟩
  connected := ready.connected
  expects := ready.expects
  removable := ready.removable
  undisturbed := fun gateway serves =>
    have still := ready.undisturbed gateway ⟨serves.held, serves.published⟩
    ⟨still.held, still.published⟩
  named := ready.named
  nonempty := ready.nonempty
  unsent := ready.unsent
  effective := ready.effective

/-- The request has a text in its wrapper. -/
structure Carries (platform : Platform) (policy : EndpointPolicy) (payload : Text) (body : Bytes) :
    Prop where
  nonblank : Text.isNullOrWhiteSpace (some (platform.readText body)) = false
  extracted : DecryptTransform.extractPayload platform
    policy.cryptoConfig.payloadWrapperFieldName (platform.readText body) = .ok (some payload)

/-- The wire is read from the wrapper. -/
theorem carries_wrapped (readsBack : ReadsBack platform) (policy : EndpointPolicy) {wire : Bytes}
    (filled : wire ≠ []) :
    Carries platform policy (encodeData wire policy.cryptoConfig.encoding)
      (toUtf8 (EncryptResponseTransform.wrap platform policy.cryptoConfig.payloadWrapperFieldName
        (encodeData wire policy.cryptoConfig.encoding))) where
  nonblank := by
    have brace : isWhiteSpace '{' = false := by decide
    rw [wrap_read readsBack]
    simp [Text.isNullOrWhiteSpace, EncryptResponseTransform.wrap, brace]
  extracted := by
    rw [wrap_read readsBack]
    exact extractPayload_wrap readsBack _ (encodeData_ne_nil filled _)

/-- A ready caller's request with a payload that decrypts. -/
theorem Ready.asks {body : Bytes} {payload : Text}
    (ready : Ready platform policy profile clientId surroundings connection)
    (carries : Carries platform policy payload body)
    (decrypted : decrypt primitives payload policy.cryptoConfig.algorithm profile.encryptionKey
      profile.encryptionIv policy.cryptoConfig.encoding = .ok plaintext) :
    Asks platform primitives policy profile clientId plaintext
      (EncryptedExchange.withBody body connection) where
  named := ready.named
  nonempty := ready.nonempty
  unsent := ready.unsent
  effective := ready.effective
  carries := ⟨body, payload, rfl, carries.nonblank, carries.extracted, decrypted⟩

/-- The stages of a request whose payload decrypts send it on decrypted. -/
theorem Ready.delivers {body : Bytes} {payload : Text}
    (ready : Ready platform policy profile clientId surroundings connection)
    (carries : Carries platform policy payload body)
    (decrypted : decrypt primitives payload policy.cryptoConfig.algorithm profile.encryptionKey
      profile.encryptionIv policy.cryptoConfig.encoding = .ok plaintext) :
    ∃ delivery context, exchange platform (cryptoService primitives) surroundings
        (EncryptedExchange.withBody body connection) = some delivery ∧
      Forwards platform surroundings policy clientId plaintext delivery ∧
      EncryptResponseTransform.cachedProfile delivery.sent clientId policy =
        (if Retains connection.services clientId policy then some profile else none) ∧
      delivery.answered = surroundings.meanwhile delivery.sent ∧
      Responds platform primitives policy clientId surroundings delivery context :=
  have alike := ready.withBody body
  exchange_delivers alike.serves alike.connected alike.expects alike.removable
    (ready.asks carries decrypted) alike.undisturbed

/-- A request reaches the upstream decrypted exactly if its payload decrypts. -/
theorem Ready.forwarded_iff {body : Bytes} {payload : Text}
    (ready : Ready platform policy profile clientId surroundings connection)
    (carries : Carries platform policy payload body) :
    (∃ delivery, exchange platform (cryptoService primitives) surroundings
        (EncryptedExchange.withBody body connection) = some delivery ∧
      delivery.context.body = .replaced plaintext) ↔
      decrypt primitives payload policy.cryptoConfig.algorithm profile.encryptionKey
        profile.encryptionIv policy.cryptoConfig.encoding = .ok plaintext := by
  constructor
  · rintro ⟨delivery, ran, replaced⟩
    obtain ⟨decrypted, forwarded, context⟩ := exchange_context ran
    obtain ⟨resolved, asked, _⟩ := resolves (ready.withBody body).serves
    have identified : (connection.context.user.clientId platform.caseMap).filter
        (fun value => !value.isEmpty) = some clientId :=
      Option.filter_eq_some_iff.mpr ⟨ready.named, by simpa using ready.nonempty⟩
    obtain ⟨after, alike, left⟩ := @DecryptTransform.forwarded_identified _ platform
      (DecryptTransform.gatewayServices platform (cryptoService primitives)) _ _ resolved _
      asked ready.expects identified
    obtain rfl := Option.some.inj (forwarded.symm.trans alike)
    obtain ⟨found, opened, owner, extracted, profileFound, opens⟩ :=
      DecryptTransform.decryptBody_replaced
        (DecryptTransform.resolvedAt resolved (EncryptedExchange.withBody body connection)) rfl
        (by rw [← left, ← context, replaced])
    obtain rfl := Option.some.inj (Except.ok.inj (extracted.symm.trans carries.extracted))
    obtain ⟨unchanged, reached⟩ :=
      profileInEffect_resolved asked ready.connected clientId policy.service.id
    have looked := @DecryptTransform.lookupProfile_value platform resolved reached
      (cryptoService primitives) clientId policy.service.id
    have same := congrArg Prod.fst (cacheAside_some_iff.mpr profileFound)
    obtain rfl := Option.some.inj ((Except.ok.inj (same.symm.trans looked)).trans
      (unchanged.trans ready.effective))
    exact opens
  · intro decrypted
    obtain ⟨delivery, _, ran, forwards, _⟩ := ready.delivers carries decrypted
    exact ⟨delivery, ran, forwards.body⟩

end Requests

section Sample

/-- An object with one member that is a text, with or without a blank behind the colon. -/
def readSpaced : Text → Except Fault JsonElement
  | '{' :: '"' :: rest =>
    match readQuoted false rest with
    | some (name, ':' :: ' ' :: behind) => readObject ('{' :: (quoted name ++ ':' :: behind))
    | _ => readObject ('{' :: '"' :: rest)
  | text => readObject text

/-- The sample platform that reads both. -/
def spacedPlatform : Platform := { quotingPlatform with parseJson := readSpaced }

theorem spacedPlatform_readsBack : ReadsBack spacedPlatform where
  encodes := quotingPlatform_readsBack.encodes
  decodes := quotingPlatform_readsBack.decodes
  parses := by
    intro name value
    have former := readQuoted_quoted name (':' :: (quoted value ++ ['}']))
    have read := quotingPlatform_readsBack.parses name value
    simp only [spacedPlatform, quotingPlatform, quoted, List.cons_append, List.append_assoc,
      List.nil_append, readSpaced] at former read ⊢
    simp only [former, read]
    rfl

/-- The sample endpoint under the chained format. -/
def chainedEndpoint : Endpoint :=
  { echoEndpoint with cryptoAlgorithm := some .AES_128_CBC }

def chainedPolicy : EndpointPolicy :=
  PolicyResolver.buildEndpointPolicy spacedPlatform .sample echoService chainedEndpoint

/-- A profile with the zero key of 128 bits. -/
def chainedProfile : UserProfile :=
  { echoProfile with encryptionKey := List.replicate 22 'A' ++ ['=', '='] }

/-- A process that has loaded the endpoint; the caller's profile is in the database. -/
def chainedServing : Gateway :=
  (PolicyResolver.refreshPoliciesAsync spacedPlatform (Gateway.started
    { Database.ofEndpoint .sample echoService chainedEndpoint with
      userProfiles := [chainedProfile]
      userProfiles_id := by simp
      userProfiles_pair := by simp [chainedProfile, echoProfile] })).2

/-- A call of the endpoint. -/
def chainedCall (body : Bytes) : Connection Gateway where
  services := chainedServing
  context := echoRequest body
  response := .fresh

/-- The upstream answers a call of the endpoint, which nothing else happens to. -/
def chainedSurroundings (content : Bytes) : Surroundings where
  readings := HeaderTransform.fixedReadings
  copied := fun _ => HeaderTransform.plainHeaders
  upstream := fun _ _ => some ⟨200, some "utf-8".toList, content⟩
  meanwhile := id

theorem chained_serves (body : Bytes) :
    Serves spacedPlatform (chainedCall body).context chainedPolicy (chainedCall body).services := by
  have memory : chainedServing.cache.inMemory (policyKeyOf spacedPlatform (echoRequest [])) =
      some (.policy chainedPolicy) := by
    decide
  have store : chainedServing.cache.inStore (policyKeyOf spacedPlatform (echoRequest [])) =
      some (.policy chainedPolicy) := by
    decide
  refine ⟨?_, (by decide : chainedServing.policySnapshot.tryGetValue (PolicyResolver.requestKey
    spacedPlatform "/gateway/orders/echo".toList "POST".toList) = some chainedPolicy)⟩
  rintro value (live | live)
  · exact Option.some.inj (live.symm.trans memory)
  · exact Option.some.inj (live.symm.trans store)

theorem chained_ready (content : Bytes) :
    Ready spacedPlatform chainedPolicy chainedProfile "alice".toList (chainedSurroundings content)
      (chainedCall []) where
  serves := chained_serves []
  connected := fun _ => rfl
  expects := rfl
  removable := by
    have unnamed : chainedPolicy.headersToRemove = [] := by
      decide
    simp [unnamed]
  undisturbed := fun _ serves => serves
  named := (by decide : (echoRequest []).user.clientId spacedPlatform.caseMap = some "alice".toList)
  nonempty := by decide
  unsent := rfl
  effective := (by decide : DecryptTransform.profileInEffect chainedServing "alice".toList
    chainedPolicy.service.id = some chainedProfile)

theorem chained_key : decodeKey chainedProfile.encryptionKey chainedPolicy.cryptoConfig.encoding =
    .ok (newBytes 16) := by
  decide +kernel

end Sample

end ApiGateway.EncryptedExchange
