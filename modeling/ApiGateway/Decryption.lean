import ApiGateway.Connection
import ApiGateway.Repositories

/-!
# The decryption stage

The stage decrypts a request's payload when its policy expects a decrypted one.
The payload is a text member of the JSON body; keys come from the caller's
profile, from the cache or else from the repository. Everything from reading the
body on runs under one handler.

The stage returns normally after each of its failures, and the pipeline calls
the next stage whenever it returns, with the body drained or, without a client id,
untouched. The proxy itself drops a request whose response has been started or given
another status than 200. But the stage leaves the response alone when a caller has no
client id or a body has no payload, so these requests reach the upstream.
-/

namespace ApiGateway

open Effects

namespace DecryptTransform

variable {σ : Type}

/-- The services the stage was built with. -/
structure Services (σ : Type) where
  policyResolver : IPolicyResolver σ
  userProfileRepo : IUserProfileRepository σ
  cache : IPolicyCache σ
  cryptoService : ICryptoService

/-- What the stage is built with in this process. -/
def gatewayServices (platform : Platform) (cryptoService : ICryptoService) : Services Gateway where
  policyResolver := PolicyResolver.policyResolver platform
  userProfileRepo := userProfileRepository
  cache := PolicyCache.policyCache
  cryptoService := cryptoService

/-- The last member of a name; anything but an object throws. -/
def tryGetProperty (name : Text) : JsonElement → Except Fault (Option JsonElement)
  | .object members => .ok (Dictionary.lookupIn name members.reverse)
  | _ => .error ⟨"InvalidOperationException".toList⟩

/-- The text of a string, none for null; anything else throws. -/
def getString : JsonElement → Except Fault (Option Text)
  | .string value => .ok (some value)
  | .null => .ok none
  | _ => .error ⟨"InvalidOperationException".toList⟩

/-- Read the body to its end and dispose of it. -/
def readBody (platform : Platform) : Stage σ Text := do
  let body ← Effect.gets (fun connection : Connection σ => connection.context.body)
  Connection.changeContext (fun context => { context with body := .drained })
  match body with
  | .incoming bytes => pure (platform.readText bytes)
  | .replaced bytes => pure (platform.readText bytes)
  | .drained => pure []

/-- The caller's profile for a service from the cache, else from the repository,
which is then cached. -/
def lookupProfile (services : Services σ) (clientId : Text) (serviceId : Guid) :
    Task σ (Option UserProfile) :=
  cacheAside (services.cache.getUserProfileAsync clientId (some serviceId))
    (services.userProfileRepo.getByUserIdAsync clientId (some serviceId))
    (fun profile => services.cache.setUserProfileAsync clientId (some serviceId) profile oneHour)

/-- Replace the request body. -/
def replaceBody (decryptedBytes : Bytes) : Stage σ Unit :=
  Connection.changeContext (fun context =>
    { context with
      body := .replaced decryptedBytes
      contentLength := some decryptedBytes.length
      contentType := context.contentType.or (some "application/json".toList) })

/-- From an extracted payload on. -/
def decryptPayload (platform : Platform) (services : Services σ) (policy : EndpointPolicy)
    (clientId encryptedData : Text) : Stage σ Unit := do
  match ← Connection.call (lookupProfile services clientId policy.service.id) with
  | none =>
    Connection.respond 400 (platform.getBytes "Crypto configuration not found for client".toList)
  | some userProfile =>
    let decryptedBytes ← Effect.ofExcept (services.cryptoService.decrypt encryptedData
      policy.cryptoConfig.algorithm userProfile.encryptionKey userProfile.encryptionIv
      policy.cryptoConfig.encoding)
    replaceBody decryptedBytes

/-- The payload a body carries: none when the member is missing, null or empty. -/
def extractPayload (platform : Platform) (fieldName body : Text) : Except Fault (Option Text) := do
  let wrapper ← platform.parseJson body
  match ← tryGetProperty fieldName wrapper with
  | none => pure none
  | some dataElement =>
    let encryptedData ← getString dataElement
    pure (encryptedData.filter (fun value => !value.isEmpty))

/-- The guarded part of the stage. -/
def decryptBody (platform : Platform) (services : Services σ) (policy : EndpointPolicy)
    (clientId : Text) : Stage σ Unit := do
  let body ← readBody platform
  if Text.isNullOrWhiteSpace (some body) then pure ()
  else
    match ← Effect.ofExcept
      (extractPayload platform policy.cryptoConfig.payloadWrapperFieldName body) with
    | none => pure ()
    | some encryptedData => decryptPayload platform services policy clientId encryptedData

/-- The whole stage. -/
def applyAsync (platform : Platform) (services : Services σ) : Stage σ Unit := do
  let context ← Effect.gets (fun connection : Connection σ => connection.context)
  match ← Connection.call
    (services.policyResolver.resolvePolicyAsync context.path context.method) with
  | none => pure ()
  | some policy =>
    if policy.payloadExpectation ≠ .Decrypted then pure ()
    else
      match (context.user.clientId platform.caseMap).filter (fun value => !value.isEmpty) with
      | none => pure ()
      | some clientId =>
        Effect.handle (decryptBody platform services policy clientId) (fun _ =>
          Connection.respond 400 (platform.getBytes "Failed to decrypt payload".toList))

/-- The pipeline: the stage, then the next one. -/
def proxyPipeline (platform : Platform) (services : Services σ) (next : Stage σ Unit) :
    Stage σ Unit := do
  applyAsync platform services
  next

/-- The connection the next stage is called with, if it is called. -/
def forwarded (platform : Platform) (services : Services σ) (connection : Connection σ) :
    Option (Connection σ) :=
  match applyAsync platform services connection with
  | (.ok (), after) => some after
  | (.error _, _) => none

theorem proxyPipeline_run (platform : Platform) (services : Services σ) (next : Stage σ Unit)
    (connection : Connection σ) :
    (∃ after, forwarded platform services connection = some after ∧
        proxyPipeline platform services next connection = next after) ∨
      (forwarded platform services connection = none ∧
        ∃ fault after, proxyPipeline platform services next connection = (.error fault, after)) := by
  unfold forwarded proxyPipeline
  rcases ran : applyAsync platform services connection with ⟨ending, after⟩
  cases ending with
  | ok value => exact Or.inl ⟨after, rfl, Effect.bind_ok ran⟩
  | error fault => exact Or.inr ⟨rfl, fault, after, Effect.bind_error ran⟩

section Exits

variable {platform : Platform} {services : Services σ} {policy : EndpointPolicy} {bytes : Bytes}

/-- A caller's profile for a service, found in the cache or else in the repository. -/
def ProfileFound (services : Services σ) (clientId : Text) (serviceId : Guid) (before : σ)
    (profile : UserProfile) (after : σ) : Prop :=
  Found (services.cache.getUserProfileAsync clientId (some serviceId))
    (services.userProfileRepo.getByUserIdAsync clientId (some serviceId))
    (fun profile => services.cache.setUserProfileAsync clientId (some serviceId) profile oneHour)
    before profile after

/-- A payload decrypts under the policy's settings and a profile. -/
def Decrypts (services : Services σ) (policy : EndpointPolicy) (profile : UserProfile)
    (payload : Text) (decryptedBytes : Bytes) : Prop :=
  services.cryptoService.decrypt payload policy.cryptoConfig.algorithm profile.encryptionKey
    profile.encryptionIv policy.cryptoConfig.encoding = .ok decryptedBytes

/-- A body opens for a caller: it carries a payload, the caller has a profile and
the payload decrypts under it. -/
structure Opens (platform : Platform) (services : Services σ) (policy : EndpointPolicy)
    (clientId : Text) (body : Text) (before after : σ) (decryptedBytes : Bytes) : Prop where
  opened : ∃ payload profile,
    extractPayload platform policy.cryptoConfig.payloadWrapperFieldName body = .ok (some payload) ∧
    ProfileFound services clientId policy.service.id before profile after ∧
    Decrypts services policy profile payload decryptedBytes

/-- The connection with its body replaced. -/
def replaced (after : σ) (decryptedBytes : Bytes) (connection : Connection σ) : Connection σ :=
  { connection with
    services := after
    context := { connection.context with
      body := .replaced decryptedBytes
      contentLength := some decryptedBytes.length
      contentType := connection.context.contentType.or (some "application/json".toList) } }

/-- The connection with its body read. -/
def drained (connection : Connection σ) : Connection σ :=
  { connection with context := { connection.context with body := .drained } }

theorem readBody_run {connection : Connection σ} (incoming : connection.context.body = .incoming bytes) :
    readBody platform connection = (.ok (platform.readText bytes), drained connection) := by
  unfold readBody Connection.changeContext
  rw [Effect.bind_ok (Effect.gets_run _ _), Effect.bind_ok (Effect.update_run _ _), incoming]
  rfl

/-- A body that opens is replaced by its decryption. -/
theorem decryptBody_opens (connection : Connection σ) {clientId : Text} {after : σ}
    {decryptedBytes : Bytes} (incoming : connection.context.body = .incoming bytes)
    (nonblank : Text.isNullOrWhiteSpace (some (platform.readText bytes)) = false)
    (opens : Opens platform services policy clientId (platform.readText bytes) connection.services
      after decryptedBytes) :
    decryptBody platform services policy clientId connection =
      (.ok (), replaced after decryptedBytes connection) := by
  obtain ⟨payload, profile, extracted, found, decrypts⟩ := opens.opened
  unfold decryptBody
  rw [Effect.bind_ok (readBody_run incoming), nonblank, extracted, if_neg Bool.false_ne_true,
    Effect.bind_ok (Effect.ofExcept_run _ _)]
  dsimp only
  unfold decryptPayload
  have looked : lookupProfile services clientId policy.service.id (drained connection).services =
      (.ok (some profile), after) := cacheAside_some_iff.mpr found
  rw [Effect.bind_ok (Connection.call_ok (drained connection) looked)]
  dsimp only
  rw [Effect.bind_ok (by rw [Effect.ofExcept_run, decrypts])]
  rfl

/-- A body ends replaced only if it opened. Every other exit leaves it drained. -/
theorem decryptBody_replaced (connection : Connection σ) {clientId : Text}
    {decryptedBytes : Bytes} (incoming : connection.context.body = .incoming bytes)
    (ended : (decryptBody platform services policy clientId connection).2.context.body =
      .replaced decryptedBytes) :
    ∃ after, Opens platform services policy clientId (platform.readText bytes) connection.services
      after decryptedBytes := by
  unfold decryptBody at ended
  rw [Effect.bind_ok (readBody_run incoming)] at ended
  split at ended
  · cases ended
  · cases extracted : extractPayload platform policy.cryptoConfig.payloadWrapperFieldName
        (platform.readText bytes) with
    | error fault =>
      rw [Effect.bind_error (by rw [Effect.ofExcept_run, extracted])] at ended
      cases ended
    | ok payload =>
      rw [Effect.bind_ok (by rw [Effect.ofExcept_run, extracted])] at ended
      cases payload with
      | none => cases ended
      | some payload =>
        dsimp only at ended
        unfold decryptPayload at ended
        rcases looked : lookupProfile services clientId policy.service.id connection.services with
          ⟨answer, after⟩
        cases answer with
        | error fault =>
          rw [Effect.bind_error (Connection.call_error (drained connection) looked)] at ended
          cases ended
        | ok profile =>
          rw [Effect.bind_ok (Connection.call_ok (drained connection) looked)] at ended
          cases profile with
          | none => cases ended
          | some profile =>
            dsimp only at ended
            cases decrypted : services.cryptoService.decrypt payload policy.cryptoConfig.algorithm
                profile.encryptionKey profile.encryptionIv policy.cryptoConfig.encoding with
            | error fault =>
              rw [Effect.bind_error (by rw [Effect.ofExcept_run, decrypted])] at ended
              cases ended
            | ok output =>
              rw [Effect.bind_ok (by rw [Effect.ofExcept_run, decrypted])] at ended
              cases ended
              exact ⟨after, payload, profile, extracted, cacheAside_some_iff.mp looked, decrypted⟩

/-- The connection after its policy was resolved. -/
def resolvedAt (resolved : σ) (connection : Connection σ) : Connection σ :=
  { connection with services := resolved }

/-- Under a policy that expects a decrypted payload the stage always returns. A
caller without a client id leaves the body untouched. -/
theorem forwarded_anonymous {connection : Connection σ} {resolved : σ}
    (asked : services.policyResolver.resolvePolicyAsync connection.context.path
      connection.context.method connection.services = (.ok (some policy), resolved))
    (expects : policy.payloadExpectation = .Decrypted)
    (anonymous : (connection.context.user.clientId platform.caseMap).filter
      (fun value => !value.isEmpty) = none) :
    forwarded platform services connection = some (resolvedAt resolved connection) := by
  unfold forwarded applyAsync
  rw [Effect.bind_ok (Effect.gets_run _ _), Effect.bind_ok (Connection.call_ok connection asked)]
  simp only [expects, ne_eq, not_true_eq_false, if_false, anonymous]
  rfl

/-- A caller with a client id is forwarded with what the guarded part left of
its request. -/
theorem forwarded_identified {connection : Connection σ} {resolved : σ} {clientId : Text}
    (asked : services.policyResolver.resolvePolicyAsync connection.context.path
      connection.context.method connection.services = (.ok (some policy), resolved))
    (expects : policy.payloadExpectation = .Decrypted)
    (identified : (connection.context.user.clientId platform.caseMap).filter
      (fun value => !value.isEmpty) = some clientId) :
    ∃ after, forwarded platform services connection = some after ∧
      after.context = (decryptBody platform services policy clientId
        (resolvedAt resolved connection)).2.context := by
  unfold forwarded applyAsync
  rw [Effect.bind_ok (Effect.gets_run _ _), Effect.bind_ok (Connection.call_ok connection asked)]
  simp only [expects, ne_eq, not_true_eq_false, if_false, identified]
  unfold Effect.handle resolvedAt
  rcases decryptBody platform services policy clientId { connection with services := resolved } with
    ⟨ending, after⟩
  cases ending with
  | ok value => exact ⟨after, rfl, rfl⟩
  | error fault => exact ⟨_, rfl, rfl⟩

/-- The request carries the bytes of a decryption under the caller's own profile. -/
def CarriesDecryption (platform : Platform) (services : Services σ) (policy : EndpointPolicy)
    (resolved : σ) (connection after : Connection σ) : Prop :=
  ∃ clientId payload profile found decryptedBytes,
    connection.context.user.clientId platform.caseMap = some clientId ∧
    ProfileFound services clientId policy.service.id resolved profile found ∧
    Decrypts services policy profile payload decryptedBytes ∧
    after.context.body = .replaced decryptedBytes ∧
    after.context.contentLength = some decryptedBytes.length

/-- Decryption fails closed exactly for requests whose caller has a client id and
whose body opens for it. Every other request reaches the next stage as well. -/
theorem fails_closed_iff {connection : Connection σ} {resolved : σ}
    (asked : services.policyResolver.resolvePolicyAsync connection.context.path
      connection.context.method connection.services = (.ok (some policy), resolved))
    (expects : policy.payloadExpectation = .Decrypted)
    (incoming : connection.context.body = .incoming bytes)
    (nonblank : Text.isNullOrWhiteSpace (some (platform.readText bytes)) = false) :
    (∀ after, forwarded platform services connection = some after →
        CarriesDecryption platform services policy resolved connection after) ↔
      ∃ clientId after decryptedBytes,
        connection.context.user.clientId platform.caseMap = some clientId ∧ clientId ≠ [] ∧
        Opens platform services policy clientId (platform.readText bytes) resolved after
          decryptedBytes := by
  constructor
  · intro closed
    cases kept : (connection.context.user.clientId platform.caseMap).filter
        (fun value => !value.isEmpty) with
    | none =>
      obtain ⟨_, _, _, _, output, _, _, _, body, _⟩ :=
        closed _ (forwarded_anonymous asked expects kept)
      rw [resolvedAt, incoming] at body
      cases body
    | some clientId =>
      obtain ⟨after, sent, context⟩ := forwarded_identified asked expects kept
      obtain ⟨_, _, _, _, output, _, _, _, body, _⟩ := closed after sent
      rw [context] at body
      obtain ⟨named, nonempty⟩ := Option.filter_eq_some_iff.mp kept
      obtain ⟨found, opens⟩ := decryptBody_replaced (resolvedAt resolved connection) incoming
        body
      exact ⟨clientId, found, output, named, by simpa using nonempty, opens⟩
  · rintro ⟨clientId, found, output, named, nonempty, opens⟩ after sent
    have kept : (connection.context.user.clientId platform.caseMap).filter
        (fun value => !value.isEmpty) = some clientId :=
      Option.filter_eq_some_iff.mpr ⟨named, by simpa using nonempty⟩
    obtain ⟨last, sentLast, context⟩ := forwarded_identified asked expects kept
    obtain rfl : last = after := Option.some.inj (sentLast.symm.trans sent)
    rw [decryptBody_opens (resolvedAt resolved connection) incoming nonblank opens]
      at context
    obtain ⟨payload, profile, _, profileFound, decrypts⟩ := opens.opened
    exact ⟨clientId, payload, profile, found, output, named, profileFound, decrypts,
      by rw [context]; rfl, by rw [context]; rfl⟩

end Exits

section Failures

/-- A registry with one endpoint that expects a decrypted payload. -/
def decryptedEndpoint : Database :=
  Database.ofEndpoint .sample
    (.sample 1 "orders".toList "/orders".toList "v1".toList "orders".toList
      "[\"http://orders\"]".toList)
    { Endpoint.sample 2 1 "create".toList "POST".toList "/create".toList with
      payloadExpectation := .Decrypted
      cryptoAlgorithm := some .NONE }

/-- A process that has loaded the registry, and a request to its endpoint. -/
def posted (body : Bytes) : Connection Gateway where
  services := (PolicyResolver.refreshPoliciesAsync plainPlatform
    (Gateway.started decryptedEndpoint)).2
  context := HttpContext.request (Principal.subject "alice".toList)
    "/gateway/orders/create".toList "POST".toList body
  response := .fresh

/-- A JSON object without the member that carries a payload. -/
def unwrappedBody : Bytes := plainPlatform.getBytes "\x7b\"x\":\"1\"\x7d".toList

/-- The policy the request resolves to. -/
def decryptedPolicy : EndpointPolicy :=
  PolicyResolver.buildEndpointPolicy plainPlatform .sample
    (.sample 1 "orders".toList "/orders".toList "v1".toList "orders".toList
      "[\"http://orders\"]".toList)
    { Endpoint.sample 2 1 "create".toList "POST".toList "/create".toList with
      payloadExpectation := .Decrypted
      cryptoAlgorithm := some .NONE }

/-- The state the services are in after the request's policy was resolved. -/
def postedResolved : Gateway :=
  (PolicyResolver.resolvePolicyAsync plainPlatform "/gateway/orders/create".toList "POST".toList
    (posted unwrappedBody).services).2

theorem posted_resolved :
    (gatewayServices plainPlatform plainCrypto).policyResolver.resolvePolicyAsync
        (posted unwrappedBody).context.path (posted unwrappedBody).context.method
        (posted unwrappedBody).services = (.ok (some decryptedPolicy), postedResolved) :=
  Prod.ext (by decide) rfl

theorem fails_closed_iff_unwrapped :
    (∀ after, forwarded plainPlatform (gatewayServices plainPlatform plainCrypto)
        (posted unwrappedBody) = some after →
          CarriesDecryption plainPlatform (gatewayServices plainPlatform plainCrypto) decryptedPolicy
            postedResolved (posted unwrappedBody) after) ↔
      ∃ clientId after decryptedBytes,
        (posted unwrappedBody).context.user.clientId plainPlatform.caseMap = some clientId ∧
        clientId ≠ [] ∧
        Opens plainPlatform (gatewayServices plainPlatform plainCrypto) decryptedPolicy clientId
          (plainPlatform.readText unwrappedBody) postedResolved after decryptedBytes :=
  fails_closed_iff posted_resolved rfl rfl (by decide)

/-- A body without its payload goes on, drained, and the response is as it was. -/
theorem unwrapped_body_forwarded :
    (gatewayServices plainPlatform plainCrypto).policyResolver.resolvePolicyAsync
        (posted unwrappedBody).context.path (posted unwrappedBody).context.method
        (posted unwrappedBody).services = (.ok (some decryptedPolicy), postedResolved) ∧
      decryptedPolicy.payloadExpectation = .Decrypted ∧
      (posted unwrappedBody).context.body = .incoming unwrappedBody ∧
      Text.isNullOrWhiteSpace (some (plainPlatform.readText unwrappedBody)) = false ∧
      (forwarded plainPlatform (gatewayServices plainPlatform plainCrypto)
        (posted unwrappedBody)).map Connection.response = some .fresh ∧
      ¬ ∀ after, forwarded plainPlatform (gatewayServices plainPlatform plainCrypto)
        (posted unwrappedBody) = some after →
          CarriesDecryption plainPlatform (gatewayServices plainPlatform plainCrypto) decryptedPolicy
            postedResolved (posted unwrappedBody) after := by
  refine ⟨posted_resolved, rfl, rfl, by decide, by decide, ?_⟩
  intro closed
  have sent : (forwarded plainPlatform (gatewayServices plainPlatform plainCrypto)
      (posted unwrappedBody)).map (fun after => after.context.body) = some .drained := by
    decide
  obtain ⟨after, forwardedTo, drained⟩ := Option.map_eq_some_iff.mp sent
  obtain ⟨_, _, _, _, output, _, _, _, body, _⟩ := closed after forwardedTo
  rw [drained] at body
  cases body

end Failures

end DecryptTransform

end ApiGateway
