import ApiGateway.Connection
import ApiGateway.Repositories

/-!
# The response encryption stage

The stage runs after the upstream has answered. For a policy that asks for it,
it suppresses the upstream body and writes a JSON object with the encrypted body
instead. The caller's profile is looked up in the cache only. Unless the body is
suppressed at the end, the proxy copies it to the caller.

An absent profile returns before the body is suppressed, and the handler lifts
the suppression, so both let the body through in the clear. The handler runs when
the body cannot be read, for its charset is not known, and when it does not encrypt.
-/

namespace ApiGateway

open Effects

/-- The upstream's response. Its content type may name a charset. -/
structure ProxyResponse where
  statusCode : Nat
  charset : Option Text
  content : Bytes
deriving DecidableEq

/-- Status codes from 200 to 299. -/
def ProxyResponse.isSuccessStatusCode (response : ProxyResponse) : Bool :=
  200 ≤ response.statusCode && response.statusCode ≤ 299

/-- What the stage may change: the services' state, the response and whether the
upstream body is copied. -/
structure ResponseTransformContext (σ : Type) where
  connection : Connection σ
  proxyResponse : Option ProxyResponse
  suppressResponseBody : Bool

/-- A stage on the way back to the caller. -/
abbrev ResponseStage (σ α : Type) := Effect Fault (ResponseTransformContext σ) α

namespace EncryptResponseTransform

variable {σ : Type}

/-- The services the stage was built with. -/
structure Services (σ : Type) where
  policyResolver : IPolicyResolver σ
  cache : IPolicyCache σ
  cryptoService : ICryptoService

/-- What the stage is built with in this process. -/
def gatewayServices (platform : Platform) (cryptoService : ICryptoService) : Services Gateway where
  policyResolver := PolicyResolver.policyResolver platform
  cache := PolicyCache.policyCache
  cryptoService := cryptoService

/-- Call a service from within the stage. -/
def call {α : Type} (task : Task σ α) : ResponseStage σ α := fun context =>
  ((task context.connection.services).1,
    { context with
      connection :=
        { context.connection with services := (task context.connection.services).2 } })

/-- The context with the upstream body suppressed or let through. -/
def suppressing (suppressed : Bool) (context : ResponseTransformContext σ) :
    ResponseTransformContext σ :=
  { context with suppressResponseBody := suppressed }

def setSuppressed (suppressed : Bool) : ResponseStage σ Unit :=
  Effect.update (suppressing suppressed)

/-- The serialized object with one text member. -/
def wrap (platform : Platform) (fieldName encryptedData : Text) : Text :=
  '{' :: (platform.quoteJson fieldName ++ ':' :: (platform.quoteJson encryptedData ++ ['}']))

/-- The context with a JSON text written as the response body. -/
def answering (platform : Platform) (wrapped : Text) (context : ResponseTransformContext σ) :
    ResponseTransformContext σ :=
  { context with
    connection :=
      { context.connection with
        response := { context.connection.response with
          contentType := some "application/json".toList
          contentLength := some (platform.getBytes wrapped).length
          written := context.connection.response.written ++ platform.getBytes wrapped } } }

def writeJson (platform : Platform) (wrapped : Text) : ResponseStage σ Unit :=
  Effect.update (answering platform wrapped)

/-- The text of the upstream body. -/
def readAsStringAsync (platform : Platform) (response : ProxyResponse) : Except Fault Text :=
  platform.readContent response.charset response.content

/-- Encryption of a body under the policy's settings and a profile. -/
def encryptBody (platform : Platform) (services : Services σ) (policy : EndpointPolicy)
    (userProfile : UserProfile) (responseBody : Text) : Except Fault Text :=
  services.cryptoService.encrypt (platform.getBytes responseBody) policy.cryptoConfig.algorithm
    userProfile.encryptionKey userProfile.encryptionIv policy.cryptoConfig.encoding

/-- The guarded part of the stage. -/
def encryptResponse (platform : Platform) (services : Services σ) (policy : EndpointPolicy)
    (response : ProxyResponse) (clientId : Text) : ResponseStage σ Unit := do
  match ← call (services.cache.getUserProfileAsync clientId (some policy.service.id)) with
  | none => pure ()
  | some userProfile =>
    setSuppressed true
    let responseBody ← Effect.ofExcept (readAsStringAsync platform response)
    if responseBody.isEmpty then pure ()
    else
      let encryptedData ← Effect.ofExcept
        (encryptBody platform services policy userProfile responseBody)
      writeJson platform (wrap platform policy.cryptoConfig.payloadWrapperFieldName encryptedData)

/-- The whole stage. -/
def applyAsync (platform : Platform) (services : Services σ) : ResponseStage σ Unit := do
  let context ← Effect.gets (fun context : ResponseTransformContext σ => context)
  match ← call (services.policyResolver.resolvePolicyAsync context.connection.context.path
    context.connection.context.method) with
  | none => pure ()
  | some policy =>
    if ¬ policy.encryptResponse then pure ()
    else
      match context.proxyResponse.filter ProxyResponse.isSuccessStatusCode with
      | none => pure ()
      | some response =>
        match (context.connection.context.user.clientId platform.caseMap).filter
          (fun value => !value.isEmpty) with
        | none => pure ()
        | some clientId =>
          Effect.handle (encryptResponse platform services policy response clientId)
            (fun _ => setSuppressed false)

/-- The upstream bytes copied to the caller. -/
def copiedBody (context : ResponseTransformContext σ) : Bytes :=
  if context.suppressResponseBody then []
  else (context.proxyResponse.map ProxyResponse.content).getD []

/-- The body sent to the caller: what the stage wrote, then what is copied. -/
def sentBody (context : ResponseTransformContext σ) : Bytes :=
  context.connection.response.written ++ copiedBody context

section Sealing

variable {platform : Platform} {cryptoService : ICryptoService} {policy : EndpointPolicy}
  {clientId : Text}

/-- The profile the cache answers with for a caller and a policy's service. -/
def cachedProfile (gateway : Gateway) (clientId : Text) (policy : EndpointPolicy) :
    Option UserProfile :=
  gateway.cache.peek CacheValue.asUserProfile
    (PolicyCache.userProfileKey clientId (some policy.service.id))

/-- The upstream body is not copied, and the body sent is empty or the wrapper
of the body's encryption under the caller's own profile. -/
def Sealed (platform : Platform) (cryptoService : ICryptoService) (policy : EndpointPolicy)
    (clientId : Text) (response : ProxyResponse) (gateway : Gateway)
    (after : ResponseTransformContext Gateway) : Prop :=
  copiedBody after = [] ∧
    (sentBody after = [] ∨
      ∃ profile responseBody encryptedData, cachedProfile gateway clientId policy = some profile ∧
        profile.userId = clientId ∧ readAsStringAsync platform response = .ok responseBody ∧
        encryptBody platform (gatewayServices platform cryptoService) policy profile responseBody =
          .ok encryptedData ∧
        sentBody after = platform.getBytes
          (wrap platform policy.cryptoConfig.payloadWrapperFieldName encryptedData))

/-- The context after the policy was resolved. -/
def resolvedAt (resolved : Gateway) (context : ResponseTransformContext Gateway) :
    ResponseTransformContext Gateway :=
  { context with connection := { context.connection with services := resolved } }

/-- Under a policy that asks for encryption, a successful response to a caller
with a client id reaches the guarded part. -/
theorem applyAsync_guarded {context : ResponseTransformContext Gateway} {response : ProxyResponse}
    (asked : (PolicyResolver.resolvePolicyAsync platform context.connection.context.path
      context.connection.context.method context.connection.services).1 = .ok (some policy))
    (encrypts : policy.encryptResponse = true) (answered : context.proxyResponse = some response)
    (success : response.isSuccessStatusCode = true)
    (named : context.connection.context.user.clientId platform.caseMap = some clientId)
    (nonempty : clientId ≠ []) :
    applyAsync platform (gatewayServices platform cryptoService) context =
      (encryptResponse platform (gatewayServices platform cryptoService) policy response
        clientId).handle (fun _ => setSuppressed false)
          (resolvedAt (PolicyResolver.resolvePolicyAsync platform context.connection.context.path
            context.connection.context.method context.connection.services).2 context) := by
  have resolves : call ((gatewayServices platform cryptoService).policyResolver.resolvePolicyAsync
      context.connection.context.path context.connection.context.method) context =
        (.ok (some policy), resolvedAt (PolicyResolver.resolvePolicyAsync platform
          context.connection.context.path context.connection.context.method
          context.connection.services).2 context) :=
    Prod.ext asked rfl
  unfold applyAsync
  rw [Effect.bind_ok (Effect.gets_run _ _), Effect.bind_ok resolves]
  have keptClient : (some clientId).filter (fun value : Text => !value.isEmpty) = some clientId := by
    simp [nonempty]
  have keptResponse : (some response).filter ProxyResponse.isSuccessStatusCode = some response := by
    simp [success]
  simp only [encrypts, answered, named, keptClient, keptResponse, not_true_eq_false, if_false]

/-- Resolving a policy does not change the profile the cache answers with. -/
theorem cachedProfile_resolved (path method : Text) (gateway : Gateway) :
    cachedProfile (PolicyResolver.resolvePolicyAsync platform path method gateway).2 clientId policy =
      cachedProfile gateway clientId policy :=
  (PolicyResolver.resolvePolicyAsync_sameOn platform path method gateway).peek
    CacheValue.asUserProfile _ (fun _ => PolicyCache.policyKey_ne_userProfileKey _ _ _)

/-- The context after the cache was asked for the caller's profile. -/
def profileRead (clientId : Text) (policy : EndpointPolicy)
    (context : ResponseTransformContext Gateway) : ResponseTransformContext Gateway :=
  resolvedAt (PolicyCache.afterRead CacheValue.asUserProfile
    (PolicyCache.userProfileKey clientId (some policy.service.id)) context.connection.services) context

/-- The guarded part, by what the cache answers, how the body reads and what the
encryption does. -/
theorem encryptResponse_run (response : ProxyResponse) (context : ResponseTransformContext Gateway) :
    encryptResponse platform (gatewayServices platform cryptoService) policy response clientId
        context =
      match cachedProfile context.connection.services clientId policy with
      | none => (.ok (), profileRead clientId policy context)
      | some profile =>
        match readAsStringAsync platform response with
        | .error fault => (.error fault, suppressing true (profileRead clientId policy context))
        | .ok responseBody =>
          if responseBody.isEmpty then
            (.ok (), suppressing true (profileRead clientId policy context))
          else
            match encryptBody platform (gatewayServices platform cryptoService) policy profile
              responseBody with
            | .error fault => (.error fault, suppressing true (profileRead clientId policy context))
            | .ok encryptedData =>
              (.ok (), answering platform
                (wrap platform policy.cryptoConfig.payloadWrapperFieldName encryptedData)
                (suppressing true (profileRead clientId policy context))) := by
  have asked : call ((gatewayServices platform cryptoService).cache.getUserProfileAsync clientId
      (some policy.service.id)) context =
        (.ok (cachedProfile context.connection.services clientId policy),
          profileRead clientId policy context) :=
    Prod.ext (congrArg Except.ok (TwoTier.Cache.get_value oneHour)) rfl
  unfold encryptResponse
  rw [Effect.bind_ok asked]
  cases cachedProfile context.connection.services clientId policy with
  | none => rfl
  | some profile =>
    dsimp only
    rw [setSuppressed, Effect.bind_ok (Effect.update_run _ _)]
    cases reads : readAsStringAsync platform response with
    | error fault => rfl
    | ok responseBody =>
      rw [Effect.bind_ok (Effect.ofExcept_run _ _)]
      dsimp only
      split
      · rfl
      · cases encryptBody platform (gatewayServices platform cryptoService) policy profile
          responseBody with
        | error fault => rfl
        | ok encryptedData => rfl

/-- What the stage leaves of a successful response to a caller with a client id: as
it is without a profile, suppressed for an empty text, answered with what was
encrypted, and let through where the handler has lifted the suppression. -/
theorem applyAsync_run {context : ResponseTransformContext Gateway} {response : ProxyResponse}
    (asked : (PolicyResolver.resolvePolicyAsync platform context.connection.context.path
      context.connection.context.method context.connection.services).1 = .ok (some policy))
    (encrypts : policy.encryptResponse = true) (answered : context.proxyResponse = some response)
    (success : response.isSuccessStatusCode = true)
    (named : context.connection.context.user.clientId platform.caseMap = some clientId)
    (nonempty : clientId ≠ []) :
    applyAsync platform (gatewayServices platform cryptoService) context = (.ok (),
      let read := profileRead clientId policy (resolvedAt (PolicyResolver.resolvePolicyAsync platform
        context.connection.context.path context.connection.context.method
        context.connection.services).2 context)
      match cachedProfile context.connection.services clientId policy with
      | none => read
      | some profile =>
        match readAsStringAsync platform response with
        | .error _ => suppressing false read
        | .ok responseBody =>
          if responseBody.isEmpty then suppressing true read
          else
            match encryptBody platform (gatewayServices platform cryptoService) policy profile
              responseBody with
            | .error _ => suppressing false read
            | .ok encryptedData => answering platform
                (wrap platform policy.cryptoConfig.payloadWrapperFieldName encryptedData)
                (suppressing true read)) := by
  have sameProfile : cachedProfile (resolvedAt (PolicyResolver.resolvePolicyAsync platform
      context.connection.context.path context.connection.context.method
      context.connection.services).2 context).connection.services clientId policy =
        cachedProfile context.connection.services clientId policy :=
    cachedProfile_resolved _ _ _
  rw [applyAsync_guarded asked encrypts answered success named nonempty, Effect.handle,
    encryptResponse_run, sameProfile]
  cases cachedProfile context.connection.services clientId policy with
  | none => rfl
  | some profile =>
    cases readAsStringAsync platform response with
    | error fault => rfl
    | ok responseBody =>
      dsimp only
      cases responseBody.isEmpty with
      | true => rfl
      | false =>
        cases encryptBody platform (gatewayServices platform cryptoService) policy profile
          responseBody with
        | error fault => rfl
        | ok encryptedData => rfl

/-- Encryption of a response fails closed exactly when the cache answers with the
caller's profile, and the body is read and, if it is not empty as a text, encrypts
under it. -/
theorem response_sealed_iff {context : ResponseTransformContext Gateway} {response : ProxyResponse}
    (asked : (PolicyResolver.resolvePolicyAsync platform context.connection.context.path
      context.connection.context.method context.connection.services).1 = .ok (some policy))
    (encrypts : policy.encryptResponse = true) (answered : context.proxyResponse = some response)
    (success : response.isSuccessStatusCode = true) (body : response.content ≠ [])
    (named : context.connection.context.user.clientId platform.caseMap = some clientId)
    (nonempty : clientId ≠ []) (unsent : context.connection.response.written = [])
    (copies : context.suppressResponseBody = false) :
    Sealed platform cryptoService policy clientId response context.connection.services
        (applyAsync platform (gatewayServices platform cryptoService) context).2 ↔
      ∃ profile responseBody, cachedProfile context.connection.services clientId policy =
          some profile ∧
        readAsStringAsync platform response = .ok responseBody ∧
        (responseBody = [] ∨
          (profile.userId = clientId ∧ ∃ encryptedData,
            encryptBody platform (gatewayServices platform cryptoService) policy profile
              responseBody = .ok encryptedData)) := by
  rw [applyAsync_run asked encrypts answered success named nonempty]
  cases held : cachedProfile context.connection.services clientId policy with
  | none =>
    -- The body is copied.
    have copied : ¬ Sealed platform cryptoService policy clientId response
        context.connection.services (profileRead clientId policy (resolvedAt
          (PolicyResolver.resolvePolicyAsync platform context.connection.context.path
            context.connection.context.method context.connection.services).2 context)) := by
      rintro ⟨none, _⟩
      simp [copiedBody, profileRead, resolvedAt, copies, answered, body] at none
    simpa using copied
  | some profile =>
    cases reads : readAsStringAsync platform response with
    | error fault =>
      -- The body is copied here too.
      simp [Sealed, copiedBody, suppressing, profileRead, resolvedAt, answered, body]
    | ok responseBody =>
      by_cases blank : responseBody = []
      · simp [blank, Sealed, copiedBody, sentBody, suppressing, profileRead, resolvedAt, unsent]
      · have shown : responseBody.isEmpty = false := by simp [blank]
        have wrapped : ∀ encryptedData, platform.getBytes
            (wrap platform policy.cryptoConfig.payloadWrapperFieldName encryptedData) ≠ [] :=
          fun encryptedData => platform.getBytes_ne_nil _ (by simp [wrap])
        simp only [shown, Bool.false_eq_true, if_false, Option.some.injEq, Except.ok.injEq,
          exists_and_left, exists_eq_left', blank, false_or]
        cases outcome : encryptBody platform (gatewayServices platform cryptoService) policy profile
          responseBody with
        | error fault =>
          simp [Sealed, copiedBody, suppressing, profileRead, resolvedAt, answered, body]
        | ok encryptedData =>
          simp [Sealed, copiedBody, sentBody, answering, suppressing, profileRead, resolvedAt,
            unsent, wrapped, held, reads, outcome]

end Sealing

section Leak

/-- A service whose endpoint asks for encrypted responses. -/
def sealedService : Service :=
  .sample 1 "orders".toList "/orders".toList "v1".toList "orders".toList
    "[\"http://orders\"]".toList

def sealedEndpoint : Endpoint :=
  { Endpoint.sample 2 1 "read".toList "GET".toList "/read".toList with
    encryptResponse := true
    cryptoAlgorithm := some .NONE }

/-- The caller's profile in the database. -/
def aliceProfile : UserProfile where
  id := Guid.numbered 3
  userId := "alice".toList
  serviceId := some (Guid.numbered 1)
  encryptionKey := "a2V5".toList
  encryptionIv := none
  isEnabled := true

def sealedRegistry : Database :=
  { Database.ofEndpoint .sample sealedService sealedEndpoint with
    userProfiles := [aliceProfile]
    userProfiles_id := by simp
    userProfiles_pair := by simp [aliceProfile] }

def sealedPolicy : EndpointPolicy :=
  PolicyResolver.buildEndpointPolicy plainPlatform .sample sealedService sealedEndpoint

/-- What the upstream answers, without a charset. -/
def secretResponse : ProxyResponse := ⟨200, none, plainPlatform.getBytes "secret".toList⟩

/-- A response for a caller whose profile nothing has cached yet. -/
def uncachedResponse : ResponseTransformContext Gateway where
  connection :=
    { services := (PolicyResolver.refreshPoliciesAsync plainPlatform
        (Gateway.started sealedRegistry)).2
      context := HttpContext.request (Principal.subject "alice".toList)
        "/gateway/orders/read".toList "GET".toList []
      response := .fresh }
  proxyResponse := some secretResponse
  suppressResponseBody := false

theorem uncached_resolved :
    (PolicyResolver.resolvePolicyAsync plainPlatform uncachedResponse.connection.context.path
      uncachedResponse.connection.context.method uncachedResponse.connection.services).1 =
        .ok (some sealedPolicy) := by
  decide

theorem response_sealed_iff_uncached :
    Sealed plainPlatform plainCrypto sealedPolicy "alice".toList secretResponse
        uncachedResponse.connection.services
        (applyAsync plainPlatform (gatewayServices plainPlatform plainCrypto) uncachedResponse).2 ↔
      ∃ profile responseBody, cachedProfile uncachedResponse.connection.services "alice".toList
          sealedPolicy = some profile ∧
        readAsStringAsync plainPlatform secretResponse = .ok responseBody ∧
        (responseBody = [] ∨
          (profile.userId = "alice".toList ∧ ∃ encryptedData,
            encryptBody plainPlatform (gatewayServices plainPlatform plainCrypto) sealedPolicy profile
              responseBody = .ok encryptedData)) :=
  response_sealed_iff uncached_resolved rfl rfl rfl (by decide) (by decide) (by decide) rfl rfl

/-- The upstream body is sent in the clear to a caller whose profile is in the
database but not in the cache. -/
theorem uncached_profile_leaks :
    (PolicyResolver.resolvePolicyAsync plainPlatform uncachedResponse.connection.context.path
        uncachedResponse.connection.context.method uncachedResponse.connection.services).1 =
          .ok (some sealedPolicy) ∧
      sealedPolicy.encryptResponse = true ∧
      uncachedResponse.connection.context.user.clientId plainPlatform.caseMap =
        some "alice".toList ∧
      uncachedResponse.connection.services.database.profileByUserId "alice".toList
        (some sealedPolicy.service.id) = some aliceProfile ∧
      sentBody (applyAsync plainPlatform (gatewayServices plainPlatform plainCrypto)
        uncachedResponse).2 = plainPlatform.getBytes "secret".toList ∧
      ¬ Sealed plainPlatform plainCrypto sealedPolicy "alice".toList secretResponse
        uncachedResponse.connection.services
        (applyAsync plainPlatform (gatewayServices plainPlatform plainCrypto) uncachedResponse).2 := by
  refine ⟨uncached_resolved, rfl, by decide, by decide, by decide, ?_⟩
  rintro ⟨uncopied, _⟩
  have copied : copiedBody (applyAsync plainPlatform (gatewayServices plainPlatform plainCrypto)
      uncachedResponse).2 ≠ [] := by
    decide
  exact copied uncopied

end Leak

end EncryptResponseTransform

end ApiGateway
