import ApiGateway.ConcurrentCalls
import ApiGateway.GatewayRuns

/-!
# Concurrent requests

A request is the program of all its stages: the middleware's checks, the
decryption, the headers, the upstream call and the encryption of the response.
Each stage resolves the request's policy again. What the stages do to the
request and the response is theirs alone; here they are their calls of the
shared services, and the policy each of them uses.
-/

namespace ApiGateway.Concurrent

open Effects TwoTier Interleaving

section Stages

/-- The text of the request body, if no stage has read it yet. -/
def requestBody (platform : Platform) (context : HttpContext) : Text :=
  match context.body with
  | .incoming bytes => platform.readText bytes
  | .replaced bytes => platform.readText bytes
  | .drained => []

/-- The request body carries a payload. -/
def carriesPayload (platform : Platform) (context : HttpContext) (policy : EndpointPolicy) : Bool :=
  !Text.isNullOrWhiteSpace (some (requestBody platform context)) &&
    (DecryptTransform.extractPayload platform policy.cryptoConfig.payloadWrapperFieldName
      (requestBody platform context)).toOption.any Option.isSome

/-- The caller whose profile the decryption stage looks up, if it gets that far. -/
def decryptedFor (platform : Platform) (context : HttpContext) (policy : EndpointPolicy) : Option Text :=
  if policy.payloadExpectation = .Decrypted ∧ carriesPayload platform context policy then
    (context.user.clientId platform.caseMap).filter (fun value => !value.isEmpty)
  else none

/-- The decryption stage as its calls: the policy, and a profile under a handler.
It yields the policy it uses. -/
def decrypt (platform : Platform) (context : HttpContext) : Routine (Option EndpointPolicy) := do
  match ← resolvePolicyAsync platform context.path context.method with
  | none => pure none
  | some policy =>
    match decryptedFor platform context policy with
    | none => pure (some policy)
    | some clientId =>
      Program.handle
        (do
          let _ ← lookupProfile clientId policy.service.id
          pure (some policy))
        (fun _ => pure (some policy))

/-- The caller whose profile the encryption stage looks up, if it gets that far. -/
def encryptedFor (platform : Platform) (context : HttpContext) (proxyResponse : Option ProxyResponse)
    (policy : EndpointPolicy) : Option Text :=
  if policy.encryptResponse ∧ proxyResponse.any ProxyResponse.isSuccessStatusCode then
    (context.user.clientId platform.caseMap).filter (fun value => !value.isEmpty)
  else none

/-- The encryption stage as its calls. It yields the policy it uses. -/
def encrypt (platform : Platform) (context : HttpContext) (proxyResponse : Option ProxyResponse) :
    Routine (Option EndpointPolicy) := do
  match ← resolvePolicyAsync platform context.path context.method with
  | none => pure none
  | some policy =>
    match encryptedFor platform context proxyResponse policy with
    | none => pure (some policy)
    | some clientId =>
      let _ ← read CacheValue.asUserProfile
        (PolicyCache.userProfileKey clientId (some policy.service.id))
      pure (some policy)

theorem resolvePolicyAsync_ends (platform : Platform) (path method : Text) (gateway : Gateway) :
    ∃ resolved after, PolicyResolver.resolvePolicyAsync platform path method gateway =
      (.ok resolved, after) :=
  ⟨_, _, Prod.ext (PolicyResolver.resolvePolicyAsync_value path method gateway) rfl⟩

/-- The guarded part of the encryption changes the services by one read. -/
theorem encryptResponse_services (platform : Platform) (cryptoService : ICryptoService)
    (policy : EndpointPolicy) (response : ProxyResponse) (clientId : Text)
    (context : ResponseTransformContext Gateway) :
    (Effect.handle (EncryptResponseTransform.encryptResponse platform
        (EncryptResponseTransform.gatewayServices platform cryptoService) policy response clientId)
        (fun _ => EncryptResponseTransform.setSuppressed false) context).2.connection.services =
      PolicyCache.afterRead CacheValue.asUserProfile
        (PolicyCache.userProfileKey clientId (some policy.service.id)) context.connection.services := by
  have asked : (EncryptResponseTransform.call ((EncryptResponseTransform.gatewayServices platform
      cryptoService).cache.getUserProfileAsync clientId (some policy.service.id)) context : _ × _) =
        (.ok (EncryptResponseTransform.cachedProfile context.connection.services clientId policy),
          EncryptResponseTransform.profileRead clientId policy context) :=
    Prod.ext (congrArg Except.ok (Cache.get_value oneHour)) rfl
  rw [EncryptResponseTransform.encryptResponse, Effect.handle_bind_ok asked]
  refine (?_ : Preserves (BehindResponse (fun services => services =
    PolicyCache.afterRead CacheValue.asUserProfile (PolicyCache.userProfileKey clientId
      (some policy.service.id)) context.connection.services)) _) _ rfl
  refine preserves_handle ?_ (fun _ => preserves_update fun _ same => same)
  cases EncryptResponseTransform.cachedProfile context.connection.services clientId policy with
  | none => exact preserves_pure _
  | some profile =>
    refine preserves_bind (preserves_update fun _ same => same) (fun _ => ?_)
    refine preserves_bind (preserves_ofExcept _) (fun _ => ?_)
    split
    · exact preserves_pure _
    · exact preserves_bind (preserves_ofExcept _) (fun _ => preserves_update fun _ same => same)

/-- Uninterrupted, the stage's calls leave the services as the stage does. -/
theorem encrypt_alone (platform : Platform) (cryptoService : ICryptoService)
    (context : ResponseTransformContext Gateway) :
    (EncryptResponseTransform.applyAsync platform
        (EncryptResponseTransform.gatewayServices platform cryptoService) context).2.connection.services =
      (uninterrupted (encrypt platform context.connection.context context.proxyResponse)
        context.connection.services).2 := by
  obtain ⟨resolved, after, ran⟩ := resolvePolicyAsync_ends platform context.connection.context.path
    context.connection.context.method context.connection.services
  have asked := resolvePolicyAsync_alone platform context.connection.context.path
    context.connection.context.method
  unfold uninterrupted at asked
  unfold encrypt EncryptResponseTransform.applyAsync
  rw [uninterrupted, Program.alone_bind, asked, Effect.bind_ok ran, Effect.bind_ok (Effect.gets_run _ _)]
  have called : (EncryptResponseTransform.call ((EncryptResponseTransform.gatewayServices platform
      cryptoService).policyResolver.resolvePolicyAsync context.connection.context.path
        context.connection.context.method) context : _ × _) =
      (.ok resolved, EncryptResponseTransform.resolvedAt after context) := by
    unfold EncryptResponseTransform.call EncryptResponseTransform.gatewayServices
      PolicyResolver.policyResolver
    dsimp only
    rw [ran]
    rfl
  rw [Effect.bind_ok called]
  cases resolved with
  | none => rfl
  | some policy =>
    dsimp only
    cases requested : policy.encryptResponse with
    | false => simp [encryptedFor, requested]; rfl
    | true =>
      cases answered : context.proxyResponse.filter ProxyResponse.isSuccessStatusCode with
      | none =>
        have unsuccessful : context.proxyResponse.any ProxyResponse.isSuccessStatusCode = false := by
          rw [Option.filter_eq_none_iff] at answered
          cases response : context.proxyResponse with
          | none => rfl
          | some value => simpa using answered value response
        simp [encryptedFor, requested, unsuccessful]
        rfl
      | some response =>
        obtain ⟨present, success⟩ := Option.filter_eq_some_iff.mp answered
        have successful : context.proxyResponse.any ProxyResponse.isSuccessStatusCode = true := by
          rw [present]
          exact success
        simp only [encryptedFor, requested, successful, not_true_eq_false, if_false, and_self, if_true]
        cases (context.connection.context.user.clientId platform.caseMap).filter
            (fun value => !value.isEmpty) with
        | none => rfl
        | some clientId =>
          dsimp only
          rw [encryptResponse_services, Program.alone_bind]
          have looked := read_alone CacheValue.asUserProfile
            (PolicyCache.userProfileKey clientId (some policy.service.id))
          unfold uninterrupted at looked
          rw [looked, Effect.bind_ok (PolicyCache.read_run _ _ _)]
          rfl

/-- The connection with its body read. -/
theorem readBody_drains (platform : Platform) (connection : Connection Gateway) :
    DecryptTransform.readBody platform connection =
      (.ok (requestBody platform connection.context), DecryptTransform.drained connection) := by
  unfold DecryptTransform.readBody requestBody Connection.changeContext
  rw [Effect.bind_ok (Effect.gets_run _ _), Effect.bind_ok (Effect.update_run _ _)]
  cases connection.context.body <;> rfl

/-- The guarded part of the decryption changes the services by one lookup, if it
gets that far. -/
theorem decryptBody_services (platform : Platform) (cryptoService : ICryptoService)
    (policy : EndpointPolicy) (clientId : Text) (connection : Connection Gateway) :
    (Effect.handle (DecryptTransform.decryptBody platform
        (DecryptTransform.gatewayServices platform cryptoService) policy clientId)
        (fun _ => Connection.respond 400 (platform.getBytes "Failed to decrypt payload".toList))
        connection).2.services =
      if carriesPayload platform connection.context policy then
        (DecryptTransform.lookupProfile (DecryptTransform.gatewayServices platform cryptoService)
          clientId policy.service.id connection.services).2
      else connection.services := by
  have kept : ∀ services : Gateway, Preserves (Behind (fun reached => reached = services))
      (Connection.respond 400 (platform.getBytes "Failed to decrypt payload".toList)) :=
    fun services => preserves_update fun _ same => same
  rw [DecryptTransform.decryptBody, Effect.handle_bind_ok (readBody_drains platform connection)]
  unfold carriesPayload
  cases blank : Text.isNullOrWhiteSpace (some (requestBody platform connection.context)) with
  | true => rfl
  | false =>
    cases extracted : DecryptTransform.extractPayload platform
        policy.cryptoConfig.payloadWrapperFieldName (requestBody platform connection.context) with
    | error fault => rfl
    | ok payload =>
      have returned : (Effect.ofExcept (.ok payload) : Stage Gateway (Option Text))
          (DecryptTransform.drained connection) = (.ok payload, DecryptTransform.drained connection) :=
        rfl
      rw [if_neg Bool.false_ne_true, Effect.handle_bind_ok returned]
      cases payload with
      | none => rfl
      | some encryptedData =>
        dsimp only
        rw [DecryptTransform.decryptPayload]
        rcases looked : DecryptTransform.lookupProfile (DecryptTransform.gatewayServices platform
          cryptoService) clientId policy.service.id connection.services with ⟨ending, after⟩
        cases ending with
        | error fault =>
          have thrown := Connection.call_error (DecryptTransform.drained connection) looked
          rw [Effect.handle_error (Effect.bind_error thrown)]
          rfl
        | ok found =>
          have called := Connection.call_ok (DecryptTransform.drained connection) looked
          rw [Effect.handle_bind_ok called]
          refine (?_ : Preserves (Behind (fun services => services = after)) _) _ rfl
          refine preserves_handle ?_ (fun _ => kept after)
          cases found with
          | none => exact preserves_update fun _ same => same
          | some profile =>
            exact preserves_bind (preserves_ofExcept _) (fun _ => preserves_update fun _ same => same)

/-- Uninterrupted, the stage's calls leave the services as the stage does. -/
theorem decrypt_alone (platform : Platform) (cryptoService : ICryptoService)
    (connection : Connection Gateway) :
    (DecryptTransform.applyAsync platform
        (DecryptTransform.gatewayServices platform cryptoService) connection).2.services =
      (uninterrupted (decrypt platform connection.context) connection.services).2 := by
  obtain ⟨resolved, after, ran⟩ := resolvePolicyAsync_ends platform connection.context.path
    connection.context.method connection.services
  have asked := resolvePolicyAsync_alone platform connection.context.path connection.context.method
  unfold uninterrupted at asked
  have called := Connection.call_ok connection ran
  unfold decrypt DecryptTransform.applyAsync
  rw [uninterrupted, Program.alone_bind, asked, Effect.bind_ok ran, Effect.bind_ok (Effect.gets_run _ _)]
  have called : (Connection.call ((DecryptTransform.gatewayServices platform
      cryptoService).policyResolver.resolvePolicyAsync connection.context.path
        connection.context.method) connection : _ × _) =
      (.ok resolved, DecryptTransform.resolvedAt after connection) := Connection.call_ok connection ran
  rw [Effect.bind_ok called]
  cases resolved with
  | none => rfl
  | some policy =>
    dsimp only
    by_cases expects : policy.payloadExpectation = .Decrypted
    · simp only [decryptedFor, expects, ne_eq, not_true_eq_false, if_false, true_and]
      cases (connection.context.user.clientId platform.caseMap).filter (fun value => !value.isEmpty) with
      | none => simp; rfl
      | some clientId =>
        dsimp only
        rw [decryptBody_services]
        have context : (DecryptTransform.resolvedAt after connection).context = connection.context := rfl
        rw [context]
        cases carriesPayload platform connection.context policy with
        | false => rfl
        | true =>
          have looked := lookupProfile_alone platform cryptoService clientId policy.service.id
          unfold uninterrupted at looked
          rw [if_pos rfl, if_pos rfl, Program.alone_handle, Program.alone_bind, looked]
          rcases ended : DecryptTransform.lookupProfile (DecryptTransform.gatewayServices platform
            cryptoService) clientId policy.service.id after with ⟨ending, reached⟩
          cases ending with
          | error fault =>
            rw [Effect.handle_error (Effect.bind_error ended)]
            exact congrArg Prod.snd ended
          | ok found =>
            rw [Effect.handle_bind_ok ended]
            exact congrArg Prod.snd ended
    · simp [decryptedFor, expects]
      rfl

end Stages

/-- How a call ends. -/
inductive Outcome where
  | answered (status : Nat) (text : Text)
  | served (authorized : EndpointPolicy) (client : Option Client)
      (decrypting heading encrypting : Option EndpointPolicy)
  | refreshed

/-- The stages after the middleware has admitted a request under a policy. The
header stage only resolves its policy; then the upstream answers. -/
def forward (platform : Platform) (context : HttpContext) (proxyResponse : Option ProxyResponse)
    (authorized : EndpointPolicy) (client : Option Client) : Routine Outcome := do
  let decrypting ← decrypt platform context
  let heading ← resolvePolicyAsync platform context.path context.method
  let encrypting ← encrypt platform context proxyResponse
  pure (.served authorized client decrypting heading encrypting)

/-- A request on a path outside the health checks, under the middleware's handler. -/
def serve (platform : Platform) (context : HttpContext) (proxyResponse : Option ProxyResponse) :
    Routine Outcome :=
  Program.handle
    (do
      match ← authorize platform context with
      | .answered status text => pure (.answered status text)
      | .admitted policy _ client => forward platform context proxyResponse policy client)
    (fun _ => pure (.answered 500 "Internal server error".toList))

/-- Who calls. -/
inductive Actor where
  | requests (context : HttpContext) (proxyResponse : Option ProxyResponse)
  | refreshesPolicies
  | cycles

/-- The program of a call. -/
def launch (platform : Platform) : Actor → Routine Outcome
  | .requests context proxyResponse => serve platform context proxyResponse
  | .refreshesPolicies => do
    refreshPoliciesAsync platform
    pure .refreshed
  | .cycles => do
    refreshAllAsync platform
    pure .refreshed

/-- The calls of one process. -/
def process (platform : Platform) : System Action Answer Fault Outcome Gateway Change Actor where
  execute := execute
  alter := alter
  launch := fun actor _ => launch platform actor

end ApiGateway.Concurrent
