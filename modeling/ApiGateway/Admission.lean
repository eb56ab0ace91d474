import ApiGateway.Mediation

/-!
# Admission by the gateway's own services

With every repository call answered, the middleware's answer to a caller with a
client id is a function of the process's state: of the policy the request
resolves to, of the client in effect under the caller's id and of the permission
set in effect for that client. Each is what the cache answers, else what the
database holds.
-/

namespace ApiGateway.Middleware

open Effects TwoTier

variable {platform : Platform} {gateway : Gateway}

/-- The client in effect under a client id. -/
def clientInEffect (gateway : Gateway) (clientId : Text) : Option Client :=
  (gateway.cache.peek CacheValue.asClient (PolicyCache.clientKey clientId)).or
    (gateway.database.clientByClientId clientId)

/-- The permission set in effect for a client row. -/
def permissionsInEffect (gateway : Gateway) (clientId : Guid) : List Guid :=
  (gateway.cache.peek CacheValue.asPermissions (PolicyCache.permissionKey clientId)).getD
    (gateway.database.authorizedEndpointIds gateway.now clientId)

/-- Equal reads of permissions put equal permission sets in effect. -/
theorem permissionsInEffect_congr {keys : Text → Prop} {left right : Gateway}
    (same : PolicyCache.SameOn keys left right) {clientId : Guid}
    (inside : keys (PolicyCache.permissionKey clientId)) :
    permissionsInEffect left clientId = permissionsInEffect right clientId := by
  rw [permissionsInEffect, same.peek _ _ inside, same.database, same.now, permissionsInEffect]

theorem clientInEffect_congr {keys : Text → Prop} {left right : Gateway}
    (same : PolicyCache.SameOn keys left right) {clientId : Text}
    (inside : keys (PolicyCache.clientKey clientId)) :
    clientInEffect left clientId = clientInEffect right clientId := by
  rw [clientInEffect, same.peek _ _ inside, same.database, clientInEffect]

/-- The client lookup ends with the client in effect and leaves permissions alone. -/
theorem lookupClient_run (platform : Platform) (connected : gateway.Connected) (clientId : Text) :
    ∃ after, lookupClient (gatewayServices platform) clientId gateway =
        (.ok (clientInEffect gateway clientId), after) ∧
      PolicyCache.SameOn PolicyCache.PermissionKey after gateway := by
  have outside : ¬ PolicyCache.PermissionKey (PolicyCache.clientKey clientId) := by
    rintro ⟨id, same⟩
    exact PolicyCache.clientKey_ne_permissionKey clientId id same.symm
  exact readAside_run PolicyCache.PermissionKey CacheValue.asClient CacheValue.client
    (fun database => database.clientByClientId clientId) outside (connected (.client clientId))

/-- The permission lookup ends with the set in effect. -/
theorem lookupPermissions_value (platform : Platform) (connected : gateway.Connected) (clientId : Guid) :
    (lookupPermissions (gatewayServices platform) clientId gateway).1 =
      .ok (permissionsInEffect gateway clientId) := by
  have fetched : (gatewayServices platform).cache.getClientPermissionsAsync clientId gateway =
      (.ok (gateway.cache.peek CacheValue.asPermissions (PolicyCache.permissionKey clientId)),
        PolicyCache.afterRead CacheValue.asPermissions (PolicyCache.permissionKey clientId) gateway) :=
    PolicyCache.read_run _ _ gateway
  unfold lookupPermissions permissionsInEffect
  rw [Effect.bind_ok fetched]
  cases gateway.cache.peek CacheValue.asPermissions (PolicyCache.permissionKey clientId) with
  | none =>
    dsimp only
    have loaded : (gatewayServices platform).permissionRepo.getAuthorizedEndpointIdsAsync clientId
        (PolicyCache.afterRead CacheValue.asPermissions (PolicyCache.permissionKey clientId) gateway) =
          (.ok (gateway.database.authorizedEndpointIds gateway.now clientId),
            PolicyCache.afterRead CacheValue.asPermissions (PolicyCache.permissionKey clientId)
              gateway) := by
      have sameTime : (PolicyCache.afterRead CacheValue.asPermissions
          (PolicyCache.permissionKey clientId) gateway).now = gateway.now :=
        Cache.get_now CacheValue.asPermissions oneHour _ gateway.cache
      rw [← sameTime]
      have reached : (PolicyCache.afterRead CacheValue.asPermissions
          (PolicyCache.permissionKey clientId) gateway).Connected := connected
      exact getAuthorizedEndpointIdsAsync_run (reached (.authorizedEndpointIds clientId))
    rw [Effect.bind_ok loaded]
    rfl
  | some permissions => rfl

/-- The answer to a caller with a client id. -/
def verdict (gateway : Gateway) (policy : EndpointPolicy) (clientId : Text) : Decision :=
  match clientInEffect gateway clientId with
  | none => .answered 403 "Client not found".toList
  | some client =>
    if policy.endpoint.id ∈ permissionsInEffect gateway client.id then
      .admitted policy (some clientId) (some client)
    else .answered 403 "Access denied to this endpoint".toList

theorem verifyClient_value (connected : gateway.Connected) (policy : EndpointPolicy)
    (clientId : Text) :
    (verifyClient (gatewayServices platform) policy clientId gateway).1 =
      .ok (verdict gateway policy clientId) := by
  obtain ⟨after, looked, same⟩ := lookupClient_run platform connected clientId
  unfold verifyClient verdict
  rw [Effect.bind_ok looked]
  cases clientInEffect gateway clientId with
  | none => rfl
  | some client =>
    dsimp only
    have listed := lookupPermissions_value platform (same.connected connected) client.id
    rw [permissionsInEffect_congr same ⟨client.id, rfl⟩] at listed
    rcases ran : lookupPermissions (gatewayServices platform) client.id after with ⟨ending, last⟩
    rw [ran] at listed
    obtain rfl : ending = .ok (permissionsInEffect gateway client.id) := listed
    rw [Effect.bind_ok ran]
    split <;> rfl

/-- A request outside the health paths by an authenticated caller with a client id. -/
structure IdentifiedRequest (platform : Platform) (context : HttpContext) (clientId : Text) : Prop where
  outside : Text.startsWithIgnoreCase platform.caseMap healthPrefix context.path = false
  authenticated : context.user.isAuthenticated = true
  named : context.user.clientId platform.caseMap = some clientId

theorem IdentifiedRequest.passes {context : HttpContext} {clientId : Text}
    (request : IdentifiedRequest platform context clientId) : unauthenticated context.user = false := by
  have authenticated := request.authenticated
  unfold Principal.isAuthenticated at authenticated
  unfold unauthenticated
  cases holder : context.user.identity with
  | none => simp [holder] at authenticated
  | some identity => simpa [holder] using authenticated

/-- An authenticated caller with a client id is answered by the verdict. -/
theorem verifyCaller_value {context : HttpContext} {clientId : Text}
    (connected : gateway.Connected) (request : IdentifiedRequest platform context clientId)
    (nonempty : clientId ≠ []) (policy : EndpointPolicy) :
    (verifyCaller platform.caseMap (gatewayServices platform) context policy gateway).1 =
      .ok (verdict gateway policy clientId) := by
  have kept : (some clientId).filter (fun value : Text => !value.isEmpty) = some clientId := by
    simp [nonempty]
  unfold verifyCaller
  rw [request.passes, request.named]
  simp only [Bool.and_false, Bool.false_eq_true, if_false, kept]
  have present : Text.isNullOrEmpty (some clientId) = false := by simp [Text.isNullOrEmpty, nonempty]
  simp only [present, Bool.false_and, Bool.false_eq_true, if_false]
  exact verifyClient_value connected policy clientId

/-- Under a policy that requires a token, a caller with an empty client id is refused. -/
theorem verifyCaller_empty {context : HttpContext} {policy : EndpointPolicy}
    (request : IdentifiedRequest platform context []) (required : policy.requiresJwt = true) :
    (verifyCaller platform.caseMap (gatewayServices platform) context policy gateway).1 =
      .ok (.answered 401 "Invalid token".toList) := by
  unfold verifyCaller
  rw [request.passes, request.named]
  simp [required, Text.isNullOrEmpty]

/-- A request that resolves to a policy is answered by the check of its caller. -/
theorem authorize_resolved {context : HttpContext} {policy : EndpointPolicy}
    (resolved : (PolicyResolver.resolvePolicyAsync platform context.path context.method gateway).1 =
      .ok (some policy)) :
    authorize platform.caseMap (gatewayServices platform) context gateway =
      verifyCaller platform.caseMap (gatewayServices platform) context policy
        (PolicyResolver.resolvePolicyAsync platform context.path context.method gateway).2 := by
  have asked : (gatewayServices platform).policyResolver.resolvePolicyAsync context.path
      context.method gateway = (.ok (some policy),
        (PolicyResolver.resolvePolicyAsync platform context.path context.method gateway).2) :=
    Prod.ext resolved rfl
  rw [authorize, Effect.bind_ok asked]

/-- Resolving a policy changes no verdict. -/
theorem verdict_resolved (path method : Text) (gateway : Gateway) (policy : EndpointPolicy)
    (clientId : Text) :
    verdict (PolicyResolver.resolvePolicyAsync platform path method gateway).2 policy clientId =
      verdict gateway policy clientId := by
  have frame := PolicyResolver.resolvePolicyAsync_sameOn platform path method gateway
  have client := clientInEffect_congr frame
    (fun _ => PolicyCache.policyKey_ne_clientKey _ clientId)
  have permissions : ∀ id, permissionsInEffect
      (PolicyResolver.resolvePolicyAsync platform path method gateway).2 id =
        permissionsInEffect gateway id := fun id =>
    permissionsInEffect_congr frame (fun _ => PolicyCache.policyKey_ne_permissionKey _ _)
  simp only [verdict, client, permissions]

/-- The answer to an authenticated caller with a client id. -/
theorem authorize_value {context : HttpContext} {clientId : Text} {policy : EndpointPolicy}
    (connected : gateway.Connected) (request : IdentifiedRequest platform context clientId)
    (nonempty : clientId ≠ [])
    (resolved : (PolicyResolver.resolvePolicyAsync platform context.path context.method gateway).1 =
      .ok (some policy)) :
    (authorize platform.caseMap (gatewayServices platform) context gateway).1 =
      .ok (verdict gateway policy clientId) := by
  have frame := PolicyResolver.resolvePolicyAsync_sameOn platform context.path context.method gateway
  rw [authorize_resolved resolved, verifyCaller_value (frame.connected connected) request nonempty,
    verdict_resolved]

/-- The next stage of a request that resolves to a policy is called exactly when
the check of its caller admits it. -/
theorem calledNext_iff {context : HttpContext} {policy : EndpointPolicy} {next : Task Gateway Nat}
    (outside : Text.startsWithIgnoreCase platform.caseMap healthPrefix context.path = false)
    (resolved : (PolicyResolver.resolvePolicyAsync platform context.path context.method gateway).1 =
      .ok (some policy)) :
    (invokeAsync platform.caseMap (gatewayServices platform) next context gateway).1.calledNext =
        true ↔
      ∃ admitted clientId client,
        (verifyCaller platform.caseMap (gatewayServices platform) context policy
          (PolicyResolver.resolvePolicyAsync platform context.path context.method gateway).2).1 =
            .ok (.admitted admitted clientId client) := by
  unfold invokeAsync
  rw [outside, authorize_resolved resolved]
  simp only [Bool.false_eq_true, if_false]
  rcases verifyCaller platform.caseMap (gatewayServices platform) context policy
    (PolicyResolver.resolvePolicyAsync platform context.path context.method gateway).2 with
    ⟨ending, after⟩
  cases ending with
  | error fault => simp [internalError]
  | ok decision =>
    cases decision with
    | answered status text => simp
    | admitted admitted clientId client => simp [proceed_calledNext]

/-- A request that requires a token is admitted exactly when its caller's client
id is not empty and the permission set in effect for the client in effect under
it contains the endpoint. -/
theorem admitted_iff {context : HttpContext} {clientId : Text} {policy : EndpointPolicy}
    (connected : gateway.Connected) (request : IdentifiedRequest platform context clientId)
    (resolved : (PolicyResolver.resolvePolicyAsync platform context.path context.method gateway).1 =
      .ok (some policy)) (required : policy.requiresJwt = true) (next : Task Gateway Nat) :
    (invokeAsync platform.caseMap (gatewayServices platform) next context gateway).1.calledNext =
        true ↔
      clientId ≠ [] ∧ ∃ client, clientInEffect gateway clientId = some client ∧
        policy.endpoint.id ∈ permissionsInEffect gateway client.id := by
  have frame := PolicyResolver.resolvePolicyAsync_sameOn platform context.path context.method gateway
  rw [calledNext_iff request.outside resolved]
  by_cases empty : clientId = []
  · subst empty
    simp [verifyCaller_empty request required]
  · rw [verifyCaller_value (frame.connected connected) request empty, verdict_resolved, verdict]
    simp only [ne_eq, empty, not_false_eq_true, true_and]
    cases clientInEffect gateway clientId with
    | none => simp
    | some found =>
      by_cases member : policy.endpoint.id ∈ permissionsInEffect gateway found.id <;> simp [member]

end ApiGateway.Middleware
