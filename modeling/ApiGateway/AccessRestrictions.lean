import ApiGateway.Revocation

/-!
# Stored access restrictions

A service row may list required scopes and allowed clients, and a client row
allowed addresses. The resolver parses the two lists of the service into the
policy, and an unreadable list becomes the empty one. No stage reads any of the
three. So they are enforced exactly where there is nothing to enforce: on rows
whose restrictions no request of the client could fail.
-/

namespace ApiGateway

open Effects TwoTier

/-- The scopes of a token: the pieces of its scope claims between spaces. -/
def Principal.scopes (user : Principal) : List Text :=
  (user.claims.filter (fun claim =>
    decide (claim.type = "scope".toList ∨ claim.type = "scp".toList))).flatMap
      (fun claim => Text.splitRemoveEmpty ' ' claim.value)

namespace Middleware

/-- A stored text is a JSON array of strings. -/
def IsStringArray (platform : Platform) (stored : Text) : Prop :=
  ∃ items : List Text, platform.deserializeStrings stored = .ok (some (items.map some))

/-- The lists of a service that restrict access, where stored, are readable. -/
def Readable (platform : Platform) (service : Service) : Prop :=
  ∀ stored, service.requiredScopes = some stored ∨ service.allowedClients = some stored →
    IsStringArray platform stored

/-- A request of a client keeps to every restriction. What an address list allows
is a parameter: no code reads one. -/
structure KeepsTo (platform : Platform) (allows : Text → Option Text → Prop) (policy : EndpointPolicy)
    (client : Client) (context : HttpContext) : Prop where
  scopes : ∀ scope ∈ policy.requiredScopes, scope ∈ context.user.scopes.map some
  clients : policy.allowedClients ≠ [] → some client.clientId ∈ policy.allowedClients
  addresses : ∀ stored, client.allowedIpAddresses = some stored →
    allows stored context.remoteIpAddress
  readable : Readable platform policy.service

/-- A request of a client is handed to the proxy under a policy. -/
structure HandedOver (platform : Platform) (gateway : Gateway) (policy : EndpointPolicy)
    (client : Client) (context : HttpContext) : Prop where
  outside : Text.startsWithIgnoreCase platform.caseMap healthPrefix context.path = false
  named : context.user.clientId platform.caseMap = some client.clientId
  admitted : (authorize platform.caseMap (gatewayServices platform) context gateway).1 =
    .ok (.admitted policy (some client.clientId) (some client))

/-- Whatever the state of the gateway, a request handed over under a policy that
requires a token keeps to every restriction. -/
def Enforced (platform : Platform) (allows : Text → Option Text → Prop) (policy : EndpointPolicy)
    (client : Client) : Prop :=
  ∀ gateway context, policy.requiresJwt = true →
    HandedOver platform gateway policy client context →
      KeepsTo platform allows policy client context

/-- The rows restrict nothing that a request of the client could fail. -/
structure NothingToEnforce (platform : Platform) (allows : Text → Option Text → Prop)
    (service : Service) (client : Client) : Prop where
  scopes : PolicyResolver.parseJsonArray platform service.requiredScopes = []
  clients : PolicyResolver.parseJsonArray platform service.allowedClients ≠ [] →
    some client.clientId ∈ PolicyResolver.parseJsonArray platform service.allowedClients
  addresses : ∀ stored, client.allowedIpAddresses = some stored → ∀ remote, allows stored remote
  readable : Readable platform service

section Construction

variable {platform : Platform}

/-- A request of a client whose token has no scopes. -/
def plainRequest (clientId : Text) (remote : Option Text) : HttpContext where
  pathValue := none
  method := "GET".toList
  user := Principal.subject clientId
  traceIdentifier := "trace".toList
  remoteIpAddress := remote
  body := .incoming []
  contentLength := none
  contentType := none

/-- A process that has cached a policy, a client and its permission. -/
def holding (platform : Platform) (policy : EndpointPolicy) (client : Client) : Gateway :=
  { Gateway.started Database.vacant with
    cache := (Gateway.started Database.vacant).cache.setAll oneHour oneHour
      [(PolicyCache.policyKey (PolicyResolver.requestKey platform [] "GET".toList), .policy policy),
        (PolicyCache.clientKey client.clientId, .client client),
        (PolicyCache.permissionKey client.id, .permissions [policy.endpoint.id])] }

theorem plainRequest_identified (platform : Platform) (clientId : Text) (remote : Option Text) :
    IdentifiedRequest platform (plainRequest clientId remote) clientId where
  outside := rfl
  authenticated := rfl
  named := by
    simp [plainRequest, Principal.subject, Principal.clientId, Principal.findFirst,
      Text.equalsIgnoreCase]

theorem plainRequest_scopes (clientId : Text) (remote : Option Text) :
    (plainRequest clientId remote).user.scopes = [] := by
  have subject : ¬ ("sub".toList = "scope".toList ∨ "sub".toList = "scp".toList) := by
    decide
  simp only [plainRequest, Principal.subject, Principal.scopes, List.filter_cons, subject,
    decide_false, Bool.false_eq_true, if_false, List.filter_nil, List.flatMap_nil]

/-- The pairs that the process has cached, the last first. -/
def heldPairs (platform : Platform) (policy : EndpointPolicy) (client : Client) :
    List (Text × CacheValue) :=
  [(PolicyCache.permissionKey client.id, .permissions [policy.endpoint.id]),
    (PolicyCache.clientKey client.clientId, .client client),
    (PolicyCache.policyKey (PolicyResolver.requestKey platform [] "GET".toList), .policy policy)]

/-- Both tiers took every pair. -/
theorem holding_peek (platform : Platform) (policy : EndpointPolicy) (client : Client) {α : Type}
    (view : CacheValue → Option α) {key : Text} (value : CacheValue)
    (held : Dictionary.lookupIn key (heldPairs platform policy client) = some value) :
    (holding platform policy client).cache.peek view key = view value :=
  (Cache.peek_setAll_written oneHour_pos oneHour_pos held).trans rfl

/-- What the process has cached is what it answers with. -/
theorem holding_verdict (platform : Platform) (policy : EndpointPolicy) (client : Client) :
    (PolicyResolver.resolvePolicyAsync platform [] "GET".toList
        (holding platform policy client)).1 = .ok (some policy) ∧
      verdict (holding platform policy client) policy client.clientId =
        .admitted policy (some client.clientId) (some client) := by
  have cachedPolicy : (holding platform policy client).cache.peek CacheValue.asPolicy
      (PolicyCache.policyKey (PolicyResolver.requestKey platform [] "GET".toList)) = some policy :=
    holding_peek platform policy client CacheValue.asPolicy (.policy policy)
      (by simp [heldPairs, Dictionary.lookupIn, Ne.symm])
  have cachedClient : (holding platform policy client).cache.peek CacheValue.asClient
      (PolicyCache.clientKey client.clientId) = some client :=
    holding_peek platform policy client CacheValue.asClient (.client client)
      (by simp [heldPairs, Dictionary.lookupIn, Ne.symm])
  have cachedPermissions : (holding platform policy client).cache.peek CacheValue.asPermissions
      (PolicyCache.permissionKey client.id) = some [policy.endpoint.id] :=
    holding_peek platform policy client CacheValue.asPermissions
      (.permissions [policy.endpoint.id]) (by simp [heldPairs, Dictionary.lookupIn])
  constructor
  · rw [PolicyResolver.resolvePolicyAsync_value, cachedPolicy, Option.some_or]
  · simp [verdict, clientInEffect, permissionsInEffect, cachedClient, cachedPermissions]

theorem holding_handsOver (policy : EndpointPolicy) (client : Client) (nonempty : client.clientId ≠ [])
    (remote : Option Text) :
    HandedOver platform (holding platform policy client) policy client
      (plainRequest client.clientId remote) := by
  have identified := plainRequest_identified platform client.clientId remote
  obtain ⟨resolved, admits⟩ := holding_verdict platform policy client
  refine ⟨identified.outside, identified.named, ?_⟩
  rw [authorize_value (fun _ => rfl) identified nonempty resolved, admits]

end Construction

variable {platform : Platform} {allows : Text → Option Text → Prop}

/-- A request handed over under a policy that requires a token names a client. -/
theorem HandedOver.nonempty {gateway : Gateway} {policy : EndpointPolicy} {client : Client}
    {context : HttpContext} (handed : HandedOver platform gateway policy client context)
    (required : policy.requiresJwt = true) : client.clientId ≠ [] := by
  obtain ⟨_, _, allowed⟩ := authorize_admitted (Prod.ext handed.admitted rfl)
  obtain ⟨clientId, named, nonempty, _⟩ := (allowed required).client
  rw [← Option.some.inj (named.symm.trans handed.named)]
  exact nonempty

/-- The restrictions of rows under a policy that requires a token are enforced
exactly when there is nothing to enforce or the client has an empty client id. -/
theorem restrictions_enforced_iff (platform : Platform) (allows : Text → Option Text → Prop)
    (product : Product) (service : Service) (endpoint : Endpoint) (client : Client) :
    Enforced platform allows
        (PolicyResolver.buildEndpointPolicy platform product service endpoint) client ↔
      (service.requiresJwt = true → client.clientId ≠ [] →
        NothingToEnforce platform allows service client) := by
  constructor
  · intro enforced required nonempty
    have keeps := fun remote => enforced _ _ required
      (holding_handsOver (PolicyResolver.buildEndpointPolicy platform product service endpoint) client
        nonempty remote)
    refine ⟨?_, (keeps none).clients, fun stored present remote =>
      (keeps remote).addresses stored present, (keeps none).readable⟩
    have scopes := (keeps none).scopes
    rw [plainRequest_scopes] at scopes
    exact List.eq_nil_iff_forall_not_mem.mpr (fun scope member => by simpa using scopes scope member)
  · intro nothing gateway context required handed
    obtain ⟨scopes, clients, addresses, readable⟩ := nothing required (handed.nonempty required)
    refine ⟨fun scope member => ?_, clients, fun stored present => addresses stored present _, readable⟩
    have absent : scope ∈ PolicyResolver.parseJsonArray platform service.requiredScopes := member
    rw [scopes] at absent
    cases absent

/-- A service with a required scope and the client of a registry with one endpoint. -/
def scopedService : Service :=
  { PolicyResolver.oneService with requiredScopes := some "[\"orders.read\"]".toList }

def scopedPolicy : EndpointPolicy :=
  PolicyResolver.buildEndpointPolicy plainPlatform .sample scopedService
    PolicyResolver.oneServiceEndpoint

def scopedRegistry : Database :=
  { PolicyRefreshService.grantedRegistry true with
    services := [scopedService]
    services_id := by simp
    services_name := by simp }

/-- The caller's token has no scopes, and the request is handed to the proxy. -/
theorem missing_scope_handed_over :
    HandedOver plainPlatform
        (Runs.run (perform plainPlatform) [.refreshesAll] (Gateway.started scopedRegistry))
        scopedPolicy (PolicyRefreshService.grantedClient true) PolicyRefreshService.grantedRequest ∧
      PolicyRefreshService.grantedRequest.user.scopes = [] ∧
      ¬ Enforced plainPlatform (fun _ _ => True) scopedPolicy
        (PolicyRefreshService.grantedClient true) := by
  have handed : HandedOver plainPlatform
      (Runs.run (perform plainPlatform) [.refreshesAll] (Gateway.started scopedRegistry))
      scopedPolicy (PolicyRefreshService.grantedClient true) PolicyRefreshService.grantedRequest :=
    ⟨by decide, by decide, by decide⟩
  have unscoped : PolicyRefreshService.grantedRequest.user.scopes = [] := by
    decide
  refine ⟨handed, unscoped, fun enforced => ?_⟩
  have keeps := enforced _ _ rfl handed
  have listed : some "orders.read".toList ∈ scopedPolicy.requiredScopes := by
    decide
  have included := keeps.scopes _ listed
  rw [unscoped] at included
  cases included

end Middleware

end ApiGateway
