import ApiGateway.Interfaces

/-!
# The authorization middleware

The middleware resolves the request's policy, identifies the caller, checks the
caller's permission for the policy's endpoint and only then calls the next
stage. Each early return is an answer of its own. The whole body runs under one
handler, which answers 500.

`authorize` is the body up to the call of the next stage; `invokeAsync` is the
whole method. The elapsed time and the time of day in an event are readings of
clocks and are left out.
-/

namespace ApiGateway

open Effects

/-- How the checks before the next stage end. -/
inductive Decision where
  | answered (status : Nat) (text : Text)
  | admitted (policy : EndpointPolicy) (clientId : Option Text) (client : Option Client)
deriving DecidableEq

/-- An audit event. -/
structure GatewayEvent where
  correlationId : Text
  productName : Text
  serviceName : Text
  endpointName : Text
  clientId : Text
  method : Text
  path : Text
  upstreamStatusCode : Nat
deriving DecidableEq

/-- What one request made of the middleware. -/
structure Exchange where
  statusCode : Nat
  written : Text
  calledNext : Bool
  published : List (GatewayEvent × Text)
deriving DecidableEq

namespace Middleware

variable {σ : Type}

/-- The services the middleware is handed with each request. -/
structure Services (σ : Type) where
  policyResolver : IPolicyResolver σ
  clientRepo : IClientRepository σ
  permissionRepo : IClientPermissionRepository σ
  cache : IPolicyCache σ

/-- The check reads `!Identity?.IsAuthenticated == true`: an absent identity
makes the left side null, so the comparison fails and the request passes it. -/
def unauthenticated (user : Principal) : Bool :=
  user.identity.map (fun identity => !identity.isAuthenticated) == some true

/-- The client from the cache, else from the repository, which is then cached. -/
def lookupClient (services : Services σ) (clientId : Text) : Task σ (Option Client) :=
  cacheAside (services.cache.getClientAsync clientId) (services.clientRepo.getByClientIdAsync clientId)
    (fun client => services.cache.setClientAsync clientId client oneHour)

/-- The permission set from the cache, else from the repository, which is then
cached. -/
def lookupPermissions (services : Services σ) (clientId : Guid) : Task σ (List Guid) := do
  match ← services.cache.getClientPermissionsAsync clientId with
  | some permissions => pure permissions
  | none =>
    let endpointIds ← services.permissionRepo.getAuthorizedEndpointIdsAsync clientId
    services.cache.setClientPermissionsAsync clientId endpointIds oneHour
    pure endpointIds

/-- The checks on a client id that is present. -/
def verifyClient (services : Services σ) (policy : EndpointPolicy) (clientId : Text) :
    Task σ Decision := do
  match ← lookupClient services clientId with
  | none => pure (.answered 403 "Client not found".toList)
  | some client =>
    let permissions ← lookupPermissions services client.id
    if policy.endpoint.id ∈ permissions then
      Effect.update (services.clientRepo.updateLastAccessAsync client.id)
      pure (.admitted policy (some clientId) (some client))
    else pure (.answered 403 "Access denied to this endpoint".toList)

/-- The checks under a resolved policy. -/
def verifyCaller (caseMap : CaseMap) (services : Services σ) (context : HttpContext)
    (policy : EndpointPolicy) : Task σ Decision :=
  if policy.requiresJwt && unauthenticated context.user then
    pure (.answered 401 "Unauthorized".toList)
  else
    let clientId := context.user.clientId caseMap
    if Text.isNullOrEmpty clientId && policy.requiresJwt then
      pure (.answered 401 "Invalid token".toList)
    else
      match clientId.filter (fun value => !value.isEmpty) with
      | none => pure (.admitted policy clientId none)
      | some present => verifyClient services policy present

/-- Everything before the next stage, on a path outside the health checks. -/
def authorize (caseMap : CaseMap) (services : Services σ) (context : HttpContext) :
    Task σ Decision := do
  match ← services.policyResolver.resolvePolicyAsync context.path context.method with
  | none => pure (.answered 404 "Endpoint not found or disabled".toList)
  | some policy => verifyCaller caseMap services context policy

/-- The event emitted after the next stage has returned. -/
def emit (context : HttpContext) (policy : EndpointPolicy) (clientId : Option Text)
    (status : Nat) : List (GatewayEvent × Text) :=
  match clientId.filter (fun value => policy.emitEvents && !value.isEmpty) with
  | none => []
  | some present =>
    [({ correlationId := context.traceIdentifier
        productName := policy.product.name
        serviceName := policy.service.serviceName
        endpointName := policy.endpoint.endpointName
        clientId := present
        method := context.method
        path := context.path
        upstreamStatusCode := status }, policy.topicPrefix.getD [] ++ ".events".toList)]

/-- The answer of the handler around the whole body. -/
def internalError (calledNext : Bool) : Exchange where
  statusCode := 500
  written := "Internal server error".toList
  calledNext := calledNext
  published := []

/-- Call the next stage and emit what its return permits. The next stage ends
with the status it left on the response or with an exception. -/
def proceed (next : Task σ Nat) (events : Nat → List (GatewayEvent × Text)) (state : σ) :
    Exchange × σ :=
  match next state with
  | (.ok status, after) => (⟨status, [], true, events status⟩, after)
  | (.error _, after) => (internalError true, after)

/-- Paths under which requests pass without a policy. -/
def healthPrefix : Text := "/health".toList

/-- The whole method. -/
def invokeAsync (caseMap : CaseMap) (services : Services σ) (next : Task σ Nat)
    (context : HttpContext) (state : σ) : Exchange × σ :=
  if Text.startsWithIgnoreCase caseMap healthPrefix context.path then
    proceed next (fun _ => []) state
  else
    match authorize caseMap services context state with
    | (.error _, after) => (internalError false, after)
    | (.ok (.answered status text), after) => (⟨status, text, false, []⟩, after)
    | (.ok (.admitted policy clientId _), after) =>
        proceed next (emit context policy clientId) after

end Middleware

end ApiGateway
