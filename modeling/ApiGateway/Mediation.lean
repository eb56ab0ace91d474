import ApiGateway.ConfigProvider
import ApiGateway.Repositories
import ApiGateway.RouteMatching

/-!
# Complete mediation

The proxied routes carry no checks of their own, so the middleware is the only
guard in front of them. Every admission passes through a resolved policy and,
where the policy requires a token, through an authenticated caller, a found
client and a permission set that contains the endpoint. Each of the services'
calls may answer or throw in any order; the statements follow the states the
calls were made in.

Health paths bypass the checks. Every published template begins with the gateway
prefix, so no such path reaches a route.
-/

namespace ApiGateway.Middleware

open Effects

variable {σ : Type} {caseMap : CaseMap} {services : Services σ} {context : HttpContext}

/-- The permission set in effect for a client: the cached one, else the repository's. -/
inductive PermissionsFound (services : Services σ) (clientId : Guid) (before : σ)
    (permissions : List Guid) : σ → Prop where
  | cached (after : σ)
      (hit : services.cache.getClientPermissionsAsync clientId before =
        (.ok (some permissions), after)) :
      PermissionsFound services clientId before permissions after
  | loaded (missed read after : σ)
      (miss : services.cache.getClientPermissionsAsync clientId before = (.ok none, missed))
      (found : services.permissionRepo.getAuthorizedEndpointIdsAsync clientId missed =
        (.ok permissions, read))
      (kept : services.cache.setClientPermissionsAsync clientId permissions oneHour read =
        (.ok (), after)) :
      PermissionsFound services clientId before permissions after

/-- A client found by its id and allowed an endpoint. -/
structure ClientAllowed (services : Services σ) (clientId : Text) (endpointId : Guid) (before : σ) :
    Prop where
  allowed : ∃ client found permissions after,
    Found (services.cache.getClientAsync clientId)
      (services.clientRepo.getByClientIdAsync clientId)
      (fun client => services.cache.setClientAsync clientId client oneHour) before client found ∧
    PermissionsFound services client.id found permissions after ∧ endpointId ∈ permissions

/-- What a policy that requires a token asks of a caller. -/
structure CallerAllowed (caseMap : CaseMap) (services : Services σ) (context : HttpContext)
    (policy : EndpointPolicy) (before : σ) : Prop where
  authenticated : context.user.isAuthenticated = true
  client : ∃ clientId, context.user.clientId caseMap = some clientId ∧ clientId ≠ [] ∧
    ClientAllowed services clientId policy.endpoint.id before

/-- A permission set that the lookup returns is the one in effect. -/
theorem lookupPermissions_found {clientId : Guid} {before after : σ} {permissions : List Guid}
    (returned : lookupPermissions services clientId before = (.ok permissions, after)) :
    PermissionsFound services clientId before permissions after := by
  obtain ⟨cached, missed, asked, returned⟩ := Effect.bind_ok_inv returned
  cases cached with
  | some found =>
    cases returned
    exact .cached _ asked
  | none =>
    obtain ⟨loaded, read, answered, returned⟩ := Effect.bind_ok_inv returned
    obtain ⟨⟨⟩, kept, written, returned⟩ := Effect.bind_ok_inv returned
    cases returned
    exact .loaded missed read _ asked answered written

/-- An admission by the checks on a present client id rests on the client found for it
and on a permission set found for the client. -/
theorem verifyClient_rests {policy resolved : EndpointPolicy} {clientId : Text}
    {admittedId : Option Text} {client : Option Client} {before after : σ}
    (returned : verifyClient services policy clientId before =
      (.ok (.admitted resolved admittedId client), after)) :
    resolved = policy ∧ admittedId = some clientId ∧ ∃ present found permissions granted,
      client = some present ∧
        lookupClient services clientId before = (.ok (some present), found) ∧
          PermissionsFound services present.id found permissions granted ∧
            policy.endpoint.id ∈ permissions := by
  obtain ⟨answer, found, looked, returned⟩ := Effect.bind_ok_inv returned
  cases answer with
  | none => cases returned
  | some present =>
    obtain ⟨permissions, granted, listed, returned⟩ := Effect.bind_ok_inv returned
    by_cases member : policy.endpoint.id ∈ permissions
    · rw [if_pos member] at returned
      obtain ⟨⟨⟩, touched, _, returned⟩ := Effect.bind_ok_inv returned
      cases returned
      exact ⟨rfl, rfl, present, found, permissions, granted, rfl, looked,
        lookupPermissions_found listed, member⟩
    · rw [if_neg member] at returned
      cases returned

/-- So they admit only an allowed client, under the policy they were given. -/
theorem verifyClient_admitted {policy resolved : EndpointPolicy} {clientId : Text}
    {admittedId : Option Text} {client : Option Client} {before after : σ}
    (returned : verifyClient services policy clientId before =
      (.ok (.admitted resolved admittedId client), after)) :
    resolved = policy ∧ ClientAllowed services clientId policy.endpoint.id before := by
  obtain ⟨same, _, present, found, permissions, granted, _, looked, listed, member⟩ :=
    verifyClient_rests returned
  exact ⟨same, present, found, permissions, granted, cacheAside_some_iff.mp looked, listed, member⟩

theorem verifyClient_answered {policy : EndpointPolicy} {clientId text : Text} {status : Nat}
    {before after : σ}
    (returned : verifyClient services policy clientId before = (.ok (.answered status text), after)) :
    status = 403 := by
  obtain ⟨answer, found, _, returned⟩ := Effect.bind_ok_inv returned
  cases answer with
  | none =>
    cases returned
    rfl
  | some present =>
    obtain ⟨permissions, granted, _, returned⟩ := Effect.bind_ok_inv returned
    by_cases member : policy.endpoint.id ∈ permissions
    · rw [if_pos member] at returned
      obtain ⟨⟨⟩, _, _, returned⟩ := Effect.bind_ok_inv returned
      cases returned
    · rw [if_neg member] at returned
      cases returned
      rfl

/-- A caller with a claim has an identity, so passing the comparison means being
authenticated. -/
theorem authenticated_of_claim {clientId : Text}
    (present : context.user.clientId caseMap = some clientId)
    (passed : unauthenticated context.user = false) : context.user.isAuthenticated = true := by
  cases holder : context.user.identity with
  | none =>
    have anonymous := context.user.anonymous holder
    unfold Principal.clientId Principal.findFirst at present
    rw [anonymous] at present
    cases present
  | some identity => simpa [unauthenticated, Principal.isAuthenticated, holder] using passed

/-- An admission under a policy is that of a caller without a client id or is left to
the checks on its id. -/
theorem verifyCaller_cases {policy resolved : EndpointPolicy} {admittedId : Option Text}
    {client : Option Client} {before after : σ}
    (returned : verifyCaller caseMap services context policy before =
      (.ok (.admitted resolved admittedId client), after)) :
    (policy.requiresJwt && unauthenticated context.user) = false ∧
      (Text.isNullOrEmpty (context.user.clientId caseMap) && policy.requiresJwt) = false ∧
        (((context.user.clientId caseMap).filter (fun value => !value.isEmpty) = none ∧
            resolved = policy ∧ admittedId = context.user.clientId caseMap ∧ client = none) ∨
          ∃ present,
            (context.user.clientId caseMap).filter (fun value => !value.isEmpty) = some present ∧
              verifyClient services policy present before =
                (.ok (.admitted resolved admittedId client), after)) := by
  unfold verifyCaller at returned
  split at returned
  · cases returned
  · next passed =>
    dsimp only at returned
    split at returned
    · cases returned
    · next identified =>
      refine ⟨Bool.eq_false_iff.mpr passed, Bool.eq_false_iff.mpr identified, ?_⟩
      cases kept : (context.user.clientId caseMap).filter (fun value => !value.isEmpty) with
      | none =>
        rw [kept] at returned
        cases returned
        exact Or.inl ⟨rfl, rfl, rfl, rfl⟩
      | some present =>
        rw [kept] at returned
        exact Or.inr ⟨present, rfl, returned⟩

theorem verifyCaller_admitted {policy resolved : EndpointPolicy} {admittedId : Option Text}
    {client : Option Client} {before after : σ}
    (returned : verifyCaller caseMap services context policy before =
      (.ok (.admitted resolved admittedId client), after)) :
    resolved = policy ∧
      (policy.requiresJwt = true → CallerAllowed caseMap services context policy before) := by
  obtain ⟨passed, identified, ⟨kept, same, _⟩ | ⟨present, kept, checked⟩⟩ :=
    verifyCaller_cases returned
  · refine ⟨same, fun required => ?_⟩
    cases id : context.user.clientId caseMap with
    | none => simp [id, Text.isNullOrEmpty, required] at identified
    | some clientId =>
      simp [id] at kept
      simp [id, kept, Text.isNullOrEmpty, required] at identified
  · obtain ⟨named, nonempty⟩ := Option.filter_eq_some_iff.mp kept
    obtain ⟨same, allowed⟩ := verifyClient_admitted checked
    refine ⟨same, fun required => ⟨?_, present, named, by simpa using nonempty, allowed⟩⟩
    apply authenticated_of_claim named
    simpa [required] using passed

theorem verifyCaller_answered {policy : EndpointPolicy} {text : Text} {status : Nat}
    {before after : σ}
    (returned : verifyCaller caseMap services context policy before =
      (.ok (.answered status text), after)) : status = 401 ∨ status = 403 := by
  unfold verifyCaller at returned
  split at returned
  · cases returned
    exact Or.inl rfl
  · dsimp only at returned
    split at returned
    · cases returned
      exact Or.inl rfl
    · cases kept : (context.user.clientId caseMap).filter (fun value => !value.isEmpty) with
      | none =>
        rw [kept] at returned
        cases returned
      | some present =>
        rw [kept] at returned
        exact Or.inr (verifyClient_answered returned)

/-- An admission names the policy that was resolved for the request. -/
theorem authorize_admitted {policy : EndpointPolicy} {admittedId : Option Text}
    {client : Option Client} {before after : σ}
    (returned : authorize caseMap services context before =
      (.ok (.admitted policy admittedId client), after)) :
    ∃ resolved, services.policyResolver.resolvePolicyAsync context.path context.method before =
        (.ok (some policy), resolved) ∧
      (policy.requiresJwt = true → CallerAllowed caseMap services context policy resolved) := by
  obtain ⟨answer, resolved, asked, returned⟩ := Effect.bind_ok_inv returned
  cases answer with
  | none => cases returned
  | some found =>
    obtain ⟨rfl, allowed⟩ := verifyCaller_admitted returned
    exact ⟨resolved, asked, allowed⟩

theorem authorize_answered {text : Text} {status : Nat} {before after : σ}
    (returned : authorize caseMap services context before = (.ok (.answered status text), after)) :
    status = 404 ∨ status = 401 ∨ status = 403 := by
  obtain ⟨answer, resolved, _, returned⟩ := Effect.bind_ok_inv returned
  cases answer with
  | none =>
    cases returned
    exact Or.inl rfl
  | some found => exact Or.inr (verifyCaller_answered returned)

/-- The next stage was called: its call is the only exchange that says so. -/
theorem proceed_calledNext (next : Task σ Nat) (events : Nat → List (GatewayEvent × Text))
    (state : σ) : (proceed next events state).1.calledNext = true := by
  unfold proceed
  split <;> rfl

theorem gatewayPrefix_chars : DatabaseProxyConfigProvider.gatewayPathPrefix =
    '/' :: ['g', 'a', 't', 'e', 'w', 'a', 'y'] := by
  decide

theorem healthPrefix_chars : healthPrefix = ['/', 'h', 'e', 'a', 'l', 't', 'h'] := by
  decide

/-- No path begins both with the gateway prefix and with the health prefix. -/
theorem health_not_gateway {path : Text}
    (health : Text.startsWithIgnoreCase caseMap healthPrefix path = true) :
    Text.startsWithIgnoreCase caseMap ('/' :: ['g', 'a', 't', 'e', 'w', 'a', 'y']) path = false := by
  rw [Bool.eq_false_iff]
  intro gateway
  rw [RouteMatching.startsWithIgnoreCase_iff] at health gateway
  rw [healthPrefix_chars] at health
  have letters : caseMap.upper 'h' ≠ caseMap.upper 'g' := by
    rw [caseMap.upper_ascii 'h' (by decide), caseMap.upper_ascii 'g' (by decide)]
    decide
  generalize path.map caseMap.upper = upper at health gateway
  rcases upper with _ | ⟨first, _ | ⟨second, rest⟩⟩
  · simp at health
  · simp at health
  · simp only [List.map_cons, List.cons_prefix_cons] at health gateway
    exact letters (health.2.1.trans gateway.2.1.symm)

/-- No published route matches a health path, whatever the policies enumerated. -/
theorem health_route_unmatched {platform : Platform} {acceptAny : Bool}
    {policies : List EndpointPolicy} {built : DatabaseProxyConfigProvider.Built}
    (completed : DatabaseProxyConfigProvider.Completed platform acceptAny policies built)
    (matcher : RouteMatcher platform.caseMap) {path : Text}
    (health : Text.startsWithIgnoreCase platform.caseMap healthPrefix path = true)
    {route : RouteConfig} (publishes : route ∈ built.routes.values) :
    matcher.matchesPath route.routeMatch.path path = false := by
  obtain ⟨policy, _, rfl⟩ := (completed.mem_routes route).mp publishes
  rw [Bool.eq_false_iff]
  intro matched
  have leading := matcher.leads ['g', 'a', 't', 'e', 'w', 'a', 'y']
    (policy.service.basePath ++ policy.endpoint.relativePath) path (by simp) (by
      rw [← gatewayPrefix_chars]
      exact matched)
  rw [health_not_gateway health] at leading
  cases leading

/-- A refresh publishes nothing or routes without health paths. -/
theorem refreshed_route_unmatched (platform : Platform)
    (enumeration : DatabaseProxyConfigProvider.Enumeration) (gateway : Gateway)
    (matcher : RouteMatcher platform.caseMap) {path : Text}
    (health : Text.startsWithIgnoreCase platform.caseMap healthPrefix path = true) :
    (DatabaseProxyConfigProvider.refreshConfigAsync platform enumeration gateway).2.provider =
        gateway.provider ∨
      ∀ route ∈ (DatabaseProxyConfigProvider.refreshConfigAsync platform enumeration
          gateway).2.provider.config.routes,
        matcher.matchesPath route.routeMatch.path path = false := by
  obtain ⟨written, snapshot, _, _, reloaded⟩ :=
    PolicyResolver.refreshPoliciesAsync_state platform gateway
  rw [DatabaseProxyConfigProvider.refreshConfigAsync_state, reloaded]
  split
  · next built passed =>
    exact Or.inr (fun route publishes => health_route_unmatched
      (DatabaseProxyConfigProvider.buildConfig_completed passed) matcher health publishes)
  · exact Or.inl rfl

/-- Outside the health paths the next stage is called only for a request whose
policy was resolved and whose caller is allowed what the policy requires, and
every other request is answered 404, 401, 403 or 500. No published route
matches a health path. -/
theorem complete_mediation (platform : Platform) :
    (∀ (services : Services σ) (next : Task σ Nat) (context : HttpContext) (state : σ),
      Text.startsWithIgnoreCase platform.caseMap healthPrefix context.path = false →
        ((invokeAsync platform.caseMap services next context state).1.calledNext = true →
          ∃ policy resolved,
            services.policyResolver.resolvePolicyAsync context.path context.method state =
              (.ok (some policy), resolved) ∧
            (policy.requiresJwt = true →
              CallerAllowed platform.caseMap services context policy resolved)) ∧
        ((invokeAsync platform.caseMap services next context state).1.calledNext = false →
          (invokeAsync platform.caseMap services next context state).1.statusCode ∈
            [404, 401, 403, 500])) ∧
      ∀ (enumeration : DatabaseProxyConfigProvider.Enumeration) (gateway : Gateway)
        (matcher : RouteMatcher platform.caseMap) (path : Text),
        Text.startsWithIgnoreCase platform.caseMap healthPrefix path = true →
          (DatabaseProxyConfigProvider.refreshConfigAsync platform enumeration gateway).2.provider =
              gateway.provider ∨
            ∀ route ∈ (DatabaseProxyConfigProvider.refreshConfigAsync platform enumeration
                gateway).2.provider.config.routes,
              matcher.matchesPath route.routeMatch.path path = false := by
  refine ⟨?_, fun enumeration gateway matcher path health =>
    refreshed_route_unmatched platform enumeration gateway matcher health⟩
  intro services next context state outside
  unfold invokeAsync
  rw [outside]
  simp only [Bool.false_eq_true, if_false]
  rcases checked : authorize platform.caseMap services context state with ⟨ending, after⟩
  cases ending with
  | error fault =>
    refine ⟨fun called => ?_, fun _ => by simp [internalError]⟩
    simp [internalError] at called
  | ok decision =>
    cases decision with
    | answered status text =>
      refine ⟨fun called => by simp at called, fun _ => ?_⟩
      rcases authorize_answered checked with rfl | rfl | rfl <;> simp
    | admitted policy clientId client =>
      refine ⟨fun _ => ?_, fun uncalled => ?_⟩
      · obtain ⟨resolved, asked, allowed⟩ := authorize_admitted checked
        exact ⟨policy, resolved, asked, allowed⟩
      · simp only [proceed_calledNext] at uncalled
        cases uncalled

/-- A registry with one endpoint and two clients, of which the first may call it. -/
def mediatedRegistry : Database :=
  { Database.ofEndpoint .sample
      (.sample 1 "orders".toList "/orders".toList "v1".toList "orders".toList
        "[\"http://orders\"]".toList)
      (.sample 2 1 "list".toList "GET".toList "/list".toList) with
    clients := [⟨Guid.numbered 3, "alice".toList, true, none⟩,
      ⟨Guid.numbered 5, "bob".toList, true, none⟩]
    clientPermissions := [⟨Guid.numbered 6, Guid.numbered 3, Guid.numbered 2, true, none⟩]
    clients_id := by decide
    clients_clientId := by decide
    clientPermissions_id := by simp
    clientPermissions_pair := by simp }

def mediated : Gateway :=
  (PolicyResolver.refreshPoliciesAsync plainPlatform (Gateway.started mediatedRegistry)).2

def listRequest (caller : Text) : HttpContext :=
  HttpContext.request (Principal.subject caller) "/gateway/orders/list".toList "GET".toList []

/-- The first client reaches the next stage, the other one is answered. -/
theorem complete_mediation_orders :
    (∃ policy resolved,
      (gatewayServices plainPlatform).policyResolver.resolvePolicyAsync
        "/gateway/orders/list".toList "GET".toList mediated = (.ok (some policy), resolved) ∧
      (policy.requiresJwt = true → CallerAllowed plainPlatform.caseMap (gatewayServices plainPlatform)
        (listRequest "alice".toList) policy resolved)) ∧
      (invokeAsync plainPlatform.caseMap (gatewayServices plainPlatform) (pure 200)
        (listRequest "bob".toList) mediated).1.statusCode ∈ [404, 401, 403, 500] ∧
      ((DatabaseProxyConfigProvider.refreshConfigAsync plainPlatform
            DatabaseProxyConfigProvider.insertionOrder mediated).2.provider = mediated.provider ∨
        ∀ route ∈ (DatabaseProxyConfigProvider.refreshConfigAsync plainPlatform
            DatabaseProxyConfigProvider.insertionOrder mediated).2.provider.config.routes,
          (RouteMatching.segmentMatcher plainPlatform.caseMap).matchesPath route.routeMatch.path
            "/Health/live".toList = false) :=
  ⟨((complete_mediation plainPlatform).1 (gatewayServices plainPlatform) (pure 200)
      (listRequest "alice".toList) mediated (by decide)).1 (by decide),
    ((complete_mediation plainPlatform).1 (gatewayServices plainPlatform) (pure 200)
      (listRequest "bob".toList) mediated (by decide)).2 (by decide),
    (complete_mediation (σ := Gateway) plainPlatform).2 _ _ _ _ (by decide)⟩

end ApiGateway.Middleware
