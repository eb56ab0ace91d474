import ApiGateway.AuthorizedEndpoint
import ApiGateway.CachedPath
import ApiGateway.KeyOwnership
import ApiGateway.Mediation

/-!
# Requests the proxy would forward

A published route matches every path its template covers, without regard to
case. The middleware looks the path up literally. So of the requests a route
matches, exactly those are served whose path is the endpoint's full path as it
is stored, under one of its method entries that is not empty.
-/

namespace ApiGateway.DatabaseProxyConfigProvider

open PolicyResolver RouteMatching

/-- The resolver returns the policy, and the middleware does not answer that
there is none. -/
structure ServedUnder (platform : Platform) (gateway : Gateway) (path method : Text)
    (policy : EndpointPolicy) : Prop where
  resolved : (resolvePolicyAsync platform path method gateway).1 = .ok (some policy)
  known : ∀ (context : HttpContext) (text : Text), context.path = path → context.method = method →
    (Middleware.authorize platform.caseMap (gatewayServices platform) context gateway).1 ≠
      .ok (.answered 404 text)

/-- The path is the endpoint's full path and the method one of its entries. -/
structure RequestsLiterally (platform : Platform) (path method : Text) (policy : EndpointPolicy) :
    Prop where
  path : path = fullPathOf policy.service policy.endpoint
  method : ∃ entry ∈ methodsOf policy.endpoint,
    Text.toUpperInvariant platform.caseMap method =
      Text.toUpperInvariant platform.caseMap (Text.trim entry)

variable {platform : Platform} {enumeration : Enumeration} {gateway : Gateway}

/-- A request that resolves is not answered that there is no policy. -/
theorem servedUnder_of_resolved {path method : Text} {policy : EndpointPolicy}
    (resolved : (resolvePolicyAsync platform path method gateway).1 = .ok (some policy)) :
    ServedUnder platform gateway path method policy := by
  refine ⟨resolved, ?_⟩
  rintro context text rfl rfl answered
  rw [Middleware.authorize_resolved resolved] at answered
  rcases Middleware.verifyCaller_answered (Prod.ext answered rfl) with status | status
  · cases status
  · cases status

/-- A registered policy is registered under every entry of its endpoint's methods. -/
theorem registered_under_entry {database : Database} {policy : EndpointPolicy}
    (registered : policy ∈ registeredPolicies platform database) {entry : Text}
    (listed : entry ∈ methodsOf policy.endpoint) :
    (routeKeyOf platform entry (fullPathOf policy.service policy.endpoint), policy) ∈
      registrations platform database := by
  obtain ⟨⟨key, each⟩, member, rfl⟩ := List.mem_map.mp registered
  obtain ⟨service, enabled, product, found, endpoint, owned, _, _, _, rfl⟩ :=
    (mem_registrations_iff key each).mp member
  exact (mem_registrations_iff _ _).mpr
    ⟨service, enabled, product, found, endpoint, owned, entry, listed, rfl, rfl⟩

/-- After a refresh, with nothing else cached, a request is answered as registered. -/
theorem resolved_refreshed_iff (noCommonKey : NoCommonKey platform gateway.database)
    (unretired : NoRetiredPolicy platform gateway)
    (succeeds : Succeeds platform enumeration gateway) (path method : Text)
    (policy : EndpointPolicy) :
    (resolvePolicyAsync platform path method
        (refreshConfigAsync platform enumeration gateway).2).1 = .ok (some policy) ↔
      (requestKey platform path method, policy) ∈ registrations platform gateway.database := by
  rw [resolvePolicyAsync_refreshed succeeds, (agrees_reloaded_iff.mpr unretired).snapshot]
  simp only [Except.ok.injEq]
  exact snapshot_iff_registered noCommonKey _ policy

/-- A request that an endpoint's published route matches is served under that
endpoint's policy exactly when it asks for the stored path under one of the
stored methods. -/
theorem matched_is_served_iff (noCommonKey : NoCommonKey platform gateway.database)
    (unretired : NoRetiredPolicy platform gateway)
    (succeeds : Succeeds platform enumeration gateway) {path method : Text} {route : RouteConfig}
    {policy : EndpointPolicy}
    (publishes : route ∈
      (refreshConfigAsync platform enumeration gateway).2.provider.config.routes)
    (registered : policy ∈ registeredPolicies platform gateway.database)
    (names : endpointIdOf route = some policy.endpoint.id.text)
    (matched : routeMatches platform.caseMap route path method = true) :
    ServedUnder platform (refreshConfigAsync platform enumeration gateway).2 path method policy ↔
      RequestsLiterally platform path method policy := by
  obtain ⟨built, completed, stored⟩ := refreshConfigAsync_run succeeds
  rw [stored] at publishes
  obtain ⟨_, rfl⟩ := completed.route_of_endpoint publishes registered names
  have covered : segmentsMatch platform.caseMap (segments (routeOf policy).routeMatch.path)
      (segments path) = true := ((Bool.and_eq_true _ _).mp matched).2
  have answers := resolved_refreshed_iff noCommonKey unretired succeeds path method policy
  constructor
  · intro served
    obtain ⟨entry, listed, keyed⟩ := registered_key (answers.mp served.resolved)
    have same : path = fullPathOf policy.service policy.endpoint :=
      path_of_match (fullPathOf_slash _ _) keyed covered
    subst same
    exact ⟨rfl, entry, listed, List.append_cancel_right keyed⟩
  · rintro ⟨rfl, entry, listed, sameMethod⟩
    have keyed : requestKey platform (fullPathOf policy.service policy.endpoint) method =
        routeKeyOf platform entry (fullPathOf policy.service policy.endpoint) :=
      congrArg (fun upper => upper ++ ':' :: fullPathOf policy.service policy.endpoint) sameMethod
    refine servedUnder_of_resolved (answers.mpr ?_)
    rw [keyed]
    exact registered_under_entry registered listed

/-- An imported service with an endpoint whose path has a parameter. -/
def parameterizedService : Service :=
  .sample 1 "CustomerManagement".toList "/gateway/customermanagement-smartadapter".toList
    "v1".toList "customermanagement-cluster".toList
    "[\"https://test-gateway.seabaas.co/gateway/customermanagement-smartadapter\"]".toList

def parameterizedEndpoint : Endpoint :=
  .sample 2 1 "updatecustomerapprovalstatus".toList "PATCH".toList
    "/CustomerManager/UpdateCustomerApprovalStatus/\x7bcustomerId\x7d".toList

def parameterizedRegistry : Database :=
  Database.ofEndpoint .sample parameterizedService parameterizedEndpoint

def parameterizedPolicy : EndpointPolicy :=
  buildEndpointPolicy plainPlatform .sample parameterizedService parameterizedEndpoint

/-- A path with a customer id in the parameter's place. -/
def customerPath : Text :=
  ("/gateway/gateway/customermanagement-smartadapter" ++
    "/CustomerManager/UpdateCustomerApprovalStatus/42").toList

theorem parameterized_noCommonKey : NoCommonKey plainPlatform parameterizedRegistry := by
  unfold NoCommonKey parameterizedRegistry parameterizedService parameterizedEndpoint
  repeat rw [String.toList_ofList]
  decide

theorem started_noRetiredPolicy (platform : Platform) (database : Database) :
    NoRetiredPolicy platform (Gateway.started database) :=
  fun _ _ _ => TwoTier.Cache.vacant_peek ⟨fun _ => rfl, fun _ => rfl⟩ _ _

theorem parameterized_succeeds :
    Succeeds plainPlatform insertionOrder (Gateway.started parameterizedRegistry) :=
  succeeds_of_parsable (Gateway.started_connected _) (by
    unfold parameterizedRegistry parameterizedService
    repeat rw [String.toList_ofList]
    decide)

theorem parameterized_published : routeOf parameterizedPolicy ∈
    (refreshConfigAsync plainPlatform insertionOrder
      (Gateway.started parameterizedRegistry)).2.provider.config.routes := by
  unfold parameterizedPolicy parameterizedRegistry parameterizedService parameterizedEndpoint
  repeat rw [String.toList_ofList]
  decide

theorem parameterized_matches :
    routeMatches plainPlatform.caseMap (routeOf parameterizedPolicy) customerPath "PATCH".toList =
      true := by
  unfold parameterizedPolicy parameterizedService parameterizedEndpoint customerPath
  rw [String.toList_append]
  repeat rw [String.toList_ofList]
  decide

theorem parameterized_registered :
    parameterizedPolicy ∈ registeredPolicies plainPlatform parameterizedRegistry := by
  unfold parameterizedPolicy parameterizedRegistry parameterizedService parameterizedEndpoint
  repeat rw [String.toList_ofList]
  decide

theorem matched_is_served_iff_parameterized :
    ServedUnder plainPlatform (refreshConfigAsync plainPlatform insertionOrder
        (Gateway.started parameterizedRegistry)).2 customerPath "PATCH".toList
          parameterizedPolicy ↔
      RequestsLiterally plainPlatform customerPath "PATCH".toList parameterizedPolicy :=
  matched_is_served_iff parameterized_noCommonKey (started_noRetiredPolicy _ _)
    parameterized_succeeds parameterized_published parameterized_registered
    (endpointIdOf_routeOf _) parameterized_matches

/-- A request for the path, from a user named alice. -/
def customerRequest : HttpContext :=
  HttpContext.request (Principal.subject "alice".toList) customerPath "PATCH".toList []

theorem customerRequest_not_found :
    (Middleware.authorize plainPlatform.caseMap (gatewayServices plainPlatform) customerRequest
      (refreshConfigAsync plainPlatform insertionOrder
        (Gateway.started parameterizedRegistry)).2).1 =
      .ok (.answered 404 "Endpoint not found or disabled".toList) := by
  unfold customerRequest parameterizedRegistry parameterizedService parameterizedEndpoint
    customerPath
  rw [String.toList_append]
  repeat rw [String.toList_ofList]
  decide

/-- The route matches a path with an id, and the middleware answers that there is
no such endpoint. -/
theorem parameterized_path_not_found :
    NoCommonKey plainPlatform parameterizedRegistry ∧
      Succeeds plainPlatform insertionOrder (Gateway.started parameterizedRegistry) ∧
      routeOf parameterizedPolicy ∈ (refreshConfigAsync plainPlatform insertionOrder
        (Gateway.started parameterizedRegistry)).2.provider.config.routes ∧
      routeMatches plainPlatform.caseMap (routeOf parameterizedPolicy) customerPath
        "PATCH".toList = true ∧
      ¬ ServedUnder plainPlatform (refreshConfigAsync plainPlatform insertionOrder
        (Gateway.started parameterizedRegistry)).2 customerPath "PATCH".toList
          parameterizedPolicy := by
  refine ⟨parameterized_noCommonKey, parameterized_succeeds, parameterized_published,
    parameterized_matches, fun served => ?_⟩
  exact served.known customerRequest _ (HttpContext.request_path _ _ _ _) rfl
    customerRequest_not_found

end ApiGateway.DatabaseProxyConfigProvider
