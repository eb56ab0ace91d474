import ApiGateway.PublishedRoutes
import ApiGateway.RouteMatching

/-!
# The endpoint authorized and the endpoint proxied

The middleware looks a request up by method and literal path; the proxy matches
it against templates. Of two endpoints registered under one key the last wins,
of two under one route id the first enumerated is published. The endpoint that
is proxied is the endpoint that was authorized exactly when the authorized
endpoint's own route is published and the request's path is its own full path.

The path condition is not automatic: a stored method may itself contain a colon,
and then a key splits into method and path in more than one way.
-/

namespace ApiGateway.DatabaseProxyConfigProvider

open PolicyResolver RouteMatching

variable {platform : Platform} {enumeration : Enumeration} {gateway : Gateway}

theorem gatewayPathPrefix_chars :
    PolicyResolver.gatewayPathPrefix = ['/', 'g', 'a', 't', 'e', 'w', 'a', 'y'] := by
  decide

/-- Full paths begin with a slash. -/
theorem fullPathOf_slash (service : Service) (endpoint : Endpoint) :
    ∃ rest, fullPathOf service endpoint = '/' :: rest := by
  rw [fullPathOf, gatewayPathPrefix_chars]
  exact ⟨_, rfl⟩

/-- Where one key splits into two methods and paths, the shorter method's path
has text before a colon in front of the other path. -/
theorem key_split {method other path full : Text}
    (same : method ++ ':' :: path = other ++ ':' :: full) :
    path = full ∨ (∃ extra, path = extra ++ ':' :: full) ∨ ∃ extra, full = extra ++ ':' :: path := by
  rcases List.append_eq_append_iff.mp same with ⟨between, _, rest⟩ | ⟨between, _, rest⟩
  · cases between with
    | nil => exact Or.inl (List.cons.inj rest).2
    | cons first extra => exact Or.inr (Or.inl ⟨extra, (List.cons.inj rest).2⟩)
  · cases between with
    | nil => exact Or.inl (List.cons.inj rest).2.symm
    | cons first extra => exact Or.inr (Or.inr ⟨extra, (List.cons.inj rest).2⟩)

/-- A full path that matches a path under the same key is that path. Any other
split of the key puts a slash, or text before the first slash, too many on one side. -/
theorem path_of_match {caseMap : CaseMap} {method other path full : Text}
    (slash : ∃ rest, full = '/' :: rest) (same : method ++ ':' :: path = other ++ ':' :: full)
    (matched : segmentsMatch caseMap (segments full) (segments path) = true) : path = full := by
  obtain ⟨rest, rfl⟩ := slash
  have slashes := count_slash matched
  rcases key_split same with equal | ⟨extra, longer⟩ | ⟨extra, longer⟩
  · exact equal
  · exfalso
    obtain ⟨remaining, leading⟩ := leading_slash matched
    rw [longer] at slashes leading
    cases extra with
    | nil => simp at leading
    | cons first others =>
      obtain ⟨rfl, _⟩ := List.cons.inj leading
      simp [List.count_append] at slashes
      omega
  · exfalso
    cases extra with
    | nil => simp at longer
    | cons first others =>
      obtain ⟨rfl, tail⟩ := List.cons.inj longer
      simp [tail, List.count_append] at slashes
      omega

/-- A method entry that yields the request's key is an entry of the route, up to case. -/
theorem routeOf_matches {policy : EndpointPolicy} {method entry : Text}
    (listed : entry ∈ methodsOf policy.endpoint)
    (same : Text.toUpperInvariant platform.caseMap method =
      Text.toUpperInvariant platform.caseMap (Text.trim entry)) :
    routeMatches platform.caseMap (routeOf policy) (fullPathOf policy.service policy.endpoint)
      method = true := by
  rw [routeMatches, Bool.and_eq_true]
  refine ⟨?_, segmentsMatch_self _⟩
  rw [List.any_eq_true]
  refine ⟨Text.trim entry, List.mem_map.mpr ⟨entry, (List.mem_filter.mp listed).1, rfl⟩, ?_⟩
  simp [Text.equalsIgnoreCase, same]

/-- A route that is selected for the path of a matching route is that route: no
template matching the path is more literal than the path itself. -/
theorem selects_own {caseMap : CaseMap} {routes : List RouteConfig} {method : Text}
    {own route : RouteConfig} (listed : own ∈ routes)
    (matched : routeMatches caseMap own own.routeMatch.path method = true)
    (selected : Selects caseMap routes own.routeMatch.path method route) : own = route := by
  by_contra different
  obtain ⟨_, routeMatched, winner⟩ := selected
  have literal := winner own listed matched different
  rw [routeMatches, Bool.and_eq_true] at routeMatched
  rw [moreLiteral_path routeMatched.2] at literal
  cases literal

/-- After a successful refresh a request is answered as after reloading the policies. -/
theorem resolvePolicyAsync_refreshed (succeeds : Succeeds platform enumeration gateway)
    (path method : Text) :
    (resolvePolicyAsync platform path method
        (refreshConfigAsync platform enumeration gateway).2).1 =
      (resolvePolicyAsync platform path method (reloaded platform gateway)).1 := by
  obtain ⟨built, _, stored⟩ := refreshConfigAsync_run succeeds
  rw [stored, resolvePolicyAsync_value, resolvePolicyAsync_value]
  rfl

/-- From empty caches a request resolves to what the refreshed snapshot holds. -/
theorem resolved_from_snapshot (vacant : gateway.cache.Vacant)
    (succeeds : Succeeds platform enumeration gateway) {path method : Text} {policy : EndpointPolicy}
    (resolved : (resolvePolicyAsync platform path method
      (refreshConfigAsync platform enumeration gateway).2).1 = .ok (some policy)) :
    (snapshotOf platform gateway.database).tryGetValue (requestKey platform path method) =
      some policy := by
  rw [resolvePolicyAsync_refreshed succeeds, resolvePolicyAsync_reloaded,
    TwoTier.Cache.vacant_peek vacant, Option.or_none] at resolved
  exact Except.ok.inj resolved

/-- The selected route is the authorized endpoint's, with its service's cluster,
exactly when the path is that endpoint's full path and its own route is published. -/
theorem proxied_is_authorized_iff (vacant : gateway.cache.Vacant)
    (succeeds : Succeeds platform enumeration gateway) {path method : Text}
    {policy : EndpointPolicy} {route : RouteConfig}
    (resolved : (resolvePolicyAsync platform path method
      (refreshConfigAsync platform enumeration gateway).2).1 = .ok (some policy))
    (selected : Selects platform.caseMap
      (refreshConfigAsync platform enumeration gateway).2.provider.config.routes path method route) :
    (endpointIdOf route = some policy.endpoint.id.text ∧
        route.clusterId = policy.service.clusterId) ↔
      path = fullPathOf policy.service policy.endpoint ∧
        FirstOf routeIdOf (enumerated platform enumeration gateway.database) policy := by
  have found := resolved_from_snapshot vacant succeeds resolved
  have registered := snapshot_registered found
  obtain ⟨entry, listed, keyed⟩ := registered_key registered
  obtain ⟨built, completed, stored⟩ := refreshConfigAsync_run succeeds
  rw [stored] at selected
  constructor
  · rintro ⟨names, _⟩
    obtain ⟨first, rfl⟩ :=
      completed.route_of_endpoint selected.1 (registered_of_mem registered) names
    have matched := (Bool.and_eq_true _ _ ▸ selected.2.1 :
      _ ∧ segmentsMatch platform.caseMap (segments (routeOf policy).routeMatch.path)
        (segments path) = true).2
    exact ⟨path_of_match (fullPathOf_slash _ _) keyed matched, first⟩
  · rintro ⟨rfl, first⟩
    have publishes := (completed.mem_routes (routeOf policy)).mpr ⟨policy, first, rfl⟩
    have sameMethod : Text.toUpperInvariant platform.caseMap method =
        Text.toUpperInvariant platform.caseMap (Text.trim entry) :=
      List.append_cancel_right keyed
    obtain rfl := selects_own publishes (routeOf_matches listed sameMethod) selected
    exact ⟨rfl, rfl⟩

/-- A first version whose base path is a template. -/
def templatedService : Service :=
  .sample 1 "orders".toList "/\x7bversion\x7d/orders".toList "v1".toList "orders-v1".toList
    "[\"http://orders-v1\"]".toList

/-- A second version whose base path the template covers. -/
def coveredService : Service :=
  .sample 2 "orders".toList "/v2/orders".toList "v2".toList "orders-v2".toList
    "[\"http://orders-v2\"]".toList

def templatedEndpoint : Endpoint := .sample 3 1 "list".toList "GET".toList "/list".toList

def coveredEndpoint : Endpoint := .sample 4 2 "list".toList "GET".toList "/list".toList

/-- A registry with both versions. -/
def coveringTemplate : Database :=
  Database.ofPair .sample templatedService coveredService templatedEndpoint coveredEndpoint
    (by decide) (by decide) (by decide) (by decide)

def templatedPolicy : EndpointPolicy :=
  buildEndpointPolicy plainPlatform .sample templatedService templatedEndpoint

def coveredPolicy : EndpointPolicy :=
  buildEndpointPolicy plainPlatform .sample coveredService coveredEndpoint

/-- The process that has refreshed from the registry with both versions. -/
def coveringGateway : Gateway :=
  (refreshConfigAsync plainPlatform insertionOrder (Gateway.started coveringTemplate)).2

theorem coveringTemplate_succeeds :
    Succeeds plainPlatform insertionOrder (Gateway.started coveringTemplate) :=
  succeeds_of_parsable (Gateway.started_connected _) (by decide)

/-- A request for the second version is authorized as such. -/
theorem covered_resolved :
    (resolvePolicyAsync plainPlatform "/gateway/v2/orders/list".toList "GET".toList
      coveringGateway).1 = .ok (some coveredPolicy) := by
  decide

/-- The same request selects the first version's route. -/
theorem covered_selects :
    Selects plainPlatform.caseMap coveringGateway.provider.config.routes
      "/gateway/v2/orders/list".toList "GET".toList (routeOf templatedPolicy) := by
  unfold Selects
  decide

theorem proxied_is_authorized_iff_covered :
    (endpointIdOf (routeOf templatedPolicy) = some coveredPolicy.endpoint.id.text ∧
        (routeOf templatedPolicy).clusterId = coveredPolicy.service.clusterId) ↔
      "/gateway/v2/orders/list".toList =
          fullPathOf coveredPolicy.service coveredPolicy.endpoint ∧
        FirstOf routeIdOf (enumerated plainPlatform insertionOrder coveringTemplate) coveredPolicy :=
  proxied_is_authorized_iff ⟨fun _ => rfl, fun _ => rfl⟩ coveringTemplate_succeeds covered_resolved
    covered_selects

/-- The second version is authorized and the first is proxied. -/
theorem covered_request_proxied_elsewhere :
    Succeeds plainPlatform insertionOrder (Gateway.started coveringTemplate) ∧
      (resolvePolicyAsync plainPlatform "/gateway/v2/orders/list".toList "GET".toList
        coveringGateway).1 = .ok (some coveredPolicy) ∧
      Selects plainPlatform.caseMap coveringGateway.provider.config.routes
        "/gateway/v2/orders/list".toList "GET".toList (routeOf templatedPolicy) ∧
      endpointIdOf (routeOf templatedPolicy) ≠ some coveredPolicy.endpoint.id.text ∧
      (routeOf templatedPolicy).clusterId ≠ coveredPolicy.service.clusterId :=
  ⟨coveringTemplate_succeeds, covered_resolved, covered_selects, by decide, by decide⟩

end ApiGateway.DatabaseProxyConfigProvider
