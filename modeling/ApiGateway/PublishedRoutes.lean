import ApiGateway.Upstreams

/-!
# The route of an endpoint

Routes are identified by service name and endpoint name joined by a dash, and
the first policy enumerated under such a name is the only one published. The
schema allows one service name under several versions and products, and dashes
inside names, so two endpoints can share the name. Exactly then one of them
loses its route.
-/

namespace ApiGateway.DatabaseProxyConfigProvider

open PolicyResolver

/-- The endpoint a route names in its metadata. -/
def endpointIdOf (route : RouteConfig) : Option Text :=
  Dictionary.lookupIn "EndpointId".toList route.metadata

@[simp] theorem endpointIdOf_routeOf (policy : EndpointPolicy) :
    endpointIdOf (routeOf policy) = some policy.endpoint.id.text := rfl

/-- The only route that names an endpoint has its full path and a published cluster. -/
def KeepsRoute (config : DatabaseProxyConfig) (policy : EndpointPolicy) : Prop :=
  ∃ route ∈ config.routes, endpointIdOf route = some policy.endpoint.id.text ∧
    route.routeMatch.path = fullPathOf policy.service policy.endpoint ∧
    (∃ cluster ∈ config.clusters, cluster.clusterId = route.clusterId) ∧
    ∀ other ∈ config.routes, endpointIdOf other = some policy.endpoint.id.text → other = route

/-- Every endpoint that owns a key of the snapshot keeps its route, and route
ids are distinct. -/
def LosesNoRoute (gateway : Gateway) : Prop :=
  (∀ policy ∈ gateway.policySnapshot.values, KeepsRoute gateway.provider.config policy) ∧
    (gateway.provider.config.routes.map RouteConfig.routeId).Nodup

/-- No two endpoints are registered under one key. -/
def NoCommonKey (platform : Platform) (database : Database) : Prop :=
  ∀ left ∈ registrations platform database, ∀ right ∈ registrations platform database,
    left.1 = right.1 → left.2.endpoint.id = right.2.endpoint.id

/-- No two registered endpoints share service name, dash, endpoint name. -/
def NoCommonRouteId (platform : Platform) (database : Database) : Prop :=
  ∀ left ∈ registeredPolicies platform database, ∀ right ∈ registeredPolicies platform database,
    routeIdOf left = routeIdOf right → left.endpoint.id = right.endpoint.id

variable {platform : Platform} {enumeration : Enumeration} {gateway : Gateway}

/-- Without common keys every registered policy owns the keys it was registered under. -/
theorem registered_owns_key {database : Database} (noCommonKey : NoCommonKey platform database)
    {policy : EndpointPolicy} (registered : policy ∈ registeredPolicies platform database) :
    policy ∈ (snapshotOf platform database).values := by
  obtain ⟨⟨key, each⟩, member, rfl⟩ := List.mem_map.mp registered
  cases found : (snapshotOf platform database).tryGetValue key with
  | none =>
    exact absurd (List.mem_map.mpr ⟨(key, each), member, rfl⟩) ((snapshot_none_iff key).mp found)
  | some owner =>
    have ownerRegistered := snapshot_registered found
    have same := noCommonKey _ ownerRegistered _ member rfl
    have equal : owner = each :=
      registered_unique (registered_of_mem ownerRegistered) registered same
    exact equal ▸ snapshot_value_of_key found

/-- The routes of a completed pass have distinct ids. -/
theorem Completed.routeIds_nodup {acceptAny : Bool} {policies : List EndpointPolicy} {built : Built}
    (completed : Completed platform acceptAny policies built) :
    (built.routes.values.map RouteConfig.routeId).Nodup := by
  have ids : built.routes.values.map RouteConfig.routeId = (published policies).map routeIdOf := by
    rw [completed.values, List.map_map]
    rfl
  rw [ids]
  exact firstBy_keys_nodup routeIdOf policies

/-- A route that names a registered policy's endpoint is that policy's route. -/
theorem Completed.route_of_endpoint {acceptAny : Bool} {database : Database} {built : Built}
    (completed : Completed platform acceptAny (enumerated platform enumeration database) built)
    {route : RouteConfig} (publishes : route ∈ built.routes.values) {policy : EndpointPolicy}
    (registered : policy ∈ registeredPolicies platform database)
    (names : endpointIdOf route = some policy.endpoint.id.text) :
    FirstOf routeIdOf (enumerated platform enumeration database) policy ∧
      route = routeOf policy := by
  obtain ⟨other, first, rfl⟩ := (completed.mem_routes route).mp publishes
  have same : other.endpoint.id = policy.endpoint.id := Guid.ext_text (Option.some.inj names)
  have equal := registered_unique (enumerated_registered first.mem) registered same
  exact ⟨equal ▸ first, by rw [equal]⟩

/-- A published policy keeps its route. -/
theorem Completed.keepsRoute {acceptAny : Bool} {database : Database} {built : Built}
    (completed : Completed platform acceptAny (enumerated platform enumeration database) built)
    (source : Nat) {policy : EndpointPolicy}
    (first : FirstOf routeIdOf (enumerated platform enumeration database) policy) :
    KeepsRoute (configOf built source) policy := by
  obtain ⟨_, cluster, _, _, _, named⟩ :=
    completed.named_cluster source ((mem_firstBy_iff routeIdOf _ policy).mpr first)
  refine ⟨routeOf policy, (completed.mem_routes _).mpr ⟨policy, first, rfl⟩,
    endpointIdOf_routeOf policy, rfl, ⟨cluster, named.published, named.named⟩, ?_⟩
  intro other publishes names
  exact (completed.route_of_endpoint publishes (enumerated_registered first.mem) names).2

/-- After a successful refresh of a registry without common keys, no endpoint
loses its route exactly when no two registered endpoints share a route id. -/
theorem loses_no_route_iff (noCommonKey : NoCommonKey platform gateway.database)
    (succeeds : Succeeds platform enumeration gateway) :
    LosesNoRoute (refreshConfigAsync platform enumeration gateway).2 ↔
      NoCommonRouteId platform gateway.database := by
  obtain ⟨built, completed, stored⟩ := refreshConfigAsync_run succeeds
  rw [stored]
  constructor
  · rintro ⟨kept, _⟩ left leftRegistered right rightRegistered shared
    have published : ∀ policy ∈ registeredPolicies platform gateway.database,
        FirstOf routeIdOf (enumerated platform enumeration gateway.database) policy := by
      intro policy registered
      obtain ⟨route, publishes, names, _⟩ := kept policy (registered_owns_key noCommonKey registered)
      exact (completed.route_of_endpoint publishes registered names).1
    have equal := (published left leftRegistered).unique (published right rightRegistered) shared
    rw [equal]
  · intro distinct
    refine ⟨?_, completed.routeIds_nodup⟩
    intro policy value
    have member : policy ∈ enumerated platform enumeration gateway.database :=
      (mem_enumerated_iff policy).mpr value
    obtain ⟨first, leading, shared⟩ := exists_firstOf routeIdOf member
    have equal : first = policy :=
      registered_unique (enumerated_registered leading.mem) (enumerated_registered member)
        (distinct first (enumerated_registered leading.mem) policy (enumerated_registered member) shared)
    exact completed.keepsRoute gateway.provider.sources (equal ▸ leading)

/-- Two versions of one service, each with an endpoint of the same name. -/
def twoVersions : Database :=
  Database.ofPair .sample
    (.sample 1 "orders".toList "/v1/orders".toList "v1".toList "orders-v1".toList
      "[\"http://orders-v1\"]".toList)
    (.sample 2 "orders".toList "/v2/orders".toList "v2".toList "orders-v2".toList
      "[\"http://orders-v2\"]".toList)
    (.sample 5 1 "list".toList "GET".toList "/list".toList)
    (.sample 6 2 "list".toList "GET".toList "/list".toList)
    (by decide) (by decide) (by decide) (by decide)

theorem twoVersions_noCommonKey : NoCommonKey plainPlatform twoVersions := by
  unfold NoCommonKey
  decide

theorem twoVersions_succeeds :
    Succeeds plainPlatform insertionOrder (Gateway.started twoVersions) :=
  succeeds_of_parsable (Gateway.started_connected _) (by decide)

theorem loses_no_route_iff_twoVersions :
    LosesNoRoute
        (refreshConfigAsync plainPlatform insertionOrder (Gateway.started twoVersions)).2 ↔
      NoCommonRouteId plainPlatform twoVersions :=
  loses_no_route_iff twoVersions_noCommonKey twoVersions_succeeds

/-- The second version's endpoint owns a key and has no route. -/
theorem second_version_loses_route :
    NoCommonKey plainPlatform twoVersions ∧
      Succeeds plainPlatform insertionOrder (Gateway.started twoVersions) ∧
      ¬ LosesNoRoute
        (refreshConfigAsync plainPlatform insertionOrder (Gateway.started twoVersions)).2 := by
  refine ⟨twoVersions_noCommonKey, twoVersions_succeeds, ?_⟩
  rintro ⟨kept, _⟩
  have owner : ∃ policy ∈ (refreshConfigAsync plainPlatform insertionOrder
      (Gateway.started twoVersions)).2.policySnapshot.values,
        policy.endpoint.id = Guid.numbered 6 := by
    decide
  have absent : ∀ route ∈ (refreshConfigAsync plainPlatform insertionOrder
      (Gateway.started twoVersions)).2.provider.config.routes,
        endpointIdOf route ≠ some (Guid.numbered 6).text := by
    decide
  obtain ⟨policy, value, identity⟩ := owner
  obtain ⟨route, publishes, names, _⟩ := kept policy value
  rw [identity] at names
  exact absent route publishes names

end ApiGateway.DatabaseProxyConfigProvider
