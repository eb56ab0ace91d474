import ApiGateway.ConfigProvider

/-!
# The upstream of a published route

A route names its cluster by the cluster id of its service, and the cluster
published under that id is built from the first published policy to carry it.
Cluster ids are free text and not unique, so the cluster is the service's own
exactly when published routes share a cluster id only within one service.
-/

namespace ApiGateway.DatabaseProxyConfigProvider

/-- A cluster that is a service's own upstream. -/
structure OwnUpstream (platform : Platform) (service : Service) (cluster : ClusterConfig) : Prop where
  addresses : ∃ destinations, platform.deserializeStrings service.destinations = .ok destinations ∧
    cluster.destinations.values.map DestinationConfig.address = destinations.getD []
  names : cluster.destinations.keys.Nodup
  identity : Dictionary.lookupIn "ServiceId".toList cluster.metadata = some service.id.text
  balancing : cluster.loadBalancingPolicy = loadBalancingText service.loadBalancingPolicy
  timeout : cluster.activityTimeoutSeconds = service.requestTimeoutSeconds

/-- The cluster a route names: the only published one with its cluster id. -/
structure NamedCluster (config : DatabaseProxyConfig) (route : RouteConfig) (cluster : ClusterConfig) :
    Prop where
  published : cluster ∈ config.clusters
  named : cluster.clusterId = route.clusterId
  only : ∀ other ∈ config.clusters, other.clusterId = route.clusterId → other = cluster

/-- Every route that names a service by its id names that service's own upstream. -/
def ServesOwnUpstream (platform : Platform) (database : Database)
    (config : DatabaseProxyConfig) : Prop :=
  ∀ route ∈ config.routes, ∀ service ∈ database.services,
    Dictionary.lookupIn "ServiceId".toList route.metadata = some service.id.text →
      ∃ cluster, NamedCluster config route cluster ∧ OwnUpstream platform service cluster

section Passes

variable {platform : Platform} {acceptAny : Bool} {policies : List EndpointPolicy} {built : Built}

/-- A published cluster was built from the first published policy with its id. -/
theorem Completed.mem_clusters (completed : Completed platform acceptAny policies built)
    (cluster : ClusterConfig) :
    cluster ∈ built.clusters.values ↔
      ∃ policy, FirstOf clusterIdOf (published policies) policy ∧
        buildClusterConfig platform acceptAny policy.service = .ok cluster := by
  constructor
  · intro value
    obtain ⟨⟨id, each⟩, stored, rfl⟩ := List.mem_map.mp value
    obtain ⟨policy, first, _, made⟩ :=
      (completed.clusters id each).mp ((Dictionary.mem_entries_iff _ id each).mp stored)
    exact ⟨policy, first, made⟩
  · rintro ⟨policy, first, made⟩
    have found := (completed.clusters (clusterIdOf policy) cluster).mpr ⟨policy, first, rfl, made⟩
    exact List.mem_map.mpr ⟨(_, cluster), (Dictionary.mem_entries_iff _ _ cluster).mpr found, rfl⟩

/-- The cluster that a published policy's route names is built from the first
published policy with the same cluster id. -/
theorem Completed.named_cluster (completed : Completed platform acceptAny policies built)
    (source : Nat) {policy : EndpointPolicy} (publishes : policy ∈ published policies) :
    ∃ leader cluster, FirstOf clusterIdOf (published policies) leader ∧
      clusterIdOf leader = clusterIdOf policy ∧
      buildClusterConfig platform acceptAny leader.service = .ok cluster ∧
      NamedCluster (configOf built source) (routeOf policy) cluster := by
  obtain ⟨leader, first, same⟩ := exists_firstOf clusterIdOf publishes
  obtain ⟨cluster, made⟩ := completed.resolved leader first
  refine ⟨leader, cluster, first, same, made, ?_, ?_, ?_⟩
  · exact (completed.mem_clusters cluster).mpr ⟨leader, first, made⟩
  · exact (buildClusterConfig_service made).1.trans same
  · intro other present named
    obtain ⟨another, firstAnother, otherMade⟩ := (completed.mem_clusters other).mp present
    have shared : clusterIdOf another = clusterIdOf leader :=
      ((buildClusterConfig_service otherMade).1.symm.trans named).trans same.symm
    have equal := firstAnother.unique first shared
    rw [equal, made] at otherMade
    exact (Except.ok.inj otherMade).symm

/-- A cluster built from a service is that service's own upstream. -/
theorem ownUpstream_of_built {service : Service} {cluster : ClusterConfig}
    (made : buildClusterConfig platform acceptAny service = .ok cluster) :
    OwnUpstream platform service cluster := by
  obtain ⟨_, balancing, timeout, identity⟩ := buildClusterConfig_service made
  exact ⟨buildClusterConfig_destinations made, cluster.destinations.distinct, identity, balancing,
    timeout⟩

end Passes

variable {platform : Platform} {enumeration : Enumeration} {gateway : Gateway}

/-- After a successful refresh every route goes to its own service's upstream
exactly when published policies that share a cluster id belong to one service. -/
theorem serves_own_upstream_iff (succeeds : Succeeds platform enumeration gateway) :
    ServesOwnUpstream platform gateway.database
        (refreshConfigAsync platform enumeration gateway).2.provider.config ↔
      ∀ left ∈ published (enumerated platform enumeration gateway.database),
        ∀ right ∈ published (enumerated platform enumeration gateway.database),
          left.service.clusterId = right.service.clusterId → left.service.id = right.service.id := by
  obtain ⟨built, completed, stored⟩ := refreshConfigAsync_run succeeds
  have registered : ∀ policy ∈ published (enumerated platform enumeration gateway.database),
      policy ∈ PolicyResolver.registeredPolicies platform gateway.database := fun policy member =>
    enumerated_registered ((mem_firstBy_iff routeIdOf _ policy).mp member).mem
  rw [stored]
  constructor
  · intro served left leftPublished right rightPublished shared
    have identified : ∀ policy ∈ published (enumerated platform enumeration gateway.database),
        ∀ cluster, NamedCluster (configOf built gateway.provider.sources) (routeOf policy) cluster →
          Dictionary.lookupIn "ServiceId".toList cluster.metadata = some policy.service.id.text := by
      intro policy publishes cluster named
      obtain ⟨other, otherNamed, own⟩ := served (routeOf policy)
        ((completed.mem_routes _).mpr ⟨policy, (mem_firstBy_iff routeIdOf _ policy).mp publishes, rfl⟩)
        policy.service (PolicyResolver.registered_rows (registered policy publishes)).service rfl
      rw [otherNamed.only cluster named.published named.named]
      exact own.identity
    obtain ⟨_, cluster, _, _, _, named⟩ :=
      completed.named_cluster gateway.provider.sources leftPublished
    have namedByRight : NamedCluster (configOf built gateway.provider.sources) (routeOf right) cluster :=
      ⟨named.published, named.named.trans shared, fun other present sameId =>
        named.only other present (sameId.trans shared.symm)⟩
    have texts := (identified left leftPublished cluster named).symm.trans
      (identified right rightPublished cluster namedByRight)
    exact Guid.ext_text (Option.some.inj texts)
  · intro oneService route publishedRoute service row names
    obtain ⟨policy, first, rfl⟩ := (completed.mem_routes route).mp publishedRoute
    have publishes := (mem_firstBy_iff routeIdOf _ policy).mpr first
    obtain ⟨leader, cluster, leading, sameCluster, made, named⟩ :=
      completed.named_cluster gateway.provider.sources publishes
    refine ⟨cluster, named, ?_⟩
    have leaderPublished : leader ∈ published _ := leading.mem
    have sameService : leader.service = policy.service :=
      PolicyResolver.registered_service_unique (registered leader leaderPublished)
        (registered policy publishes) (oneService leader leaderPublished policy publishes sameCluster)
    have rowService : policy.service = service := by
      refine Database.row_unique gateway.database.services_id
        (PolicyResolver.registered_rows (registered policy publishes)).service row ?_
      exact Guid.ext_text (Option.some.inj names)
    rw [← rowService, ← sameService]
    exact ownUpstream_of_built made

/-- Two services registered under the cluster id the admin form fills in. -/
def sharedClusterId : Database :=
  Database.ofPair .sample
    (.sample 1 "orders".toList "/orders".toList "v1".toList "primary".toList
      "[\"http://orders\"]".toList)
    (.sample 2 "billing".toList "/billing".toList "v1".toList "primary".toList
      "[\"http://billing\"]".toList)
    (.sample 3 1 "list".toList "GET".toList "/list".toList)
    (.sample 4 2 "list".toList "GET".toList "/list".toList)
    (by decide) (by decide) (by decide) (by decide)

theorem sharedClusterId_succeeds :
    Succeeds plainPlatform insertionOrder (Gateway.started sharedClusterId) :=
  succeeds_of_parsable (Gateway.started_connected _) (by decide)

theorem serves_own_upstream_iff_shared :
    ServesOwnUpstream plainPlatform sharedClusterId
        (refreshConfigAsync plainPlatform insertionOrder
          (Gateway.started sharedClusterId)).2.provider.config ↔
      ∀ left ∈ published (enumerated plainPlatform insertionOrder sharedClusterId),
        ∀ right ∈ published (enumerated plainPlatform insertionOrder sharedClusterId),
          left.service.clusterId = right.service.clusterId → left.service.id = right.service.id :=
  serves_own_upstream_iff sharedClusterId_succeeds

/-- The second service's route goes to the first service's destinations. -/
theorem shared_cluster_id_misroutes :
    Succeeds plainPlatform insertionOrder (Gateway.started sharedClusterId) ∧
      ¬ ServesOwnUpstream plainPlatform sharedClusterId
        (refreshConfigAsync plainPlatform insertionOrder
          (Gateway.started sharedClusterId)).2.provider.config := by
  refine ⟨sharedClusterId_succeeds, ?_⟩
  intro served
  have billingRoute : ∃ route ∈ (refreshConfigAsync plainPlatform insertionOrder
      (Gateway.started sharedClusterId)).2.provider.config.routes,
        Dictionary.lookupIn "ServiceId".toList route.metadata = some (Guid.numbered 2).text := by
    decide
  have ordersClusters : ∀ cluster ∈ (refreshConfigAsync plainPlatform insertionOrder
      (Gateway.started sharedClusterId)).2.provider.config.clusters,
        Dictionary.lookupIn "ServiceId".toList cluster.metadata = some (Guid.numbered 1).text := by
    decide
  obtain ⟨route, publishedRoute, names⟩ := billingRoute
  obtain ⟨cluster, named, own⟩ := served route publishedRoute _
    (List.mem_cons_of_mem _ List.mem_cons_self) names
  have texts := (ordersClusters cluster named.published).symm.trans own.identity
  exact absurd (Option.some.inj texts) (by decide)

end ApiGateway.DatabaseProxyConfigProvider
