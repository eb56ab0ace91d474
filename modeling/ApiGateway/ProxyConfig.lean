import ApiGateway.Interfaces
import ApiGateway.Library.Dictionary

/-!
# Routes and clusters built from policies

One pass over the policies fills two dictionaries. A policy whose route id is
already present is skipped; otherwise its route is added, and its service's
cluster too unless the cluster id is present. Building a cluster reads the
service's destinations, so the pass can fail.

The characterization of a completed pass is stated without dictionaries: the
routes are those of the policies first to carry their route id, and a cluster
is that of the first of these to carry its cluster id.
-/

namespace ApiGateway

structure RouteMatch where
  path : Text
  methods : List Text
deriving DecidableEq

/-- A route. Each transform is a dictionary with the one pair listed. -/
structure RouteConfig where
  routeId : Text
  clusterId : Text
  routeMatch : RouteMatch
  transforms : List (Text × Text)
  metadata : List (Text × Text)
deriving DecidableEq

structure DestinationConfig where
  address : NullableText
deriving DecidableEq

structure SessionAffinityCookieConfig where
  maxAgeSeconds : Int
  httpOnly : Bool
  securePolicy : Text
  sameSite : Text
deriving DecidableEq

structure SessionAffinityConfig where
  enabled : Bool
  policy : Text
  affinityKeyName : Text
  cookie : SessionAffinityCookieConfig
deriving DecidableEq

structure ActiveHealthCheckConfig where
  enabled : Bool
  intervalSeconds : Int
  path : Option Text
  timeoutSeconds : Int
deriving DecidableEq

structure PassiveHealthCheckConfig where
  enabled : Bool
  policy : Text
  reactivationPeriodSeconds : Int
deriving DecidableEq

structure HealthCheckConfig where
  active : Option ActiveHealthCheckConfig
  passive : Option PassiveHealthCheckConfig
deriving DecidableEq

structure HttpClientConfig where
  requestHeaderEncoding : Text
  dangerousAcceptAnyServerCertificate : Bool
deriving DecidableEq

structure ClusterConfig where
  clusterId : Text
  destinations : Dictionary Text DestinationConfig
  loadBalancingPolicy : Text
  sessionAffinity : Option SessionAffinityConfig
  healthCheck : Option HealthCheckConfig
  httpClient : HttpClientConfig
  activityTimeoutSeconds : Int
  metadata : List (Text × Text)

namespace DatabaseProxyConfigProvider

/-- The prefix of every proxied path. -/
def gatewayPathPrefix : Text := "/gateway".toList

def boolText : Bool → Text
  | true => "True".toList
  | false => "False".toList

def intText : Int → Text
  | .ofNat value => Nat.toDigits 10 value
  | .negSucc value => '-' :: Nat.toDigits 10 (value + 1)

def loadBalancingText : LoadBalancingPolicy → Text
  | .RoundRobin => "RoundRobin".toList
  | .LeastRequests => "LeastRequests".toList
  | .Random => "Random".toList
  | .PowerOfTwoChoices => "PowerOfTwoChoices".toList

/-- Service name, dash, endpoint name. -/
def routeIdOf (policy : EndpointPolicy) : Text :=
  policy.service.serviceName ++ '-' :: policy.endpoint.endpointName

/-- Prefix, base path, relative path. -/
def routePathOf (policy : EndpointPolicy) : Text :=
  gatewayPathPrefix ++ (policy.service.basePath ++ policy.endpoint.relativePath)

/-- The route of a policy. Empty method entries are kept. -/
def routeOf (policy : EndpointPolicy) : RouteConfig where
  routeId := routeIdOf policy
  clusterId := policy.service.clusterId
  routeMatch :=
    { path := routePathOf policy
      methods := (Text.split ',' policy.endpoint.httpMethod).map Text.trim }
  transforms :=
    [("PathPattern".toList,
        policy.endpoint.upstreamPathTemplate.getD policy.endpoint.relativePath),
     ("RequestHeadersCopy".toList, "true".toList),
     ("RequestHeaderOriginalHost".toList, "false".toList),
     ("X-Forwarded".toList, "Set".toList),
     ("ResponseHeadersCopy".toList, "true".toList)]
  metadata :=
    [("EndpointId".toList, policy.endpoint.id.text),
     ("ServiceId".toList, policy.service.id.text),
     ("RequiresJwt".toList, boolText policy.service.requiresJwt)]

/-- The name of the destination at a position. -/
def destinationName (index : Nat) : Text := "destination".toList ++ Nat.toDigits 10 index

/-- Fill the destinations from a position on. -/
def addDestinations (index : Nat) :
    List NullableText → Dictionary Text DestinationConfig → Dictionary Text DestinationConfig
  | [], filled => filled
  | address :: rest, filled =>
      addDestinations (index + 1) rest (filled.set (destinationName index) ⟨address⟩)

def sessionAffinityOf (service : Service) : Option SessionAffinityConfig :=
  if service.sessionAffinityEnabled then
    some
      { enabled := true
        policy := "Cookie".toList
        affinityKeyName := service.sessionAffinityCookieName
        cookie := ⟨service.sessionAffinityTtlSeconds, true, "SameAsRequest".toList, "Lax".toList⟩ }
  else none

def healthCheckOf (service : Service) : Option HealthCheckConfig :=
  if service.healthCheckEnabled || service.passiveHealthCheckEnabled then
    some
      { active :=
          if service.healthCheckEnabled then
            some ⟨true, service.healthCheckIntervalSeconds, service.healthCheckPath, 10⟩
          else none
        passive :=
          if service.passiveHealthCheckEnabled then
            some ⟨true, "TransportFailureRate".toList, service.passiveHealthReactivationSeconds⟩
          else none }
  else none

/-- The cluster of a service. A JSON null stands for no destinations; a text
that does not parse is an exception. -/
def buildClusterConfig (platform : Platform) (acceptAnyCertificate : Bool) (service : Service) :
    Except Fault ClusterConfig :=
  match platform.deserializeStrings service.destinations with
  | .error fault => .error fault
  | .ok destinations => .ok
    { clusterId := service.clusterId
      destinations := addDestinations 0 (destinations.getD []) Dictionary.empty
      loadBalancingPolicy := loadBalancingText service.loadBalancingPolicy
      sessionAffinity := sessionAffinityOf service
      healthCheck := healthCheckOf service
      httpClient := ⟨"utf-8".toList, acceptAnyCertificate⟩
      activityTimeoutSeconds := service.requestTimeoutSeconds
      metadata :=
        [("ServiceId".toList, service.id.text),
         ("ServiceName".toList, service.serviceName),
         ("CircuitBreakerEnabled".toList, boolText service.circuitBreakerEnabled),
         ("CircuitBreakerThreshold".toList, intText service.circuitBreakerThreshold),
         ("CircuitBreakerDurationSeconds".toList, intText service.circuitBreakerDurationSeconds),
         ("RetryEnabled".toList, boolText service.retryEnabled),
         ("RetryCount".toList, intText service.retryCount),
         ("RetryDelayMs".toList, intText service.retryDelayMs)] }

/-- The two dictionaries under construction. -/
structure Built where
  routes : Dictionary Text RouteConfig
  clusters : Dictionary Text ClusterConfig

/-- One round of the pass. -/
def addPolicy (platform : Platform) (acceptAnyCertificate : Bool) (built : Built)
    (policy : EndpointPolicy) : Except Fault Built :=
  if built.routes.containsKey (routeIdOf policy) then .ok built
  else
    let routes := built.routes.set (routeIdOf policy) (routeOf policy)
    if built.clusters.containsKey policy.service.clusterId then .ok ⟨routes, built.clusters⟩
    else
      match buildClusterConfig platform acceptAnyCertificate policy.service with
      | .error fault => .error fault
      | .ok cluster => .ok ⟨routes, built.clusters.set policy.service.clusterId cluster⟩

/-- The pass over the enumerated policies. -/
def buildConfig (platform : Platform) (acceptAnyCertificate : Bool)
    (policies : List EndpointPolicy) : Except Fault Built :=
  policies.foldlM (addPolicy platform acceptAnyCertificate) ⟨Dictionary.empty, Dictionary.empty⟩

/-- The policies whose routes are published. -/
def published (policies : List EndpointPolicy) : List EndpointPolicy := firstBy routeIdOf policies

/-- The cluster id of a policy's service. -/
def clusterIdOf (policy : EndpointPolicy) : Text := policy.service.clusterId

/-- Positions have distinct names. -/
theorem destinationName_injective {left right : Nat}
    (same : destinationName left = destinationName right) : left = right :=
  Text.digits_injective (List.append_cancel_left same)

/-- Destinations are appended in order. The names used so far belong to earlier
positions, so each assignment meets an absent name. -/
theorem addDestinations_values (index : Nat) (addresses : List NullableText)
    (filled : Dictionary Text DestinationConfig)
    (earlier : ∀ name ∈ filled.keys, ∃ position < index, name = destinationName position) :
    (addDestinations index addresses filled).values =
      filled.values ++ addresses.map DestinationConfig.mk := by
  induction addresses generalizing index filled with
  | nil => simp [addDestinations]
  | cons address rest ih =>
    have absent : filled.tryGetValue (destinationName index) = none := by
      by_contra present
      obtain ⟨position, before, same⟩ :=
        earlier _ ((filled.mem_keys_iff (destinationName index)).mpr present)
      have equal := destinationName_injective same
      omega
    have appended := Dictionary.entries_set_absent absent (DestinationConfig.mk address)
    rw [addDestinations, ih (index + 1)]
    · simp [Dictionary.values, appended]
    · intro name member
      rw [Dictionary.keys, appended, List.map_append, List.mem_append] at member
      rcases member with old | new
      · obtain ⟨position, before, same⟩ := earlier name old
        exact ⟨position, by omega, same⟩
      · exact ⟨index, by omega, by simpa using new⟩

/-- A cluster lists exactly its service's destinations, in order. -/
theorem buildClusterConfig_destinations {platform : Platform} {acceptAnyCertificate : Bool}
    {service : Service} {cluster : ClusterConfig}
    (built : buildClusterConfig platform acceptAnyCertificate service = .ok cluster) :
    ∃ destinations, platform.deserializeStrings service.destinations = .ok destinations ∧
      cluster.destinations.values.map DestinationConfig.address = destinations.getD [] := by
  unfold buildClusterConfig at built
  split at built
  · cases built
  · next destinations parsed =>
    refine ⟨destinations, parsed, ?_⟩
    obtain rfl := Except.ok.inj built
    rw [addDestinations_values 0 _ _ (by simp [Dictionary.keys, Dictionary.empty])]
    simp [Dictionary.values, Dictionary.empty, Function.comp_def]

/-- A cluster carries its service's own identity and settings. -/
theorem buildClusterConfig_service {platform : Platform} {acceptAnyCertificate : Bool}
    {service : Service} {cluster : ClusterConfig}
    (built : buildClusterConfig platform acceptAnyCertificate service = .ok cluster) :
    cluster.clusterId = service.clusterId ∧
      cluster.loadBalancingPolicy = loadBalancingText service.loadBalancingPolicy ∧
      cluster.activityTimeoutSeconds = service.requestTimeoutSeconds ∧
      Dictionary.lookupIn "ServiceId".toList cluster.metadata = some service.id.text := by
  unfold buildClusterConfig at built
  split at built
  · cases built
  · obtain rfl := Except.ok.inj built
    exact ⟨rfl, rfl, rfl, rfl⟩

/-- What a completed pass has built. -/
structure Completed (platform : Platform) (acceptAnyCertificate : Bool)
    (policies : List EndpointPolicy) (built : Built) : Prop where
  routes : built.routes.entries =
    (published policies).map (fun policy => (routeIdOf policy, routeOf policy))
  resolved : ∀ policy, FirstOf clusterIdOf (published policies) policy →
    ∃ cluster, buildClusterConfig platform acceptAnyCertificate policy.service = .ok cluster
  clusters : ∀ id cluster, built.clusters.tryGetValue id = some cluster ↔
    ∃ policy, FirstOf clusterIdOf (published policies) policy ∧ clusterIdOf policy = id ∧
      buildClusterConfig platform acceptAnyCertificate policy.service = .ok cluster

/-- A route id is present exactly when a policy with it has been passed. -/
theorem Completed.containsKey {platform : Platform} {acceptAnyCertificate : Bool}
    {policies : List EndpointPolicy} {built : Built}
    (completed : Completed platform acceptAnyCertificate policies built) (id : Text) :
    built.routes.containsKey id = true ↔ id ∈ policies.map routeIdOf := by
  rw [Dictionary.containsKey_iff_mem, Dictionary.keys, completed.routes, List.map_map,
    ← firstBy_keys routeIdOf policies id]
  rfl

/-- A cluster id is present exactly when a published policy has it. -/
theorem Completed.containsCluster {platform : Platform} {acceptAnyCertificate : Bool}
    {policies : List EndpointPolicy} {built : Built}
    (completed : Completed platform acceptAnyCertificate policies built) (id : Text) :
    built.clusters.containsKey id = true ↔ id ∈ (published policies).map clusterIdOf := by
  rw [Dictionary.containsKey, Option.isSome_iff_exists]
  constructor
  · rintro ⟨cluster, found⟩
    obtain ⟨policy, first, same, _⟩ := (completed.clusters id cluster).mp found
    exact List.mem_map.mpr ⟨policy, first.mem, same⟩
  · intro occurs
    obtain ⟨policy, member, same⟩ := List.mem_map.mp occurs
    obtain ⟨first, leading, equal⟩ := exists_firstOf clusterIdOf member
    obtain ⟨cluster, made⟩ := completed.resolved first leading
    exact ⟨cluster, (completed.clusters id cluster).mpr ⟨first, leading, equal.trans same, made⟩⟩

/-- A cluster added under a new cluster id is that of its policy. -/
theorem Completed.clusters_set {platform : Platform} {acceptAnyCertificate : Bool}
    {policies : List EndpointPolicy} {built : Built} {policy : EndpointPolicy}
    {cluster : ClusterConfig}
    (completed : Completed platform acceptAnyCertificate policies built)
    (unshared : clusterIdOf policy ∉ (published policies).map clusterIdOf)
    (made : buildClusterConfig platform acceptAnyCertificate policy.service = .ok cluster)
    (id : Text) (found : ClusterConfig) :
    (built.clusters.set policy.service.clusterId cluster).tryGetValue id = some found ↔
      ∃ each, (FirstOf clusterIdOf (published policies) each ∨ each = policy) ∧
        clusterIdOf each = id ∧
          buildClusterConfig platform acceptAnyCertificate each.service = .ok found := by
  rw [Dictionary.tryGetValue_set]
  by_cases here : policy.service.clusterId = id
  · rw [if_pos here, Option.some.injEq]
    constructor
    · rintro rfl
      exact ⟨policy, Or.inr rfl, here, made⟩
    · rintro ⟨each, old | rfl, same, other⟩
      · exact absurd (List.mem_map.mpr ⟨each, old.mem, same.trans here.symm⟩) unshared
      · exact Except.ok.inj (made.symm.trans other)
  · rw [if_neg here, completed.clusters]
    constructor
    · rintro ⟨each, old, rest⟩
      exact ⟨each, Or.inl old, rest⟩
    · rintro ⟨each, old | rfl, same, rest⟩
      · exact ⟨each, old, same, rest⟩
      · exact absurd same here

/-- One round extends a completed pass by its policy.

A skipped policy is not first to carry its route id, so the published policies
are unchanged. Otherwise its route is appended. Its cluster is added exactly
when no published policy before it has the cluster id. -/
theorem addPolicy_completed {platform : Platform} {acceptAnyCertificate : Bool}
    {policies : List EndpointPolicy} {built after : Built} {policy : EndpointPolicy}
    (completed : Completed platform acceptAnyCertificate policies built)
    (added : addPolicy platform acceptAnyCertificate built policy = .ok after) :
    Completed platform acceptAnyCertificate (policies ++ [policy]) after := by
  by_cases passed : routeIdOf policy ∈ policies.map routeIdOf
  · have skipped : built.routes.containsKey (routeIdOf policy) = true :=
      (completed.containsKey _).mpr passed
    have same : published (policies ++ [policy]) = published policies := firstBy_concat_present passed
    obtain rfl : built = after := by simpa [addPolicy, skipped] using added
    exact ⟨same ▸ completed.routes, same ▸ completed.resolved, same ▸ completed.clusters⟩
  · have fresh : built.routes.containsKey (routeIdOf policy) = false := by
      rw [Bool.eq_false_iff]
      exact fun present => passed ((completed.containsKey _).mp present)
    have extended : published (policies ++ [policy]) = published policies ++ [policy] :=
      firstBy_concat_absent passed
    have routes : (built.routes.set (routeIdOf policy) (routeOf policy)).entries =
        (published (policies ++ [policy])).map (fun each => (routeIdOf each, routeOf each)) := by
      rw [Dictionary.entries_set_absent (Dictionary.containsKey_eq_false.mp fresh), completed.routes,
        extended, List.map_append]
      rfl
    by_cases shared : clusterIdOf policy ∈ (published policies).map clusterIdOf
    · have present : built.clusters.containsKey policy.service.clusterId = true :=
        (completed.containsCluster _).mpr shared
      have leaders := @firstOf_concat_present _ _ clusterIdOf (published policies) policy shared
      obtain rfl : ⟨_, built.clusters⟩ = after := by simpa [addPolicy, fresh, present] using added
      refine ⟨routes, ?_, ?_⟩
      · simpa only [extended, leaders] using completed.resolved
      · simpa only [extended, leaders] using completed.clusters
    · have absent : built.clusters.containsKey policy.service.clusterId = false := by
        rw [Bool.eq_false_iff]
        exact fun present => shared ((completed.containsCluster _).mp present)
      cases made : buildClusterConfig platform acceptAnyCertificate policy.service with
      | error fault => simp [addPolicy, fresh, absent, made] at added
      | ok cluster =>
        obtain rfl : ⟨_, built.clusters.set policy.service.clusterId cluster⟩ = after := by
          simpa [addPolicy, fresh, absent, made] using added
        have leaders := @firstOf_concat_absent _ _ clusterIdOf (published policies) policy shared
        refine ⟨routes, ?_, ?_⟩
        · rw [extended]
          intro each first
          rcases (leaders each).mp first with old | rfl
          · exact completed.resolved each old
          · exact ⟨cluster, made⟩
        · rw [extended]
          simp only [leaders]
          exact completed.clusters_set shared made

/-- A pass that ends without an exception has built the characterized routes
and clusters. -/
theorem buildConfig_completed {platform : Platform} {acceptAnyCertificate : Bool}
    {policies : List EndpointPolicy} {built : Built}
    (ended : buildConfig platform acceptAnyCertificate policies = .ok built) :
    Completed platform acceptAnyCertificate policies built := by
  induction policies using List.reverseRecOn generalizing built with
  | nil =>
    obtain rfl := Except.ok.inj ended
    have none : ∀ policy, ¬ FirstOf clusterIdOf (published []) policy :=
      fun policy first => absurd first.mem (by simp [published, firstBy])
    refine ⟨rfl, fun policy first => absurd first (none policy), ?_⟩
    intro id cluster
    constructor
    · intro found
      cases found
    · rintro ⟨policy, first, _⟩
      exact absurd first (none policy)
  | append_singleton policies policy ih =>
    cases passed : buildConfig platform acceptAnyCertificate policies with
    | error fault =>
      rw [buildConfig] at passed ended
      simp [List.foldlM_append, passed, bind, Except.bind] at ended
    | ok before =>
      have added : addPolicy platform acceptAnyCertificate before policy = .ok built := by
        rw [buildConfig] at passed ended
        rw [List.foldlM_append, passed] at ended
        cases round : addPolicy platform acceptAnyCertificate before policy with
        | error fault => simp [bind, Except.bind, round] at ended
        | ok after => simpa [bind, Except.bind, round, pure, Except.pure] using ended
      exact addPolicy_completed (ih passed) added

/-- A service's destinations do not parse. -/
def Unparsable (platform : Platform) (policy : EndpointPolicy) : Prop :=
  ∃ fault, platform.deserializeStrings policy.service.destinations = .error fault

/-- A cluster is built exactly when its service's destinations parse. -/
theorem buildClusterConfig_error_iff (platform : Platform) (acceptAnyCertificate : Bool)
    (policy : EndpointPolicy) :
    (∃ fault, buildClusterConfig platform acceptAnyCertificate policy.service = .error fault) ↔
      Unparsable platform policy := by
  unfold Unparsable buildClusterConfig
  split
  · next fault parsed => simp [parsed]
  · next destinations parsed => simp [parsed]

/-- A round fails exactly when its policy starts a cluster whose destinations do
not parse. -/
theorem addPolicy_error {platform : Platform} {acceptAnyCertificate : Bool}
    {policies : List EndpointPolicy} {built : Built} {policy : EndpointPolicy} {fault : Fault}
    (completed : Completed platform acceptAnyCertificate policies built)
    (failed : addPolicy platform acceptAnyCertificate built policy = .error fault) :
    FirstOf clusterIdOf (published (policies ++ [policy])) policy ∧ Unparsable platform policy := by
  unfold addPolicy at failed
  split at failed
  · cases failed
  · next newRoute =>
    have fresh : routeIdOf policy ∉ policies.map routeIdOf := fun passed =>
      newRoute ((completed.containsKey _).mpr passed)
    dsimp only at failed
    split at failed
    · cases failed
    · next newCluster =>
      have unshared : clusterIdOf policy ∉ (published policies).map clusterIdOf := fun shared =>
        newCluster ((completed.containsCluster _).mpr shared)
      have extended : published (policies ++ [policy]) = published policies ++ [policy] :=
        firstBy_concat_absent fresh
      rw [extended, firstOf_concat]
      refine ⟨Or.inr ⟨rfl, unshared⟩, ?_⟩
      split at failed
      · next other unbuilt =>
        exact (buildClusterConfig_error_iff platform acceptAnyCertificate policy).mp ⟨other, unbuilt⟩
      · cases failed

/-- A pass fails exactly when a published policy that is first to carry its
cluster id has destinations that do not parse. -/
theorem buildConfig_error_iff (platform : Platform) (acceptAnyCertificate : Bool)
    (policies : List EndpointPolicy) :
    (∃ fault, buildConfig platform acceptAnyCertificate policies = .error fault) ↔
      ∃ policy, FirstOf clusterIdOf (published policies) policy ∧ Unparsable platform policy := by
  constructor
  · rintro ⟨fault, failed⟩
    induction policies using List.reverseRecOn generalizing fault with
    | nil => cases failed
    | append_singleton policies policy ih =>
      cases passed : buildConfig platform acceptAnyCertificate policies with
      | error earlier =>
        obtain ⟨leader, first, unparsable⟩ := ih earlier passed
        refine ⟨leader, ?_, unparsable⟩
        by_cases known : routeIdOf policy ∈ policies.map routeIdOf
        · rwa [published, firstBy_concat_present known]
        · rw [published, firstBy_concat_absent known, firstOf_concat]
          exact Or.inl first
      | ok before =>
        have round : addPolicy platform acceptAnyCertificate before policy = .error fault := by
          rw [buildConfig] at passed failed
          rw [List.foldlM_append, passed] at failed
          rcases ended : addPolicy platform acceptAnyCertificate before policy with other | after
          · simpa [bind, Except.bind, ended] using failed
          · simp [bind, Except.bind, ended, pure, Except.pure] at failed
        exact ⟨policy, addPolicy_error (buildConfig_completed passed) round⟩
  · rintro ⟨policy, first, unparsable⟩
    cases ended : buildConfig platform acceptAnyCertificate policies with
    | error fault => exact ⟨fault, rfl⟩
    | ok built =>
      obtain ⟨cluster, made⟩ := (buildConfig_completed ended).resolved policy first
      obtain ⟨fault, unbuilt⟩ :=
        (buildClusterConfig_error_iff platform acceptAnyCertificate policy).mpr unparsable
      cases unbuilt.symm.trans made

end DatabaseProxyConfigProvider

end ApiGateway
