import ApiGateway.PolicyCache

/-!
# The policy resolver

A refresh reads the enabled services, products and endpoints, assembles a
policy for each endpoint and registers it under one key per method, in a new
snapshot and in the cache; at the end the snapshot is replaced. An exception
abandons the refresh and keeps what it has already cached. A request consults
the cache and then the snapshot.

Without failing repository calls a refresh is described by the list of its
registrations in order: the snapshot keeps the last policy registered under a
key, and so does every cache tier that takes the write.
-/

namespace ApiGateway

open Effects TwoTier

namespace PolicyResolver

/-- The prefix of every registered path. -/
def gatewayPathPrefix : Text := "/gateway".toList

/-- A JSON array of texts; anything else reads as the empty list. -/
def parseJsonArray (platform : Platform) (json : Option Text) : List NullableText :=
  if Text.isNullOrWhiteSpace json then []
  else
    match platform.deserializeStrings (json.getD []) with
    | .ok items => items.getD []
    | .error _ => []

/-- A JSON object of texts; anything else reads as the empty dictionary. -/
def parseJsonObject (platform : Platform) (json : Option Text) : List (Text × NullableText) :=
  if Text.isNullOrWhiteSpace json then []
  else
    match platform.deserializeStringMap (json.getD []) with
    | .ok members => members.getD []
    | .error _ => []

/-- The policy of an endpoint. Crypto settings prefer the endpoint's own. -/
def buildEndpointPolicy (platform : Platform) (product : Product) (service : Service)
    (endpoint : Endpoint) : EndpointPolicy where
  product := product
  service := service
  endpoint := endpoint
  cryptoConfig :=
    { algorithm := endpoint.cryptoAlgorithm.getD service.defaultCryptoAlgorithm
      keySource := endpoint.keySource.getD service.defaultKeySource
      ivSource := endpoint.ivSource.getD service.defaultIvSource
      encoding := endpoint.encoding.getD service.defaultEncoding
      requireIv := endpoint.requireIv.getD service.defaultRequireIv }
  payloadExpectation := endpoint.payloadExpectation
  timeoutMs := endpoint.timeoutMs
  maxRetries := endpoint.maxRetries
  requiresJwt := service.requiresJwt
  requiredScopes := parseJsonArray platform service.requiredScopes
  allowedClients := parseJsonArray platform service.allowedClients
  headersToAdd := parseJsonObject platform endpoint.headersToAdd
  headersToRemove := parseJsonArray platform endpoint.headersToRemove
  emitEvents := service.emitEvents
  topicPrefix := service.topicPrefix
  encryptRequest := endpoint.encryptRequest
  encryptResponse := endpoint.encryptResponse

/-- Prefix, base path, relative path. -/
def fullPathOf (service : Service) (endpoint : Endpoint) : Text :=
  gatewayPathPrefix ++ (service.basePath ++ endpoint.relativePath)

/-- The key under which a method entry is registered. -/
def routeKeyOf (platform : Platform) (method fullPath : Text) : Text :=
  Text.toUpperInvariant platform.caseMap (Text.trim method) ++ ':' :: fullPath

/-- The method entries of an endpoint. -/
def methodsOf (endpoint : Endpoint) : List Text := Text.splitRemoveEmpty ',' endpoint.httpMethod

/-- Register one method entry in the new snapshot and in the cache. -/
def registerMethod (platform : Platform) (policy : EndpointPolicy) (fullPath : Text)
    (newSnapshot : Dictionary Text EndpointPolicy) (method : Text) :
    Task Gateway (Dictionary Text EndpointPolicy) := do
  PolicyCache.setPolicyAsync (routeKeyOf platform method fullPath) policy oneHour
  pure (newSnapshot.set (routeKeyOf platform method fullPath) policy)

/-- Register every method entry of an endpoint. -/
def registerEndpoint (platform : Platform) (product : Product) (service : Service)
    (newSnapshot : Dictionary Text EndpointPolicy) (endpoint : Endpoint) :
    Task Gateway (Dictionary Text EndpointPolicy) :=
  (methodsOf endpoint).foldlM
    (registerMethod platform (buildEndpointPolicy platform product service endpoint)
      (fullPathOf service endpoint)) newSnapshot

/-- The enabled product of a service. -/
def productOf (products : List Product) (service : Service) : Option Product :=
  products.find? (fun product => decide (product.id = service.productId))

/-- Register the endpoints of a service whose product is enabled. -/
def registerService (platform : Platform) (products : List Product)
    (newSnapshot : Dictionary Text EndpointPolicy) (service : Service) :
    Task Gateway (Dictionary Text EndpointPolicy) :=
  match productOf products service with
  | none => pure newSnapshot
  | some product => do
    let endpoints ← Gateway.query (.endpoints service.id)
      (fun gateway => gateway.database.enabledEndpoints service.id)
    endpoints.foldlM (registerEndpoint platform product service) newSnapshot

/-- Replace the snapshot. -/
def swapSnapshot (newSnapshot : Dictionary Text EndpointPolicy) : Task Gateway Unit :=
  Effect.update (fun gateway => { gateway with policySnapshot := newSnapshot })

/-- The guarded body of a refresh. -/
def loadPolicies (platform : Platform) : Task Gateway Unit := do
  let services ← Gateway.query .services (fun gateway => gateway.database.enabledServices)
  let products ← Gateway.query .products (fun gateway => gateway.database.enabledProducts)
  let newSnapshot ← services.foldlM (registerService platform products) Dictionary.empty
  swapSnapshot newSnapshot

/-- A refresh logs and swallows every exception. -/
def refreshPoliciesAsync (platform : Platform) : Task Gateway Unit :=
  (loadPolicies platform).handle (fun _ => pure ())

/-- The key of a request. -/
def requestKey (platform : Platform) (path method : Text) : Text :=
  (RouteKey.fromRequest platform.caseMap path method).toKey

/-- Cache, then snapshot; a policy found in the snapshot is cached. -/
def resolvePolicyAsync (platform : Platform) (path method : Text) :
    Task Gateway (Option EndpointPolicy) := do
  match ← PolicyCache.getPolicyAsync (requestKey platform path method) with
  | some cached => pure (some cached)
  | none =>
    match ← Effect.gets (fun gateway : Gateway =>
      gateway.policySnapshot.tryGetValue (requestKey platform path method)) with
    | none => pure none
    | some snapshotPolicy =>
      PolicyCache.setPolicyAsync (requestKey platform path method) snapshotPolicy oneHour
      pure (some snapshotPolicy)

/-- The resolver as the stages see it. -/
def policyResolver (platform : Platform) : IPolicyResolver Gateway where
  resolvePolicyAsync := resolvePolicyAsync platform

section Registrations

/-- What registering an endpoint writes, in order. -/
def endpointEntries (platform : Platform) (product : Product) (service : Service)
    (endpoint : Endpoint) : List (Text × EndpointPolicy) :=
  (methodsOf endpoint).map (fun method =>
    (routeKeyOf platform method (fullPathOf service endpoint),
      buildEndpointPolicy platform product service endpoint))

/-- What registering a service writes, in order. -/
def serviceEntries (platform : Platform) (database : Database) (service : Service) :
    List (Text × EndpointPolicy) :=
  match productOf database.enabledProducts service with
  | none => []
  | some product =>
    (database.enabledEndpoints service.id).flatMap (endpointEntries platform product service)

/-- What a whole refresh writes, in order. -/
def registrations (platform : Platform) (database : Database) : List (Text × EndpointPolicy) :=
  database.enabledServices.flatMap (serviceEntries platform database)

/-- The snapshot a refresh publishes. -/
def snapshotOf (platform : Platform) (database : Database) : Dictionary Text EndpointPolicy :=
  Dictionary.empty.setAll (registrations platform database)

/-- Cached pairs of registered policies. -/
def cacheEntries (entries : List (Text × EndpointPolicy)) : List (Text × CacheValue) :=
  entries.map (fun entry => (PolicyCache.policyKey entry.1, CacheValue.policy entry.2))

/-- Write policies to the cache in order. -/
def cachePolicies (cache : Cache Text CacheValue) (entries : List (Text × EndpointPolicy)) :
    Cache Text CacheValue :=
  cache.setAll oneHour oneHour (cacheEntries entries)

/-- How a round ends: with all of its entries written to the snapshot and the
cache, or with an exception after some first part of them was cached. -/
inductive Registered (newSnapshot : Dictionary Text EndpointPolicy) (gateway : Gateway)
    (entries : List (Text × EndpointPolicy)) :
    Except Fault (Dictionary Text EndpointPolicy) × Gateway → Prop where
  | completed :
      Registered newSnapshot gateway entries (.ok (newSnapshot.setAll entries),
        { gateway with cache := cachePolicies gateway.cache entries })
  | abandoned (fault : Fault) (written : List (Text × EndpointPolicy))
      (part : written <+: entries) (disconnected : ¬ gateway.Connected) :
      Registered newSnapshot gateway entries (.error fault,
        { gateway with cache := cachePolicies gateway.cache written })

/-- Every run of a round over a database ends so. -/
def Registers {α : Type} (database : Database)
    (round : Dictionary Text EndpointPolicy → α → Task Gateway (Dictionary Text EndpointPolicy))
    (entries : α → List (Text × EndpointPolicy)) : Prop :=
  ∀ newSnapshot item (gateway : Gateway), gateway.database = database →
    Registered newSnapshot gateway (entries item) (round newSnapshot item gateway)

theorem cachePolicies_append (cache : Cache Text CacheValue)
    (former latter : List (Text × EndpointPolicy)) :
    cachePolicies cache (former ++ latter) = cachePolicies (cachePolicies cache former) latter := by
  rw [cachePolicies, cacheEntries, List.map_append, Cache.setAll_append]
  rfl

/-- A loop of rounds writes the entries of its items one after another. -/
theorem registers_foldlM {α : Type} {database : Database}
    {round : Dictionary Text EndpointPolicy → α → Task Gateway (Dictionary Text EndpointPolicy)}
    {entries : α → List (Text × EndpointPolicy)} (registers : Registers database round entries)
    (items : List α) (newSnapshot : Dictionary Text EndpointPolicy) (gateway : Gateway)
    (content : gateway.database = database) :
    Registered newSnapshot gateway (items.flatMap entries)
      (items.foldlM round newSnapshot gateway) := by
  induction items generalizing newSnapshot gateway with
  | nil => exact .completed
  | cons item rest ih =>
    rw [List.foldlM_cons, Effect.bind_run, List.flatMap_cons]
    have head := registers newSnapshot item gateway content
    generalize round newSnapshot item gateway = ending at head
    cases head with
    | completed =>
      have tail := ih (newSnapshot.setAll (entries item))
        { gateway with cache := cachePolicies gateway.cache (entries item) } content
      dsimp only
      generalize rest.foldlM round _ _ = ending at tail
      cases tail with
      | completed =>
        rw [← Dictionary.setAll_append, ← cachePolicies_append]
        exact .completed
      | abandoned fault written part disconnected =>
        rw [← cachePolicies_append]
        exact .abandoned fault _ (List.prefix_append_right_inj _ |>.mpr part) disconnected
    | abandoned fault written part disconnected =>
      exact .abandoned fault written (part.trans (List.prefix_append _ _)) disconnected

theorem registers_method (platform : Platform) (database : Database) (policy : EndpointPolicy)
    (fullPath : Text) :
    Registers database (registerMethod platform policy fullPath)
      (fun method => [(routeKeyOf platform method fullPath, policy)]) :=
  fun _ _ _ _ => .completed

theorem registers_endpoint (platform : Platform) (database : Database) (product : Product)
    (service : Service) :
    Registers database (registerEndpoint platform product service)
      (endpointEntries platform product service) := by
  intro newSnapshot endpoint gateway content
  have looped := registers_foldlM (registers_method platform database
    (buildEndpointPolicy platform product service endpoint) (fullPathOf service endpoint))
    (methodsOf endpoint) newSnapshot gateway content
  rwa [← List.map_eq_flatMap] at looped

theorem registers_service (platform : Platform) (database : Database) :
    Registers database (registerService platform database.enabledProducts)
      (serviceEntries platform database) := by
  intro newSnapshot service gateway content
  unfold registerService serviceEntries
  cases productOf database.enabledProducts service with
  | none => exact .completed
  | some product =>
    dsimp only
    cases reached : gateway.repositoryFault (.endpoints service.id) with
    | none =>
      rw [Effect.bind_ok (Gateway.query_run reached), content]
      exact registers_foldlM (registers_endpoint platform database product service) _ _ _ content
    | some fault =>
      rw [Effect.bind_error (Gateway.query_fault reached)]
      exact .abandoned fault [] (List.nil_prefix) (Gateway.fault_disconnects reached)

/-- How a refresh ends: with everything cached and the snapshot replaced, or
with an exception and the snapshot kept. -/
inductive Refreshed (platform : Platform) (gateway : Gateway) : Except Fault Unit × Gateway → Prop where
  | completed :
      Refreshed platform gateway (.ok (),
        { gateway with
          cache := cachePolicies gateway.cache (registrations platform gateway.database)
          policySnapshot := snapshotOf platform gateway.database })
  | abandoned (fault : Fault) (written : List (Text × EndpointPolicy))
      (part : written <+: registrations platform gateway.database)
      (disconnected : ¬ gateway.Connected) :
      Refreshed platform gateway (.error fault,
        { gateway with cache := cachePolicies gateway.cache written })

theorem loadPolicies_refreshed (platform : Platform) (gateway : Gateway) :
    Refreshed platform gateway (loadPolicies platform gateway) := by
  cases services : gateway.repositoryFault .services with
  | none =>
    cases products : gateway.repositoryFault .products with
    | none =>
      rw [loadPolicies, Effect.bind_ok (Gateway.query_run services),
        Effect.bind_ok (Gateway.query_run products), Effect.bind_run]
      have looped := registers_foldlM (registers_service platform gateway.database)
        gateway.database.enabledServices Dictionary.empty gateway rfl
      generalize gateway.database.enabledServices.foldlM
        (registerService platform gateway.database.enabledProducts) Dictionary.empty gateway =
          ending at looped ⊢
      cases looped with
      | completed => exact .completed
      | abandoned fault written part disconnected =>
        exact .abandoned fault written part disconnected
    | some fault =>
      rw [loadPolicies, Effect.bind_ok (Gateway.query_run services),
        Effect.bind_error (Gateway.query_fault products)]
      exact .abandoned fault [] List.nil_prefix (Gateway.fault_disconnects products)
  | some fault =>
    rw [loadPolicies, Effect.bind_error (Gateway.query_fault services)]
    exact .abandoned fault [] List.nil_prefix (Gateway.fault_disconnects services)

/-- The refresh read the whole registry: its guarded body ended normally. -/
def Loads (platform : Platform) (gateway : Gateway) : Prop :=
  (loadPolicies platform gateway).1 = .ok ()

/-- With every repository call answered the refresh reads the whole registry. -/
theorem loads_connected (platform : Platform) {gateway : Gateway} (connected : gateway.Connected) :
    Loads platform gateway := by
  have refreshed := loadPolicies_refreshed platform gateway
  unfold Loads
  generalize loadPolicies platform gateway = ending at refreshed ⊢
  cases refreshed with
  | completed => rfl
  | abandoned _ _ _ disconnected => exact absurd connected disconnected

/-- The gateway after a refresh that read the whole registry. -/
def reloaded (platform : Platform) (gateway : Gateway) : Gateway :=
  { gateway with
    cache := cachePolicies gateway.cache (registrations platform gateway.database)
    policySnapshot := snapshotOf platform gateway.database }

/-- Such a refresh caches its registrations in order and publishes the snapshot
they make. -/
theorem refreshPoliciesAsync_run {platform : Platform} {gateway : Gateway}
    (loads : Loads platform gateway) :
    refreshPoliciesAsync platform gateway = (.ok (), reloaded platform gateway) := by
  have refreshed := loadPolicies_refreshed platform gateway
  unfold Loads at loads
  apply Effect.handle_ok
  generalize loadPolicies platform gateway = ending at refreshed loads ⊢
  cases refreshed with
  | completed => rfl
  | abandoned fault => cases loads

/-- Any refresh at all caches a first part of its registrations; the snapshot is
kept or replaced by the one they make. -/
theorem refreshPoliciesAsync_state (platform : Platform) (gateway : Gateway) :
    ∃ written snapshot, written <+: registrations platform gateway.database ∧
      (snapshot = gateway.policySnapshot ∨ snapshot = snapshotOf platform gateway.database) ∧
      refreshPoliciesAsync platform gateway = (.ok (),
        { gateway with
          cache := cachePolicies gateway.cache written
          policySnapshot := snapshot }) := by
  have refreshed := loadPolicies_refreshed platform gateway
  unfold refreshPoliciesAsync Effect.handle
  generalize loadPolicies platform gateway = ending at refreshed ⊢
  cases refreshed with
  | completed => exact ⟨_, _, List.prefix_refl _, Or.inr rfl, rfl⟩
  | abandoned fault written part => exact ⟨written, _, part, Or.inl rfl, rfl⟩

end Registrations

section Reading

variable {platform : Platform}

/-- The last cached pair of a key is its last registered policy. -/
theorem lookupIn_cacheEntries (entries : List (Text × EndpointPolicy)) (key : Text) :
    Dictionary.lookupIn (PolicyCache.policyKey key) (cacheEntries entries).reverse =
      (Dictionary.lookupIn key entries.reverse).map CacheValue.policy := by
  rw [cacheEntries, ← List.map_reverse]
  exact Dictionary.lookupIn_map (fun _ _ same => PolicyCache.policyKey_injective same)
    CacheValue.policy key entries.reverse

/-- Caching policies does not change reads of other families. -/
theorem peek_cachePolicies_other {α : Type} (view : CacheValue → Option α)
    (cache : Cache Text CacheValue) (entries : List (Text × EndpointPolicy)) {key : Text}
    (other : ∀ routeKey, PolicyCache.policyKey routeKey ≠ key) :
    (cachePolicies cache entries).peek view key = cache.peek view key := by
  apply Cache.peek_setAll_absent oneHour oneHour
  rw [Dictionary.lookupIn_none_iff, List.map_reverse, List.mem_reverse, cacheEntries, List.map_map]
  intro written
  obtain ⟨entry, _, same⟩ := List.mem_map.mp written
  exact other entry.1 same

/-- A key that was not written reads as before. -/
theorem peek_cachePolicies_absent {cache : Cache Text CacheValue}
    {entries : List (Text × EndpointPolicy)} {key : Text}
    (absent : Dictionary.lookupIn key entries.reverse = none) :
    (cachePolicies cache entries).peek CacheValue.asPolicy (PolicyCache.policyKey key) =
      cache.peek CacheValue.asPolicy (PolicyCache.policyKey key) := by
  apply Cache.peek_setAll_absent oneHour oneHour
  rw [lookupIn_cacheEntries, absent, Option.map_none]

/-- A key that was written reads as the last policy written, or as absent when no
tier took it. -/
theorem peek_cachePolicies_written (cache : Cache Text CacheValue)
    {entries : List (Text × EndpointPolicy)} {key : Text} {policy : EndpointPolicy}
    (written : Dictionary.lookupIn key entries.reverse = some policy) :
    (cachePolicies cache entries).peek CacheValue.asPolicy (PolicyCache.policyKey key) =
      if cache.takes (PolicyCache.policyKey key) then some policy else none := by
  have last : Dictionary.lookupIn (PolicyCache.policyKey key) (cacheEntries entries).reverse =
      some (CacheValue.policy policy) := by
    rw [lookupIn_cacheEntries, written, Option.map_some]
  exact Cache.peek_setAll_written oneHour_pos oneHour_pos last

/-- The answer to a request: the cached policy, else the snapshot's. -/
theorem resolvePolicyAsync_value (path method : Text) (gateway : Gateway) :
    (resolvePolicyAsync platform path method gateway).1 = .ok
      ((gateway.cache.peek CacheValue.asPolicy
          (PolicyCache.policyKey (requestKey platform path method))).or
        (gateway.policySnapshot.tryGetValue (requestKey platform path method))) := by
  unfold resolvePolicyAsync PolicyCache.getPolicyAsync
  rw [Effect.bind_ok (PolicyCache.read_run _ _ gateway)]
  cases gateway.cache.peek CacheValue.asPolicy
    (PolicyCache.policyKey (requestKey platform path method)) with
  | some cached => rfl
  | none =>
    dsimp only
    rw [Effect.bind_ok (Effect.gets_run _ _)]
    dsimp only [PolicyCache.afterRead]
    cases gateway.policySnapshot.tryGetValue (requestKey platform path method) <;> rfl

/-- A request reads its own key and may write the snapshot's policy there. -/
theorem resolvePolicyAsync_state (platform : Platform) (path method : Text) (gateway : Gateway) :
    (resolvePolicyAsync platform path method gateway).2 =
        PolicyCache.afterRead CacheValue.asPolicy
          (PolicyCache.policyKey (requestKey platform path method)) gateway ∨
      ∃ policy, gateway.policySnapshot.tryGetValue (requestKey platform path method) = some policy ∧
        (resolvePolicyAsync platform path method gateway).2 =
          PolicyCache.afterWrite (PolicyCache.policyKey (requestKey platform path method))
            (.policy policy) oneHour (PolicyCache.afterRead CacheValue.asPolicy
              (PolicyCache.policyKey (requestKey platform path method)) gateway) := by
  unfold resolvePolicyAsync PolicyCache.getPolicyAsync
  rw [Effect.bind_ok (PolicyCache.read_run _ _ gateway)]
  cases gateway.cache.peek CacheValue.asPolicy
    (PolicyCache.policyKey (requestKey platform path method)) with
  | some cached => exact Or.inl rfl
  | none =>
    dsimp only
    rw [Effect.bind_ok (Effect.gets_run _ _)]
    dsimp only [PolicyCache.afterRead]
    cases gateway.policySnapshot.tryGetValue (requestKey platform path method) with
    | none => exact Or.inl rfl
    | some policy => exact Or.inr ⟨policy, rfl, rfl⟩

/-- A request does not change reads outside the policy family. -/
theorem resolvePolicyAsync_sameOn (platform : Platform) (path method : Text) (gateway : Gateway) :
    PolicyCache.SameOn PolicyCache.NotPolicyKey
      (resolvePolicyAsync platform path method gateway).2 gateway := by
  have outside : ¬ PolicyCache.NotPolicyKey
      (PolicyCache.policyKey (requestKey platform path method)) := fun other => other _ rfl
  have read := PolicyCache.sameOn_afterRead CacheValue.asPolicy outside gateway
  rcases resolvePolicyAsync_state platform path method gateway with same | ⟨policy, _, same⟩
  · rw [same]
    exact read
  · rw [same]
    exact (PolicyCache.sameOn_afterWrite (.policy policy) oneHour outside _).trans read

/-- After a refresh a request is answered from the new snapshot, and from the
old cache where the new snapshot has nothing. -/
theorem resolvePolicyAsync_reloaded (path method : Text) (gateway : Gateway) :
    (resolvePolicyAsync platform path method (reloaded platform gateway)).1 = .ok
      (((snapshotOf platform gateway.database).tryGetValue (requestKey platform path method)).or
        (gateway.cache.peek CacheValue.asPolicy
          (PolicyCache.policyKey (requestKey platform path method)))) := by
  rw [resolvePolicyAsync_value, reloaded]
  simp only [snapshotOf, Dictionary.tryGetValue_setAll_empty]
  cases last : Dictionary.lookupIn (requestKey platform path method)
      (registrations platform gateway.database).reverse with
  | none => rw [peek_cachePolicies_absent last, Option.or_none, Option.none_or]
  | some policy =>
    rw [peek_cachePolicies_written gateway.cache last, Option.some_or]
    split
    · rfl
    · rfl

end Reading

end PolicyResolver

end ApiGateway
