import ApiGateway.PolicyResolver

/-!
# What a snapshot contains

A refresh reads three repositories and fills a new dictionary in three nested
loops: services, endpoints, method entries. What the loops leave in it can be
said without them. Each pair of a service with a listed product and one of its
endpoints offers the keys of its method entries; a key has a policy exactly when
some pair offers it, and the policy is that of the last pair to offer it.

The repositories may answer with any lists, in any order. Products with one id
make the product dictionary throw.
-/

namespace ApiGateway.PolicyResolver

open Effects TwoTier

/-- The repositories of a refresh. -/
structure Repositories where
  services : Task Gateway (List Service)
  products : Task Gateway (List Product)
  endpoints : Guid → Task Gateway (List Endpoint)

/-- The repositories over the gateway's database. -/
def databaseRepositories : Repositories where
  services := Gateway.query .services (fun gateway => gateway.database.enabledServices)
  products := Gateway.query .products (fun gateway => gateway.database.enabledProducts)
  endpoints := fun serviceId => Gateway.query (.endpoints serviceId)
    (fun gateway => gateway.database.enabledEndpoints serviceId)

/-- `ToDictionary` throws on a key that occurs twice. -/
def toDictionary (products : List Product) : Except Fault (List Product) :=
  if (products.map Product.id).Nodup then .ok products else .error ⟨"ArgumentException".toList⟩

/-- One service: its endpoints, if its product is listed. -/
def registerServiceFrom (repositories : Repositories) (platform : Platform)
    (products : List Product) (newSnapshot : Dictionary Text EndpointPolicy) (service : Service) :
    Task Gateway (Dictionary Text EndpointPolicy) :=
  match productOf products service with
  | none => pure newSnapshot
  | some product => do
    let endpoints ← repositories.endpoints service.id
    endpoints.foldlM (registerEndpoint platform product service) newSnapshot

/-- The guarded body of a refresh. -/
def loadPoliciesFrom (repositories : Repositories) (platform : Platform) : Task Gateway Unit := do
  let services ← repositories.services
  let products ← repositories.products
  let productDict ← Effect.ofExcept (toDictionary products)
  let newSnapshot ←
    services.foldlM (registerServiceFrom repositories platform productDict) Dictionary.empty
  swapSnapshot newSnapshot

/-- A refresh of the policies from given repositories. -/
def refreshPoliciesFrom (repositories : Repositories) (platform : Platform) : Task Gateway Unit :=
  (loadPoliciesFrom repositories platform).handle (fun _ => pure ())

/-- From the gateway's own repositories it is the refresh of the policies. -/
theorem refreshPoliciesFrom_database (platform : Platform) :
    refreshPoliciesFrom databaseRepositories platform = refreshPoliciesAsync platform := by
  have distinct : ∀ database : Database,
      toDictionary database.enabledProducts = .ok database.enabledProducts := fun database =>
    if_pos (database.products_id.sublist (List.filter_sublist.map Product.id))
  have loads : loadPoliciesFrom databaseRepositories platform = loadPolicies platform := by
    funext gateway
    simp only [loadPoliciesFrom, loadPolicies, databaseRepositories, Effect.bind_run]
    cases services : gateway.repositoryFault .services with
    | some fault => simp only [Gateway.query_fault services]
    | none =>
      simp only [Gateway.query_run services]
      cases products : gateway.repositoryFault .products with
      | some fault => simp only [Gateway.query_fault products]
      | none =>
        simp only [Gateway.query_run products, distinct, Effect.ofExcept_run]
        rfl
  rw [refreshPoliciesFrom, loads]
  rfl

/-- The repositories answer a refresh of the gateway without an error: with lists
of services and products and, for each service whose product is listed, a list of
endpoints. A refresh changes nothing but the cache while it reads. -/
structure Reads (repositories : Repositories) (gateway : Gateway) (services : List Service)
    (products : List Product) (endpoints : Guid → List Endpoint) : Prop where
  serviceRows : ∀ cache, repositories.services { gateway with cache := cache } =
    (.ok services, { gateway with cache := cache })
  productRows : ∀ cache, repositories.products { gateway with cache := cache } =
    (.ok products, { gateway with cache := cache })
  endpointRows : ∀ service ∈ services, (∃ product ∈ products, product.id = service.productId) →
    ∀ cache, repositories.endpoints service.id { gateway with cache := cache } =
      (.ok (endpoints service.id), { gateway with cache := cache })

/-- The pairs of a service and an endpoint in the order of the loops, with the
service's product. -/
def iterated (services : List Service) (products : List Product) (endpoints : Guid → List Endpoint) :
    List (Product × Service × Endpoint) :=
  services.flatMap (fun service : Service =>
    (products.filter (fun product : Product => decide (product.id = service.productId))).flatMap
      (fun product => (endpoints service.id).map (fun endpoint => (product, service, endpoint))))

/-- A pair offers a key: one of the endpoint's method entries that is not empty,
trimmed and in upper case, and the full path. -/
def Offers (platform : Platform) (key : Text) (item : Product × Service × Endpoint) : Prop :=
  ∃ segment ∈ Text.split ',' item.2.2.httpMethod, segment ≠ [] ∧
    key = Text.toUpperInvariant platform.caseMap (Text.trim segment) ++ ":/gateway".toList ++
      item.2.1.basePath ++ item.2.2.relativePath

/-- A policy carries its three rows, and its crypto settings are the endpoint's own
where there are any and the service's otherwise. -/
structure Describes (platform : Platform) (policy : EndpointPolicy)
    (item : Product × Service × Endpoint) : Prop where
  built : policy = buildEndpointPolicy platform item.1 item.2.1 item.2.2
  rows : (policy.product, policy.service, policy.endpoint) = item
  algorithm : policy.cryptoConfig.algorithm =
    item.2.2.cryptoAlgorithm.getD item.2.1.defaultCryptoAlgorithm
  keySource : policy.cryptoConfig.keySource = item.2.2.keySource.getD item.2.1.defaultKeySource
  ivSource : policy.cryptoConfig.ivSource = item.2.2.ivSource.getD item.2.1.defaultIvSource
  encoding : policy.cryptoConfig.encoding = item.2.2.encoding.getD item.2.1.defaultEncoding
  requireIv : policy.cryptoConfig.requireIv = item.2.2.requireIv.getD item.2.1.defaultRequireIv

/-- A connected gateway's own repositories answer with its enabled rows. -/
theorem reads_database {gateway : Gateway} (connected : gateway.Connected) :
    Reads databaseRepositories gateway gateway.database.enabledServices
      gateway.database.enabledProducts gateway.database.enabledEndpoints where
  serviceRows := fun cache => by
    have reached : ({ gateway with cache := cache } : Gateway).repositoryFault .services = none :=
      connected .services
    change Gateway.query .services (fun gateway => gateway.database.enabledServices) _ = _
    rw [Gateway.query_run reached]
  productRows := fun cache => by
    have reached : ({ gateway with cache := cache } : Gateway).repositoryFault .products = none :=
      connected .products
    change Gateway.query .products (fun gateway => gateway.database.enabledProducts) _ = _
    rw [Gateway.query_run reached]
  endpointRows := fun service _ _ cache => by
    have reached : ({ gateway with cache := cache } : Gateway).repositoryFault
        (.endpoints service.id) = none :=
      connected (.endpoints service.id)
    change Gateway.query (.endpoints service.id)
      (fun gateway => gateway.database.enabledEndpoints service.id) _ = _
    rw [Gateway.query_run reached]

section Loops

variable {platform : Platform} {gateway : Gateway}

/-- A round writes its entries to the snapshot and to the cache, whatever the cache
holds. -/
def WritesAll {α : Type} (gateway : Gateway)
    (round : Dictionary Text EndpointPolicy → α → Task Gateway (Dictionary Text EndpointPolicy))
    (entries : α → List (Text × EndpointPolicy)) (item : α) : Prop :=
  ∀ newSnapshot cache, round newSnapshot item { gateway with cache := cache } =
    (.ok (newSnapshot.setAll (entries item)),
      { gateway with cache := cachePolicies cache (entries item) })

/-- A loop of such rounds writes the entries of its items one after another. -/
theorem writesAll_foldlM {α : Type}
    {round : Dictionary Text EndpointPolicy → α → Task Gateway (Dictionary Text EndpointPolicy)}
    {entries : α → List (Text × EndpointPolicy)} {items : List α}
    (writes : ∀ item ∈ items, WritesAll gateway round entries item)
    (newSnapshot : Dictionary Text EndpointPolicy) (cache : Cache Text CacheValue) :
    items.foldlM round newSnapshot { gateway with cache := cache } =
      (.ok (newSnapshot.setAll (items.flatMap entries)),
        { gateway with cache := cachePolicies cache (items.flatMap entries) }) := by
  induction items generalizing newSnapshot cache with
  | nil => rfl
  | cons item rest ih =>
    have first := writes item List.mem_cons_self newSnapshot cache
    rw [List.foldlM_cons, Effect.bind_ok first,
      ih (fun later member => writes later (List.mem_cons_of_mem item member)), List.flatMap_cons,
      Dictionary.setAll_append, cachePolicies_append]

theorem writesAll_endpoint (product : Product) (service : Service) (endpoint : Endpoint) :
    WritesAll gateway (registerEndpoint platform product service)
      (endpointEntries platform product service) endpoint := by
  intro newSnapshot cache
  have looped := @writesAll_foldlM gateway _
    (registerMethod platform (buildEndpointPolicy platform product service endpoint)
      (fullPathOf service endpoint))
    (fun method => [(routeKeyOf platform method (fullPathOf service endpoint),
      buildEndpointPolicy platform product service endpoint)])
    (methodsOf endpoint) (fun _ _ _ _ => rfl) newSnapshot cache
  rwa [← List.map_eq_flatMap] at looped

/-- What a service writes. -/
def entriesFrom (platform : Platform) (products : List Product) (endpoints : Guid → List Endpoint)
    (service : Service) : List (Text × EndpointPolicy) :=
  match productOf products service with
  | none => []
  | some product => (endpoints service.id).flatMap (endpointEntries platform product service)

variable {repositories : Repositories} {services : List Service} {products : List Product}
  {endpoints : Guid → List Endpoint}

theorem writesAll_service (reads : Reads repositories gateway services products endpoints)
    {service : Service} (listed : service ∈ services) :
    WritesAll gateway (registerServiceFrom repositories platform products)
      (entriesFrom platform products endpoints) service := by
  intro newSnapshot cache
  rw [registerServiceFrom, entriesFrom]
  cases found : productOf products service with
  | none => rfl
  | some product =>
    have owned : ∃ product ∈ products, product.id = service.productId :=
      ⟨product, List.mem_of_find?_eq_some found, by simpa using List.find?_some found⟩
    dsimp only
    rw [Effect.bind_ok (reads.endpointRows service listed owned cache)]
    exact writesAll_foldlM (fun endpoint _ => writesAll_endpoint product service endpoint) _ _

/-- The snapshot that a refresh publishes. -/
theorem refreshPoliciesFrom_snapshot
    (reads : Reads repositories gateway services products endpoints)
    (distinct : (products.map Product.id).Nodup) :
    (refreshPoliciesFrom repositories platform gateway).2.policySnapshot =
      Dictionary.empty.setAll (services.flatMap (entriesFrom platform products endpoints)) := by
  have looped := writesAll_foldlM (fun service listed => @writesAll_service platform _ _ _ _ _ reads
    service listed) Dictionary.empty gateway.cache
  have ran : loadPoliciesFrom repositories platform gateway = (.ok (),
      { gateway with
        cache := cachePolicies gateway.cache (services.flatMap (entriesFrom platform products endpoints))
        policySnapshot :=
          Dictionary.empty.setAll (services.flatMap (entriesFrom platform products endpoints)) }) := by
    have dictionary : Effect.ofExcept (toDictionary products) gateway =
        (.ok products, gateway) := by
      rw [Effect.ofExcept_run, toDictionary, if_pos distinct]
    rw [loadPoliciesFrom, Effect.bind_ok (reads.serviceRows gateway.cache),
      Effect.bind_ok (reads.productRows gateway.cache), Effect.bind_ok dictionary, Effect.bind_ok looped]
    rfl
  rw [refreshPoliciesFrom, Effect.handle_ok ran]

/-- The keys that a pair writes. -/
def keysOf (platform : Platform) (item : Product × Service × Endpoint) : List Text :=
  (methodsOf item.2.2).map (fun method =>
    routeKeyOf platform method (fullPathOf item.2.1 item.2.2))

/-- The policy that a pair writes under them. -/
def policyOf (platform : Platform) (item : Product × Service × Endpoint) : EndpointPolicy :=
  buildEndpointPolicy platform item.1 item.2.1 item.2.2

theorem mem_keysOf_iff (key : Text) (item : Product × Service × Endpoint) :
    key ∈ keysOf platform item ↔ Offers platform key item := by
  have keyed : ∀ segment, routeKeyOf platform segment (fullPathOf item.2.1 item.2.2) =
      Text.toUpperInvariant platform.caseMap (Text.trim segment) ++ ":/gateway".toList ++
        item.2.1.basePath ++ item.2.2.relativePath := by
    intro segment
    have lead : ":/gateway".toList = ':' :: gatewayPathPrefix := by decide
    rw [routeKeyOf, fullPathOf, lead]
    simp
  simp only [keysOf, Offers, methodsOf, Text.splitRemoveEmpty, List.mem_map, List.mem_filter,
    decide_eq_true_eq, keyed]
  constructor
  · rintro ⟨segment, ⟨member, filled⟩, rfl⟩
    exact ⟨segment, member, filled, rfl⟩
  · rintro ⟨segment, member, filled, rfl⟩
    exact ⟨segment, ⟨member, filled⟩, rfl⟩

/-- A policy that a pair writes carries the pair's rows. -/
theorem describes_iff (policy : EndpointPolicy) (item : Product × Service × Endpoint) :
    Describes platform policy item ↔ policy = policyOf platform item := by
  constructor
  · exact fun describes => describes.built
  · rintro rfl
    exact ⟨rfl, rfl, rfl, rfl, rfl, rfl, rfl⟩

/-- With distinct ids a service has the one product that is looked up for it. -/
theorem filter_productOf (distinct : (products.map Product.id).Nodup) (service : Service) :
    products.filter (fun product => decide (product.id = service.productId)) =
      (productOf products service).toList := by
  rw [productOf, ← List.head?_filter]
  have ids : ((products.filter (fun product => decide (product.id = service.productId))).map
      Product.id).Nodup :=
    distinct.sublist (List.filter_sublist.map Product.id)
  have owned : ∀ product ∈ products.filter (fun product => decide (product.id = service.productId)),
      product.id = service.productId := fun product member => by
    simpa using (List.mem_filter.mp member).2
  generalize products.filter (fun product => decide (product.id = service.productId)) = kept
    at ids owned ⊢
  cases kept with
  | nil => rfl
  | cons first rest =>
    cases rest with
    | nil => rfl
    | cons second rest =>
      have same : first.id = second.id := (owned first (by simp)).trans (owned second (by simp)).symm
      simp [same] at ids

/-- The loops write the keys of the iterated pairs. -/
theorem entriesFrom_iterated (distinct : (products.map Product.id).Nodup) :
    services.flatMap (entriesFrom platform products endpoints) =
      (iterated services products endpoints).flatMap (fun item =>
        (keysOf platform item).map (fun key => (key, policyOf platform item))) := by
  rw [iterated, List.flatMap_assoc]
  congr 1
  funext service
  rw [filter_productOf distinct, entriesFrom]
  cases productOf products service with
  | none => rfl
  | some product =>
    simp only [Option.toList_some, List.flatMap_singleton, List.flatMap_map, keysOf, policyOf,
      List.map_map]
    rfl

end Loops

/-- The published snapshot has a policy under exactly the keys that some pair
offers: the policy of the last pair to offer the key. -/
theorem snapshot_contents {repositories : Repositories} {platform : Platform} {gateway : Gateway}
    {services : List Service} {products : List Product} {endpoints : Guid → List Endpoint}
    (distinct : (products.map Product.id).Nodup)
    (reads : Reads repositories gateway services products endpoints) (key : Text) :
    ((refreshPoliciesFrom repositories platform gateway).2.policySnapshot.containsKey key = true ↔
        ∃ item ∈ iterated services products endpoints, Offers platform key item) ∧
      ∀ policy, (refreshPoliciesFrom repositories platform gateway).2.policySnapshot.tryGetValue key =
          some policy ↔
        ∃ item, LastOf (Offers platform key) (iterated services products endpoints) item ∧
          Describes platform policy item := by
  have stored : ∀ policy,
      (refreshPoliciesFrom repositories platform gateway).2.policySnapshot.tryGetValue key =
          some policy ↔
        ∃ item, LastOf (Offers platform key) (iterated services products endpoints) item ∧
          Describes platform policy item := by
    intro policy
    rw [refreshPoliciesFrom_snapshot reads distinct, entriesFrom_iterated distinct,
      Dictionary.setAll_items (keysOf platform) (policyOf platform)]
    simp only [mem_keysOf_iff, describes_iff]
  refine ⟨?_, stored⟩
  rw [← exists_lastOf_iff, Dictionary.containsKey, Option.isSome_iff_exists]
  simp only [stored]
  constructor
  · rintro ⟨_, item, last, _⟩
    exact ⟨item, last⟩
  · rintro ⟨item, last⟩
    exact ⟨policyOf platform item, item, last, (describes_iff _ item).mpr rfl⟩

/-- An endpoint under a method named twice and an entry that is blank. -/
def repeatedMethod : Gateway :=
  Gateway.started (Database.ofEndpoint .sample
    (.sample 1 "orders".toList "/orders".toList "v1".toList "orders".toList "[]".toList)
    (.sample 2 1 "list".toList "get, ,GET,".toList "/list".toList))

theorem repeatedMethod_products :
    (repeatedMethod.database.enabledProducts.map Product.id).Nodup := by
  simp [Database.enabledProducts, repeatedMethod, Gateway.started, Database.ofEndpoint,
    Product.sample]

theorem snapshot_contents_repeated :
    ((refreshPoliciesFrom databaseRepositories plainPlatform
          repeatedMethod).2.policySnapshot.containsKey "GET:/gateway/orders/list".toList = true ↔
        ∃ item ∈ iterated repeatedMethod.database.enabledServices
            repeatedMethod.database.enabledProducts repeatedMethod.database.enabledEndpoints,
          Offers plainPlatform "GET:/gateway/orders/list".toList item) ∧
      ∀ policy, (refreshPoliciesFrom databaseRepositories plainPlatform
          repeatedMethod).2.policySnapshot.tryGetValue "GET:/gateway/orders/list".toList =
            some policy ↔
        ∃ item, LastOf (Offers plainPlatform "GET:/gateway/orders/list".toList)
            (iterated repeatedMethod.database.enabledServices
              repeatedMethod.database.enabledProducts repeatedMethod.database.enabledEndpoints) item ∧
          Describes plainPlatform policy item :=
  snapshot_contents repeatedMethod_products (reads_database (Gateway.started_connected _))
    "GET:/gateway/orders/list".toList

end ApiGateway.PolicyResolver
