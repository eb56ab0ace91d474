import ApiGateway.PublishedRoutes

/-!
# Who owns a route key

A route key belongs to the endpoint that registers it last. The schema has no
constraint on paths, so two endpoints can register one key, and then the order
in which the server returns the rows decides which of them is served. Where no
two endpoints do, every endpoint owns all of its keys in every order.
-/

namespace ApiGateway.PolicyResolver

open DatabaseProxyConfigProvider

/-- The same products, services and endpoints, returned in any order. -/
structure SameRows (left right : Database) : Prop where
  products : left.products.Perm right.products
  services : left.services.Perm right.services
  endpoints : left.endpoints.Perm right.endpoints

/-- The policy a process has in its snapshot under a key after a refresh. -/
def publishedUnder (platform : Platform) (gateway : Gateway) (key : Text) : Option EndpointPolicy :=
  (refreshPoliciesAsync platform gateway).2.policySnapshot.tryGetValue key

/-- Whatever the order of the rows, a refresh publishes one snapshot, in which
every enabled endpoint of an enabled service and product has all of its keys. -/
structure ShadowsNone (platform : Platform) (database : Database) : Prop where
  ordered : ∀ first second : Gateway, Loads platform first → Loads platform second →
    SameRows first.database database → SameRows second.database database →
      ∀ key, publishedUnder platform first key = publishedUnder platform second key
  owns : ∀ gateway : Gateway, Loads platform gateway → SameRows gateway.database database →
    ∀ service ∈ database.enabledServices, ∀ product ∈ database.enabledProducts,
      product.id = service.productId → ∀ endpoint ∈ database.enabledEndpoints service.id,
        ∀ method ∈ methodsOf endpoint,
          publishedUnder platform gateway (routeKeyOf platform method (fullPathOf service endpoint)) =
            some (buildEndpointPolicy platform product service endpoint)

variable {platform : Platform} {database : Database}

theorem SameRows.refl (database : Database) : SameRows database database :=
  ⟨List.Perm.refl _, List.Perm.refl _, List.Perm.refl _⟩

/-- The product of a service is the enabled row with its product id. -/
theorem productOf_iff (database : Database) (service : Service) (product : Product) :
    productOf database.enabledProducts service = some product ↔
      product ∈ database.enabledProducts ∧ product.id = service.productId := by
  have unique : ∀ left ∈ database.enabledProducts, ∀ right ∈ database.enabledProducts,
      decide (left.id = service.productId) = true → decide (right.id = service.productId) = true →
        left = right := by
    intro left leftMember right rightMember leftOwner rightOwner
    rw [decide_eq_true_eq] at leftOwner rightOwner
    exact Database.row_unique database.products_id (List.mem_of_mem_filter leftMember)
      (List.mem_of_mem_filter rightMember) (leftOwner.trans rightOwner.symm)
  rw [productOf, Database.find_row_iff unique, decide_eq_true_eq]

/-- Registrations do not depend on the order of the rows. -/
theorem SameRows.registered {left right : Database} (same : SameRows left right) (key : Text)
    (policy : EndpointPolicy) :
    (key, policy) ∈ registrations platform left ↔ (key, policy) ∈ registrations platform right := by
  have services : ∀ service, service ∈ left.enabledServices ↔ service ∈ right.enabledServices :=
    fun service => (same.services.filter Service.isEnabled).mem_iff
  have products : ∀ product, product ∈ left.enabledProducts ↔ product ∈ right.enabledProducts :=
    fun product => (same.products.filter Product.isEnabled).mem_iff
  have endpoints : ∀ (id : Guid) endpoint,
      endpoint ∈ left.enabledEndpoints id ↔ endpoint ∈ right.enabledEndpoints id :=
    fun id endpoint => (same.endpoints.filter _).mem_iff
  simp only [mem_registrations_iff, productOf_iff, services, products, endpoints]

/-- Without common keys the snapshot holds exactly what is registered. -/
theorem snapshot_iff_registered (noCommonKey : NoCommonKey platform database) (key : Text)
    (policy : EndpointPolicy) :
    (snapshotOf platform database).tryGetValue key = some policy ↔
      (key, policy) ∈ registrations platform database := by
  refine ⟨snapshot_registered, fun registered => ?_⟩
  rw [snapshotOf, Dictionary.tryGetValue_setAll_empty]
  refine Dictionary.lookupIn_of_only (List.mem_reverse.mpr registered) (fun other listed => ?_)
  have otherRegistered := List.mem_reverse.mp listed
  exact registered_unique (registered_of_mem otherRegistered) (registered_of_mem registered)
    (noCommonKey _ otherRegistered _ registered rfl)

theorem publishedUnder_loaded {gateway : Gateway} (loads : Loads platform gateway) (key : Text) :
    publishedUnder platform gateway key =
      (snapshotOf platform gateway.database).tryGetValue key := by
  rw [publishedUnder, refreshPoliciesAsync_run loads]
  rfl

/-- Without common keys every order of the rows publishes what is registered. -/
theorem publishedUnder_iff (noCommonKey : NoCommonKey platform database) {gateway : Gateway}
    (loads : Loads platform gateway) (same : SameRows gateway.database database) (key : Text)
    (policy : EndpointPolicy) :
    publishedUnder platform gateway key = some policy ↔
      (key, policy) ∈ registrations platform database := by
  have noCommonKeyHere : NoCommonKey platform gateway.database := by
    intro left leftRegistered right rightRegistered
    exact noCommonKey left ((same.registered _ _).mp leftRegistered) right
      ((same.registered _ _).mp rightRegistered)
  rw [publishedUnder_loaded loads, snapshot_iff_registered noCommonKeyHere, same.registered]

/-- No endpoint is shadowed, in any order of the rows, exactly when no two
registered endpoints share a key. -/
theorem shadows_none_iff (platform : Platform) (database : Database) :
    ShadowsNone platform database ↔ NoCommonKey platform database := by
  constructor
  · rintro ⟨_, owns⟩ ⟨key, left⟩ leftRegistered ⟨_, right⟩ rightRegistered rfl
    have loads := loads_connected platform (Gateway.started_connected database)
    have owner : ∀ policy, (key, policy) ∈ registrations platform database →
        publishedUnder platform (Gateway.started database) key = some policy := by
      intro policy registered
      obtain ⟨service, enabled, product, found, endpoint, listed, method, named, rfl, rfl⟩ :=
        (mem_registrations_iff key policy).mp registered
      obtain ⟨productEnabled, owned⟩ := (productOf_iff database service product).mp found
      exact owns _ loads (SameRows.refl database) service enabled product productEnabled owned
        endpoint listed method named
    have same := (owner left leftRegistered).symm.trans (owner right rightRegistered)
    rw [Option.some.inj same]
  · intro noCommonKey
    refine ⟨fun first second firstLoads secondLoads firstSame secondSame key => ?_, ?_⟩
    · refine Option.ext (fun policy => ?_)
      rw [publishedUnder_iff noCommonKey firstLoads firstSame,
        publishedUnder_iff noCommonKey secondLoads secondSame]
    · intro gateway loads same service enabled product productEnabled owned endpoint listed method
        named
      rw [publishedUnder_iff noCommonKey loads same, mem_registrations_iff]
      exact ⟨service, enabled, product,
        (productOf_iff database service product).mpr ⟨productEnabled, owned⟩, endpoint, listed,
        method, named, rfl, rfl⟩

/-- Two versions of a service under one base path. -/
def firstShared : Service :=
  .sample 1 "orders".toList "/orders".toList "v1".toList "orders-v1".toList
    "[\"http://orders-v1\"]".toList

def secondShared : Service :=
  .sample 2 "orders".toList "/orders".toList "v2".toList "orders-v2".toList
    "[\"http://orders-v2\"]".toList

def firstSharedEndpoint : Endpoint := .sample 3 1 "list".toList "GET".toList "/list".toList

def secondSharedEndpoint : Endpoint := .sample 4 2 "list".toList "GET".toList "/list".toList

def sharedBasePath : Database :=
  Database.ofPair .sample firstShared secondShared firstSharedEndpoint secondSharedEndpoint
    (by decide) (by decide) (by decide) (by decide)

/-- The second version's endpoint takes the key of the first's. -/
theorem shared_base_path_shadows : ¬ ShadowsNone plainPlatform sharedBasePath := by
  rintro ⟨_, owns⟩
  have owned := owns (Gateway.started sharedBasePath)
    (loads_connected plainPlatform (Gateway.started_connected _)) (SameRows.refl _)
    firstShared (by decide) .sample (by decide) (by decide)
    firstSharedEndpoint (by decide) "GET".toList (by decide)
  have taken : publishedUnder plainPlatform (Gateway.started sharedBasePath)
      (routeKeyOf plainPlatform "GET".toList (fullPathOf firstShared firstSharedEndpoint)) =
        some (buildEndpointPolicy plainPlatform .sample secondShared secondSharedEndpoint) := by
    decide
  rw [taken] at owned
  have endpoints := congrArg (fun found => found.map (fun policy => policy.endpoint.id)) owned
  revert endpoints
  decide

end ApiGateway.PolicyResolver
