import ApiGateway.PolicyResolver

/-!
# What a refresh registers, in terms of rows

Every registered policy is assembled from an enabled endpoint, its enabled
service and that service's enabled product, and its key names one of the
endpoint's methods and the endpoint's full path. The primary keys make a policy
a function of its endpoint's id and a service row a function of its own.
-/

namespace ApiGateway.PolicyResolver

variable {platform : Platform} {database : Database}

/-- A registered pair and the rows behind it. -/
theorem mem_registrations_iff (key : Text) (policy : EndpointPolicy) :
    (key, policy) ∈ registrations platform database ↔
      ∃ service ∈ database.enabledServices,
        ∃ product, productOf database.enabledProducts service = some product ∧
          ∃ endpoint ∈ database.enabledEndpoints service.id, ∃ method ∈ methodsOf endpoint,
            key = routeKeyOf platform method (fullPathOf service endpoint) ∧
              policy = buildEndpointPolicy platform product service endpoint := by
  simp only [registrations, List.mem_flatMap]
  refine exists_congr fun service => and_congr_right fun _ => ?_
  unfold serviceEntries
  cases productOf database.enabledProducts service with
  | none => simp
  | some product =>
    simp only [List.mem_flatMap, endpointEntries, List.mem_map, Option.some.injEq, exists_eq_left',
      Prod.mk.injEq]
    constructor
    · rintro ⟨endpoint, member, method, named, rfl, rfl⟩
      exact ⟨endpoint, member, method, named, rfl, rfl⟩
    · rintro ⟨endpoint, member, method, named, rfl, rfl⟩
      exact ⟨endpoint, member, method, named, rfl, rfl⟩

/-- The policies a refresh registers, once for each method entry. -/
def registeredPolicies (platform : Platform) (database : Database) : List EndpointPolicy :=
  (registrations platform database).map Prod.snd

theorem registered_of_mem {key : Text} {policy : EndpointPolicy}
    (registered : (key, policy) ∈ registrations platform database) :
    policy ∈ registeredPolicies platform database :=
  List.mem_map.mpr ⟨(key, policy), registered, rfl⟩

/-- A policy is read off its own rows. -/
structure FromRows (platform : Platform) (database : Database) (policy : EndpointPolicy) : Prop where
  service : policy.service ∈ database.services
  endpoint : policy.endpoint ∈ database.endpoints
  owner : policy.endpoint.serviceId = policy.service.id
  product : productOf database.enabledProducts policy.service = some policy.product
  built : policy = buildEndpointPolicy platform policy.product policy.service policy.endpoint

/-- The key of a registered policy names one of its methods and its full path. -/
theorem registered_key {key : Text} {policy : EndpointPolicy}
    (registered : (key, policy) ∈ registrations platform database) :
    ∃ method ∈ methodsOf policy.endpoint,
      key = routeKeyOf platform method (fullPathOf policy.service policy.endpoint) := by
  obtain ⟨service, _, product, _, endpoint, _, method, named, keyed, rfl⟩ :=
    (mem_registrations_iff key policy).mp registered
  exact ⟨method, named, keyed⟩

theorem registered_rows {policy : EndpointPolicy}
    (registered : policy ∈ registeredPolicies platform database) :
    FromRows platform database policy := by
  obtain ⟨⟨key, each⟩, member, rfl⟩ := List.mem_map.mp registered
  obtain ⟨service, enabled, product, found, endpoint, listed, method, named, keyed, rfl⟩ :=
    (mem_registrations_iff key each).mp member
  have owned : endpoint ∈ database.endpoints ∧
      endpoint.serviceId = service.id ∧ endpoint.isEnabled = true := by
    simpa [Database.enabledEndpoints] using listed
  exact ⟨(List.mem_filter.mp enabled).1, owned.1, owned.2.1, found, rfl⟩

/-- Registered policies with services of one id have one service. -/
theorem registered_service_unique {left right : EndpointPolicy}
    (leftRegistered : left ∈ registeredPolicies platform database)
    (rightRegistered : right ∈ registeredPolicies platform database)
    (same : left.service.id = right.service.id) : left.service = right.service :=
  Database.row_unique database.services_id (registered_rows leftRegistered).service
    (registered_rows rightRegistered).service same

/-- Registered policies with endpoints of one id are one policy. -/
theorem registered_unique {left right : EndpointPolicy}
    (leftRegistered : left ∈ registeredPolicies platform database)
    (rightRegistered : right ∈ registeredPolicies platform database)
    (same : left.endpoint.id = right.endpoint.id) : left = right := by
  have leftRows := registered_rows leftRegistered
  have rightRows := registered_rows rightRegistered
  have endpoints : left.endpoint = right.endpoint :=
    Database.row_unique database.endpoints_id leftRows.endpoint rightRows.endpoint same
  have services : left.service = right.service := by
    apply registered_service_unique leftRegistered rightRegistered
    rw [← leftRows.owner, ← rightRows.owner, endpoints]
  have products : left.product = right.product := by
    have found := leftRows.product
    rw [services, rightRows.product] at found
    exact (Option.some.inj found).symm
  rw [leftRows.built, rightRows.built, endpoints, services, products]

/-- Whatever the snapshot holds was registered under its key. -/
theorem snapshot_registered {key : Text} {policy : EndpointPolicy}
    (found : (snapshotOf platform database).tryGetValue key = some policy) :
    (key, policy) ∈ registrations platform database :=
  Dictionary.mem_setAll_empty found

/-- Every value of the snapshot is a registered policy. -/
theorem snapshot_values {policy : EndpointPolicy}
    (value : policy ∈ (snapshotOf platform database).values) :
    policy ∈ registeredPolicies platform database := by
  obtain ⟨⟨key, each⟩, stored, rfl⟩ := List.mem_map.mp value
  exact registered_of_mem
    (snapshot_registered ((Dictionary.mem_entries_iff _ key each).mp stored))

theorem snapshot_value_of_key {key : Text} {policy : EndpointPolicy}
    (found : (snapshotOf platform database).tryGetValue key = some policy) :
    policy ∈ (snapshotOf platform database).values :=
  List.mem_map.mpr ⟨(key, policy), (Dictionary.mem_entries_iff _ key policy).mpr found, rfl⟩

/-- A key has a policy in the snapshot exactly when it was registered. -/
theorem snapshot_none_iff (key : Text) :
    (snapshotOf platform database).tryGetValue key = none ↔
      key ∉ (registrations platform database).map Prod.fst :=
  Dictionary.tryGetValue_setAll_none_iff _ key

end ApiGateway.PolicyResolver
