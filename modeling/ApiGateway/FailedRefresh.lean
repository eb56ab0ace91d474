import ApiGateway.PublishedRoutes

/-!
# A refresh that fails

The new snapshot is assembled aside and published at the end, so a refresh that
fails keeps the old one. Each policy is written to the cache as soon as it is
registered, and the resolver asks the cache first. What a failed refresh leaves
behind is what it registered before the failing call, and requests are answered
as before exactly when that repeats the answers they already had.
-/

namespace ApiGateway.PolicyResolver

open Effects TwoTier

/-- The endpoints of a service are read, or the service is passed over. -/
def endpointsRead (gateway : Gateway) (service : Service) : Bool :=
  (productOf gateway.database.enabledProducts service).isNone ||
    (gateway.repositoryFault (.endpoints service.id)).isNone

/-- What a refresh writes to the cache before a repository call throws. -/
def writtenBefore (platform : Platform) (gateway : Gateway) : List (Text × EndpointPolicy) :=
  if (gateway.repositoryFault .services).isSome || (gateway.repositoryFault .products).isSome then []
  else
    (gateway.database.enabledServices.takeWhile (endpointsRead gateway)).flatMap
      (serviceEntries platform gateway.database)

/-- The policy that answers a route key: the cached one, else the snapshot's. -/
def answerUnder (gateway : Gateway) (key : Text) : Option EndpointPolicy :=
  (gateway.cache.peek CacheValue.asPolicy (PolicyCache.policyKey key)).or
    (gateway.policySnapshot.tryGetValue key)

/-- Every request is answered after the refresh as it was before. -/
def KeepsAnswers (platform : Platform) (gateway : Gateway) : Prop :=
  ∀ path method,
    (resolvePolicyAsync platform path method (refreshPoliciesAsync platform gateway).2).1 =
      (resolvePolicyAsync platform path method gateway).1

/-- Every key written before the failing call has the answer it is written with.
Where no tier takes the write, the old entry is gone and the snapshot answers. -/
def RepeatsAnswers (platform : Platform) (gateway : Gateway) : Prop :=
  ∀ key policy, Dictionary.lookupIn key (writtenBefore platform gateway).reverse = some policy →
    answerUnder gateway key =
      if gateway.cache.takes (PolicyCache.policyKey key) then some policy
      else gateway.policySnapshot.tryGetValue key

/-- A round that reads nothing always ends with its entries written. -/
def Writes {α : Type}
    (round : Dictionary Text EndpointPolicy → α → Task Gateway (Dictionary Text EndpointPolicy))
    (entries : α → List (Text × EndpointPolicy)) : Prop :=
  ∀ newSnapshot item (gateway : Gateway), round newSnapshot item gateway =
    (.ok (newSnapshot.setAll (entries item)),
      { gateway with cache := cachePolicies gateway.cache (entries item) })

variable {platform : Platform} {gateway : Gateway}

theorem writes_foldlM {α : Type}
    {round : Dictionary Text EndpointPolicy → α → Task Gateway (Dictionary Text EndpointPolicy)}
    {entries : α → List (Text × EndpointPolicy)} (writes : Writes round entries) (items : List α) :
    ∀ newSnapshot (gateway : Gateway), items.foldlM round newSnapshot gateway =
      (.ok (newSnapshot.setAll (items.flatMap entries)),
        { gateway with cache := cachePolicies gateway.cache (items.flatMap entries) }) := by
  induction items with
  | nil => exact fun _ _ => rfl
  | cons item rest ih =>
    intro newSnapshot gateway
    rw [List.foldlM_cons, Effect.bind_ok (writes newSnapshot item gateway), ih,
      ← Dictionary.setAll_append, ← cachePolicies_append]
    rfl

theorem writes_endpoint (platform : Platform) (product : Product) (service : Service) :
    Writes (registerEndpoint platform product service)
      (endpointEntries platform product service) := by
  intro newSnapshot endpoint gateway
  have rounds : Writes (registerMethod platform
      (buildEndpointPolicy platform product service endpoint) (fullPathOf service endpoint))
        (fun method => [(routeKeyOf platform method (fullPathOf service endpoint),
          buildEndpointPolicy platform product service endpoint)]) :=
    fun _ _ _ => rfl
  have looped := writes_foldlM rounds (methodsOf endpoint) newSnapshot gateway
  rwa [← List.map_eq_flatMap] at looped

/-- The loop over services caches the entries of those before the first whose
endpoints cannot be read. -/
theorem registerServices_state (platform : Platform) (gateway : Gateway) (services : List Service) :
    ∀ newSnapshot cache,
      (services.foldlM (registerService platform gateway.database.enabledProducts) newSnapshot
        { gateway with cache := cache }).2 =
      { gateway with
        cache := cachePolicies cache ((services.takeWhile (endpointsRead gateway)).flatMap
          (serviceEntries platform gateway.database)) } := by
  induction services with
  | nil => exact fun _ _ => rfl
  | cons service rest ih =>
    intro newSnapshot cache
    rw [List.foldlM_cons, Effect.bind_run]
    unfold registerService
    cases owner : productOf gateway.database.enabledProducts service with
    | none =>
      have entries : serviceEntries platform gateway.database service = [] := by
        rw [serviceEntries, owner]
      rw [List.takeWhile_cons_of_pos (by simp [endpointsRead, owner]), List.flatMap_cons, entries]
      exact ih newSnapshot cache
    | some product =>
      dsimp only
      cases reached : gateway.repositoryFault (.endpoints service.id) with
      | none =>
        have entries : serviceEntries platform gateway.database service =
            (gateway.database.enabledEndpoints service.id).flatMap
              (endpointEntries platform product service) := by
          rw [serviceEntries, owner]
        have answered : ({ gateway with cache := cache } : Gateway).repositoryFault
            (.endpoints service.id) = none := reached
        rw [List.takeWhile_cons_of_pos (by simp [endpointsRead, reached]), List.flatMap_cons, entries,
          Effect.bind_ok (Gateway.query_run answered),
          writes_foldlM (writes_endpoint platform product service), cachePolicies_append]
        exact ih _ _
      | some fault =>
        have failed : ({ gateway with cache := cache } : Gateway).repositoryFault
            (.endpoints service.id) = some fault := reached
        rw [List.takeWhile_cons_of_neg (by simp [endpointsRead, owner, reached]),
          Effect.bind_error (Gateway.query_fault failed)]
        rfl

/-- A failed refresh leaves what it had written in the cache and nothing else. -/
theorem refreshPoliciesAsync_failed (fails : ¬ Loads platform gateway) :
    (refreshPoliciesAsync platform gateway).2 =
      { gateway with cache := cachePolicies gateway.cache (writtenBefore platform gateway) } := by
  have handled : (refreshPoliciesAsync platform gateway).2 = (loadPolicies platform gateway).2 := by
    unfold refreshPoliciesAsync Effect.handle
    rcases loadPolicies platform gateway with ⟨ending, after⟩
    cases ending with
    | ok value => rfl
    | error fault => rfl
  rw [handled]
  unfold Loads at fails
  unfold writtenBefore
  cases services : gateway.repositoryFault .services with
  | some fault =>
    rw [loadPolicies, Effect.bind_error (Gateway.query_fault services)]
    rfl
  | none =>
    rw [loadPolicies, Effect.bind_ok (Gateway.query_run services)] at fails ⊢
    cases products : gateway.repositoryFault .products with
    | some fault =>
      rw [Effect.bind_error (Gateway.query_fault products)]
      rfl
    | none =>
      rw [Effect.bind_ok (Gateway.query_run products), Effect.bind_run] at fails ⊢
      have looped := registerServices_state platform gateway
        gateway.database.enabledServices Dictionary.empty gateway.cache
      rcases ran : gateway.database.enabledServices.foldlM
        (registerService platform gateway.database.enabledProducts) Dictionary.empty gateway with
        ⟨ending, after⟩
      rw [ran] at fails
      rw [show ({ gateway with cache := gateway.cache } : Gateway) = gateway from rfl, ran] at looped
      cases ending with
      | ok snapshot => exact absurd rfl fails
      | error fault => exact looped

/-- What was written before the failure would be registered by a whole refresh. -/
theorem writtenBefore_subset (platform : Platform) (gateway : Gateway) :
    writtenBefore platform gateway ⊆ registrations platform gateway.database := by
  unfold writtenBefore
  split
  · exact List.nil_subset _
  · intro entry written
    obtain ⟨service, listed, member⟩ := List.mem_flatMap.mp written
    exact List.mem_flatMap.mpr ⟨service, (List.takeWhile_sublist _).subset listed, member⟩

/-- Every registered key is the key of some request. -/
theorem registered_key_requested {key : Text} {policy : EndpointPolicy}
    (registered : (key, policy) ∈ registrations platform gateway.database) :
    ∃ path method, requestKey platform path method = key := by
  obtain ⟨method, _, rfl⟩ := registered_key registered
  exact ⟨fullPathOf policy.service policy.endpoint, Text.trim method, rfl⟩

/-- The answer under a key after a failed refresh. -/
theorem answerUnder_failed (platform : Platform) (gateway : Gateway) (key : Text) :
    answerUnder { gateway with
        cache := cachePolicies gateway.cache (writtenBefore platform gateway) } key =
      match Dictionary.lookupIn key (writtenBefore platform gateway).reverse with
      | none => answerUnder gateway key
      | some policy =>
        if gateway.cache.takes (PolicyCache.policyKey key) then some policy
        else gateway.policySnapshot.tryGetValue key := by
  unfold answerUnder
  cases written : Dictionary.lookupIn key (writtenBefore platform gateway).reverse with
  | none => simp only [peek_cachePolicies_absent written]
  | some policy =>
    simp only [peek_cachePolicies_written gateway.cache written]
    split
    · rfl
    · rfl

/-- A failed refresh changes no answer exactly when everything it had written
repeats the answers that were there. -/
theorem failed_refresh_iff (fails : ¬ Loads platform gateway) :
    KeepsAnswers platform gateway ↔ RepeatsAnswers platform gateway := by
  have answers : KeepsAnswers platform gateway ↔ ∀ path method,
      answerUnder { gateway with
          cache := cachePolicies gateway.cache (writtenBefore platform gateway) }
          (requestKey platform path method) =
        answerUnder gateway (requestKey platform path method) := by
    unfold KeepsAnswers
    simp only [refreshPoliciesAsync_failed fails, resolvePolicyAsync_value, Except.ok.injEq]
    rfl
  rw [answers]
  constructor
  · intro kept key policy written
    have registered := writtenBefore_subset platform gateway
      (List.mem_reverse.mp (Dictionary.lookupIn_mem written))
    obtain ⟨path, method, rfl⟩ := registered_key_requested registered
    rw [← kept path method, answerUnder_failed, written]
  · intro repeats path method
    rw [answerUnder_failed]
    cases written : Dictionary.lookupIn (requestKey platform path method)
        (writtenBefore platform gateway).reverse with
    | none => rfl
    | some policy => exact (repeats _ policy written).symm

/-- A process that has loaded nothing, and whose query for the second of two
services fails. -/
def interrupted : Gateway :=
  { Gateway.started DatabaseProxyConfigProvider.twoVersions with
    repositoryFault := fun call =>
      if call = .endpoints (Guid.numbered 2) then some ⟨"NpgsqlException".toList⟩ else none }

theorem interrupted_fails : ¬ Loads plainPlatform interrupted := by
  unfold Loads
  decide

theorem failed_refresh_iff_interrupted :
    KeepsAnswers plainPlatform interrupted ↔ RepeatsAnswers plainPlatform interrupted :=
  failed_refresh_iff interrupted_fails

/-- The first service's endpoint, unknown before, is answered after the failure. -/
theorem interrupted_refresh_answers :
    ¬ Loads plainPlatform interrupted ∧ ¬ KeepsAnswers plainPlatform interrupted := by
  refine ⟨interrupted_fails, fun kept => ?_⟩
  have answered := congrArg (fun ending : Except Fault (Option EndpointPolicy) =>
    ending.toOption.any Option.isSome) (kept "/gateway/v1/orders/list".toList "GET".toList)
  revert answered
  decide

end ApiGateway.PolicyResolver
