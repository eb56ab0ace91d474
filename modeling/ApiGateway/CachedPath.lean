import ApiGateway.GatewayRuns
import ApiGateway.Registry

/-!
# The cached path and the snapshot

A request is answered from the cache before the snapshot, and a refresh only
adds to the cache. So after a refresh the two agree exactly when the cache
answers for no route key that the new snapshot lacks.

Along a run they keep agreeing as long as no change of the registry takes a route
key away that the process still retains a policy for.
-/

namespace ApiGateway.PolicyResolver

open Effects TwoTier

/-- Every request is answered as the snapshot has it, so with a policy that the
database registers under the request's key. -/
structure Agrees (platform : Platform) (gateway : Gateway) : Prop where
  snapshot : ∀ path method, (resolvePolicyAsync platform path method gateway).1 =
    .ok (gateway.policySnapshot.tryGetValue (requestKey platform path method))
  registered : ∀ path method policy,
    (resolvePolicyAsync platform path method gateway).1 = .ok (some policy) →
      (requestKey platform path method, policy) ∈ registrations platform gateway.database

/-- The route keys under which the registry's enabled rows have a policy. -/
def routeKeys (platform : Platform) (database : Database) : List Text :=
  (registrations platform database).map Prod.fst

/-- The cache answers for no request whose route key is not registered. -/
def NoRetiredPolicy (platform : Platform) (gateway : Gateway) : Prop :=
  ∀ path method, requestKey platform path method ∉ routeKeys platform gateway.database →
    gateway.cache.peek CacheValue.asPolicy
      (PolicyCache.policyKey (requestKey platform path method)) = none

/-- A policy is retained under a registered route key. -/
def RouteKept (platform : Platform) (database : Database) (key : Text) (value : CacheValue) : Prop :=
  ∀ routeKey policy, key = PolicyCache.policyKey routeKey → value = .policy policy →
    routeKey ∈ routeKeys platform database

theorem offered_routeKept (platform : Platform) (database : Database) (key : Text)
    (value : CacheValue) (offered : Offered platform database key value) :
    RouteKept platform database key value := by
  rintro routeKey policy keyed rfl
  cases offered with
  | policy offeredKey _ registered =>
    rw [← PolicyCache.policyKey_injective keyed]
    exact List.mem_map.mpr ⟨_, registered, rfl⟩

variable {platform : Platform} {gateway : Gateway}

/-- Where only registered keys are retained the cache answers for no other. -/
theorem noRetiredPolicy_of_sustains (sustains : Sustains (RouteKept platform) gateway) :
    NoRetiredPolicy platform gateway := by
  intro path method absent
  rw [Option.eq_none_iff_forall_ne_some]
  intro policy peeked
  obtain ⟨value, held, viewed⟩ := Cache.peek_held peeked
  exact absent (sustains.cache _ value held _ policy rfl
    ((CacheValue.asPolicy_eq_some_iff value policy).mp viewed))

/-- After a refresh that read the registry the two agree exactly when the cache
answered for no unregistered key before it. -/
theorem agrees_reloaded_iff :
    Agrees platform (reloaded platform gateway) ↔ NoRetiredPolicy platform gateway := by
  constructor
  · intro agrees path method absent
    have none : (snapshotOf platform gateway.database).tryGetValue
        (requestKey platform path method) = none := (snapshot_none_iff _).mpr absent
    have answer := agrees.snapshot path method
    rw [resolvePolicyAsync_reloaded, none, Option.none_or] at answer
    exact (Except.ok.inj answer).trans none
  · intro unanswered
    have answer : ∀ path method,
        (resolvePolicyAsync platform path method (reloaded platform gateway)).1 =
          .ok ((snapshotOf platform gateway.database).tryGetValue
            (requestKey platform path method)) := by
      intro path method
      rw [resolvePolicyAsync_reloaded]
      cases found : (snapshotOf platform gateway.database).tryGetValue
          (requestKey platform path method) with
      | none => rw [Option.none_or, unanswered path method ((snapshot_none_iff _).mp found)]
      | some policy => rw [Option.some_or]
    refine ⟨answer, fun path method policy resolved => ?_⟩
    rw [answer] at resolved
    exact snapshot_registered (Except.ok.inj resolved)

/-- Agreement after a refresh that read the registry: in every state reached by a
run that takes no retained route key away, and from any state at all exactly when
the cache answers for no unregistered key. -/
theorem cached_path_agrees_iff (platform : Platform) :
    (∀ (database : Database) (steps : List (Step platform)),
      Runs.Along (perform platform) (Tolerates (RouteKept platform)) steps
          (Gateway.started database) →
        Loads platform (Runs.run (perform platform) steps (Gateway.started database)) →
          Agrees platform (refreshPoliciesAsync platform
            (Runs.run (perform platform) steps (Gateway.started database))).2) ∧
      ∀ gateway : Gateway, Loads platform gateway →
        (Agrees platform (refreshPoliciesAsync platform gateway).2 ↔
          NoRetiredPolicy platform gateway) := by
  constructor
  · intro database steps along loads
    have sustains := sustains_run (offered_routeKept platform)
      (sustains_started (RouteKept platform) database) along
    rw [refreshPoliciesAsync_run loads]
    exact agrees_reloaded_iff.mpr (noRetiredPolicy_of_sustains sustains)
  · intro gateway loads
    rw [refreshPoliciesAsync_run loads]
    exact agrees_reloaded_iff

/-- A service with one endpoint. -/
def oneService : Service :=
  .sample 1 "orders".toList "/orders".toList "v1".toList "orders".toList
    "[\"http://orders\"]".toList

def oneServiceEndpoint : Endpoint := .sample 2 1 "list".toList "GET".toList "/list".toList

def oneEndpoint : Database := Database.ofEndpoint .sample oneService oneServiceEndpoint

/-- The endpoint is loaded and then deleted. -/
def retired : Gateway :=
  Runs.run (perform plainPlatform) [.refreshesPolicies, .databaseChanges Database.vacant]
    (Gateway.started oneEndpoint)

theorem cached_path_agrees_iff_retired :
    Agrees plainPlatform (refreshPoliciesAsync plainPlatform
        (Runs.run (perform plainPlatform) [.refreshesPolicies, .refreshesAll]
          (Gateway.started oneEndpoint))).2 ∧
      (Agrees plainPlatform (refreshPoliciesAsync plainPlatform retired).2 ↔
        NoRetiredPolicy plainPlatform retired) :=
  ⟨(cached_path_agrees_iff plainPlatform).1 oneEndpoint [.refreshesPolicies, .refreshesAll]
      ⟨trivial, trivial, trivial⟩ (by unfold Loads; decide),
    (cached_path_agrees_iff plainPlatform).2 retired
      (loads_connected plainPlatform (fun _ => rfl))⟩

/-- A refresh that reads the registry leaves the deleted endpoint resolvable. -/
theorem retired_endpoint_still_resolves :
    Loads plainPlatform retired ∧
      ¬ Agrees plainPlatform (refreshPoliciesAsync plainPlatform retired).2 := by
  refine ⟨loads_connected plainPlatform (fun _ => rfl), fun agrees => ?_⟩
  have answer := agrees.snapshot "/gateway/orders/list".toList "GET".toList
  have cached : (resolvePolicyAsync plainPlatform "/gateway/orders/list".toList "GET".toList
      (refreshPoliciesAsync plainPlatform retired).2).1.toOption.any Option.isSome = true := by
    decide
  have dropped : (refreshPoliciesAsync plainPlatform retired).2.policySnapshot.tryGetValue
      (requestKey plainPlatform "/gateway/orders/list".toList "GET".toList) = none := by
    decide
  rw [answer, dropped] at cached
  cases cached

end ApiGateway.PolicyResolver
