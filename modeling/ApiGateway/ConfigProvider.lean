import ApiGateway.Registry

/-!
# The proxy's configuration provider

A refresh reloads the policies, enumerates the snapshot, builds routes and
clusters and stores them as the current configuration. The snapshot is a hash
table, so the order of enumeration is arbitrary; a refresh is handed the order
it meets. Every stored configuration owns a new cancellation source, and no
operation cancels any source.

Reloading the policies swallows its own exceptions, so a refresh that could not
read the registry continues with the snapshot it has.
-/

namespace ApiGateway

open Effects

namespace DatabaseProxyConfigProvider

/-- An order in which snapshots are enumerated. -/
structure Enumeration where
  order : Dictionary Text EndpointPolicy → List EndpointPolicy
  complete : ∀ snapshot, (order snapshot).Perm snapshot.values

/-- Enumeration in the order of first insertion. -/
def insertionOrder : Enumeration where
  order := Dictionary.values
  complete := fun _ => List.Perm.refl _

/-- The provider before its first refresh: an empty configuration. -/
def initialProvider (acceptAnyCertificate : Bool) : Provider where
  config := ⟨[], [], 0⟩
  sources := 1
  cancelled := []
  acceptAnyCertificate := acceptAnyCertificate

/-- The configuration of a completed pass. -/
def configOf (built : Built) (source : Nat) : DatabaseProxyConfig where
  routes := built.routes.values
  clusters := built.clusters.values
  source := source

/-- Store a new configuration under a new cancellation source. -/
def storeConfig (built : Built) (gateway : Gateway) : Gateway :=
  { gateway with
    provider :=
      { gateway.provider with
        config := configOf built gateway.provider.sources
        sources := gateway.provider.sources + 1 } }

/-- Build from the snapshot as enumerated. -/
def buildFrom (platform : Platform) (enumeration : Enumeration) (gateway : Gateway) :
    Except Fault Built :=
  buildConfig platform gateway.provider.acceptAnyCertificate (enumeration.order gateway.policySnapshot)

/-- The guarded body of a refresh. -/
def loadConfig (platform : Platform) (enumeration : Enumeration) : Task Gateway Unit := do
  PolicyResolver.refreshPoliciesAsync platform
  let outcome ← Effect.gets (buildFrom platform enumeration)
  let built ← Effect.ofExcept outcome
  Effect.update (storeConfig built)

/-- A refresh logs and swallows every exception. -/
def refreshConfigAsync (platform : Platform) (enumeration : Enumeration) : Task Gateway Unit :=
  (loadConfig platform enumeration).handle (fun _ => pure ())

/-- The constructor: an empty configuration, then a refresh. -/
def construct (platform : Platform) (enumeration : Enumeration) (acceptAnyCertificate : Bool)
    (gateway : Gateway) : Gateway :=
  (refreshConfigAsync platform enumeration
    { gateway with provider := initialProvider acceptAnyCertificate }).2

/-- The current configuration. -/
def getConfig (gateway : Gateway) : DatabaseProxyConfig := gateway.provider.config

/-- A refresh reloads the policies and then stores what it builds from the
snapshot, if that ends without an exception. -/
theorem refreshConfigAsync_state (platform : Platform) (enumeration : Enumeration)
    (gateway : Gateway) :
    (refreshConfigAsync platform enumeration gateway).2 =
      match buildFrom platform enumeration
          (PolicyResolver.refreshPoliciesAsync platform gateway).2 with
      | .ok built => storeConfig built (PolicyResolver.refreshPoliciesAsync platform gateway).2
      | .error _ => (PolicyResolver.refreshPoliciesAsync platform gateway).2 := by
  obtain ⟨written, snapshot, _, _, refreshed⟩ :=
    PolicyResolver.refreshPoliciesAsync_state platform gateway
  unfold refreshConfigAsync loadConfig Effect.handle
  rw [Effect.bind_ok refreshed, refreshed]
  cases built : buildFrom platform enumeration _ with
  | error fault => simp [Effect.bind_run, built]
  | ok built => simp [Effect.bind_run, built]

/-- The policies a refresh enumerates after reloading. -/
def enumerated (platform : Platform) (enumeration : Enumeration) (database : Database) :
    List EndpointPolicy :=
  enumeration.order (PolicyResolver.snapshotOf platform database)

theorem mem_enumerated_iff {platform : Platform} {enumeration : Enumeration} {database : Database}
    (policy : EndpointPolicy) :
    policy ∈ enumerated platform enumeration database ↔
      policy ∈ (PolicyResolver.snapshotOf platform database).values :=
  (enumeration.complete _).mem_iff

theorem enumerated_registered {platform : Platform} {enumeration : Enumeration}
    {database : Database} {policy : EndpointPolicy}
    (member : policy ∈ enumerated platform enumeration database) :
    policy ∈ PolicyResolver.registeredPolicies platform database :=
  PolicyResolver.snapshot_values ((mem_enumerated_iff policy).mp member)

/-- A refresh that reads the whole registry and builds every cluster. -/
structure Succeeds (platform : Platform) (enumeration : Enumeration) (gateway : Gateway) : Prop where
  loads : PolicyResolver.Loads platform gateway
  builds : ∃ built, buildFrom platform enumeration (PolicyResolver.reloaded platform gateway) =
    .ok built

/-- A successful refresh stores what its pass over the new snapshot built. -/
theorem refreshConfigAsync_run {platform : Platform} {enumeration : Enumeration} {gateway : Gateway}
    (succeeds : Succeeds platform enumeration gateway) :
    ∃ built,
      Completed platform gateway.provider.acceptAnyCertificate
        (enumerated platform enumeration gateway.database) built ∧
      (refreshConfigAsync platform enumeration gateway).2 =
        storeConfig built (PolicyResolver.reloaded platform gateway) := by
  obtain ⟨built, passed⟩ := succeeds.builds
  refine ⟨built, buildConfig_completed passed, ?_⟩
  rw [refreshConfigAsync_state, PolicyResolver.refreshPoliciesAsync_run succeeds.loads]
  simp [passed]

/-- A connected gateway whose services' destinations all parse refreshes successfully. -/
theorem succeeds_of_parsable {platform : Platform} {enumeration : Enumeration} {gateway : Gateway}
    (connected : gateway.Connected)
    (parsable : ∀ service ∈ gateway.database.services,
      (platform.deserializeStrings service.destinations).isOk = true) :
    Succeeds platform enumeration gateway := by
  refine ⟨PolicyResolver.loads_connected platform connected, ?_⟩
  cases passed : buildFrom platform enumeration (PolicyResolver.reloaded platform gateway) with
  | ok built => exact ⟨built, rfl⟩
  | error fault =>
    obtain ⟨policy, first, other, unparsable⟩ := (buildConfig_error_iff _ _ _).mp ⟨fault, passed⟩
    have published : policy ∈ enumerated platform enumeration gateway.database :=
      ((mem_firstBy_iff routeIdOf _ policy).mp first.mem).mem
    have parsed := parsable policy.service
      (PolicyResolver.registered_rows (enumerated_registered published)).service
    rw [unparsable] at parsed
    cases parsed

/-- The routes of a completed pass are those of the published policies. -/
theorem Completed.values {platform : Platform} {acceptAny : Bool} {policies : List EndpointPolicy}
    {built : Built} (completed : Completed platform acceptAny policies built) :
    built.routes.values = (published policies).map routeOf := by
  rw [Dictionary.values, completed.routes, List.map_map]
  rfl

theorem Completed.mem_routes {platform : Platform} {acceptAny : Bool}
    {policies : List EndpointPolicy} {built : Built}
    (completed : Completed platform acceptAny policies built) (route : RouteConfig) :
    route ∈ built.routes.values ↔
      ∃ policy, FirstOf routeIdOf policies policy ∧ routeOf policy = route := by
  rw [completed.values, List.mem_map]
  simp only [published, mem_firstBy_iff]

end DatabaseProxyConfigProvider

end ApiGateway
