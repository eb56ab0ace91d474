import ApiGateway.FailedRefresh
import ApiGateway.RouteReload

/-!
# Routes and policies together

The snapshot and the proxy configuration are derived from the same tables. The
constructor, the start-up warm-up and the refresh of the outbound rules replace
both; the periodic cycle and the refresh of the policies replace the snapshot
only. A refresh that cannot build a cluster has replaced the snapshot already
and keeps the old configuration.

So the two move together exactly as long as a policies-only refresh meets no
registry with other routes or clusters, and no configuration is abandoned.
-/

namespace ApiGateway.DatabaseProxyConfigProvider

open Effects

/-- A process with the order in which it enumerates snapshots. -/
structure Process where
  gateway : Gateway
  enumeration : Enumeration

/-- A change of the surroundings of a process. -/
def FromOutside {platform : Platform} : Step platform → Prop
  | .databaseChanges _ => True
  | .repositoriesChange _ => True
  | .surroundingsChange _ => True
  | _ => False

/-- What refreshes a process, and what happens between and within refreshes. -/
inductive RefreshOperation (platform : Platform) where
  | happens (change : Step platform) (outside : FromOutside change)
  | constructs (enumeration : Enumeration) (acceptAnyCertificate : Bool)
  | startsUp (meanwhile : List (Step platform)) (outside : ∀ change ∈ meanwhile, FromOutside change)
  | cycles
  | refreshesPolicies
  | refreshesRules

/-- A process in the middle of its warm-up, when the policies have been refreshed. -/
def warmedUp {platform : Platform} (meanwhile : List (Step platform)) (gateway : Gateway) : Gateway :=
  Runs.run (perform platform) meanwhile (PolicyResolver.refreshPoliciesAsync platform gateway).2

/-- A new process before its constructor's refresh. -/
def launching (acceptAnyCertificate : Bool) (gateway : Gateway) : Gateway :=
  { restarted gateway with provider := initialProvider acceptAnyCertificate }

/-- Perform one operation. -/
def operate (platform : Platform) : RefreshOperation platform → Process → Process
  | .happens change _, process => { process with gateway := perform platform change process.gateway }
  | .constructs enumeration acceptAnyCertificate, process =>
      ⟨construct platform enumeration acceptAnyCertificate (restarted process.gateway), enumeration⟩
  | .startsUp meanwhile _, process =>
      { process with
        gateway := (refreshConfigAsync platform process.enumeration
          (warmedUp meanwhile process.gateway)).2 }
  | .cycles, process =>
      { process with gateway := (PolicyRefreshService.refreshAllAsync platform process.gateway).2 }
  | .refreshesPolicies, process =>
      { process with gateway := (PolicyResolver.refreshPoliciesAsync platform process.gateway).2 }
  | .refreshesRules, process =>
      { process with
        gateway := (refreshConfigAsync platform process.enumeration process.gateway).2 }

/-- The routes and clusters built from the current snapshot. -/
def configurationOf (platform : Platform) (enumeration : Enumeration) (gateway : Gateway) :
    Except Fault (List RouteConfig × List ClusterConfig) :=
  (buildFrom platform enumeration gateway).map (fun built => (built.routes.values, built.clusters.values))

/-- The published routes and clusters are those built from the current snapshot. -/
def InStep (platform : Platform) (process : Process) : Prop :=
  configurationOf platform process.enumeration process.gateway =
    .ok (process.gateway.provider.config.routes, process.gateway.provider.config.clusters)

/-- The registry, if it is read, has the routes and clusters of the current snapshot. -/
def SameConfiguration (platform : Platform) (process : Process) : Prop :=
  PolicyResolver.Loads platform process.gateway →
    configurationOf platform process.enumeration (PolicyResolver.reloaded platform process.gateway) =
      configurationOf platform process.enumeration process.gateway

/-- A refresh of the policies alone meets the same routes and clusters, and a
refresh of the configuration is not abandoned. -/
def MovesBoth (platform : Platform) (process : Process) : RefreshOperation platform → Prop
  | .happens _ _ => True
  | .constructs enumeration acceptAnyCertificate =>
      ¬ Abandons platform enumeration (launching acceptAnyCertificate process.gateway)
  | .startsUp meanwhile _ =>
      ¬ Abandons platform process.enumeration (warmedUp meanwhile process.gateway)
  | .cycles => SameConfiguration platform process
  | .refreshesPolicies => SameConfiguration platform process
  | .refreshesRules => ¬ Abandons platform process.enumeration process.gateway

variable {platform : Platform}

/-- A refresh of the configuration leaves both in step unless it is abandoned. -/
theorem inStep_refreshConfigAsync (enumeration : Enumeration) (gateway : Gateway) :
    InStep platform ⟨(refreshConfigAsync platform enumeration gateway).2, enumeration⟩ ↔
      ¬ Abandons platform enumeration gateway := by
  have abandons : Abandons platform enumeration gateway ↔ ∃ fault,
      buildFrom platform enumeration (PolicyResolver.refreshPoliciesAsync platform gateway).2 =
        .error fault :=
    (buildConfig_error_iff platform _ _).symm
  rw [abandons, InStep, configurationOf, refreshConfigAsync_state]
  cases passed : buildFrom platform enumeration
      (PolicyResolver.refreshPoliciesAsync platform gateway).2 with
  | error fault => simp [passed, Except.map]
  | ok built =>
    have again : buildFrom platform enumeration
        (storeConfig built (PolicyResolver.refreshPoliciesAsync platform gateway).2) = .ok built :=
      passed
    dsimp only
    rw [again]
    simp [Except.map, storeConfig, configOf]

/-- What is built depends on the snapshot and on how certificates are checked. -/
theorem configurationOf_congr (platform : Platform) (enumeration : Enumeration) {left right : Gateway}
    (snapshot : left.policySnapshot = right.policySnapshot)
    (provider : left.provider = right.provider) :
    configurationOf platform enumeration left = configurationOf platform enumeration right := by
  rw [configurationOf, configurationOf, buildFrom, buildFrom, snapshot, provider]

/-- Where the snapshot is the one that a refresh of the policies leaves, the two
are in step exactly if the routes and clusters stayed the same. -/
theorem inStep_policies {process : Process} (inStep : InStep platform process) {after : Gateway}
    (snapshot : after.policySnapshot =
      (PolicyResolver.refreshPoliciesAsync platform process.gateway).2.policySnapshot)
    (provider : after.provider = process.gateway.provider) :
    InStep platform { process with gateway := after } ↔ SameConfiguration platform process := by
  have kept : (PolicyResolver.refreshPoliciesAsync platform process.gateway).2.provider =
      process.gateway.provider := by
    obtain ⟨_, _, _, _, ran⟩ := PolicyResolver.refreshPoliciesAsync_state platform process.gateway
    rw [ran]
  have built := configurationOf_congr platform process.enumeration snapshot
    (provider.trans kept.symm)
  unfold InStep SameConfiguration at *
  dsimp only
  rw [built, provider, ← inStep]
  by_cases loads : PolicyResolver.Loads platform process.gateway
  · rw [PolicyResolver.refreshPoliciesAsync_run loads]
    simp [loads]
  · have unchanged : configurationOf platform process.enumeration
        (PolicyResolver.refreshPoliciesAsync platform process.gateway).2 =
          configurationOf platform process.enumeration process.gateway := by
      refine configurationOf_congr platform process.enumeration ?_ kept
      rw [PolicyResolver.refreshPoliciesAsync_failed loads]
    simp [loads, unchanged]

/-- Changes of the surroundings replace neither the snapshot nor the configuration. -/
theorem outside_published {change : Step platform} (outside : FromOutside change)
    (gateway : Gateway) :
    (perform platform change gateway).policySnapshot = gateway.policySnapshot ∧
      (perform platform change gateway).provider = gateway.provider := by
  cases change with
  | databaseChanges database => exact ⟨rfl, rfl⟩
  | repositoriesChange fault => exact ⟨rfl, rfl⟩
  | surroundingsChange decay => exact ⟨rfl, rfl⟩
  | _ => exact outside.elim

/-- An operation keeps the two in step exactly when it moves both. -/
theorem inStep_operate (process : Process) (operation : RefreshOperation platform)
    (inStep : InStep platform process) :
    InStep platform (operate platform operation process) ↔ MovesBoth platform process operation := by
  cases operation with
  | happens change outside =>
    obtain ⟨snapshot, provider⟩ := outside_published outside process.gateway
    refine iff_of_true ?_ trivial
    unfold InStep operate at *
    dsimp only
    rw [configurationOf_congr platform process.enumeration snapshot provider, provider]
    exact inStep
  | constructs enumeration acceptAnyCertificate =>
    exact inStep_refreshConfigAsync enumeration (launching acceptAnyCertificate process.gateway)
  | startsUp meanwhile outside =>
    exact inStep_refreshConfigAsync process.enumeration (warmedUp meanwhile process.gateway)
  | cycles =>
    have published := PolicyRefreshService.refreshAllAsync_published platform process.gateway
    obtain ⟨snapshot, provider⟩ := Prod.mk.inj published
    obtain ⟨_, _, _, _, ran⟩ := PolicyResolver.refreshPoliciesAsync_state platform process.gateway
    exact inStep_policies inStep snapshot (provider.trans (by rw [ran]))
  | refreshesPolicies =>
    obtain ⟨_, _, _, _, ran⟩ := PolicyResolver.refreshPoliciesAsync_state platform process.gateway
    exact inStep_policies inStep rfl (by rw [ran])
  | refreshesRules => exact inStep_refreshConfigAsync process.enumeration process.gateway

/-- Before its constructor a process has published nothing. -/
theorem inStep_started (platform : Platform) (database : Database) (enumeration : Enumeration) :
    InStep platform ⟨Gateway.started database, enumeration⟩ := by
  have nothing : enumeration.order (Gateway.started database).policySnapshot = [] :=
    List.perm_nil.mp (enumeration.complete Dictionary.empty)
  rw [InStep, configurationOf, buildFrom, nothing]
  rfl

/-- After each operation of a run the published routes and clusters are those
built from the current snapshot, exactly when every operation moves both. -/
theorem moves_together_iff (platform : Platform) (database : Database) (enumeration : Enumeration)
    (operations : List (RefreshOperation platform)) :
    (∀ earlier, earlier <+: operations →
        InStep platform (Runs.run (operate platform) earlier ⟨Gateway.started database, enumeration⟩)) ↔
      Runs.Along (operate platform) (MovesBoth platform) operations
        ⟨Gateway.started database, enumeration⟩ :=
  Runs.always_iff inStep_operate (inStep_started platform database enumeration)

/-- A process is constructed and warmed up over an empty registry; an endpoint is
added, and a periodic cycle completes. -/
def cycledOnly : List (RefreshOperation plainPlatform) :=
  [.constructs insertionOrder false, .startsUp [] (by simp),
    .happens (.databaseChanges PolicyResolver.oneEndpoint) trivial, .cycles]

/-- The endpoint then has a policy and no route. -/
theorem cycled_policy_without_route :
    let process := Runs.run (operate plainPlatform) cycledOnly
      ⟨Gateway.started Database.vacant, insertionOrder⟩
    process.gateway.policySnapshot.values.length = 1 ∧
      process.gateway.provider.config.routes.length = 0 ∧ ¬ InStep plainPlatform process := by
  refine ⟨by decide, by decide, fun inStep => ?_⟩
  have built := congrArg (fun ending : Except Fault (List RouteConfig × List ClusterConfig) =>
    ending.toOption.map (fun lists => lists.1.length)) inStep
  revert built
  decide

end ApiGateway.DatabaseProxyConfigProvider
