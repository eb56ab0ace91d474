import ApiGateway.CachedPath

/-!
# Reloading routes in a running proxy

The proxy asks the provider for its configuration once at start, and again when
the change token of the configuration it holds has fired. Every configuration has
a cancellation source of its own and no operation cancels any, so no token ever
fires. The proxy keeps what it got at start, and this is the configuration most
recently stored exactly when every refresh since then was abandoned.
-/

namespace ApiGateway.DatabaseProxyConfigProvider

open Effects

/-- A process and the configuration its proxy holds. -/
structure Host where
  gateway : Gateway
  held : Option DatabaseProxyConfig

/-- The change token of a configuration has fired. -/
def HasChanged (gateway : Gateway) (config : DatabaseProxyConfig) : Prop :=
  config.source ∈ gateway.provider.cancelled

instance (gateway : Gateway) (config : DatabaseProxyConfig) :
    Decidable (HasChanged gateway config) :=
  inferInstanceAs (Decidable (_ ∈ _))

/-- A step of the process other than its end. -/
def WithinProcess {platform : Platform} : Step platform → Prop
  | .restarts _ _ => False
  | _ => True

/-- What can happen to a process and its proxy. -/
inductive HostStep (platform : Platform) where
  | runs (step : Step platform) (within : WithinProcess step)
  | loads
  | serves

/-- Perform one step. The proxy loads once and serves a token that has fired. -/
def performHost (platform : Platform) : HostStep platform → Host → Host
  | .runs step _, host => { host with gateway := perform platform step host.gateway }
  | .loads, host => { host with held := host.held.or (some (getConfig host.gateway)) }
  | .serves, host =>
      { host with
        held := host.held.map (fun config =>
          if HasChanged host.gateway config then getConfig host.gateway else config) }

/-- Once a fired token has been served, the proxy holds the configuration most
recently stored. -/
def HoldsCurrent (host : Host) : Prop :=
  ∀ config, host.held = some config → ¬ HasChanged host.gateway config →
    config = host.gateway.provider.config

/-- The policies a refresh of the configuration enumerates. -/
def enumerates (platform : Platform) (enumeration : Enumeration) (gateway : Gateway) :
    List EndpointPolicy :=
  enumeration.order (PolicyResolver.refreshPoliciesAsync platform gateway).2.policySnapshot

/-- A refresh that would start some cluster from destinations that do not parse. -/
def Abandons (platform : Platform) (enumeration : Enumeration) (gateway : Gateway) : Prop :=
  ∃ policy, FirstOf clusterIdOf (published (enumerates platform enumeration gateway)) policy ∧
    Unparsable platform policy

/-- No refresh of the configuration after the proxy has loaded, unless abandoned. -/
def Quiet {platform : Platform} (host : Host) : HostStep platform → Prop
  | .runs (.refreshesConfig enumeration) _ =>
      host.held = none ∨ Abandons platform enumeration host.gateway
  | _ => True

/-- A process whose provider has just been constructed, before the proxy loads. -/
def constructed (platform : Platform) (enumeration : Enumeration) (acceptAnyCertificate : Bool)
    (gateway : Gateway) : Host :=
  ⟨construct platform enumeration acceptAnyCertificate gateway, none⟩

/-- No source is cancelled and the current configuration's is the latest. -/
structure Unsignalled (provider : Provider) : Prop where
  cancelled : provider.cancelled = []
  latest : provider.config.source < provider.sources

variable {platform : Platform}

/-- A refresh replaces the provider's configuration by one with a new source, or
is abandoned and leaves the provider alone. -/
theorem refreshConfigAsync_provider (enumeration : Enumeration) (gateway : Gateway) :
    (Abandons platform enumeration gateway ∧
        (refreshConfigAsync platform enumeration gateway).2.provider = gateway.provider) ∨
      ∃ built, ¬ Abandons platform enumeration gateway ∧
        (refreshConfigAsync platform enumeration gateway).2.provider =
          { gateway.provider with
            config := configOf built gateway.provider.sources
            sources := gateway.provider.sources + 1 } := by
  obtain ⟨written, snapshot, _, _, ran⟩ := PolicyResolver.refreshPoliciesAsync_state platform gateway
  have provider : (PolicyResolver.refreshPoliciesAsync platform gateway).2.provider =
      gateway.provider := by
    rw [ran]
  have abandons : Abandons platform enumeration gateway ↔ ∃ fault,
      buildFrom platform enumeration (PolicyResolver.refreshPoliciesAsync platform gateway).2 =
        .error fault :=
    (buildConfig_error_iff platform _ _).symm
  rw [refreshConfigAsync_state, abandons]
  cases outcome : buildFrom platform enumeration
    (PolicyResolver.refreshPoliciesAsync platform gateway).2 with
  | error fault => exact Or.inl ⟨⟨fault, rfl⟩, provider⟩
  | ok built =>
    refine Or.inr ⟨built, by simp, ?_⟩
    simp only [storeConfig, provider]

/-- A step of the process stores a configuration under a new source, in a refresh
that is not abandoned, or leaves the provider alone. -/
theorem perform_provider (step : Step platform) (within : WithinProcess step) (gateway : Gateway) :
    ((∀ enumeration, step = .refreshesConfig enumeration → Abandons platform enumeration gateway) ∧
        (perform platform step gateway).provider = gateway.provider) ∨
      ∃ enumeration built, step = .refreshesConfig enumeration ∧
        ¬ Abandons platform enumeration gateway ∧
        (perform platform step gateway).provider =
          { gateway.provider with
            config := configOf built gateway.provider.sources
            sources := gateway.provider.sources + 1 } := by
  by_cases reconfigures : Reconfigures step
  · cases step with
    | refreshesConfig enumeration =>
      rcases refreshConfigAsync_provider enumeration gateway with ⟨abandons, kept⟩ | ⟨built, stored⟩
      · exact Or.inl ⟨fun other same => by cases same; exact abandons, kept⟩
      · exact Or.inr ⟨enumeration, built, rfl, stored⟩
    | restarts enumeration acceptAnyCertificate => exact within.elim
    | _ => exact reconfigures.elim
  · refine Or.inl ⟨?_, (perform_frame step gateway).2 reconfigures⟩
    rintro enumeration rfl
    exact absurd trivial reconfigures

theorem unsignalled_constructed (platform : Platform) (enumeration : Enumeration)
    (acceptAnyCertificate : Bool) (gateway : Gateway) :
    Unsignalled (construct platform enumeration acceptAnyCertificate gateway).provider := by
  rcases refreshConfigAsync_provider enumeration
    { gateway with provider := initialProvider acceptAnyCertificate } with
    ⟨_, kept⟩ | ⟨built, _, stored⟩
  · rw [construct, kept]
    exact ⟨rfl, Nat.zero_lt_one⟩
  · rw [construct, stored]
    exact ⟨rfl, Nat.lt_succ_self 1⟩

/-- Without a cancelled source the proxy has nothing to serve. -/
theorem serves_idle {host : Host} (unsignalled : Unsignalled host.gateway.provider) :
    performHost platform .serves host = host := by
  simp [performHost, HasChanged, unsignalled.cancelled]

theorem unsignalled_perform (host : Host) (step : HostStep platform)
    (unsignalled : Unsignalled host.gateway.provider) :
    Unsignalled (performHost platform step host).gateway.provider := by
  cases step with
  | runs step within =>
    rcases perform_provider step within host.gateway with ⟨_, kept⟩ | ⟨_, built, _, _, stored⟩
    · rw [performHost, kept]
      exact unsignalled
    · rw [performHost, stored]
      exact ⟨unsignalled.cancelled, Nat.lt_succ_self _⟩
  | loads => exact unsignalled
  | serves => exact unsignalled

/-- The proxy holds nothing yet, or the configuration most recently stored. -/
structure Current (host : Host) : Prop where
  unsignalled : Unsignalled host.gateway.provider
  current : ∀ config, host.held = some config → config = host.gateway.provider.config

/-- The proxy holds a configuration older than the one most recently stored. -/
structure Outdated (host : Host) : Prop where
  unsignalled : Unsignalled host.gateway.provider
  outdated : ∃ config, host.held = some config ∧
    config.source < host.gateway.provider.config.source

theorem current_perform (host : Host) (step : HostStep platform) (current : Current host)
    (quiet : Quiet host step) : Current (performHost platform step host) := by
  refine ⟨unsignalled_perform host step current.unsignalled, ?_⟩
  cases step with
  | runs step within =>
    intro config held
    rcases perform_provider step within host.gateway with
      ⟨_, kept⟩ | ⟨enumeration, built, rfl, unabandoned, _⟩
    · rw [performHost, kept]
      exact current.current config held
    · rcases quiet with unloaded | abandons
      · cases unloaded.symm.trans held
      · exact absurd abandons unabandoned
  | loads =>
    intro config held
    rcases Option.or_eq_some_iff.mp held with earlier | ⟨_, loaded⟩
    · exact current.current config earlier
    · exact (Option.some.inj loaded).symm
  | serves =>
    rw [serves_idle current.unsignalled]
    exact current.current

/-- A refresh that is not abandoned leaves a loaded proxy behind. -/
theorem outdated_of_unquiet (host : Host) (step : HostStep platform) (current : Current host)
    (unquiet : ¬ Quiet host step) : Outdated (performHost platform step host) := by
  refine ⟨unsignalled_perform host step current.unsignalled, ?_⟩
  cases step with
  | runs step within =>
    rcases perform_provider step within host.gateway with
      ⟨abandoned, _⟩ | ⟨enumeration, built, rfl, unabandoned, stored⟩
    · refine absurd ?_ unquiet
      cases step with
      | refreshesConfig enumeration => exact Or.inr (abandoned enumeration rfl)
      | _ => trivial
    · cases held : host.held with
      | none => exact absurd (Or.inl held) unquiet
      | some config =>
        refine ⟨config, held, ?_⟩
        rw [performHost, stored, current.current config held]
        exact current.unsignalled.latest
  | loads => exact absurd trivial unquiet
  | serves => exact absurd trivial unquiet

/-- A proxy that was left behind stays behind. -/
theorem outdated_perform (host : Host) (step : HostStep platform) (outdated : Outdated host) :
    Outdated (performHost platform step host) := by
  obtain ⟨config, held, older⟩ := outdated.outdated
  cases step with
  | runs step within =>
    refine ⟨unsignalled_perform host _ outdated.unsignalled, config, held, ?_⟩
    rcases perform_provider step within host.gateway with ⟨_, kept⟩ | ⟨_, built, _, _, stored⟩
    · rw [performHost, kept]
      exact older
    · rw [performHost, stored]
      exact older.trans outdated.unsignalled.latest
  | loads => exact ⟨outdated.unsignalled, config, by rw [performHost, held]; rfl, older⟩
  | serves =>
    rw [serves_idle outdated.unsignalled]
    exact outdated

theorem current_not_outdated (host : Host) (outdated : Outdated host) : ¬ Current host := by
  intro current
  obtain ⟨config, held, older⟩ := outdated.outdated
  rw [current.current config held] at older
  exact Nat.lt_irrefl _ older

/-- Without a cancelled source every token is served, so holding the current
configuration is all there is to it. -/
theorem holdsCurrent_iff_current {host : Host} (unsignalled : Unsignalled host.gateway.provider) :
    HoldsCurrent host ↔ Current host := by
  have unchanged : ∀ config, ¬ HasChanged host.gateway config := by
    simp [HasChanged, unsignalled.cancelled]
  exact ⟨fun holds => ⟨unsignalled, fun config held => holds config held (unchanged config)⟩,
    fun current config held _ => current.current config held⟩

/-- After a run the proxy holds the configuration most recently stored exactly
when every refresh of the configuration after its load was abandoned. -/
theorem holds_current_iff (platform : Platform) (enumeration : Enumeration)
    (acceptAnyCertificate : Bool) (gateway : Gateway) (steps : List (HostStep platform)) :
    HoldsCurrent (Runs.run (performHost platform) steps
        (constructed platform enumeration acceptAnyCertificate gateway)) ↔
      Runs.Along (performHost platform) Quiet steps
        (constructed platform enumeration acceptAnyCertificate gateway) := by
  have started := unsignalled_constructed platform enumeration acceptAnyCertificate gateway
  have ended : Unsignalled (Runs.run (performHost platform) steps
      (constructed platform enumeration acceptAnyCertificate gateway)).gateway.provider :=
    Runs.invariant_run (fun host step unsignalled (_ : True) =>
        unsignalled_perform host step unsignalled)
      (Runs.along_of_forall (fun _ _ => trivial) steps _) started
  rw [holdsCurrent_iff_current ended]
  exact Runs.invariant_run_iff current_perform outdated_of_unquiet outdated_perform
    current_not_outdated ⟨started, fun config held => by cases held⟩

/-- A proxy loads before the first endpoint is registered; the configuration is
then refreshed and every token served. -/
def reloadRun : List (HostStep plainPlatform) :=
  [.loads, .runs (.databaseChanges PolicyResolver.oneEndpoint) trivial,
    .runs (.refreshesConfig insertionOrder) trivial, .serves]

def reloadHost : Host :=
  Runs.run (performHost plainPlatform) reloadRun
    (constructed plainPlatform insertionOrder false (Gateway.started Database.vacant))

/-- The refresh publishes the endpoint's route and the proxy keeps none. -/
theorem reloaded_route_not_held :
    reloadHost.gateway.provider.config.routes.length = 1 ∧
      reloadHost.held.map (fun config => config.routes.length) = some 0 ∧
      ¬ HoldsCurrent reloadHost := by
  have stored : reloadHost.gateway.provider.config.routes.length = 1 := by
    decide
  have held : reloadHost.held.map (fun config => config.routes.length) = some 0 := by
    decide
  have unfired : reloadHost.gateway.provider.cancelled = [] := by
    decide
  refine ⟨stored, held, fun holds => ?_⟩
  obtain ⟨config, loaded, length⟩ := Option.map_eq_some_iff.mp held
  have same := holds config loaded (by simp [HasChanged, unfired])
  rw [same, stored] at length
  cases length

end ApiGateway.DatabaseProxyConfigProvider
