import ApiGateway.Admission
import ApiGateway.Registry

/-!
# The periodic refresh

A cycle refreshes the policies and then, for every enabled client, caches the
client's permissions and the client itself. Failures are caught at three levels:
for one client, for loading the clients and for the whole cycle. A cycle only
writes; entries of clients that are no longer enabled stay.

A cycle that completes is described by the list of its writes. What is in effect
afterwards for an enabled client is what the database holds; for any other
client it is what was in effect before.
-/

namespace ApiGateway.PolicyRefreshService

open Effects TwoTier

/-- Cache one client's permissions and the client; failures are logged only. -/
def refreshClient (client : Client) : Task Gateway Unit :=
  Effect.handle
    (do
      let endpointIds ← clientPermissionRepository.getAuthorizedEndpointIdsAsync client.id
      PolicyCache.setClientPermissionsAsync client.id endpointIds oneHour
      PolicyCache.setClientAsync client.clientId client oneHour)
    (fun _ => pure ())

/-- The enabled clients, or none when they cannot be loaded. -/
def loadEnabledClients : Task Gateway (Option (List Client)) :=
  Effect.handle
    (do
      let clients ← Gateway.query .enabledClients (fun gateway => gateway.database.enabledClients)
      pure (some clients))
    (fun _ => pure none)

/-- Refresh every enabled client. -/
def refreshClientPermissionsAsync : Task Gateway Unit := do
  match ← loadEnabledClients with
  | none => pure ()
  | some clients => clients.foldlM (fun _ client => refreshClient client) ()

/-- One cycle. -/
def refreshAllAsync (platform : Platform) : Task Gateway Unit :=
  Effect.handle
    (do
      PolicyResolver.refreshPoliciesAsync platform
      refreshClientPermissionsAsync)
    (fun _ => pure ())

/-- Refreshing the clients changes neither the snapshot nor the proxy configuration. -/
theorem preserves_published (published : Dictionary Text EndpointPolicy × Provider) :
    Preserves (fun gateway => (gateway.policySnapshot, gateway.provider) = published)
      refreshClientPermissionsAsync := by
  refine preserves_bind (preserves_handle (preserves_bind ?_ (fun _ => preserves_pure _))
    (fun _ => preserves_pure _)) (fun listed => ?_)
  · intro gateway holds
    rw [Gateway.query_state]
    exact holds
  · cases listed with
    | none => exact preserves_pure _
    | some clients =>
      refine preserves_foldlM clients () (fun _ client _ =>
        preserves_handle (preserves_bind ?_ (fun _ => ?_)) (fun _ => preserves_pure _))
      · intro gateway holds
        rw [clientPermissionRepository, Gateway.query_state]
        exact holds
      · exact preserves_bind (fun _ holds => holds) (fun _ _ holds => holds)

/-- A cycle publishes what its refresh of the policies publishes. -/
theorem refreshAllAsync_published (platform : Platform) (gateway : Gateway) :
    ((refreshAllAsync platform gateway).2.policySnapshot,
        (refreshAllAsync platform gateway).2.provider) =
      ((PolicyResolver.refreshPoliciesAsync platform gateway).2.policySnapshot,
        (PolicyResolver.refreshPoliciesAsync platform gateway).2.provider) := by
  have kept : Preserves (fun after : Gateway => (after.policySnapshot, after.provider) =
        ((PolicyResolver.refreshPoliciesAsync platform gateway).2.policySnapshot,
          (PolicyResolver.refreshPoliciesAsync platform gateway).2.provider))
      (Effect.handle refreshClientPermissionsAsync (fun _ => pure ())) :=
    preserves_handle (preserves_published _) (fun _ => preserves_pure _)
  obtain ⟨written, snapshot, _, _, ran⟩ := PolicyResolver.refreshPoliciesAsync_state platform gateway
  have returned : PolicyResolver.refreshPoliciesAsync platform gateway =
      (.ok (), (PolicyResolver.refreshPoliciesAsync platform gateway).2) :=
    Prod.ext (by rw [ran]) rfl
  rw [refreshAllAsync, Effect.handle_bind_ok returned]
  exact kept _ rfl

/-- What refreshing a client writes, in order. -/
def clientEntries (database : Database) (now : Nat) (client : Client) : List (Text × CacheValue) :=
  [(PolicyCache.permissionKey client.id,
      .permissions (database.authorizedEndpointIds now client.id)),
    (PolicyCache.clientKey client.clientId, .client client)]

/-- What refreshing every enabled client writes, in order. -/
def allClientEntries (database : Database) (now : Nat) : List (Text × CacheValue) :=
  database.enabledClients.flatMap (clientEntries database now)

/-- The process after pairs were cached. -/
def caching (entries : List (Text × CacheValue)) (gateway : Gateway) : Gateway :=
  { gateway with cache := gateway.cache.setAll oneHour oneHour entries }

theorem caching_now (entries : List (Text × CacheValue)) (gateway : Gateway) :
    (caching entries gateway).now = gateway.now :=
  Cache.setAll_now oneHour oneHour entries gateway.cache

variable {platform : Platform} {gateway : Gateway}

theorem refreshClient_run {client : Client}
    (answered : gateway.repositoryFault (.authorizedEndpointIds client.id) = none) :
    refreshClient client gateway =
      (.ok (), caching (clientEntries gateway.database gateway.now client) gateway) := by
  apply Effect.handle_ok
  rw [Effect.bind_ok (getAuthorizedEndpointIdsAsync_run answered)]
  rfl

/-- Refreshing clients one after another writes their pairs in order. -/
theorem refreshClients_run (gateway : Gateway) (clients : List Client)
    (answered : ∀ client ∈ clients,
      gateway.repositoryFault (.authorizedEndpointIds client.id) = none) :
    clients.foldlM (fun _ client => refreshClient client) () gateway =
      (.ok (), caching (clients.flatMap (clientEntries gateway.database gateway.now)) gateway) := by
  induction clients generalizing gateway with
  | nil => rfl
  | cons client rest ih =>
    rw [List.foldlM_cons, Effect.bind_ok (refreshClient_run (answered client List.mem_cons_self))]
    have later := ih (caching (clientEntries gateway.database gateway.now client) gateway)
      (fun other member => answered other (List.mem_cons_of_mem client member))
    rw [later, caching_now, List.flatMap_cons, caching, caching, caching, Cache.setAll_append]

/-- A cycle completes without error when the policies load and the clients and
their permissions are answered. -/
structure Completes (platform : Platform) (gateway : Gateway) : Prop where
  loads : PolicyResolver.Loads platform gateway
  clients : gateway.repositoryFault .enabledClients = none
  permissions : ∀ client ∈ gateway.database.enabledClients,
    gateway.repositoryFault (.authorizedEndpointIds client.id) = none

theorem completes_connected (platform : Platform) (connected : gateway.Connected) :
    Completes platform gateway where
  loads := PolicyResolver.loads_connected platform connected
  clients := connected _
  permissions := fun _ _ => connected _

/-- The process after a completed cycle. -/
def refreshed (platform : Platform) (gateway : Gateway) : Gateway :=
  caching (allClientEntries gateway.database gateway.now) (PolicyResolver.reloaded platform gateway)

theorem reloaded_now (platform : Platform) (gateway : Gateway) :
    (PolicyResolver.reloaded platform gateway).now = gateway.now :=
  Cache.setAll_now oneHour oneHour _ gateway.cache

/-- A cycle does not move the clock. -/
theorem refreshed_now (platform : Platform) (gateway : Gateway) :
    (refreshed platform gateway).now = gateway.now :=
  (caching_now _ _).trans (reloaded_now platform gateway)

theorem refreshAllAsync_run (completes : Completes platform gateway) :
    refreshAllAsync platform gateway = (.ok (), refreshed platform gateway) := by
  apply Effect.handle_ok
  rw [Effect.bind_ok (PolicyResolver.refreshPoliciesAsync_run completes.loads)]
  unfold refreshClientPermissionsAsync
  have loaded : loadEnabledClients (PolicyResolver.reloaded platform gateway) =
      (.ok (some gateway.database.enabledClients), PolicyResolver.reloaded platform gateway) := by
    apply Effect.handle_ok
    have answered : (PolicyResolver.reloaded platform gateway).repositoryFault .enabledClients =
      none := completes.clients
    rw [Effect.bind_ok (Gateway.query_run answered)]
    rfl
  rw [Effect.bind_ok loaded]
  have looped := refreshClients_run (PolicyResolver.reloaded platform gateway)
    gateway.database.enabledClients completes.permissions
  rw [reloaded_now] at looped
  exact looped

/-- The pairs a cycle writes, by the client behind each. -/
theorem mem_allClientEntries_iff {database : Database} {now : Nat} (key : Text) (value : CacheValue) :
    (key, value) ∈ allClientEntries database now ↔
      ∃ client ∈ database.enabledClients,
        (key = PolicyCache.permissionKey client.id ∧
          value = .permissions (database.authorizedEndpointIds now client.id)) ∨
        (key = PolicyCache.clientKey client.clientId ∧ value = .client client) := by
  simp [allClientEntries, clientEntries, List.mem_flatMap]

/-- A key outside the policy family that a cycle does not write reads as before. -/
theorem peek_refreshed_absent {α : Type} (view : CacheValue → Option α) {key : Text}
    (other : PolicyCache.NotPolicyKey key)
    (absent : ∀ value, (key, value) ∉ allClientEntries gateway.database gateway.now) :
    (refreshed platform gateway).cache.peek view key = gateway.cache.peek view key := by
  have unwritten : Dictionary.lookupIn key
      (allClientEntries gateway.database gateway.now).reverse = none := by
    rw [Dictionary.lookupIn_none_iff, List.map_reverse, List.mem_reverse]
    intro written
    obtain ⟨⟨_, value⟩, member, rfl⟩ := List.mem_map.mp written
    exact absent value member
  exact (Cache.peek_setAll_absent oneHour oneHour unwritten).trans
    (PolicyResolver.peek_cachePolicies_other view gateway.cache _ other)

/-- A key that a cycle writes with one value only reads as that value, or as
absent when no tier took it. -/
theorem peek_refreshed_written (platform : Platform) {α : Type} (view : CacheValue → Option α)
    {key : Text} {value : CacheValue} (member : (key, value) ∈ allClientEntries gateway.database gateway.now)
    (only : ∀ other, (key, other) ∈ allClientEntries gateway.database gateway.now → other = value) :
    (refreshed platform gateway).cache.peek view key =
      if gateway.cache.takes key then view value else none := by
  have last : Dictionary.lookupIn key (allClientEntries gateway.database gateway.now).reverse =
      some value := by
    apply Dictionary.lookupIn_of_only (List.mem_reverse.mpr member)
    exact fun other found => only other (List.mem_reverse.mp found)
  have taken : (PolicyResolver.reloaded platform gateway).cache.takes key = gateway.cache.takes key :=
    Cache.setAll_takes oneHour oneHour _ key gateway.cache
  rw [← taken]
  exact Cache.peek_setAll_written oneHour_pos oneHour_pos last

theorem not_policyKey_clientKey (clientId : Text) :
    PolicyCache.NotPolicyKey (PolicyCache.clientKey clientId) :=
  fun routeKey => PolicyCache.policyKey_ne_clientKey routeKey clientId

theorem not_policyKey_permissionKey (clientId : Guid) :
    PolicyCache.NotPolicyKey (PolicyCache.permissionKey clientId) :=
  fun routeKey => PolicyCache.policyKey_ne_permissionKey routeKey clientId

/-- An enabled client is in effect after a completed cycle. -/
theorem clientInEffect_enabled {clientId : Text} {client : Client}
    (enabled : gateway.database.clientByClientId clientId = some client) :
    Middleware.clientInEffect (refreshed platform gateway) clientId = some client := by
  have same : client.clientId = clientId :=
    ((gateway.database.clientByClientId_iff clientId client).mp enabled).2.1
  have listed : client ∈ gateway.database.enabledClients :=
    (gateway.database.mem_enabledClients_iff client).mpr (by rw [same, enabled])
  have written : (PolicyCache.clientKey clientId, CacheValue.client client) ∈
      allClientEntries gateway.database gateway.now :=
    (mem_allClientEntries_iff _ _).mpr ⟨client, listed, Or.inr ⟨by rw [same], rfl⟩⟩
  have only : ∀ other, (PolicyCache.clientKey clientId, other) ∈
      allClientEntries gateway.database gateway.now → other = .client client := by
    intro other member
    obtain ⟨another, anotherListed, ⟨key, _⟩ | ⟨key, rfl⟩⟩ := (mem_allClientEntries_iff _ _).mp member
    · exact absurd key (PolicyCache.clientKey_ne_permissionKey _ _)
    · have found := (gateway.database.mem_enabledClients_iff another).mp anotherListed
      rw [← PolicyCache.clientKey_injective key, enabled] at found
      rw [Option.some.inj found]
  have database : (refreshed platform gateway).database.clientByClientId clientId = some client :=
    enabled
  unfold Middleware.clientInEffect
  rw [peek_refreshed_written platform CacheValue.asClient written only, database]
  split
  · rfl
  · rfl

/-- For a client id without an enabled client a completed cycle leaves the cached
client in effect. -/
theorem clientInEffect_stale {clientId : Text}
    (absent : gateway.database.clientByClientId clientId = none) :
    Middleware.clientInEffect (refreshed platform gateway) clientId =
      gateway.cache.peek CacheValue.asClient (PolicyCache.clientKey clientId) := by
  have unwritten : ∀ value, (PolicyCache.clientKey clientId, value) ∉
      allClientEntries gateway.database gateway.now := by
    intro value member
    obtain ⟨client, listed, ⟨key, _⟩ | ⟨key, _⟩⟩ := (mem_allClientEntries_iff _ _).mp member
    · exact PolicyCache.clientKey_ne_permissionKey _ _ key
    · have found := (gateway.database.mem_enabledClients_iff client).mp listed
      rw [← PolicyCache.clientKey_injective key, absent] at found
      cases found
  have database : (refreshed platform gateway).database.clientByClientId clientId = none := absent
  rw [Middleware.clientInEffect, database, Option.or_none]
  exact peek_refreshed_absent CacheValue.asClient (not_policyKey_clientKey clientId) unwritten

/-- After a completed cycle the permissions in effect for an enabled client are
the database's. -/
theorem permissionsInEffect_enabled {client : Client}
    (listed : client ∈ gateway.database.enabledClients) :
    Middleware.permissionsInEffect (refreshed platform gateway) client.id =
      gateway.database.authorizedEndpointIds gateway.now client.id := by
  have only : ∀ other, (PolicyCache.permissionKey client.id, other) ∈
      allClientEntries gateway.database gateway.now →
        other = .permissions (gateway.database.authorizedEndpointIds gateway.now client.id) := by
    intro other member
    obtain ⟨another, _, ⟨key, rfl⟩ | ⟨key, _⟩⟩ := (mem_allClientEntries_iff _ _).mp member
    · rw [PolicyCache.permissionKey_injective key]
    · exact absurd key.symm (PolicyCache.clientKey_ne_permissionKey _ _)
  have written : (PolicyCache.permissionKey client.id,
      CacheValue.permissions (gateway.database.authorizedEndpointIds gateway.now client.id)) ∈
        allClientEntries gateway.database gateway.now :=
    (mem_allClientEntries_iff _ _).mpr ⟨client, listed, Or.inl ⟨rfl, rfl⟩⟩
  unfold Middleware.permissionsInEffect
  rw [peek_refreshed_written platform CacheValue.asPermissions written only, refreshed_now]
  split
  · rfl
  · rfl

/-- For an id without an enabled client a completed cycle leaves permissions alone. -/
theorem permissionsInEffect_stale {clientId : Guid}
    (absent : ∀ client ∈ gateway.database.enabledClients, client.id ≠ clientId) :
    Middleware.permissionsInEffect (refreshed platform gateway) clientId =
      Middleware.permissionsInEffect gateway clientId := by
  have unwritten : ∀ value, (PolicyCache.permissionKey clientId, value) ∉
      allClientEntries gateway.database gateway.now := by
    intro value member
    obtain ⟨client, listed, ⟨key, _⟩ | ⟨key, _⟩⟩ := (mem_allClientEntries_iff _ _).mp member
    · exact absent client listed (PolicyCache.permissionKey_injective key).symm
    · exact PolicyCache.clientKey_ne_permissionKey _ _ key.symm
  rw [Middleware.permissionsInEffect, Middleware.permissionsInEffect, refreshed_now,
    peek_refreshed_absent CacheValue.asPermissions (not_policyKey_permissionKey clientId) unwritten]
  rfl

end ApiGateway.PolicyRefreshService
