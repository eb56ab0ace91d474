import ApiGateway.BackgroundRefresh
import ApiGateway.ConfigProvider
import ApiGateway.Decryption
import ApiGateway.Encryption
import ApiGateway.Library.Runs

/-!
# Runs of a gateway process

A process is started over a database and then performs operations in any order,
while the database's content, the repositories' reachability, the clock and the
cache tiers change between them. Every operation that fills the cache writes
only what the database offers under a key, or copies what the process already
holds. So a property of keys and values that everything offered has is kept by
every operation; only a change of the database can break it.
-/

namespace ApiGateway

open Effects TwoTier PolicyCache

/-- What a database offers for caching: each family's key with a value that the
tables yield for it. -/
inductive Offered (platform : Platform) (database : Database) : Text → CacheValue → Prop where
  | policy (routeKey : Text) (policy : EndpointPolicy)
      (registered : (routeKey, policy) ∈ PolicyResolver.registrations platform database) :
      Offered platform database (policyKey routeKey) (.policy policy)
  | client (clientId : Text) (client : Client)
      (enabled : database.clientByClientId clientId = some client) :
      Offered platform database (clientKey clientId) (.client client)
  | permissions (now : Nat) (clientId : Guid) :
      Offered platform database (permissionKey clientId)
        (.permissions (database.authorizedEndpointIds now clientId))
  | userProfile (userId : Text) (serviceId : Option Guid) (profile : UserProfile)
      (enabled : database.profileByUserId userId serviceId = some profile) :
      Offered platform database (userProfileKey userId serviceId) (.userProfile profile)

/-- An offer at a time: a permission set is the one the tables yield then. -/
structure OfferedAt (platform : Platform) (database : Database) (now : Nat) (key : Text)
    (value : CacheValue) : Prop where
  offered : Offered platform database key value
  current : ∀ clientId endpointIds, key = permissionKey clientId → value = .permissions endpointIds →
    endpointIds = database.authorizedEndpointIds now clientId

/-- The process reads a database under a proxy configuration, and all it holds
satisfies a property. -/
structure Keeps (property : Text → CacheValue → Prop) (database : Database) (provider : Provider)
    (gateway : Gateway) : Prop where
  database : gateway.database = database
  provider : gateway.provider = provider
  cache : gateway.cache.Sound property
  snapshot : ∀ routeKey policy, gateway.policySnapshot.tryGetValue routeKey = some policy →
    property (policyKey routeKey) (.policy policy)

/-- The same at a time. -/
structure KeepsAt (now : Nat) (property : Text → CacheValue → Prop) (database : Database)
    (provider : Provider) (gateway : Gateway) : Prop
    extends Keeps property database provider gateway where
  time : gateway.now = now

section Operations

variable {platform : Platform} {now : Nat} {property : Text → CacheValue → Prop} {database : Database}
  {provider : Provider}

theorem offeredAt_policy {entry : Text × EndpointPolicy}
    (registered : entry ∈ PolicyResolver.registrations platform database) :
    OfferedAt platform database now (policyKey entry.1) (.policy entry.2) :=
  ⟨.policy entry.1 entry.2 registered, fun _ _ _ same => by cases same⟩

theorem offeredAt_client {clientId : Text} {client : Client}
    (enabled : database.clientByClientId clientId = some client) :
    OfferedAt platform database now (clientKey clientId) (.client client) :=
  ⟨.client clientId client enabled, fun _ _ _ same => by cases same⟩

theorem offeredAt_userProfile {userId : Text} {serviceId : Option Guid} {profile : UserProfile}
    (enabled : database.profileByUserId userId serviceId = some profile) :
    OfferedAt platform database now (userProfileKey userId serviceId) (.userProfile profile) :=
  ⟨.userProfile userId serviceId profile enabled, fun _ _ _ same => by cases same⟩

theorem offeredAt_permissions (clientId : Guid) :
    OfferedAt platform database now (permissionKey clientId)
      (.permissions (database.authorizedEndpointIds now clientId)) := by
  refine ⟨.permissions now clientId, fun other endpointIds keyed same => ?_⟩
  cases same
  rw [permissionKey_injective keyed]

/-- The cache may change to any that satisfies the property at the same time. -/
theorem KeepsAt.caching {gateway : Gateway} (keeps : KeepsAt now property database provider gateway)
    {cache : Cache Text CacheValue} (sound : cache.Sound property)
    (still : cache.now = gateway.cache.now) :
    KeepsAt now property database provider { gateway with cache := cache } :=
  ⟨⟨keeps.database, keeps.provider, sound, keeps.snapshot⟩, still.trans keeps.time⟩

theorem preserves_read {α : Type} (view : CacheValue → Option α) (key : Text) :
    Preserves (KeepsAt now property database provider) (read view key) :=
  fun _ keeps => keeps.caching (Cache.sound_get view oneHour key keeps.cache)
    (Cache.get_now view oneHour key _)

theorem preserves_write {key : Text} {value : CacheValue} (justified : property key value)
    (timeToLive : Nat) : Preserves (KeepsAt now property database provider) (write key value timeToLive) :=
  fun _ keeps => keeps.caching (Cache.sound_set oneHour timeToLive keeps.cache justified)
    (Cache.set_now oneHour timeToLive key value _)

/-- A query keeps everything and yields what the tables hold at the time. -/
theorem ensures_query {α : Type} (call : RepositoryCall) (rows : Database → Nat → α) :
    Ensures (KeepsAt now property database provider)
      (Gateway.query call (fun gateway => rows gateway.database gateway.now)) (fun ending after =>
        KeepsAt now property database provider after ∧
          ∀ value, ending = .ok value → value = rows database now) := by
  intro gateway keeps
  rw [Gateway.query_state]
  refine ⟨keeps, fun value ended => ?_⟩
  unfold Gateway.query at ended
  split at ended
  · cases ended
  · rw [← keeps.database, ← keeps.time]
    exact (Except.ok.inj ended).symm

/-- Resolving a policy caches at most what the snapshot holds. -/
theorem preserves_resolvePolicyAsync (path method : Text) :
    Preserves (KeepsAt now property database provider)
      (PolicyResolver.resolvePolicyAsync platform path method) := by
  intro gateway keeps
  rcases PolicyResolver.resolvePolicyAsync_state platform path method gateway with
    read | ⟨policy, found, written⟩
  · rw [read]
    exact preserves_read _ _ gateway keeps
  · rw [written]
    exact preserves_write (keeps.snapshot _ policy found) oneHour _ (preserves_read _ _ gateway keeps)

/-- The services behind a response on its way back satisfy an invariant. -/
def BehindResponse (invariant : Gateway → Prop) (context : ResponseTransformContext Gateway) : Prop :=
  invariant context.connection.services

theorem preserves_responseCall {α : Type} {invariant : Gateway → Prop} {task : Task Gateway α}
    (kept : Preserves invariant task) :
    Preserves (BehindResponse invariant) (EncryptResponseTransform.call task) :=
  fun context holds => kept context.connection.services holds

/-- The encryption of a response keeps the process's properties. -/
theorem preserves_encrypt (cryptoService : ICryptoService) :
    Preserves (BehindResponse (KeepsAt now property database provider))
      (EncryptResponseTransform.applyAsync platform
        (EncryptResponseTransform.gatewayServices platform cryptoService)) := by
  apply preserves_bind (preserves_gets _)
  intro context
  apply preserves_bind (preserves_responseCall (preserves_resolvePolicyAsync _ _))
  intro resolved
  cases resolved with
  | none => exact preserves_pure _
  | some policy =>
    dsimp only
    split
    · exact preserves_pure _
    · split
      · exact preserves_pure _
      · split
        · exact preserves_pure _
        · refine preserves_handle ?_ (fun _ => preserves_update fun _ keeps => keeps)
          apply preserves_bind (preserves_responseCall (preserves_read _ _))
          intro found
          cases found with
          | none => exact preserves_pure _
          | some profile =>
            refine preserves_bind (preserves_update fun _ keeps => keeps) (fun _ => ?_)
            refine preserves_bind (preserves_ofExcept _) (fun _ => ?_)
            split
            · exact preserves_pure _
            · exact preserves_bind (preserves_ofExcept _)
                (fun _ => preserves_update fun _ keeps => keeps)

variable (offers : ∀ key value, OfferedAt platform database now key value → property key value)
include offers

/-- A policy refresh caches registered policies and may publish a snapshot of them. -/
theorem preserves_refreshPoliciesAsync :
    Preserves (KeepsAt now property database provider) (PolicyResolver.refreshPoliciesAsync platform) := by
  intro gateway keeps
  obtain ⟨written, snapshot, part, origin, ran⟩ :=
    PolicyResolver.refreshPoliciesAsync_state platform gateway
  have registered : ∀ entry ∈ PolicyResolver.registrations platform gateway.database,
      property (policyKey entry.1) (.policy entry.2) := by
    rw [keeps.database]
    exact fun entry member => offers _ _ (offeredAt_policy member)
  rw [ran]
  refine ⟨⟨keeps.database, keeps.provider, ?_, ?_⟩, ?_⟩
  · apply Cache.sound_setAll oneHour oneHour keeps.cache
    intro pair member
    obtain ⟨entry, listed, rfl⟩ := List.mem_map.mp member
    exact registered entry (part.subset listed)
  · intro routeKey policy found
    rcases origin with rfl | rfl
    · exact keeps.snapshot routeKey policy found
    · exact registered _ (PolicyResolver.snapshot_registered found)
  · exact (Cache.setAll_now oneHour oneHour _ gateway.cache).trans keeps.time

/-- Refreshing the configuration replaces the provider's part of the process only. -/
theorem keeps_refreshConfigAsync (enumeration : DatabaseProxyConfigProvider.Enumeration)
    {gateway : Gateway} (keeps : KeepsAt now property database provider gateway) :
    ∃ refreshed, KeepsAt now property database refreshed
      (DatabaseProxyConfigProvider.refreshConfigAsync platform enumeration gateway).2 := by
  have reloaded := preserves_refreshPoliciesAsync offers gateway keeps
  rw [DatabaseProxyConfigProvider.refreshConfigAsync_state]
  split
  · exact ⟨_, ⟨reloaded.database, rfl, reloaded.cache, reloaded.snapshot⟩, reloaded.time⟩
  · exact ⟨_, reloaded⟩

/-- Looking a client up caches at most the enabled client with the id. -/
theorem preserves_lookupClient (clientId : Text) :
    Preserves (KeepsAt now property database provider)
      (Middleware.lookupClient (gatewayServices platform) clientId) := by
  have loaded : Ensures (KeepsAt now property database provider)
      ((gatewayServices platform).clientRepo.getByClientIdAsync clientId)
      (fun ending after => KeepsAt now property database provider after ∧
        ∀ client, ending = .ok (some client) →
          database.clientByClientId clientId = some client) := by
    intro gateway keeps
    obtain ⟨kept, answered⟩ := ensures_query (.client clientId)
      (fun database _ => database.clientByClientId clientId) gateway keeps
    refine ⟨kept, fun client ended => ?_⟩
    exact (answered _ ended).symm
  exact preserves_cacheAside (preserves_read _ _) loaded
    (fun client enabled => preserves_write (offers _ _ (offeredAt_client enabled)) oneHour)

/-- Looking a profile up caches at most the database's. -/
theorem preserves_lookupProfile (cryptoService : ICryptoService) (clientId : Text) (serviceId : Guid) :
    Preserves (KeepsAt now property database provider) (DecryptTransform.lookupProfile
      (DecryptTransform.gatewayServices platform cryptoService) clientId serviceId) := by
  have loaded : Ensures (KeepsAt now property database provider)
      (userProfileRepository.getByUserIdAsync clientId (some serviceId))
      (fun ending after => KeepsAt now property database provider after ∧
        ∀ profile, ending = .ok (some profile) →
          database.profileByUserId clientId (some serviceId) = some profile) := by
    intro gateway keeps
    obtain ⟨kept, answered⟩ := ensures_query (.userProfile clientId (some serviceId))
      (fun database _ => database.profileByUserId clientId (some serviceId)) gateway keeps
    refine ⟨kept, fun profile ended => ?_⟩
    exact (answered _ ended).symm
  exact preserves_cacheAside (preserves_read _ _) loaded (fun profile enabled =>
    preserves_write (offers _ _ (offeredAt_userProfile enabled)) oneHour)

/-- Looking permissions up caches at most the database's. -/
theorem preserves_lookupPermissions (clientId : Guid) :
    Preserves (KeepsAt now property database provider)
      (Middleware.lookupPermissions (gatewayServices platform) clientId) := by
  apply preserves_bind (preserves_read _ _)
  intro cached
  cases cached with
  | some permissions => exact preserves_pure _
  | none =>
    refine preserves_bind_of (ensures_query (.authorizedEndpointIds clientId)
      (fun database now => database.authorizedEndpointIds now clientId)) ?_
    rintro endpointIds gateway keeps rfl
    exact preserves_bind (preserves_write (offers _ _ (offeredAt_permissions clientId)) oneHour)
      (fun _ => preserves_pure _) gateway keeps

theorem preserves_verifyClient (policy : EndpointPolicy) (clientId : Text) :
    Preserves (KeepsAt now property database provider)
      (Middleware.verifyClient (gatewayServices platform) policy clientId) := by
  apply preserves_bind (preserves_lookupClient offers clientId)
  intro found
  cases found with
  | none => exact preserves_pure _
  | some client =>
    apply preserves_bind (preserves_lookupPermissions offers client.id)
    intro permissions
    split
    · exact preserves_bind (preserves_update fun _ keeps => keeps) (fun _ => preserves_pure _)
    · exact preserves_pure _

theorem preserves_verifyCaller (context : HttpContext) (policy : EndpointPolicy) :
    Preserves (KeepsAt now property database provider)
      (Middleware.verifyCaller platform.caseMap (gatewayServices platform) context policy) := by
  unfold Middleware.verifyCaller
  dsimp only
  split
  · exact preserves_pure _
  · split
    · exact preserves_pure _
    · split
      · exact preserves_pure _
      · exact preserves_verifyClient offers policy _

/-- A request's authorization keeps the process's properties. -/
theorem preserves_authorize (context : HttpContext) :
    Preserves (KeepsAt now property database provider)
      (Middleware.authorize platform.caseMap (gatewayServices platform) context) := by
  apply preserves_bind (preserves_resolvePolicyAsync _ _)
  intro resolved
  cases resolved with
  | none => exact preserves_pure _
  | some policy => exact preserves_verifyCaller offers context policy

/-- Refreshing a client caches the client and its permissions as the database has them. -/
theorem preserves_refreshClient {client : Client}
    (enabled : database.clientByClientId client.clientId = some client) :
    Preserves (KeepsAt now property database provider) (PolicyRefreshService.refreshClient client) := by
  refine preserves_handle ?_ (fun _ => preserves_pure _)
  refine preserves_bind_of (ensures_query (.authorizedEndpointIds client.id)
    (fun database now => database.authorizedEndpointIds now client.id)) ?_
  rintro endpointIds gateway keeps rfl
  exact preserves_bind (preserves_write (offers _ _ (offeredAt_permissions client.id)) oneHour)
    (fun _ => preserves_write (offers _ _ (offeredAt_client enabled)) oneHour)
    gateway keeps

omit offers in
/-- The clients a cycle loads are the database's enabled ones. -/
theorem ensures_loadEnabledClients :
    Ensures (KeepsAt now property database provider) PolicyRefreshService.loadEnabledClients
      (fun ending after => KeepsAt now property database provider after ∧ ∀ listed, ending = .ok listed →
        ∀ clients, listed = some clients → clients = database.enabledClients) := by
  intro gateway keeps
  cases reached : gateway.repositoryFault .enabledClients with
  | none =>
    have ran : PolicyRefreshService.loadEnabledClients gateway =
        (.ok (some gateway.database.enabledClients), gateway) :=
      Effect.handle_ok (by rw [Effect.bind_ok (Gateway.query_run reached)]; rfl)
    rw [ran]
    refine ⟨keeps, fun listed ended clients same => ?_⟩
    rw [← keeps.database]
    exact (Option.some.inj ((Except.ok.inj ended).trans same)).symm
  | some fault =>
    have ran : PolicyRefreshService.loadEnabledClients gateway = (.ok none, gateway) :=
      Effect.handle_error (by rw [Effect.bind_error (Gateway.query_fault reached)])
    rw [ran]
    refine ⟨keeps, fun listed ended clients same => ?_⟩
    cases (Except.ok.inj ended).trans same

theorem preserves_refreshClientPermissionsAsync :
    Preserves (KeepsAt now property database provider)
      PolicyRefreshService.refreshClientPermissionsAsync := by
  apply preserves_bind_of ensures_loadEnabledClients
  intro listed gateway keeps known
  cases listed with
  | none => exact keeps
  | some clients =>
    obtain rfl := known clients rfl
    exact preserves_foldlM _ () (fun _ client member =>
      preserves_refreshClient offers ((database.mem_enabledClients_iff client).mp member)) gateway keeps

/-- A cycle of the periodic refresh keeps the process's properties. -/
theorem preserves_refreshAllAsync :
    Preserves (KeepsAt now property database provider) (PolicyRefreshService.refreshAllAsync platform) := by
  refine preserves_handle ?_ (fun _ => preserves_pure _)
  exact preserves_bind (preserves_refreshPoliciesAsync offers)
    (fun _ => preserves_refreshClientPermissionsAsync offers)

/-- The services behind a request satisfy an invariant. -/
def Behind (invariant : Gateway → Prop) (connection : Connection Gateway) : Prop :=
  invariant connection.services

theorem preserves_decryptBody (cryptoService : ICryptoService) (policy : EndpointPolicy)
    (clientId : Text) :
    Preserves (Behind (KeepsAt now property database provider)) (DecryptTransform.decryptBody platform
      (DecryptTransform.gatewayServices platform cryptoService) policy clientId) := by
  refine preserves_bind ?_ (fun body => ?_)
  · apply preserves_bind (preserves_gets _)
    intro body
    refine preserves_bind (preserves_update fun _ keeps => keeps) (fun _ => ?_)
    cases body <;> exact preserves_pure _
  · split
    · exact preserves_pure _
    · apply preserves_bind (preserves_ofExcept _)
      intro payload
      cases payload with
      | none => exact preserves_pure _
      | some encryptedData =>
        apply preserves_bind (Connection.preserves_call
          (preserves_lookupProfile offers cryptoService clientId policy.service.id))
        intro found
        cases found with
        | none => exact preserves_update fun _ keeps => keeps
        | some profile =>
          exact preserves_bind (preserves_ofExcept _) (fun _ => preserves_update fun _ keeps => keeps)

/-- The decryption of a request keeps the process's properties. -/
theorem preserves_decrypt (cryptoService : ICryptoService) :
    Preserves (Behind (KeepsAt now property database provider)) (DecryptTransform.applyAsync platform
      (DecryptTransform.gatewayServices platform cryptoService)) := by
  apply preserves_bind (preserves_gets _)
  intro context
  apply preserves_bind (Connection.preserves_call (preserves_resolvePolicyAsync _ _))
  intro resolved
  cases resolved with
  | none => exact preserves_pure _
  | some policy =>
    dsimp only
    split
    · exact preserves_pure _
    · split
      · exact preserves_pure _
      · exact preserves_handle (preserves_decryptBody offers cryptoService policy _)
          (fun _ => preserves_update fun _ keeps => keeps)

end Operations

/-- What can happen to a process. An operation runs to its end over one content
of the database. An operation that a change of the database overtakes ends late:
it caches or publishes what it had read before. -/
inductive Step (platform : Platform) where
  | databaseChanges (database : Database)
  | repositoriesChange (fault : RepositoryCall → Option Fault)
  | surroundingsChange (change : Cache.Decay Text)
  | restarts (enumeration : DatabaseProxyConfigProvider.Enumeration) (acceptAnyCertificate : Bool)
  | authorizes (context : HttpContext)
  | decrypts (cryptoService : ICryptoService) (context : HttpContext) (response : HttpResponse)
  | encrypts (cryptoService : ICryptoService) (context : HttpContext) (response : HttpResponse)
      (proxyResponse : Option ProxyResponse)
  | refreshesPolicies
  | refreshesAll
  | refreshesConfig (enumeration : DatabaseProxyConfigProvider.Enumeration)
  | cachesLate (key : Text) (value : CacheValue) (source : Database)
      (offered : Offered platform source key value)
  | publishesLate (snapshot : Dictionary Text EndpointPolicy)
      (offered : ∀ routeKey policy, snapshot.tryGetValue routeKey = some policy →
        ∃ source, Offered platform source (policyKey routeKey) (.policy policy))

/-- A new process over the same database and store. -/
def restarted (gateway : Gateway) : Gateway :=
  { gateway with
    cache := Cache.decay
      ⟨0, fun _ => false, fun _ => true, gateway.cache.memoryAdmits, gateway.cache.storeAnswers⟩
      gateway.cache
    policySnapshot := Dictionary.empty }

/-- Perform one step. The stages after the middleware are steps of their own. -/
def perform (platform : Platform) : Step platform → Gateway → Gateway
  | .databaseChanges database, gateway => { gateway with database := database }
  | .repositoriesChange fault, gateway => { gateway with repositoryFault := fault }
  | .surroundingsChange change, gateway => { gateway with cache := Cache.decay change gateway.cache }
  | .restarts enumeration acceptAnyCertificate, gateway =>
      DatabaseProxyConfigProvider.construct platform enumeration acceptAnyCertificate
        (restarted gateway)
  | .authorizes context, gateway =>
      (Middleware.invokeAsync platform.caseMap (gatewayServices platform) (pure 200) context gateway).2
  | .decrypts cryptoService context response, gateway =>
      (DecryptTransform.applyAsync platform
        (DecryptTransform.gatewayServices platform cryptoService)
        ⟨gateway, context, response⟩).2.services
  | .encrypts cryptoService context response proxyResponse, gateway =>
      (EncryptResponseTransform.applyAsync platform
        (EncryptResponseTransform.gatewayServices platform cryptoService)
        ⟨⟨gateway, context, response⟩, proxyResponse, false⟩).2.connection.services
  | .refreshesPolicies, gateway => (PolicyResolver.refreshPoliciesAsync platform gateway).2
  | .refreshesAll, gateway => (PolicyRefreshService.refreshAllAsync platform gateway).2
  | .refreshesConfig enumeration, gateway =>
      (DatabaseProxyConfigProvider.refreshConfigAsync platform enumeration gateway).2
  | .cachesLate key value _ _, gateway => afterWrite key value oneHour gateway
  | .publishesLate snapshot _, gateway => { gateway with policySnapshot := snapshot }

/-- The database a step leaves. -/
def contentAfter {platform : Platform} (gateway : Gateway) : Step platform → Database
  | .databaseChanges database => database
  | _ => gateway.database

/-- The time a step leaves. -/
def timeAfter {platform : Platform} (gateway : Gateway) : Step platform → Nat
  | .surroundingsChange change => gateway.now + change.elapsed
  | _ => gateway.now

/-- Some cache tier holds the value, or the snapshot does. -/
inductive Retains (gateway : Gateway) : Text → CacheValue → Prop where
  | cached (key : Text) (value : CacheValue) (held : gateway.cache.Held key value) :
      Retains gateway key value
  | published (routeKey : Text) (policy : EndpointPolicy)
      (found : gateway.policySnapshot.tryGetValue routeKey = some policy) :
      Retains gateway (policyKey routeKey) (.policy policy)

/-- A step leaves the process with nothing that lacks the property under the
database it leaves: a changed database vouches for all that is retained, and what
is written late still has the property. -/
def Tolerates {platform : Platform} (property : Database → Text → CacheValue → Prop)
    (gateway : Gateway) : Step platform → Prop
  | .databaseChanges database => ∀ key value, Retains gateway key value → property database key value
  | .cachesLate key value _ _ => property gateway.database key value
  | .publishesLate snapshot _ => ∀ routeKey policy, snapshot.tryGetValue routeKey = some policy →
      property gateway.database (policyKey routeKey) (.policy policy)
  | _ => True

/-- The same for a property that may change with time: what outlives a change of
the surroundings has the property at the time the change leaves. -/
def ToleratesAt {platform : Platform} (property : Database → Nat → Text → CacheValue → Prop)
    (gateway : Gateway) : Step platform → Prop
  | .databaseChanges database => ∀ key value, Retains gateway key value →
      property database gateway.now key value
  | .surroundingsChange change => ∀ key value,
      Retains { gateway with cache := Cache.decay change gateway.cache } key value →
        property gateway.database (gateway.now + change.elapsed) key value
  | .cachesLate key value _ _ => property gateway.database gateway.now key value
  | .publishesLate snapshot _ => ∀ routeKey policy, snapshot.tryGetValue routeKey = some policy →
      property gateway.database gateway.now (policyKey routeKey) (.policy policy)
  | _ => True

/-- A step that refreshes the proxy configuration. -/
def Reconfigures {platform : Platform} : Step platform → Prop
  | .refreshesConfig _ => True
  | .restarts _ _ => True
  | _ => False

/-- All that the process holds has the property under its own database. -/
def Sustains (property : Database → Text → CacheValue → Prop) (gateway : Gateway) : Prop :=
  Keeps (property gateway.database) gateway.database gateway.provider gateway

/-- All that the process holds has the property under its own database and time. -/
def SustainsAt (property : Database → Nat → Text → CacheValue → Prop) (gateway : Gateway) : Prop :=
  Keeps (property gateway.database gateway.now) gateway.database gateway.provider gateway

/-- All that a process retains is vouched for. -/
theorem Keeps.retains {property : Text → CacheValue → Prop} {database : Database}
    {provider : Provider} {gateway : Gateway} (keeps : Keeps property database provider gateway)
    {key : Text} {value : CacheValue} (retains : Retains gateway key value) : property key value := by
  cases retains with
  | cached _ _ held => exact keeps.cache key value held
  | published routeKey policy found => exact keeps.snapshot routeKey policy found

section TimedSteps

variable {platform : Platform} {property : Database → Nat → Text → CacheValue → Prop}

theorem sustainsAt_started (property : Database → Nat → Text → CacheValue → Prop)
    (database : Database) : SustainsAt property (Gateway.started database) where
  database := rfl
  provider := rfl
  cache := Cache.vacant_sound ⟨fun _ => rfl, fun _ => rfl⟩ _
  snapshot := fun routeKey policy found => by
    rw [show (Gateway.started database).policySnapshot = Dictionary.empty from rfl] at found
    cases found

/-- The middleware leaves the services as its checks do. -/
theorem invokeAsync_keeps {invariant : Gateway → Prop} (context : HttpContext)
    (kept : Preserves invariant
      (Middleware.authorize platform.caseMap (gatewayServices platform) context)) (status : Nat)
    {gateway : Gateway} (holds : invariant gateway) :
    invariant (Middleware.invokeAsync platform.caseMap (gatewayServices platform) (pure status) context
      gateway).2 := by
  unfold Middleware.invokeAsync
  split
  · exact holds
  · have reached := kept gateway holds
    split
    all_goals next ran => rw [ran] at reached; exact reached

variable (offers : ∀ database now key value,
  OfferedAt platform database now key value → property database now key value)
include offers

/-- A tolerated step sustains a property that every offer has at its time, and
keeps the proxy configuration unless it refreshes it. -/
theorem keepsAt_perform {gateway : Gateway} {step : Step platform}
    (sustains : SustainsAt property gateway) (tolerates : ToleratesAt property gateway step) :
    ∃ provider, (¬ Reconfigures step → provider = gateway.provider) ∧
      KeepsAt (timeAfter gateway step) (property (contentAfter gateway step) (timeAfter gateway step))
        (contentAfter gateway step) provider (perform platform step gateway) := by
  have offered := offers gateway.database gateway.now
  have now : KeepsAt gateway.now (property gateway.database gateway.now) gateway.database
      gateway.provider gateway := ⟨sustains, rfl⟩
  cases step with
  | databaseChanges database =>
    exact ⟨_, fun _ => rfl, ⟨rfl, rfl, fun key value held => tolerates key value (.cached key value held),
      fun routeKey policy found => tolerates _ _ (.published routeKey policy found)⟩, rfl⟩
  | repositoriesChange fault =>
    exact ⟨_, fun _ => rfl, ⟨rfl, rfl, sustains.cache, sustains.snapshot⟩, rfl⟩
  | surroundingsChange change =>
    exact ⟨_, fun _ => rfl, ⟨rfl, rfl, fun key value held => tolerates key value (.cached key value held),
      fun routeKey policy found => tolerates _ _ (.published routeKey policy found)⟩, rfl⟩
  | restarts enumeration acceptAnyCertificate =>
    have emptied : KeepsAt gateway.now (property gateway.database gateway.now) gateway.database
        (DatabaseProxyConfigProvider.initialProvider acceptAnyCertificate)
        { restarted gateway with
          provider := DatabaseProxyConfigProvider.initialProvider acceptAnyCertificate } :=
      ⟨⟨rfl, rfl, Cache.sound_decay _ sustains.cache, fun _ _ found => by cases found⟩, rfl⟩
    obtain ⟨provider, keeps⟩ := keeps_refreshConfigAsync offered enumeration emptied
    exact ⟨provider, fun unchanged => absurd trivial unchanged, keeps⟩
  | authorizes context =>
    exact ⟨_, fun _ => rfl, invokeAsync_keeps context (preserves_authorize offered context) 200 now⟩
  | decrypts cryptoService context response =>
    exact ⟨_, fun _ => rfl, preserves_decrypt offered cryptoService _ now⟩
  | encrypts cryptoService context response proxyResponse =>
    exact ⟨_, fun _ => rfl, preserves_encrypt cryptoService _ now⟩
  | refreshesPolicies =>
    exact ⟨_, fun _ => rfl, preserves_refreshPoliciesAsync offered gateway now⟩
  | refreshesAll => exact ⟨_, fun _ => rfl, preserves_refreshAllAsync offered gateway now⟩
  | refreshesConfig enumeration =>
    obtain ⟨provider, keeps⟩ := keeps_refreshConfigAsync offered enumeration now
    exact ⟨provider, fun unchanged => absurd trivial unchanged, keeps⟩
  | cachesLate key value source written =>
    exact ⟨_, fun _ => rfl, preserves_write tolerates oneHour gateway now⟩
  | publishesLate snapshot written =>
    exact ⟨_, fun _ => rfl, ⟨rfl, rfl, sustains.cache, tolerates⟩, rfl⟩

theorem sustainsAt_perform {gateway : Gateway} {step : Step platform}
    (sustains : SustainsAt property gateway) (tolerates : ToleratesAt property gateway step) :
    SustainsAt property (perform platform step gateway) := by
  obtain ⟨provider, _, keeps⟩ := keepsAt_perform offers sustains tolerates
  unfold SustainsAt
  rw [keeps.database, keeps.provider, keeps.time]
  exact keeps.toKeeps

end TimedSteps

section Steps

variable {platform : Platform} {property : Database → Text → CacheValue → Prop}

theorem sustains_started (property : Database → Text → CacheValue → Prop) (database : Database) :
    Sustains property (Gateway.started database) :=
  sustainsAt_started (fun database _ => property database) database

/-- A step that tolerates a property tolerates it at every time. -/
theorem Tolerates.toleratesAt {gateway : Gateway} {step : Step platform}
    (sustains : Sustains property gateway) (tolerates : Tolerates property gateway step) :
    ToleratesAt (fun database _ => property database) gateway step := by
  cases step with
  | surroundingsChange change =>
    intro key value retained
    cases retained with
    | cached _ _ held => exact sustains.cache key value (Cache.held_decay held)
    | published routeKey policy found => exact sustains.snapshot routeKey policy found
  | _ => exact tolerates

variable (offers : ∀ database key value,
  Offered platform database key value → property database key value)
include offers

/-- A tolerated step sustains a property that every offer has, and keeps the
proxy configuration unless it refreshes it. -/
theorem keeps_perform {gateway : Gateway} {step : Step platform}
    (sustains : Sustains property gateway) (tolerates : Tolerates property gateway step) :
    ∃ provider, (¬ Reconfigures step → provider = gateway.provider) ∧
      Keeps (property (contentAfter gateway step)) (contentAfter gateway step) provider
        (perform platform step gateway) := by
  obtain ⟨provider, unchanged, keeps⟩ :=
    keepsAt_perform (fun database _ key value offered => offers database key value offered.offered)
      sustains (tolerates.toleratesAt sustains)
  exact ⟨provider, unchanged, keeps.toKeeps⟩

theorem sustains_perform {gateway : Gateway} {step : Step platform}
    (sustains : Sustains property gateway) (tolerates : Tolerates property gateway step) :
    Sustains property (perform platform step gateway) := by
  obtain ⟨provider, _, keeps⟩ := keeps_perform offers sustains tolerates
  unfold Sustains
  rw [keeps.database, keeps.provider]
  exact keeps

/-- A run of tolerated steps sustains a property that every offer has. -/
theorem sustains_run {steps : List (Step platform)} {gateway : Gateway}
    (sustains : Sustains property gateway)
    (along : Runs.Along (perform platform) (Tolerates property) steps gateway) :
    Sustains property (Runs.run (perform platform) steps gateway) :=
  Runs.invariant_run (fun _ _ holds tolerates => sustains_perform offers holds tolerates) along
    sustains

omit offers in
/-- A property that the offers of every database have is sustained by every run. -/
theorem sustains_always {property : Text → CacheValue → Prop}
    (offers : ∀ database key value, Offered platform database key value → property key value)
    (steps : List (Step platform)) {gateway : Gateway}
    (sustains : Sustains (fun _ => property) gateway) :
    Sustains (fun _ => property) (Runs.run (perform platform) steps gateway) := by
  refine Runs.invariant_run (fun gateway step holds _ => sustains_perform offers holds ?_)
    (Runs.along_of_forall (fun _ _ => trivial) steps gateway) sustains
  cases step with
  | databaseChanges database => exact fun key value retained => holds.retains retained
  | cachesLate key value source offered => exact offers source key value offered
  | publishesLate snapshot offered =>
    intro routeKey policy found
    obtain ⟨source, offer⟩ := offered routeKey policy found
    exact offers source _ _ offer
  | _ => trivial

omit offers in
/-- Only a change of the database changes it, and only a refresh of the proxy
configuration changes that. -/
theorem perform_frame (step : Step platform) (gateway : Gateway) :
    (perform platform step gateway).database = contentAfter gateway step ∧
      (¬ Reconfigures step → (perform platform step gateway).provider = gateway.provider) := by
  have sustains : Sustains (fun _ _ _ => True) gateway :=
    ⟨rfl, rfl, fun _ _ _ => trivial, fun _ _ _ => trivial⟩
  have tolerates : Tolerates (fun _ _ _ => True) gateway step := by
    cases step <;> simp [Tolerates]
  obtain ⟨provider, unchanged, keeps⟩ :=
    keeps_perform (fun _ _ _ _ => trivial) sustains tolerates
  exact ⟨keeps.database, fun quiet => keeps.provider.trans (unchanged quiet)⟩

end Steps

end ApiGateway
