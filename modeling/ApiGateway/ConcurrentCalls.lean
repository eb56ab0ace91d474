import ApiGateway.BackgroundRefresh
import ApiGateway.Decryption
import ApiGateway.Library.Interleaving

/-!
# Concurrent calls

The calls of one process share the cache, the snapshot and the database, and
give way to each other at their awaits. Here each of them is a program whose
actions are the single accesses: reading one tier, writing one tier, reading or
replacing the snapshot, and one query of the database.

Run without interruption every program is the operation that models the same
call; the theorems at the end of each section say so.
-/

namespace ApiGateway.Concurrent

open Effects TwoTier Interleaving

/-- One access to what the calls share. -/
inductive Action where
  | readMemory (key : Text)
  | readStore (key : Text)
  | cacheMemory (key : Text) (value : CacheValue)
  | cacheStore (key : Text) (value : CacheValue) (timeToLive : Nat)
  | readSnapshot (routeKey : Text)
  | publish (snapshot : Dictionary Text EndpointPolicy)
  | query (call : RepositoryCall)

/-- What a repository call returns. -/
abbrev Rows : RepositoryCall → Type
  | .services => List Service
  | .products => List Product
  | .endpoints _ => List Endpoint
  | .client _ => Option Client
  | .enabledClients => List Client
  | .authorizedEndpointIds _ => List Guid
  | .userProfile _ _ => Option UserProfile

/-- What the database holds for a repository call at a time. -/
def rowsOf (database : Database) (now : Nat) : (call : RepositoryCall) → Rows call
  | .services => database.enabledServices
  | .products => database.enabledProducts
  | .endpoints serviceId => database.enabledEndpoints serviceId
  | .client clientId => database.clientByClientId clientId
  | .enabledClients => database.enabledClients
  | .authorizedEndpointIds clientId => database.authorizedEndpointIds now clientId
  | .userProfile userId serviceId => database.profileByUserId userId serviceId

/-- What an access returns. -/
abbrev Answer : Action → Type
  | .readMemory _ => Option CacheValue
  | .readStore _ => Option CacheValue
  | .cacheMemory _ _ => Unit
  | .cacheStore _ _ _ => Unit
  | .readSnapshot _ => Option EndpointPolicy
  | .publish _ => Unit
  | .query call => Except Fault (Rows call)

/-- Answer a repository call from the database, or fail. -/
def answerQuery (call : RepositoryCall) (gateway : Gateway) : Except Fault (Rows call) :=
  match gateway.repositoryFault call with
  | some fault => .error fault
  | none => .ok (rowsOf gateway.database gateway.now call)

/-- Perform one access. -/
def execute : (action : Action) → Gateway → Answer action × Gateway
  | .readMemory key, gateway => (gateway.cache.inMemory key, gateway)
  | .readStore key, gateway => (gateway.cache.fromStore some key, gateway)
  | .cacheMemory key value, gateway =>
      ((), { gateway with cache := gateway.cache.insertMemory oneHour key value })
  | .cacheStore key value timeToLive, gateway =>
      ((), { gateway with cache := gateway.cache.insertStore timeToLive key value })
  | .readSnapshot routeKey, gateway => (gateway.policySnapshot.tryGetValue routeKey, gateway)
  | .publish snapshot, gateway => ((), { gateway with policySnapshot := snapshot })
  | .query call, gateway => (answerQuery call gateway, gateway)

/-- What changes around the calls of a process. -/
inductive Change where
  | database (content : Database)
  | repositories (fault : RepositoryCall → Option Fault)
  | tiers (change : Cache.Decay Text)

/-- Make one change. -/
def alter : Change → Gateway → Gateway
  | .database content, gateway => { gateway with database := content }
  | .repositories fault, gateway => { gateway with repositoryFault := fault }
  | .tiers change, gateway => { gateway with cache := Cache.decay change gateway.cache }

/-- A call as a program. -/
abbrev Routine (α : Type) := Program Action Answer Fault α

/-- A call run without interruption. -/
abbrev uninterrupted {α : Type} (routine : Routine α) : Task Gateway α := routine.alone execute

section Cache

/-- One access. -/
def access (action : Action) : Routine (Answer action) := Program.act action

/-- Memory, then the store; a value found in the store is copied to memory. -/
def read {α : Type} (view : CacheValue → Option α) (key : Text) : Routine (Option α) := do
  let remembered : Option CacheValue ← access (.readMemory key)
  match remembered.bind view with
  | some found => pure (some found)
  | none =>
    let stored : Option CacheValue ← access (.readStore key)
    match stored with
    | none => pure none
    | some value =>
      match view value with
      | none => pure none
      | some found =>
        access (.cacheMemory key value)
        pure (some found)

/-- Memory, then the store. -/
def write (key : Text) (value : CacheValue) (timeToLive : Nat) : Routine Unit := do
  access (.cacheMemory key value)
  access (.cacheStore key value timeToLive)

/-- One repository call. -/
def query (call : RepositoryCall) : Routine (Rows call) := do
  let outcome : Except Fault (Rows call) ← access (.query call)
  Program.done outcome

theorem read_alone {α : Type} (view : CacheValue → Option α) (key : Text) :
    uninterrupted (read view key) = PolicyCache.read view key := by
  funext gateway
  simp only [PolicyCache.read, Cache.get, uninterrupted, read, access, Program.act,
    Program.ask_andThen, Program.done_ok_andThen, Program.alone, execute]
  cases (gateway.cache.inMemory key).bind view with
  | some found => rfl
  | none =>
    simp only [Program.alone, execute, Cache.fromStore]
    cases gateway.cache.storeAnswers key with
    | false => rfl
    | true =>
      cases gateway.cache.inStore key with
      | none => rfl
      | some value => cases viewed : view value <;> simp [viewed, Program.alone, execute]

theorem write_alone (key : Text) (value : CacheValue) (timeToLive : Nat) :
    uninterrupted (write key value timeToLive) = PolicyCache.write key value timeToLive :=
  rfl

theorem query_alone (call : RepositoryCall) :
    uninterrupted (query call) =
      Gateway.query call (fun gateway => rowsOf gateway.database gateway.now call) := by
  funext gateway
  unfold Gateway.query
  cases reached : gateway.repositoryFault call with
  | some fault => simp [query, access, Program.act, Program.alone, execute, answerQuery, reached]
  | none => simp [query, access, Program.act, Program.alone, execute, answerQuery, reached]

end Cache

section Policies

/-- Register one method entry in the new snapshot and in the cache. -/
def registerMethod (platform : Platform) (policy : EndpointPolicy) (fullPath : Text)
    (newSnapshot : Dictionary Text EndpointPolicy) (method : Text) :
    Routine (Dictionary Text EndpointPolicy) := do
  write (PolicyCache.policyKey (PolicyResolver.routeKeyOf platform method fullPath)) (.policy policy)
    oneHour
  pure (newSnapshot.set (PolicyResolver.routeKeyOf platform method fullPath) policy)

/-- Register every method entry of an endpoint. -/
def registerEndpoint (platform : Platform) (product : Product) (service : Service)
    (newSnapshot : Dictionary Text EndpointPolicy) (endpoint : Endpoint) :
    Routine (Dictionary Text EndpointPolicy) :=
  (PolicyResolver.methodsOf endpoint).foldlM
    (registerMethod platform (PolicyResolver.buildEndpointPolicy platform product service endpoint)
      (PolicyResolver.fullPathOf service endpoint)) newSnapshot

/-- Register the endpoints of a service whose product is enabled. -/
def registerService (platform : Platform) (products : List Product)
    (newSnapshot : Dictionary Text EndpointPolicy) (service : Service) :
    Routine (Dictionary Text EndpointPolicy) :=
  match PolicyResolver.productOf products service with
  | none => pure newSnapshot
  | some product => do
    let endpoints : List Endpoint ← query (.endpoints service.id)
    endpoints.foldlM (registerEndpoint platform product service) newSnapshot

/-- The guarded body of a refresh. -/
def loadPolicies (platform : Platform) : Routine Unit := do
  let services : List Service ← query .services
  let products : List Product ← query .products
  let newSnapshot ← services.foldlM (registerService platform products) Dictionary.empty
  access (.publish newSnapshot)

/-- A refresh logs and swallows every exception. -/
def refreshPoliciesAsync (platform : Platform) : Routine Unit :=
  (loadPolicies platform).handle (fun _ => pure ())

/-- Cache, then snapshot; a policy found in the snapshot is cached. -/
def resolvePolicyAsync (platform : Platform) (path method : Text) :
    Routine (Option EndpointPolicy) := do
  match ← read CacheValue.asPolicy
    (PolicyCache.policyKey (PolicyResolver.requestKey platform path method)) with
  | some cached => pure (some cached)
  | none =>
    let published : Option EndpointPolicy ←
      access (.readSnapshot (PolicyResolver.requestKey platform path method))
    match published with
    | none => pure none
    | some snapshotPolicy =>
      write (PolicyCache.policyKey (PolicyResolver.requestKey platform path method))
        (.policy snapshotPolicy) oneHour
      pure (some snapshotPolicy)

theorem registerEndpoint_alone (platform : Platform) (product : Product) (service : Service)
    (newSnapshot : Dictionary Text EndpointPolicy) (endpoint : Endpoint) :
    uninterrupted (registerEndpoint platform product service newSnapshot endpoint) =
      PolicyResolver.registerEndpoint platform product service newSnapshot endpoint :=
  Program.alone_foldlM execute _ _ _

theorem registerService_alone (platform : Platform) (products : List Product)
    (newSnapshot : Dictionary Text EndpointPolicy) (service : Service) :
    uninterrupted (registerService platform products newSnapshot service) =
      PolicyResolver.registerService platform products newSnapshot service := by
  unfold registerService PolicyResolver.registerService
  cases PolicyResolver.productOf products service with
  | none => rfl
  | some product =>
    dsimp only
    rw [uninterrupted, Program.alone_bind]
    refine congrArg₂ _ (query_alone (.endpoints service.id)) (funext fun endpoints => ?_)
    rw [Program.alone_foldlM]
    exact congrArg (fun round => endpoints.foldlM round newSnapshot)
      (funext fun accumulated => funext fun endpoint =>
        registerEndpoint_alone platform product service accumulated endpoint)

theorem loadPolicies_alone (platform : Platform) :
    uninterrupted (loadPolicies platform) = PolicyResolver.loadPolicies platform := by
  unfold loadPolicies PolicyResolver.loadPolicies
  rw [uninterrupted, Program.alone_bind]
  refine congrArg₂ _ (query_alone .services) (funext fun services => ?_)
  rw [Program.alone_bind]
  refine congrArg₂ _ (query_alone .products) (funext fun products => ?_)
  rw [Program.alone_bind, Program.alone_foldlM]
  have rounds : (fun accumulated service =>
      uninterrupted (registerService platform products accumulated service)) =
        PolicyResolver.registerService platform products :=
    funext fun accumulated => funext fun service =>
      registerService_alone platform products accumulated service
  exact congrArg (fun round => services.foldlM round Dictionary.empty >>= PolicyResolver.swapSnapshot)
    rounds

/-- Uninterrupted, a refresh is the refresh of the resolver. -/
theorem refreshPoliciesAsync_alone (platform : Platform) :
    uninterrupted (refreshPoliciesAsync platform) = PolicyResolver.refreshPoliciesAsync platform := by
  rw [refreshPoliciesAsync, uninterrupted, Program.alone_handle]
  exact congrArg (fun body => Effect.handle body (fun _ => pure ())) (loadPolicies_alone platform)

/-- Uninterrupted, a lookup is the lookup of the resolver. -/
theorem resolvePolicyAsync_alone (platform : Platform) (path method : Text) :
    uninterrupted (resolvePolicyAsync platform path method) =
      PolicyResolver.resolvePolicyAsync platform path method := by
  unfold resolvePolicyAsync PolicyResolver.resolvePolicyAsync
  rw [uninterrupted, Program.alone_bind]
  refine congrArg₂ _ (read_alone _ _) (funext fun cached => ?_)
  cases cached with
  | some policy => rfl
  | none =>
    funext gateway
    cases found : gateway.policySnapshot.tryGetValue (PolicyResolver.requestKey platform path method) <;>
      simp [access, Program.act, Program.alone, execute, found, Effect.bind_run, write,
        PolicyCache.setPolicyAsync, PolicyCache.write, Cache.set]

end Policies

section Agenda

/-- What the tables of a database answer to the queries of a refresh. -/
def registryAnswers (database : Database) : (action : Action) → Option (Answer action)
  | .query .services => some (.ok database.enabledServices)
  | .query .products => some (.ok database.enabledProducts)
  | .query (.endpoints serviceId) => some (.ok (database.enabledEndpoints serviceId))
  | _ => none

/-- The writes that cache policies in order. -/
def writesOf (entries : List (Text × EndpointPolicy)) : List Action :=
  entries.flatMap (fun entry =>
    [.cacheMemory (PolicyCache.policyKey entry.1) (.policy entry.2),
      .cacheStore (PolicyCache.policyKey entry.1) (.policy entry.2) oneHour])

/-- What a refresh does that reads one database. -/
def agendaOf (platform : Platform) (database : Database) : List Action :=
  writesOf (PolicyResolver.registrations platform database) ++
    [.publish (PolicyResolver.snapshotOf platform database)]

variable {platform : Platform} {database : Database}

theorem setAll_flatMap {ι : Type} (entries : ι → List (Text × EndpointPolicy)) (items : List ι)
    (initial : Dictionary Text EndpointPolicy) :
    items.foldl (fun filled item => filled.setAll (entries item)) initial =
      initial.setAll (items.flatMap entries) := by
  induction items generalizing initial with
  | nil => rfl
  | cons item rest ih => rw [List.foldl_cons, ih, List.flatMap_cons, Dictionary.setAll_append]

/-- A loop of rounds that cache their entries caches the entries of all items. -/
theorem given_rounds {ι : Type}
    {round : Dictionary Text EndpointPolicy → ι → Routine (Dictionary Text EndpointPolicy)}
    {entries : ι → List (Text × EndpointPolicy)}
    (rounds : ∀ newSnapshot item, (round newSnapshot item).given (registryAnswers database) =
      Program.inOrder (writesOf (entries item)) (pure (newSnapshot.setAll (entries item))))
    (items : List ι) (newSnapshot : Dictionary Text EndpointPolicy) :
    Program.given (registryAnswers database) (items.foldlM round newSnapshot) =
      Program.inOrder (writesOf (items.flatMap entries))
        (pure (newSnapshot.setAll (items.flatMap entries))) := by
  rw [Program.given_foldlM (registryAnswers database) rounds, setAll_flatMap, writesOf,
    List.flatMap_assoc]
  rfl

theorem registerEndpoint_given (product : Product) (service : Service)
    (newSnapshot : Dictionary Text EndpointPolicy) (endpoint : Endpoint) :
    (registerEndpoint platform product service newSnapshot endpoint).given (registryAnswers database) =
      Program.inOrder (writesOf (PolicyResolver.endpointEntries platform product service endpoint))
        (pure (newSnapshot.setAll
          (PolicyResolver.endpointEntries platform product service endpoint))) := by
  have rounds : ∀ newSnapshot method,
      (registerMethod platform (PolicyResolver.buildEndpointPolicy platform product service endpoint)
          (PolicyResolver.fullPathOf service endpoint) newSnapshot method).given
            (registryAnswers database) =
        Program.inOrder (writesOf [(PolicyResolver.routeKeyOf platform method
            (PolicyResolver.fullPathOf service endpoint),
              PolicyResolver.buildEndpointPolicy platform product service endpoint)])
          (pure (newSnapshot.setAll [(PolicyResolver.routeKeyOf platform method
            (PolicyResolver.fullPathOf service endpoint),
              PolicyResolver.buildEndpointPolicy platform product service endpoint)])) :=
    fun _ _ => rfl
  have looped := given_rounds rounds (PolicyResolver.methodsOf endpoint) newSnapshot
  rwa [← List.map_eq_flatMap] at looped

theorem registerService_given (newSnapshot : Dictionary Text EndpointPolicy) (service : Service) :
    (registerService platform database.enabledProducts newSnapshot service).given
        (registryAnswers database) =
      Program.inOrder (writesOf (PolicyResolver.serviceEntries platform database service))
        (pure (newSnapshot.setAll (PolicyResolver.serviceEntries platform database service))) := by
  unfold registerService PolicyResolver.serviceEntries
  cases PolicyResolver.productOf database.enabledProducts service with
  | none => rfl
  | some product =>
    exact given_rounds (registerEndpoint_given product service) (database.enabledEndpoints service.id)
      newSnapshot

/-- A refresh that reads one database caches what it registers and publishes the
snapshot. -/
theorem refreshPoliciesAsync_given (platform : Platform) (database : Database) :
    (refreshPoliciesAsync platform).given (registryAnswers database) =
      Program.inOrder (agendaOf platform database) (pure ()) := by
  have loaded : (loadPolicies platform).given (registryAnswers database) =
      Program.inOrder (agendaOf platform database) (pure ()) := by
    have answered : (loadPolicies platform).given (registryAnswers database) =
        (database.enabledServices.foldlM (registerService platform database.enabledProducts)
          Dictionary.empty >>= fun newSnapshot => access (.publish newSnapshot)).given
            (registryAnswers database) := rfl
    rw [answered, Program.given_bind, given_rounds registerService_given, Program.inOrder_andThen,
      agendaOf, Program.inOrder_append]
    rfl
  rw [refreshPoliciesAsync, Program.given_handle, loaded, Program.inOrder_handle]
  rfl

end Agenda

section Cycle

/-- Cache one client's permissions and the client; failures are logged only. -/
def refreshClient (client : Client) : Routine Unit :=
  Program.handle
    (do
      let endpointIds : List Guid ← query (.authorizedEndpointIds client.id)
      write (PolicyCache.permissionKey client.id) (.permissions endpointIds) oneHour
      write (PolicyCache.clientKey client.clientId) (.client client) oneHour)
    (fun _ => pure ())

/-- The enabled clients, or none when they cannot be loaded. -/
def loadEnabledClients : Routine (Option (List Client)) :=
  Program.handle
    (do
      let clients : List Client ← query .enabledClients
      pure (some clients))
    (fun _ => pure none)

/-- Refresh every enabled client. -/
def refreshClientPermissionsAsync : Routine Unit := do
  match ← loadEnabledClients with
  | none => pure ()
  | some clients => clients.foldlM (fun _ client => refreshClient client) ()

/-- One cycle. -/
def refreshAllAsync (platform : Platform) : Routine Unit :=
  Program.handle
    (do
      refreshPoliciesAsync platform
      refreshClientPermissionsAsync)
    (fun _ => pure ())

theorem refreshClient_alone (client : Client) :
    uninterrupted (refreshClient client) = PolicyRefreshService.refreshClient client := by
  unfold refreshClient PolicyRefreshService.refreshClient
  rw [uninterrupted, Program.alone_handle, Program.alone_bind]
  apply congrArg (fun body => Effect.handle body (fun _ => pure ()))
  exact congrArg₂ _ (query_alone (.authorizedEndpointIds client.id)) rfl

theorem refreshClientPermissionsAsync_alone :
    uninterrupted refreshClientPermissionsAsync =
      PolicyRefreshService.refreshClientPermissionsAsync := by
  have loaded : uninterrupted loadEnabledClients = PolicyRefreshService.loadEnabledClients := by
    unfold loadEnabledClients PolicyRefreshService.loadEnabledClients
    rw [uninterrupted, Program.alone_handle, Program.alone_bind]
    exact congrArg (fun body => Effect.handle (body >>= fun clients => pure (some clients))
      (fun _ => pure none)) (query_alone .enabledClients)
  unfold refreshClientPermissionsAsync PolicyRefreshService.refreshClientPermissionsAsync
  rw [uninterrupted, Program.alone_bind]
  refine congrArg₂ _ loaded (funext fun listed => ?_)
  cases listed with
  | none => rfl
  | some clients =>
    dsimp only
    rw [Program.alone_foldlM]
    exact congrArg (fun round => clients.foldlM (fun _ => round) ()) (funext refreshClient_alone)

/-- Uninterrupted, a cycle is the cycle of the refresh service. -/
theorem refreshAllAsync_alone (platform : Platform) :
    uninterrupted (refreshAllAsync platform) = PolicyRefreshService.refreshAllAsync platform := by
  unfold refreshAllAsync PolicyRefreshService.refreshAllAsync
  rw [uninterrupted, Program.alone_handle, Program.alone_bind]
  apply congrArg (fun body => Effect.handle body (fun _ => pure ()))
  exact congrArg₂ _ (refreshPoliciesAsync_alone platform)
    (funext fun _ => refreshClientPermissionsAsync_alone)

end Cycle

section Request

/-- The client from the cache, else from the repository, which is then cached. -/
def lookupClient (clientId : Text) : Routine (Option Client) :=
  Program.cacheAside (read CacheValue.asClient (PolicyCache.clientKey clientId))
    (query (.client clientId))
    (fun client => write (PolicyCache.clientKey clientId) (.client client) oneHour)

/-- The permission set from the cache, else from the repository, which is then
cached. -/
def lookupPermissions (clientId : Guid) : Routine (List Guid) := do
  match ← read CacheValue.asPermissions (PolicyCache.permissionKey clientId) with
  | some permissions => pure permissions
  | none =>
    let endpointIds : List Guid ← query (.authorizedEndpointIds clientId)
    write (PolicyCache.permissionKey clientId) (.permissions endpointIds) oneHour
    pure endpointIds

/-- The checks on a client id that is present. -/
def verifyClient (policy : EndpointPolicy) (clientId : Text) : Routine Decision := do
  match ← lookupClient clientId with
  | none => pure (.answered 403 "Client not found".toList)
  | some client =>
    let permissions ← lookupPermissions client.id
    if policy.endpoint.id ∈ permissions then pure (.admitted policy (some clientId) (some client))
    else pure (.answered 403 "Access denied to this endpoint".toList)

/-- The checks under a resolved policy. -/
def verifyCaller (caseMap : CaseMap) (context : HttpContext) (policy : EndpointPolicy) :
    Routine Decision :=
  if policy.requiresJwt && Middleware.unauthenticated context.user then
    pure (.answered 401 "Unauthorized".toList)
  else
    let clientId := context.user.clientId caseMap
    if Text.isNullOrEmpty clientId && policy.requiresJwt then
      pure (.answered 401 "Invalid token".toList)
    else
      match clientId.filter (fun value => !value.isEmpty) with
      | none => pure (.admitted policy clientId none)
      | some present => verifyClient policy present

/-- Everything before the next stage, on a path outside the health checks. -/
def authorize (platform : Platform) (context : HttpContext) : Routine Decision := do
  match ← resolvePolicyAsync platform context.path context.method with
  | none => pure (.answered 404 "Endpoint not found or disabled".toList)
  | some policy => verifyCaller platform.caseMap context policy

/-- The caller's profile for a service from the cache, else from the repository,
which is then cached. -/
def lookupProfile (clientId : Text) (serviceId : Guid) : Routine (Option UserProfile) :=
  Program.cacheAside
    (read CacheValue.asUserProfile (PolicyCache.userProfileKey clientId (some serviceId)))
    (query (.userProfile clientId (some serviceId)))
    (fun profile =>
      write (PolicyCache.userProfileKey clientId (some serviceId)) (.userProfile profile) oneHour)

theorem lookupClient_alone (platform : Platform) (clientId : Text) :
    uninterrupted (lookupClient clientId) =
      Middleware.lookupClient (gatewayServices platform) clientId := by
  rw [lookupClient, uninterrupted, Program.alone_cacheAside]
  have fetched := read_alone CacheValue.asClient (PolicyCache.clientKey clientId)
  have loaded := query_alone (.client clientId)
  unfold uninterrupted at fetched loaded
  rw [fetched, loaded]
  rfl

theorem lookupPermissions_alone (platform : Platform) (clientId : Guid) :
    uninterrupted (lookupPermissions clientId) =
      Middleware.lookupPermissions (gatewayServices platform) clientId := by
  unfold lookupPermissions Middleware.lookupPermissions
  rw [uninterrupted, Program.alone_bind]
  refine congrArg₂ _ (read_alone _ _) (funext fun cached => ?_)
  cases cached with
  | some permissions => rfl
  | none =>
    dsimp only
    rw [Program.alone_bind]
    exact congrArg₂ _ (query_alone (.authorizedEndpointIds clientId)) rfl

theorem verifyCaller_alone (platform : Platform) (context : HttpContext) (policy : EndpointPolicy) :
    uninterrupted (verifyCaller platform.caseMap context policy) =
      Middleware.verifyCaller platform.caseMap (gatewayServices platform) context policy := by
  have verified : ∀ clientId, uninterrupted (verifyClient policy clientId) =
      Middleware.verifyClient (gatewayServices platform) policy clientId := by
    intro clientId
    unfold verifyClient Middleware.verifyClient
    rw [uninterrupted, Program.alone_bind]
    refine congrArg₂ _ (lookupClient_alone platform clientId) (funext fun found => ?_)
    cases found with
    | none => rfl
    | some client =>
      dsimp only
      rw [Program.alone_bind]
      refine congrArg₂ _ (lookupPermissions_alone platform client.id) (funext fun permissions => ?_)
      split
      · rfl
      · rfl
  unfold verifyCaller Middleware.verifyCaller
  split
  · rfl
  · dsimp only
    split
    · rfl
    · cases (context.user.clientId platform.caseMap).filter (fun value => !value.isEmpty) with
      | none => rfl
      | some present => exact verified present

/-- Uninterrupted, the checks are those of the middleware. -/
theorem authorize_alone (platform : Platform) (context : HttpContext) :
    uninterrupted (authorize platform context) =
      Middleware.authorize platform.caseMap (gatewayServices platform) context := by
  unfold authorize Middleware.authorize
  rw [uninterrupted, Program.alone_bind]
  refine congrArg₂ _ (resolvePolicyAsync_alone platform context.path context.method)
    (funext fun resolved => ?_)
  cases resolved with
  | none => rfl
  | some policy => exact verifyCaller_alone platform context policy

theorem lookupProfile_alone (platform : Platform) (cryptoService : ICryptoService) (clientId : Text)
    (serviceId : Guid) :
    uninterrupted (lookupProfile clientId serviceId) = DecryptTransform.lookupProfile
      (DecryptTransform.gatewayServices platform cryptoService) clientId serviceId := by
  rw [lookupProfile, uninterrupted, Program.alone_cacheAside]
  have fetched := read_alone CacheValue.asUserProfile
    (PolicyCache.userProfileKey clientId (some serviceId))
  have loaded := query_alone (.userProfile clientId (some serviceId))
  unfold uninterrupted at fetched loaded
  rw [fetched, loaded]
  rfl

end Request

end ApiGateway.Concurrent
