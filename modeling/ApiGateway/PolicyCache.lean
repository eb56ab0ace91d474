import ApiGateway.Database
import ApiGateway.ProxyConfig
import ApiGateway.Library.TwoTier

/-!
# The gateway's state, its repositories and its policy cache

One process holds the two-tier cache, the policy snapshot and the proxy
configuration; the database is shared. Repository calls read the database or
fail. The policy cache keeps four families of values in one key space, each
family under its own prefix and read through its own view.

The store holds serialized values and reading deserializes them. Serialization
of the cached types is taken to be invertible, so the store is modelled as
holding the values; reading one as a value of another family is the failure of
deserialization.
-/

namespace ApiGateway

open Effects TwoTier

/-- A value of one of the four cached families. -/
inductive CacheValue where
  | policy (value : EndpointPolicy)
  | permissions (endpointIds : List Guid)
  | client (value : Client)
  | userProfile (value : UserProfile)
deriving DecidableEq

namespace CacheValue

def asPolicy : CacheValue → Option EndpointPolicy
  | .policy value => some value
  | _ => none

def asPermissions : CacheValue → Option (List Guid)
  | .permissions endpointIds => some endpointIds
  | _ => none

def asClient : CacheValue → Option Client
  | .client value => some value
  | _ => none

def asUserProfile : CacheValue → Option UserProfile
  | .userProfile value => some value
  | _ => none

@[simp] theorem asPolicy_eq_some_iff (value : CacheValue) (policy : EndpointPolicy) :
    value.asPolicy = some policy ↔ value = .policy policy := by
  cases value <;> simp [asPolicy]

@[simp] theorem asClient_eq_some_iff (value : CacheValue) (client : Client) :
    value.asClient = some client ↔ value = .client client := by
  cases value <;> simp [asClient]

@[simp] theorem asPermissions_eq_some_iff (value : CacheValue) (endpointIds : List Guid) :
    value.asPermissions = some endpointIds ↔ value = .permissions endpointIds := by
  cases value <;> simp [asPermissions]

@[simp] theorem asUserProfile_eq_some_iff (value : CacheValue) (profile : UserProfile) :
    value.asUserProfile = some profile ↔ value = .userProfile profile := by
  cases value <;> simp [asUserProfile]

end CacheValue

/-- The repository calls the gateway makes. -/
inductive RepositoryCall where
  | services
  | products
  | endpoints (serviceId : Guid)
  | client (clientId : Text)
  | enabledClients
  | authorizedEndpointIds (clientId : Guid)
  | userProfile (userId : Text) (serviceId : Option Guid)
deriving DecidableEq

/-- A published proxy configuration. Its change token belongs to a cancellation
source of its own, named by a number. -/
structure DatabaseProxyConfig where
  routes : List RouteConfig
  clusters : List ClusterConfig
  source : Nat

/-- The configuration provider: the current configuration, how many cancellation
sources have been created, and which of them have been cancelled. -/
structure Provider where
  config : DatabaseProxyConfig
  sources : Nat
  cancelled : List Nat
  acceptAnyCertificate : Bool

/-- One gateway process and the database behind it. -/
structure Gateway where
  database : Database
  repositoryFault : RepositoryCall → Option Fault
  cache : Cache Text CacheValue
  policySnapshot : Dictionary Text EndpointPolicy
  provider : Provider

namespace Gateway

/-- A process at its start over an empty store: nothing is cached, no policy is loaded
and the configuration is empty. A store that is not empty outlives the process. -/
def started (database : Database) : Gateway where
  database := database
  repositoryFault := fun _ => none
  cache :=
    { now := 0
      memory := fun _ => none
      store := fun _ => none
      memoryAdmits := fun _ => true
      storeAnswers := fun _ => true }
  policySnapshot := Dictionary.empty
  provider := ⟨⟨[], [], 0⟩, 1, [], false⟩

/-- The server's current time is the gateway's. -/
def now (gateway : Gateway) : Nat := gateway.cache.now

/-- Every repository call reaches the server. -/
def Connected (gateway : Gateway) : Prop := ∀ call, gateway.repositoryFault call = none

/-- Answer a repository call from the database, or fail. -/
def query {α : Type} (call : RepositoryCall) (rows : Gateway → α) : Task Gateway α := fun gateway =>
  match gateway.repositoryFault call with
  | some fault => (.error fault, gateway)
  | none => (.ok (rows gateway), gateway)

theorem started_connected (database : Database) : (started database).Connected := fun _ => rfl

theorem query_run {α : Type} {call : RepositoryCall} {rows : Gateway → α} {gateway : Gateway}
    (reached : gateway.repositoryFault call = none) :
    query call rows gateway = (.ok (rows gateway), gateway) := by
  simp [query, reached]

theorem query_fault {α : Type} {call : RepositoryCall} {rows : Gateway → α} {gateway : Gateway}
    {fault : Fault} (failed : gateway.repositoryFault call = some fault) :
    query call rows gateway = (.error fault, gateway) := by
  simp [query, failed]

theorem fault_disconnects {call : RepositoryCall} {gateway : Gateway} {fault : Fault}
    (failed : gateway.repositoryFault call = some fault) : ¬ gateway.Connected := by
  intro connected
  rw [connected call] at failed
  cases failed

/-- A query never changes the gateway. -/
theorem query_state {α : Type} (call : RepositoryCall) (rows : Gateway → α) (gateway : Gateway) :
    (query call rows gateway).2 = gateway := by
  unfold query
  split <;> rfl

end Gateway

namespace PolicyCache

def policyKeyPrefix : Text := "policy:".toList

def permissionKeyPrefix : Text := "perm:".toList

def clientKeyPrefix : Text := "client:".toList

def userProfileKeyPrefix : Text := "user-profile:".toList

def policyKey (routeKey : Text) : Text := policyKeyPrefix ++ routeKey

def permissionKey (clientId : Guid) : Text := permissionKeyPrefix ++ clientId.text

def clientKey (clientId : Text) : Text := clientKeyPrefix ++ clientId

def userProfileKey (userId : Text) (serviceId : Option Guid) : Text :=
  userProfileKeyPrefix ++ (userId ++ ':' :: (serviceId.map Guid.text).getD "global".toList)

/-- Read one family at a key. -/
def read {α : Type} (view : CacheValue → Option α) (key : Text) : Task Gateway (Option α) :=
  fun gateway =>
    (.ok (gateway.cache.get view oneHour key).1,
      { gateway with cache := (gateway.cache.get view oneHour key).2 })

/-- Write one value at a key. The memory tier always keeps it for an hour. -/
def write (key : Text) (value : CacheValue) (timeToLive : Nat) : Task Gateway Unit := fun gateway =>
  (.ok (), { gateway with cache := gateway.cache.set oneHour timeToLive key value })

def getPolicyAsync (routeKey : Text) : Task Gateway (Option EndpointPolicy) :=
  read CacheValue.asPolicy (policyKey routeKey)

def setPolicyAsync (routeKey : Text) (policy : EndpointPolicy) (timeToLive : Nat) :
    Task Gateway Unit :=
  write (policyKey routeKey) (.policy policy) timeToLive

def getClientPermissionsAsync (clientId : Guid) : Task Gateway (Option (List Guid)) :=
  read CacheValue.asPermissions (permissionKey clientId)

def setClientPermissionsAsync (clientId : Guid) (endpointIds : List Guid) (timeToLive : Nat) :
    Task Gateway Unit :=
  write (permissionKey clientId) (.permissions endpointIds) timeToLive

def getClientAsync (clientId : Text) : Task Gateway (Option Client) :=
  read CacheValue.asClient (clientKey clientId)

def setClientAsync (clientId : Text) (client : Client) (timeToLive : Nat) : Task Gateway Unit :=
  write (clientKey clientId) (.client client) timeToLive

def getUserProfileAsync (userId : Text) (serviceId : Option Guid) :
    Task Gateway (Option UserProfile) :=
  read CacheValue.asUserProfile (userProfileKey userId serviceId)

def setUserProfileAsync (userId : Text) (serviceId : Option Guid) (profile : UserProfile)
    (timeToLive : Nat) : Task Gateway Unit :=
  write (userProfileKey userId serviceId) (.userProfile profile) timeToLive

/-- Remove one key, given in full. -/
def invalidateAsync (key : Text) : Task Gateway Unit := fun gateway =>
  (.ok (), { gateway with cache := gateway.cache.invalidate key })

/-- The keys that the patterns of the bulk invalidation match. -/
def coveredByPatterns (key : Text) : Bool :=
  policyKeyPrefix.isPrefixOf key || permissionKeyPrefix.isPrefixOf key ||
    clientKeyPrefix.isPrefixOf key || userProfileKeyPrefix.isPrefixOf key

/-- Remove everything from memory and the keys of all four families from the store. -/
def invalidateAllAsync : Task Gateway Unit := fun gateway =>
  (.ok (), { gateway with cache := gateway.cache.invalidateAll coveredByPatterns })

/-- The cache as the stages see it. -/
def policyCache : IPolicyCache Gateway where
  getClientAsync := getClientAsync
  setClientAsync := setClientAsync
  getClientPermissionsAsync := getClientPermissionsAsync
  setClientPermissionsAsync := setClientPermissionsAsync
  getUserProfileAsync := getUserProfileAsync
  setUserProfileAsync := setUserProfileAsync

section Keys

@[simp] theorem policyKeyPrefix_chars : policyKeyPrefix = ['p', 'o', 'l', 'i', 'c', 'y', ':'] := by
  decide

@[simp] theorem permissionKeyPrefix_chars : permissionKeyPrefix = ['p', 'e', 'r', 'm', ':'] := by
  decide

@[simp] theorem clientKeyPrefix_chars : clientKeyPrefix = ['c', 'l', 'i', 'e', 'n', 't', ':'] := by
  decide

@[simp] theorem userProfileKeyPrefix_chars : userProfileKeyPrefix =
    ['u', 's', 'e', 'r', '-', 'p', 'r', 'o', 'f', 'i', 'l', 'e', ':'] := by
  decide

theorem policyKey_injective {left right : Text} (same : policyKey left = policyKey right) :
    left = right :=
  List.append_cancel_left same

theorem clientKey_injective {left right : Text} (same : clientKey left = clientKey right) :
    left = right :=
  List.append_cancel_left same

theorem permissionKey_injective {left right : Guid} (same : permissionKey left = permissionKey right) :
    left = right :=
  Guid.ext_text (List.append_cancel_left same)

/-- What stands after the last colon of a profile key has no colon. -/
theorem profileScope_whole (serviceId : Option Guid) :
    ':' ∉ (serviceId.map Guid.text).getD "global".toList := by
  cases serviceId with
  | none => decide
  | some id =>
    intro member
    have listed := id.text_chars member
    revert listed
    decide

/-- A service's id is not the word that stands for no service. -/
theorem guid_ne_global (id : Guid) : id.text ≠ "global".toList := by
  intro same
  have listed := id.text_chars (show 'g' ∈ id.text by rw [same]; decide)
  revert listed
  decide

/-- A profile key determines the user and the service, whatever colons the user
id contains. -/
theorem userProfileKey_injective {leftUser rightUser : Text} {leftService rightService : Option Guid}
    (same : userProfileKey leftUser leftService = userProfileKey rightUser rightService) :
    leftUser = rightUser ∧ leftService = rightService := by
  obtain ⟨users, scopes⟩ := Text.cut_at_last (List.append_cancel_left same)
    (profileScope_whole leftService) (profileScope_whole rightService)
  refine ⟨users, ?_⟩
  cases leftService with
  | none =>
    cases rightService with
    | none => rfl
    | some right => exact absurd scopes.symm (guid_ne_global right)
  | some left =>
    cases rightService with
    | none => exact absurd scopes (guid_ne_global left)
    | some right => rw [Guid.ext_text scopes]

@[simp] theorem policyKey_ne_clientKey (routeKey clientId : Text) :
    policyKey routeKey ≠ clientKey clientId := by
  simp [policyKey, clientKey]

@[simp] theorem policyKey_ne_permissionKey (routeKey : Text) (clientId : Guid) :
    policyKey routeKey ≠ permissionKey clientId := by
  simp [policyKey, permissionKey]

@[simp] theorem policyKey_ne_userProfileKey (routeKey userId : Text) (serviceId : Option Guid) :
    policyKey routeKey ≠ userProfileKey userId serviceId := by
  simp [policyKey, userProfileKey]

@[simp] theorem clientKey_ne_permissionKey (clientId : Text) (id : Guid) :
    clientKey clientId ≠ permissionKey id := by
  simp [clientKey, permissionKey]

@[simp] theorem clientKey_ne_userProfileKey (clientId userId : Text) (serviceId : Option Guid) :
    clientKey clientId ≠ userProfileKey userId serviceId := by
  simp [clientKey, userProfileKey]

@[simp] theorem permissionKey_ne_userProfileKey (clientId : Guid) (userId : Text)
    (serviceId : Option Guid) : permissionKey clientId ≠ userProfileKey userId serviceId := by
  simp [permissionKey, userProfileKey]

end Keys

/-- The process after a read. -/
def afterRead {α : Type} (view : CacheValue → Option α) (key : Text) (gateway : Gateway) : Gateway :=
  { gateway with cache := (gateway.cache.get view oneHour key).2 }

/-- The process after a write. -/
def afterWrite (key : Text) (value : CacheValue) (timeToLive : Nat) (gateway : Gateway) : Gateway :=
  { gateway with cache := gateway.cache.set oneHour timeToLive key value }

/-- A read returns the peeked value and changes only the cache. -/
theorem read_run {α : Type} (view : CacheValue → Option α) (key : Text) (gateway : Gateway) :
    read view key gateway = (.ok (gateway.cache.peek view key), afterRead view key gateway) := by
  simp [read, afterRead, Cache.get_value]

/-- Two processes with one database, one clock and equal reads of some keys. -/
structure SameOn (keys : Text → Prop) (left right : Gateway) : Prop where
  database : left.database = right.database
  repositoryFault : left.repositoryFault = right.repositoryFault
  now : left.now = right.now
  peek : ∀ {α : Type} (view : CacheValue → Option α) (key : Text), keys key →
    left.cache.peek view key = right.cache.peek view key

theorem SameOn.connected {keys : Text → Prop} {left right : Gateway} (same : SameOn keys left right)
    (connected : right.Connected) : left.Connected :=
  fun call => same.repositoryFault ▸ connected call

theorem SameOn.trans {keys : Text → Prop} {first second third : Gateway}
    (former : SameOn keys first second) (latter : SameOn keys second third) :
    SameOn keys first third where
  database := former.database.trans latter.database
  repositoryFault := former.repositoryFault.trans latter.repositoryFault
  now := former.now.trans latter.now
  peek := fun view key inside => (former.peek view key inside).trans (latter.peek view key inside)

/-- Reading a key does not change reads of others. -/
theorem sameOn_afterRead {α : Type} {keys : Text → Prop} (view : CacheValue → Option α) {key : Text}
    (outside : ¬ keys key) (gateway : Gateway) : SameOn keys (afterRead view key gateway) gateway where
  database := rfl
  repositoryFault := rfl
  now := Cache.get_now view oneHour key gateway.cache
  peek := fun _ _ inside => Cache.peek_get_other oneHour (fun same => outside (same ▸ inside))

/-- Writing a key does not change reads of others. -/
theorem sameOn_afterWrite {keys : Text → Prop} {key : Text} (value : CacheValue) (timeToLive : Nat)
    (outside : ¬ keys key) (gateway : Gateway) :
    SameOn keys (afterWrite key value timeToLive gateway) gateway where
  database := rfl
  repositoryFault := rfl
  now := Cache.set_now oneHour timeToLive key value gateway.cache
  peek := fun _ _ inside =>
    Cache.peek_set_other oneHour timeToLive value (fun same => outside (same ▸ inside))

/-- The keys outside the policy family. -/
def NotPolicyKey (key : Text) : Prop := ∀ routeKey, policyKey routeKey ≠ key

/-- The keys of the permission family. -/
def PermissionKey (key : Text) : Prop := ∃ clientId, permissionKey clientId = key

end PolicyCache

end ApiGateway
