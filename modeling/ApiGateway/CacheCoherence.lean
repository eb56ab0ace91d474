import ApiGateway.PolicyCache
import ApiGateway.Library.Runs

/-!
# What the policy cache answers

The four families of the cache share both tiers and one key space. Seen from
outside, a family at a logical id answers with the value of the latest write to
it, or not at all; and not at all once the key or everything was invalidated.

The invariant ties both tiers to the history of operations: whatever some tier
holds under the key of a logical id is the value of the latest write to that id.
It rests on the keys of different logical ids being different texts.
-/

namespace ApiGateway.PolicyCache

open Effects TwoTier

/-- What a family is asked for. -/
inductive LogicalId where
  | policy (routeKey : Text)
  | permissions (clientId : Guid)
  | client (clientId : Text)
  | userProfile (userId : Text) (serviceId : Option Guid)

/-- The key a logical id is cached under. -/
def LogicalId.key : LogicalId → Text
  | .policy routeKey => policyKey routeKey
  | .permissions clientId => permissionKey clientId
  | .client clientId => clientKey clientId
  | .userProfile userId serviceId => userProfileKey userId serviceId

/-- Operations of one cache, and what the surroundings do between them. The store
answers every operation; it may lose entries, and the memory tier may lose or
refuse any. -/
inductive CacheOperation where
  | setPolicy (routeKey : Text) (policy : EndpointPolicy) (timeToLive : Nat)
  | setClientPermissions (clientId : Guid) (endpointIds : List Guid) (timeToLive : Nat)
  | setClient (clientId : Text) (client : Client) (timeToLive : Nat)
  | setUserProfile (userId : Text) (serviceId : Option Guid) (profile : UserProfile)
      (timeToLive : Nat)
  | getPolicy (routeKey : Text)
  | getClientPermissions (clientId : Guid)
  | getClient (clientId : Text)
  | getUserProfile (userId : Text) (serviceId : Option Guid)
  | invalidate (key : Text)
  | invalidateAll
  | surroundingsChange (change : Cache.Decay Text) (answers : ∀ key, change.storeAnswers key = true)

/-- Perform one operation. -/
def operate : CacheOperation → Gateway → Gateway
  | .setPolicy routeKey policy timeToLive, gateway =>
      (setPolicyAsync routeKey policy timeToLive gateway).2
  | .setClientPermissions clientId endpointIds timeToLive, gateway =>
      (setClientPermissionsAsync clientId endpointIds timeToLive gateway).2
  | .setClient clientId client timeToLive, gateway =>
      (setClientAsync clientId client timeToLive gateway).2
  | .setUserProfile userId serviceId profile timeToLive, gateway =>
      (setUserProfileAsync userId serviceId profile timeToLive gateway).2
  | .getPolicy routeKey, gateway => (getPolicyAsync routeKey gateway).2
  | .getClientPermissions clientId, gateway => (getClientPermissionsAsync clientId gateway).2
  | .getClient clientId, gateway => (getClientAsync clientId gateway).2
  | .getUserProfile userId serviceId, gateway => (getUserProfileAsync userId serviceId gateway).2
  | .invalidate key, gateway => (invalidateAsync key gateway).2
  | .invalidateAll, gateway => (invalidateAllAsync gateway).2
  | .surroundingsChange change _, gateway =>
      { gateway with cache := Cache.decay change gateway.cache }

/-- The logical id an operation writes, and the value. -/
def CacheOperation.sets : CacheOperation → Option (LogicalId × CacheValue)
  | .setPolicy routeKey policy _ => some (.policy routeKey, .policy policy)
  | .setClientPermissions clientId endpointIds _ =>
      some (.permissions clientId, .permissions endpointIds)
  | .setClient clientId client _ => some (.client clientId, .client client)
  | .setUserProfile userId serviceId profile _ =>
      some (.userProfile userId serviceId, .userProfile profile)
  | _ => none

/-- The operation invalidates the key of a logical id, or everything. -/
def CacheOperation.Drops (id : LogicalId) : CacheOperation → Prop
  | .invalidate key => key = id.key
  | .invalidateAll => True
  | _ => False

/-- The latest write to a logical id wrote the value, and nothing has invalidated
it since. -/
def LatestSet (operations : List CacheOperation) (id : LogicalId) (value : CacheValue) : Prop :=
  ∃ earlier set later, operations = earlier ++ set :: later ∧ set.sets = some (id, value) ∧
    ∀ operation ∈ later, (∀ other, operation.sets ≠ some (id, other)) ∧ ¬ operation.Drops id

/-- A family answers with nothing or with the latest write. -/
def AnswersLatest {α : Type} (operations : List CacheOperation) (id : LogicalId)
    (wrap : α → CacheValue) (ending : Except Fault (Option α)) : Prop :=
  ending = .ok none ∨ ∃ value, ending = .ok (some value) ∧ LatestSet operations id (wrap value)

/-- Every read returns nothing or the value of the latest write to its logical id. -/
structure Coherent (operations : List CacheOperation) (gateway : Gateway) : Prop where
  policy : ∀ routeKey, AnswersLatest operations (.policy routeKey) CacheValue.policy
    (getPolicyAsync routeKey gateway).1
  permissions : ∀ clientId, AnswersLatest operations (.permissions clientId) CacheValue.permissions
    (getClientPermissionsAsync clientId gateway).1
  client : ∀ clientId, AnswersLatest operations (.client clientId) CacheValue.client
    (getClientAsync clientId gateway).1
  userProfile : ∀ userId serviceId, AnswersLatest operations (.userProfile userId serviceId)
    CacheValue.userProfile (getUserProfileAsync userId serviceId gateway).1

/-- Every tier agrees with the history, and the store answers. -/
structure Traced (operations : List CacheOperation) (gateway : Gateway) : Prop where
  answers : ∀ key, gateway.cache.storeAnswers key = true
  latest : ∀ id value, gateway.cache.Held id.key value → LatestSet operations id value

/-- Different logical ids have different keys, also across families. -/
theorem LogicalId.key_injective {left right : LogicalId} (same : left.key = right.key) :
    left = right := by
  cases left with
  | policy leftKey =>
    cases right with
    | policy rightKey => rw [policyKey_injective same]
    | permissions _ => exact absurd same (policyKey_ne_permissionKey _ _)
    | client _ => exact absurd same (policyKey_ne_clientKey _ _)
    | userProfile _ _ => exact absurd same (policyKey_ne_userProfileKey _ _ _)
  | permissions leftId =>
    cases right with
    | policy _ => exact absurd same.symm (policyKey_ne_permissionKey _ _)
    | permissions rightId => rw [permissionKey_injective same]
    | client _ => exact absurd same.symm (clientKey_ne_permissionKey _ _)
    | userProfile _ _ => exact absurd same (permissionKey_ne_userProfileKey _ _ _)
  | client leftId =>
    cases right with
    | policy _ => exact absurd same.symm (policyKey_ne_clientKey _ _)
    | permissions _ => exact absurd same (clientKey_ne_permissionKey _ _)
    | client rightId => rw [clientKey_injective same]
    | userProfile _ _ => exact absurd same (clientKey_ne_userProfileKey _ _ _)
  | userProfile leftUser leftService =>
    cases right with
    | policy _ => exact absurd same.symm (policyKey_ne_userProfileKey _ _ _)
    | permissions _ => exact absurd same.symm (permissionKey_ne_userProfileKey _ _ _)
    | client _ => exact absurd same.symm (clientKey_ne_userProfileKey _ _ _)
    | userProfile rightUser rightService =>
      obtain ⟨rfl, rfl⟩ := userProfileKey_injective same
      rfl

/-- The bulk invalidation covers the key of every logical id. -/
theorem LogicalId.key_covered (id : LogicalId) : coveredByPatterns id.key = true := by
  have leads : ∀ lead rest : Text, lead.isPrefixOf (lead ++ rest) = true := by
    simp
  cases id <;>
    simp only [coveredByPatterns, LogicalId.key, policyKey, permissionKey, clientKey, userProfileKey,
      leads, Bool.true_or, Bool.or_true]

section Families

/-- The values of a logical id's family. -/
def LogicalId.Family : LogicalId → Type
  | .policy _ => EndpointPolicy
  | .permissions _ => List Guid
  | .client _ => Client
  | .userProfile _ _ => UserProfile

def LogicalId.wrap : (id : LogicalId) → id.Family → CacheValue
  | .policy _, value => .policy value
  | .permissions _, value => .permissions value
  | .client _, value => .client value
  | .userProfile _ _, value => .userProfile value

def LogicalId.view : (id : LogicalId) → CacheValue → Option id.Family
  | .policy _ => CacheValue.asPolicy
  | .permissions _ => CacheValue.asPermissions
  | .client _ => CacheValue.asClient
  | .userProfile _ _ => CacheValue.asUserProfile

theorem LogicalId.view_eq_some_iff (id : LogicalId) (held : CacheValue) (value : id.Family) :
    id.view held = some value ↔ held = id.wrap value := by
  cases id with
  | policy _ => exact CacheValue.asPolicy_eq_some_iff held value
  | permissions _ => exact CacheValue.asPermissions_eq_some_iff held value
  | client _ => exact CacheValue.asClient_eq_some_iff held value
  | userProfile _ _ => exact CacheValue.asUserProfile_eq_some_iff held value

/-- The read of a logical id. -/
def getAsync : (id : LogicalId) → Task Gateway (Option id.Family)
  | .policy routeKey => getPolicyAsync routeKey
  | .permissions clientId => getClientPermissionsAsync clientId
  | .client clientId => getClientAsync clientId
  | .userProfile userId serviceId => getUserProfileAsync userId serviceId

/-- The write of a logical id. -/
def setAsync : (id : LogicalId) → id.Family → Nat → Task Gateway Unit
  | .policy routeKey => setPolicyAsync routeKey
  | .permissions clientId => setClientPermissionsAsync clientId
  | .client clientId => setClientAsync clientId
  | .userProfile userId serviceId => setUserProfileAsync userId serviceId

/-- A write with any lifetime. The store refuses one that is not positive, and the
cache swallows the refusal; memory has the value for an hour all the same. -/
def setFor (id : LogicalId) (value : id.Family) (timeToLive : Int) : Task Gateway Unit :=
  if 0 < timeToLive then setAsync id value timeToLive.toNat
  else Effect.update (fun gateway =>
    { gateway with cache := gateway.cache.insertMemory oneHour id.key (id.wrap value) })

theorem getAsync_eq_read (id : LogicalId) : getAsync id = read id.view id.key := by
  cases id <;> rfl

theorem setAsync_eq_write (id : LogicalId) (value : id.Family) (timeToLive : Nat) :
    setAsync id value timeToLive = write id.key (id.wrap value) timeToLive := by
  cases id <;> rfl

end Families

/-- The operation just performed wrote the value, or it neither wrote nor
invalidated the id and the value was the latest before. -/
theorem latestSet_concat {operations : List CacheOperation} {operation : CacheOperation}
    {id : LogicalId} {value : CacheValue}
    (recent : operation.sets = some (id, value) ∨
      (LatestSet operations id value ∧ (∀ other, operation.sets ≠ some (id, other)) ∧
        ¬ operation.Drops id)) : LatestSet (operations ++ [operation]) id value := by
  rcases recent with written | ⟨⟨earlier, set, later, rfl, written, undisturbed⟩, unwritten, kept⟩
  · exact ⟨operations, operation, [], rfl, written, by simp⟩
  · refine ⟨earlier, set, later ++ [operation], by simp, written, ?_⟩
    intro each member
    rcases List.mem_append.mp member with before | last
    · exact undisturbed each before
    · rw [List.mem_singleton.mp last]
      exact ⟨unwritten, kept⟩

variable {operations : List CacheOperation} {gateway : Gateway}

/-- A write of a logical id keeps the tiers in step with the history. -/
theorem Traced.written (traced : Traced operations gateway) {operation : CacheOperation}
    (id : LogicalId) {value : CacheValue} (sets : operation.sets = some (id, value))
    (timeToLive : Nat) :
    Traced (operations ++ [operation]) (afterWrite id.key value timeToLive gateway) := by
  constructor
  · intro key
    rw [← traced.answers key, afterWrite]
    unfold Cache.set Cache.insertStore
    split <;> rfl
  · intro tested held later
    rcases Cache.held_set (traced.answers id.key) later with ⟨same, rfl⟩ | ⟨other, earlier⟩
    · rw [LogicalId.key_injective same]
      exact latestSet_concat (Or.inl sets)
    · refine latestSet_concat (Or.inr ⟨traced.latest tested held earlier, ?_, ?_⟩)
      · intro another written
        rw [sets] at written
        have same : id = tested := (Prod.mk.inj (Option.some.inj written)).1
        exact other (by rw [same])
      · cases operation <;> simp [CacheOperation.sets] at sets <;> exact not_false

/-- A read keeps the tiers in step with the history. -/
theorem Traced.afterRead {α : Type} (traced : Traced operations gateway) (operation : CacheOperation)
    (silent : operation.sets = none) (harmless : ∀ id, ¬ operation.Drops id)
    (view : CacheValue → Option α) (key : Text) :
    Traced (operations ++ [operation]) (PolicyCache.afterRead view key gateway) := by
  constructor
  · intro tested
    rw [← traced.answers tested, PolicyCache.afterRead]
    rcases Cache.get_cache view oneHour key gateway.cache with same | ⟨_, _, _, _, _, copied⟩
    · rw [same]
    · rw [copied]
      rfl
  · intro tested held later
    exact latestSet_concat (Or.inr ⟨traced.latest tested held (Cache.held_get later),
      by simp [silent], harmless tested⟩)

/-- Every operation keeps the tiers in step with the history. -/
theorem Traced.step (traced : Traced operations gateway) (operation : CacheOperation) :
    Traced (operations ++ [operation]) (operate operation gateway) := by
  cases operation with
  | setPolicy routeKey policy timeToLive =>
    exact traced.written (.policy routeKey) rfl timeToLive
  | setClientPermissions clientId endpointIds timeToLive =>
    exact traced.written (.permissions clientId) rfl timeToLive
  | setClient clientId client timeToLive => exact traced.written (.client clientId) rfl timeToLive
  | setUserProfile userId serviceId profile timeToLive =>
    exact traced.written (.userProfile userId serviceId) rfl timeToLive
  | getPolicy routeKey =>
    exact traced.afterRead (.getPolicy routeKey) rfl (fun _ drops => drops) _ _
  | getClientPermissions clientId =>
    exact traced.afterRead (.getClientPermissions clientId) rfl (fun _ drops => drops) _ _
  | getClient clientId =>
    exact traced.afterRead (.getClient clientId) rfl (fun _ drops => drops) _ _
  | getUserProfile userId serviceId =>
    exact traced.afterRead (.getUserProfile userId serviceId) rfl (fun _ drops => drops) _ _
  | invalidate key =>
    refine ⟨traced.answers, fun id held later => ?_⟩
    obtain ⟨other, earlier⟩ := Cache.held_invalidate (traced.answers key) later
    exact latestSet_concat (Or.inr ⟨traced.latest id held earlier, by simp [CacheOperation.sets],
      Ne.symm other⟩)
  | invalidateAll =>
    refine ⟨traced.answers, fun id held later => ?_⟩
    obtain ⟨uncovered, _⟩ := Cache.held_invalidateAll (traced.answers id.key) later
    rw [id.key_covered] at uncovered
    cases uncovered
  | surroundingsChange change answers =>
    exact ⟨answers, fun id held later => latestSet_concat (Or.inr
      ⟨traced.latest id held (Cache.held_decay later), by simp [CacheOperation.sets], not_false⟩)⟩

/-- A read of a family answers from what the tiers hold. -/
theorem Traced.answersLatest {α : Type} (traced : Traced operations gateway) (id : LogicalId)
    {view : CacheValue → Option α} {wrap : α → CacheValue}
    (family : ∀ held value, view held = some value → held = wrap value) :
    AnswersLatest operations id wrap (read view id.key gateway).1 := by
  rw [read_run]
  cases found : gateway.cache.peek view id.key with
  | none => exact Or.inl rfl
  | some value =>
    obtain ⟨held, holds, viewed⟩ := Cache.peek_held found
    exact Or.inr ⟨value, rfl, family held value viewed ▸ traced.latest id held holds⟩

/-- Whatever one cache is asked to do from its start on, every read of a family
at a logical id returns nothing or the value of the latest write to that id that
no invalidation has followed. -/
theorem cache_coherent (database : Database) (operations : List CacheOperation) :
    Coherent operations (Runs.run operate operations (Gateway.started database)) := by
  have traced : Traced operations (Runs.run operate operations (Gateway.started database)) := by
    induction operations using List.reverseRecOn with
    | nil =>
      exact ⟨fun _ => rfl, fun id value held =>
        absurd held (Cache.vacant_not_held ⟨fun _ => rfl, fun _ => rfl⟩ id.key value)⟩
    | append_singleton operations last ih =>
      rw [Runs.run_concat]
      exact ih.step last
  exact {
    policy := fun routeKey => traced.answersLatest (.policy routeKey)
      (fun held value => (CacheValue.asPolicy_eq_some_iff held value).mp)
    permissions := fun clientId => traced.answersLatest (.permissions clientId)
      (fun held value => (CacheValue.asPermissions_eq_some_iff held value).mp)
    client := fun clientId => traced.answersLatest (.client clientId)
      (fun held value => (CacheValue.asClient_eq_some_iff held value).mp)
    userProfile := fun userId serviceId => traced.answersLatest (.userProfile userId serviceId)
      (fun held value => (CacheValue.asUserProfile_eq_some_iff held value).mp) }

end ApiGateway.PolicyCache
