import ApiGateway.CacheCoherence

/-!
# What a failed write leaves behind

A write and an invalidation change memory first and then the store. When the
store refuses its part, the exception is swallowed and the store keeps what it
had. Memory hides the old value only until its own entry goes: the next read
finds the old value in the store and copies it back.

So the old value stays away exactly when the store had none at the failing step,
or the very value being written.
-/

namespace ApiGateway.PolicyCache

open Effects TwoTier

/-- An operation on the cache, or a change of the surroundings, of any kind. -/
inductive TierStep where
  | gets (id : LogicalId)
  | sets (id : LogicalId) (value : id.Family) (timeToLive : Int)
  | invalidates (key : Text)
  | invalidatesAll
  | surroundingsChange (change : Cache.Decay Text)

/-- Perform one step. -/
def performOnTiers : TierStep → Gateway → Gateway
  | .gets id, gateway => (getAsync id gateway).2
  | .sets id value timeToLive, gateway => (setFor id value timeToLive gateway).2
  | .invalidates key, gateway => (invalidateAsync key gateway).2
  | .invalidatesAll, gateway => (invalidateAllAsync gateway).2
  | .surroundingsChange change, gateway =>
      { gateway with cache := Cache.decay change gateway.cache }

/-- The step writes a logical id. -/
def TierStep.Sets (id : LogicalId) : TierStep → Prop
  | .sets written _ _ => written = id
  | _ => False

/-- A call of the cache with a part for the store. -/
inductive StoreCall (id : LogicalId) where
  | set (value : id.Family) (timeToLive : Int)
  | invalidate

namespace StoreCall

variable {id : LogicalId}

def step : StoreCall id → TierStep
  | .set value timeToLive => .sets id value timeToLive
  | .invalidate => .invalidates id.key

/-- The value the call is to leave. -/
def own : StoreCall id → Option id.Family
  | .set value _ => some value
  | .invalidate => none

/-- The call's part in memory. -/
def inMemoryOnly (cache : Cache Text CacheValue) : StoreCall id → Cache Text CacheValue
  | .set value _ => cache.insertMemory oneHour id.key (id.wrap value)
  | .invalidate => { cache with memory := Function.update cache.memory id.key none }

/-- The store refuses its part: it does not answer, or not for that lifetime. -/
def Fails (gateway : Gateway) : StoreCall id → Prop
  | .set _ timeToLive => timeToLive ≤ 0 ∨ gateway.cache.storeAnswers id.key = false
  | .invalidate => gateway.cache.storeAnswers id.key = false

end StoreCall

/-- The live value that the store has for a logical id. -/
def stored (id : LogicalId) (gateway : Gateway) : Option id.Family :=
  (gateway.cache.inStore id.key).bind id.view

/-- The history wrote the value under the id. -/
def WasSet (history : List TierStep) (id : LogicalId) (value : id.Family) : Prop :=
  ∃ timeToLive, TierStep.sets id value timeToLive ∈ history

section Steps

variable {gateway : Gateway} {id : LogicalId}

/-- What a step leaves under a key was there before, or the step wrote it. -/
theorem held_perform {step : TierStep} {key : Text} {held : CacheValue}
    (later : (performOnTiers step gateway).cache.Held key held) :
    gateway.cache.Held key held ∨
      ∃ written value timeToLive, step = .sets written value timeToLive ∧
        key = written.key ∧ held = written.wrap value := by
  cases step with
  | gets read =>
    rw [performOnTiers, getAsync_eq_read] at later
    exact Or.inl (Cache.held_get later)
  | sets written value timeToLive =>
    have own : (key = written.key ∧ held = written.wrap value) ∨ gateway.cache.Held key held := by
      rw [performOnTiers, setFor] at later
      split at later
      · rw [setAsync_eq_write] at later
        exact Cache.held_set_or later
      · rcases Cache.held_insertMemory later with ⟨same, rfl | inStore⟩ | ⟨_, earlier⟩
        · exact Or.inl ⟨same, rfl⟩
        · exact Or.inr (Or.inr (same ▸ inStore))
        · exact Or.inr earlier
    exact own.symm.imp_right (fun ⟨keyed, wrote⟩ => ⟨written, value, timeToLive, rfl, keyed, wrote⟩)
  | invalidates removed => exact Or.inl (Cache.held_invalidate_or later)
  | invalidatesAll => exact Or.inl (Cache.held_invalidateAll_or later)
  | surroundingsChange change => exact Or.inl (Cache.held_decay later)

/-- Whatever a run from the start has left under a key was written by it. -/
theorem held_origin {database : Database} {history : List TierStep} {key : Text} {held : CacheValue}
    (later : (Runs.run performOnTiers history (Gateway.started database)).cache.Held key held) :
    ∃ written value timeToLive, TierStep.sets written value timeToLive ∈ history ∧
      key = written.key ∧ held = written.wrap value := by
  induction history using List.reverseRecOn with
  | nil => exact absurd later (Cache.vacant_not_held ⟨fun _ => rfl, fun _ => rfl⟩ key held)
  | append_singleton history last earlier =>
    rw [Runs.run_concat] at later
    rcases held_perform later with before | ⟨written, value, timeToLive, rfl, keyed, wrapped⟩
    · obtain ⟨written, value, timeToLive, member, rest⟩ := earlier before
      exact ⟨written, value, timeToLive, List.mem_append_left _ member, rest⟩
    · exact ⟨written, value, timeToLive, List.mem_append_right _ (List.mem_singleton.mpr rfl), keyed,
        wrapped⟩

theorem held_was_set {database : Database} {history : List TierStep} {value : id.Family}
    (held : (Runs.run performOnTiers history (Gateway.started database)).cache.Held id.key
      (id.wrap value)) : WasSet history id value := by
  obtain ⟨written, wrote, timeToLive, member, keyed, wrapped⟩ := held_origin held
  obtain rfl := LogicalId.key_injective keyed
  have same : value = wrote := Option.some.inj
    (((id.view_eq_some_iff _ value).mpr rfl).symm.trans ((id.view_eq_some_iff _ wrote).mpr wrapped))
  exact ⟨timeToLive, same ▸ member⟩

/-- All that is held for an id is one value, if it is anything. -/
def OnlyHolds (id : LogicalId) (own : Option id.Family) (gateway : Gateway) : Prop :=
  ∀ value, gateway.cache.Held id.key (id.wrap value) → some value = own

/-- A step that does not write the id keeps that. -/
theorem onlyHolds_perform {own : Option id.Family} {step : TierStep} (unwritten : ¬ step.Sets id)
    (only : OnlyHolds id own gateway) : OnlyHolds id own (performOnTiers step gateway) := by
  intro value later
  rcases held_perform later with earlier | ⟨written, wrote, timeToLive, rfl, keyed, _⟩
  · exact only value earlier
  · exact absurd (LogicalId.key_injective keyed).symm unwritten

/-- Where only one value is held a read returns it or nothing. -/
theorem OnlyHolds.getAsync {own : Option id.Family} (only : OnlyHolds id own gateway)
    {value : id.Family} (returned : (getAsync id gateway).1 = .ok (some value)) : some value = own := by
  rw [getAsync_eq_read, read_run] at returned
  obtain ⟨kept, held, viewed⟩ := Cache.peek_held (Except.ok.inj returned)
  rw [(id.view_eq_some_iff kept value).mp viewed] at held
  exact only value held

/-- A failing call does its part in memory only. -/
theorem failed_cache {call : StoreCall id} (fails : call.Fails gateway) :
    (performOnTiers call.step gateway).cache = call.inMemoryOnly gateway.cache := by
  cases call with
  | set value timeToLive =>
    rw [StoreCall.step, performOnTiers, setFor]
    split
    · next positive =>
      have silent : gateway.cache.storeAnswers id.key = false := fails.resolve_left (by omega)
      rw [setAsync_eq_write]
      simp [write, Cache.set, Cache.insertStore, Cache.insertMemory, silent, StoreCall.inMemoryOnly]
    · rfl
  | invalidate =>
    have silent : gateway.cache.storeAnswers id.key = false := fails
    simp [StoreCall.step, performOnTiers, invalidateAsync, Cache.invalidate, silent,
      StoreCall.inMemoryOnly]

/-- So the store keeps what it had. -/
theorem failed_inStore {call : StoreCall id} (fails : call.Fails gateway) :
    (performOnTiers call.step gateway).cache.inStore id.key = gateway.cache.inStore id.key := by
  rw [failed_cache fails]
  cases call <;> rfl

/-- And memory has at most the call's own value. -/
theorem failed_inMemory {call : StoreCall id} (fails : call.Fails gateway) {value : id.Family}
    (later : (performOnTiers call.step gateway).cache.inMemory id.key = some (id.wrap value)) :
    some value = call.own := by
  rw [failed_cache fails] at later
  cases call with
  | set wrote timeToLive =>
    rcases Cache.insertMemory_self gateway.cache id.key oneHour (id.wrap wrote) with kept | refused
    · have wrapped : id.wrap wrote = id.wrap value := Option.some.inj (kept.symm.trans later)
      exact ((id.view_eq_some_iff _ value).mpr rfl).symm.trans
        ((id.view_eq_some_iff _ wrote).mpr wrapped.symm)
    · cases refused.symm.trans later
  | invalidate => simp [StoreCall.inMemoryOnly, Cache.inMemory] at later

/-- A value of the family that the store has is the one stored. -/
theorem stored_eq_some_iff {value : id.Family} :
    stored id gateway = some value ↔ gateway.cache.inStore id.key = some (id.wrap value) := by
  rw [stored, Option.bind_eq_some_iff]
  constructor
  · rintro ⟨kept, inStore, viewed⟩
    rw [inStore, (id.view_eq_some_iff kept value).mp viewed]
  · intro inStore
    exact ⟨_, inStore, (id.view_eq_some_iff _ value).mpr rfl⟩

/-- Memory loses everything and the store answers. -/
def restart (gateway : Gateway) : TierStep :=
  .surroundingsChange ⟨0, fun _ => false, fun _ => true, gateway.cache.memoryAdmits, fun _ => true⟩

/-- After that a read returns what the store has. -/
theorem getAsync_restart (gateway : Gateway) :
    (getAsync id (performOnTiers (restart gateway) gateway)).1 = .ok (stored id gateway) := by
  rw [getAsync_eq_read, read_run]
  rfl

/-- After a call whose part in the store failed, no later read returns a value
written before the call, until the id is written again, exactly when the store
had no live value for the id at the call, or the one that the call was writing. -/
theorem failed_call_final_iff (database : Database) (history : List TierStep) (id : LogicalId)
    (call : StoreCall id)
    (fails : call.Fails (Runs.run performOnTiers history (Gateway.started database))) :
    (∀ later, (∀ step ∈ later, ¬ TierStep.Sets id step) → ∀ value,
      (getAsync id (Runs.run performOnTiers later (performOnTiers call.step
        (Runs.run performOnTiers history (Gateway.started database))))).1 = .ok (some value) →
          WasSet history id value → some value = call.own) ↔
      ∀ value, stored id (Runs.run performOnTiers history (Gateway.started database)) = some value →
        some value = call.own := by
  constructor
  · intro final value had
    have held : (Runs.run performOnTiers history (Gateway.started database)).cache.Held id.key
        (id.wrap value) := Or.inr (stored_eq_some_iff.mp had)
    refine final [restart (performOnTiers call.step
      (Runs.run performOnTiers history (Gateway.started database)))]
      (by simp [restart, TierStep.Sets]) value ?_ (held_was_set held)
    rw [Runs.run, List.foldl_cons, List.foldl_nil, getAsync_restart, stored, failed_inStore fails]
    exact congrArg Except.ok had
  · intro alone later quiet value returned _
    have only : OnlyHolds id call.own (performOnTiers call.step
        (Runs.run performOnTiers history (Gateway.started database))) := by
      rintro held (inMemory | inStore)
      · exact failed_inMemory fails inMemory
      · rw [failed_inStore fails] at inStore
        exact alone held (stored_eq_some_iff.mpr inStore)
    have kept := Runs.invariant_run
      (fun _ _ holds unwritten => onlyHolds_perform unwritten holds)
      (Runs.along_of_mem (fun step member _ => quiet step member) _) only
    exact kept.getAsync returned

end Steps

section Resurrection

/-- The id under which a client's permissions are cached. -/
def permissionsOfOne : LogicalId := .permissions (Guid.numbered 1)

/-- A permission set is cached, and then the store stops answering. -/
def cachedThenSilent : List TierStep :=
  [.sets permissionsOfOne [Guid.numbered 2] oneHour,
    .surroundingsChange ⟨0, fun _ => true, fun _ => true, fun _ => true, fun _ => false⟩]

/-- Memory is lost and the store answers again. -/
def evictedThenAnswering : List TierStep :=
  [.surroundingsChange ⟨60, fun _ => false, fun _ => true, fun _ => true, fun _ => true⟩]

theorem failed_call_final_iff_silent :
    (∀ later, (∀ step ∈ later, ¬ TierStep.Sets permissionsOfOne step) → ∀ value,
      (getAsync permissionsOfOne (Runs.run performOnTiers later (performOnTiers
        (StoreCall.invalidate : StoreCall permissionsOfOne).step (Runs.run performOnTiers
          cachedThenSilent (Gateway.started Database.vacant))))).1 = .ok (some value) →
        WasSet cachedThenSilent permissionsOfOne value →
          some value = (StoreCall.invalidate : StoreCall permissionsOfOne).own) ↔
      ∀ value, stored permissionsOfOne (Runs.run performOnTiers cachedThenSilent
          (Gateway.started Database.vacant)) = some value →
        some value = (StoreCall.invalidate : StoreCall permissionsOfOne).own :=
  failed_call_final_iff Database.vacant cachedThenSilent permissionsOfOne .invalidate rfl

/-- A permission set that was invalidated is answered with again. -/
theorem invalidated_permissions_return :
    (StoreCall.invalidate : StoreCall permissionsOfOne).Fails
        (Runs.run performOnTiers cachedThenSilent (Gateway.started Database.vacant)) ∧
      (∀ step ∈ evictedThenAnswering, ¬ TierStep.Sets permissionsOfOne step) ∧
      WasSet cachedThenSilent permissionsOfOne [Guid.numbered 2] ∧
      (getAsync permissionsOfOne (Runs.run performOnTiers evictedThenAnswering (performOnTiers
        (StoreCall.invalidate : StoreCall permissionsOfOne).step (Runs.run performOnTiers
          cachedThenSilent (Gateway.started Database.vacant))))).1 =
            .ok (some [Guid.numbered 2]) := by
  have answered : (getClientPermissionsAsync (Guid.numbered 1) (Runs.run performOnTiers
      evictedThenAnswering (performOnTiers (StoreCall.invalidate : StoreCall permissionsOfOne).step
        (Runs.run performOnTiers cachedThenSilent (Gateway.started Database.vacant))))).1 =
          .ok (some [Guid.numbered 2]) := by
    decide
  exact ⟨rfl, by simp [evictedThenAnswering, TierStep.Sets], ⟨oneHour, List.mem_cons_self⟩, answered⟩

end Resurrection

end ApiGateway.PolicyCache
