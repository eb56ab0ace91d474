import ApiGateway.CacheCoherence
import ApiGateway.Library.TierCalls

/-!
# Concurrent calls of the policy cache

A read looks into memory, then into the store, and only then copies what it found
to memory. A write and an invalidation change memory before the store, and the
bulk invalidation empties memory before it deletes the store's keys one by one. So
a copy that lands in one of these gaps stays in memory for an hour, and so does
the memory entry of the slower of two writes.

Run without interruption each program here is the call of the policy cache that it
models.
-/

namespace ApiGateway.TierRaces

open Effects TwoTier Interleaving TierCalls

/-- A call of the cache as a program. -/
abbrev TierRoutine (α : Type) : Type := Program (TierAccess Text CacheValue) Answer Fault α

/-- One access. -/
def access (action : TierAccess Text CacheValue) : TierRoutine (Answer action) := Program.act action

/-- Memory, then the store; a value found in the store is copied to memory. -/
def getAsync (id : PolicyCache.LogicalId) : TierRoutine (Option id.Family) := do
  let remembered : Option CacheValue ← access (.readMemory id.key)
  match remembered.bind id.view with
  | some found => pure (some found)
  | none =>
    let stored : Option CacheValue ← access (.readStore id.key)
    match stored with
    | none => pure none
    | some value =>
      match id.view value with
      | none => pure none
      | some found =>
        access (.cacheMemory id.key value oneHour)
        pure (some found)

/-- Memory, then the store. -/
def setAsync (id : PolicyCache.LogicalId) (value : id.Family) (timeToLive : ℕ+) :
    TierRoutine Unit := do
  access (.cacheMemory id.key (id.wrap value) oneHour)
  access (.cacheStore id.key (id.wrap value) timeToLive)

/-- Memory, then the store. -/
def invalidateAsync (key : Text) : TierRoutine Unit := do
  access (.removeMemory key)
  access (.deleteStore key)

/-- Delete the keys a page of the enumeration yields, one by one. -/
def deletePage (pattern : Text) (page : List Text) : TierRoutine Unit := do
  let keys : List Text ← access (.scan (page.filter (fun key => pattern.isPrefixOf key)))
  keys.foldlM (fun _ key => access (.deleteStore key)) ()

/-- Enumerate the keys with a prefix page by page. -/
def deletePattern (cursor : Text → List (List Text)) (pattern : Text) : TierRoutine Unit :=
  (cursor pattern).foldlM (fun _ page => deletePage pattern page) ()

/-- Memory as a whole, then the store pattern by pattern. Which keys the server
looks at in which page is its own choice. -/
def invalidateAllAsync (cursor : Text → List (List Text)) : TierRoutine Unit := do
  access .clearMemory
  deletePattern cursor PolicyCache.policyKeyPrefix
  deletePattern cursor PolicyCache.permissionKeyPrefix
  deletePattern cursor PolicyCache.clientKeyPrefix
  deletePattern cursor PolicyCache.userProfileKeyPrefix

section Alone

/-- An operation on the tiers as one of the process. -/
def onCache {α : Type} (operation : Effect Fault (Cache Text CacheValue) α) : Task Gateway α :=
  fun gateway => ((operation gateway.cache).1, { gateway with cache := (operation gateway.cache).2 })

/-- Uninterrupted, a read is the read of the two tiers. -/
theorem getAsync_run (id : PolicyCache.LogicalId) (cache : Cache Text CacheValue) :
    (getAsync id).alone execute cache =
      (.ok (cache.get id.view oneHour id.key).1, (cache.get id.view oneHour id.key).2) := by
  simp only [Cache.get, getAsync, access, Program.act, Program.ask_andThen,
    Program.done_ok_andThen, Program.alone, execute]
  cases (cache.inMemory id.key).bind id.view with
  | some found => rfl
  | none =>
    simp only [Program.alone, execute, Cache.fromStore]
    cases cache.storeAnswers id.key with
    | false => rfl
    | true =>
      cases cache.inStore id.key with
      | none => rfl
      | some value => cases viewed : id.view value <;> simp [viewed, Program.alone, execute]

theorem getAsync_alone (id : PolicyCache.LogicalId) :
    onCache ((getAsync id).alone execute) = PolicyCache.getAsync id := by
  rw [PolicyCache.getAsync_eq_read]
  funext gateway
  rw [onCache, getAsync_run, PolicyCache.read]

theorem setAsync_alone (id : PolicyCache.LogicalId) (value : id.Family) (timeToLive : ℕ+) :
    onCache ((setAsync id value timeToLive).alone execute) =
      PolicyCache.setAsync id value timeToLive := by
  rw [PolicyCache.setAsync_eq_write]
  rfl

theorem invalidateAsync_alone (key : Text) :
    onCache ((invalidateAsync key).alone execute) = PolicyCache.invalidateAsync key :=
  rfl

/-- The store of the second cache is that of the first without some keys, and
nothing else differs. -/
structure Purges (gone : Text → Prop) (before after : Cache Text CacheValue) : Prop where
  answers : after.storeAnswers = before.storeAnswers
  memory : ∀ key, after.inMemory key = before.inMemory key
  deleted : ∀ key, gone key → after.inStore key = none
  kept : ∀ key, ¬ gone key → after.inStore key = before.inStore key

theorem Purges.trans {former latter : Text → Prop} {before between after : Cache Text CacheValue}
    (first : Purges former before between) (second : Purges latter between after) :
    Purges (fun key => former key ∨ latter key) before after where
  answers := second.answers.trans first.answers
  memory := fun key => (second.memory key).trans (first.memory key)
  deleted := fun key gone => by
    by_cases late : latter key
    · exact second.deleted key late
    · exact (second.kept key late).trans (first.deleted key (gone.resolve_right late))
  kept := fun key stays =>
    (second.kept key (fun late => stays (Or.inr late))).trans
      (first.kept key (fun early => stays (Or.inl early)))

/-- Keys that the store does not have are as good as deleted. -/
theorem Purges.congr {gone wider : Text → Prop} {before after : Cache Text CacheValue}
    (purges : Purges gone before after) (more : ∀ key, gone key → wider key)
    (absent : ∀ key, wider key → ¬ gone key → before.inStore key = none) :
    Purges wider before after where
  answers := purges.answers
  memory := purges.memory
  deleted := fun key inside => by
    by_cases listed : gone key
    · exact purges.deleted key listed
    · exact (purges.kept key listed).trans (absent key inside listed)
  kept := fun key outside => purges.kept key (fun listed => outside (more key listed))

theorem purges_deleteStore {cache : Cache Text CacheValue} {key : Text}
    (answers : cache.storeAnswers key = true) : Purges (· = key) cache (deleteStore key cache) where
  answers := rfl
  memory := fun _ => rfl
  deleted := fun tested same => by
    subst tested
    simp [deleteStore, Cache.inStore, answers]
  kept := fun tested other => by
    simp [deleteStore, Cache.inStore, answers, Function.update_of_ne other]

/-- A loop purges what its rounds purge. -/
theorem purges_foldlM {ι : Type} {round : ι → TierRoutine Unit} {gone : ι → Text → Prop}
    (rounds : ∀ item (cache : Cache Text CacheValue), (∀ key, cache.storeAnswers key = true) →
      ∃ after, (round item).alone execute cache = (.ok (), after) ∧ Purges (gone item) cache after)
    (items : List ι) {cache : Cache Text CacheValue} (answers : ∀ key, cache.storeAnswers key = true) :
    ∃ after, Program.alone execute (items.foldlM (fun _ item => round item) ()) cache =
        (.ok (), after) ∧
      Purges (fun key => ∃ item ∈ items, gone item key) cache after := by
  induction items generalizing cache with
  | nil => exact ⟨cache, rfl, rfl, fun _ => rfl, by simp, fun _ _ => rfl⟩
  | cons item rest ih =>
    obtain ⟨between, ran, first⟩ := rounds item cache answers
    obtain ⟨after, looped, second⟩ := @ih between (fun key => by rw [first.answers, answers key])
    refine ⟨after, ?_, ?_⟩
    · rw [List.foldlM_cons, Program.alone_bind, Effect.bind_ok ran, looped]
    · simpa using first.trans second

theorem purges_deletePage (pattern : Text) (page : List Text) {cache : Cache Text CacheValue}
    (answers : ∀ key, cache.storeAnswers key = true) :
    ∃ after, (deletePage pattern page).alone execute cache = (.ok (), after) ∧
      Purges (fun key => key ∈ page ∧ pattern.isPrefixOf key = true) cache after := by
  have rounds : ∀ item (cache : Cache Text CacheValue), (∀ key, cache.storeAnswers key = true) →
      ∃ after, (access (.deleteStore item)).alone execute cache = (.ok (), after) ∧
        Purges (· = item) cache after :=
    fun item cache answers => ⟨deleteStore item cache, rfl, purges_deleteStore (answers item)⟩
  obtain ⟨after, ran, purges⟩ := purges_foldlM rounds
    ((page.filter (fun key => pattern.isPrefixOf key)).filter
      (fun key => (cache.fromStore some key).isSome)) answers
  refine ⟨after, ran, purges.congr ?_ ?_⟩
  · rintro key ⟨item, listed, rfl⟩
    simpa using (List.mem_filter.mp listed).1
  · rintro key ⟨inPage, matched⟩ unlisted
    by_contra live
    refine unlisted ⟨key, ?_, rfl⟩
    simp only [List.mem_filter, Cache.fromStore, answers key, if_true]
    exact ⟨⟨inPage, matched⟩, by simpa [Option.isSome_iff_ne_none] using live⟩

theorem purges_deletePattern (cursor : Text → List (List Text)) (pattern : Text)
    {cache : Cache Text CacheValue} (answers : ∀ key, cache.storeAnswers key = true) :
    ∃ after, (deletePattern cursor pattern).alone execute cache = (.ok (), after) ∧
      Purges (fun key => ∃ page ∈ cursor pattern, key ∈ page ∧ pattern.isPrefixOf key = true)
        cache after :=
  purges_foldlM (fun page _ answers => purges_deletePage pattern page answers) (cursor pattern) answers

/-- The enumeration for a pattern looks at every key that is live in the store. -/
def Enumerates (cursor : Text → List (List Text)) (cache : Cache Text CacheValue) : Prop :=
  ∀ pattern key, cache.inStore key ≠ none → ∃ page ∈ cursor pattern, key ∈ page

/-- Uninterrupted and with every live key enumerated, the bulk invalidation leaves
the live entries that it leaves in one step. -/
theorem invalidateAllAsync_alone {cursor : Text → List (List Text)} {cache : Cache Text CacheValue}
    (answers : ∀ key, cache.storeAnswers key = true) (enumerates : Enumerates cursor cache) :
    ∃ after, (invalidateAllAsync cursor).alone execute cache = (.ok (), after) ∧ ∀ key,
      after.inMemory key = (cache.invalidateAll PolicyCache.coveredByPatterns).inMemory key ∧
        after.inStore key = (cache.invalidateAll PolicyCache.coveredByPatterns).inStore key := by
  have cleared : ∀ key, (clearMemory cache).storeAnswers key = true := answers
  obtain ⟨first, ranFirst, purgesFirst⟩ :=
    purges_deletePattern cursor PolicyCache.policyKeyPrefix cleared
  obtain ⟨second, ranSecond, purgesSecond⟩ :=
    purges_deletePattern cursor PolicyCache.permissionKeyPrefix
      (fun key => by rw [purgesFirst.answers, cleared key])
  obtain ⟨third, ranThird, purgesThird⟩ :=
    purges_deletePattern cursor PolicyCache.clientKeyPrefix
      (fun key => by rw [purgesSecond.answers, purgesFirst.answers, cleared key])
  obtain ⟨after, ranLast, purgesLast⟩ :=
    purges_deletePattern cursor PolicyCache.userProfileKeyPrefix
      (fun key => by rw [purgesThird.answers, purgesSecond.answers, purgesFirst.answers, cleared key])
  have all : Purges (fun key => PolicyCache.coveredByPatterns key = true) (clearMemory cache) after := by
    refine (((purgesFirst.trans purgesSecond).trans purgesThird).trans purgesLast).congr ?_ ?_
    · intro key gone
      simp only [PolicyCache.coveredByPatterns, Bool.or_eq_true]
      have matched : ∀ pattern : Text, (∃ page ∈ cursor pattern, key ∈ page ∧
          pattern.isPrefixOf key = true) → pattern.isPrefixOf key = true := by
        rintro pattern ⟨page, member, inside, leads⟩
        exact leads
      exact gone.imp (Or.imp (Or.imp (matched _) (matched _)) (matched _)) (matched _)
    · intro key covered unlisted
      by_contra live
      simp only [PolicyCache.coveredByPatterns, Bool.or_eq_true] at covered
      have listed : ∀ pattern : Text, pattern.isPrefixOf key = true → ∃ page ∈ cursor pattern,
          key ∈ page ∧ pattern.isPrefixOf key = true := by
        intro pattern leads
        obtain ⟨page, member, inside⟩ := enumerates pattern key live
        exact ⟨page, member, inside, leads⟩
      exact unlisted
        (covered.imp (Or.imp (Or.imp (listed _) (listed _)) (listed _)) (listed _))
  refine ⟨after, ?_, fun key => ⟨all.memory key, ?_⟩⟩
  · have emptied : (access .clearMemory).alone execute cache = (.ok (), clearMemory cache) := rfl
    rw [invalidateAllAsync, Program.alone_bind, Effect.bind_ok emptied, Program.alone_bind,
      Effect.bind_ok ranFirst, Program.alone_bind, Effect.bind_ok ranSecond, Program.alone_bind,
      Effect.bind_ok ranThird, ranLast]
  · cases covered : PolicyCache.coveredByPatterns key with
    | true =>
      rw [all.deleted key covered]
      simp [Cache.invalidateAll, Cache.inStore, covered, answers key]
    | false =>
      rw [all.kept key (by simp [covered])]
      simp [Cache.invalidateAll, Cache.inStore, covered, clearMemory]

end Alone

/-- A call of the cache. -/
inductive PolicyCall where
  | gets (id : PolicyCache.LogicalId)
  | sets (id : PolicyCache.LogicalId) (value : id.Family) (timeToLive : ℕ+)
  | invalidates (key : Text)
  | invalidatesAll (cursor : Text → List (List Text))

/-- The program of a call. Reads end with what they found. -/
def PolicyCall.program : PolicyCall → TierRoutine (Option CacheValue)
  | .gets id => do
      let found ← getAsync id
      pure (found.map id.wrap)
  | .sets id value timeToLive => do
      setAsync id value timeToLive
      pure none
  | .invalidates key => do
      invalidateAsync key
      pure none
  | .invalidatesAll cursor => do
      invalidateAllAsync cursor
      pure none

/-- The calls of one policy cache. -/
abbrev policyCalls : System (TierAccess Text CacheValue) Answer Fault (Option CacheValue)
    (Cache Text CacheValue) (Surroundings Text) PolicyCall :=
  tiers PolicyCall.program

/-- Calls under way. -/
abbrev PolicyCalls : Type := TierWorld Text CacheValue Fault (Option CacheValue)

/-- The memory part of a write always lands well: its part in the store is to come. -/
theorem set_lands {calls : PolicyCalls} {index : Nat} {origin : Cache Text CacheValue}
    {id : PolicyCache.LogicalId} {value : id.Family} {timeToLive : ℕ+}
    (started : calls.threads[index]? =
      some ⟨origin, (PolicyCall.sets id value timeToLive).program⟩) :
    LandsWell calls (.advances index : Move (Surroundings Text) PolicyCall) := by
  intro other access next asking
  have same := Option.some.inj (started.symm.trans asking)
  have pending : Pending calls id.key (id.wrap value) :=
    ⟨index, _, started, Or.inr (fun _ _ => Or.inl ⟨timeToLive, rfl⟩)⟩
  cases same
  exact fun _ => Or.inr pending

/-- No read of a family returns what no tier has. -/
theorem getAsync_unheld {cache : Cache Text CacheValue} {id : PolicyCache.LogicalId}
    {value : id.Family} (unheld : ¬ cache.Held id.key (id.wrap value)) :
    ((getAsync id).alone execute cache).1 ≠ .ok (some value) := by
  rw [getAsync_run, Cache.get_value]
  intro returned
  obtain ⟨held, holds, viewed⟩ := Cache.peek_held (Except.ok.inj returned)
  rw [(id.view_eq_some_iff held value).mp viewed] at holds
  exact unheld holds

/-- Calls of one cache over tiers that agree, every access of which lands well: once
all have completed the tiers agree and no read returns a value that was overwritten
or removed in the store; and at no time has a tier such a value that no call is yet
to write again. -/
theorem tiers_settle (initial : Cache Text CacheValue)
    (answers : ∀ key, initial.storeAnswers key = true) (agreed : TiersAgree initial)
    (moves : List (Move (Surroundings Text) PolicyCall))
    (lands : Runs.Along policyCalls.move LandsWell moves (World.idle initial)) :
    (AllCompleted (Runs.run policyCalls.move moves (World.idle initial)) →
        TiersAgree (Runs.run policyCalls.move moves (World.idle initial)).shared ∧
          ∀ id value, Overwritten (Runs.run policyCalls.move moves (World.idle initial))
              id.key (id.wrap value) →
            ((getAsync id).alone execute
              (Runs.run policyCalls.move moves (World.idle initial)).shared).1 ≠ .ok (some value)) ∧
      ∀ key value, Overwritten (Runs.run policyCalls.move moves (World.idle initial)) key value →
        ¬ Pending (Runs.run policyCalls.move moves (World.idle initial)) key value →
          ¬ (Runs.run policyCalls.move moves (World.idle initial)).shared.Held key value := by
  have settled : Settled (Runs.run policyCalls.move moves (World.idle initial)) := by
    refine Settled.run ⟨answers, fun key value live => Or.inl ?_⟩ lands
    rcases agreed key with absent | same
    · cases absent.symm.trans live
    · exact same.symm.trans live
  have current : Current (Runs.run policyCalls.move moves (World.idle initial)) := by
    refine Current.run moves ⟨answers, ?_⟩
    rintro key value _ ⟨earlier, entry, later, split, _⟩
    exact absurd split (by simp [World.idle])
  refine ⟨fun completed => ⟨settled.tiersAgree completed, fun id value overwritten => ?_⟩,
    fun key value overwritten finished => settled.not_held current overwritten finished⟩
  exact getAsync_unheld (settled.not_held current overwritten (not_pending completed))

/-- A process that has just been restarted: the store still has a permission set. -/
def restartedTiers : Cache Text CacheValue where
  now := 0
  memory := fun _ => none
  store := fun key =>
    if key = PolicyCache.permissionKey (Guid.numbered 3) then
      some ⟨.permissions [Guid.numbered 2], oneHour⟩
    else none
  memoryAdmits := fun _ => true
  storeAnswers := fun _ => true

/-- The set is replaced by an empty one. -/
def replacing : PolicyCall := .sets (.permissions (Guid.numbered 3)) ([] : List Guid) ⟨oneHour, oneHour_pos⟩

theorem restartedTiers_agree : TiersAgree restartedTiers := fun _ => Or.inl rfl

/-- A read finds nothing in memory, the write runs to its end, and the read goes on with
what the store has then. -/
def replacement : List (Move (Surroundings Text) PolicyCall) :=
  [.starts (.gets (.permissions (Guid.numbered 3))), .starts replacing, .advances 0, .advances 1,
    .advances 1, .advances 0, .advances 0]

theorem replacement_lands :
    Runs.Along policyCalls.move LandsWell replacement (World.idle restartedTiers) := by
  refine ⟨trivial, trivial, ?_, set_lands rfl, ?_, ?_, ?_, trivial⟩
  · intro origin access next asking
    cases asking
    trivial
  · intro origin access next asking
    cases asking
    intro held live
    have remembered : (Runs.run policyCalls.move (replacement.take 4)
        (World.idle restartedTiers)).shared.inMemory (PolicyCache.permissionKey (Guid.numbered 3)) =
          some (.permissions []) := by
      decide
    exact Or.inl (Option.some.inj (live.symm.trans remembered))
  · intro origin access next asking
    cases asking
    trivial
  · intro origin access next asking
    cases asking
    have stored : (Runs.run policyCalls.move (replacement.take 6)
        (World.idle restartedTiers)).shared.inStore (PolicyCache.permissionKey (Guid.numbered 3)) =
          some (.permissions []) := by
      decide
    exact fun _ => Or.inl stored

/-- The old set is overwritten in the store by the write's second access. -/
theorem replacement_overwrites :
    Overwritten (Runs.run policyCalls.move replacement (World.idle restartedTiers))
      (PolicyCache.permissionKey (Guid.numbered 3)) (.permissions [Guid.numbered 2]) := by
  refine ⟨[(0, .readMemory (PolicyCache.permissionKey (Guid.numbered 3))),
      (1, .cacheMemory (PolicyCache.permissionKey (Guid.numbered 3)) (.permissions []) oneHour)],
    (1, .cacheStore (PolicyCache.permissionKey (Guid.numbered 3)) (.permissions [])
      ⟨oneHour, oneHour_pos⟩),
    [(0, .readStore (PolicyCache.permissionKey (Guid.numbered 3))),
      (0, .cacheMemory (PolicyCache.permissionKey (Guid.numbered 3)) (.permissions []) oneHour)],
    rfl, rfl, fun timeToLive same => ?_, ?_⟩
  · cases same
  · intro other member timeToLive same
    rcases List.mem_pair.mp member with rfl | rfl <;> cases same

/-- With the read under way the tiers agree in the end, on the new set. -/
theorem tiers_settle_replacement :
    TiersAgree (Runs.run policyCalls.move replacement (World.idle restartedTiers)).shared ∧
      ((getAsync (.permissions (Guid.numbered 3))).alone execute
          (Runs.run policyCalls.move replacement (World.idle restartedTiers)).shared).1 ≠
        .ok (some ([Guid.numbered 2] : List Guid)) := by
  obtain ⟨agree, unserved⟩ := (tiers_settle restartedTiers (fun _ => rfl) restartedTiers_agree
    replacement replacement_lands).1 (by decide)
  exact ⟨agree, unserved (.permissions (Guid.numbered 3)) _ replacement_overwrites⟩

/-- A read finds the old set in the store, the write runs to its end, and the read
then copies the old set to memory. -/
def raced : PolicyCalls :=
  Runs.run policyCalls.move
    [.starts (.gets (.permissions (Guid.numbered 3))), .advances 0, .advances 0, .starts replacing,
      .advances 1, .advances 1, .advances 0]
    (World.idle restartedTiers)

/-- The tiers disagree for good, and reads return the set that was overwritten. -/
theorem raced_read_pins_old_set :
    TiersAgree restartedTiers ∧ AllCompleted raced ∧ ¬ TiersAgree raced.shared ∧
      Overwritten raced (PolicyCache.permissionKey (Guid.numbered 3)) (.permissions [Guid.numbered 2]) ∧
        ((getAsync (.permissions (Guid.numbered 3))).alone execute raced.shared).1 =
          .ok (some ([Guid.numbered 2] : List Guid)) := by
  have inMemory : raced.shared.inMemory (PolicyCache.permissionKey (Guid.numbered 3)) =
      some (.permissions [Guid.numbered 2]) := by
    decide
  have inStore : raced.shared.inStore (PolicyCache.permissionKey (Guid.numbered 3)) =
      some (.permissions []) := by
    decide
  refine ⟨restartedTiers_agree, by decide, fun agree => ?_, ?_, ?_⟩
  · rcases agree (PolicyCache.permissionKey (Guid.numbered 3)) with absent | same
    · cases inMemory.symm.trans absent
    · cases (inMemory.symm.trans same).trans inStore
  · refine ⟨[(0, .readMemory (PolicyCache.permissionKey (Guid.numbered 3))),
        (0, .readStore (PolicyCache.permissionKey (Guid.numbered 3))),
        (1, .cacheMemory (PolicyCache.permissionKey (Guid.numbered 3)) (.permissions []) oneHour)],
      (1, .cacheStore (PolicyCache.permissionKey (Guid.numbered 3)) (.permissions [])
        ⟨oneHour, oneHour_pos⟩),
      [(0, .cacheMemory (PolicyCache.permissionKey (Guid.numbered 3)) (.permissions [Guid.numbered 2])
        oneHour)], rfl, rfl, fun timeToLive same => ?_, ?_⟩
    · cases same
    · intro other member timeToLive same
      rw [List.mem_singleton.mp member] at same
      cases same
  · rw [getAsync_run, Cache.get_value, Cache.peek]
    change Except.ok (((raced.shared.inMemory (PolicyCache.permissionKey (Guid.numbered 3))).bind
      CacheValue.asPermissions).or _) = _
    rw [inMemory]
    rfl

end ApiGateway.TierRaces
