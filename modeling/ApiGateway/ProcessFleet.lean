import ApiGateway.CallGuarantees
import ApiGateway.FleetStaleness
import ApiGateway.Library.Members

/-!
# Gateway processes over one store

Several processes serve the same registry. Each has a memory tier, a snapshot and a
configuration of its own, and they share the database, the store and the clock. The
store outlives a process: one that starts anew finds in the store what any process
has left there.

The requests, refreshes and cycles of all processes take turns. Whatever discipline
the calls of one process keep to, the calls of all of them do.
-/

namespace ApiGateway.Concurrent

open TwoTier Interleaving SharedStore

variable {Process : Type}

/-- The processes and what they share. -/
structure Gateways (Process : Type) where
  database : Database
  repositoryFault : Process → RepositoryCall → Option Fault
  caches : PolicyCache.GatewayFleet Process
  policySnapshot : Process → Dictionary Text EndpointPolicy
  provider : Process → Provider

namespace Gateways

/-- Every process has just started, over an empty store. -/
def started (database : Database) : Gateways Process where
  database := database
  repositoryFault := fun _ _ => none
  caches := Fleet.vacant
  policySnapshot := fun _ => Dictionary.empty
  provider := fun _ => (Gateway.started database).provider

/-- One process. -/
def view (process : Process) (gateways : Gateways Process) : Gateway where
  database := gateways.database
  repositoryFault := gateways.repositoryFault process
  cache := gateways.caches.view process
  policySnapshot := gateways.policySnapshot process
  provider := gateways.provider process

variable [DecidableEq Process]

/-- The processes after one of them has acted. -/
def adopt (process : Process) (gateway : Gateway) (gateways : Gateways Process) : Gateways Process :=
  { gateways with
    caches := gateways.caches.adopt process gateway.cache
    policySnapshot := Function.update gateways.policySnapshot process gateway.policySnapshot
    provider := Function.update gateways.provider process gateway.provider }

/-- What changes around the processes. -/
inductive Change (Process : Type) where
  | database (content : Database)
  | repositories (process : Process) (fault : RepositoryCall → Option Fault)
  | tiers (change : Weather Process Text)
  | restarts (process : Process)

/-- Make one change. A process that starts anew has lost its memory, its snapshot
and its configuration. -/
def alter : Change Process → Gateways Process → Gateways Process
  | .database content, gateways => { gateways with database := content }
  | .repositories process fault, gateways =>
      { gateways with repositoryFault := Function.update gateways.repositoryFault process fault }
  | .tiers change, gateways => { gateways with caches := gateways.caches.weather change }
  | .restarts process, gateways =>
      { gateways with
        caches :=
          { gateways.caches with
            memory := Function.update gateways.caches.memory process (fun _ => none) }
        policySnapshot := Function.update gateways.policySnapshot process Dictionary.empty
        provider := Function.update gateways.provider process
          (Gateway.started gateways.database).provider }

end Gateways

variable [DecidableEq Process]

/-- The calls of all processes. -/
def processes (platform : Platform) : System (Process × Action) (fun action => Answer action.2)
    Fault Outcome (Gateways Process) (Gateways.Change Process) (Process × Actor) :=
  (process platform).atMembers Gateways.view Gateways.adopt Gateways.alter

/-- The calls of the processes under way. -/
abbrev FleetCalls (Process : Type) : Type :=
  World (Process × Action) (fun action => Answer action.2) Fault Outcome (Gateways Process)

/-- The calls of the processes after some moves from their start. -/
abbrev fleetReached (platform : Platform) (database : Database)
    (moves : List (Move (Gateways.Change Process) (Process × Actor))) : FleetCalls Process :=
  Runs.run (processes platform).move moves (World.idle (Gateways.started database))

/-- No access moves the clock. -/
theorem execute_now (action : Action) (gateway : Gateway) :
    (execute action gateway).2.cache.now = gateway.cache.now := by
  cases action with
  | cacheStore key value timeToLive => exact Cache.insertStore_now ..
  | _ => rfl

namespace Discipline

variable {discipline : Discipline} {gateways : Gateways Process}

/-- What one process leaves in the store all of them find, and its memory and snapshot
are its own. -/
theorem fits_adopt (fits : ∀ each, discipline.Fits (gateways.view each)) {acting : Process}
    {gateway : Gateway} (own : discipline.Fits gateway)
    (time : gateway.cache.now = gateways.caches.now) (other : Process) :
    discipline.Fits ((gateways.adopt acting gateway).view other) where
  memory := by
    intro key value live
    by_cases same : other = acting
    · subst other
      apply own.memory key value
      rw [Cache.inMemory, time]
      simpa [Gateways.adopt, Gateways.view, Fleet.adopt, Fleet.view, Cache.inMemory] using live
    · apply (fits other).memory key value
      simpa [Gateways.adopt, Gateways.view, Fleet.adopt, Fleet.view, Cache.inMemory, same] using live
  store := by
    intro key value live
    apply own.store key value
    rw [Cache.inStore, time]
    exact live
  snapshot := by
    intro routeKey
    by_cases same : other = acting
    · subst other
      simpa [Gateways.adopt, Gateways.view] using own.snapshot routeKey
    · simpa [Gateways.adopt, Gateways.view, same] using (fits other).snapshot routeKey

/-- No change of the surroundings puts anything into a tier; a process that starts
anew has an empty snapshot. -/
theorem fits_alter (vacant : ∀ routeKey, discipline.Lookup routeKey none)
    (change : Gateways.Change Process) (fits : ∀ each, discipline.Fits (gateways.view each))
    (each : Process) : discipline.Fits ((Gateways.alter change gateways).view each) := by
  cases change with
  | database content => exact ⟨(fits each).memory, (fits each).store, (fits each).snapshot⟩
  | repositories process fault =>
    exact ⟨(fits each).memory, (fits each).store, (fits each).snapshot⟩
  | tiers change =>
    let decay : Cache.Decay Text := ⟨change.elapsed, change.keepsMemory each, change.keepsStore,
      change.memoryAdmits each, change.storeAnswers each⟩
    have remembered : ∀ key value,
        (Cache.decay decay (gateways.view each).cache).inMemory key = some value →
          (gateways.view each).cache.inMemory key = some value := fun _ _ => Cache.inMemory_decay
    have stored : ∀ key value,
        (Cache.decay decay (gateways.view each).cache).inStore key = some value →
          (gateways.view each).cache.inStore key = some value := fun _ _ => Cache.inStore_decay
    exact ⟨fun key value live => (fits each).memory key value (remembered key value live),
      fun key value live => (fits each).store key value (stored key value live),
      (fits each).snapshot⟩
  | restarts process =>
    by_cases same : each = process
    · subst each
      refine ⟨fun key value live => ?_, (fits process).store, fun routeKey => ?_⟩
      · simp [Gateways.alter, Gateways.view, Fleet.view, Cache.inMemory] at live
      · simpa [Gateways.alter, Gateways.view] using vacant routeKey
    · refine ⟨fun key value live => (fits each).memory key value ?_, (fits each).store,
        fun routeKey => ?_⟩
      · simpa [Gateways.alter, Gateways.view, Fleet.view, Cache.inMemory, same] using live
      · simpa [Gateways.alter, Gateways.view, same] using (fits each).snapshot routeKey

variable (Process) in
/-- As long as the database holds rows that may be returned, the calls of all processes
keep their tiers and snapshots to the discipline and read nothing else. -/
theorem fleetContract (discipline : Discipline) (vacant : ∀ routeKey, discipline.Lookup routeKey none) :
    Contract (@processes Process _ discipline.platform)
      (fun gateways => ∀ each, discipline.Steady (gateways.view each))
      (fun _ _ => Process → True) (fun gateways => ∀ each, discipline.Fits (gateways.view each))
      (fun _ action => discipline.Answers action.2) (fun _ action => discipline.Permits action.2) :=
  discipline.contract.atMembers
    (fun acting other action gateways fits own =>
      fits_adopt fits own (execute_now action (gateways.view acting)) other)
    (fun change _ fits each => fits_alter vacant change fits each)

omit [DecidableEq Process] in
/-- Processes at their start keep to a discipline that allows an empty snapshot. -/
theorem fits_fleetStarted (vacant : ∀ routeKey, discipline.Lookup routeKey none) (database : Database)
    (each : Process) : discipline.Fits ((Gateways.started database).view each) where
  memory := fun _ _ live => nomatch live
  store := fun _ _ live => nomatch live
  snapshot := vacant

end Discipline

end ApiGateway.Concurrent
