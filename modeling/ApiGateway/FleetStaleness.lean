import ApiGateway.CacheCoherence
import ApiGateway.Library.SharedStore

/-!
# How long a value can outlive its write

Several gateway processes share one store. A read may copy a value from the
store into its process's memory for another hour, at the end of the store's own
lifetime of the value, in every process independently. So a value can be read
for its lifetime in the store and one hour more, and no longer: what is in memory
is not written back.
-/

namespace ApiGateway.PolicyCache

open Effects TwoTier SharedStore

variable {Process : Type} [DecidableEq Process]

/-- The processes' caches. -/
abbrev GatewayFleet (Process : Type) := Fleet Process Text CacheValue

/-- Run a cache operation of one process, which uses nothing but the cache. -/
def operateIn {α : Type} (process : Process) (task : Task Gateway α) (fleet : GatewayFleet Process) :
    Except Fault α × GatewayFleet Process :=
  let ended := task { Gateway.started Database.vacant with cache := fleet.view process }
  (ended.1, fleet.adopt process ended.2.cache)

/-- A process reads or writes, or the surroundings change. -/
inductive FleetStep (Process : Type) where
  | gets (process : Process) (id : LogicalId)
  | sets (process : Process) (id : LogicalId) (value : id.Family) (timeToLive : Int)
  | surroundingsChange (change : Weather Process Text)

/-- Perform one step. -/
def performInFleet : FleetStep Process → GatewayFleet Process → GatewayFleet Process
  | .gets process id, fleet => (operateIn process (getAsync id) fleet).2
  | .sets process id value timeToLive, fleet =>
      (operateIn process (setFor id value timeToLive) fleet).2
  | .surroundingsChange change, fleet => fleet.weather change

/-- Some process wrote the value under the key, at a time and for a lifetime that
end at the deadline. -/
def WrittenUntil (steps : List (FleetStep Process)) (initial : GatewayFleet Process) (key : Text)
    (value : CacheValue) (deadline : Nat) : Prop :=
  ∃ earlier process id written timeToLive later,
    steps = earlier ++ .sets process id written timeToLive :: later ∧
      key = id.key ∧ value = id.wrap written ∧
      deadline = (Runs.run performInFleet earlier initial).now + timeToLive.toNat

section Runs

variable {initial : GatewayFleet Process}

/-- What was written before a step was written before the next one. -/
theorem WrittenUntil.extend {steps : List (FleetStep Process)} {key : Text} {value : CacheValue}
    {deadline : Nat} (written : WrittenUntil steps initial key value deadline)
    (last : FleetStep Process) : WrittenUntil (steps ++ [last]) initial key value deadline := by
  obtain ⟨earlier, process, id, value, timeToLive, later, rfl, rest⟩ := written
  exact ⟨earlier, process, id, value, timeToLive, later ++ [last], by simp, rest⟩

/-- Every run leaves all caches dated by the writes of the run. -/
theorem dated_run (steps : List (FleetStep Process)) :
    (Runs.run performInFleet steps (Fleet.vacant : GatewayFleet Process)).Dated
      (WrittenUntil steps Fleet.vacant) oneHour := by
  induction steps using List.reverseRecOn with
  | nil => exact Fleet.dated_vacant
  | append_singleton steps last dated =>
    rw [Runs.run_concat]
    have before : (Runs.run performInFleet steps (Fleet.vacant : GatewayFleet Process)).Dated
        (WrittenUntil (steps ++ [last]) Fleet.vacant) oneHour :=
      fun member => (dated member).mono (fun _ _ _ written => written.extend last)
    cases last with
    | gets process id =>
      apply Fleet.dated_adopt before
      rw [getAsync_eq_read]
      exact (before process).get id.view id.key
    | sets process id value timeToLive =>
      have written : WrittenUntil (steps ++ [.sets process id value timeToLive]) Fleet.vacant id.key
          (id.wrap value) ((Runs.run performInFleet steps Fleet.vacant).now + timeToLive.toNat) :=
        ⟨steps, process, id, value, timeToLive, [], rfl, rfl, rfl, rfl⟩
      have remembered := (before process).insertMemory written (Nat.le_add_right _ _)
      apply Fleet.dated_adopt before
      rw [setFor]
      split
      · rw [setAsync_eq_write]
        exact remembered.insertStore written
      · exact remembered
    | surroundingsChange change => exact Fleet.dated_weather change before

/-- Time does not run backwards. -/
theorem now_monotone (former latter : List (FleetStep Process)) (fleet : GatewayFleet Process) :
    (Runs.run performInFleet former fleet).now ≤
      (Runs.run performInFleet (former ++ latter) fleet).now := by
  induction latter using List.reverseRecOn with
  | nil => simp
  | append_singleton latter last grows =>
    rw [← List.append_assoc, Runs.run_concat]
    apply grows.trans
    cases last with
    | gets process id => exact Nat.le_refl _
    | sets process id value timeToLive => exact Nat.le_refl _
    | surroundingsChange change => exact Nat.le_add_right _ _

/-- Some process wrote the value at a time no later than now, and less than the
lifetime it gave and one hour has passed since. -/
def WrittenRecently (steps : List (FleetStep Process)) (id : LogicalId) (value : id.Family) : Prop :=
  ∃ earlier process timeToLive later,
    steps = earlier ++ .sets process id value timeToLive :: later ∧
      (Runs.run performInFleet earlier (Fleet.vacant : GatewayFleet Process)).now ≤
        (Runs.run performInFleet steps (Fleet.vacant : GatewayFleet Process)).now ∧
      ((Runs.run performInFleet steps (Fleet.vacant : GatewayFleet Process)).now : Int) <
        (Runs.run performInFleet earlier (Fleet.vacant : GatewayFleet Process)).now +
          max timeToLive 0 + oneHour

/-- After every run a read in any process returns nothing, or a value that some
process wrote under the id so recently. -/
theorem staleness_bounded (steps : List (FleetStep Process)) (process : Process) (id : LogicalId) :
    (operateIn process (getAsync id) (Runs.run performInFleet steps Fleet.vacant)).1 = .ok none ∨
      ∃ value, (operateIn process (getAsync id)
          (Runs.run performInFleet steps Fleet.vacant)).1 = .ok (some value) ∧
        WrittenRecently steps id value := by
  have answer : (operateIn process (getAsync id) (Runs.run performInFleet steps Fleet.vacant)).1 =
      .ok (((Runs.run performInFleet steps Fleet.vacant).view process).peek id.view id.key) := by
    rw [operateIn, getAsync_eq_read, read_run]
  rw [answer]
  cases peeked : ((Runs.run performInFleet steps Fleet.vacant).view process).peek id.view id.key with
  | none => exact Or.inl rfl
  | some found =>
    refine Or.inr ⟨found, rfl, ?_⟩
    obtain ⟨value, deadline, viewed, written, recent⟩ := (dated_run steps process).peek peeked
    obtain ⟨earlier, setter, other, wrote, timeToLive, later, split, keyed, rfl, rfl⟩ := written
    obtain rfl := LogicalId.key_injective keyed
    have same : wrote = found :=
      Option.some.inj (((id.view_eq_some_iff _ wrote).mpr rfl).symm.trans viewed)
    subst same
    refine ⟨earlier, setter, timeToLive, later, split, ?_, ?_⟩
    · rw [split]
      exact now_monotone earlier _ _
    · have bound : (Runs.run performInFleet steps (Fleet.vacant : GatewayFleet Process)).now <
          (Runs.run performInFleet earlier (Fleet.vacant : GatewayFleet Process)).now +
            timeToLive.toNat + oneHour := recent
      omega

end Runs

end ApiGateway.PolicyCache
