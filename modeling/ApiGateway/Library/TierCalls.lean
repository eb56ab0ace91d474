import ApiGateway.Library.Interleaving
import ApiGateway.Library.TwoTier
import Mathlib.Data.PNat.Basic

/-!
# Concurrent calls of a two-tier cache

Programs share the two tiers of a cache and take turns, one access each. An entry
in memory is settled when the store has the same value, or when some program has
yet to write it there. Three accesses can unsettle a key: an insertion into
memory of a value that the store no longer has, a write to the store behind a
memory entry that differs, and a deletion from the store behind a memory entry.

Where every access lands well every memory entry is settled, so once all programs
have ended the tiers agree. What the store has is always what was written to it
last.
-/

namespace ApiGateway.TierCalls

open Effects TwoTier Interleaving

/-- One access to a tier. The store takes positive lifetimes only. -/
inductive TierAccess (κ υ : Type) where
  | readMemory (key : κ)
  | readStore (key : κ)
  | cacheMemory (key : κ) (value : υ) (lifetime : Nat)
  | cacheStore (key : κ) (value : υ) (timeToLive : ℕ+)
  | removeMemory (key : κ)
  | clearMemory
  | deleteStore (key : κ)
  | scan (page : List κ)

/-- What an access returns. -/
abbrev Answer {κ υ : Type} : TierAccess κ υ → Type
  | .readMemory _ => Option υ
  | .readStore _ => Option υ
  | .scan _ => List κ
  | _ => Unit

/-- The access writes or deletes the key in the store. -/
def TierAccess.Stores {κ υ : Type} (key : κ) : TierAccess κ υ → Prop
  | .cacheStore written _ _ => written = key
  | .deleteStore deleted => deleted = key
  | _ => False

section Accesses

variable {κ υ : Type} [DecidableEq κ]

/-- Remove one key from memory. -/
def removeMemory (key : κ) (cache : Cache κ υ) : Cache κ υ :=
  { cache with memory := Function.update cache.memory key none }

/-- Remove every key from memory. -/
def clearMemory (cache : Cache κ υ) : Cache κ υ := { cache with memory := fun _ => none }

/-- Delete one key from the store; without an answer nothing changes there. -/
def deleteStore (key : κ) (cache : Cache κ υ) : Cache κ υ :=
  { cache with
    store := if cache.storeAnswers key then Function.update cache.store key none else cache.store }

/-- Perform one access. A scan returns those keys of a page that are live in the store. -/
def execute : (access : TierAccess κ υ) → Cache κ υ → Answer access × Cache κ υ
  | .readMemory key, cache => (cache.inMemory key, cache)
  | .readStore key, cache => (cache.fromStore some key, cache)
  | .cacheMemory key value lifetime, cache => ((), cache.insertMemory lifetime key value)
  | .cacheStore key value timeToLive, cache => ((), cache.insertStore timeToLive key value)
  | .removeMemory key, cache => ((), removeMemory key cache)
  | .clearMemory, cache => ((), clearMemory cache)
  | .deleteStore key, cache => ((), deleteStore key cache)
  | .scan page, cache => (page.filter (fun key => (cache.fromStore some key).isSome), cache)

section Effects

variable {cache : Cache κ υ} {key : κ} {value : υ}

theorem execute_answers (access : TierAccess κ υ) (cache : Cache κ υ) :
    (execute access cache).2.storeAnswers = cache.storeAnswers := by
  cases access with
  | cacheStore key value timeToLive => exact Cache.insertStore_answers timeToLive value
  | _ => rfl

/-- What memory has after an access was put there by it or was there before. -/
theorem inMemory_execute {access : TierAccess κ υ}
    (live : (execute access cache).2.inMemory key = some value) :
    (∃ lifetime, access = .cacheMemory key value lifetime ∧ cache.memoryAdmits key = true) ∨
      cache.inMemory key = some value := by
  cases access with
  | cacheMemory tested written lifetime =>
    by_cases same : key = tested
    · subst same
      rcases Cache.insertMemory_self cache key lifetime written with kept | refused
      · obtain rfl := Option.some.inj (kept.symm.trans live)
        refine Or.inl ⟨lifetime, rfl, ?_⟩
        by_contra refuses
        simp [execute, Cache.insertMemory, Cache.inMemory, refuses] at live
      · cases refused.symm.trans live
    · exact Or.inr ((Cache.insertMemory_other lifetime written same).symm.trans live)
  | cacheStore tested written timeToLive =>
    exact Or.inr ((Cache.insertStore_memory timeToLive written key).symm.trans live)
  | removeMemory tested =>
    by_cases same : key = tested
    · subst same
      simp [execute, removeMemory, Cache.inMemory] at live
    · exact Or.inr (by simpa [execute, removeMemory, Cache.inMemory, same] using live)
  | clearMemory => simp [execute, clearMemory, Cache.inMemory] at live
  | _ => exact Or.inr live

/-- What the store has stays there, unless the access writes or deletes its key. -/
theorem inStore_execute (access : TierAccess κ υ) (live : cache.inStore key = some value) :
    (execute access cache).2.inStore key = some value ∨ access = .deleteStore key ∨
      ∃ written timeToLive, access = .cacheStore key written timeToLive := by
  cases access with
  | cacheStore tested written timeToLive =>
    by_cases same : key = tested
    · subst same
      exact Or.inr (Or.inr ⟨written, timeToLive, rfl⟩)
    · exact Or.inl ((Cache.insertStore_other timeToLive written same).trans live)
  | deleteStore tested =>
    by_cases same : key = tested
    · subst same
      exact Or.inr (Or.inl rfl)
    · refine Or.inl (Eq.trans ?_ live)
      simp only [execute, deleteStore, Cache.inStore]
      split
      · rw [Function.update_of_ne same]
      · rfl
  | _ => exact Or.inl live

/-- What the store has after an access was written by it, or was there before and
the access left its key alone. -/
theorem inStore_origin {access : TierAccess κ υ} (answers : cache.storeAnswers key = true)
    (live : (execute access cache).2.inStore key = some value) :
    (∃ timeToLive, access = .cacheStore key value timeToLive) ∨
      (cache.inStore key = some value ∧ ¬ access.Stores key) := by
  cases access with
  | cacheStore tested written timeToLive =>
    by_cases same : key = tested
    · subst same
      have stored : some written = some value := by
        simpa [execute, Cache.insertStore, Cache.inStore, answers, Entry.live] using live
      obtain rfl := Option.some.inj stored
      exact Or.inl ⟨timeToLive, rfl⟩
    · exact Or.inr ⟨(Cache.insertStore_other timeToLive written same).symm.trans live, Ne.symm same⟩
  | deleteStore tested =>
    by_cases same : key = tested
    · subst same
      simp [execute, deleteStore, Cache.inStore, answers] at live
    · refine Or.inr ⟨Eq.trans ?_ live, Ne.symm same⟩
      simp only [execute, deleteStore, Cache.inStore]
      split
      · rw [Function.update_of_ne same]
      · rfl
  | _ => exact Or.inr ⟨live, id⟩

/-- A store that answers has what is written to it. -/
theorem inStore_written (answers : cache.storeAnswers key = true) (timeToLive : ℕ+) :
    (execute (.cacheStore key value timeToLive) cache).2.inStore key = some value := by
  simp [execute, Cache.insertStore, Cache.inStore, answers, Entry.live]

end Effects

/-- What may happen around the programs; the store goes on answering. -/
structure Surroundings (κ : Type) where
  change : Cache.Decay κ
  answers : ∀ key, change.storeAnswers key = true

end Accesses

section Worlds

variable {κ υ ε α Actor : Type} [DecidableEq κ]

/-- Programs over the tiers under way. -/
abbrev TierWorld (κ υ ε α : Type) : Type := World (TierAccess κ υ) Answer ε α (Cache κ υ)

/-- Actors whose programs share the tiers. -/
def tiers (launch : Actor → Program (TierAccess κ υ) Answer ε α) :
    System (TierAccess κ υ) Answer ε α (Cache κ υ) (Surroundings κ) Actor where
  execute := execute
  alter := fun surroundings cache => Cache.decay surroundings.change cache
  launch := fun actor _ => launch actor

/-- A program has yet to write the value to the store. -/
def YetToStore (key : κ) (value : υ) (program : Program (TierAccess κ υ) Answer ε α) : Prop :=
  program.Passes (fun _ _ => True) (fun access => ∃ timeToLive, access = .cacheStore key value timeToLive)

/-- Some program has yet to write the value to the store. -/
def Pending (calls : TierWorld κ υ ε α) (key : κ) (value : υ) : Prop :=
  ∃ (index : Nat) (thread : Thread (TierAccess κ υ) Answer ε α (Cache κ υ)),
    calls.threads[index]? = some thread ∧ YetToStore key value thread.left

/-- Some other program has. -/
def PendingElsewhere (calls : TierWorld κ υ ε α) (index : Nat) (key : κ) (value : υ) : Prop :=
  ∃ (other : Nat) (thread : Thread (TierAccess κ υ) Answer ε α (Cache κ υ)),
    other ≠ index ∧ calls.threads[other]? = some thread ∧ YetToStore key value thread.left

/-- Every memory entry is in the store, or some program has yet to write it there. -/
structure Settled (calls : TierWorld κ υ ε α) : Prop where
  answers : ∀ key, calls.shared.storeAnswers key = true
  agrees : ∀ key value, calls.shared.inMemory key = some value →
    calls.shared.inStore key = some value ∨ Pending calls key value

/-- An access leaves the entry of its key settled. What enters memory is in the
store or yet to be written there; a write to the store or a deletion from it finds
no other value in memory than one that is yet to be written. -/
def Lands (calls : TierWorld κ υ ε α) (index : Nat) : TierAccess κ υ → Prop
  | .cacheMemory key value _ => calls.shared.memoryAdmits key = true →
      calls.shared.inStore key = some value ∨ Pending calls key value
  | .cacheStore key value _ => ∀ held, calls.shared.inMemory key = some held →
      held = value ∨ PendingElsewhere calls index key held
  | .deleteStore key => ∀ held, calls.shared.inMemory key = some held →
      Pending calls key held
  | _ => True

/-- A move by which every access lands well, and the store loses nothing that
memory keeps. -/
def LandsWell (calls : TierWorld κ υ ε α) : Move (Surroundings κ) Actor → Prop
  | .changes surroundings => ∀ key value,
      (Cache.decay surroundings.change calls.shared).inMemory key = some value →
        calls.shared.inStore key = some value →
          (Cache.decay surroundings.change calls.shared).inStore key = some value
  | .starts _ => True
  | .advances index => ∀ origin access next,
      calls.threads[index]? = some ⟨origin, .ask access next⟩ → Lands calls index access

/-- All programs have ended. -/
def AllCompleted (calls : TierWorld κ υ ε α) : Prop :=
  ∀ thread ∈ calls.threads, ∃ ending, thread.left = .done ending

instance : DecidablePred (AllCompleted (κ := κ) (υ := υ) (ε := ε) (α := α)) := fun calls =>
  inferInstanceAs (Decidable (∀ thread ∈ calls.threads, ∃ ending, thread.left = .done ending))

/-- Memory has nothing for a key, or what the store has. -/
def TiersAgree (cache : Cache κ υ) : Prop :=
  ∀ key, cache.inMemory key = none ∨ cache.inMemory key = cache.inStore key

section Pending

variable {calls : TierWorld κ υ ε α} {key : κ} {value : υ}

omit [DecidableEq κ] in
/-- Once all programs have ended nothing is pending. -/
theorem not_pending (completed : AllCompleted calls) : ¬ Pending calls key value := by
  rintro ⟨index, thread, found, yet⟩
  obtain ⟨ending, done⟩ := completed thread (List.mem_of_getElem? found)
  rw [done] at yet
  exact yet

omit [DecidableEq κ] in
/-- Where everything is settled and all programs have ended, the tiers agree. -/
theorem Settled.tiersAgree (settled : Settled calls) (completed : AllCompleted calls) :
    TiersAgree calls.shared := by
  intro key
  cases live : calls.shared.inMemory key with
  | none => exact Or.inl rfl
  | some value =>
    have same := (settled.agrees key value live).resolve_right (not_pending completed)
    exact Or.inr same.symm

variable {index : Nat} {origin : Cache κ υ} {access : TierAccess κ υ}
  {next : Answer access → Program (TierAccess κ υ) Answer ε α}

/-- What other programs have yet to write stays pending while one performs its access. -/
theorem PendingElsewhere.performs (elsewhere : PendingElsewhere calls index key value) :
    Pending (calls.performs execute index origin access next) key value := by
  obtain ⟨other, thread, distinct, found, yet⟩ := elsewhere
  exact ⟨other, thread, (List.getElem?_set_ne (Ne.symm distinct)).trans found, yet⟩

/-- What is pending stays so, unless the access performed writes it to the store. -/
theorem Pending.performs (asking : calls.threads[index]? = some ⟨origin, .ask access next⟩)
    (pending : Pending calls key value) :
    Pending (calls.performs execute index origin access next) key value ∨
      ∃ timeToLive, access = .cacheStore key value timeToLive := by
  obtain ⟨other, thread, found, yet⟩ := pending
  by_cases same : other = index
  · subst other
    obtain rfl := Option.some.inj (found.symm.trans asking)
    rcases yet with written | later
    · exact Or.inr written
    · have present : index < calls.threads.length := (List.getElem?_eq_some_iff.mp asking).1
      exact Or.inl ⟨index, _, List.getElem?_set_self present, later _ trivial⟩
  · exact Or.inl (PendingElsewhere.performs ⟨other, thread, same, found, yet⟩)

end Pending

section Settling

variable {calls : TierWorld κ υ ε α}

/-- An access that lands well leaves every memory entry settled. -/
theorem Settled.performs {index : Nat} {origin : Cache κ υ} {access : TierAccess κ υ}
    {next : Answer access → Program (TierAccess κ υ) Answer ε α} (settled : Settled calls)
    (asking : calls.threads[index]? = some ⟨origin, .ask access next⟩)
    (lands : Lands calls index access) :
    Settled (calls.performs execute index origin access next) := by
  have still : ∀ {key value}, (∀ timeToLive, access ≠ .cacheStore key value timeToLive) →
      Pending calls key value → Pending (calls.performs execute index origin access next) key value :=
    fun unwritten pending =>
      (pending.performs asking).resolve_right (fun written => written.elim unwritten)
  constructor
  · intro key
    rw [World.performs, execute_answers]
    exact settled.answers key
  · intro key value live
    rcases inMemory_execute live with ⟨lifetime, rfl, admits⟩ | before
    · exact (lands admits).imp id (still (fun _ => by simp))
    · rcases settled.agrees key value before with stored | pending
      · rcases inStore_execute access stored with kept | rfl | ⟨written, timeToLive, rfl⟩
        · exact Or.inl kept
        · exact Or.inr (still (fun _ => by simp) (lands value before))
        · rcases lands value before with rfl | elsewhere
          · exact Or.inl (inStore_written (settled.answers key) timeToLive)
          · exact Or.inr elsewhere.performs
      · rcases pending.performs asking with after | ⟨timeToLive, rfl⟩
        · exact Or.inr after
        · exact Or.inl (inStore_written (settled.answers key) timeToLive)

variable {launch : Actor → Program (TierAccess κ υ) Answer ε α}

/-- A program that is started leaves what is pending so. -/
theorem Pending.starts {key : κ} {value : υ} (actor : Actor) (pending : Pending calls key value) :
    Pending ((tiers launch).move (.starts actor) calls) key value := by
  obtain ⟨index, thread, found, yet⟩ := pending
  have present : index < calls.threads.length := (List.getElem?_eq_some_iff.mp found).1
  exact ⟨index, thread, (List.getElem?_append_left present).trans found, yet⟩

/-- Moves by which every access lands well leave every memory entry settled. -/
theorem Settled.move {move : Move (Surroundings κ) Actor} (settled : Settled calls)
    (lands : LandsWell calls move) : Settled ((tiers launch).move move calls) := by
  cases move with
  | changes surroundings =>
    refine ⟨surroundings.answers, fun key value live => ?_⟩
    exact (settled.agrees key value (Cache.inMemory_decay live)).imp (lands key value live) id
  | starts actor =>
    exact ⟨settled.answers, fun key value live =>
      (settled.agrees key value live).imp id (Pending.starts actor)⟩
  | advances index =>
    rcases move_advances (tiers launch) calls index with
      ⟨origin, access, next, asking, moved⟩ | idle
    · rw [moved]
      exact settled.performs asking (lands origin access next asking)
    · rw [idle]
      exact settled

/-- So do runs of such moves. -/
theorem Settled.run {moves : List (Move (Surroundings κ) Actor)} (settled : Settled calls)
    (along : Runs.Along (tiers launch).move LandsWell moves calls) :
    Settled (Runs.run (tiers launch).move moves calls) :=
  Runs.invariant_run (fun _ _ reached lands => Settled.move reached lands) along settled

end Settling

section Overwriting

/-- Some access wrote another value under the key to the store, or deleted it there,
and the value has not been written there since. -/
def Overwritten (calls : TierWorld κ υ ε α) (key : κ) (value : υ) : Prop :=
  ∃ earlier entry later, calls.log = earlier ++ entry :: later ∧ entry.2.Stores key ∧
    (∀ timeToLive, entry.2 ≠ .cacheStore key value timeToLive) ∧
      ∀ other ∈ later, ∀ timeToLive, other.2 ≠ .cacheStore key value timeToLive

/-- The store has nothing that has been overwritten. -/
structure Current (calls : TierWorld κ υ ε α) : Prop where
  answers : ∀ key, calls.shared.storeAnswers key = true
  kept : ∀ key value, calls.shared.inStore key = some value → ¬ Overwritten calls key value

variable {calls : TierWorld κ υ ε α} {launch : Actor → Program (TierAccess κ υ) Answer ε α}

/-- A value is overwritten by the access just performed, or was before and the
access did not write it again. -/
theorem Overwritten.performs {index : Nat} {origin : Cache κ υ} {access : TierAccess κ υ}
    {next : Answer access → Program (TierAccess κ υ) Answer ε α} {key : κ} {value : υ}
    (overwritten : Overwritten (calls.performs execute index origin access next) key value) :
    (∀ timeToLive, access ≠ .cacheStore key value timeToLive) ∧
      (access.Stores key ∨ Overwritten calls key value) := by
  obtain ⟨earlier, entry, later, split, stores, differs, never⟩ := overwritten
  rcases List.eq_nil_or_concat later with rfl | ⟨before, last, rfl⟩
  · obtain ⟨_, same⟩ := List.append_inj' split rfl
    obtain rfl := (List.cons.inj same).1
    exact ⟨differs, Or.inl stores⟩
  · rw [List.concat_eq_append] at split never
    rw [← List.cons_append, ← List.append_assoc] at split
    obtain ⟨former, same⟩ := List.append_inj' split rfl
    obtain rfl := (List.cons.inj same).1
    exact ⟨never (index, access) (by simp), Or.inr ⟨earlier, entry, before, former, stores, differs,
      fun other member => never other (by simp [member])⟩⟩

theorem Current.move (move : Move (Surroundings κ) Actor) (current : Current calls) :
    Current ((tiers launch).move move calls) := by
  cases move with
  | changes surroundings =>
    exact ⟨surroundings.answers, fun key value live =>
      current.kept key value (Cache.inStore_decay live)⟩
  | starts actor => exact ⟨current.answers, current.kept⟩
  | advances index =>
    rcases move_advances (tiers launch) calls index with ⟨origin, access, next, _, moved⟩ | idle
    · rw [moved]
      constructor
      · intro key
        rw [World.performs, tiers, execute_answers]
        exact current.answers key
      · intro key value live overwritten
        obtain ⟨unwritten, replaced⟩ := overwritten.performs
        rcases inStore_origin (current.answers key) live with ⟨timeToLive, rfl⟩ | ⟨before, apart⟩
        · exact unwritten timeToLive rfl
        · exact current.kept key value before (replaced.resolve_left apart)
    · rw [idle]
      exact current

/-- In no run does the store have what has been overwritten. -/
theorem Current.run (moves : List (Move (Surroundings κ) Actor)) (current : Current calls) :
    Current (Runs.run (tiers launch).move moves calls) :=
  Runs.invariant_run (fun _ move reached _ => Current.move move reached)
    (Runs.along_of_forall (fun _ _ => trivial) moves calls) current

omit [DecidableEq κ] in
/-- Where everything is settled, no tier has what has been overwritten and is not
yet to be written again. -/
theorem Settled.not_held {key : κ} {value : υ} (settled : Settled calls) (current : Current calls)
    (overwritten : Overwritten calls key value) (finished : ¬ Pending calls key value) :
    ¬ calls.shared.Held key value := by
  rintro (inMemory | inStore)
  · rcases settled.agrees key value inMemory with stored | pending
    · exact current.kept key value stored overwritten
    · exact finished pending
  · exact current.kept key value inStore overwritten

end Overwriting

end Worlds

end ApiGateway.TierCalls
