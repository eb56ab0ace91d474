import ApiGateway.Library.TwoTier

/-!
# Memory tiers before one store

The members of a fleet have a memory tier each and share the store and the
clock. A member operates on its own view, which is a two-tier cache, and the
fleet adopts the member's memory and the store from it.

A value may be written with a deadline, up to which the store keeps it. In a
dated cache the entries of the store end by the deadline of their value and those
of memory at most one memory lifetime later. A copy into memory is made while the
store's entry is live, so before the deadline; copies cannot be chained, since a
value in memory is never written back to the store.
-/

namespace ApiGateway.SharedStore

open TwoTier

universe u v w x
variable {κ : Type u} {υ : Type v} {α : Type w} {π : Type x}

section Dates

/-- Every entry ends by its value's deadline, in memory one lifetime later. -/
structure Dated (written : κ → υ → Nat → Prop) (lifetime : Nat) (cache : Cache κ υ) : Prop where
  store : ∀ key entry, cache.store key = some entry →
    ∃ deadline, written key entry.value deadline ∧ entry.expiresAt ≤ deadline
  memory : ∀ key entry, cache.memory key = some entry →
    ∃ deadline, written key entry.value deadline ∧ entry.expiresAt ≤ deadline + lifetime

variable {written : κ → υ → Nat → Prop} {lifetime : Nat} {cache : Cache κ υ}

/-- More may have been written. -/
theorem Dated.mono {more : κ → υ → Nat → Prop} (dated : Dated written lifetime cache)
    (added : ∀ key value deadline, written key value deadline → more key value deadline) :
    Dated more lifetime cache where
  store := fun key entry held =>
    let ⟨deadline, wrote, ends⟩ := dated.store key entry held
    ⟨deadline, added key _ deadline wrote, ends⟩
  memory := fun key entry held =>
    let ⟨deadline, wrote, ends⟩ := dated.memory key entry held
    ⟨deadline, added key _ deadline wrote, ends⟩

/-- What a read returns was written with a deadline that ended less than one
memory lifetime ago. -/
theorem Dated.peek {view : υ → Option α} (dated : Dated written lifetime cache) {key : κ}
    {found : α} (peeked : cache.peek view key = some found) :
    ∃ value deadline, view value = some found ∧ written key value deadline ∧
      cache.now < deadline + lifetime := by
  obtain ⟨value, held, viewed⟩ := Cache.peek_held peeked
  refine ⟨value, ?_⟩
  rcases held with inMemory | inStore
  · obtain ⟨entry, present, live⟩ := Option.bind_eq_some_iff.mp inMemory
    obtain ⟨deadline, wrote, ends⟩ := dated.memory key entry present
    obtain ⟨unexpired, rfl⟩ := Entry.live_eq_some_iff.mp live
    exact ⟨deadline, viewed, wrote, by omega⟩
  · obtain ⟨entry, present, live⟩ := Option.bind_eq_some_iff.mp inStore
    obtain ⟨deadline, wrote, ends⟩ := dated.store key entry present
    obtain ⟨unexpired, rfl⟩ := Entry.live_eq_some_iff.mp live
    exact ⟨deadline, viewed, wrote, by omega⟩

variable [DecidableEq κ]

/-- A value may be put into memory up to its deadline. -/
theorem Dated.insertMemory (dated : Dated written lifetime cache) {key : κ} {value : υ}
    {deadline : Nat} (wrote : written key value deadline) (early : cache.now ≤ deadline) :
    Dated written lifetime (cache.insertMemory lifetime key value) where
  store := dated.store
  memory := by
    intro tested entry held
    by_cases same : tested = key
    · subst tested
      simp only [Cache.insertMemory, Function.update_self] at held
      split at held
      · cases held
        exact ⟨deadline, wrote, by dsimp only; omega⟩
      · cases held
    · simp only [Cache.insertMemory, Function.update_of_ne same] at held
      exact dated.memory tested entry held

/-- A value may be stored until its deadline. -/
theorem Dated.insertStore (dated : Dated written lifetime cache) {key : κ} {value : υ}
    {storeLifetime : Nat} (wrote : written key value (cache.now + storeLifetime)) :
    Dated written lifetime (cache.insertStore storeLifetime key value) := by
  unfold Cache.insertStore
  split
  · refine ⟨?_, dated.memory⟩
    intro tested entry held
    by_cases same : tested = key
    · subst tested
      simp only [Function.update_self, Option.some.injEq] at held
      cases held
      exact ⟨_, wrote, Nat.le_refl _⟩
    · simp only [Function.update_of_ne same] at held
      exact dated.store tested entry held
  · exact dated

/-- A read copies a live entry of the store, so before its deadline. -/
theorem Dated.get (dated : Dated written lifetime cache) (view : υ → Option α) (key : κ) :
    Dated written lifetime (cache.get view lifetime key).2 := by
  rcases Cache.get_cache view lifetime key cache with same | ⟨value, _, _, stored, _, copied⟩
  · rw [same]
    exact dated
  · rw [copied]
    obtain ⟨entry, present, live⟩ := Option.bind_eq_some_iff.mp stored
    obtain ⟨deadline, wrote, ends⟩ := dated.store key entry present
    obtain ⟨unexpired, rfl⟩ := Entry.live_eq_some_iff.mp live
    exact dated.insertMemory wrote (by omega)

end Dates

/-- Memory tiers, one store, one clock, and which keys each tier serves. -/
structure Fleet (π : Type x) (κ : Type u) (υ : Type v) where
  now : Nat
  store : κ → Option (Entry υ)
  memory : π → κ → Option (Entry υ)
  memoryAdmits : π → κ → Bool
  storeAnswers : π → κ → Bool

/-- What the surroundings may do to a fleet. -/
structure Weather (π : Type x) (κ : Type u) where
  elapsed : Nat
  keepsStore : κ → Bool
  keepsMemory : π → κ → Bool
  memoryAdmits : π → κ → Bool
  storeAnswers : π → κ → Bool

namespace Fleet

/-- A fleet in which nothing has been written. -/
def vacant : Fleet π κ υ where
  now := 0
  store := fun _ => none
  memory := fun _ _ => none
  memoryAdmits := fun _ _ => true
  storeAnswers := fun _ _ => true

/-- One member's cache. -/
def view (member : π) (fleet : Fleet π κ υ) : Cache κ υ where
  now := fleet.now
  memory := fleet.memory member
  store := fleet.store
  memoryAdmits := fleet.memoryAdmits member
  storeAnswers := fleet.storeAnswers member

/-- The fleet after a member has operated on its cache. -/
def adopt [DecidableEq π] (member : π) (cache : Cache κ υ) (fleet : Fleet π κ υ) : Fleet π κ υ :=
  { fleet with
    store := cache.store
    memory := Function.update fleet.memory member cache.memory }

/-- Time passes, entries are lost, and the keys the tiers serve change. -/
def weather (change : Weather π κ) (fleet : Fleet π κ υ) : Fleet π κ υ where
  now := fleet.now + change.elapsed
  store := fun key => if change.keepsStore key then fleet.store key else none
  memory := fun member key => if change.keepsMemory member key then fleet.memory member key else none
  memoryAdmits := change.memoryAdmits
  storeAnswers := change.storeAnswers

/-- Every member's cache is dated. -/
def Dated (written : κ → υ → Nat → Prop) (lifetime : Nat) (fleet : Fleet π κ υ) : Prop :=
  ∀ member, SharedStore.Dated written lifetime (fleet.view member)

variable {written : κ → υ → Nat → Prop} {lifetime : Nat} {fleet : Fleet π κ υ}

theorem dated_vacant : Dated written lifetime (vacant : Fleet π κ υ) := by
  intro member
  constructor <;> intro key entry held <;> cases held

/-- One member's dated cache leaves the fleet dated. -/
theorem dated_adopt [DecidableEq π] (dated : Dated written lifetime fleet) {member : π}
    {cache : Cache κ υ} (own : SharedStore.Dated written lifetime cache) :
    Dated written lifetime (fleet.adopt member cache) := by
  intro other
  refine ⟨own.store, fun key entry held => ?_⟩
  by_cases same : other = member
  · subst other
    simp only [adopt, view, Function.update_self] at held
    exact own.memory key entry held
  · simp only [adopt, view, Function.update_of_ne same] at held
    exact (dated other).memory key entry held

theorem dated_weather (change : Weather π κ) (dated : Dated written lifetime fleet) :
    Dated written lifetime (fleet.weather change) := by
  intro member
  constructor
  · intro key entry held
    simp only [weather, view] at held
    split at held
    · exact (dated member).store key entry held
    · cases held
  · intro key entry held
    simp only [weather, view] at held
    split at held
    · exact (dated member).memory key entry held
    · cases held

end Fleet

end ApiGateway.SharedStore
