import ApiGateway.Library.TwoTier

/-!
# Entries on their way out

When the values that may be written change, the entries written before are not
taken back. They are gone once their lifetimes are over. A cache is fading towards
a property if every entry without it ends by a known instant, of its own for each
tier. From that instant on the tier holds values with the property only.
-/

namespace ApiGateway.TwoTier.Cache

universe u v
variable {κ : Type u} {υ : Type v}

/-- Entries whose values lack a property end by an instant. -/
def Fades (property : κ → υ → Prop) (slots : κ → Option (Entry υ)) (deadline : Nat) : Prop :=
  ∀ key entry, slots key = some entry → property key entry.value ∨ entry.expiresAt ≤ deadline

/-- Both tiers fade, each by its own instant. -/
structure Fading (property : κ → υ → Prop) (memoryUntil storeUntil : Nat) (cache : Cache κ υ) : Prop where
  memory : Fades property cache.memory memoryUntil
  store : Fades property cache.store storeUntil

variable {property : κ → υ → Prop} {slots : κ → Option (Entry υ)} {memoryUntil storeUntil : Nat}
  {cache : Cache κ υ}

theorem Fades.mono {more : κ → υ → Prop} {later : Nat} (fades : Fades property slots memoryUntil)
    (implies : ∀ key value, property key value → more key value) (longer : memoryUntil ≤ later) :
    Fades more slots later :=
  fun key entry present =>
    (fades key entry present).imp (implies key entry.value) (fun ends => Nat.le_trans ends longer)

theorem Fading.mono {more : κ → υ → Prop} {laterMemory laterStore : Nat}
    (fading : cache.Fading property memoryUntil storeUntil)
    (implies : ∀ key value, property key value → more key value)
    (memoryLonger : memoryUntil ≤ laterMemory) (storeLonger : storeUntil ≤ laterStore) :
    cache.Fading more laterMemory laterStore :=
  ⟨fading.memory.mono implies memoryLonger, fading.store.mono implies storeLonger⟩

/-- Slots that have faded have live values with the property only. -/
theorem Fades.live {deadline now : Nat} (fades : Fades property slots deadline) (past : deadline ≤ now)
    {key : κ} {value : υ} (live : (slots key).bind (Entry.live now) = some value) :
    property key value := by
  obtain ⟨entry, present, unexpired⟩ := Option.bind_eq_some_iff.mp live
  obtain ⟨before, rfl⟩ := Entry.live_eq_some_iff.mp unexpired
  exact (fades key entry present).resolve_right (by omega)

theorem Fading.inMemory (fading : cache.Fading property memoryUntil storeUntil)
    (past : memoryUntil ≤ cache.now) {key : κ} {value : υ} (live : cache.inMemory key = some value) :
    property key value :=
  fading.memory.live past live

theorem Fading.inStore (fading : cache.Fading property memoryUntil storeUntil)
    (past : storeUntil ≤ cache.now) {key : κ} {value : υ} (live : cache.inStore key = some value) :
    property key value :=
  fading.store.live past live

variable [DecidableEq κ] {key tested : κ} {value held : υ} {lifetime : Nat}

/-- What memory has after an insertion it had before, or it is what was inserted. -/
theorem inMemory_insertMemory
    (live : (insertMemory lifetime key value cache).inMemory tested = some held) :
    (tested = key ∧ held = value) ∨ cache.inMemory tested = some held := by
  by_cases same : tested = key
  · subst tested
    rcases insertMemory_self cache key lifetime value with kept | refused
    · exact Or.inl ⟨rfl, (Option.some.inj (kept.symm.trans live)).symm⟩
    · cases refused.symm.trans live
  · rw [insertMemory_other lifetime value same] at live
    exact Or.inr live

theorem inStore_insertStore
    (live : (insertStore lifetime key value cache).inStore tested = some held) :
    (tested = key ∧ held = value) ∨ cache.inStore tested = some held := by
  by_cases same : tested = key
  · subst tested
    rcases insertStore_self cache key lifetime value with kept | gone | ⟨_, unchanged⟩
    · exact Or.inl ⟨rfl, (Option.some.inj (kept.symm.trans live)).symm⟩
    · cases gone.symm.trans live
    · exact Or.inr (unchanged.symm.trans live)
  · rw [insertStore_other lifetime value same] at live
    exact Or.inr live

end ApiGateway.TwoTier.Cache
