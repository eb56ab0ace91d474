import ApiGateway.Library.Dictionary
import Mathlib.Data.List.Induction
import Mathlib.Logic.Function.Basic

/-!
# Two-tier expiring caches

A memory tier stands in front of a shared store. Both keep a value with the
instant at which it expires; a value is live strictly before that instant.
Reads prefer the memory tier and copy a value found in the store back into it.
Writes go to both tiers.

The tiers are unreliable in two ways, each given for every key: the memory tier
may refuse an insertion, which also drops the entry it would have replaced, and
the store may fail to answer, which a read treats as an absent value and a
write ignores. Reads see a value through a view, which is undefined on values
of another kind.

`peek` is what a read returns. `Held` is what some tier still has, whether or
not the store answers. A property of held values is kept by reads, by the
passage of time and by losing entries, and is established by writes.
-/

namespace ApiGateway.TwoTier

universe u v w
variable {κ : Type u} {υ : Type v} {α : Type w}

/-- A stored value and the first instant at which it is gone. -/
structure Entry (υ : Type v) where
  value : υ
  expiresAt : Nat
deriving DecidableEq

/-- The value of an entry that has not expired. -/
def Entry.live (now : Nat) (entry : Entry υ) : Option υ :=
  if now < entry.expiresAt then some entry.value else none

theorem Entry.live_eq_some_iff {entry : Entry υ} {now : Nat} {value : υ} :
    entry.live now = some value ↔ now < entry.expiresAt ∧ entry.value = value := by
  unfold Entry.live
  split
  · next unexpired => simp [unexpired]
  · next expired => simp [expired]

/-- Both tiers, the clock, and which keys each tier serves at present. -/
structure Cache (κ : Type u) (υ : Type v) where
  now : Nat
  memory : κ → Option (Entry υ)
  store : κ → Option (Entry υ)
  memoryAdmits : κ → Bool
  storeAnswers : κ → Bool

namespace Cache

/-- The live value of the memory tier. -/
def inMemory (cache : Cache κ υ) (key : κ) : Option υ :=
  (cache.memory key).bind (Entry.live cache.now)

/-- The live value of the store, whether or not it answers. -/
def inStore (cache : Cache κ υ) (key : κ) : Option υ :=
  (cache.store key).bind (Entry.live cache.now)

/-- What an answering store returns through a view. -/
def fromStore (view : υ → Option α) (cache : Cache κ υ) (key : κ) : Option α :=
  if cache.storeAnswers key then (cache.inStore key).bind view else none

/-- What a read returns. -/
def peek (view : υ → Option α) (cache : Cache κ υ) (key : κ) : Option α :=
  ((cache.inMemory key).bind view).or (cache.fromStore view key)

/-- Some tier takes a write of the key. -/
def takes (cache : Cache κ υ) (key : κ) : Bool := cache.memoryAdmits key || cache.storeAnswers key

/-- Some tier has the live value. -/
def Held (cache : Cache κ υ) (key : κ) (value : υ) : Prop :=
  cache.inMemory key = some value ∨ cache.inStore key = some value

/-- Every live value satisfies a property of its key. -/
def Sound (property : κ → υ → Prop) (cache : Cache κ υ) : Prop :=
  ∀ key value, cache.Held key value → property key value

section Operations

variable [DecidableEq κ]

/-- Insert into the memory tier; a refused insertion drops the old entry. -/
def insertMemory (lifetime : Nat) (key : κ) (value : υ) (cache : Cache κ υ) : Cache κ υ :=
  { cache with
    memory := Function.update cache.memory key
      (if cache.memoryAdmits key then some ⟨value, cache.now + lifetime⟩ else none) }

/-- Write to the store; without an answer nothing changes there. -/
def insertStore (lifetime : Nat) (key : κ) (value : υ) (cache : Cache κ υ) : Cache κ υ :=
  if cache.storeAnswers key then
    { cache with store := Function.update cache.store key (some ⟨value, cache.now + lifetime⟩) }
  else cache

/-- Write both tiers, memory first. -/
def set (memoryLifetime storeLifetime : Nat) (key : κ) (value : υ) (cache : Cache κ υ) : Cache κ υ :=
  insertStore storeLifetime key value (insertMemory memoryLifetime key value cache)

/-- Write pairs in order. -/
def setAll (memoryLifetime storeLifetime : Nat) (pairs : List (κ × υ)) (cache : Cache κ υ) :
    Cache κ υ :=
  pairs.foldl (fun filled pair => set memoryLifetime storeLifetime pair.1 pair.2 filled) cache

/-- Read through a view; a value found only in the store is copied to memory. -/
def get (view : υ → Option α) (memoryLifetime : Nat) (key : κ) (cache : Cache κ υ) :
    Option α × Cache κ υ :=
  match (cache.inMemory key).bind view with
  | some found => (some found, cache)
  | none =>
    if cache.storeAnswers key then
      match cache.inStore key with
      | none => (none, cache)
      | some value =>
        match view value with
        | none => (none, cache)
        | some found => (some found, insertMemory memoryLifetime key value cache)
    else (none, cache)

/-- Remove one key from both tiers; without an answer the store keeps it. -/
def invalidate (key : κ) (cache : Cache κ υ) : Cache κ υ :=
  { cache with
    memory := Function.update cache.memory key none
    store := if cache.storeAnswers key then Function.update cache.store key none else cache.store }

/-- Remove every key from memory and, where it answers, every covered key from
the store. -/
def invalidateAll (covered : κ → Bool) (cache : Cache κ υ) : Cache κ υ :=
  { cache with
    memory := fun _ => none
    store := fun key => if covered key && cache.storeAnswers key then none else cache.store key }

/-- What the surroundings may do between operations: time passes, entries are
lost, and the keys a tier serves change. -/
structure Decay (κ : Type u) where
  elapsed : Nat
  keepsMemory : κ → Bool
  keepsStore : κ → Bool
  memoryAdmits : κ → Bool
  storeAnswers : κ → Bool

/-- Apply one change of the surroundings. -/
def decay (change : Decay κ) (cache : Cache κ υ) : Cache κ υ where
  now := cache.now + change.elapsed
  memory := fun key => if change.keepsMemory key then cache.memory key else none
  store := fun key => if change.keepsStore key then cache.store key else none
  memoryAdmits := change.memoryAdmits
  storeAnswers := change.storeAnswers

end Operations

/-- A cache in which no entry has ever been written. -/
def Vacant (cache : Cache κ υ) : Prop :=
  (∀ key, cache.memory key = none) ∧ ∀ key, cache.store key = none

theorem vacant_not_held {cache : Cache κ υ} (vacant : cache.Vacant) (key : κ) (value : υ) :
    ¬ cache.Held key value := by
  simp [Held, inMemory, inStore, vacant.1 key, vacant.2 key]

theorem vacant_sound {cache : Cache κ υ} (vacant : cache.Vacant) (property : κ → υ → Prop) :
    cache.Sound property :=
  fun key value held => absurd held (vacant_not_held vacant key value)

/-- A read returns a view of a held value. -/
theorem peek_held {view : υ → Option α} {cache : Cache κ υ} {key : κ} {found : α}
    (peeked : cache.peek view key = some found) :
    ∃ value, cache.Held key value ∧ view value = some found := by
  rcases Option.or_eq_some_iff.mp peeked with inMemory | ⟨_, stored⟩
  · obtain ⟨value, live, viewed⟩ := Option.bind_eq_some_iff.mp inMemory
    exact ⟨value, Or.inl live, viewed⟩
  · unfold fromStore at stored
    split at stored
    · obtain ⟨value, live, viewed⟩ := Option.bind_eq_some_iff.mp stored
      exact ⟨value, Or.inr live, viewed⟩
    · cases stored

/-- What an answering store returns it has. -/
theorem fromStore_some {cache : Cache κ υ} {key : κ} {value : υ}
    (answered : cache.fromStore some key = some value) : cache.inStore key = some value := by
  unfold fromStore at answered
  split at answered
  · simpa using answered
  · cases answered

theorem vacant_peek {cache : Cache κ υ} (vacant : cache.Vacant) (view : υ → Option α) (key : κ) :
    cache.peek view key = none := by
  rw [Option.eq_none_iff_forall_ne_some]
  intro found peeked
  obtain ⟨value, held, _⟩ := peek_held peeked
  exact vacant_not_held vacant key value held

section Laws

variable [DecidableEq κ] {view : υ → Option α} {cache : Cache κ υ} {key : κ}

theorem insertMemory_other (lifetime : Nat) (value : υ) {tested : κ} (other : tested ≠ key) :
    (insertMemory lifetime key value cache).inMemory tested = cache.inMemory tested := by
  simp [insertMemory, inMemory, Function.update_of_ne other]

theorem insertMemory_store (lifetime : Nat) (value : υ) (tested : κ) :
    (insertMemory lifetime key value cache).inStore tested = cache.inStore tested := rfl

/-- After an insertion the memory tier has the value or nothing at its key. -/
theorem insertMemory_self (cache : Cache κ υ) (key : κ) (lifetime : Nat) (value : υ) :
    (insertMemory lifetime key value cache).inMemory key = some value ∨
      (insertMemory lifetime key value cache).inMemory key = none := by
  cases admitted : cache.memoryAdmits key with
  | false => simp [insertMemory, inMemory, admitted]
  | true =>
    simp only [insertMemory, inMemory, admitted, if_true, Function.update_self, Option.bind_some,
      Entry.live]
    split
    · exact Or.inl rfl
    · exact Or.inr rfl

theorem insertStore_memory (lifetime : Nat) (value : υ) (tested : κ) :
    (insertStore lifetime key value cache).inMemory tested = cache.inMemory tested := by
  unfold insertStore
  split <;> rfl

theorem insertStore_other (lifetime : Nat) (value : υ) {tested : κ} (other : tested ≠ key) :
    (insertStore lifetime key value cache).inStore tested = cache.inStore tested := by
  unfold insertStore
  split
  · simp [inStore, Function.update_of_ne other]
  · rfl

theorem insertStore_now (lifetime : Nat) (key : κ) (value : υ) (cache : Cache κ υ) :
    (insertStore lifetime key value cache).now = cache.now := by
  unfold insertStore
  split <;> rfl

theorem insertStore_answers (lifetime : Nat) (value : υ) :
    (insertStore lifetime key value cache).storeAnswers = cache.storeAnswers := by
  unfold insertStore
  split <;> rfl

/-- After a write the store has the value or nothing at its key, or it did not
answer and kept what it had. -/
theorem insertStore_self (cache : Cache κ υ) (key : κ) (lifetime : Nat) (value : υ) :
    (insertStore lifetime key value cache).inStore key = some value ∨
      (insertStore lifetime key value cache).inStore key = none ∨
      (cache.storeAnswers key = false ∧
        (insertStore lifetime key value cache).inStore key = cache.inStore key) := by
  unfold insertStore
  cases answers : cache.storeAnswers key with
  | false => exact Or.inr (Or.inr ⟨rfl, rfl⟩)
  | true =>
    simp only [if_true, inStore, Function.update_self, Option.bind_some, Entry.live]
    split
    · exact Or.inl rfl
    · exact Or.inr (Or.inl rfl)

/-- Writes do not move the clock. -/
theorem set_now (memoryLifetime storeLifetime : Nat) (key : κ) (value : υ) (cache : Cache κ υ) :
    (set memoryLifetime storeLifetime key value cache).now = cache.now :=
  insertStore_now storeLifetime key value _

theorem setAll_now (memoryLifetime storeLifetime : Nat) (pairs : List (κ × υ)) (cache : Cache κ υ) :
    (setAll memoryLifetime storeLifetime pairs cache).now = cache.now := by
  induction pairs generalizing cache with
  | nil => rfl
  | cons pair rest ih => exact (ih _).trans (set_now memoryLifetime storeLifetime _ _ cache)

/-- A read returns exactly the peeked value. -/
theorem get_value (memoryLifetime : Nat) :
    (get view memoryLifetime key cache).1 = cache.peek view key := by
  cases remembered : (cache.inMemory key).bind view with
  | some found => simp [get, peek, remembered]
  | none =>
    simp only [get, peek, remembered, fromStore, Option.none_or]
    cases answers : cache.storeAnswers key with
    | false => simp
    | true =>
      cases stored : cache.inStore key with
      | none => simp
      | some value => cases viewed : view value <;> simp [viewed]

/-- A read leaves the cache alone or copies one held value into memory. -/
theorem get_cache (view : υ → Option α) (memoryLifetime : Nat) (key : κ) (cache : Cache κ υ) :
    (get view memoryLifetime key cache).2 = cache ∨
      ∃ value, (cache.inMemory key).bind view = none ∧ cache.storeAnswers key = true ∧
        cache.inStore key = some value ∧ (view value).isSome ∧
        (get view memoryLifetime key cache).2 = insertMemory memoryLifetime key value cache := by
  cases remembered : (cache.inMemory key).bind view with
  | some found => exact Or.inl (by simp [get, remembered])
  | none =>
    cases answers : cache.storeAnswers key with
    | false => exact Or.inl (by simp [get, remembered, answers])
    | true =>
      cases stored : cache.inStore key with
      | none => exact Or.inl (by simp [get, remembered, stored])
      | some value =>
        cases viewed : view value with
        | none => exact Or.inl (by simp [get, remembered, stored, viewed])
        | some found =>
          exact Or.inr ⟨value, rfl, rfl, rfl, by simp [viewed], by
            simp [get, remembered, answers, stored, viewed]⟩

/-- Reads do not move the clock. -/
theorem get_now (view : υ → Option α) (memoryLifetime : Nat) (key : κ) (cache : Cache κ υ) :
    (get view memoryLifetime key cache).2.now = cache.now := by
  rcases get_cache view memoryLifetime key cache with same | ⟨value, _, _, _, _, copied⟩
  · rw [same]
  · rw [copied]
    rfl

/-- A read of one key does not change reads of another, through any view. -/
theorem peek_get_other {β : Type w} {other : υ → Option β} (memoryLifetime : Nat) {tested : κ}
    (distinct : tested ≠ key) :
    (get view memoryLifetime key cache).2.peek other tested = cache.peek other tested := by
  rcases get_cache view memoryLifetime key cache with same | ⟨value, _, _, _, _, copied⟩
  · rw [same]
  · rw [copied]
    simp only [peek, insertMemory_other memoryLifetime value distinct, fromStore,
      insertMemory_store memoryLifetime value tested]
    rfl

/-- Nor does it change reads of its own key through the same view. -/
theorem peek_get_self {memoryLifetime : Nat} (remains : 0 < memoryLifetime) :
    (get view memoryLifetime key cache).2.peek view key = cache.peek view key := by
  rcases get_cache view memoryLifetime key cache with
    same | ⟨value, forgotten, answering, stored, seen, copied⟩
  · rw [same]
  · rw [copied]
    obtain ⟨found, viewed⟩ := Option.isSome_iff_exists.mp seen
    have remembered : (insertMemory memoryLifetime key value cache).inMemory key =
        if cache.memoryAdmits key then some value else none := by
      cases admitted : cache.memoryAdmits key <;>
        simp [insertMemory, inMemory, Entry.live, admitted, remains]
    have answers : fromStore view (insertMemory memoryLifetime key value cache) key =
        fromStore view cache key := rfl
    rw [peek, peek, remembered, answers, forgotten, Option.none_or]
    split
    · simp only [fromStore, answering, if_true, stored, Option.bind_some, viewed, Option.some_or]
    · rw [Option.bind_none, Option.none_or]

/-- Reads do not change which keys the tiers serve. -/
theorem get_takes (view : υ → Option α) (memoryLifetime : Nat) (key tested : κ)
    (cache : Cache κ υ) :
    (get view memoryLifetime key cache).2.takes tested = cache.takes tested := by
  rcases get_cache view memoryLifetime key cache with same | ⟨value, _, _, _, _, copied⟩
  · rw [same]
  · rw [copied]
    rfl

/-- A write of one key does not change reads of another. -/
theorem peek_set_other (memoryLifetime storeLifetime : Nat) (value : υ) {tested : κ}
    (distinct : tested ≠ key) :
    (set memoryLifetime storeLifetime key value cache).peek view tested =
      cache.peek view tested := by
  simp only [peek, set, fromStore, insertStore_memory, insertStore_answers,
    insertMemory_other memoryLifetime value distinct, insertStore_other storeLifetime value distinct,
    insertMemory_store]
  rfl

/-- Writes do not change which keys the tiers serve. -/
theorem set_takes (memoryLifetime storeLifetime : Nat) (key tested : κ) (value : υ)
    (cache : Cache κ υ) :
    (set memoryLifetime storeLifetime key value cache).takes tested = cache.takes tested := by
  unfold set insertStore
  split <;> rfl

/-- After a write a read of its key returns the value written, or nothing when no
tier took it. -/
theorem peek_set_self {memoryLifetime storeLifetime : Nat} (remains : 0 < memoryLifetime)
    (lasts : 0 < storeLifetime) (value : υ) :
    (set memoryLifetime storeLifetime key value cache).peek view key =
      if cache.takes key then view value else none := by
  have remembered : (insertMemory memoryLifetime key value cache).inMemory key =
      if cache.memoryAdmits key then some value else none := by
    cases admitted : cache.memoryAdmits key <;>
      simp [insertMemory, inMemory, Entry.live, admitted, remains]
  have stored : fromStore view (set memoryLifetime storeLifetime key value cache) key =
      if cache.storeAnswers key then view value else none := by
    cases answers : cache.storeAnswers key <;>
      simp [fromStore, set, insertStore, insertMemory, inStore, Entry.live, answers, lasts]
  rw [peek, stored, set, insertStore_memory, remembered, takes]
  cases cache.memoryAdmits key <;> cases cache.storeAnswers key <;> simp

theorem setAll_append (memoryLifetime storeLifetime : Nat) (former latter : List (κ × υ)) :
    setAll memoryLifetime storeLifetime (former ++ latter) cache =
      setAll memoryLifetime storeLifetime latter
        (setAll memoryLifetime storeLifetime former cache) :=
  List.foldl_append

theorem setAll_concat (memoryLifetime storeLifetime : Nat) (pairs : List (κ × υ)) (last : κ × υ) :
    setAll memoryLifetime storeLifetime (pairs ++ [last]) cache =
      set memoryLifetime storeLifetime last.1 last.2
        (setAll memoryLifetime storeLifetime pairs cache) :=
  setAll_append memoryLifetime storeLifetime pairs [last]

/-- Writes do not change reads of keys outside those written. -/
theorem peek_setAll_absent (memoryLifetime storeLifetime : Nat) {pairs : List (κ × υ)}
    (absent : Dictionary.lookupIn key pairs.reverse = none) :
    (setAll memoryLifetime storeLifetime pairs cache).peek view key = cache.peek view key := by
  induction pairs using List.reverseRecOn with
  | nil => rfl
  | append_singleton pairs last ih =>
    rw [List.reverse_append, List.reverse_singleton, List.singleton_append] at absent
    by_cases same : last.1 = key
    · simp [Dictionary.lookupIn, same] at absent
    · rw [setAll_concat, peek_set_other _ _ _ (Ne.symm same)]
      exact ih (by simpa [Dictionary.lookupIn, same] using absent)

theorem setAll_takes (memoryLifetime storeLifetime : Nat) (pairs : List (κ × υ)) (tested : κ)
    (cache : Cache κ υ) :
    (setAll memoryLifetime storeLifetime pairs cache).takes tested = cache.takes tested := by
  induction pairs generalizing cache with
  | nil => rfl
  | cons pair rest ih => exact (ih _).trans (set_takes memoryLifetime storeLifetime _ _ _ cache)

/-- A key that was written reads as the last value written, or as absent when no
tier took it. -/
theorem peek_setAll_written {memoryLifetime storeLifetime : Nat} (remains : 0 < memoryLifetime)
    (lasts : 0 < storeLifetime) {pairs : List (κ × υ)} {value : υ}
    (written : Dictionary.lookupIn key pairs.reverse = some value) :
    (setAll memoryLifetime storeLifetime pairs cache).peek view key =
      if cache.takes key then view value else none := by
  induction pairs using List.reverseRecOn with
  | nil => cases written
  | append_singleton pairs last ih =>
    rw [List.reverse_append, List.reverse_singleton, List.singleton_append] at written
    rw [setAll_concat]
    by_cases same : last.1 = key
    · have latest : last.2 = value := by simpa [Dictionary.lookupIn, same] using written
      rw [same, latest, peek_set_self remains lasts, setAll_takes]
    · rw [peek_set_other _ _ _ (Ne.symm same)]
      exact ih (by simpa [Dictionary.lookupIn, same] using written)

end Laws

section Soundness

variable [DecidableEq κ] {property : κ → υ → Prop} {cache : Cache κ υ}

theorem sound_insertMemory (lifetime : Nat) {key : κ} {value : υ} (sound : cache.Sound property)
    (justified : property key value) : (insertMemory lifetime key value cache).Sound property := by
  rintro tested held (inMemory | inStore)
  · by_cases same : tested = key
    · subst tested
      rcases insertMemory_self cache key lifetime value with kept | refused
      · rw [kept] at inMemory
        exact Option.some.inj inMemory ▸ justified
      · rw [refused] at inMemory
        cases inMemory
    · rw [insertMemory_other lifetime value same] at inMemory
      exact sound tested held (Or.inl inMemory)
  · exact sound tested held (Or.inr inStore)

theorem sound_insertStore (lifetime : Nat) {key : κ} {value : υ} (sound : cache.Sound property)
    (justified : property key value) : (insertStore lifetime key value cache).Sound property := by
  rintro tested held (inMemory | inStore)
  · rw [insertStore_memory] at inMemory
    exact sound tested held (Or.inl inMemory)
  · by_cases same : tested = key
    · subst tested
      rcases insertStore_self cache key lifetime value with
        kept | gone | ⟨_, unchanged⟩
      · rw [kept] at inStore
        exact Option.some.inj inStore ▸ justified
      · rw [gone] at inStore
        cases inStore
      · rw [unchanged] at inStore
        exact sound key held (Or.inr inStore)
    · rw [insertStore_other lifetime value same] at inStore
      exact sound tested held (Or.inr inStore)

/-- A write keeps a property that the written value satisfies. -/
theorem sound_set (memoryLifetime storeLifetime : Nat) {key : κ} {value : υ}
    (sound : cache.Sound property) (justified : property key value) :
    (set memoryLifetime storeLifetime key value cache).Sound property :=
  sound_insertStore storeLifetime (sound_insertMemory memoryLifetime sound justified) justified

theorem sound_setAll (memoryLifetime storeLifetime : Nat) {pairs : List (κ × υ)}
    (sound : cache.Sound property) (justified : ∀ pair ∈ pairs, property pair.1 pair.2) :
    (setAll memoryLifetime storeLifetime pairs cache).Sound property := by
  induction pairs generalizing cache with
  | nil => exact sound
  | cons pair rest ih =>
    exact ih (sound_set memoryLifetime storeLifetime sound (justified pair List.mem_cons_self))
      (fun later member => justified later (List.mem_cons_of_mem pair member))

/-- A read keeps every property: what it copies was held under the same key. -/
theorem sound_get (view : υ → Option α) (memoryLifetime : Nat) (key : κ)
    (sound : cache.Sound property) : (get view memoryLifetime key cache).2.Sound property := by
  rcases get_cache view memoryLifetime key cache with same | ⟨value, _, _, stored, _, copied⟩
  · rw [same]
    exact sound
  · rw [copied]
    exact sound_insertMemory memoryLifetime sound (sound key value (Or.inr stored))

/-- An entry that is live later was live before. -/
theorem entry_earlier {entry : Entry υ} {now elapsed : Nat} {value : υ}
    (live : entry.live (now + elapsed) = some value) : entry.live now = some value := by
  unfold Entry.live at live ⊢
  split at live
  · next unexpired =>
    have before : now < entry.expiresAt := by omega
    simpa [before] using live
  · cases live

/-- What a slot has live after it may have been lost it had live before. -/
theorem slot_earlier {keeps : Bool} {slot : Option (Entry υ)} {now elapsed : Nat} {value : υ}
    (live : (if keeps then slot else none).bind (Entry.live (now + elapsed)) = some value) :
    slot.bind (Entry.live now) = some value := by
  cases keeps with
  | false => simp at live
  | true =>
    obtain ⟨entry, present, unexpired⟩ := Option.bind_eq_some_iff.mp live
    simp only [if_true] at present
    rw [present, Option.bind_some]
    exact entry_earlier unexpired

omit [DecidableEq κ] in
theorem inMemory_decay {change : Decay κ} {key : κ} {value : υ}
    (live : (decay change cache).inMemory key = some value) : cache.inMemory key = some value :=
  slot_earlier live

omit [DecidableEq κ] in
theorem inStore_decay {change : Decay κ} {key : κ} {value : υ}
    (live : (decay change cache).inStore key = some value) : cache.inStore key = some value :=
  slot_earlier live

omit [DecidableEq κ] in
/-- Whatever is live after a change of the surroundings was live before it. -/
theorem held_decay {change : Decay κ} {key : κ} {value : υ}
    (held : (decay change cache).Held key value) : cache.Held key value :=
  held.imp inMemory_decay inStore_decay

omit [DecidableEq κ] in
theorem sound_decay (change : Decay κ) (sound : cache.Sound property) :
    (decay change cache).Sound property :=
  fun key value held => sound key value (held_decay held)

end Soundness

section Holding

variable [DecidableEq κ] {cache : Cache κ υ} {key tested : κ} {value held : υ}

/-- What a tier holds after a read it held before. -/
theorem held_get {view : υ → Option α} {memoryLifetime : Nat}
    (later : (get view memoryLifetime key cache).2.Held tested held) : cache.Held tested held :=
  sound_get view memoryLifetime key (fun _ _ earlier => earlier) tested held later

/-- After a write that the store answers, its key holds the value written only. -/
theorem held_set {memoryLifetime storeLifetime : Nat} (answers : cache.storeAnswers key = true)
    (later : (set memoryLifetime storeLifetime key value cache).Held tested held) :
    (tested = key ∧ held = value) ∨ (tested ≠ key ∧ cache.Held tested held) := by
  by_cases same : tested = key
  · subst tested
    refine Or.inl ⟨rfl, ?_⟩
    rcases later with inMemory | inStore
    · rw [set, insertStore_memory] at inMemory
      rcases insertMemory_self cache key memoryLifetime value with kept | refused
      · exact (Option.some.inj (kept.symm.trans inMemory)).symm
      · cases refused.symm.trans inMemory
    · rcases insertStore_self (insertMemory memoryLifetime key value cache) key storeLifetime value with
        written | gone | ⟨silent, _⟩
      · exact (Option.some.inj (written.symm.trans inStore)).symm
      · cases gone.symm.trans inStore
      · exact absurd (answers.symm.trans silent) (by decide)
  · refine Or.inr ⟨same, ?_⟩
    rcases later with inMemory | inStore
    · rw [set, insertStore_memory, insertMemory_other memoryLifetime value same] at inMemory
      exact Or.inl inMemory
    · rw [set, insertStore_other storeLifetime value same, insertMemory_store] at inStore
      exact Or.inr inStore

/-- After any write a key holds what it held, or the value written to it. -/
theorem held_set_or {memoryLifetime storeLifetime : Nat}
    (later : (set memoryLifetime storeLifetime key value cache).Held tested held) :
    (tested = key ∧ held = value) ∨ cache.Held tested held := by
  have sound : cache.Sound (fun other kept => (other = key ∧ kept = value) ∨
      cache.Held other kept) := fun _ _ earlier => Or.inr earlier
  exact sound_set memoryLifetime storeLifetime sound (Or.inl ⟨rfl, rfl⟩) tested held later

/-- An insertion into memory leaves at its key the value or what the store has. -/
theorem held_insertMemory {lifetime : Nat}
    (later : (insertMemory lifetime key value cache).Held tested held) :
    (tested = key ∧ (held = value ∨ cache.inStore key = some held)) ∨
      (tested ≠ key ∧ cache.Held tested held) := by
  by_cases same : tested = key
  · subst tested
    refine Or.inl ⟨rfl, ?_⟩
    rcases later with inMemory | inStore
    · rcases insertMemory_self cache key lifetime value with kept | refused
      · exact Or.inl (Option.some.inj (kept.symm.trans inMemory)).symm
      · cases refused.symm.trans inMemory
    · exact Or.inr inStore
  · refine Or.inr ⟨same, ?_⟩
    rcases later with inMemory | inStore
    · exact Or.inl (by rwa [insertMemory_other lifetime value same] at inMemory)
    · exact Or.inr inStore

/-- A slot that may have been emptied had what it has. -/
theorem slot_kept {emptied : Bool} {slot : Option (Entry υ)} {now : Nat} {value : υ}
    (live : (if emptied then none else slot).bind (Entry.live now) = some value) :
    slot.bind (Entry.live now) = some value := by
  cases emptied with
  | true => simp at live
  | false => simpa using live

/-- Whatever is held after an invalidation was held before. -/
theorem held_invalidate_or (later : (invalidate key cache).Held tested held) :
    cache.Held tested held := by
  have emptied : ∀ slots : κ → Option (Entry υ), Function.update slots key none tested =
      if decide (tested = key) then none else slots tested := by
    intro slots
    by_cases same : tested = key
    · subst same
      simp
    · simp [same]
  rcases later with inMemory | inStore
  · refine Or.inl (@slot_kept υ (decide (tested = key)) _ _ _ ?_)
    rwa [← emptied]
  · apply Or.inr
    simp only [Cache.inStore, invalidate] at inStore
    split at inStore
    · rw [emptied] at inStore
      exact slot_kept inStore
    · exact inStore

omit [DecidableEq κ] in
theorem held_invalidateAll_or {covered : κ → Bool}
    (later : (invalidateAll covered cache).Held tested held) : cache.Held tested held := by
  rcases later with inMemory | inStore
  · cases inMemory
  · exact Or.inr (slot_kept inStore)

/-- An invalidated key that the store answers for is held no more. -/
theorem held_invalidate (answers : cache.storeAnswers key = true)
    (later : (invalidate key cache).Held tested held) : tested ≠ key ∧ cache.Held tested held := by
  by_cases same : tested = key
  · subst tested
    simp [Held, inMemory, inStore, invalidate, answers] at later
  · refine ⟨same, ?_⟩
    simpa [Held, inMemory, inStore, invalidate, answers, Function.update_of_ne same] using later

omit [DecidableEq κ] in
/-- After a bulk invalidation only keys that it does not cover are held. -/
theorem held_invalidateAll {covered : κ → Bool} (answers : cache.storeAnswers tested = true)
    (later : (invalidateAll covered cache).Held tested held) :
    covered tested = false ∧ cache.Held tested held := by
  cases inside : covered tested with
  | true => simp [Held, inMemory, inStore, invalidateAll, answers, inside] at later
  | false =>
    refine ⟨rfl, Or.inr ?_⟩
    simpa [Held, inMemory, inStore, invalidateAll, inside] using later

end Holding

end Cache

end ApiGateway.TwoTier
