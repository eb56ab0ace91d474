import Mathlib.Data.List.Basic

/-!
# Fallible stateful operations

An operation reads and changes a state and ends either with a value or with an
exception. Changes made before an exception are kept, so a handler continues
from the state in which the exception was thrown, not from the initial one.

Preconditions and postconditions speak of both endings. The rules follow the
operations' own structure: return, sequence, branch, handler and loop. An
invariant is a postcondition that does not mention the ending.

A read aside of a cache asks the cache first, then a loader, and keeps what the
loader returned. The value it ends with was found in one of these two ways.
-/

namespace ApiGateway.Effects

universe u v w
variable {ε : Type w} {σ : Type u} {α β : Type v}

/-- A state transformer whose ending is a value or an exception. -/
def Effect (ε : Type w) (σ : Type u) (α : Type v) := σ → Except ε α × σ

namespace Effect

/-- End with a value and leave the state alone. -/
def give (value : α) : Effect ε σ α := fun state => (.ok value, state)

/-- End with an exception and leave the state alone. -/
def fail (fault : ε) : Effect ε σ α := fun state => (.error fault, state)

/-- Sequence: an exception skips the continuation and keeps the state reached. -/
def andThen (first : Effect ε σ α) (next : α → Effect ε σ β) : Effect ε σ β := fun state =>
  match first state with
  | (.ok value, after) => next value after
  | (.error fault, after) => (.error fault, after)

instance : Monad (Effect ε σ) where
  pure := give
  bind := andThen

/-- Run a handler from the state in which the exception was thrown. -/
def handle (body : Effect ε σ α) (handler : ε → Effect ε σ α) : Effect ε σ α := fun state =>
  match body state with
  | (.ok value, after) => (.ok value, after)
  | (.error fault, after) => handler fault after

/-- Replace the state. -/
def update (change : σ → σ) : Effect ε σ PUnit := fun state => (.ok ⟨⟩, change state)

/-- Read from the state. -/
def gets (read : σ → α) : Effect ε σ α := fun state => (.ok (read state), state)

/-- Continue with the value of a computation that does not touch the state. -/
def ofExcept (result : Except ε α) : Effect ε σ α := fun state => (result, state)

@[simp] theorem pure_run (value : α) (state : σ) :
    (pure value : Effect ε σ α) state = (.ok value, state) := rfl

@[simp] theorem fail_run (fault : ε) (state : σ) :
    (fail fault : Effect ε σ α) state = (.error fault, state) := rfl

@[simp] theorem update_run (change : σ → σ) (state : σ) :
    (update change : Effect ε σ PUnit) state = (.ok ⟨⟩, change state) := rfl

@[simp] theorem gets_run (read : σ → α) (state : σ) :
    (gets read : Effect ε σ α) state = (.ok (read state), state) := rfl

@[simp] theorem ofExcept_run (result : Except ε α) (state : σ) :
    (ofExcept result : Effect ε σ α) state = (result, state) := rfl

/-- The state an operation meets may be rewritten under a sequence. -/
theorem bind_run (first : Effect ε σ α) (next : α → Effect ε σ β) (state : σ) :
    (first >>= next) state = match first state with
      | (.ok value, after) => next value after
      | (.error fault, after) => (.error fault, after) := rfl

theorem bind_ok {first : Effect ε σ α} {next : α → Effect ε σ β} {state after : σ} {value : α}
    (returned : first state = (.ok value, after)) : (first >>= next) state = next value after := by
  rw [bind_run, returned]

theorem bind_error {first : Effect ε σ α} {next : α → Effect ε σ β} {state after : σ} {fault : ε}
    (thrown : first state = (.error fault, after)) :
    (first >>= next) state = (.error fault, after) := by
  rw [bind_run, thrown]

/-- A sequence that ends with a value passed through its first operation's value. -/
theorem bind_ok_inv {first : Effect ε σ α} {next : α → Effect ε σ β} {state last : σ} {result : β}
    (returned : (first >>= next) state = (.ok result, last)) :
    ∃ value after, first state = (.ok value, after) ∧ next value after = (.ok result, last) := by
  rw [bind_run] at returned
  rcases reached : first state with ⟨ending, after⟩
  rw [reached] at returned
  cases ending with
  | ok value => exact ⟨value, after, rfl, returned⟩
  | error fault => simp at returned

theorem handle_ok {body : Effect ε σ α} {handler : ε → Effect ε σ α} {state after : σ} {value : α}
    (returned : body state = (.ok value, after)) : body.handle handler state = (.ok value, after) := by
  simp [handle, returned]

theorem handle_error {body : Effect ε σ α} {handler : ε → Effect ε σ α} {state after : σ} {fault : ε}
    (thrown : body state = (.error fault, after)) :
    body.handle handler state = handler fault after := by
  simp [handle, thrown]

/-- A first operation that returns leaves the handler to the continuation. -/
theorem handle_bind_ok {first : Effect ε σ α} {next : α → Effect ε σ β} {handler : ε → Effect ε σ β}
    {state after : σ} {value : α} (returned : first state = (.ok value, after)) :
    (first >>= next).handle handler state = (next value).handle handler after := by
  rw [handle, handle, bind_ok returned]

end Effect

/-- Every run from a state meeting the precondition ends as the postcondition
says, whether with a value or with an exception. -/
def Ensures (before : σ → Prop) (operation : Effect ε σ α) (after : Except ε α → σ → Prop) : Prop :=
  ∀ state, before state → after (operation state).1 (operation state).2

/-- The operation keeps the invariant on both of its endings. -/
def Preserves (invariant : σ → Prop) (operation : Effect ε σ α) : Prop :=
  Ensures invariant operation (fun _ => invariant)

section Rules

variable {invariant : σ → Prop}

theorem preserves_pure (value : α) : Preserves invariant (pure value : Effect ε σ α) :=
  fun _ holds => holds

theorem preserves_gets (read : σ → α) : Preserves invariant (Effect.gets read : Effect ε σ α) :=
  fun _ holds => holds

theorem preserves_ofExcept (result : Except ε α) :
    Preserves invariant (Effect.ofExcept result : Effect ε σ α) :=
  fun _ holds => holds

theorem preserves_update {change : σ → σ} (kept : ∀ state, invariant state → invariant (change state)) :
    Preserves invariant (Effect.update change : Effect ε σ PUnit) :=
  kept

/-- Sequencing keeps what both operations keep. The continuation is asked only
for the values the first operation can return. -/
theorem preserves_bind {first : Effect ε σ α} {next : α → Effect ε σ β}
    (kept : Preserves invariant first) (continued : ∀ value, Preserves invariant (next value)) :
    Preserves invariant (first >>= next) := by
  intro state holds
  have reached := kept state holds
  rw [Effect.bind_run]
  rcases ran : first state with ⟨ending, after⟩
  rw [ran] at reached
  cases ending with
  | ok value => exact continued value after reached
  | error fault => exact reached

/-- A first operation with a stronger postcondition passes it to the continuation. -/
theorem preserves_bind_of {first : Effect ε σ α} {next : α → Effect ε σ β}
    {known : α → σ → Prop}
    (kept : Ensures invariant first (fun ending after => invariant after ∧
      ∀ value, ending = .ok value → known value after))
    (continued : ∀ value state, invariant state → known value state →
      invariant (next value state).2) :
    Preserves invariant (first >>= next) := by
  intro state holds
  obtain ⟨reached, learnt⟩ := kept state holds
  rw [Effect.bind_run]
  rcases ran : first state with ⟨ending, after⟩
  rw [ran] at reached learnt
  cases ending with
  | ok value => exact continued value after reached (learnt value rfl)
  | error fault => exact reached

theorem preserves_handle {body : Effect ε σ α} {handler : ε → Effect ε σ α}
    (kept : Preserves invariant body) (handled : ∀ fault, Preserves invariant (handler fault)) :
    Preserves invariant (body.handle handler) := by
  intro state holds
  have reached := kept state holds
  rcases ran : body state with ⟨ending, after⟩
  rw [ran] at reached
  cases ending with
  | ok value => simpa [Effect.handle_ok ran] using reached
  | error fault =>
    rw [Effect.handle_error ran]
    exact handled fault after reached

/-- A loop keeps what each of its rounds keeps. -/
theorem preserves_foldlM {round : β → α → Effect ε σ β} (items : List α) (initial : β)
    (kept : ∀ accumulated item, item ∈ items → Preserves invariant (round accumulated item)) :
    Preserves invariant (items.foldlM round initial) := by
  induction items generalizing initial with
  | nil => exact preserves_pure initial
  | cons item rest ih =>
    rw [List.foldlM_cons]
    exact preserves_bind (kept initial item List.mem_cons_self) (fun accumulated =>
      ih accumulated (fun next value member => kept next value (List.mem_cons_of_mem item member)))

end Rules

section CacheAside

/-- Ask the cache, then the loader, and keep what the loader returned. -/
def cacheAside (fetch load : Effect ε σ (Option α)) (keep : α → Effect ε σ PUnit) :
    Effect ε σ (Option α) := do
  match ← fetch with
  | some found => pure (some found)
  | none =>
    match ← load with
    | none => pure none
    | some loaded =>
      keep loaded
      pure (some loaded)

/-- How a value was found, from the state before to the state after. -/
inductive Found (fetch load : Effect ε σ (Option α)) (keep : α → Effect ε σ PUnit) (before : σ)
    (value : α) : σ → Prop where
  | cached (after : σ) (hit : fetch before = (.ok (some value), after)) :
      Found fetch load keep before value after
  | loaded (missed read after : σ) (miss : fetch before = (.ok none, missed))
      (found : load missed = (.ok (some value), read)) (kept : keep value read = (.ok ⟨⟩, after)) :
      Found fetch load keep before value after

/-- A read aside ends with a value exactly when the value was found so. -/
theorem cacheAside_some_iff {fetch load : Effect ε σ (Option α)} {keep : α → Effect ε σ PUnit}
    {before after : σ} {value : α} :
    cacheAside fetch load keep before = (.ok (some value), after) ↔
      Found fetch load keep before value after := by
  constructor
  · intro returned
    obtain ⟨fetched, missed, asked, returned⟩ := Effect.bind_ok_inv returned
    cases fetched with
    | some found =>
      cases returned
      exact .cached _ asked
    | none =>
      obtain ⟨answer, read, loaded, returned⟩ := Effect.bind_ok_inv returned
      cases answer with
      | none => cases returned
      | some found =>
        obtain ⟨⟨⟩, last, kept, returned⟩ := Effect.bind_ok_inv returned
        cases returned
        exact .loaded missed read _ asked loaded kept
  · intro found
    cases found with
    | cached after hit => rw [cacheAside, Effect.bind_ok hit]; rfl
    | loaded missed read after miss found kept =>
      rw [cacheAside, Effect.bind_ok miss]
      dsimp only
      rw [Effect.bind_ok found]
      dsimp only
      rw [Effect.bind_ok kept]
      rfl

/-- A read aside keeps what its parts keep. The value kept is asked only for
what the loader can return. -/
theorem preserves_cacheAside {invariant : σ → Prop} {known : α → Prop}
    {fetch load : Effect ε σ (Option α)} {keep : α → Effect ε σ PUnit}
    (fetched : Preserves invariant fetch)
    (loaded : Ensures invariant load (fun ending after => invariant after ∧
      ∀ value, ending = .ok (some value) → known value))
    (kept : ∀ value, known value → Preserves invariant (keep value)) :
    Preserves invariant (cacheAside fetch load keep) := by
  apply preserves_bind fetched
  intro found
  cases found with
  | some value => exact preserves_pure _
  | none =>
    have asked : Ensures invariant load (fun ending after => invariant after ∧
        ∀ answer, ending = .ok answer → ∀ value, answer = some value → known value) := by
      intro state holds
      obtain ⟨reached, learnt⟩ := loaded state holds
      exact ⟨reached, fun answer ended value same => learnt value (by rw [ended, same])⟩
    apply preserves_bind_of asked
    intro answer state holds learnt
    cases answer with
    | none => exact holds
    | some value =>
      exact (preserves_bind (kept value (learnt value rfl)) (fun _ => preserves_pure (some value)))
        state holds

end CacheAside

end ApiGateway.Effects
