import ApiGateway.Library.Interleaving

/-!
# What programs rely on and guarantee

Programs that share a state cannot rely on it staying as they left it. They rely
on the answers to their actions instead, and each guarantees to ask for permitted
actions only, as long as its answers are as it relies on. Where permitted actions
and the surroundings keep an invariant of the state, and the invariant gives the
answers, all of it holds along every run, in whatever order the programs take
turns.

What a program relies on and what it is permitted may depend on the state it was
started in. So an invariant may come to say more once the programs of earlier days
are known to be over.
-/

namespace ApiGateway.Interleaving

variable {A : Type} {answer : A → Type} {ε α β σ Change Actor : Type}

namespace Program

variable {answers : (action : A) → answer action → Prop}

/-- A program that may receive fewer answers ends as it would have. -/
theorem ends_fewer {more : (action : A) → answer action → Prop} {post : Except ε α → Prop}
    (fewer : ∀ action received, answers action received → more action received)
    {program : Program A answer ε α} (ends : program.Ends more post) : program.Ends answers post := by
  induction program with
  | done ending => exact ends
  | ask action next ih =>
    exact fun received answered => ih received (ends received (fewer action received answered))

/-- The continuation of a permitted action is asked for what each answer leaves to do. -/
theorem asks_ask {permitted : A → Prop} {action : A} {following : answer action → Program A answer ε β}
    (allowed : permitted action)
    (continues : ∀ received, answers action received → (following received).Asks answers permitted) :
    (act action >>= following).Asks answers permitted :=
  ⟨allowed, continues⟩

/-- Where nothing is known of the first program, every continuation is asked. -/
theorem asks_after {permitted : A → Prop} {program : Program A answer ε α}
    {following : α → Program A answer ε β} (asks : program.Asks answers permitted)
    (continues : ∀ value, (following value).Asks answers permitted) :
    (program >>= following).Asks answers permitted :=
  asks_bind asks (ends_mono (fun _ _ value _ => continues value) (ends_trivial program))

end Program

/-- A program that has not ended asks for an action. -/
def Program.asking : Program A answer ε α → Bool
  | .done _ => false
  | .ask _ _ => true

/-- Of the programs under way, how the states they were started in are related to
the present one. -/
def World.Lasting (lasting : σ → σ → Prop) (world : World A answer ε α σ) : Prop :=
  ∀ thread ∈ world.threads, thread.left.asking = true → lasting thread.origin world.shared

instance (lasting : σ → σ → Prop) [DecidableRel lasting] (world : World A answer ε α σ) :
    Decidable (world.Lasting lasting) :=
  inferInstanceAs (Decidable (∀ thread ∈ world.threads, thread.left.asking = true →
    lasting thread.origin world.shared))

/-- Every program guarantees to ask for permitted actions, which keep an invariant,
as the surroundings do; while an assumption holds, the invariant gives the answers
that the programs rely on. -/
structure Contract (system : System A answer ε α σ Change Actor) (assumed : σ → Prop)
    (lasting : σ → σ → Prop) (invariant : σ → Prop)
    (answers : σ → (action : A) → answer action → Prop) (permitted : σ → A → Prop) : Prop where
  launched : ∀ actor origin,
    (system.launch actor origin).Asks (answers origin) (permitted origin)
  answered : ∀ origin action state, assumed state → lasting origin state → invariant state →
    answers origin action (system.execute action state).1
  performed : ∀ origin action state, lasting origin state → invariant state →
    permitted origin action → invariant (system.execute action state).2
  altered : ∀ change state, invariant state → invariant (system.alter change state)

/-- The invariant holds of the state, and what is left of every program keeps its
guarantee. -/
structure Honoured (invariant : σ → Prop) (answers : σ → (action : A) → answer action → Prop)
    (permitted : σ → A → Prop) (world : World A answer ε α σ) : Prop where
  shared : invariant world.shared
  asking : ∀ thread ∈ world.threads,
    thread.left.Asks (answers thread.origin) (permitted thread.origin)

variable {system : System A answer ε α σ Change Actor} {assumed : σ → Prop} {lasting : σ → σ → Prop}
  {invariant : σ → Prop} {answers : σ → (action : A) → answer action → Prop}
  {permitted : σ → A → Prop} {world : World A answer ε α σ}

/-- Before anything has been started only the state matters. -/
theorem honoured_idle {state : σ} (holds : invariant state) :
    Honoured (ε := ε) (α := α) invariant answers permitted (World.idle state) :=
  ⟨holds, fun _ member => nomatch member⟩

/-- A program under way asks for a permitted action. -/
theorem Honoured.permits (honoured : Honoured invariant answers permitted world) {index : Nat}
    {origin : σ} {action : A} {next : answer action → Program A answer ε α}
    (asking : world.threads[index]? = some ⟨origin, .ask action next⟩) : permitted origin action :=
  (honoured.asking _ (List.mem_of_getElem? asking)).1

/-- The programs under way are asked for by name. -/
theorem World.Lasting.asking (lasts : world.Lasting lasting) {index : Nat} {origin : σ} {action : A}
    {next : answer action → Program A answer ε α}
    (asking : world.threads[index]? = some ⟨origin, .ask action next⟩) : lasting origin world.shared :=
  lasts _ (List.mem_of_getElem? asking) rfl

/-- What a program relies on is what it receives. -/
theorem Contract.receives (contract : Contract system assumed lasting invariant answers permitted)
    (honoured : Honoured invariant answers permitted world) (holds : assumed world.shared)
    (lasts : world.Lasting lasting) {index : Nat} {thread : Thread A answer ε α σ}
    (found : world.threads[index]? = some thread) (move : Move Change Actor) :
    Receives (answers thread.origin) system index world move := by
  cases move with
  | advances advancing =>
    rintro origin action next rfl asking
    obtain rfl := Option.some.inj (found.symm.trans asking)
    exact contract.answered origin action world.shared holds (lasts.asking asking) honoured.shared
  | _ => trivial

/-- A move keeps the invariant and the guarantees. -/
theorem Contract.move (contract : Contract system assumed lasting invariant answers permitted)
    (honoured : Honoured invariant answers permitted world) (holds : assumed world.shared)
    (lasts : world.Lasting lasting) (move : Move Change Actor) :
    Honoured invariant answers permitted (system.move move world) := by
  cases move with
  | changes change => exact ⟨contract.altered change _ honoured.shared, honoured.asking⟩
  | starts actor =>
    refine ⟨honoured.shared, fun thread member => ?_⟩
    rcases List.mem_append.mp member with earlier | now
    · exact honoured.asking thread earlier
    · rw [List.mem_singleton.mp now]
      exact contract.launched actor world.shared
  | advances index =>
    rcases move_advances system world index with ⟨origin, action, next, asking, moved⟩ | idle
    · rw [moved]
      have during := lasts.asking asking
      refine ⟨contract.performed origin action _ during honoured.shared (honoured.permits asking), ?_⟩
      intro thread member
      rcases List.mem_or_eq_of_mem_set member with other | rfl
      · exact honoured.asking thread other
      · exact (honoured.asking _ (List.mem_of_getElem? asking)).2 _
          (contract.answered origin action _ holds during honoured.shared)
    · rw [idle]
      exact honoured

variable {moves : List (Move Change Actor)}

/-- Along every run the invariant and the guarantees hold. -/
theorem Contract.run (contract : Contract system assumed lasting invariant answers permitted)
    (honoured : Honoured invariant answers permitted world)
    (along : Runs.Along system.move
      (fun world _ => assumed world.shared ∧ world.Lasting lasting) moves world) :
    Honoured invariant answers permitted (Runs.run system.move moves world) := by
  refine Runs.invariant_run ?_ along honoured
  exact fun _ move honoured holds => contract.move honoured holds.1 holds.2 move

/-- Along every run a program receives what it relies on. -/
theorem Contract.receives_along
    (contract : Contract system assumed lasting invariant answers permitted)
    (honoured : Honoured invariant answers permitted world) {index : Nat}
    {thread : Thread A answer ε α σ} (found : world.threads[index]? = some thread)
    (along : Runs.Along system.move
      (fun world _ => assumed world.shared ∧ world.Lasting lasting) moves world) :
    Runs.Along system.move (Receives (answers thread.origin) system index) moves world := by
  have kept : ∀ (reached : World A answer ε α σ) (move : Move Change Actor),
      (Honoured invariant answers permitted reached ∧
        ∃ present, reached.threads[index]? = some present ∧ present.origin = thread.origin) →
      assumed reached.shared ∧ reached.Lasting lasting →
        Honoured invariant answers permitted (system.move move reached) ∧
          ∃ present, (system.move move reached).threads[index]? = some present ∧
            present.origin = thread.origin := by
    rintro reached move ⟨honoured, present, found, same⟩ holds
    refine ⟨contract.move honoured holds.1 holds.2 move, ?_⟩
    rcases move_thread found move with ⟨alone, _⟩ | ⟨action, next, _, _, moved, _⟩
    · exact ⟨present, alone, same⟩
    · exact ⟨_, moved, same⟩
  refine Runs.along_invariant kept ?_ along ⟨honoured, thread, found, rfl⟩
  rintro reached move ⟨honoured, present, found, same⟩ holds
  exact same ▸ contract.receives honoured holds.1 holds.2 found move

end ApiGateway.Interleaving
