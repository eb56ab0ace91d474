import ApiGateway.Library.Effects
import ApiGateway.Library.Runs

/-!
# Interleaved programs

A program asks for one action at a time and continues with the answer; it ends
with a value or with an exception. Programs that share a state take turns, one
action each, in any order, while the surroundings change the state as well. A
world keeps the shared state, what is left of every program, the state each was
started in, and a log of the actions performed.

Run without interruption, a program is an operation, and sequence, handler and
loop of programs are those of operations. Where the answers to some actions are
known beforehand, they can be put into a program; what is left asks for the
other actions only.
-/

namespace ApiGateway.Interleaving

open Effects

/-- A program that waits for the answer to each of its actions. -/
inductive Program (A : Type) (answer : A → Type) (ε α : Type) where
  | done (ending : Except ε α)
  | ask (action : A) (next : answer action → Program A answer ε α)

namespace Program

variable {A : Type} {answer : A → Type} {ε α β σ : Type}

/-- Ask for one action and end with its answer. -/
def act (action : A) : Program A answer ε (answer action) :=
  .ask action (fun received => .done (.ok received))

/-- Sequence: an exception skips the continuation. -/
def andThen : Program A answer ε α → (α → Program A answer ε β) → Program A answer ε β
  | .done (.ok value), following => following value
  | .done (.error fault), _ => .done (.error fault)
  | .ask action next, following => .ask action (fun received => (next received).andThen following)

instance : Monad (Program A answer ε) where
  pure value := .done (.ok value)
  bind := andThen

instance (program : Program A answer ε α) : Decidable (∃ ending, program = .done ending) :=
  match program with
  | .done ending => isTrue ⟨ending, rfl⟩
  | .ask _ _ => isFalse (fun ⟨_, same⟩ => nomatch same)

/-- Continue with a handler after an exception. -/
def handle : Program A answer ε α → (ε → Program A answer ε α) → Program A answer ε α
  | .done (.ok value), _ => .done (.ok value)
  | .done (.error fault), handler => handler fault
  | .ask action next, handler => .ask action (fun received => (next received).handle handler)

/-- Ask the cache, then the loader, and keep what the loader returned. -/
def cacheAside (fetch load : Program A answer ε (Option α)) (keep : α → Program A answer ε Unit) :
    Program A answer ε (Option α) := do
  match ← fetch with
  | some found => pure (some found)
  | none =>
    match ← load with
    | none => pure none
    | some loaded =>
      keep loaded
      pure (some loaded)

/-- Ask for actions whose answers do not matter, then continue. -/
def inOrder (actions : List A) (last : Program A answer ε α) : Program A answer ε α :=
  actions.foldr (fun action rest => .ask action (fun _ => rest)) last

/-- What is left when some answers are known. -/
def given (known : (action : A) → Option (answer action)) :
    Program A answer ε α → Program A answer ε α
  | .done ending => .done ending
  | .ask action next =>
    match known action with
    | some received => (next received).given known
    | none => .ask action (fun received => (next received).given known)

@[simp] theorem pure_andThen (value : α) (following : α → Program A answer ε β) :
    (pure value : Program A answer ε α) >>= following = following value := rfl

@[simp] theorem done_ok_andThen (value : α) (following : α → Program A answer ε β) :
    (.done (.ok value) : Program A answer ε α) >>= following = following value := rfl

@[simp] theorem done_error_andThen (fault : ε) (following : α → Program A answer ε β) :
    (.done (.error fault) : Program A answer ε α) >>= following = .done (.error fault) := rfl

@[simp] theorem ask_andThen (action : A) (next : answer action → Program A answer ε α)
    (following : α → Program A answer ε β) :
    .ask action next >>= following = .ask action (fun received => next received >>= following) := rfl

theorem inOrder_append (former latter : List A) (last : Program A answer ε α) :
    inOrder (former ++ latter) last = inOrder former (inOrder latter last) :=
  List.foldr_append

theorem inOrder_handle (actions : List A) (last : Program A answer ε α)
    (handler : ε → Program A answer ε α) :
    (inOrder actions last).handle handler = inOrder actions (last.handle handler) := by
  induction actions with
  | nil => rfl
  | cons action rest ih =>
    simp only [inOrder, List.foldr_cons, handle] at ih ⊢
    rw [ih]

/-- A program that asks for actions in order asks for the first of them. -/
theorem ask_eq_inOrder {action : A} {next : answer action → Program A answer ε α} {actions : List A}
    {ending : Except ε α} (same : .ask action next = inOrder actions (.done ending)) :
    ∃ rest, actions = action :: rest ∧ ∀ received, next received = inOrder rest (.done ending) := by
  cases actions with
  | nil => cases same
  | cons first rest =>
    rw [inOrder, List.foldr_cons] at same
    cases same
    exact ⟨rest, rfl, fun _ => rfl⟩

theorem inOrder_andThen (actions : List A) (last : Program A answer ε α)
    (following : α → Program A answer ε β) :
    inOrder actions last >>= following = inOrder actions (last >>= following) := by
  induction actions with
  | nil => rfl
  | cons action rest ih =>
    simp only [inOrder, List.foldr_cons, ask_andThen] at ih ⊢
    rw [ih]

section Alone

variable (execute : (action : A) → σ → answer action × σ)

/-- The program without interruption. -/
def alone : Program A answer ε α → Effect ε σ α
  | .done ending => fun state => (ending, state)
  | .ask action next => fun state =>
      (next (execute action state).1).alone (execute action state).2

@[simp] theorem alone_pure (value : α) :
    alone execute (pure value : Program A answer ε α) = pure value := rfl

@[simp] theorem alone_done (ending : Except ε α) :
    alone execute (.done ending : Program A answer ε α) = Effect.ofExcept ending := rfl

theorem alone_bind (program : Program A answer ε α) (following : α → Program A answer ε β) :
    alone execute (program >>= following) =
      alone execute program >>= fun value => alone execute (following value) := by
  induction program with
  | done ending =>
    cases ending with
    | ok value => rfl
    | error fault => rfl
  | ask action next ih =>
    funext state
    exact congrFun (ih (execute action state).1) (execute action state).2

theorem alone_handle (program : Program A answer ε α) (handler : ε → Program A answer ε α) :
    alone execute (program.handle handler) =
      (alone execute program).handle (fun fault => alone execute (handler fault)) := by
  induction program with
  | done ending =>
    cases ending with
    | ok value => rfl
    | error fault => rfl
  | ask action next ih =>
    funext state
    exact congrFun (ih (execute action state).1) (execute action state).2

theorem alone_foldlM {ι : Type} (round : β → ι → Program A answer ε β) (items : List ι)
    (initial : β) :
    alone execute (items.foldlM round initial) =
      items.foldlM (fun accumulated item => alone execute (round accumulated item)) initial := by
  induction items generalizing initial with
  | nil => rfl
  | cons item rest ih =>
    rw [List.foldlM_cons, List.foldlM_cons, alone_bind]
    exact congrArg _ (funext ih)

theorem alone_cacheAside (fetch load : Program A answer ε (Option α))
    (keep : α → Program A answer ε Unit) :
    alone execute (cacheAside fetch load keep) =
      Effects.cacheAside (alone execute fetch) (alone execute load)
        (fun value => alone execute (keep value)) := by
  unfold cacheAside Effects.cacheAside
  rw [alone_bind]
  refine congrArg _ (funext fun fetched => ?_)
  cases fetched with
  | some found => rfl
  | none =>
    dsimp only
    rw [alone_bind]
    refine congrArg _ (funext fun loaded => ?_)
    cases loaded with
    | none => rfl
    | some value => exact alone_bind execute (keep value) _

end Alone

section Given

variable (known : (action : A) → Option (answer action))

@[simp] theorem given_pure (value : α) :
    given known (pure value : Program A answer ε α) = pure value := rfl

theorem given_known {action : A} {received : answer action} (answered : known action = some received)
    (next : answer action → Program A answer ε α) :
    given known (.ask action next) = given known (next received) := by
  simp [given, answered]

theorem given_unknown {action : A} (unanswered : known action = none)
    (next : answer action → Program A answer ε α) :
    given known (.ask action next) = .ask action (fun received => given known (next received)) := by
  simp [given, unanswered]

theorem given_bind (program : Program A answer ε α) (following : α → Program A answer ε β) :
    given known (program >>= following) =
      given known program >>= fun value => given known (following value) := by
  induction program with
  | done ending =>
    cases ending with
    | ok value => rfl
    | error fault => rfl
  | ask action next ih =>
    rw [ask_andThen]
    cases answered : known action with
    | some received => rw [given_known known answered, given_known known answered, ih]
    | none =>
      rw [given_unknown known answered, given_unknown known answered, ask_andThen]
      simp only [ih]

theorem given_handle (program : Program A answer ε α) (handler : ε → Program A answer ε α) :
    given known (program.handle handler) =
      (given known program).handle (fun fault => given known (handler fault)) := by
  induction program with
  | done ending =>
    cases ending with
    | ok value => rfl
    | error fault => rfl
  | ask action next ih =>
    rw [handle]
    cases answered : known action with
    | some received => rw [given_known known answered, given_known known answered, ih]
    | none =>
      rw [given_unknown known answered, given_unknown known answered, handle]
      simp only [ih]

/-- A loop whose rounds ask for actions that do not matter asks for them in order. -/
theorem given_foldlM {ι : Type} {round : β → ι → Program A answer ε β} {actions : ι → List A}
    {after : β → ι → β}
    (rounds : ∀ accumulated item, given known (round accumulated item) =
      inOrder (actions item) (pure (after accumulated item))) (items : List ι) (initial : β) :
    given known (items.foldlM round initial) =
      inOrder (items.flatMap actions) (pure (items.foldl after initial)) := by
  induction items generalizing initial with
  | nil => rfl
  | cons item rest ih =>
    rw [List.foldlM_cons, given_bind, rounds, inOrder_andThen, pure_andThen, ih,
      ← inOrder_append, List.flatMap_cons, List.foldl_cons]

end Given

section Interference

variable (answers : (action : A) → answer action → Prop)

/-- Whatever answers the program may receive, it ends as the postcondition says. -/
def Ends (post : Except ε α → Prop) : Program A answer ε α → Prop
  | .done ending => post ending
  | .ask action next => ∀ received, answers action received → (next received).Ends post

/-- Whatever answers it may receive, the program asks for permitted actions only. -/
def Asks (permitted : A → Prop) : Program A answer ε α → Prop
  | .done _ => True
  | .ask action next =>
      permitted action ∧ ∀ received, answers action received → (next received).Asks permitted

/-- Whatever answers it may receive, the program does not end before it has asked
for an action of a kind. -/
def Passes (kind : A → Prop) : Program A answer ε α → Prop
  | .done _ => False
  | .ask action next =>
      kind action ∨ ∀ received, answers action received → (next received).Passes kind

/-- Whatever answers it may receive, the program ends once it has asked for an action
of a kind. -/
def Closes (kind : A → Prop) : Program A answer ε α → Prop
  | .done _ => True
  | .ask action next => ∀ received, answers action received →
      (next received).Closes kind ∧ (kind action → ∃ ending, next received = .done ending)

variable {answers}

theorem ends_mono {former latter : Except ε α → Prop} (implies : ∀ ending, former ending → latter ending)
    {program : Program A answer ε α} (ends : program.Ends answers former) :
    program.Ends answers latter := by
  induction program with
  | done ending => exact implies ending ends
  | ask action next ih => exact fun received answered => ih _ (ends received answered)

/-- Nothing is asked of the ending. -/
theorem ends_trivial (program : Program A answer ε α) : program.Ends answers (fun _ => True) := by
  induction program with
  | done ending => trivial
  | ask action next ih => exact fun received _ => ih received

/-- What the first program ends with decides what the continuation is asked for. -/
theorem ends_bind {program : Program A answer ε α} {following : α → Program A answer ε β}
    {post : Except ε β → Prop}
    (ends : program.Ends answers (fun ending => match ending with
      | .ok value => (following value).Ends answers post
      | .error fault => post (.error fault))) :
    (program >>= following).Ends answers post := by
  induction program with
  | done ending =>
    cases ending with
    | ok value => exact ends
    | error fault => exact ends
  | ask action next ih => exact fun received answered => ih _ (ends received answered)

/-- The continuation of an action is asked for what each answer leaves to do. -/
theorem ends_ask {action : A} {following : answer action → Program A answer ε β}
    {post : Except ε β → Prop}
    (continues : ∀ received, answers action received → (following received).Ends answers post) :
    (act action >>= following).Ends answers post :=
  continues

/-- Where nothing is known of the first program, the continuation decides. -/
theorem ends_after {program : Program A answer ε α} {following : α → Program A answer ε β}
    {post : Except ε β → Prop} (failed : ∀ fault, post (.error fault))
    (continues : ∀ value, (following value).Ends answers post) :
    (program >>= following).Ends answers post := by
  refine ends_bind (ends_mono (fun ending _ => ?_) (ends_trivial program))
  cases ending with
  | ok value => exact continues value
  | error fault => exact failed fault

theorem ends_handle {program : Program A answer ε α} {handler : ε → Program A answer ε α}
    {post : Except ε α → Prop}
    (ends : program.Ends answers (fun ending => match ending with
      | .ok value => post (.ok value)
      | .error fault => (handler fault).Ends answers post)) :
    (program.handle handler).Ends answers post := by
  induction program with
  | done ending =>
    cases ending with
    | ok value => exact ends
    | error fault => exact ends
  | ask action next ih => exact fun received answered => ih _ (ends received answered)

/-- A loop ends with what each of its rounds keeps of the items so far. -/
theorem ends_foldlM_listed {ι : Type} (kept : List ι → β → Prop)
    {round : β → ι → Program A answer ε β} (earlier items : List ι)
    (rounds : ∀ earlier accumulated, ∀ item ∈ items, kept earlier accumulated →
      (round accumulated item).Ends answers (fun ending =>
        ∀ value, ending = .ok value → kept (earlier ++ [item]) value))
    {initial : β} (holds : kept earlier initial) :
    (items.foldlM round initial).Ends answers (fun ending =>
      ∀ value, ending = .ok value → kept (earlier ++ items) value) := by
  induction items generalizing earlier initial with
  | nil =>
    intro value same
    rw [← Except.ok.inj same, List.append_nil]
    exact holds
  | cons item rest ih =>
    rw [List.foldlM_cons]
    refine ends_bind (ends_mono (fun ending reached => ?_)
      (rounds earlier initial item List.mem_cons_self holds))
    cases ending with
    | ok value =>
      have looped := ih (earlier ++ [item]) (fun earlier accumulated other member =>
        rounds earlier accumulated other (List.mem_cons_of_mem item member)) (reached value rfl)
      rwa [List.append_assoc, List.singleton_append] at looped
    | error fault => exact fun value same => nomatch same

/-- A loop whose rounds all end normally does. -/
theorem ends_foldlM_normally {ι : Type} {round : β → ι → Program A answer ε β} (items : List ι)
    (rounds : ∀ accumulated item, (round accumulated item).Ends answers (fun ending =>
      ∃ value, ending = .ok value)) (initial : β) :
    (items.foldlM round initial).Ends answers (fun ending => ∃ value, ending = .ok value) := by
  induction items generalizing initial with
  | nil => exact ⟨initial, rfl⟩
  | cons item rest ih =>
    rw [List.foldlM_cons]
    refine ends_bind (ends_mono ?_ (rounds initial item))
    rintro ending ⟨value, rfl⟩
    exact ih value

theorem asks_bind {permitted : A → Prop} {program : Program A answer ε α}
    {following : α → Program A answer ε β} (asks : program.Asks answers permitted)
    (ends : program.Ends answers (fun ending =>
      ∀ value, ending = .ok value → (following value).Asks answers permitted)) :
    (program >>= following).Asks answers permitted := by
  induction program with
  | done ending =>
    cases ending with
    | ok value => exact ends value rfl
    | error fault => trivial
  | ask action next ih =>
    exact ⟨asks.1, fun received answered =>
      ih _ (asks.2 received answered) (ends received answered)⟩

/-- A program that may receive fewer answers asks for no more. -/
theorem asks_mono {more : (action : A) → answer action → Prop} {permitted allowed : A → Prop}
    (fewer : ∀ action received, answers action received → more action received)
    (implies : ∀ action, permitted action → allowed action) {program : Program A answer ε α}
    (asks : program.Asks more permitted) : program.Asks answers allowed := by
  induction program with
  | done ending => trivial
  | ask action next ih =>
    exact ⟨implies action asks.1,
      fun received answered => ih received (asks.2 received (fewer action received answered))⟩

theorem asks_handle {permitted : A → Prop} {program : Program A answer ε α}
    {handler : ε → Program A answer ε α} (asks : program.Asks answers permitted)
    (handled : ∀ fault, (handler fault).Asks answers permitted) :
    (program.handle handler).Asks answers permitted := by
  induction program with
  | done ending =>
    cases ending with
    | ok value => trivial
    | error fault => exact handled fault
  | ask action next ih =>
    exact ⟨asks.1, fun received answered => ih _ (asks.2 received answered)⟩

/-- A loop asks for what its rounds ask for. -/
theorem asks_foldlM {ι : Type} {permitted : A → Prop} {round : β → ι → Program A answer ε β}
    (items : List ι) (initial : β)
    (rounds : ∀ accumulated, ∀ item ∈ items, (round accumulated item).Asks answers permitted) :
    (items.foldlM round initial).Asks answers permitted := by
  induction items generalizing initial with
  | nil => trivial
  | cons item rest ih =>
    rw [List.foldlM_cons]
    have later : ∀ accumulated, (rest.foldlM round accumulated).Asks answers permitted :=
      fun accumulated => ih accumulated fun before other member =>
        rounds before other (List.mem_cons_of_mem item member)
    exact asks_bind (rounds initial item List.mem_cons_self)
      (ends_mono (fun _ _ accumulated _ => later accumulated) (ends_trivial _))

theorem passes_bind_first {kind : A → Prop} {program : Program A answer ε α}
    {following : α → Program A answer ε β} (passes : program.Passes answers kind) :
    (program >>= following).Passes answers kind := by
  induction program with
  | done ending => exact passes.elim
  | ask action next ih =>
    rcases passes with right | later
    · exact Or.inl right
    · exact Or.inr (fun received answered => ih _ (later received answered))

/-- A program that ends normally leaves the action to its continuation. -/
theorem passes_bind_second {kind : A → Prop} {program : Program A answer ε α}
    {following : α → Program A answer ε β}
    (ends : program.Ends answers (fun ending =>
      ∃ value, ending = .ok value ∧ (following value).Passes answers kind)) :
    (program >>= following).Passes answers kind := by
  induction program with
  | done ending =>
    obtain ⟨value, rfl, passes⟩ := ends
    exact passes
  | ask action next ih => exact Or.inr (fun received answered => ih _ (ends received answered))

theorem passes_handle {kind : A → Prop} {program : Program A answer ε α}
    {handler : ε → Program A answer ε α} (passes : program.Passes answers kind) :
    (program.handle handler).Passes answers kind := by
  induction program with
  | done ending => exact passes.elim
  | ask action next ih =>
    rcases passes with right | later
    · exact Or.inl right
    · exact Or.inr (fun received answered => ih _ (later received answered))

/-- A loop passes an action if one of its rounds does and all of them end normally. -/
theorem passes_foldlM {ι : Type} {kind : A → Prop} {round : β → ι → Program A answer ε β}
    {items : List ι} {item : ι} (member : item ∈ items)
    (passes : ∀ accumulated, (round accumulated item).Passes answers kind)
    (ends : ∀ accumulated item, (round accumulated item).Ends answers (fun ending =>
      ∃ value, ending = .ok value)) (initial : β) :
    (items.foldlM round initial).Passes answers kind := by
  induction items generalizing initial with
  | nil => cases member
  | cons first rest ih =>
    rw [List.foldlM_cons]
    cases member with
    | head => exact passes_bind_first (passes initial)
    | tail _ later =>
      refine passes_bind_second (ends_mono ?_ (ends initial first))
      rintro ending ⟨value, rfl⟩
      exact ⟨value, rfl, ih later value⟩

/-- A program that asks for no action of the kind leaves it to its continuation. -/
theorem closes_bind {kind : A → Prop} {program : Program A answer ε α}
    {following : α → Program A answer ε β} (asks : program.Asks answers (fun action => ¬ kind action))
    (closes : ∀ value, (following value).Closes answers kind) :
    (program >>= following).Closes answers kind := by
  induction program with
  | done ending =>
    cases ending with
    | ok value => exact closes value
    | error fault => trivial
  | ask action next ih =>
    exact fun received answered =>
      ⟨ih _ (asks.2 received answered), fun right => absurd right asks.1⟩

theorem closes_map {kind : A → Prop} {program : Program A answer ε α} {result : α → β}
    (closes : program.Closes answers kind) :
    (program >>= fun value => pure (result value)).Closes answers kind := by
  induction program with
  | done ending =>
    cases ending with
    | ok value => trivial
    | error fault => trivial
  | ask action next ih =>
    intro received answered
    obtain ⟨later, ends⟩ := closes received answered
    refine ⟨ih _ later, fun right => ?_⟩
    obtain ⟨ending, done⟩ := ends right
    dsimp only
    rw [done]
    cases ending with
    | ok value => exact ⟨_, rfl⟩
    | error fault => exact ⟨_, rfl⟩

theorem closes_handle {kind : A → Prop} {program : Program A answer ε α} {recovered : ε → α}
    (closes : program.Closes answers kind) :
    (program.handle (fun fault => pure (recovered fault))).Closes answers kind := by
  induction program with
  | done ending =>
    cases ending with
    | ok value => trivial
    | error fault => trivial
  | ask action next ih =>
    intro received answered
    obtain ⟨later, ends⟩ := closes received answered
    refine ⟨ih _ later, fun right => ?_⟩
    obtain ⟨ending, done⟩ := ends right
    dsimp only
    rw [done]
    cases ending with
    | ok value => exact ⟨_, rfl⟩
    | error fault => exact ⟨_, rfl⟩

/-- A program whose handler ends normally does. -/
theorem ends_caught {handler : ε → Program A answer ε α}
    (caught : ∀ fault, (handler fault).Ends answers (fun ending => ∃ value, ending = .ok value))
    (program : Program A answer ε α) :
    (program.handle handler).Ends answers (fun ending => ∃ value, ending = .ok value) := by
  refine ends_handle (ends_mono (fun ending _ => ?_) (ends_trivial program))
  cases ending with
  | ok value => exact ⟨value, rfl⟩
  | error fault => exact caught fault

end Interference

end Program

section Worlds

variable {A : Type} {answer : A → Type} {ε α σ Change Actor : Type}

/-- How actions are performed, how the surroundings change the state, and the
program an actor starts in a state. -/
structure System (A : Type) (answer : A → Type) (ε α σ Change Actor : Type) where
  execute : (action : A) → σ → answer action × σ
  alter : Change → σ → σ
  launch : Actor → σ → Program A answer ε α

/-- A program under way and the state it was started in. -/
structure Thread (A : Type) (answer : A → Type) (ε α σ : Type) where
  origin : σ
  left : Program A answer ε α

/-- The shared state, the programs in the order they were started, and who
performed which action so far. -/
structure World (A : Type) (answer : A → Type) (ε α σ : Type) where
  shared : σ
  threads : List (Thread A answer ε α σ)
  log : List (Nat × A)

/-- A world in which nothing has been started. -/
def World.idle (shared : σ) : World A answer ε α σ := ⟨shared, [], []⟩

/-- How a program ended, if it has. -/
def World.ending (world : World A answer ε α σ) (index : Nat) : Option (Except ε α) :=
  world.threads[index]?.bind (fun thread =>
    match thread.left with
    | .done ending => some ending
    | .ask _ _ => none)

/-- What a program has performed, in order. -/
def World.performed (world : World A answer ε α σ) (index : Nat) : List A :=
  world.log.filterMap (fun entry => if entry.1 = index then some entry.2 else none)

/-- What can happen next. -/
inductive Move (Change Actor : Type) where
  | changes (change : Change)
  | starts (actor : Actor)
  | advances (index : Nat)

/-- A move that is not a change of the surroundings. -/
def Move.internal : Move Change Actor → Bool
  | .changes _ => false
  | _ => true

/-- One program performs the action it asks for. -/
def World.performs (execute : (action : A) → σ → answer action × σ)
    (world : World A answer ε α σ) (index : Nat) (origin : σ) (action : A)
    (next : answer action → Program A answer ε α) : World A answer ε α σ where
  shared := (execute action world.shared).2
  threads := world.threads.set index ⟨origin, next (execute action world.shared).1⟩
  log := world.log ++ [(index, action)]

/-- Make one move. A program that has ended does not move. -/
def System.move (system : System A answer ε α σ Change Actor) :
    Move Change Actor → World A answer ε α σ → World A answer ε α σ
  | .changes change, world => { world with shared := system.alter change world.shared }
  | .starts actor, world =>
      { world with
        threads := world.threads ++ [⟨world.shared, system.launch actor world.shared⟩] }
  | .advances index, world =>
    match world.threads[index]? with
    | some ⟨origin, .ask action next⟩ => world.performs system.execute index origin action next
    | _ => world

/-- Who performs which action in a move. -/
def World.acts (world : World A answer ε α σ) : Move Change Actor → Option (Nat × A)
  | .advances index =>
    match world.threads[index]? with
    | some ⟨_, .ask action _⟩ => some (index, action)
    | _ => none
  | _ => none

variable {system : System A answer ε α σ Change Actor} {world : World A answer ε α σ}

theorem ending_eq_some_iff {index : Nat} {ending : Except ε α} :
    world.ending index = some ending ↔
      ∃ thread, world.threads[index]? = some thread ∧ thread.left = .done ending := by
  unfold World.ending
  rw [Option.bind_eq_some_iff]
  refine exists_congr fun thread => and_congr_right fun _ => ?_
  cases thread.left with
  | done reached => simp
  | ask action next => simp

theorem mem_performed {index : Nat} {action : A} :
    action ∈ world.performed index ↔ (index, action) ∈ world.log := by
  rw [World.performed, List.mem_filterMap]
  constructor
  · rintro ⟨⟨actor, other⟩, logged, performed⟩
    dsimp only at performed
    split at performed
    · next same =>
      rw [← Option.some.inj performed, ← same]
      exact logged
    · cases performed
  · exact fun logged => ⟨_, logged, if_pos rfl⟩

theorem acts_asking {index : Nat} {origin : σ} {action : A} {next : answer action → Program A answer ε α}
    (asking : world.threads[index]? = some ⟨origin, .ask action next⟩) :
    world.acts (.advances index : Move Change Actor) = some (index, action) := by
  simp [World.acts, asking]

theorem move_asking {index : Nat} {origin : σ} {action : A} {next : answer action → Program A answer ε α}
    (asking : world.threads[index]? = some ⟨origin, .ask action next⟩) :
    system.move (.advances index) world = world.performs system.execute index origin action next := by
  simp [System.move, asking]

/-- Letting a program advance performs the action it asks for, or nothing. -/
theorem move_advances (system : System A answer ε α σ Change Actor) (world : World A answer ε α σ)
    (index : Nat) :
    (∃ origin action next, world.threads[index]? = some ⟨origin, .ask action next⟩ ∧
        system.move (.advances index) world =
          world.performs system.execute index origin action next) ∨
      system.move (.advances index) world = world := by
  cases found : world.threads[index]? with
  | none => exact Or.inr (by simp [System.move, found])
  | some thread =>
    obtain ⟨origin, left⟩ := thread
    cases left with
    | done ending => exact Or.inr (by simp [System.move, found])
    | ask action next => exact Or.inl ⟨origin, action, next, rfl, move_asking found⟩

/-- A program that does not ask for an action is not moved. -/
theorem asks_or_idle (system : System A answer ε α σ Change Actor) (world : World A answer ε α σ)
    (index : Nat) :
    (∃ origin action next, world.threads[index]? = some ⟨origin, .ask action next⟩) ∨
      (world.acts (.advances index : Move Change Actor) = none ∧
        system.move (.advances index) world = world) := by
  cases found : world.threads[index]? with
  | none => exact Or.inr (by simp [World.acts, System.move, found])
  | some thread =>
    obtain ⟨origin, left⟩ := thread
    cases left with
    | done ending => exact Or.inr (by simp [World.acts, System.move, found])
    | ask action next => exact Or.inl ⟨origin, action, next, rfl⟩

/-- A program under way is left alone by a move, or performs the action it asks
for itself. -/
theorem move_thread {index : Nat} {thread : Thread A answer ε α σ}
    (found : world.threads[index]? = some thread) (move : Move Change Actor) :
    ((system.move move world).threads[index]? = some thread ∧
        (system.move move world).performed index = world.performed index) ∨
      ∃ action next, move = .advances index ∧ thread.left = .ask action next ∧
        (system.move move world).threads[index]? =
          some ⟨thread.origin, next (system.execute action world.shared).1⟩ ∧
        (system.move move world).performed index = world.performed index ++ [action] := by
  have present : index < world.threads.length := (List.getElem?_eq_some_iff.mp found).1
  cases move with
  | changes change => exact Or.inl ⟨found, rfl⟩
  | starts actor =>
    refine Or.inl ⟨?_, rfl⟩
    rw [System.move, List.getElem?_append_left present, found]
  | advances other =>
    rcases move_advances system world other with ⟨origin, action, next, asking, moved⟩ | idle
    · rw [moved]
      by_cases same : other = index
      · subst other
        obtain rfl := Option.some.inj (found.symm.trans asking)
        exact Or.inr ⟨action, next, rfl, rfl, List.getElem?_set_self present,
          by simp [World.performs, World.performed]⟩
      · exact Or.inl ⟨(List.getElem?_set_ne same).trans found,
          by simp [World.performs, World.performed, same]⟩
    · rw [idle]
      exact Or.inl ⟨found, rfl⟩

/-- A program that has ended stays so. -/
theorem ended_move {index : Nat} {ending : Except ε α} (ended : world.ending index = some ending)
    (move : Move Change Actor) : (system.move move world).ending index = some ending := by
  obtain ⟨thread, found, done⟩ := ending_eq_some_iff.mp ended
  rcases move_thread found move with ⟨alone, _⟩ | ⟨action, next, _, asks, _⟩
  · exact ending_eq_some_iff.mpr ⟨thread, alone, done⟩
  · cases done.symm.trans asks

/-- A program that a move has added is one that it started. -/
theorem move_fresh {index : Nat} {thread : Thread A answer ε α σ} {move : Move Change Actor}
    (absent : world.threads[index]? = none)
    (found : (system.move move world).threads[index]? = some thread) :
    ∃ actor, thread = ⟨world.shared, system.launch actor world.shared⟩ := by
  have beyond : world.threads.length ≤ index := List.getElem?_eq_none_iff.mp absent
  cases move with
  | changes change => cases absent.symm.trans found
  | starts actor =>
    rw [System.move, List.getElem?_append_right beyond] at found
    exact ⟨actor, List.mem_singleton.mp (List.mem_of_getElem? found)⟩
  | advances other =>
    rcases move_advances system world other with ⟨origin, action, next, _, moved⟩ | idle
    · rw [moved] at found
      have within := (List.getElem?_eq_some_iff.mp found).1
      rw [World.performs, List.length_set] at within
      omega
    · rw [idle] at found
      cases absent.symm.trans found

/-- Every action was performed by a program that had been started. -/
theorem log_started {index : Nat} {action : A} {moves : List (Move Change Actor)}
    (before : ∀ entry ∈ world.log, entry.1 < world.threads.length)
    (logged : (index, action) ∈ (Runs.run system.move moves world).log) :
    index < (Runs.run system.move moves world).threads.length := by
  have kept : ∀ (world : World A answer ε α σ) (move : Move Change Actor),
      (∀ entry ∈ world.log, entry.1 < world.threads.length) → True →
        ∀ entry ∈ (system.move move world).log, entry.1 < (system.move move world).threads.length := by
    intro world move bounded _ entry member
    cases move with
    | changes change => exact bounded entry member
    | starts actor =>
      rw [System.move, List.length_append]
      exact Nat.lt_add_right _ (bounded entry member)
    | advances other =>
      rcases move_advances system world other with ⟨origin, action, next, asking, moved⟩ | idle
      · rw [moved, World.performs] at member ⊢
        rw [List.length_set]
        rcases List.mem_append.mp member with earlier | now
        · exact bounded entry earlier
        · rw [List.mem_singleton.mp now]
          exact (List.getElem?_eq_some_iff.mp asking).1
      · rw [idle] at member ⊢
        exact bounded entry member
  exact Runs.invariant_run kept (Runs.along_of_forall (fun _ _ => trivial) moves world) before _ logged

/-- The log only grows. -/
theorem log_grows (system : System A answer ε α σ Change Actor) (moves : List (Move Change Actor))
    (world : World A answer ε α σ) : world.log <+: (Runs.run system.move moves world).log := by
  have grows : ∀ (reached : World A answer ε α σ) (move : Move Change Actor),
      world.log <+: reached.log → True → world.log <+: (system.move move reached).log := by
    intro reached move part _
    cases move with
    | changes change => exact part
    | starts actor => exact part
    | advances index =>
      rcases move_advances system reached index with ⟨origin, action, next, _, moved⟩ | idle
      · rw [moved]
        exact part.trans (List.prefix_append _ _)
      · rw [idle]
        exact part
  exact Runs.invariant_run grows (Runs.along_of_forall (fun _ _ => trivial) moves world)
    (List.prefix_refl _)

section Answers

variable (answers : (action : A) → answer action → Prop)

/-- When one program advances, it receives one of the answers it may receive. -/
def Receives (system : System A answer ε α σ Change Actor) (index : Nat) (world : World A answer ε α σ) :
    Move Change Actor → Prop
  | .advances advancing => ∀ origin action next, advancing = index →
      world.threads[index]? = some ⟨origin, .ask action next⟩ →
        answers action (system.execute action world.shared).1
  | _ => True

/-- When programs advance, they receive answers they may receive. -/
def ReceiveAll (system : System A answer ε α σ Change Actor) (world : World A answer ε α σ)
    (move : Move Change Actor) : Prop :=
  ∀ index, Receives answers system index world move

variable {answers} {index : Nat} {moves : List (Move Change Actor)}

/-- A property of what a program has performed and of what is left of it stays, if
every answer it may receive leaves it. -/
theorem continues_run (property : List A → Program A answer ε α → Prop)
    (continues : ∀ performed action next received, property performed (.ask action next) →
      answers action received → property (performed ++ [action]) (next received))
    {thread : Thread A answer ε α σ} (found : world.threads[index]? = some thread)
    (holds : property (world.performed index) thread.left)
    (along : Runs.Along system.move (Receives answers system index) moves world) :
    ∃ thread, (Runs.run system.move moves world).threads[index]? = some thread ∧
      property ((Runs.run system.move moves world).performed index) thread.left := by
  have kept : ∀ (reached : World A answer ε α σ) (move : Move Change Actor),
      (∃ thread, reached.threads[index]? = some thread ∧
        property (reached.performed index) thread.left) →
      Receives answers system index reached move →
        ∃ thread, (system.move move reached).threads[index]? = some thread ∧
          property ((system.move move reached).performed index) thread.left := by
    rintro reached move ⟨thread, found, holds⟩ receives
    rcases move_thread found move with ⟨alone, silent⟩ | ⟨action, next, rfl, same, moved, performed⟩
    · rw [silent]
      exact ⟨thread, alone, holds⟩
    · obtain ⟨origin, left⟩ := thread
      obtain rfl : left = .ask action next := same
      rw [performed]
      exact ⟨_, moved, continues _ action next _ holds (receives origin action next rfl found)⟩
  exact Runs.invariant_run kept along ⟨thread, found, holds⟩

/-- A program that asks for permitted actions only performs no others. -/
theorem asks_run {permitted : A → Prop} {thread : Thread A answer ε α σ}
    (found : world.threads[index]? = some thread) (asks : thread.left.Asks answers permitted)
    (along : Runs.Along system.move (Receives answers system index) moves world) {action : A}
    (logged : (index, action) ∈ (Runs.run system.move moves world).log) :
    (index, action) ∈ world.log ∨ permitted action := by
  have permitting := continues_run (fun performed left => left.Asks answers permitted ∧
    ∀ action ∈ performed, (index, action) ∈ world.log ∨ permitted action) ?_ found
      ⟨asks, fun _ member => Or.inl (mem_performed.mp member)⟩ along
  · obtain ⟨_, _, _, only⟩ := permitting
    exact only action (mem_performed.mpr logged)
  · rintro performed action next received ⟨asks, only⟩ answered
    refine ⟨asks.2 received answered, fun other member => ?_⟩
    rcases List.mem_append.mp member with earlier | now
    · exact only other earlier
    · exact Or.inr (List.mem_singleton.mp now ▸ asks.1)

/-- A program that ends once it has asked for an action of a kind performs at most
one of them. -/
theorem closes_run {kind : A → Prop} [DecidablePred kind] {thread : Thread A answer ε α σ}
    (found : world.threads[index]? = some thread) (closes : thread.left.Closes answers kind)
    (before : (world.performed index).countP (fun action => kind action) = 0)
    (along : Runs.Along system.move (Receives answers system index) moves world) :
    ((Runs.run system.move moves world).performed index).countP (fun action => kind action) ≤ 1 := by
  have closing := continues_run (fun performed left =>
    performed.countP (fun action => kind action) = 0 ∧ left.Closes answers kind ∨
      performed.countP (fun action => kind action) = 1 ∧ ∃ ending, left = .done ending) ?_ found
        (Or.inl ⟨before, closes⟩) along
  · obtain ⟨_, _, ⟨none, _⟩ | ⟨one, _⟩⟩ := closing
    · omega
    · omega
  · rintro performed action next received (⟨none, closes⟩ | ⟨_, _, ended⟩) answered
    · obtain ⟨later, ends⟩ := closes received answered
      by_cases right : kind action
      · exact Or.inr ⟨by simp [none, right], ends right⟩
      · exact Or.inl ⟨by simp [none, right], later⟩
    · cases ended

/-- A program that receives certain answers receives answers that include them. -/
theorem receives_mono {more : (action : A) → answer action → Prop}
    (implies : ∀ action received, answers action received → more action received)
    {move : Move Change Actor} (receives : Receives answers system index world move) :
    Receives more system index world move := by
  cases move with
  | advances advancing =>
    exact fun origin action next same asking => implies _ _ (receives origin action next same asking)
  | _ => trivial

/-- Any answer is an answer. -/
theorem receives_any (system : System A answer ε α σ Change Actor) (index : Nat)
    (moves : List (Move Change Actor)) (world : World A answer ε α σ) :
    Runs.Along system.move (Receives (fun _ _ => True) system index) moves world := by
  refine Runs.along_of_forall (fun reached move => ?_) moves world
  cases move with
  | advances advancing => exact fun _ _ _ _ _ => trivial
  | _ => trivial

/-- A program that has ended receives nothing more. -/
theorem receives_ended {ending : Except ε α} (ended : world.ending index = some ending)
    (move : Move Change Actor) : Receives answers system index world move := by
  cases move with
  | advances advancing =>
    intro origin action next _ asking
    obtain ⟨thread, found, done⟩ := ending_eq_some_iff.mp ended
    obtain rfl := Option.some.inj (asking.symm.trans found)
    cases done
  | _ => trivial

/-- A program that has ended ended as its postcondition says. -/
theorem ends_run {post : Except ε α → Prop} {thread : Thread A answer ε α σ}
    (found : world.threads[index]? = some thread) (ends : thread.left.Ends answers post)
    (along : Runs.Along system.move (Receives answers system index) moves world)
    {ending : Except ε α} (ended : (Runs.run system.move moves world).ending index = some ending) :
    post ending := by
  obtain ⟨last, present, done⟩ := ending_eq_some_iff.mp ended
  obtain ⟨reached, same, holds⟩ := continues_run (fun _ left => left.Ends answers post)
    (fun _ _ _ received ends answered => ends received answered) found ends along
  obtain rfl := Option.some.inj (present.symm.trans same)
  rw [done] at holds
  exact holds

/-- A program that has ended has asked for an action that it could not pass. -/
theorem passes_run {kind : A → Prop} {thread : Thread A answer ε α σ}
    (found : world.threads[index]? = some thread) (passes : thread.left.Passes answers kind)
    (along : Runs.Along system.move (Receives answers system index) moves world)
    {ending : Except ε α} (ended : (Runs.run system.move moves world).ending index = some ending) :
    ∃ action, (index, action) ∈ (Runs.run system.move moves world).log ∧ kind action := by
  obtain ⟨last, present, done⟩ := ending_eq_some_iff.mp ended
  have passing := continues_run (fun performed left =>
    left.Passes answers kind ∨ ∃ action ∈ performed, kind action) ?_ found (Or.inl passes) along
  · obtain ⟨reached, same, passed⟩ := passing
    obtain rfl := Option.some.inj (present.symm.trans same)
    rw [done] at passed
    obtain ⟨action, asked, right⟩ := passed.resolve_left id
    exact ⟨action, mem_performed.mp asked, right⟩
  · rintro performed action next received (passes | ⟨earlier, asked, right⟩) answered
    · rcases passes with right | later
      · exact Or.inr ⟨action, List.mem_append_right _ (List.mem_singleton_self action), right⟩
      · exact Or.inl (later received answered)
    · exact Or.inr ⟨earlier, List.mem_append_left _ asked, right⟩

/-- Programs that are started from now on end as their postcondition says. -/
theorem started_run {post : Except ε α → Prop}
    (launches : ∀ actor state, (system.launch actor state).Ends answers post)
    (along : Runs.Along system.move (ReceiveAll answers system) moves world)
    (started : world.threads.length ≤ index) {ending : Except ε α}
    (ended : (Runs.run system.move moves world).ending index = some ending) : post ending := by
  have kept : ∀ (reached : World A answer ε α σ) (move : Move Change Actor),
      (∀ thread, reached.threads[index]? = some thread → thread.left.Ends answers post) →
      ReceiveAll answers system reached move →
        ∀ thread, (system.move move reached).threads[index]? = some thread →
          thread.left.Ends answers post := by
    intro reached move ends receives thread found
    cases present : reached.threads[index]? with
    | some before =>
      obtain ⟨origin, left⟩ := before
      rcases move_thread present move with ⟨alone, _⟩ | ⟨action, next, rfl, same, moved, _⟩
      · obtain rfl := Option.some.inj (found.symm.trans alone)
        exact ends _ present
      · obtain rfl : left = .ask action next := same
        obtain rfl := Option.some.inj (found.symm.trans moved)
        exact ends _ present _ (receives index origin action next rfl present)
    | none =>
      obtain ⟨actor, rfl⟩ := move_fresh present found
      exact launches actor reached.shared
  obtain ⟨last, present, done⟩ := ending_eq_some_iff.mp ended
  have ends := Runs.invariant_run kept along (fun thread before => by
    have short := (List.getElem?_eq_some_iff.mp before).1
    omega) last present
  rw [done] at ends
  exact ends

end Answers

section Contexts

variable {γ : Type} {index : Nat} {origin : σ}

/-- A program that runs a part of its own first is still in that part after some
moves, or was done with it after fewer. -/
theorem context_run {context : Program A answer ε γ → Program A answer ε α}
    (runs : ∀ action next, context (.ask action next) =
      .ask action (fun received => context (next received)))
    (moves : List (Move Change Actor)) {part : Program A answer ε γ}
    (found : world.threads[index]? = some ⟨origin, context part⟩) :
    (∃ action next, (Runs.run system.move moves world).threads[index]? =
        some ⟨origin, context (.ask action next)⟩) ∨
      ∃ during rest ending, moves = during ++ rest ∧
        (Runs.run system.move during world).threads[index]? =
          some ⟨origin, context (.done ending)⟩ := by
  induction moves generalizing world part with
  | nil =>
    cases part with
    | done ending => exact Or.inr ⟨[], [], ending, rfl, found⟩
    | ask action next => exact Or.inl ⟨action, next, found⟩
  | cons move moves ih =>
    cases part with
    | done ending => exact Or.inr ⟨[], _, ending, rfl, found⟩
    | ask action next =>
      have later : ∃ left, (system.move move world).threads[index]? = some ⟨origin, context left⟩ := by
        rcases move_thread found move with ⟨alone, _⟩ | ⟨asked, continuing, rfl, same, moved, _⟩
        · exact ⟨_, alone⟩
        · have unfolded := (runs action next).symm.trans same
          cases unfolded
          exact ⟨_, moved⟩
      obtain ⟨left, reached⟩ := later
      rcases ih reached with asking | ⟨during, rest, ending, rfl, ended⟩
      · exact Or.inl asking
      · exact Or.inr ⟨move :: during, rest, ending, rfl, ended⟩

end Contexts

end Worlds

end ApiGateway.Interleaving
