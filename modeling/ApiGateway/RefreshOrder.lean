import ApiGateway.CachedPath
import ApiGateway.ConcurrentCalls

/-!
# Concurrent refreshes

Several refreshes run at once. Each reads one content of the database when it is
started; what is left of it is the list of its writes, and these interleave with
the writes of the others. The refresh started last has read the latest content.

Every place that is written, a key in one tier or the snapshot, ends with what
the last writer put there. The invariant: the refresh started last has yet to
write the place, or the place holds what that refresh registers for it. An older
refresh that writes a place after the last one has finished with it, or a key
that the last one does not register at all, breaks it.
-/

namespace ApiGateway.Concurrent

open TwoTier Interleaving

/-- A place that refreshes write. -/
inductive Place where
  | memory (key : Text)
  | store (key : Text)
  | snapshot
deriving DecidableEq

/-- The place an action writes. -/
def Action.place : Action → Option Place
  | .cacheMemory key _ => some (.memory key)
  | .cacheStore key _ _ => some (.store key)
  | .publish _ => some .snapshot
  | _ => none

/-- The value an action writes to a tier. -/
def Action.value : Action → Option CacheValue
  | .cacheMemory _ value => some value
  | .cacheStore _ value _ => some value
  | _ => none

/-- What a tier has at a place. -/
def heldAt (gateway : Gateway) : Place → Option CacheValue
  | .memory key => gateway.cache.inMemory key
  | .store key => gateway.cache.inStore key
  | .snapshot => none

section Tiers

variable {gateway : Gateway} {place : Place} {value : CacheValue}

/-- What a tier has after an action the action has written there, or the tier had
it before and the action went elsewhere or was not answered. -/
theorem heldAt_execute {action : Action}
    (live : heldAt (execute action gateway).2 place = some value) :
    (action.place = some place ∧ action.value = some value) ∨
      (heldAt gateway place = some value ∧ (action.place ≠ some place ∨
        ∃ key, place = .store key ∧ gateway.cache.storeAnswers key = false)) := by
  cases action with
  | cacheMemory key written =>
    cases place with
    | memory tested =>
      by_cases same : tested = key
      · subst same
        rcases Cache.insertMemory_self gateway.cache tested oneHour written with kept | refused
        · exact Or.inl ⟨rfl, kept.symm.trans live⟩
        · cases refused.symm.trans live
      · have before := (Cache.insertMemory_other oneHour written same).symm.trans live
        exact Or.inr ⟨before, Or.inl fun placed => same (by cases placed; rfl)⟩
    | store tested => exact Or.inr ⟨live, Or.inl fun placed => nomatch placed⟩
    | snapshot => cases live
  | cacheStore key written timeToLive =>
    cases place with
    | memory tested =>
      have before := (Cache.insertStore_memory timeToLive written tested).symm.trans live
      exact Or.inr ⟨before, Or.inl fun placed => nomatch placed⟩
    | store tested =>
      by_cases same : tested = key
      · subst same
        rcases Cache.insertStore_self gateway.cache tested timeToLive written with
          kept | gone | ⟨silent, unchanged⟩
        · exact Or.inl ⟨rfl, kept.symm.trans live⟩
        · cases gone.symm.trans live
        · exact Or.inr ⟨unchanged.symm.trans live, Or.inr ⟨tested, rfl, silent⟩⟩
      · have before := (Cache.insertStore_other timeToLive written same).symm.trans live
        exact Or.inr ⟨before, Or.inl fun placed => same (by cases placed; rfl)⟩
    | snapshot => cases live
  | publish snapshot =>
    cases place with
    | snapshot => cases live
    | _ => exact Or.inr ⟨live, Or.inl fun placed => nomatch placed⟩
  | _ => exact Or.inr ⟨live, Or.inl fun placed => nomatch placed⟩

/-- A change of the surroundings adds nothing to a tier. -/
theorem heldAt_alter {change : Change} (live : heldAt (alter change gateway) place = some value) :
    heldAt gateway place = some value := by
  cases change with
  | tiers decay =>
    cases place with
    | memory key => exact Cache.inMemory_decay live
    | store key => exact Cache.inStore_decay live
    | snapshot => cases live
  | _ => cases place <;> exact live

end Tiers

/-- Refreshes that read one content of the database, each when it is started. -/
def refreshes (platform : Platform) : System Action Answer Fault Unit Gateway Change Unit where
  execute := execute
  alter := alter
  launch := fun _ gateway => (refreshPoliciesAsync platform).given (registryAnswers gateway.database)

/-- Refreshes under way. -/
abbrev Refreshes : Type := World Action Answer Fault Unit Gateway

/-- What a content of the database registers under a cache key. -/
def RegistersAt (platform : Platform) (database : Database) (key : Text) (value : CacheValue) : Prop :=
  ∃ routeKey policy, key = PolicyCache.policyKey routeKey ∧ value = .policy policy ∧
    (PolicyResolver.snapshotOf platform database).tryGetValue routeKey = some policy

/-- The place holds nothing but what a content of the database registers for it. -/
def HoldsRegistered (platform : Platform) (database : Database) (gateway : Gateway) : Place → Prop
  | .memory key => ∀ value, gateway.cache.inMemory key = some value →
      RegistersAt platform database key value
  | .store key => ∀ value, gateway.cache.inStore key = some value →
      RegistersAt platform database key value
  | .snapshot => gateway.policySnapshot = PolicyResolver.snapshotOf platform database

/-- Some refresh has written the place. -/
def Written (calls : Refreshes) (place : Place) : Prop :=
  ∃ entry ∈ calls.log, entry.2.place = some place

/-- All refreshes have completed. -/
def AllCompleted (calls : Refreshes) : Prop :=
  ∀ thread ∈ calls.threads, ∃ ending, thread.left = .done ending

instance : DecidablePred AllCompleted := fun calls =>
  inferInstanceAs (Decidable (∀ thread ∈ calls.threads, ∃ ending, thread.left = .done ending))

/-- The snapshot and every key written in either tier come from the refresh that
was started last. -/
def FromLatest (platform : Platform) (calls : Refreshes) : Prop :=
  ∀ latest, calls.threads.getLast? = some latest → ∀ place, place = .snapshot ∨ Written calls place →
    HoldsRegistered platform latest.origin.database calls.shared place

/-- A program has yet to write a place. -/
def YetToWrite (place : Place) (program : Routine Unit) : Prop :=
  program.Passes (fun _ _ => True) (fun action => action.place = some place)

/-- The write of an older refresh leaves in its place what a content of the
database registers for it. A store that does not answer keeps what it has. -/
def Settles (platform : Platform) (database : Database) (gateway : Gateway) : Action → Prop
  | .cacheMemory key value => RegistersAt platform database key value
  | .cacheStore key value _ =>
    if gateway.cache.storeAnswers key then RegistersAt platform database key value
    else HoldsRegistered platform database gateway (.store key)
  | .publish snapshot => snapshot = PolicyResolver.snapshotOf platform database
  | _ => True

/-- The store takes a write, or has what it would take. -/
def TakesEffect (platform : Platform) (database : Database) (gateway : Gateway) : Action → Prop
  | .cacheStore key _ _ => gateway.cache.storeAnswers key = true ∨
      HoldsRegistered platform database gateway (.store key)
  | _ => True

/-- A refresh is started over a content of the database that registers every
written key still held. The writes of the one started last take effect, and a
write of an older one is followed by the last one's write to the place or leaves
what the last one registers. -/
def KeepsLatest (platform : Platform) (calls : Refreshes) : Move Change Unit → Prop
  | .changes _ => True
  | .starts _ => ∀ key value,
      (Written calls (.memory key) ∧ calls.shared.cache.inMemory key = some value) ∨
        (Written calls (.store key) ∧ calls.shared.cache.inStore key = some value) →
      ∃ routeKey policy, key = PolicyCache.policyKey routeKey ∧
        (routeKey, policy) ∈ PolicyResolver.registrations platform calls.shared.database
  | .advances index => ∀ origin action next latest,
      calls.threads[index]? = some ⟨origin, .ask action next⟩ →
        calls.threads.getLast? = some latest →
          if index + 1 = calls.threads.length then
            TakesEffect platform latest.origin.database calls.shared action
          else ∀ place, action.place = some place → YetToWrite place latest.left ∨
            Settles platform latest.origin.database calls.shared action

section Agenda

variable {platform : Platform} {database : Database}

/-- Every action has an answer. -/
theorem answer_nonempty (action : Action) : Nonempty (Answer action) := by
  cases action with
  | readMemory key => exact ⟨none⟩
  | readStore key => exact ⟨none⟩
  | cacheMemory key value => exact ⟨()⟩
  | cacheStore key value timeToLive => exact ⟨()⟩
  | readSnapshot routeKey => exact ⟨none⟩
  | publish snapshot => exact ⟨()⟩
  | query call => exact ⟨.error ⟨[]⟩⟩

theorem yetToWrite_inOrder {place : Place} {actions : List Action} :
    YetToWrite place (Program.inOrder actions (pure ())) ↔
      ∃ action ∈ actions, action.place = some place := by
  unfold YetToWrite
  induction actions with
  | nil => simp [Program.inOrder, Program.Passes, pure]
  | cons action rest ih =>
    have some := answer_nonempty action
    rw [Program.inOrder, List.foldr_cons, Program.Passes, ← Program.inOrder, ih]
    simp

/-- An entry that no later entry replaces is the last one under its key. -/
theorem lookupIn_last {entry : Text × EndpointPolicy} {rest : List (Text × EndpointPolicy)}
    (last : ∀ later ∈ rest, later.1 ≠ entry.1) :
    Dictionary.lookupIn entry.1 (entry :: rest).reverse = some entry.2 := by
  have unreplaced : Dictionary.lookupIn entry.1 rest.reverse = none := by
    rw [Dictionary.lookupIn_none_iff, List.map_reverse, List.mem_reverse]
    intro member
    obtain ⟨later, listed, same⟩ := List.mem_map.mp member
    exact last later listed same
  rw [List.reverse_cons, Dictionary.lookupIn_append, unreplaced]
  simp [Dictionary.lookupIn]

/-- The last write of an agenda to a place writes what is registered last. -/
theorem last_write {entries : List (Text × EndpointPolicy)}
    {snapshot : Dictionary Text EndpointPolicy} {performed rest : List Action} {action : Action}
    {place : Place} (agenda : writesOf entries ++ [.publish snapshot] = performed ++ action :: rest)
    (placed : action.place = some place) (last : ∀ later ∈ rest, later.place ≠ some place) :
    action = .publish snapshot ∨ ∃ routeKey policy,
      Dictionary.lookupIn routeKey entries.reverse = some policy ∧
        (action = .cacheMemory (PolicyCache.policyKey routeKey) (.policy policy) ∨
          action = .cacheStore (PolicyCache.policyKey routeKey) (.policy policy) oneHour) := by
  induction entries generalizing performed with
  | nil =>
    cases performed with
    | nil => exact Or.inl (List.cons.inj agenda).1.symm
    | cons first performed =>
      have short := congrArg List.length agenda
      simp [writesOf] at short
  | cons entry entries ih =>
    have unfolded : writesOf (entry :: entries) ++ [.publish snapshot] =
        .cacheMemory (PolicyCache.policyKey entry.1) (.policy entry.2) ::
          .cacheStore (PolicyCache.policyKey entry.1) (.policy entry.2) oneHour ::
            (writesOf entries ++ [.publish snapshot]) := rfl
    rw [unfolded] at agenda
    cases performed with
    | nil =>
      obtain ⟨rfl, rfl⟩ := List.cons.inj agenda
      refine Or.inr ⟨entry.1, entry.2, lookupIn_last fun later member same => ?_, Or.inl rfl⟩
      refine last (.cacheMemory (PolicyCache.policyKey later.1) (.policy later.2)) ?_ ?_
      · simp only [List.mem_cons, List.mem_append, writesOf, List.mem_flatMap]
        exact Or.inr (Or.inl ⟨later, member, Or.inl rfl⟩)
      · rw [← placed, Action.place, same]
        rfl
    | cons first performed =>
      obtain ⟨_, agenda⟩ := List.cons.inj agenda
      cases performed with
      | nil =>
        obtain ⟨rfl, rfl⟩ := List.cons.inj agenda
        refine Or.inr ⟨entry.1, entry.2, lookupIn_last fun later member same => ?_, Or.inr rfl⟩
        refine last (.cacheStore (PolicyCache.policyKey later.1) (.policy later.2) oneHour) ?_ ?_
        · simp only [List.mem_append, writesOf, List.mem_flatMap]
          exact Or.inl ⟨later, member, by simp⟩
        · rw [← placed, Action.place, same]
          rfl
      | cons second performed =>
        obtain ⟨_, agenda⟩ := List.cons.inj agenda
        rcases ih agenda with published | ⟨routeKey, policy, found, written⟩
        · exact Or.inl published
        · refine Or.inr ⟨routeKey, policy, ?_, written⟩
          rw [List.reverse_cons, Dictionary.lookupIn_append, found, Option.some_or]

/-- The last write of a refresh to a place settles it, if it takes effect. -/
theorem settles_last_write {performed rest : List Action} {action : Action} {place : Place}
    {gateway : Gateway} (agenda : agendaOf platform database = performed ++ action :: rest)
    (placed : action.place = some place) (last : ∀ later ∈ rest, later.place ≠ some place)
    (takesEffect : TakesEffect platform database gateway action) :
    Settles platform database gateway action := by
  rcases last_write agenda placed last with rfl | ⟨routeKey, policy, found, rfl | rfl⟩
  · exact rfl
  all_goals
    have registers : RegistersAt platform database (PolicyCache.policyKey routeKey) (.policy policy) :=
      ⟨routeKey, policy, rfl, rfl, by
        rw [PolicyResolver.snapshotOf, Dictionary.tryGetValue_setAll_empty, found]⟩
  · exact registers
  · cases answers : gateway.cache.storeAnswers (PolicyCache.policyKey routeKey) with
    | true => simpa only [Settles, answers, if_true] using registers
    | false =>
      have kept := takesEffect.resolve_left (by simp [answers])
      simpa only [Settles, answers, Bool.false_eq_true, if_false] using kept

end Agenda

section Steps

variable {platform : Platform} {database : Database} {gateway : Gateway}

/-- A settling write leaves what is registered. -/
theorem holds_settled {action : Action} {place : Place} (placed : action.place = some place)
    (settles : Settles platform database gateway action) :
    HoldsRegistered platform database (execute action gateway).2 place := by
  cases action with
  | cacheMemory key value =>
    obtain rfl := Option.some.inj placed
    intro held live
    have after : heldAt (execute (.cacheMemory key value) gateway).2 (.memory key) = some held := live
    rcases heldAt_execute after with ⟨_, wrote⟩ | ⟨_, elsewhere | ⟨tested, stored, _⟩⟩
    · exact (Option.some.inj wrote : value = held) ▸ settles
    · exact absurd placed elsewhere
    · cases stored
  | cacheStore key value timeToLive =>
    obtain rfl := Option.some.inj placed
    intro held live
    have after : heldAt (execute (.cacheStore key value timeToLive) gateway).2 (.store key) =
        some held := live
    cases answers : gateway.cache.storeAnswers key with
    | true =>
      simp only [Settles, answers, if_true] at settles
      rcases heldAt_execute after with ⟨_, wrote⟩ | ⟨_, elsewhere | ⟨tested, stored, silent⟩⟩
      · exact (Option.some.inj wrote : value = held) ▸ settles
      · exact absurd placed elsewhere
      · obtain rfl := Place.store.inj stored
        cases answers.symm.trans silent
    | false =>
      simp only [Settles, answers, Bool.false_eq_true, if_false] at settles
      apply settles held
      have unchanged : (execute (.cacheStore key value timeToLive) gateway).2 = gateway := by
        simp [execute, Cache.insertStore, answers]
      rwa [unchanged] at live
  | publish snapshot =>
    obtain rfl := Option.some.inj placed
    exact settles
  | _ => cases placed

/-- What holds for what a place has before holds for what it has after, if that was
there before. -/
theorem holds_subset {later : Gateway} {place : Place}
    (held : ∀ value, heldAt later place = some value → heldAt gateway place = some value)
    (published : place = .snapshot → later.policySnapshot = gateway.policySnapshot)
    (holds : HoldsRegistered platform database gateway place) :
    HoldsRegistered platform database later place := by
  cases place with
  | memory key => exact fun value live => holds value (held value live)
  | store key => exact fun value live => holds value (held value live)
  | snapshot => exact (published rfl).trans holds

/-- An action leaves the other places alone. -/
theorem holds_elsewhere {action : Action} {place : Place} (elsewhere : action.place ≠ some place)
    (holds : HoldsRegistered platform database gateway place) :
    HoldsRegistered platform database (execute action gateway).2 place := by
  refine holds_subset (fun value live => ?_) (fun snapshot => ?_) holds
  · rcases heldAt_execute live with ⟨here, _⟩ | ⟨before, _⟩
    · exact absurd here elsewhere
    · exact before
  · cases action with
    | publish published => exact absurd (congrArg some snapshot.symm) elsewhere
    | _ => rfl

/-- A change of the surroundings adds nothing to any place. -/
theorem holds_altered {place : Place} (change : Change)
    (holds : HoldsRegistered platform database gateway place) :
    HoldsRegistered platform database (alter change gateway) place := by
  refine holds_subset (fun value live => heldAt_alter live) (fun _ => ?_) holds
  cases change <;> rfl

end Steps

/-- What is left of the refresh started last is a rest of its agenda, and every
place written it has yet to write or holds what it registers. -/
structure LatestPrevails (platform : Platform) (calls : Refreshes)
    (latest : Thread Action Answer Fault Unit Gateway) : Prop where
  ahead : ∃ performed rest, agendaOf platform latest.origin.database = performed ++ rest ∧
    latest.left = Program.inOrder rest (pure ())
  places : ∀ place, place = .snapshot ∨ Written calls place → YetToWrite place latest.left ∨
    HoldsRegistered platform latest.origin.database calls.shared place

/-- The refresh started last prevails, if any was started. -/
def Prevailing (platform : Platform) (calls : Refreshes) : Prop :=
  ∀ latest, calls.threads.getLast? = some latest → LatestPrevails platform calls latest

section Interleaved

variable {platform : Platform} {calls : Refreshes}

/-- A place is written after an action if it was before, or by the action. -/
theorem written_performs {index : Nat} {origin : Gateway} {action : Action}
    {next : Answer action → Routine Unit} {place : Place}
    (written : Written (calls.performs execute index origin action next) place) :
    Written calls place ∨ action.place = some place := by
  obtain ⟨entry, logged, placed⟩ := written
  rcases List.mem_append.mp logged with earlier | now
  · exact Or.inl ⟨entry, earlier, placed⟩
  · rw [List.mem_singleton.mp now] at placed
    exact Or.inr placed

/-- A refresh that has just been started has yet to write every place that holds
something. -/
theorem prevails_started (covered : KeepsLatest platform calls (.starts ())) :
    LatestPrevails platform ((refreshes platform).move (.starts ()) calls)
      ⟨calls.shared, (refreshes platform).launch () calls.shared⟩ := by
  have launched : (refreshes platform).launch () calls.shared =
      Program.inOrder (agendaOf platform calls.shared.database) (pure ()) :=
    refreshPoliciesAsync_given platform calls.shared.database
  have registered : ∀ {key routeKey policy}, key = PolicyCache.policyKey routeKey →
      (routeKey, policy) ∈ PolicyResolver.registrations platform calls.shared.database →
        ∀ action ∈ [Action.cacheMemory key (.policy policy), .cacheStore key (.policy policy) oneHour],
          action ∈ agendaOf platform calls.shared.database := by
    rintro key routeKey policy rfl member action listed
    exact List.mem_append_left _ (List.mem_flatMap.mpr ⟨_, member, listed⟩)
  refine ⟨⟨[], _, rfl, launched⟩, fun place written => ?_⟩
  rw [launched, yetToWrite_inOrder]
  cases place with
  | snapshot =>
    exact Or.inl ⟨_, List.mem_append_right _ (List.mem_singleton_self _), rfl⟩
  | memory key =>
    cases held : calls.shared.cache.inMemory key with
    | none => exact Or.inr fun value live => nomatch held.symm.trans live
    | some value =>
      have logged : Written calls (.memory key) := written.resolve_left (fun same => nomatch same)
      obtain ⟨routeKey, policy, named, member⟩ := covered key value (Or.inl ⟨logged, held⟩)
      exact Or.inl ⟨_, registered named member _ List.mem_cons_self, rfl⟩
  | store key =>
    cases held : calls.shared.cache.inStore key with
    | none => exact Or.inr fun value live => nomatch held.symm.trans live
    | some value =>
      have logged : Written calls (.store key) := written.resolve_left (fun same => nomatch same)
      obtain ⟨routeKey, policy, named, member⟩ := covered key value (Or.inr ⟨logged, held⟩)
      exact Or.inl ⟨_, registered named member _ (List.mem_cons_of_mem _ List.mem_cons_self), rfl⟩

/-- The refresh started last writes one more place: it comes back to the place, or
the place holds what it registers. -/
theorem prevails_latest {index : Nat} {origin : Gateway} {action : Action}
    {next : Answer action → Routine Unit}
    (prevails : LatestPrevails platform calls ⟨origin, .ask action next⟩)
    (takesEffect : TakesEffect platform origin.database calls.shared action) :
    LatestPrevails platform (calls.performs execute index origin action next)
      ⟨origin, next (execute action calls.shared).1⟩ := by
  obtain ⟨⟨performed, rest, agenda, left⟩, places⟩ := prevails
  obtain ⟨later, rfl, continues⟩ := Program.ask_eq_inOrder left
  refine ⟨⟨performed ++ [action], later, by rw [agenda]; simp, continues _⟩, fun place written => ?_⟩
  by_cases comesBack : ∃ other ∈ later, other.place = some place
  · apply Or.inl
    dsimp only
    rw [continues]
    exact yetToWrite_inOrder.mpr comesBack
  · apply Or.inr
    by_cases placed : action.place = some place
    · exact holds_settled placed (settles_last_write agenda placed
        (fun other member same => comesBack ⟨other, member, same⟩) takesEffect)
    · have before : place = .snapshot ∨ Written calls place :=
        written.imp_right fun logged => (written_performs logged).resolve_right placed
      refine holds_elsewhere placed ((places place before).resolve_left fun ahead => ?_)
      dsimp only at ahead left
      rw [left] at ahead
      obtain ⟨other, member, same⟩ := yetToWrite_inOrder.mp ahead
      rcases List.mem_cons.mp member with rfl | listed
      · exact placed same
      · exact comesBack ⟨other, listed, same⟩

/-- An older refresh writes a place that the last one comes back to, or what the
last one registers there. -/
theorem prevails_older {latest : Thread Action Answer Fault Unit Gateway} {index : Nat}
    {origin : Gateway} {action : Action} {next : Answer action → Routine Unit}
    (prevails : LatestPrevails platform calls latest)
    (harmless : ∀ place, action.place = some place → YetToWrite place latest.left ∨
      Settles platform latest.origin.database calls.shared action) :
    LatestPrevails platform (calls.performs execute index origin action next) latest := by
  refine ⟨prevails.ahead, fun place written => ?_⟩
  by_cases placed : action.place = some place
  · exact (harmless place placed).imp_right (holds_settled placed)
  · have before : place = .snapshot ∨ Written calls place :=
      written.imp_right fun logged => (written_performs logged).resolve_right placed
    exact (prevails.places place before).imp_right (holds_elsewhere placed)

/-- Every move that the condition allows lets the refresh started last prevail. -/
theorem prevailing_move {move : Move Change Unit} (prevails : Prevailing platform calls)
    (keeps : KeepsLatest platform calls move) :
    Prevailing platform ((refreshes platform).move move calls) := by
  intro latest last
  cases move with
  | changes change =>
    have before := prevails latest last
    exact ⟨before.ahead, fun place written =>
      (before.places place written).imp_right (holds_altered change)⟩
  | starts actor =>
    have started : latest = ⟨calls.shared, (refreshes platform).launch actor calls.shared⟩ := by
      rw [System.move, List.getLast?_concat] at last
      exact (Option.some.inj last).symm
    rw [started]
    exact prevails_started keeps
  | advances index =>
    rcases move_advances (refreshes platform) calls index with
      ⟨origin, action, next, asking, moved⟩ | idle
    · rw [moved] at last ⊢
      have present : index < calls.threads.length := (List.getElem?_eq_some_iff.mp asking).1
      rw [World.performs, List.getLast?_eq_getElem?, List.length_set] at last
      by_cases newest : index + 1 = calls.threads.length
      · have position : calls.threads.length - 1 = index := by omega
        have current : calls.threads.getLast? = some ⟨origin, .ask action next⟩ := by
          rw [List.getLast?_eq_getElem?, position, asking]
        have allowed := keeps origin action next _ asking current
        rw [if_pos newest] at allowed
        rw [position, List.getElem?_set_self present] at last
        rw [← Option.some.inj last]
        exact prevails_latest (prevails _ current) allowed
      · have elsewhere : index ≠ calls.threads.length - 1 := by omega
        rw [List.getElem?_set_ne elsewhere, ← List.getLast?_eq_getElem?] at last
        have allowed := keeps origin action next latest asking last
        rw [if_neg newest] at allowed
        exact prevails_older (prevails latest last) allowed
    · rw [idle] at last ⊢
      exact prevails latest last

/-- A store that answers takes every write. -/
theorem takesEffect_answering {database : Database} {gateway : Gateway}
    (answers : ∀ key, gateway.cache.storeAnswers key = true) (action : Action) :
    TakesEffect platform database gateway action := by
  cases action with
  | cacheStore key value timeToLive => exact Or.inl (answers key)
  | _ => trivial

end Interleaved

/-- Along moves that the condition allows, completed refreshes leave what the one
started last registers. -/
theorem from_latest (platform : Platform) (gateway : Gateway) (moves : List (Move Change Unit))
    (along : Runs.Along (refreshes platform).move (KeepsLatest platform) moves (World.idle gateway))
    (completed : AllCompleted (Runs.run (refreshes platform).move moves (World.idle gateway))) :
    FromLatest platform (Runs.run (refreshes platform).move moves (World.idle gateway)) := by
  have prevails : Prevailing platform
      (Runs.run (refreshes platform).move moves (World.idle gateway)) := by
    refine Runs.invariant_run ?_ along (fun _ absent => by cases absent)
    exact fun _ _ before keeps => prevailing_move before keeps
  intro latest last place written
  refine ((prevails latest last).places place written).resolve_left fun ahead => ?_
  obtain ⟨ending, ended⟩ := completed latest (List.mem_of_getLast? last)
  rw [ended] at ahead
  exact ahead

/-- The first refresh reads a registry without endpoints, the second one endpoint;
the first writes only before the second does. -/
def orderedRefreshes : List (Move Change Unit) :=
  [.starts (), .changes (.database PolicyResolver.oneEndpoint), .starts (), .advances 0,
    .advances 1, .advances 1, .advances 1]

theorem from_latest_ordered :
    FromLatest plainPlatform (Runs.run (refreshes plainPlatform).move orderedRefreshes
      (World.idle (Gateway.started Database.vacant))) := by
  refine from_latest plainPlatform _ orderedRefreshes ⟨?_, trivial, ?_, ?_, ?_, ?_, ?_, trivial⟩ ?_
  · rintro key value (⟨⟨_, logged, _⟩, _⟩ | ⟨⟨_, logged, _⟩, _⟩) <;> cases logged
  · rintro key value (⟨⟨_, logged, _⟩, _⟩ | ⟨⟨_, logged, _⟩, _⟩) <;> cases logged
  · intro origin action next latest asking last place placed
    obtain rfl := Option.some.inj last
    apply Or.inl
    have publishes : (refreshes plainPlatform).launch () (Gateway.started Database.vacant) =
        .ask (.publish Dictionary.empty) (fun _ => .done (.ok ())) := rfl
    have asked := publishes.symm.trans (Thread.mk.inj (Option.some.inj asking)).2
    obtain rfl : .publish _ = action := (Program.ask.inj asked).1
    obtain rfl := Option.some.inj placed
    exact Or.inr (fun _ _ => Or.inr fun _ _ => Or.inl rfl)
  · intro origin action next latest asking last
    exact takesEffect_answering (fun _ => rfl) action
  · intro origin action next latest asking last
    exact takesEffect_answering (fun _ => rfl) action
  · intro origin action next latest asking last
    exact takesEffect_answering (fun _ => rfl) action
  · decide

/-- The first refresh reads one endpoint and writes only after the second, which
reads a registry without endpoints, has completed. -/
def overtakenRefreshes : List (Move Change Unit) :=
  [.starts (), .changes (.database Database.vacant), .starts (), .advances 1, .advances 0,
    .advances 0, .advances 0]

/-- Then the snapshot is that of the older content. -/
theorem overtaken_refresh_published :
    AllCompleted (Runs.run (refreshes plainPlatform).move overtakenRefreshes
        (World.idle (Gateway.started PolicyResolver.oneEndpoint))) ∧
      ¬ FromLatest plainPlatform (Runs.run (refreshes plainPlatform).move overtakenRefreshes
        (World.idle (Gateway.started PolicyResolver.oneEndpoint))) := by
  refine ⟨by decide, fun latest => ?_⟩
  have published := latest _ rfl .snapshot (Or.inl rfl)
  have count := congrArg (fun snapshot => snapshot.values.length) published
  revert count
  decide

end ApiGateway.Concurrent
