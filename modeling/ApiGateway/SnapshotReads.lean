import ApiGateway.CachedPath
import ApiGateway.ConcurrentRequests

/-!
# What a refresh reads while the registry changes

A refresh queries the services, the products and the endpoints of each service
one after another, and the registry may change between any two queries. What the
queries have returned is its reading, and the snapshot it publishes is the one
that its reading gives, whatever contents of the database the rows came from.

Where one content has all of these rows, this is the snapshot of that content.
Where none does, a refresh can publish an endpoint that was exposed at no time.
-/

namespace ApiGateway.Concurrent

open Interleaving

/-- The calls of a process under way. -/
abbrev Calls : Type := World Action Answer Fault Outcome Gateway

/-- Make moves in order. -/
abbrev after (platform : Platform) (moves : List (Move Change Actor)) (calls : Calls) : Calls :=
  Runs.run (process platform).move moves calls

/-- The calls after some moves from a state in which none is under way. -/
def reached (platform : Platform) (gateway : Gateway) (earlier : List (Move Change Actor)) : Calls :=
  after platform earlier (World.idle gateway)

/-- One more call is started. -/
def starting (platform : Platform) (actor : Actor) (calls : Calls) : Calls :=
  (process platform).move (.starts actor) calls

/-- How many queries a call has made. -/
def queries (index : Nat) (calls : Calls) : Nat :=
  calls.log.countP (fun entry =>
    entry.1 = index && match entry.2 with
      | .query _ => true
      | _ => false)

/-- The snapshots a call has published. -/
def publishedBy (index : Nat) (calls : Calls) : List (Dictionary Text EndpointPolicy) :=
  (calls.performed index).filterMap (fun action =>
    match action with
    | .publish snapshot => some snapshot
    | _ => none)

/-- The database had the content at some instant from the first to the last query
of a call. -/
def InForce (platform : Platform) (index : Nat) (calls : Calls) (moves : List (Move Change Actor))
    (database : Database) : Prop :=
  ∃ during next rest, moves = during ++ next :: rest ∧
    (after platform during calls).shared.database = database ∧
    0 < queries index (after platform (during ++ [next]) calls) ∧
    queries index (after platform during calls) < queries index (after platform moves calls)

/-- Whatever a call publishes is the snapshot of some content of the database in
force between its first and its last query. -/
def PublishesOneState (platform : Platform) (index : Nat) (calls : Calls)
    (moves : List (Move Change Actor)) : Prop :=
  ∀ snapshot ∈ publishedBy index (after platform moves calls), ∃ database,
    InForce platform index calls moves database ∧
      snapshot = PolicyResolver.snapshotOf platform database

/-- A query of a call has received an answer. -/
def Received (platform : Platform) (index : Nat) (calls : Calls) (moves : List (Move Change Actor))
    (call : RepositoryCall) (received : Except Fault (Rows call)) : Prop :=
  ∃ during rest origin next, moves = during ++ .advances index :: rest ∧
    (after platform during calls).threads[index]? = some ⟨origin, .ask (.query call) next⟩ ∧
    answerQuery call (after platform during calls).shared = received

/-- The rows that the queries of a refresh have returned: the products, the
services, and the endpoints of each service whose product is among them. -/
structure Reading (returned : (call : RepositoryCall) → Rows call → Prop) where
  products : List Product
  services : List (Service × List Endpoint)
  products_returned : returned .products products
  services_returned : returned .services (services.map Prod.fst)
  endpoints_returned : ∀ entry ∈ services, (PolicyResolver.productOf products entry.1).isSome →
    returned (.endpoints entry.1.id) entry.2

/-- What a refresh registers for a service that it has read, in order. -/
def entriesRead (platform : Platform) (products : List Product)
    (entry : Service × List Endpoint) : List (Text × EndpointPolicy) :=
  match PolicyResolver.productOf products entry.1 with
  | none => []
  | some product => entry.2.flatMap (PolicyResolver.endpointEntries platform product entry.1)

/-- The snapshot that a reading gives. -/
def Reading.snapshot {returned : (call : RepositoryCall) → Rows call → Prop}
    (reading : Reading returned) (platform : Platform) : Dictionary Text EndpointPolicy :=
  Dictionary.empty.setAll (reading.services.flatMap (entriesRead platform reading.products))

/-- A policy is of rows that were enabled in contents of the database with a
property, each in one of them. -/
structure EnabledIn (property : Database → Prop) (policy : EndpointPolicy) : Prop where
  service : ∃ database, property database ∧ policy.service ∈ database.enabledServices
  product : ∃ database, property database ∧ policy.product ∈ database.enabledProducts
  endpoint : ∃ database, property database ∧
    policy.endpoint ∈ database.enabledEndpoints policy.service.id
  owned : policy.product.id = policy.service.productId

/-- What a refresh reads and publishes in a run. -/
structure PublishesReading (platform : Platform) (index : Nat) (calls : Calls)
    (moves : List (Move Change Actor)) : Prop where
  /-- Every row set that a query returned is that of a content in force between the
  first and the last query. -/
  inForce : ∀ call rows, Received platform index calls moves call (.ok rows) →
    ∃ database now, InForce platform index calls moves database ∧ rows = rowsOf database now call
  /-- Whatever is published is the snapshot that the returned rows give. -/
  exact : ∀ snapshot ∈ publishedBy index (after platform moves calls),
    ∃ reading : Reading (fun call rows => Received platform index calls moves call (.ok rows)),
      snapshot = reading.snapshot platform
  /-- No second snapshot is published. -/
  once : (publishedBy index (after platform moves calls)).length ≤ 1
  /-- A refresh that has ended and none of whose queries failed has published. -/
  completed : (∃ ending, (after platform moves calls).ending index = some ending) →
    (∀ call fault, ¬ Received platform index calls moves call (.error fault)) →
      publishedBy index (after platform moves calls) ≠ []
  /-- The policies published are of rows that were enabled. -/
  enabled : ∀ snapshot ∈ publishedBy index (after platform moves calls), ∀ routeKey policy,
    snapshot.tryGetValue routeKey = some policy →
      EnabledIn (InForce platform index calls moves) policy
  /-- A content that has all rows the queries returned has its own snapshot published. -/
  oneState : ∀ database, (∀ call rows, Received platform index calls moves call (.ok rows) →
      ∃ now, rows = rowsOf database now call) →
    ∀ snapshot ∈ publishedBy index (after platform moves calls),
      snapshot = PolicyResolver.snapshotOf platform database

section Rows

variable {platform : Platform}

/-- Queries return rows with a property, unless they fail. -/
def Returns (returned : (call : RepositoryCall) → Rows call → Prop) :
    (action : Action) → Answer action → Prop
  | .query call, received => ∀ rows, received = .ok rows → returned call rows
  | _, _ => True

/-- Queries do not fail. -/
def Succeeds : (action : Action) → Answer action → Prop
  | .query _, received => ∃ rows, received = .ok rows
  | _, _ => True

/-- An action publishes nothing but the snapshot of a reading. -/
def PublishesRead (platform : Platform) (returned : (call : RepositoryCall) → Rows call → Prop) :
    Action → Prop
  | .publish snapshot => ∃ reading : Reading returned, snapshot = reading.snapshot platform
  | _ => True

/-- An action publishes. -/
def Publishes : Action → Prop
  | .publish _ => True
  | _ => False

instance : DecidablePred Publishes
  | .publish _ => isTrue trivial
  | .readMemory _ | .readStore _ | .cacheMemory _ _ | .cacheStore _ _ _ | .readSnapshot _
  | .query _ => isFalse id

variable {returned : (call : RepositoryCall) → Rows call → Prop}
  {answers : (action : Action) → Answer action → Prop}

theorem publishesRead_of_silent {action : Action} (silent : ¬ Publishes action) :
    PublishesRead platform returned action := by
  cases action with
  | publish snapshot => exact absurd trivial silent
  | _ => trivial

theorem query_returns (call : RepositoryCall) :
    (query call).Ends (Returns returned) (fun ending => ∀ rows, ending = .ok rows →
      returned call rows) :=
  fun _ answered => answered

theorem query_succeeds (call : RepositoryCall) :
    (query call).Ends Succeeds (fun ending => ∃ rows, ending = .ok rows) :=
  fun _ answered => answered

/-- Registering an endpoint adds its entries. -/
theorem registerEndpoint_ends (product : Product) (service : Service) (endpoint : Endpoint)
    (newSnapshot : Dictionary Text EndpointPolicy) :
    (registerEndpoint platform product service newSnapshot endpoint).Ends answers (fun ending =>
      ending = .ok (newSnapshot.setAll
        (PolicyResolver.endpointEntries platform product service endpoint))) := by
  unfold registerEndpoint PolicyResolver.endpointEntries
  induction PolicyResolver.methodsOf endpoint generalizing newSnapshot with
  | nil => exact rfl
  | cons method rest ih => exact fun _ _ _ _ => ih _

/-- Registering endpoints adds their entries one after another. -/
theorem registerEndpoints_ends (product : Product) (service : Service) (endpoints : List Endpoint)
    (newSnapshot : Dictionary Text EndpointPolicy) :
    (endpoints.foldlM (registerEndpoint platform product service) newSnapshot).Ends answers
      (fun ending => ending = .ok (newSnapshot.setAll
        (endpoints.flatMap (PolicyResolver.endpointEntries platform product service)))) := by
  induction endpoints generalizing newSnapshot with
  | nil => exact rfl
  | cons endpoint rest ih =>
    rw [List.foldlM_cons]
    refine Program.ends_bind (Program.ends_mono ?_
      (registerEndpoint_ends product service endpoint newSnapshot))
    rintro ending rfl
    rw [List.flatMap_cons, Dictionary.setAll_append]
    exact ih _

/-- A service that has been read, with its endpoints, adds what is registered for it. -/
theorem registerService_ends (products : List Product) (service : Service)
    (newSnapshot : Dictionary Text EndpointPolicy) :
    (registerService platform products newSnapshot service).Ends (Returns returned) (fun ending =>
      ∀ extended, ending = .ok extended → ∃ endpoints,
        ((PolicyResolver.productOf products service).isSome →
          returned (.endpoints service.id) endpoints) ∧
        extended = newSnapshot.setAll (entriesRead platform products (service, endpoints))) := by
  unfold registerService
  cases owned : PolicyResolver.productOf products service with
  | none =>
    intro extended same
    refine ⟨[], (fun found => nomatch found), (Except.ok.inj same).symm.trans ?_⟩
    rw [entriesRead, owned]
    rfl
  | some product =>
    refine Program.ends_bind (Program.ends_mono (fun ending read => ?_)
      (query_returns (.endpoints service.id)))
    cases ending with
    | error fault => exact fun _ same => nomatch same
    | ok endpoints =>
      refine Program.ends_mono ?_ (registerEndpoints_ends product service endpoints newSnapshot)
      rintro ending rfl extended same
      refine ⟨endpoints, fun _ => read endpoints rfl, (Except.ok.inj same).symm.trans ?_⟩
      rw [entriesRead, owned]

/-- The services that have been read, with their endpoints, give the new snapshot. -/
theorem registerServices_ends (products : List Product) (services : List Service) :
    (services.foldlM (registerService platform products) Dictionary.empty).Ends (Returns returned)
      (fun ending => ∀ newSnapshot, ending = .ok newSnapshot →
        ∃ read : List (Service × List Endpoint), read.map Prod.fst = services ∧
          (∀ entry ∈ read, (PolicyResolver.productOf products entry.1).isSome →
            returned (.endpoints entry.1.id) entry.2) ∧
          newSnapshot = Dictionary.empty.setAll (read.flatMap (entriesRead platform products))) := by
  refine Program.ends_foldlM_listed (fun earlier newSnapshot =>
    ∃ read : List (Service × List Endpoint), read.map Prod.fst = earlier ∧
      (∀ entry ∈ read, (PolicyResolver.productOf products entry.1).isSome →
        returned (.endpoints entry.1.id) entry.2) ∧
      newSnapshot = Dictionary.empty.setAll (read.flatMap (entriesRead platform products)))
    [] services ?_ ⟨[], rfl, (fun _ member => nomatch member), rfl⟩
  rintro earlier newSnapshot service _ ⟨read, rfl, rows, rfl⟩
  refine Program.ends_mono ?_ (registerService_ends products service _)
  intro ending read_service extended same
  obtain ⟨endpoints, returns, rfl⟩ := read_service extended same
  refine ⟨read ++ [(service, endpoints)], by simp, fun entry member => ?_, ?_⟩
  · rcases List.mem_append.mp member with before | now
    · exact rows entry before
    · rw [List.mem_singleton.mp now]
      exact returns
  · rw [List.flatMap_append, Dictionary.setAll_append, List.flatMap_singleton]

/-- Registering a service does not publish. -/
theorem registerService_asks (products : List Product) (newSnapshot : Dictionary Text EndpointPolicy)
    (service : Service) :
    (registerService platform products newSnapshot service).Asks answers
      (fun action => ¬ Publishes action) := by
  have loops : ∀ {ι : Type} {round : Dictionary Text EndpointPolicy → ι →
        Routine (Dictionary Text EndpointPolicy)} (items : List ι) (newSnapshot),
      (∀ newSnapshot item, (round newSnapshot item).Asks answers (fun action => ¬ Publishes action)) →
        (items.foldlM round newSnapshot).Asks answers (fun action => ¬ Publishes action) :=
    fun items newSnapshot rounds => Program.asks_foldlM items newSnapshot
      fun accumulated item _ => rounds accumulated item
  unfold registerService
  cases PolicyResolver.productOf products service with
  | none => trivial
  | some product =>
    refine Program.asks_bind ⟨id, fun _ _ => ?_⟩ (Program.ends_mono ?_ (Program.ends_trivial _))
    · trivial
    · intro ending _ endpoints _
      refine loops endpoints newSnapshot fun newSnapshot endpoint => ?_
      exact loops _ newSnapshot fun newSnapshot method => ⟨id, fun _ _ => ⟨id, fun _ _ => trivial⟩⟩

/-- A refresh publishes nothing but the snapshot of what it has read. -/
theorem refreshPoliciesAsync_asks (platform : Platform) :
    (refreshPoliciesAsync platform).Asks (Returns returned) (PublishesRead platform returned) := by
  have writes : ∀ products newSnapshot service,
      (registerService platform products newSnapshot service).Asks (Returns returned)
        (PublishesRead platform returned) :=
    fun products newSnapshot service => Program.asks_mono (fun _ _ received => received)
      (fun action silent => publishesRead_of_silent silent)
      (registerService_asks products newSnapshot service)
  refine Program.asks_handle ?_ (fun _ => trivial)
  refine Program.asks_bind ⟨trivial, fun _ _ => trivial⟩ (Program.ends_mono ?_ (query_returns _))
  intro ending services_read services same
  refine Program.asks_bind ⟨trivial, fun _ _ => trivial⟩ (Program.ends_mono ?_ (query_returns _))
  intro ending products_read products same
  refine Program.asks_bind (Program.asks_foldlM services _
    fun newSnapshot service _ => writes products newSnapshot service)
    (Program.ends_mono ?_ (registerServices_ends products services))
  rintro ending registered newSnapshot same
  obtain ⟨read, rfl, rows, rfl⟩ := registered newSnapshot same
  exact ⟨⟨⟨products, read, products_read products ‹_›, services_read _ ‹_›, rows⟩, rfl⟩,
    fun _ _ => trivial⟩

theorem registerService_succeeds (products : List Product)
    (newSnapshot : Dictionary Text EndpointPolicy) (service : Service) :
    (registerService platform products newSnapshot service).Ends Succeeds (fun ending =>
      ∃ extended, ending = .ok extended) := by
  unfold registerService
  cases PolicyResolver.productOf products service with
  | none => exact ⟨newSnapshot, rfl⟩
  | some product =>
    refine Program.ends_bind (Program.ends_mono ?_ (query_succeeds (.endpoints service.id)))
    rintro ending ⟨endpoints, rfl⟩
    exact Program.ends_mono (fun ending same => ⟨_, same⟩)
      (registerEndpoints_ends product service endpoints newSnapshot)

/-- So does the call that runs it. -/
theorem refresh_asks (platform : Platform) :
    (launch platform .refreshesPolicies).Asks (Returns returned) (PublishesRead platform returned) :=
  Program.asks_bind (refreshPoliciesAsync_asks platform)
    (Program.ends_mono (fun _ _ _ _ => trivial) (Program.ends_trivial _))

/-- A refresh none of whose queries fails does not end before it has published. -/
theorem refreshPoliciesAsync_passes (platform : Platform) :
    (refreshPoliciesAsync platform).Passes Succeeds Publishes := by
  refine Program.passes_handle ?_
  refine Program.passes_bind_second (Program.ends_mono ?_ (query_succeeds .services))
  rintro ending ⟨services, rfl⟩
  refine ⟨services, rfl, Program.passes_bind_second
    (Program.ends_mono ?_ (query_succeeds .products))⟩
  rintro ending ⟨products, rfl⟩
  refine ⟨products, rfl, Program.passes_bind_second (Program.ends_mono ?_
    (Program.ends_foldlM_normally services (registerService_succeeds products) _))⟩
  rintro ending ⟨newSnapshot, rfl⟩
  exact ⟨newSnapshot, rfl, Or.inl trivial⟩

/-- A refresh ends once it has published. -/
theorem refreshPoliciesAsync_closes (platform : Platform) :
    (refreshPoliciesAsync platform).Closes answers Publishes := by
  refine Program.closes_handle (Program.closes_bind ⟨id, fun _ _ => trivial⟩ fun services =>
    Program.closes_bind ⟨id, fun _ _ => trivial⟩ fun products =>
      Program.closes_bind (Program.asks_foldlM services _
        fun newSnapshot service _ => registerService_asks products newSnapshot service)
        fun newSnapshot => ?_)
  exact fun received _ => ⟨trivial, fun _ => ⟨_, rfl⟩⟩

end Rows

variable {platform : Platform}

/-- A reading of the rows of one content gives the snapshot of that content. -/
theorem snapshot_of_content {returned : (call : RepositoryCall) → Rows call → Prop}
    (reading : Reading returned) {database : Database}
    (has : ∀ call rows, returned call rows → ∃ now, rows = rowsOf database now call) :
    reading.snapshot platform = PolicyResolver.snapshotOf platform database := by
  obtain ⟨_, products⟩ := has .products _ reading.products_returned
  obtain ⟨_, services⟩ := has .services _ reading.services_returned
  have listed : reading.services.map Prod.fst = database.enabledServices := services
  have owners : reading.products = database.enabledProducts := products
  rw [Reading.snapshot, PolicyResolver.snapshotOf, PolicyResolver.registrations, ← listed,
    List.flatMap_map]
  refine congrArg (Dictionary.setAll Dictionary.empty) (List.flatMap_congr fun entry member => ?_)
  unfold entriesRead PolicyResolver.serviceEntries
  rw [owners]
  cases owned : PolicyResolver.productOf database.enabledProducts entry.1 with
  | none => rfl
  | some product =>
    obtain ⟨_, endpoints⟩ := has (.endpoints entry.1.id) _
      (reading.endpoints_returned entry member (by rw [owners, owned]; rfl))
    exact congrArg (List.flatMap (PolicyResolver.endpointEntries platform product entry.1)) endpoints

/-- A policy of the snapshot that a reading gives is of rows that it has read. -/
theorem enabled_of_reading {returned : (call : RepositoryCall) → Rows call → Prop}
    {property : Database → Prop} (reading : Reading returned)
    (from_contents : ∀ call rows, returned call rows →
      ∃ database now, property database ∧ rows = rowsOf database now call)
    {routeKey : Text} {policy : EndpointPolicy}
    (found : (reading.snapshot platform).tryGetValue routeKey = some policy) :
    EnabledIn property policy := by
  rw [Reading.snapshot, Dictionary.tryGetValue_setAll_empty] at found
  have registered := List.mem_reverse.mp (Dictionary.lookupIn_mem found)
  obtain ⟨⟨service, endpoints⟩, read, member⟩ := List.mem_flatMap.mp registered
  unfold entriesRead at member
  cases owned : PolicyResolver.productOf reading.products service with
  | none =>
    rw [owned] at member
    cases member
  | some product =>
    rw [owned] at member
    obtain ⟨endpoint, listed, entries⟩ := List.mem_flatMap.mp member
    obtain ⟨method, _, same⟩ := List.mem_map.mp entries
    obtain rfl := (Prod.mk.inj same).2
    obtain ⟨productSource, _, productHolds, products⟩ :=
      from_contents .products _ reading.products_returned
    obtain ⟨serviceSource, _, serviceHolds, services⟩ :=
      from_contents .services _ reading.services_returned
    obtain ⟨endpointSource, _, endpointHolds, rows⟩ := from_contents (.endpoints service.id) _
      (reading.endpoints_returned _ read (by rw [owned]; rfl))
    have serviceEnabled : service ∈ rowsOf serviceSource _ .services :=
      services ▸ List.mem_map_of_mem read
    have productEnabled : product ∈ rowsOf productSource _ .products :=
      products ▸ List.mem_of_find?_eq_some owned
    have endpointEnabled : endpoint ∈ rowsOf endpointSource _ (.endpoints service.id) :=
      rows ▸ listed
    have owns : product.id = service.productId := by simpa using List.find?_some owned
    exact ⟨⟨serviceSource, serviceHolds, serviceEnabled⟩, ⟨productSource, productHolds, productEnabled⟩,
      ⟨endpointSource, endpointHolds, endpointEnabled⟩, owns⟩

/-- What a call has published it has asked to publish. -/
theorem mem_publishedBy_iff (index : Nat) (calls : Calls) (snapshot : Dictionary Text EndpointPolicy) :
    snapshot ∈ publishedBy index calls ↔ (index, Action.publish snapshot) ∈ calls.log := by
  rw [publishedBy, List.mem_filterMap, ← mem_performed]
  constructor
  · rintro ⟨action, performed, publishes⟩
    cases action with
    | publish other => exact Option.some.inj publishes ▸ performed
    | _ => cases publishes
  · exact fun performed => ⟨_, performed, rfl⟩

theorem length_publishedBy (index : Nat) (calls : Calls) :
    (publishedBy index calls).length =
      (calls.performed index).countP (fun action => Publishes action) := by
  rw [publishedBy, List.length_filterMap_eq_countP]
  refine List.countP_congr fun action _ => ?_
  cases action <;> exact Iff.rfl

/-- A query of the call is made over a content in force. -/
theorem query_inForce {index : Nat} {calls : Calls} {during rest : List (Move Change Actor)}
    {origin : Gateway} {call : RepositoryCall} {next : Answer (.query call) → Routine Outcome}
    (asking : (after platform during calls).threads[index]? = some ⟨origin, .ask (.query call) next⟩) :
    InForce platform index calls (during ++ .advances index :: rest)
      (after platform during calls).shared.database := by
  have made : queries index (after platform (during ++ [.advances index]) calls) =
      queries index (after platform during calls) + 1 := by
    rw [after, Runs.run_concat, move_asking asking]
    simp [queries, World.performs]
  have grown : queries index (after platform (during ++ [.advances index]) calls) ≤
      queries index (after platform (during ++ .advances index :: rest) calls) := by
    have split : after platform (during ++ .advances index :: rest) calls =
        after platform rest (after platform (during ++ [.advances index]) calls) := by
      rw [after, after, ← Runs.run_append, List.append_assoc, List.singleton_append]
    rw [split]
    exact (log_grows (process platform) rest _).sublist.countP_le
  exact ⟨during, .advances index, rest, rfl, rfl, by omega, by omega⟩

/-- A query of a call receives what the call has received. -/
def Hears (platform : Platform) (index : Nat) (calls : Calls) (moves : List (Move Change Actor)) :
    (action : Action) → Answer action → Prop
  | .query call, received => Received platform index calls moves call received
  | _, _ => True

theorem receives_heard (index : Nat) (calls : Calls) (during rest : List (Move Change Actor)) :
    Runs.Along (process platform).move
      (Receives (Hears platform index calls (during ++ rest)) (process platform) index)
      rest (after platform during calls) := by
  induction rest generalizing during with
  | nil => trivial
  | cons next rest ih =>
    constructor
    · cases next with
      | advances advancing =>
        rintro origin action continuing rfl asking
        cases action with
        | query call => exact ⟨during, rest, origin, continuing, rfl, asking, rfl⟩
        | _ => trivial
      | _ => trivial
    · have later := ih (during ++ [next])
      rw [List.append_assoc, after, Runs.run_concat] at later
      exact later

/-- Whatever rows a query of the call has returned, a content in force has them. -/
theorem received_inForce {index : Nat} {calls : Calls} {moves : List (Move Change Actor)}
    {call : RepositoryCall} {rows : Rows call}
    (received : Received platform index calls moves call (.ok rows)) :
    ∃ database now, InForce platform index calls moves database ∧ rows = rowsOf database now call := by
  obtain ⟨during, rest, origin, next, rfl, asking, answered⟩ := received
  refine ⟨_, (after platform during calls).shared.now, query_inForce asking, ?_⟩
  unfold answerQuery at answered
  split at answered
  · cases answered
  · exact (Except.ok.inj answered).symm

section Refreshing

variable {calls : Calls} {moves : List (Move Change Actor)}

theorem refresh_started (calls : Calls) :
    (starting platform .refreshesPolicies calls).threads[calls.threads.length]? =
      some ⟨calls.shared, launch platform .refreshesPolicies⟩ :=
  List.getElem?_concat_length

/-- Every query of a refresh hears what the refresh has received. -/
theorem refresh_heard (platform : Platform) (calls : Calls) (moves : List (Move Change Actor)) :
    Runs.Along (process platform).move
      (Receives (Hears platform calls.threads.length (starting platform .refreshesPolicies calls) moves)
        (process platform) calls.threads.length)
      moves (starting platform .refreshesPolicies calls) :=
  receives_heard calls.threads.length (starting platform .refreshesPolicies calls) [] moves

variable (fresh : ∀ action, (calls.threads.length, action) ∉ calls.log)
include fresh

/-- Whatever a refresh publishes is the snapshot of what it has read. -/
theorem published_reading {snapshot : Dictionary Text EndpointPolicy}
    (published : snapshot ∈ publishedBy calls.threads.length
      (after platform moves (starting platform .refreshesPolicies calls))) :
    ∃ reading : Reading (fun call rows => Received platform calls.threads.length
        (starting platform .refreshesPolicies calls) moves call (.ok rows)),
      snapshot = reading.snapshot platform := by
  have returns : ∀ action received, Hears platform calls.threads.length
      (starting platform .refreshesPolicies calls) moves action received →
        Returns (fun call rows => Received platform calls.threads.length
          (starting platform .refreshesPolicies calls) moves call (.ok rows)) action received := by
    intro action received hears
    cases action with
    | query call =>
      rintro rows rfl
      exact hears
    | _ => trivial
  exact (asks_run (refresh_started calls) (refresh_asks platform)
    (Runs.along_mono (fun _ _ => receives_mono returns) (refresh_heard platform calls moves))
    ((mem_publishedBy_iff _ _ snapshot).mp published)).resolve_left (fresh _)

/-- A refresh publishes at most once. -/
theorem published_once (platform : Platform) :
    (publishedBy calls.threads.length
      (after platform moves (starting platform .refreshesPolicies calls))).length ≤ 1 := by
  rw [length_publishedBy]
  have unpublished : (calls.performed calls.threads.length).countP
      (fun action => Publishes action) = 0 :=
    List.countP_eq_zero.mpr fun action performed => absurd (mem_performed.mp performed) (fresh action)
  exact closes_run (refresh_started calls) (Program.closes_map (refreshPoliciesAsync_closes platform))
    unpublished (refresh_heard platform calls moves)

omit fresh in
/-- A refresh that has ended and none of whose queries failed has published. -/
theorem published_completed {ending : Except Fault Outcome}
    (ended : (after platform moves (starting platform .refreshesPolicies calls)).ending
      calls.threads.length = some ending)
    (succeeded : ∀ call fault, ¬ Received platform calls.threads.length
      (starting platform .refreshesPolicies calls) moves call (.error fault)) :
    publishedBy calls.threads.length
      (after platform moves (starting platform .refreshesPolicies calls)) ≠ [] := by
  have succeeds : ∀ action received, Hears platform calls.threads.length
      (starting platform .refreshesPolicies calls) moves action received →
        Succeeds action received := by
    intro action received hears
    cases action with
    | query call =>
      cases received with
      | ok rows => exact ⟨rows, rfl⟩
      | error fault => exact absurd hears (succeeded call fault)
    | _ => trivial
  obtain ⟨action, logged, publishes⟩ := passes_run (refresh_started calls)
    (Program.passes_bind_first (refreshPoliciesAsync_passes platform))
    (Runs.along_mono (fun _ _ => receives_mono succeeds) (refresh_heard platform calls moves)) ended
  cases action with
  | publish snapshot => exact List.ne_nil_of_mem ((mem_publishedBy_iff _ _ snapshot).mpr logged)
  | _ => cases publishes

end Refreshing

/-- What a refresh publishes while the registry changes is the snapshot that the rows
it has read give. -/
theorem snapshot_of_states_read (platform : Platform) (gateway : Gateway)
    (earlier moves : List (Move Change Actor)) :
    PublishesReading platform (reached platform gateway earlier).threads.length
      (starting platform .refreshesPolicies (reached platform gateway earlier)) moves := by
  have fresh : ∀ action, ((reached platform gateway earlier).threads.length, action) ∉
      (reached platform gateway earlier).log :=
    fun action logged => absurd (log_started (fun _ member => by cases member) logged)
      (Nat.lt_irrefl _)
  generalize reached platform gateway earlier = calls at fresh ⊢
  refine ⟨fun _ _ => received_inForce, fun _ => published_reading fresh,
    published_once fresh platform, ?_, ?_, ?_⟩
  · rintro ⟨ending, ended⟩ succeeded
    exact published_completed ended succeeded
  · intro snapshot published routeKey policy found
    obtain ⟨reading, rfl⟩ := published_reading fresh published
    exact enabled_of_reading reading (fun _ _ => received_inForce) found
  · intro database has snapshot published
    obtain ⟨reading, rfl⟩ := published_reading fresh published
    exact snapshot_of_content reading has

/-- The actions of calls do not change the database. -/
theorem execute_database (action : Action) (gateway : Gateway) :
    (execute action gateway).2.database = gateway.database := by
  cases action <;> rfl

/-- While only calls advance the database keeps its content. -/
theorem database_undisturbed (platform : Platform) {moves : List (Move Change Actor)}
    (advances : ∀ move ∈ moves, ∃ index, move = .advances index) (calls : Calls) :
    (after platform moves calls).shared.database = calls.shared.database := by
  induction moves generalizing calls with
  | nil => rfl
  | cons move rest ih =>
    have later := ih (fun other member => advances other (List.mem_cons_of_mem move member))
      ((process platform).move move calls)
    refine later.trans ?_
    obtain ⟨index, rfl⟩ := advances move List.mem_cons_self
    rcases move_advances (process platform) calls index with
      ⟨origin, action, next, _, moved⟩ | idle
    · rw [moved]
      exact execute_database action calls.shared
    · rw [idle]

/-- A registry of one endpoint whose service and product are enabled or not. -/
def switched (serviceEnabled productEnabled : Bool) : Database :=
  Database.ofEndpoint { Product.sample with isEnabled := productEnabled }
    { PolicyResolver.oneService with isEnabled := serviceEnabled } PolicyResolver.oneServiceEndpoint

/-- A refresh is started over a registry, before anything else. -/
def refreshOver (database : Database) : Calls :=
  starting plainPlatform .refreshesPolicies (reached plainPlatform (Gateway.started database) [])

theorem snapshot_of_states_read_undisturbed :
    PublishesOneState plainPlatform 0 (refreshOver (switched true true))
      (List.replicate 6 (.advances 0)) := by
  intro snapshot published
  refine ⟨switched true true, ⟨[], .advances 0, List.replicate 5 (.advances 0), rfl, rfl, ?_, ?_⟩,
    (snapshot_of_states_read plainPlatform (Gateway.started (switched true true)) [] _).oneState
      (switched true true) ?_ snapshot published⟩
  · decide
  · decide
  · intro call rows received
    obtain ⟨database, now, ⟨during, next, rest, parts, content, _⟩, rfl⟩ := received_inForce received
    have advances : ∀ move ∈ during, ∃ index, move = .advances index := fun move member =>
      ⟨0, List.eq_of_mem_replicate (parts ▸ List.mem_append_left _ member)⟩
    have kept := database_undisturbed plainPlatform advances (refreshOver (switched true true))
    rw [← content]
    exact ⟨now, congrArg (fun database => rowsOf database now call) kept⟩

/-- After the services were read, the service is disabled and its product enabled. -/
def switchedMeanwhile : List (Move Change Actor) :=
  [.advances 0, .changes (.database (switched false false)),
    .changes (.database (switched false true))] ++ List.replicate 5 (.advances 0)

/-- The endpoint is published, and no content of the database ever exposed it. -/
theorem never_exposed_endpoint_published :
    ¬ PublishesOneState plainPlatform 0 (refreshOver (switched true false)) switchedMeanwhile := by
  intro publishes
  have published : (publishedBy 0 (after plainPlatform switchedMeanwhile
      (refreshOver (switched true false)))).map (fun snapshot => snapshot.values.length) = [1] := by
    decide
  have exposed : ∀ count < switchedMeanwhile.length,
      (PolicyResolver.snapshotOf plainPlatform (after plainPlatform (switchedMeanwhile.take count)
        (refreshOver (switched true false))).shared.database).values.length = 0 := by
    decide
  obtain ⟨snapshot, member, length⟩ := List.mem_map.mp (published ▸ List.mem_singleton_self 1)
  obtain ⟨database, ⟨during, next, rest, parts, content, _⟩, same⟩ := publishes snapshot member
  have taken : switchedMeanwhile.take during.length = during := by
    rw [parts, List.take_left]
  have shorter : during.length < switchedMeanwhile.length := by
    simp [parts]
  have unexposed := exposed during.length shorter
  rw [taken, content, ← same, length] at unexposed
  cases unexposed

end ApiGateway.Concurrent
