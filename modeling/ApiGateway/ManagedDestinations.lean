import ApiGateway.AdminCreates
import ApiGateway.Library.Runs
import ApiGateway.ResponseEnvelopes
import ApiGateway.Upstreams

/-!
# Addresses that are kept twice

A service's upstream addresses are kept in a list in its own row, which clusters
are built from, and in a table of destinations, one address a row, each with a
switch. The operations on services write the list, those on destinations write the
table, and none looks at the other.

The two hold the same addresses after an operation exactly when the operation itself
sees to it. As long as every one does, clusters have the addresses of the enabled
destinations.
-/

namespace ApiGateway.Admin

open Effects DatabaseProxyConfigProvider

variable {Others : Type}

/-- An operation on services and their destinations. A creation comes with the
identifier that the server generates. -/
inductive Operation where
  | createService (id : Guid) (request : CreateRequest postService)
  | updateService (id : Guid) (request : Request .services)
  | disableService (id : Guid)
  | createDestination (id : Guid) (request : CreateRequest postServiceDestination)
  | updateDestination (id : Guid) (request : Request .serviceDestinations)
  | disableDestination (id : Guid)

/-- The list that a stored value is read as. -/
def listed (platform : Platform) : Value → List NullableText
  | .json text =>
    match platform.deserializeStrings text with
    | .ok items => items.getD []
    | .error _ => []
  | _ => []

/-- What is documented of lists as text: what was serialized is read back, and the
text for null is no list. -/
structure ReadsSerialized (platform : Platform) (conversions : Conversions) : Prop where
  serialized : ∀ items, platform.deserializeStrings (conversions.serialize items) = .ok (some items)
  null : platform.deserializeStrings "null".toList = .ok none

/-- What is documented of the column: a text is stored as one with the same list. -/
def StoresLists (platform : Platform) (postgres : Postgres Others) : Prop :=
  ∀ value, listed platform (postgres.convert .services ServiceColumn.destinations value) =
    listed platform value

/-- An operation, and the database as it meets it: what it refuses then, and the time
of day. -/
structure Attempt (platform : Platform) (Others : Type) where
  postgres : InsertingPostgres Others
  storesLists : StoresLists platform postgres.toPostgres
  operation : Operation

/-- What an operation makes of the tables. -/
def perform {platform : Platform} (conversions : Conversions) (attempt : Attempt platform Others)
    (tables : Tables Others) : Tables Others :=
  match attempt.operation with
  | .createService id request =>
      (@createAsync _ .services postService attempt.postgres conversions id request tables).2
  | .updateService id request =>
      (put attempt.postgres.toPostgres conversions .services id request tables).2
  | .disableService id => (disableAsync attempt.postgres.toAdminPostgres .services id tables).2
  | .createDestination id request =>
      (@createAsync _ .serviceDestinations postServiceDestination attempt.postgres conversions id
        request tables).2
  | .updateDestination id request =>
      (put attempt.postgres.toPostgres conversions .serviceDestinations id request tables).2
  | .disableDestination id =>
      (disableAsync attempt.postgres.toAdminPostgres .serviceDestinations id tables).2

section Addresses

/-- The list of a service's row. -/
def listOf (platform : Platform) (row : Row .services) : List NullableText :=
  ((row ServiceColumn.destinations).map (listed platform)).getD []

/-- What a statement sends, as it is stored. -/
def asStored (postgres : Postgres Others) (table : AdminTable) (sent : Row table) : Row table :=
  fun column => (sent column).map (postgres.convert table column)

/-- The service and the address of an enabled destination. -/
def placement (row : Row .serviceDestinations) : Option (Guid × NullableText) :=
  match row ServiceDestinationColumn.serviceId, row ServiceDestinationColumn.address,
    row ServiceDestinationColumn.isEnabled with
  | some (.guid service), some (.text address), some (.boolean true) => some (service, some address)
  | _, _, _ => none

/-- Some enabled destination of a service has an address. -/
def Manages (tables : Tables Others) (service : Guid) (address : NullableText) : Prop :=
  ∃ id row, tables.rows .serviceDestinations id = some row ∧ placement row = some (service, address)

/-- A destination other than a given one has it. -/
def Elsewhere (tables : Tables Others) (id service : Guid) (address : NullableText) : Prop :=
  ∃ other row, other ≠ id ∧ tables.rows .serviceDestinations other = some row ∧
    placement row = some (service, address)

/-- Every service lists exactly the addresses of its enabled destinations. -/
def Agrees (platform : Platform) (tables : Tables Others) : Prop :=
  ∀ id row, tables.rows .services id = some row →
    ∀ address, address ∈ listOf platform row ↔ Manages tables id address

/-- An address that one destination comes to have or has no longer is had by another
one of the service as well. -/
def Undisturbed (tables : Tables Others) (id : Guid) (before after : Option (Guid × NullableText)) :
    Prop :=
  ∀ service row address, tables.rows .services service = some row →
    Elsewhere tables id service address ∨
      (before = some (service, address) ↔ after = some (service, address))

/-- The list of a request, if it has one. -/
def createdList (request : CreateRequest postService) : Option (List NullableText) :=
  request ServiceColumn.destinations

def updatedList (request : Request .services) : Option (List NullableText) :=
  request ServiceColumn.destinations

/-- An operation that is carried out keeps the two together: a list that it writes is
the destinations' addresses already, and a destination that it writes leaves the
service's addresses as they are. -/
def KeepsTogether {platform : Platform} (conversions : Conversions) (tables : Tables Others)
    (attempt : Attempt platform Others) : Prop :=
  match attempt.operation with
  | .createService id request =>
      @Creates _ .services postService attempt.postgres conversions id request tables →
        ∀ address, address ∈ (createdList request).getD [] ↔ Manages tables id address
  | .updateService id request =>
      ∀ row, tables.rows .services id = some row →
        Accepts attempt.postgres.toPostgres conversions .services id request tables row →
          ∀ items, updatedList request = some items →
            ∀ address, address ∈ items ↔ Manages tables id address
  | .disableService _ => True
  | .createDestination id request =>
      @Creates _ .serviceDestinations postServiceDestination attempt.postgres conversions id request
          tables →
        Undisturbed tables id none (placement (asStored attempt.postgres.toPostgres
          .serviceDestinations
            (@inserted .serviceDestinations postServiceDestination conversions request)))
  | .updateDestination id request =>
      ∀ row, tables.rows .serviceDestinations id = some row →
        Accepts attempt.postgres.toPostgres conversions .serviceDestinations id request tables row →
          Undisturbed tables id (placement row) (placement (asStored attempt.postgres.toPostgres
            .serviceDestinations (parameters conversions .serviceDestinations request row)))
  | .disableDestination id =>
      ∀ row, tables.rows .serviceDestinations id = some row →
        attempt.postgres.refusesDisable .serviceDestinations id tables = none →
          Undisturbed tables id (placement row) none

end Addresses

section Rows

variable {platform : Platform} {conversions : Conversions} {postgres : Postgres Others}

theorem listed_serialized (reads : ReadsSerialized platform conversions) (items : List NullableText) :
    listed platform (.json (conversions.serialize items)) = items := by
  simp [listed, reads.serialized]

theorem listed_null (reads : ReadsSerialized platform conversions) :
    listed platform (.json "null".toList) = [] := by
  simp only [listed, reads.null, Option.getD_none]

/-- A list that a row has stored is the one it was sent. -/
theorem listOf_stored (stores : StoresLists platform postgres) {row : Row .services} {value : Value}
    (stored : row ServiceColumn.destinations =
      some (postgres.convert .services ServiceColumn.destinations value)) :
    listOf platform row = listed platform value := by
  rw [listOf, stored]
  exact stores value

/-- A new service lists what its request does. -/
theorem listOf_created (stores : StoresLists platform postgres)
    (reads : ReadsSerialized platform conversions) (id : Guid) (request : CreateRequest postService) :
    listOf platform (@createdRow _ .services postService postgres conversions id request) =
      (createdList request).getD [] := by
  cases given : createdList request with
  | some items =>
    have sent : request ServiceColumn.destinations = some items := given
    have stored : @createdRow _ .services postService postgres conversions id request
        ServiceColumn.destinations = some (postgres.convert .services ServiceColumn.destinations
          (.json (conversions.serialize items))) := by
      simp only [createdRow, inserted, postService, sent]
      rfl
    rw [listOf_stored stores stored, listed_serialized reads]
    rfl
  | none =>
    have sent : request ServiceColumn.destinations = none := given
    have stored : @createdRow _ .services postService postgres conversions id request
        ServiceColumn.destinations =
          some (postgres.convert .services ServiceColumn.destinations (.json "null".toList)) := by
      simp only [createdRow, inserted, postService, sent]
      rfl
    rw [listOf_stored stores stored, listed_null reads]
    rfl

/-- An updated service lists what the request does, or what it has listed. -/
theorem listOf_updated (stores : StoresLists platform postgres)
    (reads : ReadsSerialized platform conversions) (request : Request .services) (row : Row .services) :
    listOf platform
        (coalesced postgres .services (parameters conversions .services request (loaded row)) row) =
      (updatedList request).getD (listOf platform row) := by
  cases given : updatedList request with
  | some items =>
    have sent : request ServiceColumn.destinations = some items := given
    have stored : coalesced postgres .services
        (parameters conversions .services request (loaded row)) row ServiceColumn.destinations =
          some (postgres.convert .services ServiceColumn.destinations
            (.json (conversions.serialize items))) := by
      simp only [coalesced, parameters, sent]
      rfl
    rw [listOf_stored stores stored, listed_serialized reads]
    rfl
  | none =>
    have sent : request ServiceColumn.destinations = none := given
    have column : coalesced postgres .services
        (parameters conversions .services request (loaded row)) row ServiceColumn.destinations =
          (((row ServiceColumn.destinations).or none).map
            (postgres.convert .services ServiceColumn.destinations)).or
              (row ServiceColumn.destinations) := by
      simp only [coalesced, parameters, sent]
      rfl
    cases held : row ServiceColumn.destinations with
    | none =>
      rw [held] at column
      rw [listOf, column]
      simp [listOf, held]
    | some value =>
      rw [held] at column
      rw [listOf_stored stores column]
      simp [listOf, held]

/-- A disabled service lists what it has listed. -/
theorem listOf_disabled (row : Row .services) :
    listOf platform (disabled postgres .services row) = listOf platform row :=
  rfl

/-- Rows with the same service, address and switch have the same placement. -/
theorem placement_congr {row other : Row .serviceDestinations}
    (same : ∀ column ∈ [ServiceDestinationColumn.serviceId, .address, .isEnabled],
      row column = other column) : placement row = placement other := by
  simp only [List.forall_mem_cons] at same
  obtain ⟨service, address, switch, _⟩ := same
  rw [placement, placement, service, address, switch]

theorem placement_created (id : Guid) (request : CreateRequest postServiceDestination) :
    placement (@createdRow _ .serviceDestinations postServiceDestination postgres conversions id
        request) =
      placement (asStored postgres .serviceDestinations
        (@inserted .serviceDestinations postServiceDestination conversions request)) :=
  rfl

/-- Where the loaded property is the fallback and every value asked for is valid, null
is sent only for null. -/
theorem null_of_sent_null (assignment : Assignment) {initial stored : Option Value}
    {request : Option assignment.property.Carrier} (source : assignment.whenAbsent = .existing initial)
    (valid : ∀ value, ∃ asked, assignment.requested conversions value = some asked)
    (unsent : assignment.sent conversions request stored = none) : stored = none := by
  unfold Assignment.sent at unsent
  rw [source] at unsent
  cases request with
  | none => exact (Option.or_eq_none_iff.mp unsent).1
  | some value =>
    obtain ⟨asked, taken⟩ := valid value
    simp [taken] at unsent

/-- A parameter of a destination's service, address or switch is null only where the
column is. -/
theorem null_of_parameters_null (request : Request .serviceDestinations)
    (row : Row .serviceDestinations) :
    ∀ column ∈ [ServiceDestinationColumn.serviceId, .address, .isEnabled],
      parameters conversions .serviceDestinations request row column = none → row column = none := by
  intro column among unsent
  simp only [List.mem_cons, List.not_mem_nil, or_false] at among
  rcases among with rfl | rfl | rfl
  · exact null_of_sent_null (putServiceDestination.assignment .serviceId) rfl
      (fun value => ⟨.guid value, rfl⟩) unsent
  · exact null_of_sent_null (putServiceDestination.assignment .address) rfl
      (fun value => ⟨.text value, rfl⟩) unsent
  · exact null_of_sent_null (putServiceDestination.assignment .isEnabled) rfl
      (fun value => ⟨.boolean value, rfl⟩) unsent

/-- An updated destination is placed as the statement's parameters are. -/
theorem placement_updated (request : Request .serviceDestinations) (row : Row .serviceDestinations) :
    placement (coalesced postgres .serviceDestinations
        (parameters conversions .serviceDestinations request (loaded row)) row) =
      placement (asStored postgres .serviceDestinations
        (parameters conversions .serviceDestinations request row)) := by
  apply placement_congr
  intro column among
  have loads : loaded row = row := rfl
  have unstamped : AdminTable.serviceDestinations.put.stamped column = false := rfl
  rw [loads]
  cases sent : parameters conversions .serviceDestinations request row column with
  | none =>
    have held := null_of_parameters_null request row column among sent
    simp [coalesced, asStored, unstamped, sent, held]
  | some value => simp [coalesced, asStored, unstamped, sent]

/-- A disabled destination has no address. -/
theorem placement_disabled (row : Row .serviceDestinations) :
    placement (disabled postgres .serviceDestinations row) = none := by
  have off : disabled postgres .serviceDestinations row ServiceDestinationColumn.isEnabled =
      some (.boolean false) := rfl
  rw [placement]
  rw [off]
  split
  · next switch => cases switch
  · rfl

end Rows

section Writes

variable {platform : Platform} {tables : Tables Others} {id service : Guid} {address : NullableText}

theorem manages_iff_elsewhere {before : Option (Row .serviceDestinations)}
    (stored : tables.rows .serviceDestinations id = before) :
    Manages tables service address ↔
      Elsewhere tables id service address ∨ before.bind placement = some (service, address) := by
  constructor
  · rintro ⟨other, row, held, placed⟩
    by_cases same : other = id
    · subst same
      rw [← stored, held]
      exact Or.inr placed
    · exact Or.inl ⟨other, row, same, held, placed⟩
  · rintro (⟨other, row, _, held, placed⟩ | placed)
    · exact ⟨other, row, held, placed⟩
    · obtain ⟨row, present, located⟩ := Option.bind_eq_some_iff.mp placed
      exact ⟨id, row, stored.trans present, located⟩

/-- A destination's row has no say in what the others have. -/
theorem elsewhere_setRow (row : Row .serviceDestinations) :
    Elsewhere (tables.setRow id row) id service address ↔ Elsewhere tables id service address := by
  rw [Elsewhere]
  refine exists_congr fun other => exists_congr fun held => and_congr_right fun different => ?_
  rw [setRow_rows_other (fun _ => different)]

theorem manages_setService (row : Row .services) :
    Manages (tables.setRow id row) service address ↔
      Manages tables service address := by
  rw [Manages]
  refine exists_congr fun other => exists_congr fun held => ?_
  rw [setRow_rows_other (by simp)]

/-- An address that another destination has as well may come and go. -/
theorem undisturbed_of_elsewhere {before after : Option (Guid × NullableText)}
    (elsewhere : ∀ service address,
      before = some (service, address) ∨ after = some (service, address) →
        Elsewhere tables id service address) : Undisturbed tables id before after := by
  intro service row address _
  by_cases placed : before = some (service, address) ∨ after = some (service, address)
  · exact Or.inl (elsewhere service address placed)
  · obtain ⟨absent, unplaced⟩ := not_or.mp placed
    exact Or.inr (iff_of_false absent unplaced)

/-- Replacing a service's row keeps the agreement exactly when the new row lists the
destinations' addresses. -/
theorem agrees_setService_iff (agrees : Agrees platform tables) (row : Row .services) :
    Agrees platform (tables.setRow id row) ↔
      ∀ address, address ∈ listOf platform row ↔ Manages tables id address := by
  constructor
  · intro still address
    rw [still id row (setRow_rows_self row) address, manages_setService]
  · intro together key held stored address
    rw [manages_setService]
    by_cases same : key = id
    · subst same
      rw [setRow_rows_self] at stored
      obtain rfl := Option.some.inj stored
      exact together address
    · rw [setRow_rows_other (fun _ => same)] at stored
      exact agrees key held stored address

/-- Replacing a destination's row keeps it exactly when no address depends on it. -/
theorem agrees_setDestination_iff (agrees : Agrees platform tables)
    {before : Option (Row .serviceDestinations)}
    (stored : tables.rows .serviceDestinations id = before) (row : Row .serviceDestinations) :
    Agrees platform (tables.setRow id row) ↔
      Undisturbed tables id (before.bind placement) (placement row) := by
  have services : ∀ key, (tables.setRow id row).rows .services key =
      tables.rows .services key := fun key => setRow_rows_other (by simp) row
  have after : ∀ service address,
      Manages (tables.setRow id row) service address ↔
        Elsewhere tables id service address ∨ placement row = some (service, address) := by
    intro service address
    rw [manages_iff_elsewhere (setRow_rows_self row), elsewhere_setRow]
    rfl
  constructor
  · intro still service held address present
    have now := still service held ((services service).trans present) address
    rw [agrees service held present address, manages_iff_elsewhere stored, after] at now
    tauto
  · intro undisturbed service held present address
    rw [services] at present
    rw [agrees service held present address, manages_iff_elsewhere stored, after]
    have same := undisturbed service held address present
    tauto

end Writes

section Together

variable {platform : Platform} {conversions : Conversions} {tables : Tables Others}

/-- An operation keeps the two in agreement exactly when it sees to it. -/
theorem agrees_perform_iff (reads : ReadsSerialized platform conversions)
    (attempt : Attempt platform Others) (agrees : Agrees platform tables) :
    Agrees platform (perform conversions attempt tables) ↔
      KeepsTogether conversions tables attempt := by
  obtain ⟨postgres, stores, operation⟩ := attempt
  cases operation with
  | createService id request =>
    dsimp only [perform, KeepsTogether]
    by_cases creates : @Creates _ .services postService postgres conversions id request tables
    · rw [createAsync_run creates, agrees_setService_iff agrees, listOf_created stores reads]
      exact ⟨fun together _ => together, fun together => together creates⟩
    · rw [createAsync_refused creates]
      exact iff_of_true agrees (fun carried => absurd carried creates)
  | updateService id request =>
    dsimp only [perform, KeepsTogether]
    rcases put_cases postgres.toPostgres conversions _ id tables request with
      ⟨row, stored, accepts, changed⟩ | ⟨refused, unchanged⟩
    · rw [changed, agrees_setService_iff agrees, listOf_updated stores reads]
      constructor
      · intro together _ _ _ items given address
        rw [given] at together
        exact together address
      · intro together address
        cases given : updatedList request with
        | some items => exact together row stored accepts items given address
        | none => exact agrees id row stored address
    · rw [unchanged]
      exact iff_of_true agrees (fun row stored accepts => absurd accepts (refused row stored))
  | disableService id =>
    dsimp only [perform, KeepsTogether]
    refine iff_of_true ?_ trivial
    rcases disableAsync_cases postgres.toAdminPostgres .services id tables with
      ⟨row, stored, _, changed⟩ | ⟨_, unchanged⟩
    · rw [changed, agrees_setService_iff agrees, listOf_disabled]
      exact agrees id row stored
    · rw [unchanged]
      exact agrees
  | createDestination id request =>
    dsimp only [perform, KeepsTogether]
    by_cases creates : @Creates _ .serviceDestinations postServiceDestination postgres conversions
        id request tables
    · rw [createAsync_run creates, agrees_setDestination_iff agrees creates.2, placement_created]
      exact ⟨fun undisturbed _ => undisturbed, fun undisturbed => undisturbed creates⟩
    · rw [createAsync_refused creates]
      exact iff_of_true agrees (fun carried => absurd carried creates)
  | updateDestination id request =>
    dsimp only [perform, KeepsTogether]
    rcases put_cases postgres.toPostgres conversions _ id tables request with
      ⟨row, stored, accepts, changed⟩ | ⟨refused, unchanged⟩
    · rw [changed, agrees_setDestination_iff agrees stored, placement_updated]
      constructor
      · intro undisturbed held present _
        obtain rfl := Option.some.inj (stored.symm.trans present)
        exact undisturbed
      · intro undisturbed
        exact undisturbed row stored accepts
    · rw [unchanged]
      exact iff_of_true agrees (fun row stored accepts => absurd accepts (refused row stored))
  | disableDestination id =>
    dsimp only [perform, KeepsTogether]
    rcases disableAsync_cases postgres.toAdminPostgres .serviceDestinations id tables with
      ⟨row, stored, answered, changed⟩ | ⟨refused, unchanged⟩
    · rw [changed, agrees_setDestination_iff agrees stored, placement_disabled]
      constructor
      · intro undisturbed held present _
        obtain rfl := Option.some.inj (stored.symm.trans present)
        exact undisturbed
      · intro undisturbed
        exact undisturbed row stored answered
    · rw [unchanged]
      exact iff_of_true agrees (fun row stored answered => absurd answered (refused row stored))

/-- The two agree all along exactly the runs whose operations see to it. -/
theorem agrees_always_iff (reads : ReadsSerialized platform conversions)
    {attempts : List (Attempt platform Others)} (initial : Agrees platform tables) :
    (∀ earlier, earlier <+: attempts →
        Agrees platform (Runs.run (perform conversions) earlier tables)) ↔
      Runs.Along (perform conversions) (KeepsTogether conversions) attempts tables :=
  Runs.always_iff (fun _ attempt agrees => agrees_perform_iff reads attempt agrees) initial

end Together

section Clusters

/-- The registry has the services of the tables, with their lists. -/
def ReadsServices (tables : Tables Others) (database : Database) : Prop :=
  ∀ service ∈ database.services, ∃ row, tables.rows .services service.id = some row ∧
    row ServiceColumn.destinations = some (.json service.destinations)

/-- The published cluster of a service has the addresses of its enabled
destinations. -/
def UsesManaged (tables : Tables Others) (database : Database) (config : DatabaseProxyConfig) :
    Prop :=
  ∀ service ∈ database.services, ∀ cluster ∈ config.clusters,
    Dictionary.lookupIn "ServiceId".toList cluster.metadata = some service.id.text →
      ∀ address, address ∈ cluster.destinations.values.map DestinationConfig.address ↔
        Manages tables service.id address

variable {platform : Platform} {conversions : Conversions} {tables : Tables Others}
  {enumeration : Enumeration} {gateway : Gateway}

/-- A service's published cluster has the addresses that the service lists. -/
theorem cluster_addresses (succeeds : Succeeds platform enumeration gateway) {service : Service}
    (row : service ∈ gateway.database.services) {cluster : ClusterConfig}
    (published : cluster ∈ (refreshConfigAsync platform enumeration gateway).2.provider.config.clusters)
    (names : Dictionary.lookupIn "ServiceId".toList cluster.metadata = some service.id.text) :
    cluster.destinations.values.map DestinationConfig.address =
      listed platform (.json service.destinations) := by
  obtain ⟨built, completed, stored⟩ := refreshConfigAsync_run succeeds
  rw [stored] at published
  obtain ⟨policy, first, made⟩ := (completed.mem_clusters cluster).mp published
  have registered : policy ∈ PolicyResolver.registeredPolicies platform gateway.database :=
    enumerated_registered ((mem_firstBy_iff routeIdOf _ policy).mp first.mem).mem
  have identity := (buildClusterConfig_service made).2.2.2
  have same : policy.service = service :=
    Database.row_unique gateway.database.services_id
      (PolicyResolver.registered_rows registered).service row
      (Guid.ext_text (Option.some.inj (identity.symm.trans names)))
  obtain ⟨destinations, parsed, addresses⟩ := buildClusterConfig_destinations made
  rw [same] at parsed
  rw [addresses, listed, parsed]

/-- Where the two agree, clusters have the managed addresses. -/
theorem usesManaged_of_agrees (agrees : Agrees platform tables)
    (reads : ReadsServices tables gateway.database)
    (succeeds : Succeeds platform enumeration gateway) :
    UsesManaged tables gateway.database
      (refreshConfigAsync platform enumeration gateway).2.provider.config := by
  intro service member cluster published names address
  obtain ⟨row, stored, lists⟩ := reads service member
  have same : listOf platform row = listed platform (.json service.destinations) := by
    rw [listOf, lists]
    rfl
  rw [cluster_addresses succeeds member published names, ← same]
  exact agrees service.id row stored address

/-- After a run whose operations keep the two together, a refresh publishes clusters
with the addresses of the enabled destinations. -/
theorem managed_destinations_used (reads : ReadsSerialized platform conversions)
    (initial : Agrees platform tables) (attempts : List (Attempt platform Others))
    (together : Runs.Along (perform conversions) (KeepsTogether conversions) attempts tables)
    (readsServices : ReadsServices (Runs.run (perform conversions) attempts tables) gateway.database)
    (succeeds : Succeeds platform enumeration gateway) :
    UsesManaged (Runs.run (perform conversions) attempts tables) gateway.database
      (refreshConfigAsync platform enumeration gateway).2.provider.config :=
  usesManaged_of_agrees
    ((agrees_always_iff reads initial).mpr together attempts List.prefix_rfl)
    readsServices succeeds

end Clusters

section Sample

/-- A text of a list, or null. -/
def writeItem : NullableText → Text
  | none => "null".toList
  | some text => Envelopes.quoted text

/-- A JSON array of texts, written without spaces. -/
def writeStrings : List NullableText → Text
  | [] => "[]".toList
  | first :: rest =>
    '[' :: (writeItem first ++ rest.flatMap (fun item => ',' :: writeItem item) ++ [']'])

/-- One text and what follows it. -/
def readItem (text : Text) : Option (NullableText × Text) :=
  if text.take 4 = "null".toList then some (none, text.drop 4)
  else
    match text with
    | '"' :: rest => (Envelopes.readQuoted false rest).map (Prod.map some id)
    | _ => none

/-- The texts up to the closing bracket, each behind a comma; there are no more of
them than the given number. -/
def readItems : Nat → Text → Option (List NullableText)
  | _, [']'] => some []
  | count + 1, ',' :: rest =>
    match readItem rest with
    | some (item, behind) => (readItems count behind).map (List.cons item)
    | none => none
  | _, _ => none

def readStrings (text : Text) : Except Fault (Option (List NullableText)) :=
  if text = "null".toList then .ok none
  else
    match text with
    | '[' :: rest =>
      if rest = [']'] then .ok (some [])
      else
        match readItems rest.length (',' :: rest) with
        | some items => .ok (some items)
        | none => .error ⟨"JsonException".toList⟩
    | _ => .error ⟨"JsonException".toList⟩

theorem readItem_written (item : NullableText) (rest : Text) :
    readItem (writeItem item ++ rest) = some (item, rest) := by
  cases item with
  | none => simp [readItem, writeItem]
  | some text =>
    have read := Envelopes.readQuoted_quoted text rest
    simp [readItem, writeItem, Envelopes.quoted, read]

theorem readItems_written (items : List NullableText) (count : Nat) (enough : items.length ≤ count) :
    readItems count (items.flatMap (fun item => ',' :: writeItem item) ++ [']']) = some items := by
  induction items generalizing count with
  | nil => cases count <;> rfl
  | cons item rest ih =>
    cases count with
    | zero => simp at enough
    | succ count =>
      have others := ih count (Nat.le_of_succ_le_succ enough)
      rw [List.flatMap_cons, List.cons_append, List.cons_append, List.append_assoc, readItems,
        readItem_written]
      simp [others]

/-- A list takes no less room than it has texts. -/
theorem length_le_written (items : List NullableText) :
    items.length ≤ (items.flatMap (fun item => ',' :: writeItem item)).length := by
  induction items with
  | nil => simp
  | cons item rest ih =>
    rw [List.flatMap_cons, List.length_append, List.length_cons, List.length_cons]
    omega

/-- The sample platform with lists of any texts. -/
def listingPlatform : Platform := { plainPlatform with deserializeStrings := readStrings }

def listingConversions : Conversions := { plainConversions with serialize := writeStrings }

theorem readStrings_written (items : List NullableText) :
    readStrings (writeStrings items) = .ok (some items) := by
  cases items with
  | nil => rfl
  | cons first rest =>
    have room := length_le_written rest
    have filled : 0 < (writeItem first).length := by cases first <;> simp [writeItem, Envelopes.quoted]
    have read := readItems_written (first :: rest)
      (writeItem first ++ rest.flatMap (fun item => ',' :: writeItem item) ++ [']']).length (by
        simp only [List.length_append, List.length_cons, List.length_nil]
        omega)
    have longer : writeItem first ++ rest.flatMap (fun item => ',' :: writeItem item) ++ [']'] ≠
        [']'] := by
      intro short
      have lengths := congrArg List.length short
      simp only [List.length_append, List.length_cons, List.length_nil] at lengths
      omega
    rw [List.flatMap_cons, List.cons_append, List.cons_append] at read
    have noNull : '[' :: (writeItem first ++ rest.flatMap (fun item => ',' :: writeItem item) ++
        [']']) ≠ "null".toList := by simp
    simp only [readStrings, writeStrings, if_neg noNull, if_neg longer, read]

theorem listing_readsSerialized : ReadsSerialized listingPlatform listingConversions :=
  ⟨readStrings_written, rfl⟩

theorem lenient_storesLists : StoresLists listingPlatform lenientInserting.toPostgres := by
  intro value
  rfl

def ordersAddress : Text := "http://orders".toList

/-- The service of the sample tables, with one address. -/
def createOrders : CreateRequest postService := fun (column : ServiceColumn) =>
  match column with
  | .serviceName => some "orders".toList
  | .basePath => some "/orders".toList
  | .version => some "v1".toList
  | .clusterId => some "orders".toList
  | .destinations => some [some ordersAddress]
  | _ => none

/-- A destination of the service with the same address. -/
def placeOrders (name : Text) : CreateRequest postServiceDestination :=
  fun (column : ServiceDestinationColumn) =>
    match column with
    | .serviceId => some (Guid.numbered 1)
    | .destinationName => some name
    | .address => some ordersAddress
    | _ => none

def ordersRow : Row .services :=
  @createdRow _ .services postService lenientInserting.toPostgres listingConversions
    (Guid.numbered 1) createOrders

def destinationRow (id : Nat) (name : Text) : Row .serviceDestinations :=
  @createdRow _ .serviceDestinations postServiceDestination lenientInserting.toPostgres
    listingConversions (Guid.numbered id) (placeOrders name)

/-- The service and its destination. -/
def ordersTables : Tables Unit where
  rows := fun table id =>
    match table with
    | .services => if id = Guid.numbered 1 then some ordersRow else none
    | .serviceDestinations =>
      if id = Guid.numbered 2 then some (destinationRow 2 "destination1".toList) else none
    | _ => none
  others := ()

/-- The registry that is read: the service with an endpoint. -/
def ordersRegistry : Database :=
  Database.ofEndpoint .sample
    (.sample 1 "orders".toList "/orders".toList "v1".toList "orders".toList
      "[\"http://orders\"]".toList)
    (.sample 3 1 "list".toList "GET".toList "/list".toList)

theorem ordersRegistry_succeeds :
    Succeeds listingPlatform insertionOrder (Gateway.started ordersRegistry) :=
  succeeds_of_parsable (Gateway.started_connected _) (by decide)

theorem ordersTables_agrees : Agrees listingPlatform ordersTables := by
  intro id row stored address
  obtain ⟨rfl, ⟨⟩⟩ := Option.ite_none_right_eq_some.mp stored
  have lists : listOf listingPlatform ordersRow = [some ordersAddress] := by
    rw [ordersRow, listOf_created lenient_storesLists listing_readsSerialized]
    rfl
  have placed : placement (destinationRow 2 "destination1".toList) =
      some (Guid.numbered 1, some ordersAddress) := rfl
  rw [lists, List.mem_singleton]
  constructor
  · rintro rfl
    exact ⟨Guid.numbered 2, _, rfl, placed⟩
  · rintro ⟨key, held, holds, located⟩
    obtain ⟨-, ⟨⟩⟩ := Option.ite_none_right_eq_some.mp holds
    rw [placed] at located
    exact (congrArg Prod.snd (Option.some.inj located)).symm

/-- Operations of the sample run. -/
def attempted (operation : Operation) : Attempt listingPlatform Unit :=
  ⟨lenientInserting, lenient_storesLists, operation⟩

/-- The destination's address is given to a second one before the first is disabled. -/
def replaced : List (Attempt listingPlatform Unit) :=
  [attempted (.createDestination (Guid.numbered 4) (placeOrders "spare".toList)),
    attempted (.disableDestination (Guid.numbered 2))]

theorem managed_destinations_used_replaced :
    UsesManaged (Runs.run (perform listingConversions) replaced ordersTables) ordersRegistry
      (refreshConfigAsync listingPlatform insertionOrder
        (Gateway.started ordersRegistry)).2.provider.config := by
  refine managed_destinations_used listing_readsSerialized ordersTables_agrees replaced ⟨?_, ?_, trivial⟩
    ?_ ordersRegistry_succeeds
  · intro _
    apply undisturbed_of_elsewhere
    rintro service address (⟨⟨⟩⟩ | ⟨⟨⟩⟩)
    exact ⟨Guid.numbered 2, _, by decide, rfl, rfl⟩
  · intro row stored _
    apply undisturbed_of_elsewhere
    obtain ⟨⟩ := stored
    rintro service address (⟨⟨⟩⟩ | ⟨⟨⟩⟩)
    exact ⟨Guid.numbered 4, _, by decide, rfl, rfl⟩
  · intro service among
    obtain rfl := List.mem_singleton.mp among
    exact ⟨ordersRow, rfl, rfl⟩

/-- Where the only destination is disabled, its address is still in the cluster. -/
theorem disabled_destination_served :
    Agrees listingPlatform ordersTables ∧
      ReadsServices (Runs.run (perform listingConversions)
        [attempted (.disableDestination (Guid.numbered 2))] ordersTables) ordersRegistry ∧
      Succeeds listingPlatform insertionOrder (Gateway.started ordersRegistry) ∧
      ¬ UsesManaged (Runs.run (perform listingConversions)
          [attempted (.disableDestination (Guid.numbered 2))] ordersTables) ordersRegistry
        (refreshConfigAsync listingPlatform insertionOrder
          (Gateway.started ordersRegistry)).2.provider.config := by
  refine ⟨ordersTables_agrees, ?_, ordersRegistry_succeeds, ?_⟩
  · intro service among
    obtain rfl := List.mem_singleton.mp among
    exact ⟨ordersRow, rfl, rfl⟩
  · intro used
    have served : ∃ cluster ∈ (refreshConfigAsync listingPlatform insertionOrder
        (Gateway.started ordersRegistry)).2.provider.config.clusters,
          Dictionary.lookupIn "ServiceId".toList cluster.metadata = some (Guid.numbered 1).text ∧
            some ordersAddress ∈ cluster.destinations.values.map DestinationConfig.address := by
      decide
    obtain ⟨cluster, published, names, address⟩ := served
    obtain ⟨id, row, stored, placed⟩ :=
      (used _ (List.mem_singleton.mpr rfl) cluster published names _).mp address
    have changed : Runs.run (perform listingConversions)
        [attempted (.disableDestination (Guid.numbered 2))] ordersTables =
          ordersTables.setRow (Guid.numbered 2) (disabled lenientInserting.toPostgres
            .serviceDestinations (destinationRow 2 "destination1".toList)) := rfl
    rw [changed] at stored
    by_cases only : id = Guid.numbered 2
    · rw [only, setRow_rows_self] at stored
      rw [← Option.some.inj stored, placement_disabled] at placed
      cases placed
    · rw [setRow_rows_other (fun _ => only)] at stored
      exact only (Option.ite_none_right_eq_some.mp stored).1

end Sample

end ApiGateway.Admin
