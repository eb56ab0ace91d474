import ApiGateway.Library.Rekeying
import ApiGateway.Library.Traversals
import ApiGateway.LinkedDatabase
import ApiGateway.ManagedDestinations
import ApiGateway.Organisations
import ApiGateway.SeedExecution

/-!
# The table of destinations is filled

The migration that creates the table of destinations fills it from the lists in the
services' rows: one enabled row for each element, named by its position from one. A row
whose service and name are taken is left out, so the statement can be repeated.

Filling an empty table makes it agree with the lists, which is where operations that
keep the two together start from.
-/

namespace ApiGateway.DestinationBackfill

open Keyed Traversals DatabaseProxyConfigProvider
open Organisations (uniqueViolation notNullViolation)

/-- What the server makes of a JSON column: the elements of an array as texts, with null
for null, and an exception for anything that is no array. -/
structure JsonServer where
  arrayElementsText : Text → Except Fault (List NullableText)

/-- What is documented: the gateway and the server read a list of texts alike. -/
def ReadsAlike (platform : Platform) (server : JsonServer) : Prop :=
  ∀ json items, platform.deserializeStrings json = .ok (some items) →
    server.arrayElementsText json = .ok items

/-- A row of the query: service, name and element. -/
structure Selected where
  serviceId : Guid
  destinationName : Text
  value : NullableText

/-- The elements of a list at their positions. -/
def positioned (service : Service) (items : List NullableText) : List Selected :=
  items.zipIdx.map (fun item => ⟨service.id, destinationName (item.2 + 1), item.1⟩)

/-- The elements of a service's list. -/
def elementsOf (server : JsonServer) (service : Service) : Except Fault (List Selected) :=
  (server.arrayElementsText service.destinations).map (positioned service)

/-- The query. An empty list has no elements. -/
def selected (server : JsonServer) (services : List Service) : Except Fault (List Selected) :=
  (services.mapM (elementsOf server)).map List.flatten

def stringTruncation : Fault := ⟨"22001".toList⟩

def foreignKeyViolation : Fault := ⟨"23503".toList⟩

/-- The row to insert, with the defaults of the table. -/
def proposed (id : Guid) (row : Selected) : Except Fault ServiceDestination :=
  match row.value with
  | none => .error notNullViolation
  | some value =>
    match SeedImport.varchar 500 value with
    | none => .error stringTruncation
    | some address => .ok ⟨id, row.serviceId, row.destinationName, address, true⟩

def columns (row : ServiceDestination) : Guid × Text := (row.serviceId, row.destinationName)

/-- The table of destinations under its constraints. -/
def table (tables : LinkedDatabase) : Table ServiceDestination.id columns :=
  ⟨tables.serviceDestinations, tables.serviceDestinations_id, tables.serviceDestinations_name⟩

/-- `ON CONFLICT … DO NOTHING`. -/
def doNothing : Merge ServiceDestination.id columns where
  merge := fun _ held => held
  sameKey := fun _ _ => rfl
  sameColumns := fun _ _ => rfl

/-- Rows of services that are there are stored. -/
def stored (tables : LinkedDatabase) (filled : Table ServiceDestination.id columns) :
    Except Fault LinkedDatabase :=
  if refers : ∀ row ∈ filled.rows, row.serviceId ∈ tables.services.map Service.id then
    .ok
      { tables with
        serviceDestinations := filled.rows
        serviceDestinations_id := filled.distinctKeys
        serviceDestinations_name := filled.distinctColumns
        serviceDestinations_service := refers }
  else .error foreignKeyViolation

/-- The statement. An exception takes all of it back. -/
def backfill (server : JsonServer) (generated : Nat → Guid) (tables : LinkedDatabase) :
    Except Fault LinkedDatabase := do
  let rows ← selected server tables.services
  let inserted ← rows.zipIdx.mapM (fun row => proposed (generated row.2) row.1)
  match (table tables).upsertAll doNothing inserted with
  | none => .error uniqueViolation
  | some filled => stored tables filled

section Steps

variable {platform : Platform} {server : JsonServer} {generated : Nat → Guid} {tables after : LinkedDatabase}

/-- The parts of a statement that is carried out. -/
structure Fills (server : JsonServer) (generated : Nat → Guid) (tables after : LinkedDatabase)
    (rows : List Selected) (inserted : List ServiceDestination) : Prop where
  queried : selected server tables.services = .ok rows
  built : rows.zipIdx.mapM (fun row => proposed (generated row.2) row.1) = .ok inserted
  filled : (table tables).upsertAll doNothing inserted = some (table after)
  others : after.toDatabase = tables.toDatabase

theorem backfill_ok (done : backfill server generated tables = .ok after) :
    ∃ rows inserted, Fills server generated tables after rows inserted := by
  unfold backfill at done
  cases queried : selected server tables.services with
  | error fault =>
    rw [queried] at done
    cases done
  | ok rows =>
    rw [queried] at done
    simp only [bind, Except.bind] at done
    cases built : rows.zipIdx.mapM (fun row => proposed (generated row.2) row.1) with
    | error fault =>
      rw [built] at done
      cases done
    | ok inserted =>
      rw [built] at done
      dsimp only at done
      split at done
      · cases done
      · next filled settled =>
        unfold stored at done
        split at done
        · obtain rfl := Except.ok.inj done
          exact ⟨rows, inserted, queried, built, settled, rfl⟩
        · cases done

/-- Elements of a list have distinct positions. -/
theorem positioned_distinct (service : Service) (items : List NullableText) :
    ((positioned service items).map (fun row => (row.serviceId, row.destinationName))).Nodup := by
  have positions : (items.zipIdx.map Prod.snd).Nodup := by
    rw [List.zipIdx_map_snd]
    exact List.nodup_range'
  rw [positioned, List.map_map]
  refine Rekeying.nodup_changed positions fun left _ right _ same => ?_
  exact Nat.succ.inj (destinationName_injective (Prod.mk.inj same).2)

theorem positioned_service {service : Service} {items : List NullableText} {row : Selected}
    (member : row ∈ positioned service items) : row.serviceId = service.id := by
  obtain ⟨item, _, rfl⟩ := List.mem_map.mp member
  rfl

/-- The elements of a list that is read, or none. -/
def readElements (server : JsonServer) (service : Service) : List Selected :=
  match server.arrayElementsText service.destinations with
  | .ok items => positioned service items
  | .error _ => []

theorem elementsOf_read {service : Service} {rows : List Selected}
    (listed : elementsOf server service = .ok rows) : rows = readElements server service := by
  unfold elementsOf at listed
  unfold readElements
  cases answered : server.arrayElementsText service.destinations with
  | error fault =>
    rw [answered] at listed
    cases listed
  | ok items =>
    rw [answered] at listed
    exact (Except.ok.inj listed).symm

/-- The query answers the elements of all services, service by service. -/
theorem selected_eq {services : List Service} {rows : List Selected}
    (queried : selected server services = .ok rows) :
    rows = services.flatMap (readElements server) := by
  unfold selected at queried
  cases read : services.mapM (elementsOf server) with
  | error fault =>
    rw [read] at queried
    cases queried
  | ok lists =>
    rw [read] at queried
    have same := @map_of_mapM _ _ _ _ (elementsOf server) services lists (readElements server) id
      (fun service _ rows listed => elementsOf_read listed) read
    rw [List.map_id] at same
    rw [← Except.ok.inj queried, same, List.flatMap]

theorem readElements_service {service : Service} {row : Selected}
    (member : row ∈ readElements server service) : row.serviceId = service.id := by
  unfold readElements at member
  split at member
  · exact positioned_service member
  · cases member

/-- No two selected rows have the same service and name. -/
theorem selected_distinct {services : List Service} {rows : List Selected}
    (distinct : (services.map Service.id).Nodup) (queried : selected server services = .ok rows) :
    (rows.map (fun row => (row.serviceId, row.destinationName))).Nodup := by
  rw [selected_eq queried, List.map_flatMap, List.nodup_flatMap]
  constructor
  · intro service _
    unfold readElements
    split
    · exact positioned_distinct service _
    · exact List.nodup_nil
  · have apart : services.Pairwise (fun left right => left.id ≠ right.id) :=
      List.pairwise_map.mp distinct
    apply apart.imp
    intro left right different
    apply List.disjoint_left.mpr
    intro named ofLeft ofRight
    obtain ⟨former, formerRow, rfl⟩ := List.mem_map.mp ofLeft
    obtain ⟨latter, latterRow, same⟩ := List.mem_map.mp ofRight
    apply different
    rw [← readElements_service formerRow, ← readElements_service latterRow]
    exact (Prod.mk.inj same).1.symm

/-- The query selects every service's elements. -/
theorem mem_selected (reads : ReadsAlike platform server) {services : List Service}
    {rows : List Selected} (queried : selected server services = .ok rows) {service : Service}
    (distinct : (services.map Service.id).Nodup) (stored : service ∈ services)
    {items : List NullableText}
    (listed : platform.deserializeStrings service.destinations = .ok (some items)) (row : Selected) :
    (row ∈ rows ∧ row.serviceId = service.id) ↔ row ∈ positioned service items := by
  have own : readElements server service = positioned service items := by
    rw [readElements, reads _ _ listed]
  rw [selected_eq queried, List.mem_flatMap, ← own]
  constructor
  · rintro ⟨⟨other, member, among⟩, owner⟩
    have same : other = service := List.inj_on_of_nodup_map distinct member stored
      ((readElements_service among).symm.trans owner)
    exact same ▸ among
  · intro among
    exact ⟨⟨service, stored, among⟩, readElements_service among⟩

/-- An element at its position. -/
theorem mem_positioned_iff (service : Service) (items : List NullableText) (row : Selected) :
    row ∈ positioned service items ↔ ∃ index value, items[index]? = some value ∧
      row = ⟨service.id, destinationName (index + 1), value⟩ := by
  simp only [positioned, List.mem_map, Prod.exists, List.mem_zipIdx_iff_getElem?]
  constructor
  · rintro ⟨value, index, held, rfl⟩
    exact ⟨index, value, held, rfl⟩
  · rintro ⟨index, value, held, rfl⟩
    exact ⟨value, index, held, rfl⟩

/-- A row is inserted for an element that is a text and fits its column. -/
theorem proposed_ok_iff (id : Guid) (row : Selected) (each : ServiceDestination) :
    proposed id row = .ok each ↔ ∃ value address, row.value = some value ∧
      SeedImport.varchar 500 value = some address ∧
        each = ⟨id, row.serviceId, row.destinationName, address, true⟩ := by
  unfold proposed
  cases held : row.value with
  | none => simp
  | some value =>
    cases fits : SeedImport.varchar 500 value with
    | none => simp [fits]
    | some address => simp [fits, eq_comm]

namespace Fills

variable {rows : List Selected} {inserted : List ServiceDestination}

/-- The inserted rows have the selected services and names. -/
theorem columns_inserted (fills : Fills server generated tables after rows inserted) :
    inserted.map columns = rows.map (fun row => (row.serviceId, row.destinationName)) := by
  have named : ∀ row ∈ rows.zipIdx, ∀ each, proposed (generated row.2) row.1 = .ok each →
      columns each = (row.1.serviceId, row.1.destinationName) := by
    intro row _ each built
    obtain ⟨_, _, _, _, rfl⟩ := (proposed_ok_iff _ _ _).mp built
    rfl
  rw [map_of_mapM named fills.built]
  conv_rhs => rw [← List.zipIdx_map_fst 0 rows, List.map_map]
  rfl

theorem inserted_distinct (fills : Fills server generated tables after rows inserted) :
    (inserted.map columns).Nodup := by
  rw [fills.columns_inserted]
  exact selected_distinct tables.services_id fills.queried

/-- Every selected row is inserted, and nothing else is. -/
theorem mem_inserted_iff (fills : Fills server generated tables after rows inserted)
    (service : Guid) (name address : Text) :
    (∃ each ∈ inserted, each.serviceId = service ∧ each.destinationName = name ∧
        each.address = address ∧ each.isEnabled = true) ↔
      ∃ row ∈ rows, row.serviceId = service ∧ row.destinationName = name ∧
        ∃ value, row.value = some value ∧ SeedImport.varchar 500 value = some address := by
  constructor
  · rintro ⟨each, member, rfl, rfl, rfl, _⟩
    obtain ⟨row, listed, built⟩ := (mem_of_mapM fills.built each).mp member
    obtain ⟨value, address, held, fits, rfl⟩ := (proposed_ok_iff _ _ _).mp built
    exact ⟨row.1, List.fst_mem_of_mem_zipIdx listed, rfl, rfl, value, held, fits⟩
  · rintro ⟨row, member, rfl, rfl, value, held, fits⟩
    obtain ⟨index, listed⟩ := List.mem_iff_getElem?.mp member
    refine ⟨⟨generated index, row.serviceId, row.destinationName, address, true⟩, ?_, rfl, rfl, rfl,
      rfl⟩
    exact (mem_of_mapM fills.built _).mpr ⟨(row, index), List.mem_zipIdx_iff_getElem?.mpr listed,
      (proposed_ok_iff _ _ _).mpr ⟨value, address, held, fits, rfl⟩⟩

/-- An empty table has the inserted rows afterwards. -/
theorem mem_after_iff (fills : Fills server generated tables after rows inserted)
    (vacant : tables.serviceDestinations = []) (each : ServiceDestination) :
    each ∈ after.serviceDestinations ↔ each ∈ inserted := by
  have empty : (table tables).rows = [] := vacant
  have inserts : ∀ row, (table tables).settles doNothing row = row := by
    intro row
    rw [Table.settles, Table.lookup, empty]
    rfl
  have members := Table.mem_upsertAll_iff fills.filled fills.inserted_distinct each
  simp only [inserts, exists_eq_right, empty, List.not_mem_nil, false_and, false_or] at members
  exact members

end Fills

/-- The statement does nothing to a table it has filled, whatever identifiers are
generated for it then. -/
theorem backfill_again (done : backfill server generated tables = .ok after) (again : Nat → Guid) :
    backfill server again after = .ok after := by
  obtain ⟨rows, inserted, fills⟩ := backfill_ok done
  have services : after.services = tables.services := congrArg Database.services fills.others
  have rebuilt : ∃ proposals, rows.zipIdx.mapM (fun row => proposed (again row.2) row.1) =
      .ok proposals := by
    rw [mapM_ok_iff]
    intro row member
    obtain ⟨each, built⟩ := mapM_ok_iff.mp ⟨inserted, fills.built⟩ row member
    obtain ⟨value, address, held, fits, _⟩ := (proposed_ok_iff _ _ _).mp built
    exact ⟨_, (proposed_ok_iff _ _ _).mpr ⟨value, address, held, fits, rfl⟩⟩
  obtain ⟨proposals, built⟩ := rebuilt
  have settled : (table after).upsertAll doNothing proposals = some (table after) := by
    refine Table.upsertAll_settled fun each member => ?_
    obtain ⟨⟨row, index⟩, listed, made⟩ := (mem_of_mapM built each).mp member
    obtain ⟨_, _, _, _, rfl⟩ := (proposed_ok_iff _ _ _).mp made
    have named : (row.serviceId, row.destinationName) ∈ inserted.map columns := by
      rw [fills.columns_inserted]
      exact List.mem_map_of_mem (List.fst_mem_of_mem_zipIdx listed)
    obtain ⟨former, there, same⟩ := List.mem_map.mp named
    have held := Table.lookup_upsertAll fills.filled fills.inserted_distinct there
    rw [same] at held
    exact ⟨_, held, rfl⟩
  have queried : selected server after.services = .ok rows := services ▸ fills.queried
  have kept : stored after (table after) = .ok after :=
    dif_pos after.serviceDestinations_service
  simp only [backfill, queried, bind, Except.bind, built, settled, kept]

end Steps

section Mirrors

variable {Others : Type}

/-- A service has an enabled destination of a name at an address. -/
def Placed (tables : LinkedDatabase) (service : Guid) (name address : Text) : Prop :=
  ∃ row ∈ tables.serviceDestinations, row.serviceId = service ∧ row.destinationName = name ∧
    row.address = address ∧ row.isEnabled = true

/-- Every service lists texts that fit the column of addresses. -/
def ListsAddresses (platform : Platform) (tables : LinkedDatabase) : Prop :=
  ∀ service ∈ tables.services, ∃ items,
    platform.deserializeStrings service.destinations = .ok (some items) ∧
      ∀ address, some address ∈ items → address.length ≤ 500

/-- Every destination is enabled, and a service has exactly the elements of its list,
each under the name of its position. -/
structure Mirrors (platform : Platform) (tables : LinkedDatabase) : Prop where
  enabled : ∀ row ∈ tables.serviceDestinations, row.isEnabled = true
  placed : ∀ service ∈ tables.services, ∀ items,
    platform.deserializeStrings service.destinations = .ok (some items) →
      ∀ name address, Placed tables service.id name address ↔
        ∃ index, items[index]? = some (some address) ∧ name = destinationName (index + 1)

/-- A row of the administration spells a destination. -/
structure Spells (row : Admin.Row .serviceDestinations) (destination : ServiceDestination) : Prop where
  serviceId : row Admin.ServiceDestinationColumn.serviceId = some (.guid destination.serviceId)
  address : row Admin.ServiceDestinationColumn.address = some (.text destination.address)
  isEnabled : row Admin.ServiceDestinationColumn.isEnabled = some (.boolean destination.isEnabled)

/-- The administration's tables hold the services and destinations. -/
structure Holds (held : Admin.Tables Others) (tables : LinkedDatabase) : Prop where
  services : ∀ id row, held.rows .services id = some row → ∃ service ∈ tables.services,
    service.id = id ∧ row Admin.ServiceColumn.destinations = some (.json service.destinations)
  destinations : ∀ id row, held.rows .serviceDestinations id = some row →
    ∃ destination ∈ tables.serviceDestinations, destination.id = id ∧ Spells row destination
  stored : ∀ destination ∈ tables.serviceDestinations, ∃ row,
    held.rows .serviceDestinations destination.id = some row ∧ Spells row destination

variable {platform : Platform} {server : JsonServer} {generated : Nat → Guid}
  {tables after : LinkedDatabase}

theorem varchar_fits {limit : Nat} {value : Text} (fits : value.length ≤ limit) :
    SeedImport.varchar limit value = some value := by
  rw [SeedImport.varchar, List.drop_eq_nil_of_le fits, List.take_of_length_le fits]
  rfl

theorem spelled_placement {row : Admin.Row .serviceDestinations} {destination : ServiceDestination}
    (spells : Spells row destination) : Admin.placement row =
      if destination.isEnabled then some (destination.serviceId, some destination.address)
      else none := by
  rw [Admin.placement, spells.serviceId, spells.address, spells.isEnabled]
  cases destination.isEnabled <;> rfl

/-- What the administration manages is placed. -/
theorem manages_iff {held : Admin.Tables Others} (holds : Holds held tables) (service : Guid)
    (address : NullableText) :
    Admin.Manages held service address ↔
      ∃ name text, address = some text ∧ Placed tables service name text := by
  constructor
  · rintro ⟨id, row, found, placed⟩
    obtain ⟨destination, member, _, spells⟩ := holds.destinations id row found
    rw [spelled_placement spells] at placed
    split at placed
    · next enabled =>
      obtain ⟨rfl, rfl⟩ := Prod.mk.inj (Option.some.inj placed)
      exact ⟨_, _, rfl, destination, member, rfl, rfl, rfl, enabled⟩
    · cases placed
  · rintro ⟨name, text, rfl, destination, member, rfl, rfl, rfl, enabled⟩
    obtain ⟨row, found, spells⟩ := holds.stored destination member
    exact ⟨_, row, found, by rw [spelled_placement spells, if_pos enabled]⟩

section Filled

variable {rows : List Selected} {inserted : List ServiceDestination}

/-- A list that has been inserted has no null. -/
theorem Fills.present (fills : Fills server generated tables after rows inserted)
    (reads : ReadsAlike platform server) {service : Service} (member : service ∈ tables.services)
    {items : List NullableText}
    (listed : platform.deserializeStrings service.destinations = .ok (some items)) :
    none ∉ items := by
  intro null
  obtain ⟨index, atIndex⟩ := List.mem_iff_getElem?.mp null
  have positions := (mem_positioned_iff service items _).mpr ⟨index, none, atIndex, rfl⟩
  have chosen := (mem_selected reads fills.queried tables.services_id member listed _).mpr positions
  obtain ⟨place, placed⟩ := List.mem_iff_getElem?.mp chosen.1
  obtain ⟨each, built⟩ := mapM_ok_iff.mp ⟨inserted, fills.built⟩ (_, place)
    (List.mem_zipIdx_iff_getElem?.mpr placed)
  cases built

/-- A filled table mirrors the lists. -/
theorem Fills.mirrors (fills : Fills server generated tables after rows inserted)
    (reads : ReadsAlike platform server) (lists : ListsAddresses platform tables)
    (vacant : tables.serviceDestinations = []) : Mirrors platform after := by
  have services : after.services = tables.services := congrArg Database.services fills.others
  constructor
  · intro each member
    obtain ⟨row, _, built⟩ :=
      (mem_of_mapM fills.built each).mp ((fills.mem_after_iff vacant each).mp member)
    obtain ⟨_, _, _, _, rfl⟩ := (proposed_ok_iff _ _ _).mp built
    rfl
  · intro service member items listed name address
    rw [services] at member
    obtain ⟨found, again, fits⟩ := lists service member
    obtain rfl := Option.some.inj (Except.ok.inj (again.symm.trans listed))
    unfold Placed
    simp only [fills.mem_after_iff vacant, fills.mem_inserted_iff]
    constructor
    · rintro ⟨row, chosen, owner, rfl, value, held, fit⟩
      obtain ⟨index, _, atIndex, rfl⟩ := (mem_positioned_iff service found row).mp
        ((mem_selected reads fills.queried tables.services_id member listed row).mp ⟨chosen, owner⟩)
      obtain rfl := held
      rw [varchar_fits (fits value (List.mem_of_getElem? atIndex))] at fit
      exact ⟨index, Option.some.inj fit ▸ atIndex, rfl⟩
    · rintro ⟨index, atIndex, rfl⟩
      have positions := (mem_positioned_iff service found _).mpr ⟨index, some address, atIndex, rfl⟩
      obtain ⟨chosen, owner⟩ :=
        (mem_selected reads fills.queried tables.services_id member listed _).mpr positions
      exact ⟨_, chosen, owner, rfl, address, rfl,
        varchar_fits (fits address (List.mem_of_getElem? atIndex))⟩

end Filled

/-- The clusters of a registry have the addresses of its destinations. -/
def UsesPlaced (platform : Platform) (tables : LinkedDatabase) : Prop :=
  ∀ (enumeration : Enumeration) (gateway : Gateway), gateway.database = tables.toDatabase →
    Succeeds platform enumeration gateway → ∀ service ∈ tables.services,
      ∀ cluster ∈ (refreshConfigAsync platform enumeration gateway).2.provider.config.clusters,
        Dictionary.lookupIn "ServiceId".toList cluster.metadata = some service.id.text →
          ∀ address, address ∈ cluster.destinations.values.map DestinationConfig.address ↔
            ∃ name text, address = some text ∧ Placed tables service.id name text

/-- The elements of a list are the placed addresses. -/
theorem Mirrors.mem_iff (mirrors : Mirrors platform tables) {service : Service}
    (member : service ∈ tables.services) {items : List NullableText}
    (listed : platform.deserializeStrings service.destinations = .ok (some items))
    (present : none ∉ items) (address : NullableText) :
    address ∈ items ↔ ∃ name text, address = some text ∧ Placed tables service.id name text := by
  simp only [mirrors.placed service member items listed, List.mem_iff_getElem?]
  constructor
  · rintro ⟨index, atIndex⟩
    cases address with
    | none => exact absurd (List.mem_of_getElem? atIndex) present
    | some text => exact ⟨_, text, rfl, index, atIndex, rfl⟩
  · rintro ⟨_, text, rfl, index, atIndex, _⟩
    exact ⟨index, atIndex⟩

/-- Filling an empty table leaves the other tables alone and mirrors the lists. The
administration's tables agree then, and clusters have the addresses of the destinations.
Filling again does nothing. -/
theorem backfill_mirrors (platform : Platform) (server : JsonServer) (generated : Nat → Guid)
    (tables after : LinkedDatabase) (reads : ReadsAlike platform server)
    (lists : ListsAddresses platform tables) (vacant : tables.serviceDestinations = [])
    (done : backfill server generated tables = .ok after) :
    after.toDatabase = tables.toDatabase ∧ Mirrors platform after ∧
      (∀ held : Admin.Tables Others, Holds held after → Admin.Agrees platform held) ∧
      UsesPlaced platform after ∧ ∀ again, backfill server again after = .ok after := by
  obtain ⟨rows, inserted, fills⟩ := backfill_ok done
  have mirrors := fills.mirrors reads lists vacant
  have services : after.services = tables.services := congrArg Database.services fills.others
  have elements : ∀ service ∈ after.services, ∃ items,
      platform.deserializeStrings service.destinations = .ok (some items) ∧
        ∀ address, address ∈ items ↔
          ∃ name text, address = some text ∧ Placed after service.id name text := by
    intro service member
    have before : service ∈ tables.services := services ▸ member
    obtain ⟨items, listed, _⟩ := lists service before
    exact ⟨items, listed, mirrors.mem_iff member listed (fills.present reads before listed)⟩
  refine ⟨fills.others, mirrors, ?_, ?_, backfill_again done⟩
  · intro held holds id row found address
    obtain ⟨service, member, rfl, column⟩ := holds.services id row found
    obtain ⟨items, listed, same⟩ := elements service member
    have lists : Admin.listOf platform row = items := by
      rw [Admin.listOf, column]
      simp [Admin.listed, listed]
    rw [lists, manages_iff holds, same]
  · intro enumeration gateway content succeeds service member cluster published names address
    obtain ⟨items, listed, same⟩ := elements service member
    have row : service ∈ gateway.database.services := content ▸ member
    rw [Admin.cluster_addresses succeeds row published names, ← same]
    simp [Admin.listed, listed]

end Mirrors

section Sample

/-- A server that reads lists as the sample platform does. -/
def listingServer : JsonServer :=
  ⟨fun json => (Admin.readStrings json).map (fun items => items.getD [])⟩

theorem listingServer_alike : ReadsAlike Admin.listingPlatform listingServer := by
  intro json items read
  have same : Admin.readStrings json = .ok (some items) := read
  simp only [listingServer, same]
  rfl

/-- The sample registry before the table is filled. -/
def unfilled : LinkedDatabase :=
  { Admin.ordersRegistry with
    serviceDestinations := []
    serviceDestinations_id := by simp
    serviceDestinations_name := by simp
    services_product := by decide
    endpoints_service := by decide
    clientPermissions_client := by simp [Admin.ordersRegistry, Database.ofEndpoint, Database.vacant]
    clientPermissions_endpoint := by
      simp [Admin.ordersRegistry, Database.ofEndpoint, Database.vacant]
    userProfiles_service := by simp [Admin.ordersRegistry, Database.ofEndpoint, Database.vacant]
    serviceDestinations_service := by simp }

def filledOrders : LinkedDatabase :=
  { unfilled with
    serviceDestinations :=
      [⟨Guid.numbered 7, Guid.numbered 1, "destination1".toList, Admin.ordersAddress, true⟩]
    serviceDestinations_id := by simp
    serviceDestinations_name := by simp
    serviceDestinations_service := by decide }

theorem orders_read : Admin.readStrings "[\"http://orders\"]".toList =
    .ok (some [some Admin.ordersAddress]) := by
  have written : Admin.writeStrings [some Admin.ordersAddress] = "[\"http://orders\"]".toList := by
    decide
  rw [← written, Admin.readStrings_written]

theorem unfilled_lists : ListsAddresses Admin.listingPlatform unfilled := by
  intro service member
  obtain rfl := List.mem_singleton.mp member
  refine ⟨[some Admin.ordersAddress], orders_read, fun address among => ?_⟩
  obtain rfl := Option.some.inj (List.mem_singleton.mp among)
  decide

theorem unfilled_filled :
    backfill listingServer (fun count => Guid.numbered (count + 7)) unfilled = .ok filledOrders := by
  rfl

theorem backfill_mirrors_orders :
    filledOrders.toDatabase = unfilled.toDatabase ∧ Mirrors Admin.listingPlatform filledOrders ∧
      (∀ held : Admin.Tables Unit, Holds held filledOrders →
        Admin.Agrees Admin.listingPlatform held) ∧
      UsesPlaced Admin.listingPlatform filledOrders ∧
      ∀ again, backfill listingServer again filledOrders = .ok filledOrders :=
  backfill_mirrors Admin.listingPlatform listingServer _ unfilled filledOrders listingServer_alike
    unfilled_lists rfl unfilled_filled

end Sample

end ApiGateway.DestinationBackfill
