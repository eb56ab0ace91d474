import ApiGateway.KeyOwnership
import ApiGateway.Library.Upserts
import ApiGateway.SeedScript

/-!
# Running the generated script

The script upserts a product by its name, each service by its product, name and version,
and in the same statement the service's endpoints by their names. A service is looked for
under the product's name. A refused statement changes nothing, and a run ends there. Each row
that a statement writes is stamped: an inserted one by the default of `updated_at`, an
updated one by the trigger of its table.

A row that is there keeps its id, and a product or a service stays enabled or disabled.
So an imported operation is registered by the gateway exactly if both are enabled. A
second run of the script writes the same rows again, and changes nothing but their stamps.
-/

namespace ApiGateway.SeedImport

open Keyed Effects

def productName (row : Product) : Text := row.name

def serviceColumns (row : Service) : Guid × Text × Text := (row.productId, row.serviceName, row.version)

def endpointColumns (row : Endpoint) : Guid × Text := (row.serviceId, row.endpointName)

/-- The tables that the script writes, each with its column `updated_at`. -/
structure Tables where
  products : Timed Product.id productName Nat
  services : Timed Service.id serviceColumns Nat
  endpoints : Timed Endpoint.id endpointColumns Nat

/-- What the columns `updated_at` hold, by the ids of the rows. -/
structure UpdatedAt where
  products : Guid → Nat
  services : Guid → Nat
  endpoints : Guid → Nat

def Tables.of (database : Database) (updatedAt : UpdatedAt) : Tables where
  products := ⟨⟨database.products, database.products_id, database.products_name⟩,
    updatedAt.products⟩
  services := ⟨⟨database.services, database.services_id, database.services_name⟩,
    updatedAt.services⟩
  endpoints := ⟨⟨database.endpoints, database.endpoints_id, database.endpoints_name⟩,
    updatedAt.endpoints⟩

/-- The registry with these tables. -/
def Tables.store (tables : Tables) (database : Database) : Database :=
  { database with
    products := tables.products.rows
    services := tables.services.rows
    endpoints := tables.endpoints.rows
    products_id := tables.products.distinctKeys
    products_name := tables.products.distinctColumns
    services_id := tables.services.distinctKeys
    services_name := tables.services.distinctColumns
    endpoints_id := tables.endpoints.distinctKeys
    endpoints_name := tables.endpoints.distinctColumns }

/-- What the server makes of a JSON text, if it is one, the ids it generates, and the
time at which it takes each statement. -/
structure DatabaseServer where
  jsonb : Text → Option Text
  productId : Guid
  serviceId : Nat → Guid
  endpointId : Nat → Nat → Guid
  headerTime : Nat
  serviceTime : Nat → Nat

/-- A text in a column of limited length: spaces beyond it are dropped, anything else
beyond it is refused. -/
def varchar (limit : Nat) (value : Text) : Option Text :=
  if (value.drop limit).all (fun character => character == ' ') then some (value.take limit)
  else none

section Statements

/-- `DO UPDATE SET description = …, owner_team = …`, which no modelled column holds. -/
def mergeProduct : Merge Product.id productName where
  merge := fun _ held => held
  sameKey := fun _ _ => rfl
  sameColumns := fun _ _ => rfl

def mergeService : Merge Service.id serviceColumns where
  merge := fun proposed held =>
    { held with
      basePath := proposed.basePath
      clusterId := proposed.clusterId
      destinations := proposed.destinations }
  sameKey := fun _ _ => rfl
  sameColumns := fun _ _ => rfl

def mergeEndpoint : Merge Endpoint.id endpointColumns where
  merge := fun proposed held =>
    { held with
      httpMethod := proposed.httpMethod
      relativePath := proposed.relativePath
      upstreamPathTemplate := proposed.upstreamPathTemplate
      isEnabled := true }
  sameKey := fun _ _ => rfl
  sameColumns := fun _ _ => rfl

/-- The statement of the header. -/
def importProduct (server : DatabaseServer) (args : Arguments) (tables : Tables) : Option Tables := do
  let name ← varchar 100 args.productName
  let _ ← varchar 100 args.ownerTeam
  let products ← tables.products.upsert mergeProduct server.headerTime
    ⟨server.productId, name, true⟩
  return { tables with products := products }

/-- The row of a service; the columns that the script does not list have their defaults. -/
def proposedService (server : DatabaseServer) (args : Arguments) (id productId : Guid) (service : SeedService) :
    Option Service := do
  let serviceName ← varchar 100 service.serviceName
  let basePath ← varchar 200 service.basePath
  let version ← varchar 20 service.version
  let _ ← varchar 100 args.ownerTeam
  let _ ← varchar 20 args.environment
  let clusterId ← varchar 100 service.clusterId
  let destinations ← server.jsonb (jsonDumps [service.destination])
  return {
    id := id
    productId := productId
    serviceName := serviceName
    basePath := basePath
    version := version
    isEnabled := true
    clusterId := clusterId
    destinations := destinations }

def proposedEndpoint (id serviceId : Guid) (endpoint : SeedEndpoint) : Option Endpoint := do
  let endpointName ← varchar 100 endpoint.endpointName
  let httpMethod ← varchar 50 endpoint.httpMethod
  let relativePath ← varchar 200 endpoint.relativePath
  let upstreamPathTemplate ← varchar 200 endpoint.upstreamPathTemplate
  return {
    id := id
    serviceId := serviceId
    endpointName := endpointName
    httpMethod := httpMethod
    relativePath := relativePath
    upstreamPathTemplate := some upstreamPathTemplate
    isEnabled := true }

/-- The rows of the endpoints, numbered from some position. -/
def proposedEndpoints (ids : Nat → Guid) (serviceId : Guid) : Nat → List SeedEndpoint →
    Option (List Endpoint)
  | _, [] => some []
  | position, endpoint :: rest => do
    let row ← proposedEndpoint (ids position) serviceId endpoint
    let rows ← proposedEndpoints ids serviceId (position + 1) rest
    return row :: rows

/-- The upsert of the endpoints, which refuses to touch a row twice. -/
def importEndpoints (ids : Nat → Guid) (now : Nat) (serviceId : Guid) (endpoints : List SeedEndpoint)
    (table : Timed Endpoint.id endpointColumns Nat) : Option (Timed Endpoint.id endpointColumns Nat) := do
  let rows ← proposedEndpoints ids serviceId 0 endpoints
  if (rows.map endpointColumns).Nodup then table.upsertAll mergeEndpoint now rows else none

/-- The statement of a service. Without a product of the name there is nothing to insert. -/
def importService (server : DatabaseServer) (args : Arguments) (position : Nat) (service : SeedService)
    (tables : Tables) : Option Tables :=
  match tables.products.lookup args.productName with
  | none => some tables
  | some product => do
    let proposed ← proposedService server args (server.serviceId position) product.id service
    let services ← tables.services.upsert mergeService (server.serviceTime position) proposed
    let endpoints ← importEndpoints (server.endpointId position) (server.serviceTime position)
      (tables.services.settles mergeService proposed).id service.endpoints tables.endpoints
    return { tables with
      services := services
      endpoints := endpoints }

/-- The statements of the services, numbered from some position. -/
def importServices (server : DatabaseServer) (args : Arguments) : Nat → List SeedService → Tables →
    Option Tables
  | _, [], tables => some tables
  | position, service :: rest, tables => do
    let reached ← importService server args position service tables
    importServices server args (position + 1) rest reached

/-- The whole script. -/
def execute (server : DatabaseServer) (args : Arguments) (services : List SeedService) (tables : Tables) :
    Option Tables := do
  let seeded ← importProduct server args tables
  importServices server args 0 services seeded

end Statements

section Rows

variable {server again : DatabaseServer} {args : Arguments} {service : SeedService}

/-- The columns a service is looked for under. -/
def serviceKey (productId : Guid) (service : SeedService) : Guid × Text × Text :=
  (productId, service.serviceName.take 100, service.version.take 20)

/-- A row stores what the script says of a service. -/
structure StoresService (server : DatabaseServer) (service : SeedService) (row : Service) : Prop where
  basePath : row.basePath = service.basePath.take 200
  clusterId : row.clusterId = service.clusterId.take 100
  destinations : server.jsonb (jsonDumps [service.destination]) = some row.destinations

/-- A row stores what the script says of an endpoint. -/
structure StoresEndpoint (endpoint : SeedEndpoint) (row : Endpoint) : Prop where
  httpMethod : row.httpMethod = endpoint.httpMethod.take 50
  relativePath : row.relativePath = endpoint.relativePath.take 200
  upstream : row.upstreamPathTemplate = some (endpoint.upstreamPathTemplate.take 200)
  isEnabled : row.isEnabled = true

theorem varchar_some {limit : Nat} {value stored : Text} (fits : varchar limit value = some stored) :
    stored = value.take limit := by
  unfold varchar at fits
  split at fits
  · exact (Option.some.inj fits).symm
  · cases fits

/-- What is proposed for a service stores it, under any id. -/
theorem proposedService_some {id productId : Guid} {proposed : Service}
    (found : proposedService server args id productId service = some proposed) :
    serviceColumns proposed = serviceKey productId service ∧ StoresService server service proposed ∧
      proposed.isEnabled = true ∧
      (again.jsonb = server.jsonb → ∀ other,
        proposedService again args other productId service = some { proposed with id := other }) := by
  simp only [proposedService, Option.bind_eq_bind, Option.bind_eq_some_iff] at found
  obtain ⟨serviceName, named, basePath, based, version, versioned, owner, owned, environment, placed,
    clusterId, clustered, destinations, stored, made⟩ := found
  obtain rfl := Option.some.inj made
  refine ⟨?_, ⟨varchar_some based, varchar_some clustered, stored⟩, rfl, fun same other => ?_⟩
  · rw [serviceColumns, serviceKey, varchar_some named, varchar_some versioned]
  · rw [proposedService, named, based, versioned, owned, placed, clustered, same, stored]
    rfl

theorem proposedEndpoint_some {id serviceId : Guid} {endpoint : SeedEndpoint} {proposed : Endpoint}
    (found : proposedEndpoint id serviceId endpoint = some proposed) :
    endpointColumns proposed = (serviceId, endpoint.endpointName.take 100) ∧
      StoresEndpoint endpoint proposed ∧
      ∀ other owner, proposedEndpoint other owner endpoint =
        some { proposed with id := other, serviceId := owner } := by
  simp only [proposedEndpoint, Option.bind_eq_bind, Option.bind_eq_some_iff] at found
  obtain ⟨endpointName, named, httpMethod, method, relativePath, path, upstream, template, made⟩ := found
  obtain rfl := Option.some.inj made
  refine ⟨?_, ⟨varchar_some method, varchar_some path, ?_, rfl⟩, fun other owner => ?_⟩
  · rw [endpointColumns, varchar_some named]
  · rw [varchar_some template]
  · rw [proposedEndpoint, named, method, path, template]
    rfl

/-- A row is that of an endpoint of a service. -/
structure RowOf (serviceId : Guid) (endpoint : SeedEndpoint) (row : Endpoint) : Prop where
  columns : endpointColumns row = (serviceId, endpoint.endpointName.take 100)
  stores : StoresEndpoint endpoint row

/-- The proposed rows are those of the endpoints. There are such for any service. -/
theorem proposedEndpoints_some {ids : Nat → Guid} {serviceId : Guid} {position : Nat}
    {endpoints : List SeedEndpoint} {rows : List Endpoint}
    (found : proposedEndpoints ids serviceId position endpoints = some rows) :
    rows.map endpointColumns =
        endpoints.map (fun endpoint => (serviceId, endpoint.endpointName.take 100)) ∧
      (∀ endpoint ∈ endpoints, ∃ row ∈ rows, RowOf serviceId endpoint row) ∧
      (∀ row ∈ rows, ∃ endpoint ∈ endpoints, RowOf serviceId endpoint row) ∧
      ∀ others owner, ∃ listed, proposedEndpoints others owner position endpoints = some listed := by
  induction endpoints generalizing position rows with
  | nil =>
    obtain rfl := Option.some.inj found
    exact ⟨rfl, by simp, by simp, fun _ _ => ⟨[], rfl⟩⟩
  | cons endpoint rest ih =>
    simp only [proposedEndpoints, Option.bind_eq_bind, Option.bind_eq_some_iff] at found
    obtain ⟨row, first, later, remaining, made⟩ := found
    obtain rfl := Option.some.inj made
    obtain ⟨columns, stores, anyId⟩ := proposedEndpoint_some first
    obtain ⟨otherColumns, rowOf, ofRow, anyIds⟩ := ih remaining
    refine ⟨?_, ?_, ?_, fun others owner => ?_⟩
    · rw [List.map_cons, List.map_cons, columns, otherColumns]
    · intro each listed
      rcases List.mem_cons.mp listed with rfl | among
      · exact ⟨row, List.mem_cons_self, columns, stores⟩
      · obtain ⟨held, there, same⟩ := rowOf each among
        exact ⟨held, List.mem_cons_of_mem _ there, same⟩
    · intro each there
      rcases List.mem_cons.mp there with rfl | among
      · exact ⟨endpoint, List.mem_cons_self, columns, stores⟩
      · obtain ⟨source, listed, same⟩ := ofRow each among
        exact ⟨source, List.mem_cons_of_mem _ listed, same⟩
    · obtain ⟨listed, proposed⟩ := anyIds others owner
      exact ⟨_, by rw [proposedEndpoints, anyId, proposed]; rfl⟩

end Rows

section Endpoints

variable {ids : Nat → Guid} {now : Nat} {serviceId : Guid} {endpoints : List SeedEndpoint}
  {table after : Timed Endpoint.id endpointColumns Nat}

/-- Every endpoint has its row in a table. -/
def Listed (serviceId : Guid) (endpoints : List SeedEndpoint)
    (table : Table Endpoint.id endpointColumns) : Prop :=
  ∀ endpoint ∈ endpoints, ∃ row ∈ table.rows, RowOf serviceId endpoint row

/-- A merged or inserted row stores what was proposed. -/
theorem settles_stores {endpoint : SeedEndpoint} {row : Endpoint} (stores : StoresEndpoint endpoint row) :
    StoresEndpoint endpoint (table.settles mergeEndpoint row) := by
  unfold Table.settles
  cases table.lookup (endpointColumns row) with
  | none => exact stores
  | some held => exact ⟨stores.httpMethod, stores.relativePath, stores.upstream, rfl⟩

/-- Merging a row that stores an endpoint into one that does changes nothing. -/
theorem merge_stored {endpoint : SeedEndpoint} {row held : Endpoint}
    (stores : StoresEndpoint endpoint row) (stored : StoresEndpoint endpoint held) :
    mergeEndpoint.merge row held = held := by
  obtain ⟨method, path, upstream, _⟩ := stores
  obtain ⟨heldMethod, heldPath, heldUpstream, enabled⟩ := stored
  cases held
  simp_all [mergeEndpoint]

/-- The upsert of the endpoints lists them all and leaves the rows of other columns. -/
theorem importEndpoints_lists (done : importEndpoints ids now serviceId endpoints table = some after) :
    Listed serviceId endpoints after.toTable ∧
      ∀ held ∈ table.rows, (∀ endpoint ∈ endpoints,
        endpointColumns held ≠ (serviceId, endpoint.endpointName.take 100)) →
          table.Leaves after held := by
  simp only [importEndpoints, Option.bind_eq_bind, Option.bind_eq_some_iff] at done
  obtain ⟨rows, proposed, upserted⟩ := done
  obtain ⟨columns, rowOf, _, _⟩ := proposedEndpoints_some proposed
  rw [Option.ite_none_right_eq_some] at upserted
  obtain ⟨distinct, upserted⟩ := upserted
  constructor
  · intro endpoint listed
    obtain ⟨row, there, ofEndpoint⟩ := rowOf endpoint listed
    obtain ⟨member, _⟩ := Table.lookup_eq_some_iff.mp
      (Table.lookup_upsertAll (Timed.upsertAll_table upserted) distinct there)
    exact ⟨_, member, Table.settles_columns.trans ofEndpoint.columns, settles_stores ofEndpoint.stores⟩
  · intro held member apart
    apply Timed.upsertAll_leaves upserted member
    rw [columns]
    intro among
    obtain ⟨endpoint, listed, same⟩ := List.mem_map.mp among
    exact apart endpoint listed same.symm

theorem distinct_names {owner : Guid} :
    (endpoints.map (fun endpoint => (owner, endpoint.endpointName.take 100))).Nodup ↔
      (endpoints.map (fun endpoint => endpoint.endpointName.take 100)).Nodup := by
  have paired : endpoints.map (fun endpoint => (owner, endpoint.endpointName.take 100)) =
      (endpoints.map (fun endpoint => endpoint.endpointName.take 100)).map (Prod.mk owner) := by
    simp
  rw [paired, List.nodup_map_iff (Prod.mk_right_injective owner)]

/-- Where they are all listed an upsert that went through once leaves all rows as they are. -/
theorem importEndpoints_again {owner : Guid} {before : Timed Endpoint.id endpointColumns Nat}
    (earlier : importEndpoints ids now owner endpoints before = some after) (others : Nat → Guid)
    (time : Nat) (listed : Listed serviceId endpoints table.toTable) :
    ∃ later, importEndpoints others time serviceId endpoints table = some later ∧
      later.toTable = table.toTable := by
  simp only [importEndpoints, Option.bind_eq_bind, Option.bind_eq_some_iff] at earlier
  obtain ⟨rows, proposed, upserted⟩ := earlier
  obtain ⟨columns, _, _, anyIds⟩ := proposedEndpoints_some proposed
  obtain ⟨again, reproposed⟩ := anyIds others serviceId
  obtain ⟨otherColumns, _, ofRow, _⟩ := proposedEndpoints_some reproposed
  rw [Option.ite_none_right_eq_some, columns, distinct_names] at upserted
  rw [importEndpoints, reproposed, Option.bind_eq_bind, Option.bind_some, otherColumns,
    if_pos (distinct_names.mpr upserted.1)]
  apply Timed.upsertAll_settled
  intro row there
  obtain ⟨endpoint, among, ofEndpoint⟩ := ofRow row there
  obtain ⟨held, member, heldOf⟩ := listed endpoint among
  refine ⟨held, Table.lookup_eq_some_iff.mpr ⟨member, ?_⟩, merge_stored ofEndpoint.stores heldOf.stores⟩
  rw [heldOf.columns, ofEndpoint.columns]

/-- A row of which only what the script says of an endpoint has changed. -/
def KeptEndpoint (held still : Endpoint) : Prop :=
  ∃ httpMethod relativePath upstreamPathTemplate isEnabled, still = { held with
    httpMethod := httpMethod
    relativePath := relativePath
    upstreamPathTemplate := upstreamPathTemplate
    isEnabled := isEnabled }

theorem importEndpoints_keeps (done : importEndpoints ids now serviceId endpoints table = some after)
    {held : Endpoint} (member : held ∈ table.rows) : ∃ still ∈ after.rows, KeptEndpoint held still := by
  simp only [importEndpoints, Option.bind_eq_bind, Option.bind_eq_some_iff] at done
  obtain ⟨rows, _, upserted⟩ := done
  rw [Option.ite_none_right_eq_some] at upserted
  refine Table.upsertAll_keeps (fun row => ⟨_, _, _, _, rfl⟩) (fun _ _ => ⟨_, _, _, _, rfl⟩) ?_
    (Timed.upsertAll_table upserted.2) member
  rintro first second third ⟨_, _, _, _, rfl⟩ ⟨_, _, _, _, rfl⟩
  exact ⟨_, _, _, _, rfl⟩

end Endpoints

section Services

variable {server again : DatabaseServer} {args : Arguments} {position : Nat} {service : SeedService}
  {tables after : Tables} {product : Product}

/-- A service and its endpoints are in the tables. -/
structure Imported (server : DatabaseServer) (product : Product) (service : SeedService)
    (row : Service) (tables : Tables) : Prop where
  present : tables.services.lookup (serviceKey product.id service) = some row
  stores : StoresService server service row
  listed : Listed row.id service.endpoints tables.endpoints.toTable

/-- What a statement did for a service of a product that is there. -/
theorem importService_some (done : importService server args position service tables = some after)
    (owner : tables.products.lookup args.productName = some product) :
    ∃ proposed,
      proposedService server args (server.serviceId position) product.id service = some proposed ∧
      tables.services.upsert mergeService (server.serviceTime position) proposed =
        some after.services ∧
      importEndpoints (server.endpointId position) (server.serviceTime position)
        (tables.services.settles mergeService proposed).id service.endpoints tables.endpoints =
        some after.endpoints ∧
      after.products = tables.products := by
  unfold importService at done
  rw [owner] at done
  simp only [Option.bind_eq_bind, Option.bind_eq_some_iff] at done
  obtain ⟨proposed, found, services, upserted, endpoints, listed, made⟩ := done
  obtain rfl := Option.some.inj made
  exact ⟨proposed, found, upserted, listed, rfl⟩

/-- A statement imports its service. A row that was there keeps its id and stays enabled
or disabled. -/
theorem importService_imports (done : importService server args position service tables = some after)
    (owner : tables.products.lookup args.productName = some product) :
    ∃ row, Imported server product service row after ∧
      row.isEnabled = ((tables.services.lookup (serviceKey product.id service)).map
        Service.isEnabled).getD true := by
  obtain ⟨proposed, found, upserted, listed, _⟩ := importService_some done owner
  obtain ⟨columns, stores, enabled, _⟩ := @proposedService_some server server args service _ _ _ found
  have present := Table.lookup_upsert (Timed.upsert_table upserted) (serviceColumns proposed)
  rw [if_pos rfl, columns] at present
  refine ⟨_, ⟨present, ?_, (importEndpoints_lists listed).1⟩, ?_⟩
  · unfold Table.settles
    cases tables.services.lookup (serviceColumns proposed) with
    | none => exact stores
    | some held => exact ⟨stores.basePath, stores.clusterId, stores.destinations⟩
  · rw [← columns]
    unfold Table.settles
    cases tables.services.lookup (serviceColumns proposed) with
    | none => exact enabled
    | some held => rfl

/-- A statement leaves services under other keys alone. -/
theorem importService_other (done : importService server args position service tables = some after)
    (owner : tables.products.lookup args.productName = some product)
    {columns : Guid × Text × Text} (apart : columns ≠ serviceKey product.id service) :
    after.services.lookup columns = tables.services.lookup columns := by
  obtain ⟨proposed, found, upserted, _, _⟩ := importService_some done owner
  obtain ⟨named, _, _, _⟩ := @proposedService_some server server args service _ _ _ found
  rw [Table.lookup_upsert (Timed.upsert_table upserted), named, if_neg apart]

theorem importService_leaves (done : importService server args position service tables = some after)
    (owner : tables.products.lookup args.productName = some product) {held : Service}
    (member : held ∈ tables.services.rows)
    (apart : serviceColumns held ≠ serviceKey product.id service) :
    tables.services.Leaves after.services held := by
  obtain ⟨proposed, found, upserted, _, _⟩ := importService_some done owner
  obtain ⟨named, _, _, _⟩ := @proposedService_some server server args service _ _ _ found
  exact Timed.upsert_leaves upserted member (named ▸ apart)

/-- So it leaves them imported. -/
theorem importService_keeps (done : importService server args position service tables = some after)
    (owner : tables.products.lookup args.productName = some product) {other : SeedService}
    (apart : serviceKey product.id other ≠ serviceKey product.id service) {row : Service}
    (imported : Imported again product other row tables) : Imported again product other row after := by
  have present : after.services.lookup (serviceKey product.id other) = some row :=
    (importService_other done owner apart).trans imported.present
  refine ⟨present, imported.stores, ?_⟩
  obtain ⟨proposed, found, upserted, listed, _⟩ := importService_some done owner
  obtain ⟨named, _, _, _⟩ := @proposedService_some server server args service _ _ _ found
  have settled := Table.lookup_upsert (Timed.upsert_table upserted) (serviceColumns proposed)
  rw [if_pos rfl] at settled
  intro endpoint among
  obtain ⟨held, member, ofEndpoint⟩ := imported.listed endpoint among
  refine ⟨held, ((importEndpoints_lists listed).2 held member ?_).1, ofEndpoint⟩
  -- Rows of two services with one id would be one service.
  intro written _ equal
  have ids : row.id = (tables.services.settles mergeService proposed).id := by
    rw [ofEndpoint.columns] at equal
    exact (Prod.mk.inj equal).1
  have one := Table.row_of_key (Table.lookup_eq_some_iff.mp present).1
    (Table.lookup_eq_some_iff.mp settled).1 ids
  apply apart
  exact ((Table.lookup_eq_some_iff.mp present).2.symm.trans (congrArg serviceColumns one)).trans
    (Table.settles_columns.trans named)

/-- Tables hold the same rows; only when they were written may differ. -/
structure SameRows (tables after : Tables) : Prop where
  products : after.products.toTable = tables.products.toTable
  services : after.services.toTable = tables.services.toTable
  endpoints : after.endpoints.toTable = tables.endpoints.toTable

theorem SameRows.refl (tables : Tables) : SameRows tables tables := ⟨rfl, rfl, rfl⟩

theorem SameRows.trans {first second third : Tables} (former : SameRows first second)
    (latter : SameRows second third) : SameRows first third where
  products := latter.products.trans former.products
  services := latter.services.trans former.services
  endpoints := latter.endpoints.trans former.endpoints

theorem SameRows.imported {row : Service} (same : SameRows tables after)
    (imported : Imported server product service row tables) :
    Imported server product service row after where
  present := same.services ▸ imported.present
  stores := imported.stores
  listed := same.endpoints ▸ imported.listed

/-- A statement for an imported service leaves all rows as they are. -/
theorem importService_again {before earlier : Tables}
    (done : importService server args position service before = some earlier)
    (formerOwner : before.products.lookup args.productName = some product)
    (owner : tables.products.lookup args.productName = some product)
    (sameJson : again.jsonb = server.jsonb) {row : Service}
    (imported : Imported server product service row tables) :
    ∃ later, importService again args position service tables = some later ∧
      SameRows tables later := by
  obtain ⟨proposed, found, _, listed, _⟩ := importService_some done formerOwner
  obtain ⟨columns, stores, _, anyId⟩ := @proposedService_some server again args service _ _ _ found
  have present : tables.services.lookup (serviceColumns { proposed with
      id := again.serviceId position }) = some row := (congrArg _ columns).trans imported.present
  have settled : mergeService.merge { proposed with id := again.serviceId position } row = row := by
    have json := Option.some.inj (stores.destinations.symm.trans imported.stores.destinations)
    have path := stores.basePath.trans imported.stores.basePath.symm
    have cluster := stores.clusterId.trans imported.stores.clusterId.symm
    cases row
    simp_all [mergeService]
  have same : tables.services.settles mergeService { proposed with
      id := again.serviceId position } = row := by
    rw [Table.settles, present]
    exact settled
  obtain ⟨services, upserted, sameServices⟩ :
      ∃ services, tables.services.upsert mergeService (again.serviceTime position) { proposed with
        id := again.serviceId position } = some services ∧
        services.toTable = tables.services.toTable := Timed.upsert_settled present settled
  obtain ⟨endpoints, relisted, sameEndpoints⟩ := importEndpoints_again listed
    (again.endpointId position) (again.serviceTime position) imported.listed
  refine ⟨⟨tables.products, services, endpoints⟩, ?_, rfl, sameServices, sameEndpoints⟩
  unfold importService
  rw [owner]
  simp only [anyId sameJson, upserted, same, relisted, Option.bind_eq_bind, Option.bind_some,
    Option.pure_def]

/-- A row of which only what the script says of a service has changed. -/
def KeptService (held still : Service) : Prop :=
  ∃ basePath clusterId destinations, still = { held with
    basePath := basePath
    clusterId := clusterId
    destinations := destinations }

/-- The rows of some tables are still there in others. -/
structure Kept (tables after : Tables) : Prop where
  products : ∀ row ∈ tables.products.rows, row ∈ after.products.rows
  services : ∀ row ∈ tables.services.rows, ∃ still ∈ after.services.rows, KeptService row still
  endpoints : ∀ row ∈ tables.endpoints.rows, ∃ still ∈ after.endpoints.rows, KeptEndpoint row still

theorem Kept.refl (tables : Tables) : Kept tables tables where
  products := fun _ member => member
  services := fun row member => ⟨row, member, _, _, _, rfl⟩
  endpoints := fun row member => ⟨row, member, _, _, _, _, rfl⟩

theorem Kept.trans {first second third : Tables} (former : Kept first second)
    (latter : Kept second third) : Kept first third where
  products := fun row member => latter.products row (former.products row member)
  services := by
    intro row member
    obtain ⟨_, between, _, _, _, rfl⟩ := former.services row member
    obtain ⟨_, last, _, _, _, rfl⟩ := latter.services _ between
    exact ⟨_, last, _, _, _, rfl⟩
  endpoints := by
    intro row member
    obtain ⟨_, between, _, _, _, _, rfl⟩ := former.endpoints row member
    obtain ⟨_, last, _, _, _, _, rfl⟩ := latter.endpoints _ between
    exact ⟨_, last, _, _, _, _, rfl⟩

theorem importService_kept (done : importService server args position service tables = some after) :
    Kept tables after := by
  cases owner : tables.products.lookup args.productName with
  | none =>
    rw [importService, owner] at done
    obtain rfl := Option.some.inj done
    exact .refl _
  | some product =>
    obtain ⟨proposed, _, upserted, listed, products⟩ := importService_some done owner
    refine ⟨fun row member => products ▸ member, fun row member => ?_, fun row member =>
      importEndpoints_keeps listed member⟩
    exact Table.upsert_keeps (fun row => ⟨_, _, _, rfl⟩) (fun _ _ => ⟨_, _, _, rfl⟩)
      (Timed.upsert_table upserted) member

end Services

section Runs

variable {server again : DatabaseServer} {args : Arguments} {position : Nat}
  {services : List SeedService} {tables after : Tables} {product : Product}

theorem importServices_kept (done : importServices server args position services tables = some after) :
    Kept tables after := by
  induction services generalizing position tables with
  | nil =>
    obtain rfl := Option.some.inj done
    exact .refl _
  | cons service rest ih =>
    obtain ⟨reached, first, later⟩ := Option.bind_eq_some_iff.mp done
    exact (importService_kept first).trans (ih later)

/-- The statements leave the products and the services under other keys alone, and what
was imported under another key stays imported. -/
theorem importServices_other
    (done : importServices server args position services tables = some after)
    (owner : tables.products.lookup args.productName = some product) :
    after.products = tables.products ∧
      (∀ columns, columns ∉ services.map (serviceKey product.id) →
        after.services.lookup columns = tables.services.lookup columns) ∧
      ∀ other row, serviceKey product.id other ∉ services.map (serviceKey product.id) →
        Imported server product other row tables → Imported server product other row after := by
  induction services generalizing position tables with
  | nil =>
    obtain rfl := Option.some.inj done
    exact ⟨rfl, fun _ _ => rfl, fun _ _ _ imported => imported⟩
  | cons service rest ih =>
    obtain ⟨reached, first, later⟩ := Option.bind_eq_some_iff.mp done
    obtain ⟨_, _, _, _, same⟩ := importService_some first owner
    obtain ⟨products, others, keeps⟩ := ih later (same ▸ owner)
    refine ⟨products.trans same, fun columns absent => ?_, fun other row absent imported => ?_⟩
    · rw [List.map_cons, List.mem_cons, not_or] at absent
      exact (others columns absent.2).trans (importService_other first owner absent.1)
    · rw [List.map_cons, List.mem_cons, not_or] at absent
      exact keeps other row absent.2 (importService_keeps first owner absent.1 imported)

/-- Under distinct keys every service of a run is imported at its end. -/
theorem importServices_imports
    (done : importServices server args position services tables = some after)
    (owner : tables.products.lookup args.productName = some product)
    (distinct : (services.map (serviceKey product.id)).Nodup) {service : SeedService}
    (among : service ∈ services) :
    ∃ row, Imported server product service row after ∧
      row.isEnabled = ((tables.services.lookup (serviceKey product.id service)).map
        Service.isEnabled).getD true := by
  induction services generalizing position tables with
  | nil => cases among
  | cons head rest ih =>
    obtain ⟨reached, first, later⟩ := Option.bind_eq_some_iff.mp done
    obtain ⟨_, _, _, _, same⟩ := importService_some first owner
    have stillOwner : reached.products.lookup args.productName = some product := same ▸ owner
    rw [List.map_cons, List.nodup_cons] at distinct
    rcases List.mem_cons.mp among with rfl | others
    · obtain ⟨row, imported, enabled⟩ := importService_imports first owner
      exact ⟨row, (importServices_other later stillOwner).2.2 service row distinct.1 imported, enabled⟩
    · have apart : serviceKey product.id service ≠ serviceKey product.id head := fun equal =>
        distinct.1 (equal ▸ List.mem_map_of_mem others)
      rw [← importService_other first owner apart]
      exact ih later stillOwner distinct.2 others

/-- A service under another key is left alone. -/
theorem importServices_leaves
    (done : importServices server args position services tables = some after)
    (owner : tables.products.lookup args.productName = some product) {held : Service}
    (member : held ∈ tables.services.rows)
    (absent : serviceColumns held ∉ services.map (serviceKey product.id)) :
    tables.services.Leaves after.services held := by
  induction services generalizing position tables with
  | nil =>
    obtain rfl := Option.some.inj done
    exact ⟨member, rfl⟩
  | cons service rest ih =>
    obtain ⟨reached, first, later⟩ := Option.bind_eq_some_iff.mp done
    obtain ⟨_, _, _, _, same⟩ := importService_some first owner
    rw [List.map_cons, List.mem_cons, not_or] at absent
    have left := importService_leaves first owner member absent.1
    exact left.trans (ih later (same ▸ owner) left.1 absent.2)

/-- An endpoint that no service of a run lists is left alone. -/
theorem importServices_unlisted
    (done : importServices server args position services tables = some after)
    (owner : tables.products.lookup args.productName = some product)
    (distinct : (services.map (serviceKey product.id)).Nodup) {held : Endpoint}
    (member : held ∈ tables.endpoints.rows) :
    tables.endpoints.Leaves after.endpoints held ∨ ∃ service ∈ services, ∃ row,
      after.services.lookup (serviceKey product.id service) = some row ∧
        ∃ endpoint ∈ service.endpoints,
          endpointColumns held = (row.id, endpoint.endpointName.take 100) := by
  induction services generalizing position tables with
  | nil =>
    obtain rfl := Option.some.inj done
    exact Or.inl ⟨member, rfl⟩
  | cons service rest ih =>
    obtain ⟨reached, first, later⟩ := Option.bind_eq_some_iff.mp done
    obtain ⟨proposed, found, upserted, listed, same⟩ := importService_some first owner
    have stillOwner : reached.products.lookup args.productName = some product := same ▸ owner
    obtain ⟨columns, _, _, _⟩ := @proposedService_some server server args service _ _ _ found
    have present := Table.lookup_upsert (Timed.upsert_table upserted) (serviceColumns proposed)
    rw [if_pos rfl, columns] at present
    rw [List.map_cons, List.nodup_cons] at distinct
    by_cases touched : ∃ endpoint ∈ service.endpoints, endpointColumns held =
        ((tables.services.settles mergeService proposed).id, endpoint.endpointName.take 100)
    · refine Or.inr ⟨service, List.mem_cons_self, _, ?_, touched⟩
      rw [(importServices_other later stillOwner).2.1 _ distinct.1, present]
    · have left := (importEndpoints_lists listed).2 held member
        (fun endpoint among equal => touched ⟨endpoint, among, equal⟩)
      rcases ih later stillOwner distinct.2 left.1 with kept | ⟨other, among, written⟩
      · exact Or.inl (left.trans kept)
      · exact Or.inr ⟨other, List.mem_cons_of_mem _ among, written⟩

/-- A run over imported services leaves all rows as they are. -/
theorem importServices_again {before earlier : Tables}
    (done : importServices server args position services before = some earlier)
    (formerOwner : before.products.lookup args.productName = some product)
    (owner : tables.products.lookup args.productName = some product)
    (sameJson : again.jsonb = server.jsonb)
    (imported : ∀ service ∈ services, ∃ row, Imported server product service row tables) :
    ∃ later, importServices again args position services tables = some later ∧
      SameRows tables later := by
  induction services generalizing position before tables with
  | nil => exact ⟨tables, rfl, .refl _⟩
  | cons service rest ih =>
    obtain ⟨reached, first, later⟩ := Option.bind_eq_some_iff.mp done
    obtain ⟨_, _, _, _, unchanged⟩ := importService_some first formerOwner
    obtain ⟨row, present⟩ := imported service List.mem_cons_self
    obtain ⟨between, stated, same⟩ :=
      importService_again first formerOwner owner sameJson present
    have still : ∀ each ∈ rest, ∃ row, Imported server product each row between := by
      intro each among
      obtain ⟨other, there⟩ := imported each (List.mem_cons_of_mem _ among)
      exact ⟨other, same.imported there⟩
    obtain ⟨last, others, equal⟩ := ih later (unchanged ▸ formerOwner) (same.products ▸ owner) still
    exact ⟨last, Option.bind_eq_some_iff.mpr ⟨between, stated, others⟩, same.trans equal⟩

/-- Without a product of the name a run changes nothing. -/
theorem importServices_ownerless (owner : tables.products.lookup args.productName = none) :
    importServices server args position services tables = some tables := by
  induction services generalizing position with
  | nil => rfl
  | cons service rest ih =>
    rw [importServices, importService, owner]
    exact ih

end Runs

section Script

variable {server again : DatabaseServer} {args : Arguments} {services : List SeedService}
  {tables after : Tables}

/-- What the header's statement did. It leaves all rows as they are afterwards. -/
theorem importProduct_some (done : importProduct server args tables = some after) :
    after.services = tables.services ∧ after.endpoints = tables.endpoints ∧
      tables.products.upsert mergeProduct server.headerTime
        ⟨server.productId, args.productName.take 100, true⟩ = some after.products ∧
      ∀ (again : DatabaseServer) (others : Tables) (row : Product),
        others.products.lookup (args.productName.take 100) = some row →
          ∃ later, importProduct again args others = some later ∧ SameRows others later := by
  simp only [importProduct, Option.bind_eq_bind, Option.bind_eq_some_iff] at done
  obtain ⟨name, fits, owner, owned, products, upserted, made⟩ := done
  obtain rfl := Option.some.inj made
  obtain rfl := varchar_some fits
  refine ⟨rfl, rfl, upserted, fun again others row present => ?_⟩
  obtain ⟨products, written, same⟩ : ∃ products, others.products.upsert mergeProduct again.headerTime
      ⟨again.productId, args.productName.take 100, true⟩ = some products ∧
        products.toTable = others.products.toTable := Timed.upsert_settled present rfl
  refine ⟨{ others with products := products }, ?_, same, rfl, rfl⟩
  simp only [importProduct, fits, owned, written, Option.bind_eq_bind, Option.bind_some,
    Option.pure_def]

/-- A product that is there stays enabled or disabled; others are left alone. -/
theorem importProduct_owner (done : importProduct server args tables = some after) :
    (∃ product, after.products.lookup (args.productName.take 100) = some product ∧
      product.isEnabled = ((tables.products.lookup (args.productName.take 100)).map
        Product.isEnabled).getD true) ∧
    Kept tables after := by
  obtain ⟨services, endpoints, upserted, _⟩ := importProduct_some done
  have present := Table.lookup_upsert (Timed.upsert_table upserted)
    (productName ⟨server.productId, args.productName.take 100, true⟩)
  rw [if_pos rfl] at present
  refine ⟨⟨_, present, ?_⟩, ?_, ?_, ?_⟩
  · change (((tables.products.lookup (args.productName.take 100)).map
      (mergeProduct.merge _)).getD _).isEnabled = _
    cases tables.products.lookup (args.productName.take 100) <;> rfl
  · intro row member
    obtain ⟨still, there, rfl⟩ := Table.upsert_keeps (fun row => Eq.refl row) (fun _ _ => rfl)
      (Timed.upsert_table upserted) member
    exact there
  · rw [services]
    exact (Kept.refl tables).services
  · rw [endpoints]
    exact (Kept.refl tables).endpoints

/-- Services of a script with distinct names and versions. -/
def DistinctServices (services : List SeedService) : Prop :=
  (services.map (fun service => (service.serviceName.take 100, service.version.take 20))).Nodup

instance (services : List SeedService) : Decidable (DistinctServices services) :=
  inferInstanceAs (Decidable (List.Nodup _))

theorem distinct_keys (distinct : DistinctServices services) (productId : Guid) :
    (services.map (serviceKey productId)).Nodup := by
  have paired : services.map (serviceKey productId) = (services.map (fun service =>
      (service.serviceName.take 100, service.version.take 20))).map (Prod.mk productId) := by
    simp [serviceKey]
  rw [paired]
  exact (List.nodup_map_iff (Prod.mk_right_injective productId)).mpr distinct

/-- An operation's route is registered exactly if its product and its service are enabled,
and a process that has loaded the registry then resolves requests for the route. -/
structure OperationServed (database : Database) (product : Product) (service : Service)
    (endpoint : Endpoint) : Prop where
  registered : ∀ platform, ∀ method ∈ PolicyResolver.methodsOf endpoint,
    ((PolicyResolver.routeKeyOf platform method (PolicyResolver.fullPathOf service endpoint),
        PolicyResolver.buildEndpointPolicy platform product service endpoint) ∈
      PolicyResolver.registrations platform database ↔
        product.isEnabled = true ∧ service.isEnabled = true)
  resolved : product.isEnabled = true → service.isEnabled = true →
    ∀ (platform : Platform) (gateway : Gateway), gateway.database = database →
      PolicyResolver.Loads platform gateway → ∀ path requestMethod,
        ∀ method ∈ PolicyResolver.methodsOf endpoint,
          PolicyResolver.requestKey platform path requestMethod =
            PolicyResolver.routeKeyOf platform method (PolicyResolver.fullPathOf service endpoint) →
          ∃ policy, (PolicyResolver.resolvePolicyAsync platform path requestMethod
              (PolicyResolver.refreshPoliciesAsync platform gateway).2).1 = .ok (some policy) ∧
            (PolicyResolver.requestKey platform path requestMethod, policy) ∈
              PolicyResolver.registrations platform database

/-- An enabled endpoint of a service of a product is such an operation. -/
theorem operationServed {database : Database} {product : Product} {service : Service}
    {endpoint : Endpoint} (productRow : product ∈ database.products)
    (serviceRow : service ∈ database.services) (endpointRow : endpoint ∈ database.endpoints)
    (ofProduct : service.productId = product.id) (ofService : endpoint.serviceId = service.id)
    (enabled : endpoint.isEnabled = true) : OperationServed database product service endpoint := by
  have registered : ∀ platform, ∀ method ∈ PolicyResolver.methodsOf endpoint,
      ((PolicyResolver.routeKeyOf platform method (PolicyResolver.fullPathOf service endpoint),
          PolicyResolver.buildEndpointPolicy platform product service endpoint) ∈
        PolicyResolver.registrations platform database ↔
          product.isEnabled = true ∧ service.isEnabled = true) := by
    intro platform method listed
    rw [PolicyResolver.mem_registrations_iff]
    constructor
    · rintro ⟨service', enabledService, product', owner, endpoint', _, _, _, _, built⟩
      have services : service = service' := congrArg EndpointPolicy.service built
      have products : product = product' := congrArg EndpointPolicy.product built
      rw [PolicyResolver.productOf_iff, ← products] at owner
      rw [← services] at enabledService
      exact ⟨(List.mem_filter.mp owner.1).2, (List.mem_filter.mp enabledService).2⟩
    · rintro ⟨enabledProduct, enabledService⟩
      refine ⟨service, List.mem_filter.mpr ⟨serviceRow, enabledService⟩, product, ?_, endpoint, ?_,
        method, listed, rfl, rfl⟩
      · exact (PolicyResolver.productOf_iff _ _ _).mpr
          ⟨List.mem_filter.mpr ⟨productRow, enabledProduct⟩, ofProduct.symm⟩
      · exact List.mem_filter.mpr ⟨endpointRow, by simp [ofService, enabled]⟩
  refine ⟨registered, ?_⟩
  rintro enabledProduct enabledService platform gateway rfl loads path requestMethod method listed same
  have among := (registered platform method listed).mpr ⟨enabledProduct, enabledService⟩
  rw [← same] at among
  rw [PolicyResolver.refreshPoliciesAsync_run loads, PolicyResolver.resolvePolicyAsync_reloaded]
  cases found : (PolicyResolver.snapshotOf platform gateway.database).tryGetValue
      (PolicyResolver.requestKey platform path requestMethod) with
  | none =>
    exact absurd (List.mem_map_of_mem among) ((PolicyResolver.snapshot_none_iff _).mp found)
  | some policy =>
    exact ⟨policy, by rw [Option.some_or], PolicyResolver.snapshot_registered found⟩

/-- After a run of the script every operation of its services is an enabled endpoint of a
service of the product, and served if the two are enabled. They are unless they were
there and disabled. -/
theorem imported_operations_served {database : Database} {updatedAt : UpdatedAt}
    (done : execute server args services (Tables.of database updatedAt) = some after)
    (named : args.productName.length ≤ 100) (distinct : DistinctServices services) :
    ∃ product, after.products.lookup args.productName = some product ∧
      product.isEnabled = (((Tables.of database updatedAt).products.lookup args.productName).map
        Product.isEnabled).getD true ∧
      ∀ service ∈ services, ∃ row, after.services.lookup (serviceKey product.id service) = some row ∧
        StoresService server service row ∧
        row.isEnabled = (((Tables.of database updatedAt).services.lookup
          (serviceKey product.id service)).map Service.isEnabled).getD true ∧
        ∀ endpoint ∈ service.endpoints, ∃ listed ∈ after.endpoints.rows,
          RowOf row.id endpoint listed ∧
            OperationServed (after.store database) product row listed := by
  obtain ⟨seeded, header, ran⟩ := Option.bind_eq_some_iff.mp done
  obtain ⟨⟨product, present, enabled⟩, _⟩ := importProduct_owner header
  obtain ⟨untouched, _, _, _⟩ := importProduct_some header
  rw [List.take_of_length_le named] at present enabled
  obtain ⟨products, _, _⟩ := importServices_other ran present
  have owner : after.products.lookup args.productName = some product := products ▸ present
  refine ⟨product, owner, enabled, fun service among => ?_⟩
  obtain ⟨row, imported, rowEnabled⟩ :=
    importServices_imports ran present (distinct_keys distinct product.id) among
  rw [untouched] at rowEnabled
  refine ⟨row, imported.present, imported.stores, rowEnabled, fun endpoint listing => ?_⟩
  obtain ⟨listed, member, ofEndpoint⟩ := imported.listed endpoint listing
  obtain ⟨rowMember, columns⟩ := Table.lookup_eq_some_iff.mp imported.present
  exact ⟨listed, member, ofEndpoint, operationServed (Table.lookup_eq_some_iff.mp owner).1 rowMember
    member (Prod.mk.inj columns).1 (Prod.mk.inj ofEndpoint.columns).1 ofEndpoint.stores.isEnabled⟩

/-- A server that stores a JSON text as it is, and takes the statements in order. -/
def plainServer (first : Nat) : DatabaseServer where
  jsonb := some
  productId := Guid.numbered first
  serviceId := fun position => Guid.numbered (first + 1 + position)
  endpointId := fun position index => Guid.numbered (first + 10 * (position + 1) + index)
  headerTime := first
  serviceTime := fun position => first + 1 + position

def shopArguments : Arguments :=
  ⟨"shop".toList, "All orders".toList, "shop".toList, "dev".toList⟩

/-- A service that is there under another path, with one endpoint that is there. -/
def ordersSeed : SeedService where
  serviceName := "orders".toList
  description := "orders".toList
  version := "v1".toList
  basePath := "/shop/orders".toList
  clusterId := "orders-cluster".toList
  destination := "http://orders/".toList
  endpoints :=
    [⟨"list".toList, "GET".toList, "/all".toList, "/all".toList⟩,
      ⟨"create".toList, "POST".toList, "/all".toList, "/all".toList⟩]

def ordersTables : Database :=
  Database.ofEndpoint .sample
    (.sample 1 "orders".toList "/orders".toList "v1".toList "orders".toList
      "[\"http://old\"]".toList)
    (.sample 2 1 "list".toList "GET".toList "/list".toList)

def neverUpdated : UpdatedAt := ⟨fun _ => 0, fun _ => 0, fun _ => 0⟩

/-- The script goes through and both operations are served. -/
theorem imported_operations_served_orders :
    ∃ after product row, execute (plainServer 20) shopArguments [ordersSeed]
        (Tables.of ordersTables neverUpdated) = some after ∧
      product.isEnabled = true ∧ row.isEnabled = true ∧
      row.basePath = "/shop/orders".toList ∧
      ∀ endpoint ∈ ordersSeed.endpoints, ∃ listed ∈ after.endpoints.rows,
        RowOf row.id endpoint listed ∧
          OperationServed (after.store ordersTables) product row listed := by
  obtain ⟨after, done⟩ := Option.isSome_iff_exists.mp (by decide :
    (execute (plainServer 20) shopArguments [ordersSeed] (Tables.of ordersTables neverUpdated)).isSome = true)
  obtain ⟨product, _, productEnabled, each⟩ := imported_operations_served done (by decide) (by decide)
  obtain ⟨row, present, stores, rowEnabled, operations⟩ := each ordersSeed List.mem_cons_self
  have owner : product.isEnabled = true := productEnabled.trans (by decide)
  have unset : ∀ productId, (((Tables.of ordersTables neverUpdated).services.lookup
      (serviceKey productId ordersSeed)).map Service.isEnabled).getD true = true := by
    intro productId
    cases held : (Tables.of ordersTables neverUpdated).services.lookup (serviceKey productId ordersSeed) with
    | none => rfl
    | some service =>
      obtain rfl := List.mem_singleton.mp (Table.lookup_eq_some_iff.mp held).1
      rfl
  exact ⟨after, product, row, done, owner, rowEnabled.trans (unset _),
    stores.basePath.trans (by decide), operations⟩

/-- Rows that a script does not list are left as they are, and are not written. -/
structure Untouched (args : Arguments) (services : List SeedService) (tables after : Tables) :
    Prop where
  productRows : ∀ held ∈ tables.products.rows,
    tables.products.Leaves after.products held ∨ held.name = args.productName.take 100
  serviceRows : ∀ held ∈ tables.services.rows, tables.services.Leaves after.services held ∨
    ∃ product, after.products.lookup args.productName = some product ∧
      ∃ service ∈ services, serviceColumns held = serviceKey product.id service
  endpointRows : ∀ held ∈ tables.endpoints.rows, tables.endpoints.Leaves after.endpoints held ∨
    ∃ product, after.products.lookup args.productName = some product ∧
      ∃ service ∈ services, ∃ row, after.services.lookup (serviceKey product.id service) = some row ∧
        ∃ endpoint ∈ service.endpoints, endpointColumns held = (row.id, endpoint.endpointName.take 100)

theorem execute_untouched (done : execute server args services tables = some after)
    (distinct : DistinctServices services) : Untouched args services tables after := by
  obtain ⟨seeded, header, ran⟩ := Option.bind_eq_some_iff.mp done
  obtain ⟨untouched, unlisted, upserted, _⟩ := importProduct_some header
  have productRows : ∀ held ∈ tables.products.rows,
      tables.products.Leaves seeded.products held ∨ held.name = args.productName.take 100 := by
    intro held member
    by_cases named : held.name = args.productName.take 100
    · exact Or.inr named
    · exact Or.inl (Timed.upsert_leaves upserted member named)
  cases owner : seeded.products.lookup args.productName with
  | none =>
    rw [importServices_ownerless owner] at ran
    obtain rfl := Option.some.inj ran
    refine ⟨productRows, fun held member => Or.inl ?_, fun held member => Or.inl ?_⟩
    · rw [untouched]
      exact ⟨member, rfl⟩
    · rw [unlisted]
      exact ⟨member, rfl⟩
  | some product =>
    obtain ⟨products, _, _⟩ := importServices_other ran owner
    have still : after.products.lookup args.productName = some product := products ▸ owner
    refine ⟨products ▸ productRows, fun held member => ?_, fun held member => ?_⟩
    · rw [← untouched] at member ⊢
      by_cases among : serviceColumns held ∈ services.map (serviceKey product.id)
      · obtain ⟨service, listing, equal⟩ := List.mem_map.mp among
        exact Or.inr ⟨product, still, service, listing, equal.symm⟩
      · exact Or.inl (importServices_leaves ran owner member among)
    · rw [← unlisted] at member ⊢
      rcases importServices_unlisted ran owner (distinct_keys distinct product.id) member with
        left | listed
      · exact Or.inl left
      · exact Or.inr ⟨product, still, listed⟩

/-- A run keeps every row under its id and writes none that the script does not list. A
second run, under other ids and at other times, leaves all rows as they are, and writes
none again that the script does not list. -/
theorem import_repeatable {database : Database} {updatedAt : UpdatedAt}
    (done : execute server args services (Tables.of database updatedAt) = some after)
    (distinct : DistinctServices services) (sameJson : again.jsonb = server.jsonb) :
    Kept (Tables.of database updatedAt) after ∧
      Untouched args services (Tables.of database updatedAt) after ∧
      ∃ later, execute again args services after = some later ∧ SameRows after later ∧
        Untouched args services after later := by
  obtain ⟨seeded, header, ran⟩ := Option.bind_eq_some_iff.mp done
  obtain ⟨⟨named, present, _⟩, keptHeader⟩ := importProduct_owner header
  obtain ⟨_, _, _, repeated⟩ := importProduct_some header
  have rerun : ∃ later, execute again args services after = some later ∧ SameRows after later := by
    cases owner : seeded.products.lookup args.productName with
    | none =>
      rw [importServices_ownerless owner] at ran
      obtain rfl := Option.some.inj ran
      obtain ⟨restated, second, same⟩ := repeated again _ named present
      refine ⟨restated, Option.bind_eq_some_iff.mpr ⟨restated, second, ?_⟩, same⟩
      exact importServices_ownerless (same.products ▸ owner)
    | some product =>
      obtain ⟨products, _, _⟩ := importServices_other ran owner
      obtain ⟨restated, second, same⟩ := repeated again _ named (products ▸ present)
      have still : restated.products.lookup args.productName = some product :=
        same.products ▸ products ▸ owner
      have imported : ∀ service ∈ services, ∃ row, Imported server product service row restated := by
        intro service among
        obtain ⟨row, there, _⟩ :=
          importServices_imports ran owner (distinct_keys distinct product.id) among
        exact ⟨row, same.imported there⟩
      obtain ⟨later, others, equal⟩ := importServices_again ran owner still sameJson imported
      exact ⟨later, Option.bind_eq_some_iff.mpr ⟨restated, second, others⟩, same.trans equal⟩
  obtain ⟨later, second, same⟩ := rerun
  exact ⟨keptHeader.trans (importServices_kept ran), execute_untouched done distinct,
    later, second, same, execute_untouched second distinct⟩

/-- The endpoint that was there keeps its id. The second run writes its row again. -/
theorem import_repeatable_orders :
    ∃ after later, execute (plainServer 20) shopArguments [ordersSeed]
        (Tables.of ordersTables neverUpdated) = some after ∧
      execute (plainServer 50) shopArguments [ordersSeed] after = some later ∧
      SameRows after later ∧
      ∃ still ∈ later.endpoints.rows, still.id = Guid.numbered 2 := by
  obtain ⟨after, done⟩ := Option.isSome_iff_exists.mp (by decide :
    (execute (plainServer 20) shopArguments [ordersSeed]
      (Tables.of ordersTables neverUpdated)).isSome = true)
  obtain ⟨kept, _, later, repeated, same, _⟩ :=
    @import_repeatable _ (plainServer 50) _ _ _ _ _ done (by decide) rfl
  obtain ⟨still, there, _, _, _, _, rfl⟩ := kept.endpoints _ (List.mem_singleton_self _)
  exact ⟨after, later, done, repeated, same, _, same.endpoints ▸ there, rfl⟩

end Script

end ApiGateway.SeedImport
