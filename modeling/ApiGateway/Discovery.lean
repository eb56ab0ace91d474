import ApiGateway.EnabledFilters
import ApiGateway.Library.Tables
import ApiGateway.SnapshotContents

/-!
# The public catalogue

The discovery handler reads the enabled endpoints, services and products, nests
them under each other and flattens the result. The policy refresh walks the same
tables on its own, from services to endpoints.

Of the tables only the uniqueness of identifiers is used. The refresh may read its
rows in any order.
-/

namespace ApiGateway.Discovery

open EnabledFilters Keyed

/-- The tables of the catalogue. -/
structure Catalogue where
  products : List Product
  services : List Service
  endpoints : List Endpoint
  distinctProducts : (products.map Product.id).Nodup
  distinctServices : (services.map Service.id).Nodup
  distinctEndpoints : (endpoints.map Endpoint.id).Nodup

/-- The name of a member. -/
def payloadExpectationText : PayloadExpectation → Text
  | .Encrypted => "Encrypted".toList
  | .Decrypted => "Decrypted".toList
  | .Plain => "Plain".toList

structure PublicEndpointDto where
  id : Guid
  productName : Text
  serviceName : Text
  httpMethod : Text
  relativePath : Text
  description : Option Text
  requiresJwt : Bool
  payloadExpectation : Option Text
deriving DecidableEq

/-- The entry of an endpoint. -/
def publicEndpoint (product : Product) (service : Service) (endpoint : Endpoint) :
    PublicEndpointDto where
  id := endpoint.id
  productName := product.name
  serviceName := service.serviceName
  httpMethod := endpoint.httpMethod
  relativePath := endpoint.relativePath
  description := some endpoint.endpointName
  requiresJwt := service.requiresJwt
  payloadExpectation := some (payloadExpectationText endpoint.payloadExpectation)

/-- An entry carries the method, the path and the payload expectation of its endpoint,
the name and the authentication of its service and the name of its product. -/
structure Carries (entry : PublicEndpointDto) (product : Product) (service : Service)
    (endpoint : Endpoint) : Prop where
  id : entry.id = endpoint.id
  httpMethod : entry.httpMethod = endpoint.httpMethod
  relativePath : entry.relativePath = endpoint.relativePath
  description : entry.description = some endpoint.endpointName
  payloadExpectation : entry.payloadExpectation = some (match endpoint.payloadExpectation with
    | .Encrypted => "Encrypted".toList
    | .Decrypted => "Decrypted".toList
    | .Plain => "Plain".toList)
  serviceName : entry.serviceName = service.serviceName
  requiresJwt : entry.requiresJwt = service.requiresJwt
  productName : entry.productName = product.name

/-- A service with its entries. -/
structure ServiceListing where
  service : Service
  endpoints : List PublicEndpointDto

/-- A product with its services. -/
structure ProductListing where
  product : Product
  services : List ServiceListing

/-- The hierarchy of the rows. -/
def hierarchy (endpoints : List Endpoint) (services : List Service) (products : List Product) :
    List ProductListing :=
  products.map (fun p =>
    { product := p
      services := (services.filter (fun s => decide (s.productId = p.id))).map (fun s =>
        { service := s
          endpoints := (endpoints.filter (fun e => decide (e.serviceId = s.id))).map
            (publicEndpoint p s) }) })

/-- The entries of a hierarchy. -/
def flatten (result : List ProductListing) : List PublicEndpointDto :=
  result.flatMap (fun p => p.services.flatMap ServiceListing.endpoints)

/-- The answers of the handler. -/
inductive Answer where
  | ok (entries : List PublicEndpointDto)
  | statusCode (code : Nat)
deriving DecidableEq

/-- The handler, by what its repositories answer. -/
def getAllEndpoints (endpointRepo : Option Bool → Except Fault (List Endpoint))
    (serviceRepo : Option Bool → Except Fault (List Service))
    (productRepo : Option Bool → Except Fault (List Product)) : Answer :=
  let listed : Except Fault (List PublicEndpointDto) := do
    let endpoints ← endpointRepo (some true)
    let services ← serviceRepo (some true)
    let products ← productRepo (some true)
    pure (flatten (hierarchy endpoints services products))
  match listed with
  | .ok entries => .ok entries
  | .error _ => .statusCode 500

namespace Catalogue

/-- The handler over the catalogue's tables. -/
def getAllEndpoints (catalogue : Catalogue) : Answer :=
  Discovery.getAllEndpoints
    (fun enabledOnly => .ok (EndpointEntityRepository.getAllAsync enabledOnly catalogue.endpoints))
    (fun enabledOnly => .ok (ServiceEntityRepository.getAllAsync enabledOnly catalogue.services))
    (fun enabledOnly => .ok (ProductEntityRepository.getAllAsync enabledOnly catalogue.products))

def enabledProducts (catalogue : Catalogue) : List Product :=
  catalogue.products.filter Product.isEnabled

def enabledServices (catalogue : Catalogue) : List Service :=
  catalogue.services.filter Service.isEnabled

def enabledEndpoints (catalogue : Catalogue) : List Endpoint :=
  catalogue.endpoints.filter Endpoint.isEnabled

/-- An enabled endpoint under an enabled service of an enabled product. -/
structure Available (catalogue : Catalogue) (product : Product) (service : Service)
    (endpoint : Endpoint) : Prop where
  enabledProduct : product ∈ catalogue.products ∧ product.isEnabled = true
  enabledService : service ∈ catalogue.services ∧ service.isEnabled = true
  enabledEndpoint : endpoint ∈ catalogue.endpoints ∧ endpoint.isEnabled = true
  owner : service.productId = product.id
  parent : endpoint.serviceId = service.id

/-- One entry for each available endpoint and no other, with what it carries of its
endpoint, service and product. -/
structure Lists (catalogue : Catalogue) (entries : List PublicEndpointDto) : Prop where
  once : (entries.map PublicEndpointDto.id).Nodup
  exact : ∀ entry, entry ∈ entries ↔ ∃ product service endpoint,
    catalogue.Available product service endpoint ∧ Carries entry product service endpoint

/-- What a refresh of the policies reads, in any order. -/
structure ReadBy (catalogue : Catalogue) (services : List Service) (products : List Product)
    (endpoints : Guid → List Endpoint) : Prop where
  services : services.Perm catalogue.enabledServices
  products : products.Perm catalogue.enabledProducts
  endpoints : ∀ serviceId, (endpoints serviceId).Perm
    (catalogue.enabledEndpoints.filter (fun row => decide (row.serviceId = serviceId)))

/-- Every endpoint in the snapshot of a refresh over the same content has an entry. -/
def Covers (catalogue : Catalogue) (entries : List PublicEndpointDto) : Prop :=
  ∀ (platform : Platform) (repositories : PolicyResolver.Repositories) (gateway : Gateway)
    (services : List Service) (products : List Product) (endpoints : Guid → List Endpoint),
    catalogue.ReadBy services products endpoints →
    PolicyResolver.Reads repositories gateway services products endpoints →
    ∀ key policy, (PolicyResolver.refreshPoliciesFrom repositories platform
        gateway).2.policySnapshot.tryGetValue key = some policy →
      ∃ entry ∈ entries, entry.id = policy.endpoint.id

end Catalogue

section Listing

variable (catalogue : Catalogue)

/-- The entries, product by product and service by service. -/
def Catalogue.entries : List PublicEndpointDto :=
  flatten (hierarchy catalogue.enabledEndpoints catalogue.enabledServices catalogue.enabledProducts)

theorem getAllEndpoints_entries : catalogue.getAllEndpoints = .ok catalogue.entries := by
  have narrowed : ∀ {Row : Type} (column : Row → Bool) (rows : List Row),
      whereEnabled column (some true) rows = rows.filter column := by
    intro Row column rows
    simp [whereEnabled, Sql.select, columnIsTrue]
  simp only [Catalogue.getAllEndpoints, getAllEndpoints, EndpointEntityRepository.getAllAsync,
    ServiceEntityRepository.getAllAsync, ProductEntityRepository.getAllAsync, narrowed]
  rfl

/-- Flattening leaves the three nested loops. -/
theorem flatten_hierarchy (endpoints : List Endpoint) (services : List Service)
    (products : List Product) :
    flatten (hierarchy endpoints services products) =
      products.flatMap (fun p => (services.filter (fun s => decide (s.productId = p.id))).flatMap
        (fun s => (endpoints.filter (fun e => decide (e.serviceId = s.id))).map
          (publicEndpoint p s))) := by
  simp only [flatten, hierarchy, List.flatMap_map]

/-- The entry of an endpoint is the only one that carries what it should. -/
theorem carries_iff {entry : PublicEndpointDto} {product : Product} {service : Service}
    {endpoint : Endpoint} : Carries entry product service endpoint ↔
      entry = publicEndpoint product service endpoint := by
  have expectation : some (payloadExpectationText endpoint.payloadExpectation) =
      some (match endpoint.payloadExpectation with
        | .Encrypted => "Encrypted".toList
        | .Decrypted => "Decrypted".toList
        | .Plain => "Plain".toList) := by
    cases endpoint.payloadExpectation <;> rfl
  constructor
  · rintro ⟨id, method, path, description, carried, serviceName, requiresJwt, productName⟩
    cases entry
    simp only [publicEndpoint, PublicEndpointDto.mk.injEq]
    exact ⟨id, productName, serviceName, method, path, description, requiresJwt,
      carried.trans expectation.symm⟩
  · rintro rfl
    exact ⟨rfl, rfl, rfl, rfl, expectation, rfl, rfl, rfl⟩

theorem mem_entries_iff (entry : PublicEndpointDto) :
    entry ∈ catalogue.entries ↔ ∃ product service endpoint,
      catalogue.Available product service endpoint ∧
        entry = publicEndpoint product service endpoint := by
  simp only [Catalogue.entries, flatten_hierarchy, List.mem_flatMap, List.mem_map, List.mem_filter,
    Catalogue.enabledProducts, Catalogue.enabledServices, Catalogue.enabledEndpoints,
    decide_eq_true_eq]
  constructor
  · rintro ⟨product, ofProducts, service, ⟨ofServices, owner⟩, endpoint, ⟨ofEndpoints, parent⟩, rfl⟩
    exact ⟨product, service, endpoint, ⟨ofProducts, ofServices, ofEndpoints, owner, parent⟩, rfl⟩
  · rintro ⟨product, service, endpoint, available, rfl⟩
    exact ⟨product, available.enabledProduct, service, ⟨available.enabledService, available.owner⟩,
      endpoint, ⟨available.enabledEndpoint, available.parent⟩, rfl⟩

/-- The endpoints of the entries, under the services of the products. -/
theorem entries_ids : catalogue.entries.map PublicEndpointDto.id =
    (children Service.id Endpoint.serviceId
      (children Product.id Service.productId catalogue.enabledProducts catalogue.enabledServices)
      catalogue.enabledEndpoints).map Endpoint.id := by
  have identified : ∀ product service, PublicEndpointDto.id ∘ publicEndpoint product service =
      Endpoint.id := fun _ _ => rfl
  simp only [Catalogue.entries, flatten_hierarchy, children, List.map_flatMap, List.map_map,
    List.flatMap_assoc, identified]

theorem lists_entries : catalogue.Lists catalogue.entries where
  once := by
    rw [entries_ids]
    apply nodup_children
    · apply nodup_children
      · exact catalogue.distinctProducts.sublist (List.filter_sublist.map Product.id)
      · exact catalogue.distinctServices.sublist (List.filter_sublist.map Service.id)
    · exact catalogue.distinctEndpoints.sublist (List.filter_sublist.map Endpoint.id)
  exact := by
    intro entry
    simp only [mem_entries_iff, carries_iff]

variable {catalogue}

/-- A pair of the refresh is an available endpoint. -/
theorem available_of_iterated {services : List Service} {products : List Product}
    {endpoints : Guid → List Endpoint} (reads : catalogue.ReadBy services products endpoints)
    {item : Product × Service × Endpoint}
    (member : item ∈ PolicyResolver.iterated services products endpoints) :
    catalogue.Available item.1 item.2.1 item.2.2 := by
  simp only [PolicyResolver.iterated, List.mem_flatMap, List.mem_map, List.mem_filter,
    decide_eq_true_eq] at member
  obtain ⟨service, ofServices, product, ⟨ofProducts, owner⟩, endpoint, ofEndpoints, rfl⟩ := member
  have enabledEndpoint := (reads.endpoints service.id).mem_iff.mp ofEndpoints
  rw [List.mem_filter, decide_eq_true_eq] at enabledEndpoint
  exact {
    enabledProduct := List.mem_filter.mp (reads.products.mem_iff.mp ofProducts)
    enabledService := List.mem_filter.mp (reads.services.mem_iff.mp ofServices)
    enabledEndpoint := List.mem_filter.mp enabledEndpoint.1
    owner := owner.symm
    parent := enabledEndpoint.2 }

theorem covers_entries : catalogue.Covers catalogue.entries := by
  intro platform repositories gateway services products endpoints content reads key policy found
  have distinct : (products.map Product.id).Nodup := by
    rw [(content.products.map Product.id).nodup_iff]
    exact catalogue.distinctProducts.sublist (List.filter_sublist.map Product.id)
  rw [PolicyResolver.refreshPoliciesFrom_snapshot reads distinct,
    PolicyResolver.entriesFrom_iterated distinct, Dictionary.setAll_items] at found
  obtain ⟨item, ⟨former, latter, split, _, _⟩, rfl⟩ := found
  have member : item ∈ PolicyResolver.iterated services products endpoints := by
    rw [split]
    exact List.mem_append_right former List.mem_cons_self
  have available := available_of_iterated content member
  exact ⟨_, (mem_entries_iff catalogue _).mpr ⟨_, _, _, available, rfl⟩, rfl⟩

/-- The tables of the gateway's database. -/
def Catalogue.ofDatabase (database : Database) : Catalogue where
  products := database.products
  services := database.services
  endpoints := database.endpoints
  distinctProducts := database.products_id
  distinctServices := database.services_id
  distinctEndpoints := database.endpoints_id

theorem readBy_database (database : Database) :
    (Catalogue.ofDatabase database).ReadBy database.enabledServices database.enabledProducts
      database.enabledEndpoints where
  services := List.Perm.refl _
  products := List.Perm.refl _
  endpoints := by
    intro serviceId
    rw [Catalogue.enabledEndpoints, Database.enabledEndpoints, List.filter_filter]
    exact List.Perm.refl _

/-- What a connected gateway's own refresh publishes can be discovered. -/
theorem refreshed_discovered {platform : Platform} {gateway : Gateway}
    (connected : gateway.Connected) {key : Text} {policy : EndpointPolicy}
    (published : (PolicyResolver.refreshPoliciesAsync platform
      gateway).2.policySnapshot.tryGetValue key = some policy) :
    ∃ entry ∈ (Catalogue.ofDatabase gateway.database).entries, entry.id = policy.endpoint.id := by
  rw [← PolicyResolver.refreshPoliciesFrom_database] at published
  exact covers_entries platform _ gateway _ _ _ (readBy_database gateway.database)
    (PolicyResolver.reads_database connected) key policy published

end Listing

/-- The handler answers with exactly the available endpoints, each once, and they
include every endpoint of a snapshot of the same content. -/
theorem getAllEndpoints_exact (catalogue : Catalogue) :
    ∃ entries, catalogue.getAllEndpoints = .ok entries ∧ catalogue.Lists entries ∧
      catalogue.Covers entries :=
  ⟨catalogue.entries, getAllEndpoints_entries catalogue, lists_entries catalogue, covers_entries⟩

end ApiGateway.Discovery
