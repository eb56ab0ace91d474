import ApiGateway.Entities
import Mathlib.Data.List.Nodup

/-!
# Registry content and repository queries

The tables of the registry, as lists of rows in the order in which the server
returns them, under the primary keys and unique constraints of the schema. A
constraint on a nullable column does not relate rows in which it is null.

Queries are pure functions of the tables. Whether a repository call reaches the
server at all is decided elsewhere.
-/

namespace ApiGateway

/-- The tables the gateway reads, with the constraints the schema declares. -/
structure Database where
  products : List Product
  services : List Service
  endpoints : List Endpoint
  clients : List Client
  clientPermissions : List ClientPermission
  userProfiles : List UserProfile
  products_id : (products.map Product.id).Nodup
  products_name : (products.map Product.name).Nodup
  services_id : (services.map Service.id).Nodup
  services_name :
    (services.map (fun row => (row.productId, row.serviceName, row.version))).Nodup
  endpoints_id : (endpoints.map Endpoint.id).Nodup
  endpoints_name : (endpoints.map (fun row => (row.serviceId, row.endpointName))).Nodup
  clients_id : (clients.map Client.id).Nodup
  clients_clientId : (clients.map Client.clientId).Nodup
  clientPermissions_id : (clientPermissions.map ClientPermission.id).Nodup
  clientPermissions_pair :
    (clientPermissions.map (fun row => (row.clientId, row.endpointId))).Nodup
  userProfiles_id : (userProfiles.map UserProfile.id).Nodup
  userProfiles_pair :
    ((userProfiles.filter (fun row => row.serviceId.isSome)).map
      (fun row => (row.userId, row.serviceId))).Nodup

namespace Database

/-- Enabled services. -/
def enabledServices (database : Database) : List Service :=
  database.services.filter Service.isEnabled

/-- Enabled products. -/
def enabledProducts (database : Database) : List Product :=
  database.products.filter Product.isEnabled

/-- Enabled endpoints of a service. -/
def enabledEndpoints (database : Database) (serviceId : Guid) : List Endpoint :=
  database.endpoints.filter (fun row => decide (row.serviceId = serviceId) && row.isEnabled)

/-- The enabled client with a client id. -/
def clientByClientId (database : Database) (clientId : Text) : Option Client :=
  database.clients.find? (fun row => decide (row.clientId = clientId) && row.isEnabled)

/-- All enabled clients. -/
def enabledClients (database : Database) : List Client :=
  database.clients.filter Client.isEnabled

/-- A permission that has not expired; one without an expiry never does. -/
def unexpired (now : Nat) (permission : ClientPermission) : Bool :=
  permission.expiresAt.all (fun expiry => decide (now < expiry))

/-- Endpoints for which a client has an enabled, unexpired permission. -/
def authorizedEndpointIds (database : Database) (now : Nat) (clientId : Guid) : List Guid :=
  (database.clientPermissions.filter (fun row =>
    decide (row.clientId = clientId) && row.isEnabled && unexpired now row)).map
      ClientPermission.endpointId

/-- The enabled profile of a user for a service, else an enabled global one. For
an absent service every comparison with it is unknown, so no row qualifies. -/
def profileByUserId (database : Database) (userId : Text) (serviceId : Option Guid) :
    Option UserProfile :=
  serviceId.bind (fun service =>
    (database.userProfiles.find? (fun row =>
      decide (row.userId = userId) && decide (row.serviceId = some service) && row.isEnabled)).or
    (database.userProfiles.find? (fun row =>
      decide (row.userId = userId) && decide (row.serviceId = none) && row.isEnabled)))

/-- A registry without rows. -/
def vacant : Database where
  products := []
  services := []
  endpoints := []
  clients := []
  clientPermissions := []
  userProfiles := []
  products_id := by simp
  products_name := by simp
  services_id := by simp
  services_name := by simp
  endpoints_id := by simp
  endpoints_name := by simp
  clients_id := by simp
  clients_clientId := by simp
  clientPermissions_id := by simp
  clientPermissions_pair := by simp
  userProfiles_id := by simp
  userProfiles_pair := by simp

/-- A registry of one product with one service and one endpoint. -/
def ofEndpoint (product : Product) (service : Service) (endpoint : Endpoint) : Database :=
  { vacant with
    products := [product]
    services := [service]
    endpoints := [endpoint]
    products_id := by simp
    products_name := by simp
    services_id := by simp
    services_name := by simp
    endpoints_id := by simp
    endpoints_name := by simp }

/-- A registry of one product with two services, each with one endpoint. -/
def ofPair (product : Product) (first second : Service) (firstEndpoint secondEndpoint : Endpoint)
    (serviceIds : first.id ≠ second.id)
    (serviceNames : (first.productId, first.serviceName, first.version) ≠
      (second.productId, second.serviceName, second.version))
    (endpointIds : firstEndpoint.id ≠ secondEndpoint.id)
    (endpointNames : (firstEndpoint.serviceId, firstEndpoint.endpointName) ≠
      (secondEndpoint.serviceId, secondEndpoint.endpointName)) : Database :=
  { vacant with
    products := [product]
    services := [first, second]
    endpoints := [firstEndpoint, secondEndpoint]
    products_id := by simp
    products_name := by simp
    services_id := by simpa using serviceIds
    services_name := by simpa using serviceNames
    endpoints_id := by simpa using endpointIds
    endpoints_name := by simpa using endpointNames }

/-- Rows of a table with a distinct column are determined by it. -/
theorem row_unique {ρ κ : Type} {column : ρ → κ} {rows : List ρ} (distinct : (rows.map column).Nodup)
    {left right : ρ} (leftMember : left ∈ rows) (rightMember : right ∈ rows)
    (same : column left = column right) : left = right :=
  List.inj_on_of_nodup_map distinct leftMember rightMember same

/-- A search for a row that no other row resembles finds exactly that row. -/
theorem find_row_iff {ρ : Type} {wanted : ρ → Bool} {rows : List ρ}
    (unique : ∀ left ∈ rows, ∀ right ∈ rows, wanted left = true → wanted right = true → left = right)
    (row : ρ) : rows.find? wanted = some row ↔ row ∈ rows ∧ wanted row = true := by
  constructor
  · intro found
    exact ⟨List.mem_of_find?_eq_some found, List.find?_some found⟩
  · rintro ⟨member, matched⟩
    cases searched : rows.find? wanted with
    | none => exact absurd matched (List.find?_eq_none.mp searched row member)
    | some other =>
      rw [unique other (List.mem_of_find?_eq_some searched) row member (List.find?_some searched)
        matched]

/-- The lookup finds exactly the enabled row with the client id. -/
theorem clientByClientId_iff (database : Database) (clientId : Text) (client : Client) :
    database.clientByClientId clientId = some client ↔
      client ∈ database.clients ∧ client.clientId = clientId ∧ client.isEnabled = true := by
  have unique : ∀ left ∈ database.clients, ∀ right ∈ database.clients,
      (decide (left.clientId = clientId) && left.isEnabled) = true →
        (decide (right.clientId = clientId) && right.isEnabled) = true → left = right := by
    intro left leftMember right rightMember leftNamed rightNamed
    simp only [Bool.and_eq_true, decide_eq_true_eq] at leftNamed rightNamed
    exact row_unique database.clients_clientId leftMember rightMember
      (leftNamed.1.trans rightNamed.1.symm)
  rw [clientByClientId, find_row_iff unique]
  simp only [Bool.and_eq_true, decide_eq_true_eq]

theorem mem_enabledClients_iff (database : Database) (client : Client) :
    client ∈ database.enabledClients ↔
      database.clientByClientId client.clientId = some client := by
  rw [clientByClientId_iff]
  simp [enabledClients]

/-- What it means for a client to be allowed an endpoint, in terms of rows. -/
def Grants (database : Database) (now : Nat) (clientId : Text) (endpointId : Guid) : Prop :=
  ∃ client ∈ database.clients, client.clientId = clientId ∧ client.isEnabled = true ∧
    ∃ permission ∈ database.clientPermissions, permission.clientId = client.id ∧
      permission.endpointId = endpointId ∧ permission.isEnabled = true ∧
      unexpired now permission = true

theorem mem_authorizedEndpointIds_iff (database : Database) (now : Nat) (clientId endpointId : Guid) :
    endpointId ∈ database.authorizedEndpointIds now clientId ↔
      ∃ permission ∈ database.clientPermissions, permission.clientId = clientId ∧
        permission.endpointId = endpointId ∧ permission.isEnabled = true ∧
        unexpired now permission = true := by
  simp only [authorizedEndpointIds, List.mem_map, List.mem_filter, Bool.and_eq_true,
    decide_eq_true_eq]
  constructor
  · rintro ⟨permission, ⟨member, ⟨owner, enabled⟩, current⟩, same⟩
    exact ⟨permission, member, owner, same, enabled, current⟩
  · rintro ⟨permission, member, owner, same, enabled, current⟩
    exact ⟨permission, ⟨member, ⟨owner, enabled⟩, current⟩, same⟩

/-- A grant is an enabled client whose authorized endpoints include the endpoint. -/
theorem grants_iff (database : Database) (now : Nat) (clientId : Text) (endpointId : Guid) :
    database.Grants now clientId endpointId ↔
      ∃ client, database.clientByClientId clientId = some client ∧
        endpointId ∈ database.authorizedEndpointIds now client.id := by
  simp only [Grants, clientByClientId_iff, mem_authorizedEndpointIds_iff]
  constructor
  · rintro ⟨client, member, same, enabled, granted⟩
    exact ⟨client, ⟨member, same, enabled⟩, granted⟩
  · rintro ⟨client, ⟨member, same, enabled⟩, granted⟩
    exact ⟨client, member, same, enabled, granted⟩

end Database

end ApiGateway
