import ApiGateway.Database
import ApiGateway.Library.SqlQueries

/-!
# Listings by the enabledOnly flag

The listings of products, services, endpoints and clients take an optional flag.
Services and endpoints can be listed for one parent.

Three repositories add a condition when the flag is true. The one of clients
hands the flag to the server, which compares the column with it, so that false
asks for the disabled rows.
-/

namespace ApiGateway.EnabledFilters

open Sql

section Repositories

variable {Row : Type}

/-- A column of the schema that is not nullable is true. -/
def columnIsTrue (column : Row → Bool) (row : Row) : Truth := equal (some (column row)) (some true)

/-- The clause is there only if the flag is true. -/
def whereEnabled (column : Row → Bool) (enabledOnly : Option Bool) (rows : List Row) : List Row :=
  if enabledOnly = some true then select (columnIsTrue column) rows else rows

/-- The clause of whereEnabled beside one on the parent. -/
def whereParent (column : Row → Bool) (parent : Row → Guid) (parentId : Guid)
    (enabledOnly : Option Bool) (rows : List Row) : List Row :=
  if enabledOnly = some true then
    select (fun row => (equal (some (parent row)) (some parentId)).and (columnIsTrue column row)) rows
  else select (fun row => equal (some (parent row)) (some parentId)) rows

end Repositories

def ProductEntityRepository.getAllAsync : Option Bool → List Product → List Product :=
  whereEnabled Product.isEnabled

def ServiceEntityRepository.getAllAsync : Option Bool → List Service → List Service :=
  whereEnabled Service.isEnabled

def ServiceEntityRepository.getByProductIdAsync (productId : Guid) :
    Option Bool → List Service → List Service :=
  whereParent Service.isEnabled Service.productId productId

def EndpointEntityRepository.getAllAsync : Option Bool → List Endpoint → List Endpoint :=
  whereEnabled Endpoint.isEnabled

def EndpointEntityRepository.getByServiceIdAsync (serviceId : Guid) :
    Option Bool → List Endpoint → List Endpoint :=
  whereParent Endpoint.isEnabled Endpoint.serviceId serviceId

/-- The flag is a parameter of the statement. -/
def ClientEntityRepository.getAllAsync (enabledOnly : Option Bool) (rows : List Client) :
    List Client :=
  select (fun row => (isNull enabledOnly).or (equal (some row.isEnabled) enabledOnly)) rows

/-- What a listing asks for, next to the flag. -/
inductive Resource where
  | products
  | services (productId : Option Guid)
  | endpoints (serviceId : Option Guid)
  | clients
deriving DecidableEq

namespace Resource

abbrev Row : Resource → Type
  | .products => Product
  | .services _ => Service
  | .endpoints _ => Endpoint
  | .clients => Client

def isEnabled : (resource : Resource) → resource.Row → Bool
  | .products, row => Product.isEnabled row
  | .services _, row => Service.isEnabled row
  | .endpoints _, row => Endpoint.isEnabled row
  | .clients, row => Client.isEnabled row

/-- The rows that the flag chooses from. -/
def rows (database : Database) : (resource : Resource) → List resource.Row
  | .products => database.products
  | .services productId =>
    database.services.filter (fun row => productId.all (fun id => decide (row.productId = id)))
  | .endpoints serviceId =>
    database.endpoints.filter (fun row => serviceId.all (fun id => decide (row.serviceId = id)))
  | .clients => database.clients

/-- The handlers of the four listings. -/
def get (database : Database) (enabledOnly : Option Bool) : (resource : Resource) → List resource.Row
  | .products => ProductEntityRepository.getAllAsync enabledOnly database.products
  | .services none => ServiceEntityRepository.getAllAsync enabledOnly database.services
  | .services (some productId) =>
    ServiceEntityRepository.getByProductIdAsync productId enabledOnly database.services
  | .endpoints none => EndpointEntityRepository.getAllAsync enabledOnly database.endpoints
  | .endpoints (some serviceId) =>
    EndpointEntityRepository.getByServiceIdAsync serviceId enabledOnly database.endpoints
  | .clients => ClientEntityRepository.getAllAsync enabledOnly database.clients

/-- The flag only narrows: true lists the enabled rows, and neither false nor an
absent flag loses one of them. -/
structure Narrows (resource : Resource) (database : Database) : Prop where
  exact : ∀ row, row ∈ resource.get database (some true) ↔
    row ∈ resource.rows database ∧ resource.isEnabled row = true
  whenFalse : ∀ row ∈ resource.get database (some true), row ∈ resource.get database (some false)
  whenAbsent : ∀ row ∈ resource.get database (some true), row ∈ resource.get database none

end Resource

section Listings

variable {Row : Type} (column : Row → Bool) (rows : List Row) (row : Row)

theorem mem_whereEnabled_iff (enabledOnly : Option Bool) :
    row ∈ whereEnabled column enabledOnly rows ↔
      row ∈ rows ∧ (enabledOnly = some true → column row = true) := by
  rw [whereEnabled]
  split
  · next only => simp [columnIsTrue, only]
  · next every => simp [every]

theorem mem_whereParent_iff (parent : Row → Guid) (parentId : Guid) (enabledOnly : Option Bool) :
    row ∈ whereParent column parent parentId enabledOnly rows ↔
      (row ∈ rows ∧ parent row = parentId) ∧ (enabledOnly = some true → column row = true) := by
  rw [whereParent]
  split
  · next only => simp [columnIsTrue, only, and_assoc]
  · next every => simp [every]

end Listings

/-- The flag given to the listing of clients is what the column must be. -/
theorem mem_getAllAsync_iff (enabledOnly : Option Bool) (rows : List Client) (row : Client) :
    row ∈ ClientEntityRepository.getAllAsync enabledOnly rows ↔
      row ∈ rows ∧ enabledOnly.all (fun wanted => row.isEnabled == wanted) = true := by
  cases enabledOnly with
  | none => simp [ClientEntityRepository.getAllAsync]
  | some wanted => simp [ClientEntityRepository.getAllAsync]

/-- The listings other than that of clients treat false as absent. -/
theorem mem_get_iff {resource : Resource} (database : Database) (enabledOnly : Option Bool)
    (other : resource ≠ .clients) (row : resource.Row) :
    row ∈ resource.get database enabledOnly ↔
      row ∈ resource.rows database ∧ (enabledOnly = some true → resource.isEnabled row = true) := by
  cases resource with
  | products => exact mem_whereEnabled_iff Product.isEnabled database.products row enabledOnly
  | services productId =>
    cases productId with
    | none =>
      have whole : Resource.rows database (.services none) = database.services := by
        simp [Resource.rows]
      rw [whole]
      exact mem_whereEnabled_iff Service.isEnabled database.services row enabledOnly
    | some id =>
      have children : row ∈ Resource.rows database (.services (some id)) ↔
          row ∈ database.services ∧ Service.productId row = id := by
        simp [Resource.rows]
      rw [children]
      exact mem_whereParent_iff Service.isEnabled database.services row Service.productId id
        enabledOnly
  | endpoints serviceId =>
    cases serviceId with
    | none =>
      have whole : Resource.rows database (.endpoints none) = database.endpoints := by
        simp [Resource.rows]
      rw [whole]
      exact mem_whereEnabled_iff Endpoint.isEnabled database.endpoints row enabledOnly
    | some id =>
      have children : row ∈ Resource.rows database (.endpoints (some id)) ↔
          row ∈ database.endpoints ∧ Endpoint.serviceId row = id := by
        simp [Resource.rows]
      rw [children]
      exact mem_whereParent_iff Endpoint.isEnabled database.endpoints row Endpoint.serviceId id
        enabledOnly
  | clients => exact absurd rfl other

/-- The listing of clients loses the enabled ones when the flag is false. -/
theorem clients_narrow_iff (database : Database) :
    Resource.clients.Narrows database ↔ ∀ client ∈ database.clients, client.isEnabled = false := by
  constructor
  · intro narrows client member
    by_contra enabled
    have listed : client ∈ Resource.get database (some true) .clients :=
      (narrows.exact client).mpr ⟨member, by simpa [Resource.isEnabled] using enabled⟩
    have lost := ((mem_getAllAsync_iff _ _ _).mp (narrows.whenFalse client listed)).2
    simp only [Option.all_some, beq_iff_eq] at lost
    exact enabled lost
  · intro disabled
    have unlisted : ∀ row, row ∉ Resource.get database (some true) .clients := by
      intro row listed
      have enabled := (mem_getAllAsync_iff _ _ _).mp listed
      simp [disabled row enabled.1] at enabled
    constructor
    · intro row
      constructor
      · intro listed
        exact absurd listed (unlisted row)
      · rintro ⟨member, enabled⟩
        have disabledRow : Client.isEnabled row = false := disabled row member
        simp [Resource.isEnabled, disabledRow] at enabled
    · intro row listed
      exact absurd listed (unlisted row)
    · intro row listed
      exact absurd listed (unlisted row)

/-- The other listings lose nothing. -/
theorem others_narrow {resource : Resource} (database : Database) (other : resource ≠ .clients) :
    resource.Narrows database := by
  have listing := fun enabledOnly row => mem_get_iff database enabledOnly other row
  constructor
  · intro row
    rw [listing]
    simp
  · intro row listed
    exact (listing (some false) row).mpr ⟨((listing (some true) row).mp listed).1, by simp⟩
  · intro row listed
    exact (listing none row).mpr ⟨((listing (some true) row).mp listed).1, by simp⟩

/-- The flag only narrows a listing exactly if it is not the one of clients, or no
client is enabled. -/
theorem enabledOnly_narrows_iff (resource : Resource) (database : Database) :
    resource.Narrows database ↔
      (resource = .clients → ∀ client ∈ database.clients, client.isEnabled = false) := by
  by_cases clients : resource = .clients
  · subst clients
    rw [clients_narrow_iff]
    simp
  · constructor
    · intro _ same
      exact absurd same clients
    · intro _
      exact others_narrow database clients

/-- A registry with one enabled client. -/
def oneClient : Database :=
  { Database.vacant with
    clients := [⟨Guid.numbered 1, "billing".toList, true, none⟩]
    clients_id := by simp
    clients_clientId := by simp }

/-- A listing of all clients with the flag false loses the enabled one. -/
theorem oneClient_lost : ¬ Resource.clients.Narrows oneClient := by
  intro narrows
  have lost := narrows.whenFalse ⟨Guid.numbered 1, "billing".toList, true, none⟩ (by decide)
  revert lost
  decide

end ApiGateway.EnabledFilters
