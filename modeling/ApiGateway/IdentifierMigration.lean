import ApiGateway.CacheTransparency
import ApiGateway.Library.Rekeying
import ApiGateway.LinkedDatabase
import ApiGateway.Organisations
import ApiGateway.ProfileSelection
import Mathlib.Data.List.Find

/-!
# The conversion of identifiers

A migration gives every row of the tables a generated identifier, fills the references
in by joining over the old ones, and puts the new columns in their place. It runs in one
transaction and ends by declaring the constraints again.

The rows afterwards are the old ones under a replacement of identifiers that is
injective, so what the gateway answers is what it answered before: the same policies
under the same route keys, the same decisions about clients, the same keys of users.
-/

namespace ApiGateway.IdentifierMigration

open Rekeying

/-- The identifiers the server generates, in the order of each table's rows. -/
structure Generated where
  products : Nat → Guid
  services : Nat → Guid
  endpoints : Nat → Guid
  clients : Nat → Guid
  clientPermissions : Nat → Guid
  userProfiles : Nat → Guid
  serviceDestinations : Nat → Guid

/-! Rows with the added columns renamed to those they replace. -/

def renamedProduct (row : Product) (idUuid : Guid) : Product := { row with id := idUuid }

def renamedService (row : Service) (idUuid productIdUuid : Guid) : Service :=
  { row with id := idUuid, productId := productIdUuid }

def renamedEndpoint (row : Endpoint) (idUuid serviceIdUuid : Guid) : Endpoint :=
  { row with id := idUuid, serviceId := serviceIdUuid }

def renamedClient (row : Client) (idUuid : Guid) : Client := { row with id := idUuid }

def renamedClientPermission (row : ClientPermission) (idUuid clientIdUuid endpointIdUuid : Guid) :
    ClientPermission :=
  { row with id := idUuid, clientId := clientIdUuid, endpointId := endpointIdUuid }

def renamedUserProfile (row : UserProfile) (idUuid : Guid) (serviceIdUuid : Option Guid) :
    UserProfile :=
  { row with id := idUuid, serviceId := serviceIdUuid }

def renamedServiceDestination (row : ServiceDestination) (idUuid serviceIdUuid : Guid) :
    ServiceDestination :=
  { row with id := idUuid, serviceId := serviceIdUuid }

section Columns

variable (generated : Generated) (tables : LinkedDatabase)

/-- The tables with the column of generated identifiers. -/
abbrev products : List (Product × Guid) := withGenerated generated.products tables.products

abbrev services : List (Service × Guid) := withGenerated generated.services tables.services

abbrev endpoints : List (Endpoint × Guid) := withGenerated generated.endpoints tables.endpoints

abbrev clients : List (Client × Guid) := withGenerated generated.clients tables.clients

abbrev clientPermissions : List (ClientPermission × Guid) :=
  withGenerated generated.clientPermissions tables.clientPermissions

abbrev userProfiles : List (UserProfile × Guid) :=
  withGenerated generated.userProfiles tables.userProfiles

abbrev serviceDestinations : List (ServiceDestination × Guid) :=
  withGenerated generated.serviceDestinations tables.serviceDestinations

/-- The new primary keys are unique. -/
def Unique : Prop :=
  ((products generated tables).map Prod.snd).Nodup ∧
    ((services generated tables).map Prod.snd).Nodup ∧
    ((endpoints generated tables).map Prod.snd).Nodup ∧
    ((clients generated tables).map Prod.snd).Nodup ∧
    ((clientPermissions generated tables).map Prod.snd).Nodup ∧
    ((userProfiles generated tables).map Prod.snd).Nodup ∧
    ((serviceDestinations generated tables).map Prod.snd).Nodup

instance : Decidable (Unique generated tables) :=
  inferInstanceAs (Decidable (_ ∧ _))

end Columns

section Joins

/-- A referenced row has a generated identifier. -/
theorem joined_present {Row : Type} {keyOf : Row → Guid} {generated : Nat → Guid} {rows : List Row}
    {key : Guid} (present : key ∈ rows.map keyOf) :
    (joined keyOf (withGenerated generated rows) key).isSome = true := by
  apply joined_isSome
  rwa [map_fst_withGenerated]

theorem row_of_widened {Row : Type} {generated : Nat → Guid} {rows : List Row} {pair : Row × Guid}
    (member : pair ∈ withGenerated generated rows) : pair.1 ∈ rows := by
  rw [← map_fst_withGenerated generated rows]
  exact List.mem_map_of_mem member

variable (generated : Generated) (tables : LinkedDatabase)

/-- The new rows. Where the old column referenced a row, the new one has the identifier
generated for it. -/
def newProducts : List Product :=
  (products generated tables).map (fun pair => renamedProduct pair.1 pair.2)

def newServices : List Service :=
  (services generated tables).attach.map (fun pair => renamedService pair.val.1 pair.val.2
    ((joined Product.id (products generated tables) pair.val.1.productId).get
      (joined_present (tables.services_product _ (row_of_widened pair.property)))))

def newEndpoints : List Endpoint :=
  (endpoints generated tables).attach.map (fun pair => renamedEndpoint pair.val.1 pair.val.2
    ((joined Service.id (services generated tables) pair.val.1.serviceId).get
      (joined_present (tables.endpoints_service _ (row_of_widened pair.property)))))

def newClients : List Client :=
  (clients generated tables).map (fun pair => renamedClient pair.1 pair.2)

def newClientPermissions : List ClientPermission :=
  (clientPermissions generated tables).attach.map (fun pair =>
    renamedClientPermission pair.val.1 pair.val.2
      ((joined Client.id (clients generated tables) pair.val.1.clientId).get
        (joined_present (tables.clientPermissions_client _ (row_of_widened pair.property))))
      ((joined Endpoint.id (endpoints generated tables) pair.val.1.endpointId).get
        (joined_present (tables.clientPermissions_endpoint _ (row_of_widened pair.property)))))

/-- A null reference joins with no row. -/
def newUserProfiles : List UserProfile :=
  (userProfiles generated tables).map (fun pair => renamedUserProfile pair.1 pair.2
    (pair.1.serviceId.bind (joined Service.id (services generated tables))))

def newServiceDestinations : List ServiceDestination :=
  (serviceDestinations generated tables).attach.map (fun pair =>
    renamedServiceDestination pair.val.1 pair.val.2
      ((joined Service.id (services generated tables) pair.val.1.serviceId).get
        (joined_present (tables.serviceDestinations_service _ (row_of_widened pair.property)))))

end Joins

/-- A replacement of the identifiers of each table. -/
structure Replacement where
  products : Guid → Guid
  services : Guid → Guid
  endpoints : Guid → Guid
  clients : Guid → Guid
  clientPermissions : Guid → Guid
  userProfiles : Guid → Guid
  serviceDestinations : Guid → Guid

namespace Replacement

variable (replacement : Replacement)

def product (row : Product) : Product := renamedProduct row (replacement.products row.id)

def service (row : Service) : Service :=
  renamedService row (replacement.services row.id) (replacement.products row.productId)

def endpoint (row : Endpoint) : Endpoint :=
  renamedEndpoint row (replacement.endpoints row.id) (replacement.services row.serviceId)

def client (row : Client) : Client := renamedClient row (replacement.clients row.id)

def clientPermission (row : ClientPermission) : ClientPermission :=
  renamedClientPermission row (replacement.clientPermissions row.id)
    (replacement.clients row.clientId) (replacement.endpoints row.endpointId)

def userProfile (row : UserProfile) : UserProfile :=
  renamedUserProfile row (replacement.userProfiles row.id)
    (row.serviceId.map replacement.services)

def serviceDestination (row : ServiceDestination) : ServiceDestination :=
  renamedServiceDestination row (replacement.serviceDestinations row.id)
    (replacement.services row.serviceId)

/-- A policy of rows with replaced identifiers. -/
def policy (policy : EndpointPolicy) : EndpointPolicy :=
  { policy with
    product := replacement.product policy.product
    service := replacement.service policy.service
    endpoint := replacement.endpoint policy.endpoint }

/-- An answer about rows with replaced identifiers. -/
def decision : Decision → Decision
  | .answered status text => .answered status text
  | .admitted policy clientId client =>
    .admitted (replacement.policy policy) clientId (client.map replacement.client)

/-- Rows of the tables keep apart. -/
structure Injective (tables : LinkedDatabase) : Prop where
  products : Set.InjOn replacement.products {id | id ∈ tables.products.map Product.id}
  services : Set.InjOn replacement.services {id | id ∈ tables.services.map Service.id}
  endpoints : Set.InjOn replacement.endpoints {id | id ∈ tables.endpoints.map Endpoint.id}
  clients : Set.InjOn replacement.clients {id | id ∈ tables.clients.map Client.id}
  clientPermissions : Set.InjOn replacement.clientPermissions
    {id | id ∈ tables.clientPermissions.map ClientPermission.id}
  userProfiles : Set.InjOn replacement.userProfiles
    {id | id ∈ tables.userProfiles.map UserProfile.id}
  serviceDestinations : Set.InjOn replacement.serviceDestinations
    {id | id ∈ tables.serviceDestinations.map ServiceDestination.id}

end Replacement

section Applied

variable {replacement : Replacement} {tables : LinkedDatabase}

/-- Every row keeps apart from every other after an injective replacement. -/
theorem nodup_replaced {Row Former Latter : Type} {rows : List Row} {change : Row → Row}
    {before : Row → Former} {after : Row → Latter} (distinct : (rows.map before).Nodup)
    (tells : ∀ left ∈ rows, ∀ right ∈ rows, after (change left) = after (change right) →
      before left = before right) : ((rows.map change).map after).Nodup := by
  rw [List.map_map]
  exact nodup_changed distinct tells

/-- A reference to a row is replaced by a reference to the changed row. -/
theorem mem_replaced {Row : Type} {rows : List Row} (keyOf : Row → Guid) (rename : Guid → Guid)
    (change : Row → Row) (renamed : ∀ row, keyOf (change row) = rename (keyOf row)) {key : Guid}
    (present : key ∈ rows.map keyOf) : rename key ∈ (rows.map change).map keyOf := by
  obtain ⟨row, member, rfl⟩ := List.mem_map.mp present
  rw [← renamed]
  exact List.mem_map_of_mem (List.mem_map_of_mem member)

/-- Optional references that are replaced alike are alike. -/
theorem reference_unique {rename : Guid → Guid} {ids : List Guid}
    (injective : Set.InjOn rename {id | id ∈ ids}) {left right : Option Guid}
    (leftRefers : ∀ id ∈ left, id ∈ ids) (rightRefers : ∀ id ∈ right, id ∈ ids)
    (same : left.map rename = right.map rename) : left = right := by
  cases left with
  | none => exact (Option.map_eq_none_iff.mp same.symm).symm
  | some id =>
    obtain ⟨other, rfl, renamed⟩ := Option.map_eq_some_iff.mp same.symm
    exact congrArg some (injective (leftRefers id rfl) (rightRefers other rfl) renamed.symm)

/-- The tables under an injective replacement. -/
def Replacement.apply (replacement : Replacement) (tables : LinkedDatabase)
    (injective : replacement.Injective tables) : LinkedDatabase where
  products := tables.products.map replacement.product
  services := tables.services.map replacement.service
  endpoints := tables.endpoints.map replacement.endpoint
  clients := tables.clients.map replacement.client
  clientPermissions := tables.clientPermissions.map replacement.clientPermission
  userProfiles := tables.userProfiles.map replacement.userProfile
  serviceDestinations := tables.serviceDestinations.map replacement.serviceDestination
  products_id := nodup_replaced tables.products_id fun _ left _ right =>
    injective.products (List.mem_map_of_mem left) (List.mem_map_of_mem right)
  products_name := nodup_replaced tables.products_name fun _ _ _ _ same => same
  services_id := nodup_replaced tables.services_id fun _ left _ right =>
    injective.services (List.mem_map_of_mem left) (List.mem_map_of_mem right)
  services_name := nodup_replaced tables.services_name fun left leftRow right rightRow same => by
    obtain ⟨product, name⟩ := Prod.mk.inj same
    rw [injective.products (tables.services_product left leftRow)
      (tables.services_product right rightRow) product]
    exact congrArg (Prod.mk _) name
  endpoints_id := nodup_replaced tables.endpoints_id fun _ left _ right =>
    injective.endpoints (List.mem_map_of_mem left) (List.mem_map_of_mem right)
  endpoints_name := nodup_replaced tables.endpoints_name fun left leftRow right rightRow same => by
    obtain ⟨service, name⟩ := Prod.mk.inj same
    rw [injective.services (tables.endpoints_service left leftRow)
      (tables.endpoints_service right rightRow) service]
    exact congrArg (Prod.mk _) name
  clients_id := nodup_replaced tables.clients_id fun _ left _ right =>
    injective.clients (List.mem_map_of_mem left) (List.mem_map_of_mem right)
  clients_clientId := nodup_replaced tables.clients_clientId fun _ _ _ _ same => same
  clientPermissions_id := nodup_replaced tables.clientPermissions_id fun _ left _ right =>
    injective.clientPermissions (List.mem_map_of_mem left) (List.mem_map_of_mem right)
  clientPermissions_pair := nodup_replaced tables.clientPermissions_pair
    fun left leftRow right rightRow same => by
      obtain ⟨client, endpoint⟩ := Prod.mk.inj same
      rw [injective.clients (tables.clientPermissions_client left leftRow)
        (tables.clientPermissions_client right rightRow) client]
      exact congrArg (Prod.mk _) (injective.endpoints
        (tables.clientPermissions_endpoint left leftRow)
        (tables.clientPermissions_endpoint right rightRow) endpoint)
  userProfiles_id := nodup_replaced tables.userProfiles_id fun _ left _ right =>
    injective.userProfiles (List.mem_map_of_mem left) (List.mem_map_of_mem right)
  userProfiles_pair := by
    have kept : (fun row : UserProfile => row.serviceId.isSome) ∘ replacement.userProfile =
        fun row => row.serviceId.isSome := funext fun row => Option.isSome_map
    rw [List.filter_map, kept]
    refine nodup_replaced tables.userProfiles_pair fun left leftRow right rightRow same => ?_
    obtain ⟨user, service⟩ := Prod.mk.inj same
    rw [reference_unique injective.services
      (tables.userProfiles_service left (List.mem_of_mem_filter leftRow))
      (tables.userProfiles_service right (List.mem_of_mem_filter rightRow)) service]
    exact congrArg (fun name => (name, right.serviceId)) user
  serviceDestinations_id := nodup_replaced tables.serviceDestinations_id fun _ left _ right =>
    injective.serviceDestinations (List.mem_map_of_mem left) (List.mem_map_of_mem right)
  serviceDestinations_name := nodup_replaced tables.serviceDestinations_name
    fun left leftRow right rightRow same => by
      obtain ⟨service, name⟩ := Prod.mk.inj same
      rw [injective.services (tables.serviceDestinations_service left leftRow)
        (tables.serviceDestinations_service right rightRow) service]
      exact congrArg (Prod.mk _) name
  services_product := List.forall_mem_map.mpr fun row member =>
    mem_replaced Product.id replacement.products replacement.product (fun _ => rfl)
      (tables.services_product row member)
  endpoints_service := List.forall_mem_map.mpr fun row member =>
    mem_replaced Service.id replacement.services replacement.service (fun _ => rfl)
      (tables.endpoints_service row member)
  clientPermissions_client := List.forall_mem_map.mpr fun row member =>
    mem_replaced Client.id replacement.clients replacement.client (fun _ => rfl)
      (tables.clientPermissions_client row member)
  clientPermissions_endpoint := List.forall_mem_map.mpr fun row member =>
    mem_replaced Endpoint.id replacement.endpoints replacement.endpoint (fun _ => rfl)
      (tables.clientPermissions_endpoint row member)
  userProfiles_service := List.forall_mem_map.mpr fun row member service among => by
    obtain ⟨old, owned, rfl⟩ := Option.mem_map.mp among
    exact mem_replaced Service.id replacement.services replacement.service (fun _ => rfl)
      (tables.userProfiles_service row member old owned)
  serviceDestinations_service := List.forall_mem_map.mpr fun row member =>
    mem_replaced Service.id replacement.services replacement.service (fun _ => rfl)
      (tables.serviceDestinations_service row member)

end Applied

/-- Every identifier is replaced by the one generated for its row. -/
def replacement (generated : Generated) (tables : LinkedDatabase) : Replacement where
  products := replacing Product.id (products generated tables)
  services := replacing Service.id (services generated tables)
  endpoints := replacing Endpoint.id (endpoints generated tables)
  clients := replacing Client.id (clients generated tables)
  clientPermissions := replacing ClientPermission.id (clientPermissions generated tables)
  userProfiles := replacing UserProfile.id (userProfiles generated tables)
  serviceDestinations := replacing ServiceDestination.id (serviceDestinations generated tables)

section Rows

variable {generated : Generated} {tables : LinkedDatabase}

theorem joined_present_eq {Row : Type} {keyOf : Row → Guid} {generated : Nat → Guid} {rows : List Row}
    {key : Guid} (present : key ∈ rows.map keyOf) :
    joined keyOf (withGenerated generated rows) key =
      some (replacing keyOf (withGenerated generated rows) key) := by
  apply joined_eq_some
  rwa [map_fst_withGenerated]

/-- A function of attached rows that looks at the rows only. -/
theorem map_attached {Row Result : Type} {rows : List Row} {change : {row // row ∈ rows} → Result}
    {plain : Row → Result} (alike : ∀ row, change row = plain row.val) :
    rows.attach.map change = rows.map plain := by
  conv_rhs => rw [← List.attach_map_subtype_val rows, List.map_map]
  exact List.map_congr_left fun row _ => alike row

theorem newProducts_eq :
    newProducts generated tables = tables.products.map (replacement generated tables).product :=
  map_withGenerated tables.products_id renamedProduct

theorem newServices_eq :
    newServices generated tables = tables.services.map (replacement generated tables).service :=
  (map_attached fun pair => congrArg (renamedService pair.val.1 pair.val.2) (get_joined _)).trans
    (map_withGenerated tables.services_id fun row id => renamedService row id _)

theorem newEndpoints_eq :
    newEndpoints generated tables = tables.endpoints.map (replacement generated tables).endpoint :=
  (map_attached fun pair => congrArg (renamedEndpoint pair.val.1 pair.val.2) (get_joined _)).trans
    (map_withGenerated tables.endpoints_id fun row id => renamedEndpoint row id _)

theorem newClients_eq :
    newClients generated tables = tables.clients.map (replacement generated tables).client :=
  map_withGenerated tables.clients_id renamedClient

theorem newClientPermissions_eq :
    newClientPermissions generated tables =
      tables.clientPermissions.map (replacement generated tables).clientPermission :=
  (map_attached fun pair =>
    congrArg₂ (renamedClientPermission pair.val.1 pair.val.2) (get_joined _) (get_joined _)).trans
    (map_withGenerated tables.clientPermissions_id fun row id =>
      renamedClientPermission row id _ _)

theorem newUserProfiles_eq :
    newUserProfiles generated tables =
      tables.userProfiles.map (replacement generated tables).userProfile := by
  have columns : ∀ pair ∈ userProfiles generated tables,
      pair.1.serviceId.bind (joined Service.id (services generated tables)) =
        pair.1.serviceId.map (replacing Service.id (services generated tables)) := by
    intro pair member
    cases refers : pair.1.serviceId with
    | none => rfl
    | some service =>
      exact joined_present_eq (tables.userProfiles_service pair.1 (row_of_widened member) service
        refers)
  have renamed : newUserProfiles generated tables = (userProfiles generated tables).map (fun pair =>
      renamedUserProfile pair.1 pair.2
        (pair.1.serviceId.map (replacing Service.id (services generated tables)))) :=
    List.map_congr_left fun pair member =>
      congrArg (renamedUserProfile pair.1 pair.2) (columns pair member)
  exact renamed.trans (map_withGenerated tables.userProfiles_id fun row id =>
    renamedUserProfile row id
      (row.serviceId.map (replacing Service.id (services generated tables))))

theorem newServiceDestinations_eq :
    newServiceDestinations generated tables =
      tables.serviceDestinations.map (replacement generated tables).serviceDestination :=
  (map_attached fun pair =>
    congrArg (renamedServiceDestination pair.val.1 pair.val.2) (get_joined _)).trans
    (map_withGenerated tables.serviceDestinations_id fun row id =>
      renamedServiceDestination row id _)

theorem replacing_apart {Row : Type} {keyOf : Row → Guid} {generated : Nat → Guid} {rows : List Row}
    (distinct : (rows.map keyOf).Nodup)
    (fresh : ((withGenerated generated rows).map Prod.snd).Nodup) :
    Set.InjOn (replacing keyOf (withGenerated generated rows)) {key | key ∈ rows.map keyOf} := by
  have apart := @replacing_injOn _ _ _ keyOf (withGenerated generated rows)
  rw [map_fst_withGenerated] at apart
  exact apart distinct fresh

/-- Unique generated keys replace identifiers injectively. -/
theorem replacement_injective (unique : Unique generated tables) :
    (replacement generated tables).Injective tables := by
  obtain ⟨products, services, endpoints, clients, permissions, profiles, destinations⟩ := unique
  exact ⟨replacing_apart tables.products_id products, replacing_apart tables.services_id services,
    replacing_apart tables.endpoints_id endpoints, replacing_apart tables.clients_id clients,
    replacing_apart tables.clientPermissions_id permissions,
    replacing_apart tables.userProfiles_id profiles,
    replacing_apart tables.serviceDestinations_id destinations⟩

end Rows

/-- The new rows under the constraints that are declared again. -/
def migrated (generated : Generated) (tables : LinkedDatabase) (unique : Unique generated tables) :
    LinkedDatabase :=
  let applied := (replacement generated tables).apply tables (replacement_injective unique)
  { products := newProducts generated tables
    services := newServices generated tables
    endpoints := newEndpoints generated tables
    clients := newClients generated tables
    clientPermissions := newClientPermissions generated tables
    userProfiles := newUserProfiles generated tables
    serviceDestinations := newServiceDestinations generated tables
    products_id := newProducts_eq ▸ applied.products_id
    products_name := newProducts_eq ▸ applied.products_name
    services_id := newServices_eq ▸ applied.services_id
    services_name := newServices_eq ▸ applied.services_name
    endpoints_id := newEndpoints_eq ▸ applied.endpoints_id
    endpoints_name := newEndpoints_eq ▸ applied.endpoints_name
    clients_id := newClients_eq ▸ applied.clients_id
    clients_clientId := newClients_eq ▸ applied.clients_clientId
    clientPermissions_id := newClientPermissions_eq ▸ applied.clientPermissions_id
    clientPermissions_pair := newClientPermissions_eq ▸ applied.clientPermissions_pair
    userProfiles_id := newUserProfiles_eq ▸ applied.userProfiles_id
    userProfiles_pair := newUserProfiles_eq ▸ applied.userProfiles_pair
    serviceDestinations_id := newServiceDestinations_eq ▸ applied.serviceDestinations_id
    serviceDestinations_name := newServiceDestinations_eq ▸ applied.serviceDestinations_name
    services_product := newServices_eq ▸ newProducts_eq ▸ applied.services_product
    endpoints_service := newEndpoints_eq ▸ newServices_eq ▸ applied.endpoints_service
    clientPermissions_client :=
      newClientPermissions_eq ▸ newClients_eq ▸ applied.clientPermissions_client
    clientPermissions_endpoint :=
      newClientPermissions_eq ▸ newEndpoints_eq ▸ applied.clientPermissions_endpoint
    userProfiles_service := newUserProfiles_eq ▸ newServices_eq ▸ applied.userProfiles_service
    serviceDestinations_service :=
      newServiceDestinations_eq ▸ newServices_eq ▸ applied.serviceDestinations_service }

/-- The migration. A generated identifier that repeats refuses a primary key, and the
transaction is rolled back. -/
def migrate (generated : Generated) (tables : LinkedDatabase) : Except Fault LinkedDatabase :=
  if unique : Unique generated tables then .ok (migrated generated tables unique)
  else .error Organisations.uniqueViolation

/-- The same rows of all tables, returned in any order. -/
structure SameContent (left right : LinkedDatabase) : Prop
    extends PolicyResolver.SameRows left.toDatabase right.toDatabase where
  clients : left.clients.Perm right.clients
  clientPermissions : left.clientPermissions.Perm right.clientPermissions
  userProfiles : left.userProfiles.Perm right.userProfiles
  serviceDestinations : left.serviceDestinations.Perm right.serviceDestinations

/-- Rows under an injective replacement, in any order. -/
structure Renames (replacement : Replacement) (tables after : LinkedDatabase) : Prop where
  injective : replacement.Injective tables
  products : after.products.Perm (tables.products.map replacement.product)
  services : after.services.Perm (tables.services.map replacement.service)
  endpoints : after.endpoints.Perm (tables.endpoints.map replacement.endpoint)
  clients : after.clients.Perm (tables.clients.map replacement.client)
  clientPermissions :
    after.clientPermissions.Perm (tables.clientPermissions.map replacement.clientPermission)
  userProfiles : after.userProfiles.Perm (tables.userProfiles.map replacement.userProfile)
  serviceDestinations :
    after.serviceDestinations.Perm (tables.serviceDestinations.map replacement.serviceDestination)

/-- What the migration leaves, in whatever order it is read, is the old rows renamed. -/
theorem migrate_renames {generated : Generated} {tables migrated after : LinkedDatabase}
    (done : migrate generated tables = .ok migrated) (same : SameContent after migrated) :
    Renames (replacement generated tables) tables after := by
  unfold migrate at done
  split at done
  · next unique =>
    obtain rfl := Except.ok.inj done
    exact ⟨replacement_injective unique, newProducts_eq ▸ same.products,
      newServices_eq ▸ same.services, newEndpoints_eq ▸ same.endpoints,
      newClients_eq ▸ same.clients, newClientPermissions_eq ▸ same.clientPermissions,
      newUserProfiles_eq ▸ same.userProfiles, newServiceDestinations_eq ▸ same.serviceDestinations⟩
  · cases done

section Answers

open PolicyResolver Concurrent

variable {replacement : Replacement} {tables after : LinkedDatabase}

/-- Rows that pass a test are the changed ones whose old rows did. -/
theorem mem_filter_renamed {Row : Type} {rows latter : List Row} {change : Row → Row}
    {former later : Row → Bool} (renamed : latter.Perm (rows.map change))
    (alike : ∀ row ∈ rows, later (change row) = former row) (each : Row) :
    each ∈ latter.filter later ↔ ∃ row ∈ rows.filter former, change row = each := by
  rw [(renamed.filter later).mem_iff, List.filter_map, List.mem_map]
  have tests : rows.filter (later ∘ change) = rows.filter former := List.filter_congr alike
  rw [tests]

namespace Renames

theorem mem_enabledServices (renames : Renames replacement tables after) (each : Service) :
    each ∈ after.enabledServices ↔
      ∃ service ∈ tables.enabledServices, replacement.service service = each :=
  mem_filter_renamed renames.services (fun _ _ => rfl) each

theorem mem_enabledProducts (renames : Renames replacement tables after) (each : Product) :
    each ∈ after.enabledProducts ↔
      ∃ product ∈ tables.enabledProducts, replacement.product product = each :=
  mem_filter_renamed renames.products (fun _ _ => rfl) each

theorem mem_enabledEndpoints (renames : Renames replacement tables after) {service : Service}
    (stored : service ∈ tables.services) (each : Endpoint) :
    each ∈ after.enabledEndpoints (replacement.service service).id ↔
      ∃ endpoint ∈ tables.enabledEndpoints service.id, replacement.endpoint endpoint = each := by
  refine mem_filter_renamed renames.endpoints (fun endpoint member => ?_) each
  have owner : (replacement.endpoint endpoint).serviceId = (replacement.service service).id ↔
      endpoint.serviceId = service.id :=
    renames.injective.services.eq_iff (tables.endpoints_service endpoint member)
      (List.mem_map_of_mem stored)
  rw [decide_eq_decide.mpr owner]
  rfl

/-- The product of a service stays its product. -/
theorem productOf_iff (renames : Renames replacement tables after) {service : Service}
    (stored : service ∈ tables.services) (each : Product) :
    productOf after.enabledProducts (replacement.service service) = some each ↔
      ∃ product, productOf tables.enabledProducts service = some product ∧
        replacement.product product = each := by
  simp only [PolicyResolver.productOf_iff, renames.mem_enabledProducts]
  constructor
  · rintro ⟨⟨product, enabled, rfl⟩, owner⟩
    refine ⟨product, ⟨enabled, ?_⟩, rfl⟩
    exact renames.injective.products
      (List.mem_map_of_mem (List.mem_of_mem_filter enabled))
      (tables.services_product service stored) owner
  · rintro ⟨product, ⟨enabled, owner⟩, rfl⟩
    exact ⟨⟨product, enabled, rfl⟩, congrArg replacement.products owner⟩

/-- The same policies are registered under the same keys. -/
theorem registered_iff (renames : Renames replacement tables after) (platform : Platform)
    (key : Text) (policy : EndpointPolicy) :
    (key, policy) ∈ registrations platform after.toDatabase ↔
      ∃ original, (key, original) ∈ registrations platform tables.toDatabase ∧
        replacement.policy original = policy := by
  simp only [mem_registrations_iff]
  constructor
  · rintro ⟨_, serviceEnabled, _, owned, _, listed, method, named, rfl, rfl⟩
    obtain ⟨service, enabled, rfl⟩ := (renames.mem_enabledServices _).mp serviceEnabled
    have stored := List.mem_of_mem_filter enabled
    obtain ⟨product, found, rfl⟩ := (renames.productOf_iff stored _).mp owned
    obtain ⟨endpoint, member, rfl⟩ := (renames.mem_enabledEndpoints stored _).mp listed
    exact ⟨_, ⟨service, enabled, product, found, endpoint, member, method, named, rfl, rfl⟩, rfl⟩
  · rintro ⟨_, ⟨service, enabled, product, found, endpoint, member, method, named, rfl, rfl⟩, rfl⟩
    have stored := List.mem_of_mem_filter enabled
    exact ⟨_, (renames.mem_enabledServices _).mpr ⟨service, enabled, rfl⟩, _,
      (renames.productOf_iff stored _).mpr ⟨product, found, rfl⟩, _,
      (renames.mem_enabledEndpoints stored _).mpr ⟨endpoint, member, rfl⟩, method, named, rfl, rfl⟩

/-- A client id names the same client. -/
theorem clientByClientId (renames : Renames replacement tables after) (clientId : Text) :
    after.clientByClientId clientId =
      (tables.clientByClientId clientId).map replacement.client := by
  apply Option.ext
  intro each
  rw [Database.clientByClientId_iff, Option.map_eq_some_iff, renames.clients.mem_iff, List.mem_map]
  simp only [Database.clientByClientId_iff]
  constructor
  · rintro ⟨⟨client, member, rfl⟩, named, enabled⟩
    exact ⟨client, ⟨member, named, enabled⟩, rfl⟩
  · rintro ⟨client, ⟨member, named, enabled⟩, rfl⟩
    exact ⟨⟨client, member, rfl⟩, named, enabled⟩

/-- A client has a permission for an endpoint as it had before. -/
theorem mem_authorizedEndpointIds (renames : Renames replacement tables after) (now : Nat)
    {client : Client} (known : client ∈ tables.clients) {endpoint : Endpoint}
    (stored : endpoint ∈ tables.endpoints) :
    (replacement.endpoint endpoint).id ∈
        after.authorizedEndpointIds now (replacement.client client).id ↔
      endpoint.id ∈ tables.authorizedEndpointIds now client.id := by
  simp only [Database.mem_authorizedEndpointIds_iff, renames.clientPermissions.mem_iff,
    List.mem_map, exists_exists_and_eq_and]
  refine exists_congr fun permission => and_congr_right fun member => ?_
  have owner : (replacement.clientPermission permission).clientId = (replacement.client client).id ↔
      permission.clientId = client.id :=
    renames.injective.clients.eq_iff (tables.clientPermissions_client permission member)
      (List.mem_map_of_mem known)
  have target : (replacement.clientPermission permission).endpointId =
      (replacement.endpoint endpoint).id ↔ permission.endpointId = endpoint.id :=
    renames.injective.endpoints.eq_iff (tables.clientPermissions_endpoint permission member)
      (List.mem_map_of_mem stored)
  rw [owner, target]
  rfl

/-- Requests are decided as they were before. -/
theorem decision (renames : Renames replacement tables after) (platform : Platform) (now : Nat)
    (context : HttpContext) {policy : EndpointPolicy} (stored : policy.endpoint ∈ tables.endpoints) :
    (Reference.of platform after.toDatabase now context).decision context (replacement.policy policy) =
      replacement.decision
        ((Reference.of platform tables.toDatabase now context).decision context policy) := by
  unfold Reference.decision
  rw [apply_ite replacement.decision, apply_ite replacement.decision]
  refine if_congr Iff.rfl rfl (if_congr Iff.rfl rfl ?_)
  simp only [Reference.of]
  cases callerOf platform context with
  | none => rfl
  | some clientId =>
    simp only [renames.clientByClientId]
    cases found : tables.clientByClientId clientId with
    | none => rfl
    | some client =>
      have known := ((Database.clientByClientId_iff _ _ _).mp found).1
      simp only [Option.map_some]
      have granted := renames.mem_authorizedEndpointIds now known stored
      by_cases permitted : policy.endpoint.id ∈ tables.authorizedEndpointIds now client.id
      · calc
          _ = replacement.decision (.admitted policy (some clientId) (some client)) :=
            if_pos (granted.mpr permitted)
          _ = _ := congrArg replacement.decision (if_pos permitted).symm
      · calc
          _ = replacement.decision (.answered 403 "Access denied to this endpoint".toList) :=
            if_neg (mt granted.mp permitted)
          _ = _ := congrArg replacement.decision (if_neg permitted).symm

/-- An enabled profile of a user for a service, or for all, stays one. -/
theorem enabledFor_iff (renames : Renames replacement tables after) (userId : Text)
    {scope : Option Guid} (stored : ∀ id ∈ scope, id ∈ tables.services.map Service.id)
    (each : UserProfile) :
    UserProfileRepository.EnabledFor after.userProfiles userId (scope.map replacement.services) each ↔
      ∃ profile, UserProfileRepository.EnabledFor tables.userProfiles userId scope profile ∧
        replacement.userProfile profile = each := by
  simp only [UserProfileRepository.EnabledFor, renames.userProfiles.mem_iff, List.mem_map]
  constructor
  · rintro ⟨⟨profile, member, rfl⟩, user, service, enabled⟩
    refine ⟨profile, ⟨member, user, ?_, enabled⟩, rfl⟩
    exact reference_unique renames.injective.services (tables.userProfiles_service profile member)
      stored service
  · rintro ⟨profile, ⟨member, user, rfl, enabled⟩, rfl⟩
    exact ⟨⟨profile, member, rfl⟩, user, rfl, enabled⟩

/-- A profile that the rows determine is determined afterwards. -/
theorem determined (renames : Renames replacement tables after) {userId : Text} {service : Service}
    (stored : service ∈ tables.services)
    (determined : UserProfileRepository.Determined tables.userProfiles userId (some service.id)) :
    UserProfileRepository.Determined after.userProfiles userId
      (some (replacement.services service.id)) := by
  have present : ∀ id ∈ some service.id, id ∈ tables.services.map Service.id := by
    rintro _ ⟨⟩
    exact List.mem_map_of_mem stored
  have global : ∀ id ∈ (none : Option Guid), id ∈ tables.services.map Service.id := by
    rintro _ ⟨⟩
  rcases determined with ⟨profile, enabled⟩ | unique
  · exact Or.inl ⟨_, (renames.enabledFor_iff userId present _).mpr ⟨profile, enabled, rfl⟩⟩
  · refine Or.inr fun left right leftEnabled rightEnabled => ?_
    obtain ⟨former, formerEnabled, rfl⟩ := (renames.enabledFor_iff userId global left).mp leftEnabled
    obtain ⟨latter, latterEnabled, rfl⟩ :=
      (renames.enabledFor_iff userId global right).mp rightEnabled
    rw [unique former latter formerEnabled latterEnabled]

/-- The keys of a user for a service stay those keys. -/
theorem profileByUserId (renames : Renames replacement tables after) {userId : Text}
    {service : Service} (stored : service ∈ tables.services)
    (determined : UserProfileRepository.Determined tables.userProfiles userId (some service.id)) :
    after.profileByUserId userId (some (replacement.service service).id) =
      (tables.profileByUserId userId (some service.id)).map replacement.userProfile := by
  have renamed : ∀ scope : Option Guid, (∀ id ∈ scope, id ∈ tables.services.map Service.id) →
      (tables.userProfiles.map replacement.userProfile).find?
          (UserProfileRepository.enabledFor userId (scope.map replacement.services)) =
        (tables.userProfiles.find? (UserProfileRepository.enabledFor userId scope)).map
          replacement.userProfile := by
    intro scope present
    rw [List.find?_map]
    refine congrArg (Option.map _) (List.find?_congr fun profile member => ?_)
    have owner : (replacement.userProfile profile).serviceId = scope.map replacement.services ↔
        profile.serviceId = scope :=
      ⟨reference_unique renames.injective.services (tables.userProfiles_service profile member)
        present, congrArg (Option.map replacement.services)⟩
    simp only [Function.comp_apply, UserProfileRepository.enabledFor, decide_eq_decide.mpr owner]
    rfl
  let applied := replacement.apply tables renames.injective
  have same : Renames replacement tables applied :=
    ⟨renames.injective, .refl _, .refl _, .refl _, .refl _, .refl _, .refl _, .refl _⟩
  rw [UserProfileRepository.profileByUserId_eq, UserProfileRepository.profileByUserId_eq]
  have selected := @UserProfileRepository.selected_alike applied.toDatabase userId _
    (same.determined stored determined) _ renames.userProfiles
  refine selected.trans ?_
  rw [UserProfileRepository.getByUserIdAsync_some, UserProfileRepository.getByUserIdAsync_some,
    Option.map_or]
  exact congrArg₂ Option.or
    (renamed (some service.id) (by rintro _ ⟨⟩; exact List.mem_map_of_mem stored))
    (renamed none (by rintro _ ⟨⟩))

/-- The destinations of a service stay its destinations. -/
theorem mem_serviceDestinations (renames : Renames replacement tables after) {service : Service}
    (stored : service ∈ tables.services) (each : ServiceDestination) :
    (each ∈ after.serviceDestinations ∧ each.serviceId = (replacement.service service).id) ↔
      ∃ destination ∈ tables.serviceDestinations, destination.serviceId = service.id ∧
        replacement.serviceDestination destination = each := by
  rw [renames.serviceDestinations.mem_iff, List.mem_map]
  have owner : ∀ destination ∈ tables.serviceDestinations,
      (replacement.serviceDestination destination).serviceId = (replacement.service service).id ↔
        destination.serviceId = service.id := fun destination member =>
    renames.injective.services.eq_iff (tables.serviceDestinations_service destination member)
      (List.mem_map_of_mem stored)
  constructor
  · rintro ⟨⟨destination, member, rfl⟩, owned⟩
    exact ⟨destination, member, (owner destination member).mp owned, rfl⟩
  · rintro ⟨destination, member, owned, rfl⟩
    exact ⟨⟨destination, member, rfl⟩, (owner destination member).mpr owned⟩

end Renames

/-- The gateway answers as before: the policies registered under a key are the old ones,
a caller is decided on as before under each, a user's keys for a service are the old
ones where the old rows determine them, and a service has its old destinations. -/
structure KeepsAnswers (replacement : Replacement) (tables after : LinkedDatabase) : Prop where
  apart : replacement.Injective tables
  policies : ∀ platform key policy, (key, policy) ∈ registrations platform after.toDatabase ↔
    ∃ original, (key, original) ∈ registrations platform tables.toDatabase ∧
      replacement.policy original = policy
  decisions : ∀ platform now context key policy,
    (key, policy) ∈ registrations platform tables.toDatabase →
      (Reference.of platform after.toDatabase now context).decision context (replacement.policy policy) =
        replacement.decision
          ((Reference.of platform tables.toDatabase now context).decision context policy)
  keys : ∀ userId, ∀ service ∈ tables.services,
    UserProfileRepository.Determined tables.userProfiles userId (some service.id) →
      after.profileByUserId userId (some (replacement.service service).id) =
        (tables.profileByUserId userId (some service.id)).map replacement.userProfile
  destinations : ∀ service ∈ tables.services, ∀ each,
    (each ∈ after.serviceDestinations ∧ each.serviceId = (replacement.service service).id) ↔
      ∃ destination ∈ tables.serviceDestinations, destination.serviceId = service.id ∧
        replacement.serviceDestination destination = each

end Answers

/-- Whatever identifiers are generated, and in whatever order the new rows are read, a
migration that commits keeps all answers. -/
theorem conversion_keeps_answers (generated : Generated) (tables migrated after : LinkedDatabase)
    (done : migrate generated tables = .ok migrated) (same : SameContent after migrated) :
    KeepsAnswers (replacement generated tables) tables after := by
  have renames := migrate_renames done same
  refine ⟨renames.injective, renames.registered_iff, ?_, ?_, ?_⟩
  · intro platform now context key policy registered
    have rows := PolicyResolver.registered_rows (PolicyResolver.registered_of_mem registered)
    exact renames.decision platform now context rows.endpoint
  · intro userId service stored determined
    exact renames.profileByUserId stored determined
  · intro service stored each
    exact renames.mem_serviceDestinations stored each

section Sample

/-- The tables of a client with a permission and keys, and a destination. -/
def grantedTables : LinkedDatabase :=
  { PolicyRefreshService.grantedRegistry true with
    userProfiles := [⟨Guid.numbered 5, "alice".toList, some (Guid.numbered 1), [], none, true⟩]
    userProfiles_id := by simp
    userProfiles_pair := by simp
    serviceDestinations :=
      [⟨Guid.numbered 6, Guid.numbered 1, "destination1".toList, "http://orders".toList, true⟩]
    serviceDestinations_id := by simp
    serviceDestinations_name := by simp
    services_product := by decide
    endpoints_service := by decide
    clientPermissions_client := by decide
    clientPermissions_endpoint := by decide
    userProfiles_service := by decide
    serviceDestinations_service := by decide }

/-- Every table gets the same identifiers. -/
def sampleGenerated : Generated :=
  let each := fun count => Guid.numbered (count + 7)
  ⟨each, each, each, each, each, each, each⟩

theorem sample_unique : Unique sampleGenerated grantedTables := by
  decide

theorem conversion_keeps_answers_granted :
    KeepsAnswers (replacement sampleGenerated grantedTables) grantedTables
      (migrated sampleGenerated grantedTables sample_unique) :=
  conversion_keeps_answers sampleGenerated grantedTables
    (migrated sampleGenerated grantedTables sample_unique) _ (dif_pos sample_unique)
    ⟨⟨.refl _, .refl _, .refl _⟩, .refl _, .refl _, .refl _, .refl _⟩

end Sample

end ApiGateway.IdentifierMigration
