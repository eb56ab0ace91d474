import ApiGateway.ConcurrentUpdates

/-!
# The rows that the admin handlers create

A create handler fills in what its request leaves out and sends one statement. The
columns that the statement does not list take what the server has for them: the
identifier is generated, two columns are stamped and one has a text of its own.
-/

namespace ApiGateway.Admin

open Effects Assignment

/-- What the server stores in a column that a statement does not list, by the
generated identifier and the time of day. -/
abbrev ServerValue := Guid → Nat → Option Value

/-- A table's columns: how a create handler sets them, what its statement puts in
place of null, and the columns that it does not list. -/
structure CreateHandler (Column : Type) where
  assignment : Column → Assignment
  replacesNull : Column → Option Value := fun _ => none
  unlisted : Column → Option ServerValue

namespace Assignment

/-- `request.X ?? value`. -/
def orElse (assignment : Assignment) (value : Value) : Assignment :=
  { assignment with whenAbsent := .constant (some value) }

/-- `request.X`. -/
def orNull (assignment : Assignment) : Assignment :=
  { assignment with whenAbsent := .constant none }

end Assignment

/-- `POST /services`. A list that is null serializes to the text for null. -/
def postService : CreateHandler ServiceColumn where
  assignment
    | .productId => (guid none).orElse (.guid (Guid.numbered 0))
    | .serviceName => (string none).orNull
    | .basePath => (string none).orNull
    | .version => (string none).orNull
    | .description => (string none).orNull
    | .ownerTeam => (string none).orNull
    | .isEnabled => (bool none).orElse (.boolean true)
    | .environment => (parseEnum environmentTypeNames).orElse (.member 0)
    | .clusterId => (string none).orNull
    | .destinations => strings.orElse (.json "null".toList)
    | .loadBalancingPolicy => (parseEnum loadBalancingPolicyNames).orElse (.member 0)
    | .healthCheckEnabled => (bool none).orElse (.boolean false)
    | .healthCheckPath => (string none).orNull
    | .healthCheckIntervalSeconds => (int 0).orElse (.integer 30)
    | .sessionAffinityEnabled => (bool none).orElse (.boolean false)
    | .sessionAffinityCookieName => (string none).orElse (.text "gateway_affinity".toList)
    | .sessionAffinityTtlSeconds => (int 0).orElse (.integer 1800)
    | .circuitBreakerEnabled => (bool none).orElse (.boolean false)
    | .circuitBreakerThreshold => (int 0).orElse (.integer 5)
    | .circuitBreakerDurationSeconds => (int 0).orElse (.integer 30)
    | .retryEnabled => (bool none).orElse (.boolean true)
    | .retryCount => (int 0).orElse (.integer 3)
    | .retryDelayMs => (int 0).orElse (.integer 100)
    | .connectionTimeoutSeconds => (int 0).orElse (.integer 30)
    | .requestTimeoutSeconds => (int 0).orElse (.integer 60)
    | .maxConnectionsPerDestination => (int 0).orElse (.integer 100)
    | .passiveHealthCheckEnabled => (bool none).orElse (.boolean true)
    | .passiveHealthFailureThreshold => (int 0).orElse (.integer 3)
    | .passiveHealthReactivationSeconds => (int 0).orElse (.integer 30)
    | .enableTracing => (bool none).orElse (.boolean true)
    | .enableMetrics => (bool none).orElse (.boolean true)
    | .logSampling => decimal.orElse (.real 0x3FF0000000000000)
    | .requiresJwt => (bool none).orElse (.boolean true)
    | .requiredScopes => strings.orNull
    | .allowedClients => strings.orNull
    | .cacheEnabled => (bool none).orElse (.boolean false)
    | .cacheTtlSeconds => (int 0).orElse (.integer 60)
    | .cacheKeyTemplate => (string none).orNull
    | .emitEvents => (bool none).orElse (.boolean false)
    | .topicPrefix => (string none).orNull
    | .eventSchemaVersion => (string none).orNull
    | .defaultCryptoAlgorithm => (parseEnum cryptoAlgorithmNames).orElse (.member 2)
    | .defaultKeySource => (parseEnum keySourceNames).orElse (.member 0)
    | .defaultIvSource => (parseEnum ivSourceNames).orElse (.member 0)
    | .defaultEncoding => (parseEnum encodingNames).orElse (.member 0)
    | .defaultRequireIv => (bool none).orElse (.boolean true)
    | _ => unset
  unlisted
    | .id => some (fun id _ => some (.guid id))
    | .createdAt => some (fun _ now => some (.instant now))
    | .updatedAt => some (fun _ now => some (.instant now))
    | _ => none

/-- `POST /endpoints`. -/
def postEndpoint : CreateHandler EndpointColumn where
  assignment
    | .serviceId => (guid none).orElse (.guid (Guid.numbered 0))
    | .endpointName => (string none).orNull
    | .httpMethod => (string none).orNull
    | .relativePath => (string none).orNull
    | .upstreamPathTemplate => (string none).orNull
    | .isEnabled => (bool none).orElse (.boolean true)
    | .timeoutMs => (int 0).orElse (.integer 30000)
    | .maxRetries => (int 0).orElse (.integer 0)
    | .idempotentOnly => (bool none).orElse (.boolean true)
    | .requestSizeLimitBytes => (int 0).orElse (.integer 1048576)
    | .responseSizeLimitBytes => (int 0).orElse (.integer 10485760)
    | .payloadExpectation => (parseEnum payloadExpectationNames).orElse (.member 0)
    | .headersToAdd => jsonElement.orNull
    | .headersToRemove => strings.orNull
    | .rateLimitPolicy => jsonElement.orNull
    | .cryptoAlgorithm => (parseEnumOrNull cryptoAlgorithmNames).orNull
    | .keySource => (parseEnumOrNull keySourceNames).orNull
    | .ivSource => (parseEnumOrNull ivSourceNames).orNull
    | .encoding => (parseEnumOrNull encodingNames).orNull
    | .requireIv => (bool none).orNull
    | .encryptRequest => (bool none).orElse (.boolean false)
    | .encryptResponse => (bool none).orElse (.boolean false)
    | _ => unset
  unlisted
    | .id => some (fun id _ => some (.guid id))
    | .createdAt => some (fun _ now => some (.instant now))
    | .updatedAt => some (fun _ now => some (.instant now))
    | _ => none

/-- `POST /service-destinations`. -/
def postServiceDestination : CreateHandler ServiceDestinationColumn where
  assignment
    | .serviceId => (guid none).orElse (.guid (Guid.numbered 0))
    | .destinationName => (string none).orNull
    | .address => (string none).orNull
    | .weight => (int 0).orElse (.integer 1)
    | .priority => (int 0).orElse (.integer 0)
    | .isEnabled => (bool none).orElse (.boolean true)
    | .metadata => jsonElement.orNull
    | _ => unset
  replacesNull
    | .weight => some (.integer 1)
    | .priority => some (.integer 0)
    | .isEnabled => some (.boolean true)
    | _ => none
  unlisted
    | .id => some (fun id _ => some (.guid id))
    | .healthStatus => some (fun _ _ => some (.text "Unknown".toList))
    | .lastHealthCheck => some (fun _ _ => none)
    | .createdAt => some (fun _ now => some (.instant now))
    | .updatedAt => some (fun _ now => some (.instant now))
    | _ => none

/-- The body of a create request. -/
abbrev CreateRequest {Column : Type} (handler : CreateHandler Column) :=
  (column : Column) → Option (handler.assignment column).property.Carrier

variable {Others : Type}

/-- A database that may refuse to insert a row as well. -/
structure InsertingPostgres (Others : Type) extends AdminPostgres Others where
  refusesInsert : (table : AdminTable) → Guid → Row table → Tables Others → Option Fault

section Create

variable {table : AdminTable} (handler : CreateHandler table.Column)

/-- What the statement inserts in the columns that it lists. -/
def inserted (conversions : Conversions) (request : CreateRequest handler) : Row table := fun column =>
  ((handler.assignment column).sent conversions (request column) none).or (handler.replacesNull column)

/-- The row under a generated identifier. -/
def createdRow (postgres : Postgres Others) (conversions : Conversions) (id : Guid)
    (request : CreateRequest handler) : Row table := fun column =>
  match handler.unlisted column with
  | some stored => stored id postgres.currentTimestamp
  | none => (inserted handler conversions request column).map (postgres.convert table column)

/-- The statement of a creation and the row it returns. An identifier that is taken
violates the primary key. -/
def createAsync (postgres : InsertingPostgres Others) (conversions : Conversions) (id : Guid)
    (request : CreateRequest handler) : Statement Others (Row table) := do
  let row := createdRow handler postgres.toPostgres conversions id request
  let tables ← Effect.gets (fun tables : Tables Others => tables)
  match postgres.refusesInsert table id row tables with
  | some fault => Effect.fail fault
  | none =>
    match tables.rows table id with
    | some _ => Effect.fail ⟨"23505: duplicate key value violates unique constraint".toList⟩
    | none => do
      Effect.update (fun tables => tables.setRow id row)
      pure row

/-- The database carries out a creation. -/
def Creates (postgres : InsertingPostgres Others) (conversions : Conversions) (id : Guid)
    (request : CreateRequest handler) (tables : Tables Others) : Prop :=
  postgres.refusesInsert table id (createdRow handler postgres.toPostgres conversions id request)
      tables = none ∧ tables.rows table id = none

variable {handler} {postgres : InsertingPostgres Others} {conversions : Conversions} {id : Guid}
  {request : CreateRequest handler} {tables : Tables Others}

theorem createAsync_run (creates : Creates handler postgres conversions id request tables) :
    (createAsync handler postgres conversions id request tables).2 =
      tables.setRow id (createdRow handler postgres.toPostgres conversions id request) := by
  rw [createAsync, Effect.bind_ok (Effect.gets_run _ _), creates.1]
  dsimp only
  rw [creates.2]
  rfl

/-- A creation that is not carried out changes nothing. -/
theorem createAsync_refused (refuses : ¬ Creates handler postgres conversions id request tables) :
    (createAsync handler postgres conversions id request tables).2 = tables := by
  rw [createAsync, Effect.bind_ok (Effect.gets_run _ _)]
  cases refused : postgres.refusesInsert table id
      (createdRow handler postgres.toPostgres conversions id request) tables with
  | some fault => rfl
  | none =>
    dsimp only
    cases taken : tables.rows table id with
    | some row => rfl
    | none => exact absurd ⟨refused, taken⟩ refuses

end Create

/-- A database that refuses nothing. -/
def lenientInserting : InsertingPostgres Unit :=
  { lenientAdmin with refusesInsert := fun _ _ _ _ => none }

end ApiGateway.Admin
