import ApiGateway.Interfaces

/-!
# The rows that the admin handlers update

A column holds a value or null. Each column of an update handler is given by one
line of the handler's object initializer: the type of the request's property,
the value asked for, and what is sent when the property is absent, which is the
loaded entity's property or a constant.

A null column leaves the entity's property at its initial value, so a property
that cannot be null reads as something else. Columns that a handler does not set
have no property in its request.
-/

namespace ApiGateway.Admin

/-- A value in a column. Enumerations are numbers and reals are their bits. -/
inductive Value where
  | text (value : Text)
  | guid (value : Guid)
  | integer (value : Int)
  | boolean (value : Bool)
  | real (bits : UInt64)
  | instant (ticks : Nat)
  | member (number : Int)
  | json (text : Text)
deriving DecidableEq

/-- A number with a decimal point. -/
structure Decimal where
  mantissa : Int
  scale : Nat
deriving DecidableEq

/-- The types of the properties of update requests. -/
inductive PropertyType where
  | absent
  | string
  | guid
  | int
  | bool
  | decimal
  | dateTime
  | strings
  | jsonElement

/-- Values of a property. A JSON element is kept as its raw text. -/
def PropertyType.Carrier : PropertyType → Type
  | .absent => Empty
  | .string => Text
  | .guid => Guid
  | .int => Int
  | .bool => Bool
  | .decimal => Decimal
  | .dateTime => Nat
  | .strings => List NullableText
  | .jsonElement => Text

/-- The platform's conversions that the handlers use. -/
structure Conversions where
  caseMap : CaseMap
  serialize : List NullableText → Text
  toDouble : Decimal → UInt64

section Enumerations

/-- White space that may follow a number. -/
def followsNumber (character : Char) : Bool :=
  (9 ≤ character.toNat && character.toNat ≤ 13) || character == ' '

/-- A whole number in 32 bits, with an optional sign; white space and then null
characters may follow. -/
def parseInt32 (text : Text) : Option Int :=
  let unsigned := if text.head? = some '-' ∨ text.head? = some '+' then text.tail else text
  let digits := unsigned.takeWhile Char.isDigit
  let rest := (unsigned.dropWhile Char.isDigit).dropWhile followsNumber
  if digits = [] ∨ ¬ rest.all (· == Char.ofNat 0) then none
  else
    let magnitude : Int := digits.foldl (fun number digit => 10 * number + (digit.toNat - 48)) 0
    let number := if text.head? = some '-' then -magnitude else magnitude
    if -2147483648 ≤ number ∧ number ≤ 2147483647 then some number else none

/-- Names separated by commas, without regard to case; their numbers are joined. -/
def parseNames (caseMap : CaseMap) (names : List Text) (text : Text) : Option Int :=
  ((Text.split ',' text).mapM (fun piece =>
    names.findIdx? (fun name => Text.equalsIgnoreCase caseMap name (Text.trim piece)))).map
      (fun numbers => ((numbers.foldl (fun joined number => joined ||| number) 0 : Nat) : Int))

/-- A member of an enumeration by number or by names. -/
def tryParse (caseMap : CaseMap) (names : List Text) (text : Text) : Option Int :=
  match text.dropWhile isWhiteSpace with
  | [] => none
  | first :: rest =>
    if first.isDigit || first == '-' || first == '+' then parseInt32 (first :: rest)
    else parseNames caseMap names (first :: rest)

def cryptoAlgorithmNames : List Text :=
  ["NONE", "AES_128_CBC", "AES_256_GCM", "AES_256_CBC_HMAC"].map String.toList

def keySourceNames : List Text :=
  ["UserProfileKey", "ServiceKey", "EndpointKey"].map String.toList

def ivSourceNames : List Text := ["UserProfileIv", "ServiceIv", "EndpointIv"].map String.toList

def encodingNames : List Text := ["Base64", "Hex"].map String.toList

def loadBalancingPolicyNames : List Text :=
  ["RoundRobin", "LeastRequests", "Random", "PowerOfTwoChoices"].map String.toList

def environmentTypeNames : List Text := ["Dev", "UAT", "Prod"].map String.toList

def payloadExpectationNames : List Text := ["Encrypted", "Decrypted", "Plain"].map String.toList

end Enumerations

/-- What a handler sends for a column whose property is absent: the loaded
entity's property, with its initial value for null, or a constant. -/
inductive WhenAbsent where
  | existing (initial : Option Value)
  | constant (value : Option Value)

/-- What it sends for a property that is present and not valid. -/
inductive WhenInvalid where
  | existing
  | null

/-- One column of an update handler. -/
structure Assignment where
  property : PropertyType
  requested : Conversions → property.Carrier → Option Value
  whenAbsent : WhenAbsent
  whenInvalid : WhenInvalid := .existing

namespace Assignment

/-- The column is not among those set. -/
def unset : Assignment where
  property := .absent
  requested := fun _ value => nomatch value
  whenAbsent := .constant none

/-- `request.X ?? existing.X`, by the type of the property. -/
def string (initial : Option Value) : Assignment :=
  ⟨.string, fun _ value => some (.text value), .existing initial, .existing⟩

def guid (initial : Option Value) : Assignment :=
  ⟨.guid, fun _ value => some (.guid value), .existing initial, .existing⟩

def int (initial : Int) : Assignment :=
  ⟨.int, fun _ value => some (.integer value), .existing (some (.integer initial)), .existing⟩

def bool (initial : Option Value) : Assignment :=
  ⟨.bool, fun _ value => some (.boolean value), .existing initial, .existing⟩

def dateTime : Assignment :=
  ⟨.dateTime, fun _ value => some (.instant value), .existing none, .existing⟩

/-- The serialized list, else the existing text. -/
def strings : Assignment :=
  ⟨.strings, fun conversions value => some (.json (conversions.serialize value)), .existing none,
    .existing⟩

/-- The element's raw text, else the existing text. -/
def jsonElement : Assignment :=
  ⟨.jsonElement, fun _ value => some (.json value), .existing none, .existing⟩

def decimal : Assignment :=
  ⟨.decimal, fun conversions value => some (.real (conversions.toDouble value)),
    .existing (some (.real 0)), .existing⟩

/-- A text that is parsed with the existing member as the fallback. -/
def parseEnum (names : List Text) : Assignment :=
  ⟨.string, fun conversions value => (tryParse conversions.caseMap names value).map Value.member,
    .existing (some (.member 0)), .existing⟩

/-- A text that is parsed to a member or to null. -/
def parseEnumOrNull (names : List Text) : Assignment :=
  ⟨.string, fun conversions value => (tryParse conversions.caseMap names value).map Value.member,
    .existing none, .null⟩

end Assignment

open Assignment

/-- A table's columns, how its update handler sets them, and the column that the
table's trigger stamps on each update. -/
structure UpdateHandler (Column : Type) where
  assignment : Column → Assignment
  loadsExisting : Bool := true
  stamped : Column → Bool

inductive ProductColumn where
  | id
  | name
  | description
  | ownerTeam
  | isEnabled
  | createdAt
  | updatedAt
deriving DecidableEq

/-- `PUT /products/{id}`. -/
def putProduct : UpdateHandler ProductColumn where
  assignment
    | .name => string none
    | .description => string none
    | .ownerTeam => string none
    | .isEnabled => bool (some (.boolean false))
    | _ => unset
  stamped := (· = .updatedAt)

inductive ServiceColumn where
  | id
  | productId
  | serviceName
  | basePath
  | version
  | description
  | ownerTeam
  | isEnabled
  | environment
  | clusterId
  | destinations
  | loadBalancingPolicy
  | healthCheckEnabled
  | healthCheckPath
  | healthCheckIntervalSeconds
  | sessionAffinityEnabled
  | sessionAffinityCookieName
  | sessionAffinityTtlSeconds
  | circuitBreakerEnabled
  | circuitBreakerThreshold
  | circuitBreakerDurationSeconds
  | retryEnabled
  | retryCount
  | retryDelayMs
  | connectionTimeoutSeconds
  | requestTimeoutSeconds
  | maxConnectionsPerDestination
  | passiveHealthCheckEnabled
  | passiveHealthFailureThreshold
  | passiveHealthReactivationSeconds
  | enableTracing
  | enableMetrics
  | logSampling
  | requiresJwt
  | requiredScopes
  | allowedClients
  | cacheEnabled
  | cacheTtlSeconds
  | cacheKeyTemplate
  | emitEvents
  | topicPrefix
  | eventSchemaVersion
  | defaultCryptoAlgorithm
  | defaultKeySource
  | defaultIvSource
  | defaultEncoding
  | defaultRequireIv
  | createdAt
  | updatedAt
deriving DecidableEq

/-- `PUT /services/{id}`. -/
def putService : UpdateHandler ServiceColumn where
  assignment
    | .productId => guid (some (.guid (Guid.numbered 0)))
    | .serviceName => string none
    | .basePath => string none
    | .version => string none
    | .description => string none
    | .ownerTeam => string none
    | .isEnabled => bool (some (.boolean false))
    | .environment => parseEnum environmentTypeNames
    | .clusterId => string none
    | .destinations => strings
    | .loadBalancingPolicy => parseEnum loadBalancingPolicyNames
    | .healthCheckEnabled => bool (some (.boolean false))
    | .healthCheckPath => string none
    | .healthCheckIntervalSeconds => int 0
    | .sessionAffinityEnabled => bool (some (.boolean false))
    | .sessionAffinityCookieName => string (some (.text "gateway_affinity".toList))
    | .sessionAffinityTtlSeconds => int 1800
    | .circuitBreakerEnabled => bool (some (.boolean false))
    | .circuitBreakerThreshold => int 5
    | .circuitBreakerDurationSeconds => int 30
    | .retryEnabled => bool (some (.boolean true))
    | .retryCount => int 3
    | .retryDelayMs => int 100
    | .connectionTimeoutSeconds => int 30
    | .requestTimeoutSeconds => int 60
    | .maxConnectionsPerDestination => int 100
    | .passiveHealthCheckEnabled => bool (some (.boolean true))
    | .passiveHealthFailureThreshold => int 3
    | .passiveHealthReactivationSeconds => int 30
    | .enableTracing => bool (some (.boolean false))
    | .enableMetrics => bool (some (.boolean false))
    | .logSampling => decimal
    | .requiresJwt => bool (some (.boolean false))
    | .requiredScopes => strings
    | .allowedClients => strings
    | .cacheEnabled => bool (some (.boolean false))
    | .cacheTtlSeconds => int 0
    | .cacheKeyTemplate => string none
    | .emitEvents => bool (some (.boolean false))
    | .topicPrefix => string none
    | .eventSchemaVersion => string none
    | .defaultCryptoAlgorithm => parseEnum cryptoAlgorithmNames
    | .defaultKeySource => parseEnum keySourceNames
    | .defaultIvSource => parseEnum ivSourceNames
    | .defaultEncoding => parseEnum encodingNames
    | .defaultRequireIv => bool (some (.boolean false))
    | _ => unset
  stamped := (· = .updatedAt)

inductive ServiceDestinationColumn where
  | id
  | serviceId
  | destinationName
  | address
  | weight
  | priority
  | isEnabled
  | healthStatus
  | lastHealthCheck
  | metadata
  | createdAt
  | updatedAt
deriving DecidableEq

/-- `PUT /service-destinations/{id}`. The table has no trigger. -/
def putServiceDestination : UpdateHandler ServiceDestinationColumn where
  assignment
    | .serviceId => guid (some (.guid (Guid.numbered 0)))
    | .destinationName => string none
    | .address => string none
    | .weight => int 1
    | .priority => int 0
    | .isEnabled => bool (some (.boolean true))
    | .metadata => jsonElement
    | _ => unset
  stamped := fun _ => false

inductive EndpointColumn where
  | id
  | serviceId
  | endpointName
  | httpMethod
  | relativePath
  | upstreamPathTemplate
  | isEnabled
  | timeoutMs
  | maxRetries
  | idempotentOnly
  | requestSizeLimitBytes
  | responseSizeLimitBytes
  | payloadExpectation
  | headersToAdd
  | headersToRemove
  | rateLimitPolicy
  | cryptoAlgorithm
  | keySource
  | ivSource
  | encoding
  | requireIv
  | encryptRequest
  | encryptResponse
  | createdAt
  | updatedAt
deriving DecidableEq

/-- `PUT /endpoints/{id}`. -/
def putEndpoint : UpdateHandler EndpointColumn where
  assignment
    | .serviceId => guid (some (.guid (Guid.numbered 0)))
    | .endpointName => string none
    | .httpMethod => string none
    | .relativePath => string none
    | .upstreamPathTemplate => string none
    | .isEnabled => bool (some (.boolean false))
    | .timeoutMs => int 0
    | .maxRetries => int 0
    | .idempotentOnly => bool (some (.boolean false))
    | .requestSizeLimitBytes => int 0
    | .responseSizeLimitBytes => int 0
    | .payloadExpectation => parseEnum payloadExpectationNames
    | .headersToAdd => jsonElement
    | .headersToRemove => strings
    | .rateLimitPolicy => jsonElement
    | .cryptoAlgorithm => parseEnumOrNull cryptoAlgorithmNames
    | .keySource => parseEnumOrNull keySourceNames
    | .ivSource => parseEnumOrNull ivSourceNames
    | .encoding => parseEnumOrNull encodingNames
    | .requireIv => bool none
    | .encryptRequest => bool (some (.boolean false))
    | .encryptResponse => bool (some (.boolean false))
    | _ => unset
  stamped := (· = .updatedAt)

inductive ClientColumn where
  | id
  | clientId
  | clientName
  | clientSecret
  | isEnabled
  | allowedIpAddresses
  | createdAt
  | updatedAt
  | lastAccessedAt
deriving DecidableEq

/-- `PUT /clients/{id}`. -/
def putClient : UpdateHandler ClientColumn where
  assignment
    | .clientId => string none
    | .clientName => string none
    | .clientSecret => string none
    | .isEnabled => bool (some (.boolean false))
    | .allowedIpAddresses => strings
    | _ => unset
  stamped := (· = .updatedAt)

inductive ClientPermissionColumn where
  | id
  | clientId
  | endpointId
  | isEnabled
  | createdAt
  | expiresAt
deriving DecidableEq

/-- `PUT /client-permissions/{id}`. Client and endpoint are loaded and not
written. -/
def putClientPermission : UpdateHandler ClientPermissionColumn where
  assignment
    | .isEnabled => bool (some (.boolean false))
    | .expiresAt => dateTime
    | _ => unset
  stamped := fun _ => false

inductive UserProfileColumn where
  | id
  | userId
  | serviceId
  | encryptionKey
  | encryptionIv
  | isEnabled
  | createdAt
  | updatedAt
deriving DecidableEq

/-- `PUT /user-profiles/{id}`. -/
def putUserProfile : UpdateHandler UserProfileColumn where
  assignment
    | .userId => string none
    | .serviceId => guid none
    | .encryptionKey => string none
    | .encryptionIv => string none
    | .isEnabled => bool (some (.boolean false))
    | _ => unset
  stamped := (· = .updatedAt)

inductive OrgEndpointApprovalColumn where
  | id
  | tenantId
  | endpointId
  | approvedBy
  | approvedAt
  | adminIpAllowlist
  | adminIpEnforced
  | createdAt
deriving DecidableEq

/-- `PUT /org-endpoint-approvals/{id}`. This handler does not load the row:
an absent list is sent as null and an absent switch as false. -/
def putOrgEndpointApproval : UpdateHandler OrgEndpointApprovalColumn where
  assignment
    | .adminIpAllowlist => { strings with whenAbsent := .constant none }
    | .adminIpEnforced => { bool none with whenAbsent := .constant (some (.boolean false)) }
    | _ => unset
  loadsExisting := false
  stamped := fun _ => false

/-- The tables with an update handler. -/
inductive AdminTable where
  | products
  | services
  | serviceDestinations
  | endpoints
  | clients
  | clientPermissions
  | userProfiles
  | orgEndpointApprovals
deriving DecidableEq

namespace AdminTable

def Column : AdminTable → Type
  | .products => ProductColumn
  | .services => ServiceColumn
  | .serviceDestinations => ServiceDestinationColumn
  | .endpoints => EndpointColumn
  | .clients => ClientColumn
  | .clientPermissions => ClientPermissionColumn
  | .userProfiles => UserProfileColumn
  | .orgEndpointApprovals => OrgEndpointApprovalColumn

/-- The table's update handler. -/
def put : (table : AdminTable) → UpdateHandler table.Column
  | .products => putProduct
  | .services => putService
  | .serviceDestinations => putServiceDestination
  | .endpoints => putEndpoint
  | .clients => putClient
  | .clientPermissions => putClientPermission
  | .userProfiles => putUserProfile
  | .orgEndpointApprovals => putOrgEndpointApproval

end AdminTable

end ApiGateway.Admin
