import ApiGateway.Text

/-!
# Registry rows and runtime policies

Rows of the registry tables and the policy assembled from them. A row keeps the
columns that some modelled function reads or copies. Nullable columns are
options. An identifier is the canonical lower-case text of its 128 bits, so a
value that is not such a text cannot be built.
-/

namespace ApiGateway

/-- Hyphenated lower-case hexadecimal text in groups of 8, 4, 4, 4 and 12. -/
def isGuidText (text : Text) : Bool :=
  (Text.split '-' text).map List.length == [8, 4, 4, 4, 12] &&
    text.all (fun character => character.isDigit || ('a' ≤ character && character ≤ 'f') ||
      character == '-')

/-- A 128-bit identifier by its canonical text. -/
structure Guid where
  text : Text
  canonical : isGuidText text = true
deriving DecidableEq

theorem Guid.ext_text {left right : Guid} (same : left.text = right.text) : left = right := by
  cases left
  cases right
  cases same
  rfl

/-- Canonical texts have digits, letters up to f and hyphens only. -/
theorem Guid.text_chars (id : Guid) {character : Char} (member : character ∈ id.text) :
    (character.isDigit || ('a' ≤ character && character ≤ 'f') || character == '-') = true :=
  List.all_eq_true.mp ((Bool.and_eq_true _ _).mp id.canonical).2 character member

/-- The canonical text whose last digit is given and whose other digits are zero. -/
theorem isGuidText_numbered (digit : Fin 10) :
    isGuidText ("00000000-0000-0000-0000-00000000000".toList ++ [Char.ofNat (48 + digit.val)]) =
      true := by
  revert digit
  decide

/-- The identifier with the last digit of a number and zeros elsewhere. -/
def Guid.numbered (number : Nat) : Guid where
  text := "00000000-0000-0000-0000-00000000000".toList ++ [Char.ofNat (48 + number % 10)]
  canonical := isGuidText_numbered ⟨number % 10, Nat.mod_lt number (Nat.succ_pos 9)⟩

inductive CryptoAlgorithm where
  | NONE
  | AES_128_CBC
  | AES_256_GCM
  | AES_256_CBC_HMAC
deriving DecidableEq

inductive KeySource where
  | UserProfileKey
  | ServiceKey
  | EndpointKey
deriving DecidableEq

inductive IvSource where
  | UserProfileIv
  | ServiceIv
  | EndpointIv
deriving DecidableEq

inductive Encoding where
  | Base64
  | Hex
deriving DecidableEq

inductive LoadBalancingPolicy where
  | RoundRobin
  | LeastRequests
  | Random
  | PowerOfTwoChoices
deriving DecidableEq

inductive PayloadExpectation where
  | Encrypted
  | Decrypted
  | Plain
deriving DecidableEq

structure Product where
  id : Guid
  name : Text
  isEnabled : Bool
deriving DecidableEq

/-- A service row. Destinations, scopes and clients are JSON texts. -/
structure Service where
  id : Guid
  productId : Guid
  serviceName : Text
  basePath : Text
  version : Text
  isEnabled : Bool
  clusterId : Text
  destinations : Text
  loadBalancingPolicy : LoadBalancingPolicy := .RoundRobin
  healthCheckEnabled : Bool := false
  healthCheckPath : Option Text := none
  healthCheckIntervalSeconds : Int := 30
  sessionAffinityEnabled : Bool := false
  sessionAffinityCookieName : Text := "gateway_affinity".toList
  sessionAffinityTtlSeconds : Int := 1800
  circuitBreakerEnabled : Bool := false
  circuitBreakerThreshold : Int := 5
  circuitBreakerDurationSeconds : Int := 30
  retryEnabled : Bool := true
  retryCount : Int := 3
  retryDelayMs : Int := 100
  requestTimeoutSeconds : Int := 60
  passiveHealthCheckEnabled : Bool := true
  passiveHealthReactivationSeconds : Int := 30
  requiresJwt : Bool := true
  requiredScopes : Option Text := none
  allowedClients : Option Text := none
  emitEvents : Bool := false
  topicPrefix : Option Text := none
  defaultCryptoAlgorithm : CryptoAlgorithm := .AES_256_GCM
  defaultKeySource : KeySource := .UserProfileKey
  defaultIvSource : IvSource := .UserProfileIv
  defaultEncoding : Encoding := .Base64
  defaultRequireIv : Bool := true
deriving DecidableEq

/-- An endpoint row. The method column may name several, separated by commas. -/
structure Endpoint where
  id : Guid
  serviceId : Guid
  endpointName : Text
  httpMethod : Text
  relativePath : Text
  upstreamPathTemplate : Option Text := none
  isEnabled : Bool
  timeoutMs : Int := 30000
  maxRetries : Int := 0
  payloadExpectation : PayloadExpectation := .Encrypted
  headersToAdd : Option Text := none
  headersToRemove : Option Text := none
  cryptoAlgorithm : Option CryptoAlgorithm := none
  keySource : Option KeySource := none
  ivSource : Option IvSource := none
  encoding : Option Encoding := none
  requireIv : Option Bool := none
  encryptRequest : Bool := false
  encryptResponse : Bool := false
deriving DecidableEq

/-- A client row. The allowed addresses are a JSON text. -/
structure Client where
  id : Guid
  clientId : Text
  isEnabled : Bool
  allowedIpAddresses : Option Text := none
deriving DecidableEq

structure ClientPermission where
  id : Guid
  clientId : Guid
  endpointId : Guid
  isEnabled : Bool
  expiresAt : Option Nat := none
deriving DecidableEq

/-- An enabled product. -/
def Product.sample : Product where
  id := Guid.numbered 0
  name := "shop".toList
  isEnabled := true

/-- An enabled service of the sample product with the column defaults. -/
def Service.sample (id : Nat) (serviceName basePath version clusterId destinations : Text) :
    Service where
  id := Guid.numbered id
  productId := Product.sample.id
  serviceName := serviceName
  basePath := basePath
  version := version
  isEnabled := true
  clusterId := clusterId
  destinations := destinations

/-- An enabled endpoint of a sample service with the column defaults. -/
def Endpoint.sample (id serviceId : Nat) (endpointName httpMethod relativePath : Text) :
    Endpoint where
  id := Guid.numbered id
  serviceId := Guid.numbered serviceId
  endpointName := endpointName
  httpMethod := httpMethod
  relativePath := relativePath
  isEnabled := true

/-- Keys of a user, for one service or, without one, for all. -/
structure UserProfile where
  id : Guid
  userId : Text
  serviceId : Option Guid
  encryptionKey : Text
  encryptionIv : Option Text
  isEnabled : Bool
deriving DecidableEq

/-- Crypto settings resolved for an endpoint. -/
structure CryptoConfig where
  algorithm : CryptoAlgorithm
  keySource : KeySource
  ivSource : IvSource
  encoding : Encoding
  requireIv : Bool
  payloadWrapperFieldName : Text := "data".toList
deriving DecidableEq

/-- A text that a JSON array or object may hold as null. -/
abbrev NullableText := Option Text

/-- Everything the gateway needs to serve one endpoint. -/
structure EndpointPolicy where
  endpoint : Endpoint
  service : Service
  product : Product
  cryptoConfig : CryptoConfig
  payloadExpectation : PayloadExpectation
  timeoutMs : Int
  maxRetries : Int
  requiresJwt : Bool
  requiredScopes : List NullableText
  allowedClients : List NullableText
  headersToAdd : List (Text × NullableText)
  headersToRemove : List NullableText
  emitEvents : Bool
  topicPrefix : Option Text
  encryptRequest : Bool
  encryptResponse : Bool
deriving DecidableEq

/-- The key under which a request looks up its policy. -/
structure RouteKey where
  path : Text
  method : Text

/-- Method, colon, path. -/
def RouteKey.toKey (key : RouteKey) : Text := key.method ++ ':' :: key.path

/-- The method is upper-cased; the path is taken literally. -/
def RouteKey.fromRequest (caseMap : CaseMap) (path method : Text) : RouteKey where
  path := path
  method := Text.toUpperInvariant caseMap method

end ApiGateway
