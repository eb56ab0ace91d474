import ApiGateway.Entities
import ApiGateway.Library.Effects

/-!
# What the gateway is given

The platform supplies case mapping, JSON reading and text encodings. A request
arrives with a principal that authentication has already established. The
services of the gateway are interfaces over an arbitrary state: each call may
change the state and may end with an exception, so every mix of answers and
failures of a call is an instance.
-/

namespace ApiGateway

open Effects

/-- An exception by its message. -/
structure Fault where
  message : Text
deriving DecidableEq

/-- An asynchronous call, run to its end. -/
abbrev Task (σ α : Type) := Effect Fault σ α

abbrev Bytes := List UInt8

/-- A JSON value. Members of an object keep their order and may repeat a name. -/
inductive JsonElement where
  | null
  | boolean (value : Bool)
  | number (text : Text)
  | string (value : Text)
  | array (items : List JsonElement)
  | object (members : List (Text × JsonElement))

/-- The parts of the platform's libraries that the gateway calls. Encoding a text
that is not empty yields bytes. A request's body is read as UTF-8; a response's
content by the charset of its content type, without one by its byte order mark or
else as UTF-8, and a charset that is not known throws. -/
structure Platform where
  caseMap : CaseMap
  deserializeStrings : Text → Except Fault (Option (List NullableText))
  deserializeStringMap : Text → Except Fault (Option (List (Text × NullableText)))
  parseJson : Text → Except Fault JsonElement
  readText : Bytes → Text
  readContent : (charset : Option Text) → Bytes → Except Fault Text
  getBytes : Text → Bytes
  getBytes_ne_nil : ∀ text, text ≠ [] → getBytes text ≠ []
  quoteJson : Text → Text

section PlainPlatform

/-- The text between two quotes. -/
def unquote (piece : Text) : Option Text :=
  if 2 ≤ piece.length ∧ piece.head? = some '"' ∧ piece.getLast? = some '"' then
    some piece.tail.dropLast
  else none

/-- A JSON array of texts written without spaces, escapes or commas in a text. -/
def plainStrings (text : Text) : Except Fault (Option (List NullableText)) :=
  if text = "null".toList then .ok none
  else if text = "[]".toList then .ok (some [])
  else if text.head? = some '[' ∧ text.getLast? = some ']' then
    match (Text.split ',' text.tail.dropLast).mapM unquote with
    | some items => .ok (some (items.map some))
    | none => .error ⟨"JsonException".toList⟩
  else .error ⟨"JsonException".toList⟩

/-- A member that is a text, written without spaces, escapes or colons in a text. -/
def plainMember (member : Text) : Option (Text × NullableText) :=
  match (Text.split ':' member).mapM unquote with
  | some [name, value] => some (name, some value)
  | _ => none

/-- A JSON object of texts, written so and without commas in a text. -/
def plainStringMap (text : Text) : Except Fault (Option (List (Text × NullableText))) :=
  if text = "null".toList then .ok none
  else if text = "\x7b\x7d".toList then .ok (some [])
  else if text.head? = some '{' ∧ text.getLast? = some '}' then
    match (Text.split ',' text.tail.dropLast).mapM plainMember with
    | some members => .ok (some members)
    | none => .error ⟨"JsonException".toList⟩
  else .error ⟨"JsonException".toList⟩

/-- A JSON text, or an object with one member that is a text, written so. -/
def plainJson (text : Text) : Except Fault JsonElement :=
  match unquote text with
  | some value => .ok (.string value)
  | none =>
    if text.head? = some '{' ∧ text.getLast? = some '}' then
      match (Text.split ':' text.tail.dropLast).mapM unquote with
      | some [name, value] => .ok (.object [(name, .string value)])
      | _ => .error ⟨"JsonException".toList⟩
    else .error ⟨"JsonException".toList⟩

/-- The text of ASCII bytes. -/
def plainText (bytes : Bytes) : Text := bytes.map (fun byte => Char.ofNat byte.toNat)

/-- Read by a charset in which ASCII bytes are ASCII text, or without one. -/
def plainContent (reader : Bytes → Text) (charset : Option Text) (content : Bytes) :
    Except Fault Text :=
  if charset.all (fun name => name = "utf-8".toList ∨ name = "us-ascii".toList) then
    .ok (reader content)
  else .error ⟨"InvalidOperationException".toList⟩

/-- A platform for ASCII texts and for JSON written without spaces or escapes. -/
def plainPlatform : Platform where
  caseMap := asciiCase
  deserializeStrings := plainStrings
  deserializeStringMap := plainStringMap
  parseJson := plainJson
  readText := plainText
  readContent := plainContent plainText
  getBytes := fun text => text.map (fun character => UInt8.ofNat character.toNat)
  getBytes_ne_nil := by simp
  quoteJson := fun text => '"' :: text ++ ['"']

end PlainPlatform

structure Identity where
  isAuthenticated : Bool
deriving DecidableEq

structure Claim where
  type : Text
  value : Text
deriving DecidableEq

/-- The authenticated or anonymous caller. Without an identity there are no claims. -/
structure Principal where
  identity : Option Identity
  claims : List Claim
  anonymous : identity = none → claims = []

/-- The value of the first claim of a type; claim types ignore case. -/
def Principal.findFirst (caseMap : CaseMap) (user : Principal) (type : Text) : Option Text :=
  (user.claims.find? (fun claim => Text.equalsIgnoreCase caseMap claim.type type)).map Claim.value

/-- The caller's client id: the subject claim, else the client id claim. -/
def Principal.clientId (caseMap : CaseMap) (user : Principal) : Option Text :=
  (user.findFirst caseMap "sub".toList).or (user.findFirst caseMap "client_id".toList)

/-- The caller has an identity and that identity is authenticated. -/
def Principal.isAuthenticated (user : Principal) : Bool :=
  user.identity.any Identity.isAuthenticated

/-- An authenticated caller with a subject claim. -/
def Principal.subject (clientId : Text) : Principal where
  identity := some ⟨true⟩
  claims := [⟨"sub".toList, clientId⟩]
  anonymous := by simp

/-- A caller without a token. -/
def Principal.nobody : Principal where
  identity := none
  claims := []
  anonymous := fun _ => rfl

/-- The request body before, while and after a stage has read it. -/
inductive RequestBody where
  | incoming (bytes : Bytes)
  | drained
  | replaced (bytes : Bytes)
deriving DecidableEq

/-- One request and its connection. -/
structure HttpContext where
  pathValue : Option Text
  method : Text
  user : Principal
  traceIdentifier : Text
  remoteIpAddress : Option Text
  body : RequestBody
  contentLength : Option Nat
  contentType : Option Text

/-- The request path; an absent one reads as empty. -/
def HttpContext.path (context : HttpContext) : Text := context.pathValue.getD []

/-- A request with a path, a method and a body. -/
def HttpContext.request (user : Principal) (path method : Text) (body : Bytes) : HttpContext where
  pathValue := some path
  method := method
  user := user
  traceIdentifier := "trace".toList
  remoteIpAddress := none
  body := .incoming body
  contentLength := some body.length
  contentType := none

@[simp] theorem HttpContext.request_path (user : Principal) (path method : Text) (body : Bytes) :
    (HttpContext.request user path method body).path = path := rfl

section Services

variable (σ : Type)

structure IPolicyResolver where
  resolvePolicyAsync : Text → Text → Task σ (Option EndpointPolicy)

structure IClientRepository where
  getByClientIdAsync : Text → Task σ (Option Client)
  updateLastAccessAsync : Guid → σ → σ

structure IClientPermissionRepository where
  getAuthorizedEndpointIdsAsync : Guid → Task σ (List Guid)

structure IUserProfileRepository where
  getByUserIdAsync : Text → Option Guid → Task σ (Option UserProfile)

/-- Lifetimes are in seconds. -/
structure IPolicyCache where
  getClientAsync : Text → Task σ (Option Client)
  setClientAsync : Text → Client → Nat → Task σ Unit
  getClientPermissionsAsync : Guid → Task σ (Option (List Guid))
  setClientPermissionsAsync : Guid → List Guid → Nat → Task σ Unit
  getUserProfileAsync : Text → Option Guid → Task σ (Option UserProfile)
  setUserProfileAsync : Text → Option Guid → UserProfile → Nat → Task σ Unit

end Services

/-- Payload, algorithm, key, initialisation vector and encoding. -/
structure ICryptoService where
  decrypt : Text → CryptoAlgorithm → Text → Option Text → Encoding → Except Fault Bytes
  encrypt : Bytes → CryptoAlgorithm → Text → Option Text → Encoding → Except Fault Text

/-- Without an algorithm payloads are passed as text; other algorithms are given
keys that do not decode. -/
def plainCrypto : ICryptoService where
  decrypt := fun payload algorithm _ _ _ =>
    if algorithm = .NONE then .ok (plainPlatform.getBytes payload)
    else .error ⟨"FormatException".toList⟩
  encrypt := fun plain algorithm _ _ _ =>
    if algorithm = .NONE then .ok (plainPlatform.readText plain)
    else .error ⟨"FormatException".toList⟩

/-- One hour, the lifetime of every entry the gateway caches. -/
def oneHour : Nat := 3600

theorem oneHour_pos : 0 < oneHour := by decide

end ApiGateway
