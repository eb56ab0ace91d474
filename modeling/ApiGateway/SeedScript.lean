import ApiGateway.SwaggerUrls
import ApiGateway.SwaggerNames
import ApiGateway.Library.Collapsing
import ApiGateway.Library.Substitution
import ApiGateway.Library.Templates

/-!
# The generated script

The import script fetches a Swagger document for each service and writes SQL that
inserts a product, the services and their endpoints. The names, paths and descriptions
come from the command line and the documents. They are quoted, put into fixed lines with
named fields or between fixed texts, and all lines are joined.

A quoted value is read back as it was whatever it holds, and a line is cut at its fields
before values are put in. So what stands outside of the literals depends on nothing but
how many endpoints each service has.
-/

namespace ApiGateway.SeedImport

open Urls Literals Templates

def swaggerUrls : List Text :=
  ["https://test-gateway.seabaas.co/gateway/customermanagement-smartadapter/swagger",
    "https://test-gateway.seabaas.co/gateway/seabaas-accountenquiries-smartadapter/swagger",
    "https://test-gateway.seabaas.co/gateway/seabaas-accountfundsmanagement-smartadapter/swagger",
    "https://test-gateway.seabaas.co/gateway/seabaas-accountmanagement-smartadapter/swagger",
    "https://test-gateway.seabaas.co/gateway/seabaas-accountopening-smartadapter/swagger",
    "https://test-gateway.seabaas.co/gateway/seabaas-centraljournalposting-smartadapter/swagger",
    "https://test-gateway.seabaas.co/gateway/seabaas-transactionenquiries-smartadapter/swagger"].map
      String.toList

def toSwaggerJsonUrl (url : Text) : Text :=
  url.rdropWhile (fun character => character == '/') ++ "/v1/swagger.json".toList

def quoteMark : Char := '\''

def sqlQuote (value : Text) : Text :=
  quoteMark :: (Substitution.replace id [quoteMark] [quoteMark, quoteMark] value ++ [quoteMark])

section Documents

/-- What the script reads of a document. -/
structure Document where
  title : Option Text
  version : Option Text
  servers : Option (List Server)
  paths : Option Paths

structure SeedService where
  serviceName : Text
  description : Text
  version : Text
  basePath : Text
  clusterId : Text
  destination : Text
  endpoints : List SeedEndpoint

def remove (part text : Text) : Text := Substitution.replace id part [] text

/-- The title without what all titles have in common, or else the fallback. -/
def pickServiceName (infoTitle fallback : Text) : Text :=
  let title := if infoTitle ≠ [] then infoTitle else fallback
  let title := Trimming.trim isSpace (remove "Middleware".toList title)
  let title := remove "SeaBaas.SmartAdapter.".toList title
  let title := remove "SeaBaas.SmartAdapter".toList title
  let title := remove "SeaBaas.".toList title
  let title := remove "SmartAdapter".toList title
  let title := Trimming.trim isSpace (Collapsing.collapse isSpace ' ' false title)
  if title ≠ [] then title else fallback

def readService (rules : AuthorityRules) (casing : Casing) (url : Text) (spec : Document) :
    Option SeedService := do
  let title := spec.title.getD []
  let parsed ← urlparse rules url
  let serviceName := pickServiceName title (slugify casing parsed.path)
  let basePath ← parseBasePath rules (toSwaggerJsonUrl url) spec.servers
  let destination ← parseDestination rules (toSwaggerJsonUrl url) spec.servers
  return {
    serviceName := serviceName
    description := if title ≠ [] then title else serviceName
    version := spec.version.getD "v1".toList
    basePath := basePath
    clusterId := slugify casing serviceName ++ "-cluster".toList
    destination := destination
    endpoints := buildEndpoints casing (spec.paths.getD Dictionary.empty) }

end Documents

section Json

/-- A code unit by four hexadecimal digits. -/
def escapeUnit (unit : Nat) : Text := '\\' :: 'u' :: (Nat.toDigits 16 unit).leftpad 4 '0'

/-- Printable ASCII characters stand for themselves, but for the quote and the
backslash. Characters beyond 16 bits are written as two code units. -/
def escapeCharacter (character : Char) : Text :=
  let code := character.toNat
  if character = '"' then ['\\', '"']
  else if character = '\\' then ['\\', '\\']
  else if character = '\n' then ['\\', 'n']
  else if character = '\r' then ['\\', 'r']
  else if character = '\t' then ['\\', 't']
  else if code = 8 then ['\\', 'b']
  else if code = 12 then ['\\', 'f']
  else if 0x20 ≤ code ∧ code ≤ 0x7E then [character]
  else if code < 0x10000 then escapeUnit code
  else
    let offset := code - 0x10000
    escapeUnit (0xD800 + offset / 1024) ++ escapeUnit (0xDC00 + offset % 1024)

def jsonString (value : Text) : Text := '"' :: (value.flatMap escapeCharacter ++ ['"'])

/-- A list of texts in JSON. -/
def jsonDumps (values : List Text) : Text :=
  '[' :: (", ".toList.intercalate (values.map jsonString) ++ [']'])

end Json

section Script

/-- The values of the command line. -/
structure Arguments where
  productName : Text
  productDescription : Text
  ownerTeam : Text
  environment : Text

def headerLines : List Text :=
  ["SET search_path TO \"SeaBaasAPIGateway-Core\";", "CREATE EXTENSION IF NOT EXISTS pgcrypto;", "",
    "INSERT INTO products (id, name, description, owner_team, is_enabled)",
    "VALUES (gen_random_uuid(), {name}, {desc}, {owner}, true)",
    "ON CONFLICT (name) DO UPDATE SET description = EXCLUDED.description, owner_team = EXCLUDED.owner_team;",
    ""].map String.toList

def headerFields (args : Arguments) : List (Text × Text) :=
  [("name".toList, sqlQuote args.productName),
    ("desc".toList, sqlQuote args.productDescription),
    ("owner".toList, sqlQuote args.ownerTeam)]

def serviceLinesPre : List Text :=
  ["WITH product AS (", "  SELECT id FROM products WHERE name = {name} LIMIT 1",
    "), upsert_service AS (", "  INSERT INTO services (",
    "    id, product_id, service_name, base_path, version, description, owner_team,",
    "    is_enabled, environment, cluster_id, destinations, load_balancing_policy,",
    "    health_check_enabled, health_check_path, health_check_interval_seconds,",
    "    enable_tracing, enable_metrics, log_sampling,", "    requires_jwt, required_scopes,",
    "    cache_enabled, cache_ttl_seconds,", "    emit_events, topic_prefix, event_schema_version,",
    "    default_crypto_algorithm, default_key_source, default_iv_source,",
    "    default_encoding, default_require_iv", "  )", "  SELECT", "    gen_random_uuid(),",
    "    product.id,", "    {service_name},", "    {base_path},", "    {version},",
    "    {description},", "    {owner},", "    true,", "    {environment},", "    {cluster_id},",
    "    {destinations}::jsonb,", "    'RoundRobin',", "    false, NULL, 30,",
    "    true, true, 1.0,", "    true, NULL,", "    false, 60,", "    false, NULL, NULL,",
    "    'AES_256_GCM', 'UserProfileKey', 'UserProfileIv',", "    'Base64', true", "  FROM product",
    "  ON CONFLICT (product_id, service_name, version) DO UPDATE SET",
    "    base_path = EXCLUDED.base_path,", "    description = EXCLUDED.description,",
    "    owner_team = EXCLUDED.owner_team,", "    environment = EXCLUDED.environment,",
    "    cluster_id = EXCLUDED.cluster_id,", "    destinations = EXCLUDED.destinations",
    "  RETURNING id", ")"].map String.toList

def serviceFields (args : Arguments) (service : SeedService) : List (Text × Text) :=
  [("name".toList, sqlQuote args.productName),
    ("owner".toList, sqlQuote args.ownerTeam),
    ("environment".toList, sqlQuote args.environment),
    ("service_name".toList, sqlQuote service.serviceName),
    ("base_path".toList, sqlQuote service.basePath),
    ("version".toList, sqlQuote service.version),
    ("description".toList, sqlQuote service.description),
    ("cluster_id".toList, sqlQuote service.clusterId),
    ("destinations".toList, sqlQuote (jsonDumps [service.destination]))]

def endpointLinesPre : List Text :=
  ["INSERT INTO endpoints (",
    "  id, service_id, endpoint_name, http_method, relative_path, upstream_path_template, is_enabled",
    ")", "SELECT", "  gen_random_uuid(),", "  upsert_service.id,", "  data.endpoint_name,",
    "  data.http_method,", "  data.relative_path,", "  data.upstream_path_template,", "  true",
    "FROM upsert_service", "CROSS JOIN (VALUES"].map String.toList

/-- A row of the inserted values. -/
def valueLine (endpoint : SeedEndpoint) : Text :=
  "  (".toList ++ (sqlQuote endpoint.endpointName ++ (", ".toList ++
    (sqlQuote endpoint.httpMethod ++ (", ".toList ++ (sqlQuote endpoint.relativePath ++
      (", ".toList ++ (sqlQuote endpoint.upstreamPathTemplate ++ ")".toList)))))))

def endpointLinesPost : List Text :=
  [") AS data(endpoint_name, http_method, relative_path, upstream_path_template)",
    "ON CONFLICT (service_id, endpoint_name) DO UPDATE SET",
    "  http_method = EXCLUDED.http_method,", "  relative_path = EXCLUDED.relative_path,",
    "  upstream_path_template = EXCLUDED.upstream_path_template,",
    "  is_enabled = true;"].map String.toList

def serviceLinesPost (endpoints : List SeedEndpoint) : List Text :=
  (if endpoints ≠ [] then
    endpointLinesPre ++ [",\n".toList.intercalate (endpoints.map valueLine)] ++ endpointLinesPost
  else ["SELECT 1;".toList]) ++ [[]]

/-- The lines before the endpoints are filled in, those with the endpoints are not. -/
def serviceLines (args : Arguments) (service : SeedService) : Option (List Text) := do
  let pre ← serviceLinesPre.mapM (format (serviceFields args service))
  return pre ++ serviceLinesPost service.endpoints

def script (args : Arguments) (services : List SeedService) : Option Text := do
  let header ← headerLines.mapM (format (headerFields args))
  let blocks ← services.mapM (serviceLines args)
  return ['\n'].intercalate (header ++ blocks.flatten)

def readServices (rules : AuthorityRules) (casing : Casing) (fetchJson : Text → Option Document) :
    Option (List SeedService) :=
  swaggerUrls.mapM (fun url => do
    let spec ← fetchJson (toSwaggerJsonUrl url)
    readService rules casing url spec)

/-- The whole run, up to writing the file. -/
def main (rules : AuthorityRules) (casing : Casing) (fetchJson : Text → Option Document)
    (args : Arguments) : Option Text := do
  let services ← readServices rules casing fetchJson
  script args services

end Script

section Specification

/-- The values of the header's fields. -/
def headerValues (args : Arguments) : List (Text × Text) :=
  [("name".toList, args.productName), ("desc".toList, args.productDescription),
    ("owner".toList, args.ownerTeam)]

/-- The values of a service's fields. -/
def serviceValues (args : Arguments) (service : SeedService) : List (Text × Text) :=
  [("name".toList, args.productName),
    ("owner".toList, args.ownerTeam),
    ("environment".toList, args.environment),
    ("service_name".toList, service.serviceName),
    ("base_path".toList, service.basePath),
    ("version".toList, service.version),
    ("description".toList, service.description),
    ("cluster_id".toList, service.clusterId),
    ("destinations".toList, jsonDumps [service.destination])]

/-- What the literals of the header are to hold, in order. -/
def headerContents (args : Arguments) : List Text :=
  [args.productName, args.productDescription, args.ownerTeam]

/-- Likewise for the lines of a service before its endpoints. -/
def servicePreContents (args : Arguments) (service : SeedService) : List Text :=
  [args.productName, service.serviceName, service.basePath, service.version, service.description,
    args.ownerTeam, args.environment, service.clusterId, jsonDumps [service.destination],
    "RoundRobin".toList, "AES_256_GCM".toList, "UserProfileKey".toList, "UserProfileIv".toList,
    "Base64".toList]

def endpointContents (endpoint : SeedEndpoint) : List Text :=
  [endpoint.endpointName, endpoint.httpMethod, endpoint.relativePath, endpoint.upstreamPathTemplate]

/-- What the literals of a script are to hold, in order. -/
def scriptContents (args : Arguments) (services : List SeedService) : List Text :=
  headerContents args ++ services.flatMap (fun service =>
    servicePreContents args service ++ service.endpoints.flatMap endpointContents)

def valueOutline : List (Option Char) :=
  "  (".toList.map some ++ (none :: (", ".toList.map some ++ (none :: (", ".toList.map some ++
    (none :: (", ".toList.map some ++ (none :: ")".toList.map some)))))))

/-- The outline of the lines with some number of endpoints. -/
def endpointsOutline (count : Nat) : List (List (Option Char)) :=
  (if count ≠ 0 then
    endpointLinesPre.map (List.map some) ++
      [(",\n".toList.map some).intercalate (List.replicate count valueOutline)] ++
        endpointLinesPost.map (List.map some)
  else ["SELECT 1;".toList.map some]) ++ [[]]

/-- The outline of a script, by the numbers of endpoints of its services. -/
def scriptOutline (counts : List Nat) : List (Option Char) :=
  [some '\n'].intercalate (headerLines.map (outlineOf quoteMark) ++ counts.flatMap (fun count =>
    serviceLinesPre.map (outlineOf quoteMark) ++ endpointsOutline count))

end Specification

section Quoting

/-- The script doubles quotes as the scanner expects them. -/
theorem replace_eq_doubled (value : Text) :
    Substitution.replace id [quoteMark] [quoteMark, quoteMark] value = doubled quoteMark value := by
  induction value with
  | nil => rfl
  | cons item rest ih =>
    rw [doubled_cons, ← ih]
    by_cases same : item = quoteMark
    · rw [if_pos same, same]
      exact @Substitution.replace_occurrence _ _ _ id [quoteMark] [quoteMark, quoteMark] [quoteMark]
        rfl (List.cons_ne_nil _ _) rest
    · rw [if_neg same]
      apply Substitution.replace_cons
      rw [List.map_cons, List.cons_prefix_cons]
      exact fun begins => same begins.1.symm

theorem sqlQuote_eq (value : Text) : sqlQuote value = quoted quoteMark value := by
  rw [sqlQuote, replace_eq_doubled, quoted]

theorem headerFields_eq (args : Arguments) :
    headerFields args = quotedFields quoteMark (headerValues args) := by
  simp only [headerFields, sqlQuote_eq]
  rfl

theorem serviceFields_eq (args : Arguments) (service : SeedService) :
    serviceFields args service = quotedFields quoteMark (serviceValues args service) := by
  simp only [serviceFields, sqlQuote_eq]
  rfl

end Quoting

section Lines

variable {args : Arguments} {service : SeedService}

def headerSources : List Source :=
  [.field "name".toList, .field "desc".toList, .field "owner".toList]

def serviceSources : List Source :=
  [.field "name".toList, .field "service_name".toList, .field "base_path".toList,
    .field "version".toList, .field "description".toList, .field "owner".toList,
    .field "environment".toList, .field "cluster_id".toList, .field "destinations".toList,
    .constant "RoundRobin".toList, .constant "AES_256_GCM".toList,
    .constant "UserProfileKey".toList, .constant "UserProfileIv".toList, .constant "Base64".toList]

theorem headerLines_readAs :
    ReadAs quoteMark (["name", "desc", "owner"].map String.toList) headerSources headerLines := by
  refine Spelled.elim (ReadAs _ _ _) (by repeat constructor) ?_
  decide +kernel

theorem serviceLinesPre_readAs :
    ReadAs quoteMark (["name", "owner", "environment", "service_name", "base_path", "version",
      "description", "cluster_id", "destinations"].map String.toList) serviceSources
        serviceLinesPre := by
  refine Spelled.elim (ReadAs _ _ _) (by repeat constructor) ?_
  decide +kernel

theorem header_reads (args : Arguments) :
    ∃ texts, headerLines.mapM (format (headerFields args)) = some texts ∧
      ReadsEach quoteMark texts (headerLines.map (outlineOf quoteMark)) (headerContents args) := by
  have names : (headerValues args).map Prod.fst = ["name", "desc", "owner"].map String.toList := rfl
  have contents : headerSources.map (Source.value (headerValues args)) = headerContents args := rfl
  rw [headerFields_eq, ← contents]
  apply formats_readable
  rw [names]
  exact headerLines_readAs

theorem servicePre_reads (args : Arguments) (service : SeedService) :
    ∃ texts, serviceLinesPre.mapM (format (serviceFields args service)) = some texts ∧
      ReadsEach quoteMark texts (serviceLinesPre.map (outlineOf quoteMark))
        (servicePreContents args service) := by
  have names : (serviceValues args service).map Prod.fst =
      ["name", "owner", "environment", "service_name", "base_path", "version", "description",
        "cluster_id", "destinations"].map String.toList := rfl
  have contents : serviceSources.map (Source.value (serviceValues args service)) =
      servicePreContents args service := rfl
  rw [serviceFields_eq, ← contents]
  apply formats_readable
  rw [names]
  exact serviceLinesPre_readAs

/-- Lines without quotes are read as they stand. -/
theorem plain_reads {lines : List Text}
    (plain : lines.all (fun line => !line.contains quoteMark) = true) :
    ReadsEach quoteMark lines (lines.map (List.map some)) [] := by
  induction lines with
  | nil => exact .nil
  | cons line rest ih =>
    rw [List.all_cons, Bool.and_eq_true] at plain
    have absent : quoteMark ∉ line := by simpa using plain.1
    exact .cons (reads_symbols absent) (ih plain.2)

theorem spelled_reads {lines spellings : List Text} (spelled : Spelled lines spellings)
    (plain : spellings.all (fun line => !line.contains quoteMark) = true) :
    ReadsEach quoteMark lines (lines.map (List.map some)) [] := by
  rw [spelled.eq]
  exact plain_reads plain

theorem valueLine_reads (endpoint : SeedEndpoint) :
    Reads quoteMark (valueLine endpoint) valueOutline (endpointContents endpoint) := by
  have comma : quoteMark ∉ ", ".toList := by decide
  have filled : ", ".toList ≠ [] := by decide
  simp only [valueLine, sqlQuote_eq]
  have last := (reads_quoted endpoint.upstreamPathTemplate).append
    (reads_symbols (show quoteMark ∉ ")".toList by decide)) (fun _ => by decide)
  have row := (reads_quoted endpoint.endpointName).symbols_append filled comma
    ((reads_quoted endpoint.httpMethod).symbols_append filled comma
      ((reads_quoted endpoint.relativePath).symbols_append filled comma last))
  exact (reads_symbols (show quoteMark ∉ "  (".toList by decide)).append row
    (fun ends => absurd ends (by decide))

theorem valueLines_reads (endpoints : List SeedEndpoint) :
    ReadsEach quoteMark (endpoints.map valueLine) (List.replicate endpoints.length valueOutline)
      (endpoints.flatMap endpointContents) := by
  induction endpoints with
  | nil => exact .nil
  | cons endpoint rest ih => exact .cons (valueLine_reads endpoint) ih

theorem servicePost_reads (endpoints : List SeedEndpoint) :
    ReadsEach quoteMark (serviceLinesPost endpoints) (endpointsOutline endpoints.length)
      (endpoints.flatMap endpointContents) := by
  have last : ReadsEach quoteMark [[]] [[]] [] := plain_reads rfl
  cases endpoints with
  | nil => exact (plain_reads (show ["SELECT 1;".toList].all _ = true by decide)).append last
  | cons endpoint rest =>
    have before :
        ReadsEach quoteMark endpointLinesPre (endpointLinesPre.map (List.map some)) [] :=
      spelled_reads (by repeat constructor) (by decide +kernel)
    have after :
        ReadsEach quoteMark endpointLinesPost (endpointLinesPost.map (List.map some)) [] :=
      spelled_reads (by repeat constructor) (by decide +kernel)
    have rows := (valueLines_reads (endpoint :: rest)).joined
      (show ",\n".toList ≠ [] by decide) (show quoteMark ∉ ",\n".toList by decide)
    have whole := ((before.append (.cons rows .nil)).append after).append last
    simpa [serviceLinesPost, endpointsOutline] using whole

theorem service_reads (args : Arguments) (service : SeedService) :
    ∃ texts, serviceLines args service = some texts ∧
      ReadsEach quoteMark texts
        (serviceLinesPre.map (outlineOf quoteMark) ++ endpointsOutline service.endpoints.length)
        (servicePreContents args service ++ service.endpoints.flatMap endpointContents) := by
  obtain ⟨pre, formatted, each⟩ := servicePre_reads args service
  refine ⟨pre ++ serviceLinesPost service.endpoints, ?_, each.append (servicePost_reads _)⟩
  rw [serviceLines, formatted]
  rfl

theorem services_read (args : Arguments) (services : List SeedService) :
    ∃ blocks, services.mapM (serviceLines args) = some blocks ∧
      ReadsEach quoteMark blocks.flatten
        (services.flatMap (fun service =>
          serviceLinesPre.map (outlineOf quoteMark) ++ endpointsOutline service.endpoints.length))
        (services.flatMap (fun service =>
          servicePreContents args service ++ service.endpoints.flatMap endpointContents)) := by
  induction services with
  | nil => exact ⟨[], rfl, .nil⟩
  | cons service rest ih =>
    obtain ⟨texts, written, each⟩ := service_reads args service
    obtain ⟨blocks, others, eachOther⟩ := ih
    refine ⟨texts :: blocks, by rw [List.mapM_cons, written, others]; rfl, ?_⟩
    exact each.append eachOther

/-- A script is written for any services, and its literals hold the values while its
outline depends on the numbers of endpoints only. -/
theorem script_reads (args : Arguments) (services : List SeedService) :
    ∃ sql, script args services = some sql ∧
      Reads quoteMark sql (scriptOutline (services.map (fun service => service.endpoints.length)))
        (scriptContents args services) := by
  obtain ⟨header, formatted, eachHeader⟩ := header_reads args
  obtain ⟨blocks, written, eachBlock⟩ := services_read args services
  refine ⟨['\n'].intercalate (header ++ blocks.flatten), ?_, ?_⟩
  · rw [script, formatted, written]
    rfl
  · have joined := (eachHeader.append eachBlock).joined (List.cons_ne_nil '\n' [])
      (show quoteMark ∉ ['\n'] by decide)
    rw [scriptOutline, List.flatMap_map]
    exact joined

/-- So is the script of every run that has read its documents. -/
theorem main_reads {rules : AuthorityRules} {casing : Casing} {fetchJson : Text → Option Document}
    {services : List SeedService} (found : readServices rules casing fetchJson = some services)
    (args : Arguments) :
    ∃ sql, main rules casing fetchJson args = some sql ∧
      Reads quoteMark sql (scriptOutline (services.map (fun service => service.endpoints.length)))
        (scriptContents args services) := by
  rw [main, found, Option.bind_eq_bind, Option.bind_some]
  exact script_reads args services

end Lines

/-- A quoted value is read back whatever follows it but a quote, also where it is the
value of a field, and a script's outline is the same for all values of its services. -/
theorem sqlQuote_faithful :
    (∀ value following : Text, following.head? ≠ some quoteMark →
      scanLiteral quoteMark (sqlQuote value ++ following) = some (value, following)) ∧
    (∀ (fields : List (Text × Text)) (before name following value : Text), Braceless before →
      isIdentifier name = true → Braceless following →
        fields.lookup name = some (sqlQuote value) → following.head? ≠ some quoteMark →
          ∃ behind, format fields (before ++ '{' :: (name ++ '}' :: following)) =
              some (before ++ behind) ∧ scanLiteral quoteMark behind = some (value, following)) ∧
    ∀ args services, ∃ sql, script args services = some sql ∧
      Reads quoteMark sql (scriptOutline (services.map (fun service => service.endpoints.length)))
        (scriptContents args services) := by
  have readBack : ∀ value following : Text, following.head? ≠ some quoteMark →
      scanLiteral quoteMark (sqlQuote value ++ following) = some (value, following) := by
    intro value following free
    rw [sqlQuote_eq]
    exact scanLiteral_quoted value free
  refine ⟨readBack, ?_, script_reads⟩
  intro fields before name following value plainBefore named plainFollowing given free
  have plainName : Braceless name := braceless_of_identifier named
  refine ⟨sqlQuote value ++ following, ?_, readBack value following free⟩
  rw [format_append plainBefore, format_field plainName given, format_braceless plainFollowing]
  rfl

theorem sqlQuote_faithful_braces :
    scanLiteral quoteMark (sqlQuote "it's {name}".toList ++ ", true".toList) =
        some ("it's {name}".toList, ", true".toList) ∧
      ∃ behind, format [("name".toList, sqlQuote "it's {name}".toList)]
          ("VALUES (".toList ++ '{' :: ("name".toList ++ '}' :: ", true)".toList)) =
            some ("VALUES (".toList ++ behind) ∧
        scanLiteral quoteMark behind = some ("it's {name}".toList, ", true)".toList) := by
  refine ⟨sqlQuote_faithful.1 _ _ (by decide), ?_⟩
  exact sqlQuote_faithful.2.1 _ _ _ _ _ ⟨by decide, by decide⟩ (by decide) ⟨by decide, by decide⟩
    rfl (by decide)

example : sqlQuote "it's".toList = "'it''s'".toList := by decide

end ApiGateway.SeedImport
