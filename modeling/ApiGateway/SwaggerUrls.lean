import ApiGateway.PolicyResolver
import ApiGateway.Library.Urls

/-!
# Base paths and destinations of imported services

The import script takes a service's base path and its destination from the url of
the first server of a Swagger document, or else from the URL of the document. The
resolver later puts the gateway's prefix, the base path and an endpoint's path
together.

Endpoint paths begin with a slash, so a base path may not end in one, and an absent
path becomes a single slash. A server's url is the destination as it stands, also
when it is relative.
-/

namespace ApiGateway.SeedImport

open Urls PolicyResolver

structure Server where
  url : Option Text

/-- The url of the first server, empty if there is none. -/
def serverUrl (servers : Option (List Server)) : Text :=
  match servers with
  | some (server :: _) => server.url.getD []
  | _ => []

def swaggerSuffix : Text := "/swagger/v1/swagger.json".toList

/-- A path without the suffix of the document. -/
def servicePath (path : Text) : Text :=
  if swaggerSuffix.isSuffixOf path then path.take (path.length - swaggerSuffix.length) else path

def orRoot (path : Text) : Text := if path = [] then ['/'] else path

def parseBasePath (rules : AuthorityRules) (swaggerUrl : Text) (servers : Option (List Server)) :
    Option Text :=
  if serverUrl servers ≠ [] then do
    let parsed ← urlparse rules (serverUrl servers)
    return orRoot parsed.path
  else do
    let parsed ← urlparse rules swaggerUrl
    return orRoot (servicePath parsed.path)

def parseDestination (rules : AuthorityRules) (swaggerUrl : Text)
    (servers : Option (List Server)) : Option Text :=
  if serverUrl servers ≠ [] then some (serverUrl servers)
  else do
    let parsed ← urlparse rules swaggerUrl
    let basePath ← parseBasePath rules swaggerUrl servers
    return parsed.scheme ++ ':' :: '/' :: '/' :: (parsed.netloc ++ basePath)

/-- Both are read, the full path of an endpoint has no empty segment, and the
destination is an absolute URL. -/
def Routable (rules : AuthorityRules) (swaggerUrl : Text) (servers : Option (List Server))
    (path : Text) : Prop :=
  ∃ basePath destination, parseBasePath rules swaggerUrl servers = some basePath ∧
    parseDestination rules swaggerUrl servers = some destination ∧
      ¬ ['/', '/'] <:+: gatewayPathPrefix ++ (basePath ++ path) ∧ AbsoluteHttp destination

/-- A path that is not empty, without empty segments and without a slash at its end. -/
structure WholeSegments (path : Text) : Prop where
  nonempty : path ≠ []
  single : ¬ ['/', '/'] <:+: path
  open_ended : path.getLast? ≠ some '/'

/-- An absolute server url with a usable path. -/
structure ServerUsable (rules : AuthorityRules) (url : Text) : Prop where
  absolute : AbsoluteHttp url
  segments : ∃ parsed, urlparse rules url = some parsed ∧ WholeSegments parsed.path

/-- The authority, or else the first segment of the path. -/
def leadingAuthority (parsed : ParseResult) : Text :=
  if parsed.netloc = [] then (servicePath parsed.path).takeWhile inAuthority else parsed.netloc

/-- A document URL of a host, with a usable path before its suffix. -/
def SwaggerUsable (rules : AuthorityRules) (url : Text) : Prop :=
  ∃ parsed, urlparse rules url = some parsed ∧ parsed.scheme.map Char.toLower ∈ httpSchemes ∧
    hostOf (leadingAuthority parsed) ≠ [] ∧ WholeSegments (servicePath parsed.path)

section Paths

theorem doubleSlash_leads (first : Char) (rest : Text) :
    ['/', '/'] <+: first :: rest ↔ first = '/' ∧ rest.head? = some '/' := by
  rw [List.cons_prefix_cons, eq_comm]
  cases rest with
  | nil => simp
  | cons next others => simp [List.cons_prefix_cons, eq_comm]

/-- Two slashes are within one of two texts or meet between them. -/
theorem doubleSlash_append (left right : Text) :
    ['/', '/'] <:+: left ++ right ↔
      ['/', '/'] <:+: left ∨ ['/', '/'] <:+: right ∨
        (left.getLast? = some '/' ∧ right.head? = some '/') := by
  induction left with
  | nil => simp
  | cons first rest ih =>
    rw [List.cons_append, List.infix_cons_iff, ih, List.infix_cons_iff, doubleSlash_leads,
      doubleSlash_leads]
    cases rest with
    | nil =>
      rw [List.nil_append, List.getLast?_singleton, Option.some.injEq]
      simp only [List.head?_nil, List.getLast?_nil, List.infix_nil]
      tauto
    | cons next others =>
      rw [List.getLast?_cons_cons, List.cons_append, List.head?_cons, List.head?_cons]
      tauto

variable {path : Text}

/-- The full path of an endpoint has no empty segment exactly if its parts have none and
do not meet in two slashes. -/
theorem route_iff (rooted : path.head? = some '/') (base : Text) :
    ¬ ['/', '/'] <:+: gatewayPathPrefix ++ (orRoot base ++ path) ↔
      WholeSegments base ∧ ¬ ['/', '/'] <:+: path := by
  have lead : ¬ ['/', '/'] <:+: gatewayPathPrefix := by decide
  have letter : gatewayPathPrefix.getLast? ≠ some '/' := by decide
  rw [doubleSlash_append, doubleSlash_append, not_or, not_or, not_or, not_or]
  constructor
  · rintro ⟨_, ⟨within, inPath, meet⟩, _⟩
    by_cases empty : base = []
    · rw [orRoot, if_pos empty] at meet
      exact absurd ⟨rfl, rooted⟩ meet
    · rw [orRoot, if_neg empty] at within meet
      exact ⟨⟨empty, within, fun ends => meet ⟨ends, rooted⟩⟩, inPath⟩
  · rintro ⟨whole, inPath⟩
    rw [orRoot, if_neg whole.nonempty]
    exact ⟨lead, ⟨whole.single, inPath, fun meet => whole.open_ended meet.1⟩,
      fun meet => letter meet.1⟩

theorem servicePath_leads (path : Text) : servicePath path <+: path := by
  rw [servicePath]
  split
  · exact List.take_prefix _ _
  · exact List.prefix_rfl

end Paths

section Usable

variable {rules : AuthorityRules} {swaggerUrl : Text} {servers : Option (List Server)}
  {path : Text} {parsed : ParseResult}

/-- The authority of a destination is the document's own, or else begins its path. -/
theorem authority_of_destination (given : urlparse rules swaggerUrl = some parsed) :
    (parsed.netloc ++ servicePath parsed.path).takeWhile inAuthority = leadingAuthority parsed := by
  rw [leadingAuthority]
  split
  · next absent => rw [absent, List.nil_append]
  · next located =>
    rw [List.takeWhile_append_of_pos (netloc_inAuthority given)]
    have lead := servicePath_leads parsed.path
    cases base : servicePath parsed.path with
    | nil => simp
    | cons first segment =>
      rw [base] at lead
      obtain ⟨rest, begins⟩ := lead
      rw [path_rooted given located begins.symm]
      simp [inAuthority]

theorem routable_server (present : serverUrl servers ≠ []) (rooted : path.head? = some '/') :
    Routable rules swaggerUrl servers path ↔
      ¬ ['/', '/'] <:+: path ∧ ServerUsable rules (serverUrl servers) := by
  rw [Routable, parseBasePath, parseDestination, if_pos present, if_pos present]
  constructor
  · rintro ⟨basePath, destination, based, chosen, route, absolute⟩
    obtain ⟨parsed, given, root⟩ := Option.bind_eq_some_iff.mp based
    obtain rfl := Option.some.inj root
    cases chosen
    obtain ⟨whole, inPath⟩ := (route_iff rooted parsed.path).mp route
    exact ⟨inPath, absolute, parsed, given, whole⟩
  · rintro ⟨inPath, absolute, parsed, given, whole⟩
    refine ⟨orRoot parsed.path, serverUrl servers, ?_, rfl, ?_, absolute⟩
    · rw [given]
      rfl
    · exact (route_iff rooted parsed.path).mpr ⟨whole, inPath⟩

theorem routable_swagger (absent : ¬ serverUrl servers ≠ []) (rooted : path.head? = some '/') :
    Routable rules swaggerUrl servers path ↔
      ¬ ['/', '/'] <:+: path ∧ SwaggerUsable rules swaggerUrl := by
  rw [Routable, parseDestination, parseBasePath, if_neg absent, if_neg absent]
  constructor
  · rintro ⟨basePath, destination, based, chosen, route, absolute⟩
    obtain ⟨parsed, given, root⟩ := Option.bind_eq_some_iff.mp based
    obtain rfl := Option.some.inj root
    rw [given] at chosen
    cases chosen
    obtain ⟨whole, inPath⟩ := (route_iff rooted (servicePath parsed.path)).mp route
    rw [absoluteHttp_append (scheme_colon given), orRoot, if_neg whole.nonempty,
      authority_of_destination given] at absolute
    exact ⟨inPath, parsed, given, absolute.1, absolute.2, whole⟩
  · rintro ⟨inPath, parsed, given, scheme, host, whole⟩
    refine ⟨orRoot (servicePath parsed.path), parsed.scheme ++ ':' :: '/' :: '/' ::
      (parsed.netloc ++ orRoot (servicePath parsed.path)), ?_, ?_, ?_, ?_⟩
    · rw [given]
      rfl
    · rw [given]
      rfl
    · exact (route_iff rooted (servicePath parsed.path)).mpr ⟨whole, inPath⟩
    · rw [absoluteHttp_append (scheme_colon given), orRoot, if_neg whole.nonempty,
        authority_of_destination given]
      exact ⟨scheme, host⟩

end Usable

/-- An imported endpoint is routable exactly if its path has no empty segment and the
first server's url, or else the document's URL, is usable. -/
theorem import_routable_iff (rules : AuthorityRules) (swaggerUrl : Text)
    (servers : Option (List Server)) {path : Text} (rooted : path.head? = some '/') :
    Routable rules swaggerUrl servers path ↔
      ¬ ['/', '/'] <:+: path ∧
        (serverUrl servers ≠ [] → ServerUsable rules (serverUrl servers)) ∧
          (serverUrl servers = [] → SwaggerUsable rules swaggerUrl) := by
  by_cases present : serverUrl servers ≠ []
  · rw [routable_server present rooted]
    constructor
    · exact fun usable => ⟨usable.1, fun _ => usable.2, fun none => absurd none present⟩
    · exact fun usable => ⟨usable.1, usable.2.1 present⟩
  · rw [routable_swagger present rooted]
    constructor
    · exact fun usable => ⟨usable.1, fun some => absurd some present, fun _ => usable.2⟩
    · exact fun usable => ⟨usable.1, usable.2.2 (not_not.mp present)⟩

/-- No authority is refused. -/
def anyAuthority : AuthorityRules := ⟨fun _ => false, fun _ _ => rfl⟩

def ordersSwagger : Text := "https://gw.test/orders/swagger/v1/swagger.json".toList

theorem import_routable_iff_orders :
    Routable anyAuthority ordersSwagger none "/list".toList := by
  apply (import_routable_iff anyAuthority ordersSwagger none (by decide)).mpr
  refine ⟨by decide, fun present => absurd rfl present, fun _ => ?_⟩
  exact ⟨⟨"https".toList, "gw.test".toList, "/orders/swagger/v1/swagger.json".toList, [], [], []⟩,
    by decide, by decide, by decide, by decide, by decide, by decide⟩

/-- A server url with a slash at its end, and one that is relative. -/
theorem rootAndRelative_unroutable :
    ¬ Routable anyAuthority ordersSwagger (some [⟨some "https://gw.test/".toList⟩])
        "/list".toList ∧
      ¬ Routable anyAuthority ordersSwagger (some [⟨some "/v1".toList⟩]) "/list".toList := by
  constructor
  · rintro ⟨basePath, destination, based, _, route, _⟩
    have root : parseBasePath anyAuthority ordersSwagger (some [⟨some "https://gw.test/".toList⟩]) =
        some ['/'] := by
      decide
    rw [root] at based
    cases based
    revert route
    decide
  · rintro ⟨basePath, destination, _, chosen, _, absolute⟩
    cases chosen
    revert absolute
    decide

end ApiGateway.SeedImport
