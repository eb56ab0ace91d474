import ApiGateway.Connection
import ApiGateway.Library.Fields
import ApiGateway.PolicyResolver
import Mathlib.Data.List.ReduceOption

/-!
# The header stage

The stage adds the gateway's own headers to a proxy request that already holds
a copy of the caller's, then the headers of the policy, and removes the headers
the policy names. Adding appends to what is held under a name.

Header names are ASCII tokens, compared without regard to case. The collection
of a request takes no content header, and removal of a name it cannot take
throws.
-/

namespace ApiGateway

open Effects

namespace Text

/-- Replacement from the left; the first characters may be skipped. -/
def replaceFrom (old new : Text) : Nat → Text → Text
  | _, [] => []
  | skipped + 1, _ :: rest => replaceFrom old new skipped rest
  | 0, first :: rest =>
    if old.isPrefixOf (first :: rest) then new ++ replaceFrom old new (old.length - 1) rest
    else first :: replaceFrom old new 0 rest

/-- Every occurrence of a text that is not empty, replaced from the left. -/
def replace (old new text : Text) : Text := replaceFrom old new 0 text

theorem replaceFrom_skip (old new skipped : Text) :
    replaceFrom old new skipped.length skipped = [] := by
  induction skipped with
  | nil => rfl
  | cons first rest skipRest => exact skipRest

/-- A text that is the one replaced becomes the new one. -/
theorem replace_self (first : Char) (rest new : Text) :
    replace (first :: rest) new (first :: rest) = new := by
  have skip : replaceFrom (first :: rest) new rest.length rest = [] := replaceFrom_skip _ new rest
  simp [replace, replaceFrom, skip]

/-- A text without the first character of the one replaced stays as it is. -/
theorem replace_absent {first : Char} {rest new text : Text} (absent : first ∉ text) :
    replace (first :: rest) new text = text := by
  unfold replace
  induction text with
  | nil => rfl
  | cons head tail replaceTail =>
    obtain ⟨different, later⟩ := not_or.mp (List.mem_cons.not.mp absent)
    have elsewhere : (first :: rest).isPrefixOf (head :: tail) = false := by
      simp [List.isPrefixOf, different]
    rw [replaceFrom, elsewhere, replaceTail later]
    rfl

end Text

namespace HeaderTransform

/-- The key under which a header name is compared. -/
def headerKey (name : Text) : Text := Text.toUpperInvariant asciiCase name

/-- Characters of a token. -/
def isTokenCharacter (character : Char) : Bool :=
  character.isAlphanum || "!#$%&'*+-.^_`|~".toList.contains character

/-- Headers that belong to the content and not to the request. -/
def contentHeaders : List Text :=
  ["Allow", "Content-Disposition", "Content-Encoding", "Content-Language", "Content-Length",
    "Content-Location", "Content-MD5", "Content-Range", "Content-Type", "Expires",
    "Last-Modified"].map String.toList

/-- The names that the header collection of a request takes. -/
def takes (name : Text) : Bool :=
  name ≠ [] && name.all isTokenCharacter && !(contentHeaders.map headerKey).contains (headerKey name)

/-- The headers of the request to the upstream, all under names it takes. -/
structure HttpRequestHeaders where
  fields : List (Text × Text)
  taken : ∀ field ∈ fields, takes field.1 = true

namespace HttpRequestHeaders

/-- The values held under a name. -/
def values (headers : HttpRequestHeaders) (name : Text) : List Text :=
  Fields.values headerKey name headers.fields

/-- Append a value if the name is taken; an absent value counts as empty. -/
def tryAddWithoutValidation (name : Text) (value : NullableText) (headers : HttpRequestHeaders) :
    HttpRequestHeaders :=
  if accepted : takes name = true then
    { fields := headers.fields ++ [(name, value.getD [])]
      taken := by
        intro field held
        rcases List.mem_append.mp held with already | added
        · exact headers.taken field already
        · rw [List.mem_singleton.mp added]
          exact accepted }
  else headers

/-- Drop every value under a name. -/
def drop (name : Text) (headers : HttpRequestHeaders) : HttpRequestHeaders where
  fields := Fields.removing headerKey [name] headers.fields
  taken := fun field held => headers.taken field (List.mem_filter.mp held).1

/-- Removal throws for a name that the collection cannot take. -/
def remove (name : NullableText) (headers : HttpRequestHeaders) :
    Except Fault HttpRequestHeaders :=
  match name with
  | none => .error ⟨"ArgumentNullException".toList⟩
  | some [] => .error ⟨"ArgumentException".toList⟩
  | some present =>
    if ¬ present.all isTokenCharacter then .error ⟨"FormatException".toList⟩
    else if takes present then .ok (headers.drop present)
    else .error ⟨"InvalidOperationException".toList⟩

end HttpRequestHeaders

/-- The services' state, the incoming request and the proxy request's headers. -/
structure RequestTransformContext (σ : Type) where
  services : σ
  httpContext : HttpContext
  proxyRequestHeaders : HttpRequestHeaders

abbrev RequestStage (σ α : Type) := Effect Fault (RequestTransformContext σ) α

/-- What the stage reads from the machine: a new identifier, and the time of day
at each of its readings. -/
structure Readings where
  newGuid : Text
  utcNow : Nat → Text

variable {σ : Type}

/-- Expansion of the placeholders of a template, one after another. -/
def resolveHeaderValue (caseMap : CaseMap) (template : NullableText) (context : HttpContext)
    (utcNow : Text) : NullableText :=
  match template with
  | none => none
  | some text =>
    if text.isEmpty || !text.contains '{' then some text
    else
      let result := Text.replace "\x7bClientId\x7d".toList
        ((context.user.findFirst caseMap "client_id".toList).getD "unknown".toList) text
      let result := Text.replace "\x7bUserId\x7d".toList
        ((context.user.findFirst caseMap "sub".toList).getD "unknown".toList) result
      let result := Text.replace "\x7bCorrelationId\x7d".toList context.traceIdentifier result
      some (Text.replace "\x7bTimestamp\x7d".toList utcNow result)

def tryAdd (name : Text) (value : NullableText) : RequestStage σ Unit :=
  Effect.update (fun context =>
    { context with
      proxyRequestHeaders := context.proxyRequestHeaders.tryAddWithoutValidation name value })

/-- The loop over the policy's headers to add. Each template meets its own
reading of the clock. -/
def addHeaders (platform : Platform) (readings : Readings) (httpContext : HttpContext) :
    Nat → List (Text × NullableText) → RequestStage σ Unit
  | _, [] => pure ()
  | reading, (key, template) :: rest => do
    tryAdd key (resolveHeaderValue platform.caseMap template httpContext (readings.utcNow reading))
    addHeaders platform readings httpContext (reading + 1) rest

/-- The loop over the policy's headers to remove. -/
def removeHeaders : List NullableText → RequestStage σ Unit
  | [] => pure ()
  | headerName :: rest => do
    let headers ← Effect.gets (fun context : RequestTransformContext σ => context.proxyRequestHeaders)
    let remaining ← Effect.ofExcept (headers.remove headerName)
    Effect.update (fun context => { context with proxyRequestHeaders := remaining })
    removeHeaders rest

/-- Call a service from within the stage. -/
def call {α : Type} (task : Task σ α) : RequestStage σ α := fun context =>
  ((task context.services).1, { context with services := (task context.services).2 })

/-- The caller's client id, if there is one. -/
def addClientId (platform : Platform) (user : Principal) : RequestStage σ Unit :=
  match (user.clientId platform.caseMap).filter (fun value => !value.isEmpty) with
  | none => pure ()
  | some clientId => tryAdd "X-Client-Id".toList (some clientId)

/-- What a policy adds and then removes. -/
def applyPolicy (platform : Platform) (readings : Readings) (httpContext : HttpContext) :
    Option EndpointPolicy → RequestStage σ Unit
  | none => pure ()
  | some policy => do
    addHeaders platform readings httpContext 1 policy.headersToAdd
    removeHeaders policy.headersToRemove

/-- The whole stage. -/
def applyAsync (platform : Platform) (policyResolver : IPolicyResolver σ) (readings : Readings) :
    RequestStage σ Unit := do
  let httpContext ← Effect.gets (fun context : RequestTransformContext σ => context.httpContext)
  let policy ← call (policyResolver.resolvePolicyAsync httpContext.path httpContext.method)
  tryAdd "X-Correlation-Id".toList (some httpContext.traceIdentifier)
  tryAdd "X-Gateway-Request-Id".toList (some readings.newGuid)
  tryAdd "X-Gateway-Timestamp".toList (some (readings.utcNow 0))
  addClientId platform httpContext.user
  applyPolicy platform readings httpContext policy

section Names

/-- Folding the case of a character keeps whether it may stand in a token. -/
theorem isTokenCharacter_upper (character : Char) :
    isTokenCharacter (asciiCase.upper character) = isTokenCharacter character := by
  have ascii : ∀ code : Fin 128,
      isTokenCharacter (Char.ofNat code).toUpper = isTokenCharacter (Char.ofNat code) := by
    decide
  by_cases inside : character.toNat < 128
  · have folded := ascii ⟨character.toNat, inside⟩
    simp only [Char.ofNat_toNat] at folded
    rw [asciiCase.upper_ascii character inside, folded]
  · simp [asciiCase, inside]

/-- Names that fold together are taken alike. -/
theorem takes_congr {name other : Text} (same : headerKey name = headerKey other) :
    takes name = takes other := by
  have folded : ∀ text : Text, (headerKey text).all isTokenCharacter = text.all isTokenCharacter := by
    intro text
    simp only [headerKey, Text.toUpperInvariant, List.all_map]
    exact congrArg text.all (funext isTokenCharacter_upper)
  have empty : name ≠ [] ↔ other ≠ [] := by
    rw [← List.length_pos_iff, ← List.length_pos_iff]
    have lengths := congrArg List.length same
    simp only [headerKey, Text.toUpperInvariant, List.length_map] at lengths
    omega
  have tokens : name.all isTokenCharacter = other.all isTokenCharacter := by
    rw [← folded name, same, folded other]
  simp only [takes, tokens, same, empty]

end Names

section Headers

variable {platform : Platform} {readings : Readings} {httpContext : HttpContext}

/-- The headers the gateway sets of its own accord. -/
def ownHeaders (platform : Platform) (readings : Readings) (httpContext : HttpContext) :
    List (Text × NullableText) :=
  [("X-Correlation-Id".toList, some httpContext.traceIdentifier),
    ("X-Gateway-Request-Id".toList, some readings.newGuid),
    ("X-Gateway-Timestamp".toList, some (readings.utcNow 0))] ++
  (((httpContext.user.clientId platform.caseMap).filter (fun value => !value.isEmpty)).map
    (fun clientId => ("X-Client-Id".toList, some clientId))).toList

/-- The headers a policy adds, with their templates expanded. -/
def expandedHeaders (platform : Platform) (readings : Readings) (httpContext : HttpContext) :
    Nat → List (Text × NullableText) → List (Text × NullableText)
  | _, [] => []
  | reading, (key, template) :: rest =>
    (key, resolveHeaderValue platform.caseMap template httpContext (readings.utcNow reading)) ::
      expandedHeaders platform readings httpContext (reading + 1) rest

/-- What a policy adds. -/
def headersToAdd (policy : Option EndpointPolicy) : List (Text × NullableText) :=
  (policy.map EndpointPolicy.headersToAdd).getD []

/-- The names a policy removes. -/
def removedNames (policy : Option EndpointPolicy) : List Text :=
  ((policy.map EndpointPolicy.headersToRemove).getD []).reduceOption

/-- Every header the gateway sets, with its value. -/
def headersSet (platform : Platform) (readings : Readings) (httpContext : HttpContext)
    (policy : Option EndpointPolicy) : List (Text × Text) :=
  (ownHeaders platform readings httpContext ++
    expandedHeaders platform readings httpContext 1 (headersToAdd policy)).map
      (fun header => (header.1, header.2.getD []))

/-- Several headers added one after another. -/
def HttpRequestHeaders.addAll (added : List (Text × NullableText)) (headers : HttpRequestHeaders) :
    HttpRequestHeaders :=
  added.foldl (fun held header => held.tryAddWithoutValidation header.1 header.2) headers

@[simp] theorem addAll_nil (headers : HttpRequestHeaders) : headers.addAll [] = headers := rfl

@[simp] theorem addAll_cons (header : Text × NullableText) (rest : List (Text × NullableText))
    (headers : HttpRequestHeaders) : headers.addAll (header :: rest) =
      (headers.tryAddWithoutValidation header.1 header.2).addAll rest := rfl

theorem addAll_append (former latter : List (Text × NullableText)) (headers : HttpRequestHeaders) :
    headers.addAll (former ++ latter) = (headers.addAll former).addAll latter :=
  List.foldl_append

/-- Adding appends the headers whose names are taken. -/
theorem addAll_fields (added : List (Text × NullableText)) (headers : HttpRequestHeaders) :
    (headers.addAll added).fields = headers.fields ++
      (added.map (fun header => (header.1, header.2.getD []))).filter (fun field => takes field.1) := by
  induction added generalizing headers with
  | nil => simp
  | cons header rest addedRest =>
    rw [addAll_cons, addedRest]
    by_cases accepted : takes header.1 = true
    · simp [HttpRequestHeaders.tryAddWithoutValidation, accepted]
    · simp [HttpRequestHeaders.tryAddWithoutValidation, accepted]

@[simp] theorem tryAdd_run (name : Text) (value : NullableText) (context : RequestTransformContext σ) :
    tryAdd name value context =
      (.ok (), { context with
        proxyRequestHeaders :=
          context.proxyRequestHeaders.tryAddWithoutValidation name value }) := rfl

theorem addHeaders_run (reading : Nat) (added : List (Text × NullableText))
    (context : RequestTransformContext σ) :
    addHeaders platform readings httpContext reading added context =
      (.ok (), { context with
        proxyRequestHeaders := context.proxyRequestHeaders.addAll
          (expandedHeaders platform readings httpContext reading added) }) := by
  induction added generalizing reading context with
  | nil => rfl
  | cons header rest addedRest =>
    obtain ⟨key, template⟩ := header
    rw [addHeaders, Effect.bind_ok (tryAdd_run _ _ _), addedRest]
    rfl

theorem addClientId_run (context : RequestTransformContext σ) :
    addClientId platform httpContext.user context =
      (.ok (), { context with
        proxyRequestHeaders := context.proxyRequestHeaders.addAll
          (((httpContext.user.clientId platform.caseMap).filter (fun value => !value.isEmpty)).map
            (fun clientId => ("X-Client-Id".toList, some clientId))).toList }) := by
  rw [addClientId]
  cases (httpContext.user.clientId platform.caseMap).filter (fun value => !value.isEmpty) with
  | none => rfl
  | some clientId =>
    simp only [Option.map_some, Option.toList_some, addAll_cons, addAll_nil]
    exact tryAdd_run _ _ _

/-- Removal that returns has dropped every name of its list. -/
theorem removeHeaders_ok {removed : List NullableText} {context after : RequestTransformContext σ}
    (returned : removeHeaders removed context = (.ok (), after)) :
    after.proxyRequestHeaders.fields =
      Fields.removing headerKey removed.reduceOption context.proxyRequestHeaders.fields := by
  induction removed generalizing context with
  | nil =>
    cases returned
    exact (Fields.removing_nil _).symm
  | cons headerName rest removedRest =>
    rw [removeHeaders, Effect.bind_ok (Effect.gets_run _ _)] at returned
    obtain ⟨remaining, reached, dropped, continued⟩ := Effect.bind_ok_inv returned
    rw [Effect.ofExcept_run] at dropped
    obtain ⟨outcome, rfl⟩ := Prod.mk.inj dropped
    rw [Effect.bind_ok (Effect.update_run _ _)] at continued
    rw [removedRest continued]
    cases headerName with
    | none => simp [HttpRequestHeaders.remove] at outcome
    | some name =>
      have taken : remaining = context.proxyRequestHeaders.drop name := by
        cases name with
        | nil => simp [HttpRequestHeaders.remove] at outcome
        | cons first others =>
          simp only [HttpRequestHeaders.remove] at outcome
          split at outcome
          · exact absurd outcome (by simp)
          · split at outcome
            · exact (Except.ok.inj outcome).symm
            · exact absurd outcome (by simp)
      rw [taken, List.reduceOption_cons_of_some, Fields.removing_cons]
      rfl

/-- What a policy does to the headers when the stage returns. -/
theorem applyPolicy_ok {policy : Option EndpointPolicy} {context after : RequestTransformContext σ}
    (returned : applyPolicy platform readings httpContext policy context = (.ok (), after)) :
    after.proxyRequestHeaders.fields = Fields.removing headerKey (removedNames policy)
      (context.proxyRequestHeaders.addAll
        (expandedHeaders platform readings httpContext 1 (headersToAdd policy))).fields := by
  cases policy with
  | none =>
    cases returned
    exact (Fields.removing_nil _).symm
  | some policy =>
    rw [applyPolicy, Effect.bind_ok (addHeaders_run _ _ _)] at returned
    exact removeHeaders_ok returned

/-- The stage appends what the gateway sets and drops what the policy removes. -/
theorem applyAsync_ok {policyResolver : IPolicyResolver σ} {policy : Option EndpointPolicy}
    {resolved : σ} {context after : RequestTransformContext σ}
    (asked : policyResolver.resolvePolicyAsync context.httpContext.path context.httpContext.method
      context.services = (.ok policy, resolved))
    (returned : applyAsync platform policyResolver readings context = (.ok (), after)) :
    after.proxyRequestHeaders.fields = Fields.removing headerKey (removedNames policy)
      (context.proxyRequestHeaders.fields ++
        (headersSet platform readings context.httpContext policy).filter
          (fun field => takes field.1)) := by
  have asks : call (policyResolver.resolvePolicyAsync context.httpContext.path
      context.httpContext.method) context = (.ok policy, { context with services := resolved }) := by
    rw [call, asked]
  rw [applyAsync, Effect.bind_ok (Effect.gets_run _ _), Effect.bind_ok asks,
    Effect.bind_ok (tryAdd_run _ _ _), Effect.bind_ok (tryAdd_run _ _ _),
    Effect.bind_ok (tryAdd_run _ _ _), Effect.bind_ok (addClientId_run _)] at returned
  have added : context.proxyRequestHeaders.fields ++
      (headersSet platform readings context.httpContext policy).filter (fun field => takes field.1) =
        (context.proxyRequestHeaders.addAll (ownHeaders platform readings context.httpContext ++
          expandedHeaders platform readings context.httpContext 1 (headersToAdd policy))).fields :=
    (addAll_fields _ _).symm
  rw [added, addAll_append, ownHeaders, addAll_append]
  simpa only [addAll_cons, addAll_nil] using applyPolicy_ok returned

end Headers

section Forgery

/-- The names of the headers the gateway sets under a policy. -/
def setNames (policy : Option EndpointPolicy) : List Text :=
  ["X-Client-Id".toList, "X-Correlation-Id".toList, "X-Gateway-Request-Id".toList,
    "X-Gateway-Timestamp".toList] ++ (headersToAdd policy).map Prod.fst

/-- The policy does not remove a name. -/
def Kept (policy : Option EndpointPolicy) (name : Text) : Prop :=
  headerKey name ∉ (removedNames policy).map headerKey

instance (policy : Option EndpointPolicy) (name : Text) : Decidable (Kept policy name) :=
  inferInstanceAs (Decidable (¬ _))

/-- Every header the gateway sets carries the gateway's values alone, or none
when the policy removes it, and without a client id there is no client header. -/
def Unforged (platform : Platform) (readings : Readings) (httpContext : HttpContext)
    (policy : Option EndpointPolicy) (headers : HttpRequestHeaders) : Prop :=
  (∀ name ∈ setNames policy, headers.values name =
    if Kept policy name then
      Fields.values headerKey name (headersSet platform readings httpContext policy)
    else []) ∧
  (Text.isNullOrEmpty (httpContext.user.clientId platform.caseMap) = true →
    headers.values "X-Client-Id".toList = [])

variable {platform : Platform} {readings : Readings} {policy : Option EndpointPolicy}

theorem expandedHeaders_names (httpContext : HttpContext) (reading : Nat)
    (added : List (Text × NullableText)) :
    (expandedHeaders platform readings httpContext reading added).map Prod.fst =
      added.map Prod.fst := by
  induction added generalizing reading with
  | nil => rfl
  | cons header rest namesRest => simp [expandedHeaders, namesRest]

/-- A key of the headers to add is the name of a header that is set. -/
theorem headersSet_key (httpContext : HttpContext) {key : Text}
    (listed : key ∈ (headersToAdd policy).map Prod.fst) :
    ∃ header ∈ headersSet platform readings httpContext policy, header.1 = key := by
  rw [← @expandedHeaders_names platform readings httpContext 1] at listed
  obtain ⟨header, held, named⟩ := List.mem_map.mp listed
  exact ⟨(header.1, header.2.getD []),
    List.mem_map.mpr ⟨header, List.mem_append_right _ held, rfl⟩, named⟩

/-- Without a client id only a policy sets the client header. -/
theorem clientHeader_unset {httpContext : HttpContext}
    (anonymous : Text.isNullOrEmpty (httpContext.user.clientId platform.caseMap) = true) :
    Fields.values headerKey "X-Client-Id".toList
        (headersSet platform readings httpContext policy) = [] ↔
      ∀ header ∈ headersToAdd policy, headerKey header.1 ≠ headerKey "X-Client-Id".toList := by
  have noClient : (httpContext.user.clientId platform.caseMap).filter
      (fun value => !value.isEmpty) = none := by
    cases clientId : httpContext.user.clientId platform.caseMap with
    | none => rfl
    | some value =>
      rw [clientId] at anonymous
      simpa [Text.isNullOrEmpty] using anonymous
  have names : ∀ name, (∃ header ∈ expandedHeaders platform readings httpContext 1
      (headersToAdd policy), header.1 = name) ↔ ∃ header ∈ headersToAdd policy, header.1 = name := by
    intro name
    have same := congrArg (name ∈ ·) (@expandedHeaders_names platform readings
      httpContext 1 (headersToAdd policy))
    simpa only [List.mem_map, eq_iff_iff] using same
  have ownDistinct : ∀ header ∈ ownHeaders platform readings httpContext,
      headerKey header.1 ≠ headerKey "X-Client-Id".toList := by
    rw [ownHeaders, noClient]
    simp only [Option.map_none, Option.toList_none, List.append_nil, List.forall_mem_cons]
    decide
  rw [Fields.values_nil_iff]
  constructor
  · intro unset header listed same
    obtain ⟨expanded, held, named⟩ := (names header.1).mpr ⟨header, listed, rfl⟩
    exact unset (expanded.1, expanded.2.getD [])
      (List.mem_map.mpr ⟨expanded, List.mem_append_right _ held, rfl⟩) (by rw [named, same])
  · intro unlisted field held same
    obtain ⟨header, member, rfl⟩ := List.mem_map.mp held
    rcases List.mem_append.mp member with own | added
    · exact ownDistinct header own same
    · obtain ⟨listed, member, named⟩ := (names header.1).mp ⟨header, added, rfl⟩
      exact unlisted listed member (by rw [named, same])

theorem ownName_taken : ∀ name ∈ ["X-Client-Id".toList, "X-Correlation-Id".toList,
    "X-Gateway-Request-Id".toList, "X-Gateway-Timestamp".toList], takes name = true := by
  decide

/-- What the stage leaves under a name. -/
theorem values_after {policyResolver : IPolicyResolver σ} {resolved : σ}
    {context after : RequestTransformContext σ}
    (asked : policyResolver.resolvePolicyAsync context.httpContext.path context.httpContext.method
      context.services = (.ok policy, resolved))
    (returned : applyAsync platform policyResolver readings context = (.ok (), after))
    (name : Text) :
    after.proxyRequestHeaders.values name =
      if Kept policy name then
        context.proxyRequestHeaders.values name ++
          if takes name then
            Fields.values headerKey name (headersSet platform readings context.httpContext policy)
          else []
      else [] := by
  rw [HttpRequestHeaders.values, applyAsync_ok asked returned]
  by_cases kept : Kept policy name
  · rw [if_pos kept, Fields.values_removing_kept _ kept, Fields.values_append]
    by_cases accepted : takes name = true
    · rw [if_pos accepted, Fields.values_filter_kept takes _ (fun _ => takes_congr) accepted]
      rfl
    · rw [if_neg accepted, Fields.values_filter_dropped takes _ (fun _ => takes_congr)
        (by simpa using accepted)]
      rfl
  · rw [if_neg kept]
    exact Fields.values_removing_removed _ (not_not.mp kept)

/-- Under a name that is not taken nothing is held. -/
theorem values_untaken (headers : HttpRequestHeaders) {name : Text} (refused : takes name ≠ true) :
    headers.values name = [] :=
  Fields.values_nil_iff.mpr (fun field held same =>
    refused (by rw [← takes_congr same, headers.taken field held]))

/-- The gateway's headers cannot be forged exactly when the caller sent none
under a name that is kept, every kept name is one a request takes, and no policy
names a caller that has no client id. -/
theorem headers_unforged_iff {policyResolver : IPolicyResolver σ} {resolved : σ}
    {context after : RequestTransformContext σ}
    (asked : policyResolver.resolvePolicyAsync context.httpContext.path context.httpContext.method
      context.services = (.ok policy, resolved))
    (returned : applyAsync platform policyResolver readings context = (.ok (), after)) :
    Unforged platform readings context.httpContext policy after.proxyRequestHeaders ↔
      (∀ name ∈ setNames policy, Kept policy name →
        context.proxyRequestHeaders.values name = [] ∧ takes name = true) ∧
      (Text.isNullOrEmpty (context.httpContext.user.clientId platform.caseMap) = true →
        Kept policy "X-Client-Id".toList → ∀ header ∈ headersToAdd policy,
          headerKey header.1 ≠ headerKey "X-Client-Id".toList) := by
  have clientName : "X-Client-Id".toList ∈ setNames policy := by simp [setNames]
  have left := values_after asked returned
  constructor
  · rintro ⟨exactly, absent⟩
    have whole : ∀ name ∈ setNames policy, Kept policy name →
        context.proxyRequestHeaders.values name = [] ∧ takes name = true := by
      intro name named kept
      have same := exactly name named
      rw [left, if_pos kept, if_pos kept] at same
      by_cases accepted : takes name = true
      · rw [if_pos accepted] at same
        exact ⟨List.append_left_eq_self.mp same, accepted⟩
      · -- Only a key of the policy can be refused, and the gateway has a value for it.
        rw [values_untaken _ accepted, if_neg accepted] at same
        rcases List.mem_append.mp named with own | listed
        · exact absurd (ownName_taken name own) accepted
        · obtain ⟨header, held, rfl⟩ := @headersSet_key platform readings
            _ context.httpContext _ listed
          exact absurd same.symm (Fields.values_ne_nil held rfl)
    refine ⟨whole, fun anonymous kept => ?_⟩
    have unset := exactly _ clientName
    rw [absent anonymous, if_pos kept] at unset
    exact (clientHeader_unset anonymous).mp unset.symm
  · rintro ⟨unsent, unnamed⟩
    refine ⟨?_, ?_⟩
    · intro name named
      rw [left]
      by_cases kept : Kept policy name
      · obtain ⟨none, accepted⟩ := unsent name named kept
        simp [kept, none, accepted]
      · rw [if_neg kept, if_neg kept]
    · intro anonymous
      rw [left]
      by_cases kept : Kept policy "X-Client-Id".toList
      · obtain ⟨none, accepted⟩ := unsent _ clientName kept
        rw [if_pos kept, none, if_pos accepted,
          (clientHeader_unset anonymous).mpr (unnamed anonymous kept)]
        rfl
      · rw [if_neg kept]

/-- A machine whose readings do not change. -/
def fixedReadings : Readings := ⟨"0f8f".toList, fun _ => "2025-01-01T00:00:00Z".toList⟩

def headeredService : Service :=
  .sample 1 "orders".toList "/orders".toList "v1".toList "orders".toList
    "[\"http://orders\"]".toList

/-- An endpoint that adds one header and removes another. -/
def headeredEndpoint : Endpoint :=
  { Endpoint.sample 2 1 "list".toList "GET".toList "/list".toList with
    headersToAdd := some "\x7b\"X-Tenant\":\"\x7bClientId\x7d\"\x7d".toList
    headersToRemove := some "[\"X-Internal\"]".toList }

def headeredGateway : Gateway :=
  (PolicyResolver.refreshPoliciesAsync plainPlatform
    (Gateway.started (Database.ofEndpoint .sample headeredService headeredEndpoint))).2

def headeredPolicy : EndpointPolicy :=
  PolicyResolver.buildEndpointPolicy plainPlatform .sample headeredService headeredEndpoint

/-- Alice's request, copied with headers of her own. -/
def requestOf (headers : HttpRequestHeaders) : RequestTransformContext Gateway where
  services := headeredGateway
  httpContext := HttpContext.request (Principal.subject "alice".toList)
    "/gateway/orders/list".toList "GET".toList []
  proxyRequestHeaders := headers

/-- The request after the stage. -/
def sentOn (headers : HttpRequestHeaders) : RequestTransformContext Gateway :=
  (applyAsync plainPlatform (PolicyResolver.policyResolver plainPlatform) fixedReadings
    (requestOf headers)).2

theorem sentOn_run {headers : HttpRequestHeaders}
    (returned : (applyAsync plainPlatform (PolicyResolver.policyResolver plainPlatform) fixedReadings
      (requestOf headers)).1 = .ok ()) :
    applyAsync plainPlatform (PolicyResolver.policyResolver plainPlatform) fixedReadings
      (requestOf headers) = (.ok (), sentOn headers) := by
  rw [sentOn, ← returned]

theorem headered_resolved :
    (PolicyResolver.resolvePolicyAsync plainPlatform "/gateway/orders/list".toList "GET".toList
      headeredGateway).1 = .ok (some headeredPolicy) := by
  decide +kernel

/-- Headers without a caller's forgery. -/
def plainHeaders : HttpRequestHeaders :=
  ⟨[("Accept".toList, "*/*".toList), ("x-internal".toList, "1".toList)], by decide⟩

theorem headers_unforged_iff_plain :
    Unforged plainPlatform fixedReadings (requestOf plainHeaders).httpContext (some headeredPolicy)
        (sentOn plainHeaders).proxyRequestHeaders ↔
      (∀ name ∈ setNames (some headeredPolicy), Kept (some headeredPolicy) name →
        (requestOf plainHeaders).proxyRequestHeaders.values name = [] ∧ takes name = true) ∧
      (Text.isNullOrEmpty ((requestOf plainHeaders).httpContext.user.clientId
          plainPlatform.caseMap) = true →
        Kept (some headeredPolicy) "X-Client-Id".toList →
          ∀ header ∈ headersToAdd (some headeredPolicy),
            headerKey header.1 ≠ headerKey "X-Client-Id".toList) :=
  headers_unforged_iff (Prod.ext headered_resolved rfl) (sentOn_run (by decide +kernel))

def forgedHeaders : HttpRequestHeaders := ⟨[("x-client-id".toList, "bob".toList)], by decide⟩

/-- The upstream is told of bob as well as of alice. -/
theorem client_header_forged :
    (PolicyResolver.resolvePolicyAsync plainPlatform "/gateway/orders/list".toList "GET".toList
        headeredGateway).1 = .ok (some headeredPolicy) ∧
      (sentOn forgedHeaders).proxyRequestHeaders.values "X-Client-Id".toList =
        ["bob".toList, "alice".toList] ∧
      ¬ Unforged plainPlatform fixedReadings (requestOf forgedHeaders).httpContext
        (some headeredPolicy) (sentOn forgedHeaders).proxyRequestHeaders := by
  have held : (sentOn forgedHeaders).proxyRequestHeaders.values "X-Client-Id".toList =
      ["bob".toList, "alice".toList] := by
    decide +kernel
  refine ⟨headered_resolved, held, fun unforged => ?_⟩
  have exactly := unforged.1 "X-Client-Id".toList (by decide +kernel)
  have set : Fields.values headerKey "X-Client-Id".toList (headersSet plainPlatform fixedReadings
      (requestOf forgedHeaders).httpContext (some headeredPolicy)) = ["alice".toList] := by
    decide +kernel
  rw [held, set] at exactly
  revert exactly
  decide

end Forgery

end HeaderTransform

end ApiGateway
