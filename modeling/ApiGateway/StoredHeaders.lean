import ApiGateway.AdminCreates
import ApiGateway.HeaderTransform

/-!
# Configured headers from the request to the stage

An administrator sends an object of headers to add and a list of names to remove.
The handlers store both as JSON texts, the refresh reads the texts into the policy
of the endpoint, and the header stage applies the policy.

The object is read as one of texts. A member of another kind fails the reading as
a whole, and a reading that fails counts as an empty object. Of members with one
name the last is the object's.
-/

namespace ApiGateway.StoredHeaders

open Effects Admin HeaderTransform

/-- The members of an object: of those with one name the last. -/
def lastMembers : List (Text × JsonElement) → List (Text × JsonElement)
  | [] => []
  | member :: rest =>
    if member.1 ∈ rest.map Prod.fst then lastMembers rest else member :: lastMembers rest

/-- A member's value as a text; only a text and null are ones. -/
def readMember : Text × JsonElement → Option (Text × NullableText)
  | (name, .string value) => some (name, some value)
  | (name, .null) => some (name, none)
  | _ => none

/-- The texts of a JSON column. -/
def jsonText : Option Value → Option Text
  | some (.json text) => some text
  | _ => none

section Storing

variable {Others : Type}

/-- A row of endpoints that a request has left: it sent the raw text of the object
and the list. -/
inductive Wrote (postgres : Postgres Others) (conversions : Conversions) (raw : Text)
    (removed : List NullableText) : Row .endpoints → Prop where
  | created (id : Guid) (request : CreateRequest postEndpoint)
      (added : request EndpointColumn.headersToAdd = some raw)
      (dropped : request EndpointColumn.headersToRemove = some removed) :
      Wrote postgres conversions raw removed
        (@createdRow _ .endpoints postEndpoint postgres conversions id request)
  | updated (request : Request .endpoints) (row : Row .endpoints)
      (added : request EndpointColumn.headersToAdd = some raw)
      (dropped : request EndpointColumn.headersToRemove = some removed) :
      Wrote postgres conversions raw removed
        (coalesced postgres .endpoints (parameters conversions .endpoints request (loaded row)) row)

/-- What is documented of the texts: the server keeps the object's members, in an
order of its own, and the list; reading an object as one of texts fails if a
member is neither a text nor null. -/
structure Reads (platform : Platform) (postgres : Postgres Others) (conversions : Conversions)
    (raw : Text) (members : List (Text × JsonElement)) (removed : List NullableText) : Prop where
  parsed : platform.parseJson raw = .ok (.object members)
  object : ∃ (stored : Text) (kept : List (Text × JsonElement)),
    postgres.convert .endpoints EndpointColumn.headersToAdd (.json raw) = .json stored ∧
    Text.isNullOrWhiteSpace (some stored) = false ∧ kept.Perm (lastMembers members) ∧
    (∀ texts, kept.mapM readMember = some texts →
      platform.deserializeStringMap stored = .ok (some texts)) ∧
    (kept.mapM readMember = none →
      ∃ fault, platform.deserializeStringMap stored = .error fault)
  list : ∃ stored, postgres.convert .endpoints EndpointColumn.headersToRemove
      (.json (conversions.serialize removed)) = .json stored ∧
    Text.isNullOrWhiteSpace (some stored) = false ∧
    platform.deserializeStrings stored = .ok (some removed)

/-- The endpoint's header columns are those of the row. -/
def Holds (row : Row .endpoints) (endpoint : Endpoint) : Prop :=
  endpoint.headersToAdd = jsonText (row EndpointColumn.headersToAdd) ∧
    endpoint.headersToRemove = jsonText (row EndpointColumn.headersToRemove)

variable {postgres : Postgres Others} {conversions : Conversions} {raw : Text}
  {removed : List NullableText} {row : Row .endpoints}

theorem wrote_columns (wrote : Wrote postgres conversions raw removed row) :
    row EndpointColumn.headersToAdd =
        some (postgres.convert .endpoints EndpointColumn.headersToAdd (.json raw)) ∧
      row EndpointColumn.headersToRemove = some (postgres.convert .endpoints
        EndpointColumn.headersToRemove (.json (conversions.serialize removed))) := by
  cases wrote with
  | created id request added dropped =>
    simp only [createdRow, inserted, postEndpoint, added, dropped]
    exact ⟨rfl, rfl⟩
  | updated request row added dropped =>
    exact ⟨present_taken rfl added rfl, present_taken rfl dropped rfl⟩

end Storing

section Members

variable {members : List (Text × JsonElement)}

theorem lastMembers_sublist (members : List (Text × JsonElement)) :
    (lastMembers members).Sublist members := by
  induction members with
  | nil => exact List.Sublist.refl _
  | cons member rest ih =>
    rw [lastMembers]
    split
    · exact ih.cons member
    · exact ih.cons_cons member

/-- No two members that count have one name. -/
theorem nodup_lastMembers (members : List (Text × JsonElement)) :
    ((lastMembers members).map Prod.fst).Nodup := by
  induction members with
  | nil => exact List.nodup_nil
  | cons member rest ih =>
    rw [lastMembers]
    split
    · exact ih
    · next fresh =>
      rw [List.map_cons, List.nodup_cons]
      refine ⟨fun named => fresh ?_, ih⟩
      exact ((lastMembers_sublist rest).map Prod.fst).subset named

theorem readMember_name {member : Text × JsonElement} {entry : Text × NullableText}
    (read : readMember member = some entry) : entry.1 = member.1 := by
  obtain ⟨name, value⟩ := member
  cases value with
  | null =>
    cases read
    rfl
  | string text =>
    cases read
    rfl
  | _ => cases read

theorem map_readMember {kept : List (Text × JsonElement)} {texts : List (Text × NullableText)}
    (read : kept.mapM readMember = some texts) : kept.map readMember = texts.map some := by
  induction kept generalizing texts with
  | nil =>
    cases read
    rfl
  | cons member rest ih =>
    rw [List.mapM_cons] at read
    obtain ⟨entry, first, others⟩ := Option.bind_eq_some_iff.mp read
    obtain ⟨entries, later, whole⟩ := Option.bind_eq_some_iff.mp others
    cases whole
    rw [List.map_cons, first, ih later, List.map_cons]

/-- The texts that are read are those of the members. -/
theorem mem_texts_iff {kept : List (Text × JsonElement)} {texts : List (Text × NullableText)}
    (read : kept.mapM readMember = some texts) (entry : Text × NullableText) :
    entry ∈ texts ↔ ∃ member ∈ kept, readMember member = some entry := by
  rw [← List.mem_map, map_readMember read]
  simp

theorem names_texts {kept : List (Text × JsonElement)} {texts : List (Text × NullableText)}
    (read : kept.mapM readMember = some texts) : texts.map Prod.fst = kept.map Prod.fst := by
  have named : ∀ member ∈ kept, (readMember member).map Prod.fst = some member.1 := by
    intro member listed
    have found : readMember member ∈ texts.map some :=
      map_readMember read ▸ List.mem_map_of_mem listed
    obtain ⟨entry, _, reads⟩ := List.mem_map.mp found
    rw [← reads, Option.map_some, readMember_name reads.symm]
  apply List.map_injective_iff.mpr (fun _ _ => Option.some.inj)
  calc (texts.map Prod.fst).map some
      = (texts.map some).map (Option.map Prod.fst) := by simp
    _ = kept.map (fun member => (readMember member).map Prod.fst) := by
        rw [← map_readMember read, List.map_map]
        rfl
    _ = (kept.map Prod.fst).map some := by
        rw [List.map_map]
        exact List.map_congr_left named

/-- Members are read unless one of them is no text. -/
theorem mapM_readMember_none {kept : List (Text × JsonElement)} :
    kept.mapM readMember = none ↔ ∃ member ∈ kept, readMember member = none := by
  induction kept with
  | nil => simp
  | cons member rest ih =>
    rw [List.mapM_cons]
    cases first : readMember member with
    | none => simp [first]
    | some entry =>
      cases later : rest.mapM readMember with
      | none => simpa [first, later] using ih.mp later
      | some entries =>
        have none : ¬ ∃ member ∈ rest, readMember member = none := by
          rw [← ih, later]
          simp
        simpa [first, later] using none

end Members

/-- The list does not remove a name. -/
def KeptBy (removed : List NullableText) (name : Text) : Prop :=
  headerKey name ∉ removed.reduceOption.map headerKey

/-- A header is a member with its template expanded at some reading of the clock. -/
def Expands (platform : Platform) (readings : Readings) (httpContext : HttpContext)
    (member : Text × JsonElement) (field : Text × Text) : Prop :=
  ∃ template reading, readMember member = some (field.1, template) ∧
    field.2 = (resolveHeaderValue platform.caseMap template httpContext
      (readings.utcNow reading)).getD []

/-- What the gateway has of its own under a name. -/
def ownValues (platform : Platform) (readings : Readings) (httpContext : HttpContext) (name : Text) :
    List Text :=
  Fields.values headerKey name ((ownHeaders platform readings httpContext).map
    (fun header => (header.1, header.2.getD [])))

/-- The fields that a policy adds. -/
def policyFields (platform : Platform) (readings : Readings) (httpContext : HttpContext)
    (headersToAdd : List (Text × NullableText)) : List (Text × Text) :=
  (expandedHeaders platform readings httpContext 1 headersToAdd).map
    (fun header => (header.1, header.2.getD []))

section Stage

variable {σ : Type}

/-- The stage returns, every member that is a text has been added under its name
unless that is removed, and under a removed name nothing is left. A member that is
null may have been added. -/
structure Survives (platform : Platform) (readings : Readings) (members : List (Text × JsonElement))
    (removed : List NullableText) (context : RequestTransformContext σ)
    (outcome : Except Fault Unit × RequestTransformContext σ) : Prop where
  returned : outcome.1 = .ok ()
  members : ∃ added : List (Text × Text), (added.map Prod.fst).Nodup ∧
    (∀ field ∈ added, ∃ member ∈ lastMembers members,
      Expands platform readings context.httpContext member field) ∧
    (∀ name template, (name, .string template) ∈ lastMembers members → KeptBy removed name →
      ∃ field ∈ added, Expands platform readings context.httpContext (name, .string template) field) ∧
    ∀ name, KeptBy removed name → outcome.2.proxyRequestHeaders.values name =
      context.proxyRequestHeaders.values name ++
        (ownValues platform readings context.httpContext name ++ Fields.values headerKey name added)
  removed : ∀ name, some name ∈ removed → outcome.2.proxyRequestHeaders.values name = []

/-- The removed names are ones that a request takes, so are the names of texts that
are kept, and either every member is a text or null or no text is kept. -/
structure Usable (members : List (Text × JsonElement)) (removed : List NullableText) : Prop where
  removable : ∀ entry ∈ removed, ∃ name, entry = some name ∧ takes name = true
  addable : ∀ name template, (name, .string template) ∈ lastMembers members →
    KeptBy removed name → takes name = true
  readable : (∀ member ∈ lastMembers members, readMember member ≠ none) ∨
    ∀ name template, (name, .string template) ∈ lastMembers members → ¬ KeptBy removed name

theorem remove_taken {name : Text} (headers : HttpRequestHeaders) (taken : takes name = true) :
    headers.remove (some name) = .ok (headers.drop name) := by
  cases name with
  | nil => cases taken
  | cons first rest =>
    have tokens : (first :: rest).all isTokenCharacter = true := by
      rw [takes, Bool.and_eq_true, Bool.and_eq_true] at taken
      exact taken.1.2
    simp only [HttpRequestHeaders.remove]
    rw [if_neg (not_not.mpr tokens), if_pos taken]

theorem remove_ok {entry : NullableText} {headers remaining : HttpRequestHeaders}
    (dropped : headers.remove entry = .ok remaining) : ∃ name, entry = some name ∧ takes name = true := by
  cases entry with
  | none => cases dropped
  | some name =>
    cases name with
    | nil => cases dropped
    | cons first rest =>
      simp only [HttpRequestHeaders.remove] at dropped
      split at dropped
      · cases dropped
      · split at dropped
        · next taken => exact ⟨first :: rest, rfl, taken⟩
        · cases dropped

/-- Removal returns exactly if every name is one that a request takes. -/
theorem removeHeaders_returns {removed : List NullableText} (context : RequestTransformContext σ) :
    (removeHeaders removed context).1 = .ok () ↔
      ∀ entry ∈ removed, ∃ name, entry = some name ∧ takes name = true := by
  induction removed generalizing context with
  | nil => simp [removeHeaders]
  | cons entry rest ih =>
    rw [removeHeaders, Effect.bind_ok (Effect.gets_run _ _), List.forall_mem_cons]
    cases dropped : context.proxyRequestHeaders.remove entry with
    | error fault =>
      have thrown : Effect.ofExcept (context.proxyRequestHeaders.remove entry) context =
          (.error fault, context) := by
        rw [Effect.ofExcept_run, dropped]
      rw [dropped] at thrown
      rw [Effect.bind_error thrown]
      constructor
      · intro impossible
        cases impossible
      · rintro ⟨⟨name, rfl, taken⟩, _⟩
        rw [remove_taken _ taken] at dropped
        cases dropped
    | ok remaining =>
      rw [Effect.bind_ok (Effect.ofExcept_run _ _), Effect.bind_ok (Effect.update_run _ _), ih]
      constructor
      · exact fun others => ⟨remove_ok dropped, others⟩
      · exact fun both => both.2

variable {Others : Type} {postgres : Postgres Others} {conversions : Conversions} {raw : Text}
  {members : List (Text × JsonElement)} {removed : List NullableText} {row : Row .endpoints}
  {platform : Platform} {readings : Readings} {endpoint : Endpoint} {policy : EndpointPolicy}
  {policyResolver : IPolicyResolver σ} {resolved : σ} {context : RequestTransformContext σ}

/-- What a policy's headers have of the request: the members if they could be read,
and the names to remove. -/
structure ReadInto (members : List (Text × JsonElement)) (removed : List NullableText)
    (policy : EndpointPolicy) : Prop where
  added : ∃ kept : List (Text × JsonElement), kept.Perm (lastMembers members) ∧
    policy.headersToAdd = (kept.mapM readMember).getD []
  removed : policy.headersToRemove = removed

/-- The policy of the endpoint has the request's headers. -/
theorem readInto_policy (wrote : Wrote postgres conversions raw removed row)
    (reads : Reads platform postgres conversions raw members removed) (holds : Holds row endpoint)
    (product : Product) (service : Service) :
    ReadInto members removed (PolicyResolver.buildEndpointPolicy platform product service endpoint) := by
  obtain ⟨addColumn, removeColumn⟩ := wrote_columns wrote
  obtain ⟨stored, kept, converted, filled, permuted, read, unread⟩ := reads.object
  obtain ⟨list, listConverted, listFilled, listRead⟩ := reads.list
  constructor
  · refine ⟨kept, permuted, ?_⟩
    have text : endpoint.headersToAdd = some stored := by
      rw [holds.1, addColumn, converted, jsonText]
    change PolicyResolver.parseJsonObject platform endpoint.headersToAdd = _
    rw [text, PolicyResolver.parseJsonObject, filled]
    cases whole : kept.mapM readMember with
    | none =>
      obtain ⟨fault, thrown⟩ := unread whole
      simp [thrown]
    | some texts => simp [read texts whole]
  · have text : endpoint.headersToRemove = some list := by
      rw [holds.2, removeColumn, listConverted, jsonText]
    change PolicyResolver.parseJsonArray platform endpoint.headersToRemove = _
    rw [text, PolicyResolver.parseJsonArray, listFilled]
    simp [listRead]

/-- The stage returns exactly if the removal does. -/
theorem applyAsync_returns
    (asked : policyResolver.resolvePolicyAsync context.httpContext.path context.httpContext.method
      context.services = (.ok (some policy), resolved)) :
    (applyAsync platform policyResolver readings context).1 = .ok () ↔
      ∀ entry ∈ policy.headersToRemove, ∃ name, entry = some name ∧ takes name = true := by
  have asks : call (policyResolver.resolvePolicyAsync context.httpContext.path
      context.httpContext.method) context =
        (.ok (some policy), { context with services := resolved }) := by
    rw [call, asked]
  rw [applyAsync, Effect.bind_ok (Effect.gets_run _ _), Effect.bind_ok asks,
    Effect.bind_ok (tryAdd_run _ _ _), Effect.bind_ok (tryAdd_run _ _ _),
    Effect.bind_ok (tryAdd_run _ _ _), Effect.bind_ok (addClientId_run _), applyPolicy,
    Effect.bind_ok (addHeaders_run _ _ _), removeHeaders_returns]

theorem ownHeaders_taken (httpContext : HttpContext) :
    ∀ header ∈ ownHeaders platform readings httpContext, takes header.1 = true := by
  intro header held
  apply ownName_taken
  rw [ownHeaders, List.mem_append] at held
  rcases held with fixed | client
  · simp only [List.mem_cons, List.not_mem_nil, or_false] at fixed
    rcases fixed with rfl | rfl | rfl <;> simp
  · obtain ⟨clientId, _, rfl⟩ := Option.map_eq_some_iff.mp (Option.mem_toList.mp client)
    simp

/-- Under a name that is kept, a stage that returns leaves what it found, then what
the gateway has of its own, then what the policy adds, if the name is taken. -/
theorem values_kept
    (asked : policyResolver.resolvePolicyAsync context.httpContext.path context.httpContext.method
      context.services = (.ok (some policy), resolved))
    (returned : (applyAsync platform policyResolver readings context).1 = .ok ())
    {name : Text} (kept : KeptBy policy.headersToRemove name) :
    (applyAsync platform policyResolver readings context).2.proxyRequestHeaders.values name =
      context.proxyRequestHeaders.values name ++
        (ownValues platform readings context.httpContext name ++
          if takes name then Fields.values headerKey name
            (policyFields platform readings context.httpContext policy.headersToAdd)
          else []) := by
  have keptName : Kept (some policy) name := kept
  rw [values_after asked (Prod.ext returned rfl), if_pos keptName]
  congr 1
  by_cases taken : takes name = true
  · rw [if_pos taken, if_pos taken, headersSet, List.map_append, Fields.values_append]
    rfl
  · have none : ownValues platform readings context.httpContext name = [] := by
      apply Fields.values_nil_iff.mpr
      intro field held same
      obtain ⟨header, own, rfl⟩ := List.mem_map.mp held
      exact taken ((takes_congr same).symm.trans (ownHeaders_taken context.httpContext header own))
    rw [if_neg taken, if_neg taken, none]
    rfl

theorem expandedHeaders_of_mem {httpContext : HttpContext} {reading : Nat}
    {added : List (Text × NullableText)} (header : Text × NullableText) :
    header ∈ expandedHeaders platform readings httpContext reading added →
      ∃ template later, (header.1, template) ∈ added ∧ header.2 =
        resolveHeaderValue platform.caseMap template httpContext (readings.utcNow later) := by
  induction added generalizing reading with
  | nil => simp [expandedHeaders]
  | cons first rest ih =>
    rw [expandedHeaders, List.mem_cons]
    rintro (rfl | later)
    · exact ⟨first.2, reading, List.mem_cons_self, rfl⟩
    · obtain ⟨template, clock, listed, expanded⟩ := ih later
      exact ⟨template, clock, List.mem_cons_of_mem first listed, expanded⟩

theorem expandedHeaders_mem {httpContext : HttpContext} {reading : Nat}
    {added : List (Text × NullableText)} {key : Text} {template : NullableText}
    (listed : (key, template) ∈ added) :
    ∃ later, (key, resolveHeaderValue platform.caseMap template httpContext (readings.utcNow later)) ∈
      expandedHeaders platform readings httpContext reading added := by
  induction added generalizing reading with
  | nil => cases listed
  | cons first rest ih =>
    rw [expandedHeaders]
    rcases List.mem_cons.mp listed with rfl | member
    · exact ⟨reading, List.mem_cons_self⟩
    · obtain ⟨later, held⟩ := ih member
      exact ⟨later, List.mem_cons_of_mem _ held⟩

/-- A policy's fields are the members that were read, expanded. -/
theorem policyFields_expand {httpContext : HttpContext} {kept : List (Text × JsonElement)}
    {texts : List (Text × NullableText)} (read : kept.mapM readMember = some texts) :
    (∀ field ∈ policyFields platform readings httpContext texts,
        ∃ member ∈ kept, Expands platform readings httpContext member field) ∧
      ∀ member ∈ kept, ∃ field ∈ policyFields platform readings httpContext texts,
        Expands platform readings httpContext member field := by
  constructor
  · intro field held
    obtain ⟨header, added, rfl⟩ := List.mem_map.mp held
    obtain ⟨template, clock, listed, expanded⟩ := expandedHeaders_of_mem header added
    obtain ⟨member, ofKept, reads⟩ := (mem_texts_iff read _).mp listed
    exact ⟨member, ofKept, template, clock, reads, by rw [expanded]⟩
  · intro member ofKept
    cases reads : readMember member with
    | none =>
      have unread := mapM_readMember_none.mpr ⟨member, ofKept, reads⟩
      rw [read] at unread
      cases unread
    | some entry =>
      obtain ⟨name, template⟩ := entry
      obtain ⟨clock, added⟩ :=
        expandedHeaders_mem ((mem_texts_iff read (name, template)).mpr ⟨member, ofKept, reads⟩)
      exact ⟨_, List.mem_map_of_mem added, template, clock, reads, rfl⟩

theorem policyFields_names (httpContext : HttpContext) (texts : List (Text × NullableText)) :
    (policyFields platform readings httpContext texts).map Prod.fst = texts.map Prod.fst := by
  rw [policyFields, List.map_map]
  exact expandedHeaders_names httpContext 1 texts

/-- Members of different names are fields of different names. -/
theorem policyFields_nodup (httpContext : HttpContext) {kept : List (Text × JsonElement)}
    {texts : List (Text × NullableText)} (permuted : kept.Perm (lastMembers members))
    (read : kept.mapM readMember = some texts) :
    ((policyFields platform readings httpContext texts).map Prod.fst).Nodup := by
  rw [policyFields_names, names_texts read, (permuted.map Prod.fst).nodup_iff]
  exact nodup_lastMembers members

/-- Under a removed name nothing is left. -/
theorem values_removed
    (asked : policyResolver.resolvePolicyAsync context.httpContext.path context.httpContext.method
      context.services = (.ok (some policy), resolved))
    (returned : (applyAsync platform policyResolver readings context).1 = .ok ()) {name : Text}
    (listed : some name ∈ policy.headersToRemove) :
    (applyAsync platform policyResolver readings context).2.proxyRequestHeaders.values name = [] := by
  have removes : ¬ Kept (some policy) name := by
    apply not_not.mpr
    exact List.mem_map_of_mem (List.reduceOption_mem_iff.mpr listed)
  rw [values_after asked (Prod.ext returned rfl), if_neg removes]

/-- A text that is kept has a value, so its name is taken and the members were read. -/
theorem usable_of_survives (into : ReadInto members removed policy)
    (asked : policyResolver.resolvePolicyAsync context.httpContext.path context.httpContext.method
      context.services = (.ok (some policy), resolved))
    (survives : Survives platform readings members removed context
      (applyAsync platform policyResolver readings context)) : Usable members removed := by
  obtain ⟨⟨kept, permuted, added⟩, rfl⟩ := into
  obtain ⟨returned, ⟨fields, _, _, each, values⟩, _⟩ := survives
  have held : ∀ name template, (name, JsonElement.string template) ∈ lastMembers members →
      KeptBy policy.headersToRemove name → takes name = true ∧ policy.headersToAdd ≠ [] := by
    intro name template listed keeps
    obtain ⟨field, ofFields, text, clock, reads, _⟩ := each name template listed keeps
    have named : field.1 = name := readMember_name reads
    have present : Fields.values headerKey name fields ≠ [] :=
      Fields.values_ne_nil ofFields (congrArg headerKey named)
    have same := (values_kept asked returned keeps).symm.trans (values name keeps)
    rw [List.append_cancel_left_eq, List.append_cancel_left_eq] at same
    by_cases taken : takes name = true
    · refine ⟨taken, fun nothing => present ?_⟩
      rw [← same, nothing, if_pos taken]
      rfl
    · rw [if_neg taken] at same
      exact absurd same.symm present
  constructor
  · exact (applyAsync_returns asked).mp returned
  · exact fun name template listed keeps => (held name template listed keeps).1
  · cases whole : kept.mapM readMember with
    | none =>
      apply Or.inr
      intro name template listed keeps
      apply (held name template listed keeps).2
      rw [added, whole]
      rfl
    | some texts =>
      apply Or.inl
      intro member listed unread
      have failed := mapM_readMember_none.mpr ⟨member, permuted.mem_iff.mpr listed, unread⟩
      rw [whole] at failed
      cases failed

/-- Usable headers survive: the names that a request takes are added. -/
theorem survives_of_usable (into : ReadInto members removed policy)
    (asked : policyResolver.resolvePolicyAsync context.httpContext.path context.httpContext.method
      context.services = (.ok (some policy), resolved))
    (usable : Usable members removed) :
    Survives platform readings members removed context
      (applyAsync platform policyResolver readings context) := by
  obtain ⟨⟨kept, permuted, added⟩, rfl⟩ := into
  obtain ⟨removable, addable, readable⟩ := usable
  have returned : (applyAsync platform policyResolver readings context).1 = .ok () :=
    (applyAsync_returns asked).mpr removable
  refine ⟨returned, ?_, fun name listed => values_removed asked returned listed⟩
  cases whole : kept.mapM readMember with
  | none =>
    rw [whole] at added
    have unread : ¬ ∀ member ∈ lastMembers members, readMember member ≠ none := by
      intro read
      obtain ⟨member, ofKept, fails⟩ := mapM_readMember_none.mp whole
      exact read member (permuted.mem_iff.mp ofKept) fails
    refine ⟨[], List.nodup_nil, by simp, ?_, ?_⟩
    · intro name template listed keeps
      exact absurd keeps (readable.resolve_left unread name template listed)
    · intro name keeps
      rw [values_kept asked returned keeps, added]
      simp [policyFields, expandedHeaders, Fields.values]
  | some texts =>
    rw [whole, Option.getD_some] at added
    obtain ⟨only, each⟩ := @policyFields_expand platform readings context.httpContext kept texts whole
    refine ⟨(policyFields platform readings context.httpContext texts).filter
      (fun field => takes field.1), ?_, ?_, ?_, ?_⟩
    · exact (policyFields_nodup context.httpContext permuted whole).sublist
        (List.filter_sublist.map Prod.fst)
    · intro field held
      obtain ⟨member, ofKept, expands⟩ := only field (List.mem_filter.mp held).1
      exact ⟨member, permuted.mem_iff.mp ofKept, expands⟩
    · intro name template listed keeps
      obtain ⟨field, held, expands⟩ := each _ (permuted.mem_iff.mpr listed)
      have named : field.1 = name := by
        obtain ⟨text, clock, reads, _⟩ := expands
        exact readMember_name reads
      refine ⟨field, List.mem_filter.mpr ⟨held, ?_⟩, expands⟩
      rw [named]
      exact addable name template listed keeps
    · intro name keeps
      rw [values_kept asked returned keeps, added]
      congr 2
      by_cases taken : takes name = true
      · rw [if_pos taken, Fields.values_filter_kept takes _ (fun _ => takes_congr) taken]
      · rw [if_neg taken, Fields.values_filter_dropped takes _ (fun _ => takes_congr)
          (by simpa using taken)]

/-- The headers that a request has sent survive their storage exactly if the names
to remove and the names of the texts that are kept are ones that a request takes,
and every member is a text or null or no text is kept. -/
theorem headers_survive_iff (wrote : Wrote postgres conversions raw removed row)
    (reads : Reads platform postgres conversions raw members removed) (holds : Holds row endpoint)
    (product : Product) (service : Service)
    (asked : policyResolver.resolvePolicyAsync context.httpContext.path context.httpContext.method
      context.services =
        (.ok (some (PolicyResolver.buildEndpointPolicy platform product service endpoint)),
          resolved)) :
    Survives platform readings members removed context
        (applyAsync platform policyResolver readings context) ↔ Usable members removed :=
  have into := readInto_policy wrote reads holds product service
  ⟨usable_of_survives into asked, survives_of_usable into asked⟩

end Stage

/-- An object of a text and a number. -/
def mixedMembers : List (Text × JsonElement) :=
  [("X-Tenant".toList, .string "acme".toList), ("X-Version".toList, .number "1".toList)]

def mixedText : Text := "\x7b\"X-Tenant\":\"acme\",\"X-Version\":1\x7d".toList

/-- The sample platform, which reads that object and refuses it as one of texts. -/
def mixedPlatform : Platform :=
  { plainPlatform with
    parseJson := fun text => if text = mixedText then .ok (.object mixedMembers) else plainJson text }

/-- A request for an endpoint with both. -/
def mixedRequest : CreateRequest postEndpoint := fun (column : EndpointColumn) =>
  match column with
  | .headersToAdd => some mixedText
  | .headersToRemove => some [some "X-Old".toList]
  | _ => none

def mixedRow : Row .endpoints :=
  @createdRow _ .endpoints postEndpoint lenient plainConversions (Guid.numbered 2) mixedRequest

def mixedEndpoint : Endpoint :=
  { headeredEndpoint with
    headersToAdd := some mixedText
    headersToRemove := some "[\"X-Old\"]".toList }

def mixedPolicy : EndpointPolicy :=
  PolicyResolver.buildEndpointPolicy mixedPlatform .sample headeredService mixedEndpoint

/-- The resolver answers every request with the endpoint's policy. -/
def mixedResolver : IPolicyResolver Unit where
  resolvePolicyAsync := fun _ _ state => (.ok (some mixedPolicy), state)

def mixedContext : RequestTransformContext Unit where
  services := ()
  httpContext := HttpContext.request (Principal.subject "alice".toList)
    "/gateway/orders/list".toList "GET".toList []
  proxyRequestHeaders := plainHeaders

theorem mixed_wrote : Wrote lenient plainConversions mixedText [some "X-Old".toList] mixedRow :=
  .created (Guid.numbered 2) mixedRequest rfl rfl

theorem mixed_reads : Reads mixedPlatform lenient plainConversions mixedText mixedMembers
    [some "X-Old".toList] where
  parsed := by simp [mixedPlatform]
  object := by
    refine ⟨mixedText, mixedMembers, rfl, by decide, ?_, ?_, ?_⟩
    · have distinct : lastMembers mixedMembers = mixedMembers := by
        simp [lastMembers, mixedMembers]
      rw [distinct]
    · intro texts read
      cases read
    · intro _
      exact ⟨⟨"JsonException".toList⟩, rfl⟩
  list := ⟨"[\"X-Old\"]".toList, by decide, by decide, by decide⟩

theorem mixed_holds : Holds mixedRow mixedEndpoint := ⟨rfl, rfl⟩

theorem headers_survive_iff_mixed :
    Survives mixedPlatform fixedReadings mixedMembers [some "X-Old".toList] mixedContext
        (applyAsync mixedPlatform mixedResolver fixedReadings mixedContext) ↔
      Usable mixedMembers [some "X-Old".toList] :=
  headers_survive_iff mixed_wrote mixed_reads mixed_holds .sample headeredService rfl

/-- Nothing is read of the object, and the list is. -/
theorem mixedPolicy_headers :
    mixedPolicy.headersToAdd = [] ∧ mixedPolicy.headersToRemove = [some "X-Old".toList] := by
  decide

/-- The number suppresses the text beside it. -/
theorem mixed_suppressed :
    (applyAsync mixedPlatform mixedResolver fixedReadings mixedContext).1 = .ok () ∧
      (applyAsync mixedPlatform mixedResolver fixedReadings
        mixedContext).2.proxyRequestHeaders.values "X-Tenant".toList = [] ∧
      ¬ Survives mixedPlatform fixedReadings mixedMembers [some "X-Old".toList] mixedContext
        (applyAsync mixedPlatform mixedResolver fixedReadings mixedContext) := by
  have asked : mixedResolver.resolvePolicyAsync mixedContext.httpContext.path
      mixedContext.httpContext.method mixedContext.services = (.ok (some mixedPolicy), ()) := rfl
  have returned : (applyAsync mixedPlatform mixedResolver fixedReadings mixedContext).1 = .ok () := by
    rw [applyAsync_returns asked, mixedPolicy_headers.2, List.forall_mem_singleton]
    exact ⟨"X-Old".toList, rfl, by decide⟩
  have keeps : KeptBy [some "X-Old".toList] "X-Tenant".toList := by
    rw [KeptBy]
    decide
  have nothing : (applyAsync mixedPlatform mixedResolver fixedReadings
      mixedContext).2.proxyRequestHeaders.values "X-Tenant".toList = [] := by
    rw [values_kept asked returned (mixedPolicy_headers.2 ▸ keeps), mixedPolicy_headers.1]
    decide
  refine ⟨returned, nothing, ?_⟩
  intro survives
  obtain ⟨fields, _, _, each, values⟩ := survives.members
  have listed : ("X-Tenant".toList, JsonElement.string "acme".toList) ∈ lastMembers mixedMembers := by
    simp [lastMembers, mixedMembers]
  obtain ⟨field, ofFields, text, clock, reads, _⟩ := each _ _ listed keeps
  have present : Fields.values headerKey "X-Tenant".toList fields ≠ [] :=
    Fields.values_ne_nil ofFields (congrArg headerKey (readMember_name reads))
  have same := values _ keeps
  rw [nothing] at same
  exact present (List.append_eq_nil_iff.mp (List.append_eq_nil_iff.mp same.symm).2).2

end ApiGateway.StoredHeaders
