import ApiGateway.HeaderTransform
import ApiGateway.KeyRotation
import ApiGateway.ResponseEnvelopes
import ApiGateway.StagePolicies

/-!
# Encrypted exchanges

An encrypted request passes the decryption, the header stage, the upstream and the
response encryption. The stages share the process with other calls, and the last of
them asks only the cache for the profile that the first has read.

While one policy serves the request, the upstream receives the decrypted payload in
the caller's name. What the caller receives depends on the cache alone: an answer
under the profile the cache has by then, or the upstream's text in the clear.
-/

namespace ApiGateway.EncryptedExchange

open Effects TwoTier Encodings Concurrent CryptoService Envelopes

/-- What surrounds the stages: the machine's readings, the proxy's copy of the
caller's headers, the upstream, and what other calls do before it has answered. -/
structure Surroundings where
  readings : HeaderTransform.Readings
  copied : HttpContext → HeaderTransform.HttpRequestHeaders
  upstream : HttpContext → HeaderTransform.HttpRequestHeaders → Option ProxyResponse
  meanwhile : Gateway → Gateway

/-- A proxied request, the process when it was sent on and when the upstream had
answered, and what the response stage left. -/
structure Delivery where
  context : HttpContext
  headers : HeaderTransform.HttpRequestHeaders
  sent : Gateway
  answered : Gateway
  returned : ResponseTransformContext Gateway

/-- The state in which an operation returned. -/
def completed {σ : Type} : Except Fault Unit × σ → Option σ
  | (.ok (), after) => some after
  | (.error _, _) => none

/-- The proxied request before its headers are set. -/
def proxied (surroundings : Surroundings) (decrypted : Connection Gateway) :
    HeaderTransform.RequestTransformContext Gateway where
  services := decrypted.services
  httpContext := decrypted.context
  proxyRequestHeaders := surroundings.copied decrypted.context

/-- The upstream's answer before the response stage. -/
def responding (surroundings : Surroundings) (decrypted : Connection Gateway)
    (headed : HeaderTransform.RequestTransformContext Gateway) : ResponseTransformContext Gateway where
  connection :=
    { services := surroundings.meanwhile headed.services
      context := headed.httpContext
      response := decrypted.response }
  proxyResponse := surroundings.upstream headed.httpContext headed.proxyRequestHeaders
  suppressResponseBody := false

/-- The stages of a proxied request one after another; an exception ends it. -/
def exchange (platform : Platform) (cryptoService : ICryptoService) (surroundings : Surroundings)
    (connection : Connection Gateway) : Option Delivery := do
  let decrypted ← DecryptTransform.forwarded platform
    (DecryptTransform.gatewayServices platform cryptoService) connection
  let headed ← completed (HeaderTransform.applyAsync platform (PolicyResolver.policyResolver platform)
    surroundings.readings (proxied surroundings decrypted))
  let returned ← completed (EncryptResponseTransform.applyAsync platform
    (EncryptResponseTransform.gatewayServices platform cryptoService)
    (responding surroundings decrypted headed))
  some
    { context := headed.httpContext
      headers := headed.proxyRequestHeaders
      sent := headed.services
      answered := surroundings.meanwhile headed.services
      returned := returned }

section Serving

variable {platform : Platform} {context : HttpContext} {policy : EndpointPolicy} {gateway : Gateway}

/-- A policy serves a request when every tier is sound for it and the snapshot has it. -/
theorem serves_iff : Serves platform context policy gateway ↔
    gateway.cache.Sound (fun key value =>
      key = policyKeyOf platform context → value = .policy policy) ∧
    gateway.policySnapshot.tryGetValue
      (PolicyResolver.requestKey platform context.path context.method) = some policy := by
  constructor
  · rintro ⟨held, published⟩
    exact ⟨fun key value live same => held value (same ▸ live), published⟩
  · rintro ⟨sound, published⟩
    exact ⟨fun value live => sound _ value live rfl, published⟩

theorem serves_afterRead {α : Type} (view : CacheValue → Option α) (key : Text)
    (serves : Serves platform context policy gateway) :
    Serves platform context policy (PolicyCache.afterRead view key gateway) := by
  obtain ⟨sound, published⟩ := serves_iff.mp serves
  exact serves_iff.mpr ⟨Cache.sound_get view oneHour key sound, published⟩

theorem serves_afterWrite {key : Text} {value : CacheValue} (timeToLive : Nat)
    (kept : key = policyKeyOf platform context → value = .policy policy)
    (serves : Serves platform context policy gateway) :
    Serves platform context policy (PolicyCache.afterWrite key value timeToLive gateway) := by
  obtain ⟨sound, published⟩ := serves_iff.mp serves
  exact serves_iff.mpr ⟨Cache.sound_set oneHour timeToLive sound kept, published⟩

/-- A served request resolves to its policy, and stays served by it. -/
theorem resolves (serves : Serves platform context policy gateway) :
    ∃ resolved,
      PolicyResolver.resolvePolicyAsync platform context.path context.method gateway =
        (.ok (some policy), resolved) ∧
      Serves platform context policy resolved := by
  refine ⟨(PolicyResolver.resolvePolicyAsync platform context.path context.method gateway).2,
    Prod.ext ?_ rfl, ?_⟩
  · rw [PolicyResolver.resolvePolicyAsync_value, serves.published]
    cases cached : gateway.cache.peek CacheValue.asPolicy (policyKeyOf platform context) with
    | none =>
      rw [policyKeyOf] at cached
      rw [cached, Option.none_or]
    | some other =>
      obtain ⟨value, held, viewed⟩ := Cache.peek_held cached
      obtain rfl := serves.held value held
      obtain rfl := Option.some.inj viewed
      rw [policyKeyOf] at cached
      rw [cached, Option.some_or]
  · rcases PolicyResolver.resolvePolicyAsync_state platform context.path context.method gateway with
      read | ⟨written, published, wrote⟩
    · rw [read]
      exact serves_afterRead _ _ serves
    · rw [wrote]
      obtain rfl := Option.some.inj (published.symm.trans serves.published)
      exact serves_afterWrite oneHour (fun _ => rfl) (serves_afterRead _ _ serves)

end Serving

section Profiles

variable {platform : Platform} {cryptoService : ICryptoService} {context : HttpContext}
  {policy : EndpointPolicy} {clientId : Text} {profile : UserProfile} {before after : Gateway}

/-- The key of the caller's profile for the policy's service. -/
def profileKeyOf (clientId : Text) (policy : EndpointPolicy) : Text :=
  PolicyCache.userProfileKey clientId (some policy.service.id)

/-- The caller's profile is cached, or a tier takes it when it is. -/
def Retains (gateway : Gateway) (clientId : Text) (policy : EndpointPolicy) : Prop :=
  (EncryptResponseTransform.cachedProfile gateway clientId policy).isSome ∨
    gateway.cache.takes (profileKeyOf clientId policy) = true

instance (gateway : Gateway) (clientId : Text) (policy : EndpointPolicy) :
    Decidable (Retains gateway clientId policy) :=
  inferInstanceAs (Decidable (_ ∨ _))

/-- Reading a profile aside leaves it in the cache exactly if the process retains it. -/
theorem cachedProfile_found
    (found : DecryptTransform.ProfileFound (DecryptTransform.gatewayServices platform cryptoService)
      clientId policy.service.id before profile after) :
    EncryptResponseTransform.cachedProfile after clientId policy =
      if Retains before clientId policy then some profile else none := by
  have asked : PolicyCache.getUserProfileAsync clientId (some policy.service.id) before =
      (.ok (EncryptResponseTransform.cachedProfile before clientId policy),
        PolicyCache.afterRead CacheValue.asUserProfile (profileKeyOf clientId policy) before) :=
    PolicyCache.read_run _ _ before
  have unread : EncryptResponseTransform.cachedProfile
      (PolicyCache.afterRead CacheValue.asUserProfile (profileKeyOf clientId policy) before)
        clientId policy = EncryptResponseTransform.cachedProfile before clientId policy :=
    Cache.peek_get_self oneHour_pos
  cases found with
  | cached after hit =>
    obtain ⟨held, rfl⟩ := Prod.mk.inj (asked.symm.trans hit)
    have present := Except.ok.inj held
    have retains : Retains before clientId policy := Or.inl (by rw [present]; rfl)
    rw [unread, present, if_pos retains]
  | loaded missed read after miss loaded kept =>
    obtain ⟨absent, rfl⟩ := Prod.mk.inj (asked.symm.trans miss)
    have untouched : read = PolicyCache.afterRead CacheValue.asUserProfile
        (profileKeyOf clientId policy) before :=
      (congrArg Prod.snd loaded).symm.trans (Gateway.query_state _ _ _)
    have wrote : after = PolicyCache.afterWrite (profileKeyOf clientId policy) (.userProfile profile)
        oneHour read := (congrArg Prod.snd kept).symm
    have written := @Cache.peek_set_self _ _ _ _ CacheValue.asUserProfile read.cache
      (profileKeyOf clientId policy) oneHour oneHour oneHour_pos oneHour_pos (.userProfile profile)
    have taken : read.cache.takes (profileKeyOf clientId policy) =
        before.cache.takes (profileKeyOf clientId policy) := by
      rw [untouched]
      exact Cache.get_takes _ _ _ _ _
    rw [taken] at written
    have retains : Retains before clientId policy ↔
        before.cache.takes (profileKeyOf clientId policy) = true := by
      simp [Retains, Except.ok.inj absent]
    rw [wrote]
    simp only [retains]
    exact written

/-- A profile lookup leaves a request served by its policy. -/
theorem serves_found
    (found : DecryptTransform.ProfileFound (DecryptTransform.gatewayServices platform cryptoService)
      clientId policy.service.id before profile after)
    (serves : Serves platform context policy before) : Serves platform context policy after := by
  have apart : profileKeyOf clientId policy ≠ policyKeyOf platform context :=
    fun same => PolicyCache.policyKey_ne_userProfileKey _ _ _ same.symm
  cases found with
  | cached after hit =>
    obtain rfl : PolicyCache.afterRead _ _ before = after := congrArg Prod.snd hit
    exact serves_afterRead _ _ serves
  | loaded missed read after miss loaded kept =>
    obtain rfl : PolicyCache.afterRead _ _ before = missed := congrArg Prod.snd miss
    have untouched : PolicyCache.afterRead CacheValue.asUserProfile
        (profileKeyOf clientId policy) before = read :=
      (Gateway.query_state _ _ _).symm.trans (congrArg Prod.snd loaded)
    obtain rfl : PolicyCache.afterWrite (profileKeyOf clientId policy) (.userProfile profile)
        oneHour read = after := congrArg Prod.snd kept
    rw [← untouched]
    exact serves_afterWrite oneHour (fun same => absurd same apart) (serves_afterRead _ _ serves)

end Profiles

section Stages

variable {platform : Platform} {policy : EndpointPolicy} {clientId : Text}

/-- A body that opens for its caller is forwarded decrypted. -/
theorem forwarded_opens {σ : Type} {services : DecryptTransform.Services σ} {connection : Connection σ}
    {resolved found : σ} {bytes output : Bytes}
    (asked : services.policyResolver.resolvePolicyAsync connection.context.path
      connection.context.method connection.services = (.ok (some policy), resolved))
    (expects : policy.payloadExpectation = .Decrypted)
    (named : connection.context.user.clientId platform.caseMap = some clientId)
    (nonempty : clientId ≠ []) (incoming : connection.context.body = .incoming bytes)
    (nonblank : Text.isNullOrWhiteSpace (some (platform.readText bytes)) = false)
    (opens : DecryptTransform.Opens platform services policy clientId (platform.readText bytes)
      resolved found output) :
    DecryptTransform.forwarded platform services connection =
      some (DecryptTransform.replaced found output
        (DecryptTransform.resolvedAt resolved connection)) := by
  have identified : (connection.context.user.clientId platform.caseMap).filter
      (fun value => !value.isEmpty) = some clientId :=
    Option.filter_eq_some_iff.mpr ⟨named, by simpa using nonempty⟩
  have handled : ∀ handler, Effect.handle
      (DecryptTransform.decryptBody platform services policy clientId) handler
        { connection with services := resolved } = (.ok (), DecryptTransform.replaced found output
          (DecryptTransform.resolvedAt resolved connection)) := fun _ =>
    Effect.handle_ok (DecryptTransform.decryptBody_opens
      (DecryptTransform.resolvedAt resolved connection) incoming nonblank opens)
  unfold DecryptTransform.forwarded DecryptTransform.applyAsync
  rw [Effect.bind_ok (Effect.gets_run _ _), Effect.bind_ok (Connection.call_ok connection asked)]
  simp only [expects, ne_eq, not_true_eq_false, if_false, identified, handled]

/-- Removing headers keeps the services and the request. -/
theorem removeHeaders_frame {σ : Type} {removed : List NullableText}
    {context after : HeaderTransform.RequestTransformContext σ}
    (returned : HeaderTransform.removeHeaders removed context = (.ok (), after)) :
    after.services = context.services ∧ after.httpContext = context.httpContext := by
  induction removed generalizing context with
  | nil =>
    cases returned
    exact ⟨rfl, rfl⟩
  | cons headerName rest removedRest =>
    rw [HeaderTransform.removeHeaders, Effect.bind_ok (Effect.gets_run _ _)] at returned
    obtain ⟨remaining, reached, dropped, continued⟩ := Effect.bind_ok_inv returned
    rw [Effect.ofExcept_run] at dropped
    obtain ⟨_, rfl⟩ := Prod.mk.inj dropped
    rw [Effect.bind_ok (Effect.update_run _ _)] at continued
    have framed := removedRest continued
    exact framed

/-- A name that can be removed: one that a request takes. -/
def Removable (name : NullableText) : Prop := ∃ present, name = some present ∧
  HeaderTransform.takes present = true

/-- Removal returns for names that a request takes. -/
theorem removeHeaders_returns {σ : Type} {removed : List NullableText}
    (removable : ∀ name ∈ removed, Removable name)
    (context : HeaderTransform.RequestTransformContext σ) :
    ∃ after, HeaderTransform.removeHeaders removed context = (.ok (), after) := by
  induction removed generalizing context with
  | nil => exact ⟨context, rfl⟩
  | cons headerName rest removedRest =>
    obtain ⟨present, rfl, accepted⟩ := removable headerName List.mem_cons_self
    have whole := accepted
    simp only [HeaderTransform.takes, Bool.and_eq_true, decide_eq_true_eq] at accepted
    obtain ⟨⟨filled, tokens⟩, _⟩ := accepted
    have dropped : context.proxyRequestHeaders.remove (some present) =
        .ok (context.proxyRequestHeaders.drop present) := by
      cases present with
      | nil => exact absurd rfl filled
      | cons first others =>
        simp only [HeaderTransform.HttpRequestHeaders.remove, tokens, not_true_eq_false, if_false,
          whole, if_true]
    rw [HeaderTransform.removeHeaders, Effect.bind_ok (Effect.gets_run _ _),
      Effect.bind_ok (by rw [Effect.ofExcept_run, dropped]), Effect.bind_ok (Effect.update_run _ _)]
    exact removedRest (fun name listed => removable name (List.mem_cons_of_mem _ listed)) _

/-- A header stage that returns has not changed the request. -/
theorem headers_frame {σ : Type} {policyResolver : IPolicyResolver σ}
    {readings : HeaderTransform.Readings} {context after : HeaderTransform.RequestTransformContext σ}
    (returned : HeaderTransform.applyAsync platform policyResolver readings context = (.ok (), after)) :
    after.httpContext = context.httpContext := by
  rw [HeaderTransform.applyAsync, Effect.bind_ok (Effect.gets_run _ _)] at returned
  obtain ⟨resolved, looked, asked, continued⟩ := Effect.bind_ok_inv returned
  have unchanged : looked.httpContext = context.httpContext :=
    (congrArg (fun outcome => outcome.2.httpContext) asked).symm
  rw [Effect.bind_ok (HeaderTransform.tryAdd_run _ _ _),
    Effect.bind_ok (HeaderTransform.tryAdd_run _ _ _),
    Effect.bind_ok (HeaderTransform.tryAdd_run _ _ _),
    Effect.bind_ok (HeaderTransform.addClientId_run _)] at continued
  cases resolved with
  | none =>
    cases continued
    exact unchanged
  | some policy =>
    rw [HeaderTransform.applyPolicy, Effect.bind_ok (HeaderTransform.addHeaders_run _ _ _)] at continued
    exact (removeHeaders_frame continued).2.trans unchanged

/-- The header stage returns when the policy removes no name that a request refuses. It
changes the services as its lookup does, and no request. -/
theorem headers_return {σ : Type} {policyResolver : IPolicyResolver σ} {resolved : σ}
    {context : HeaderTransform.RequestTransformContext σ} (readings : HeaderTransform.Readings)
    (asked : policyResolver.resolvePolicyAsync context.httpContext.path context.httpContext.method
      context.services = (.ok (some policy), resolved))
    (removable : ∀ name ∈ policy.headersToRemove, Removable name) :
    ∃ after, HeaderTransform.applyAsync platform policyResolver readings context = (.ok (), after) ∧
      after.services = resolved ∧ after.httpContext = context.httpContext := by
  have asks : HeaderTransform.call (policyResolver.resolvePolicyAsync context.httpContext.path
      context.httpContext.method) context =
        (.ok (some policy), { context with services := resolved }) := by
    rw [HeaderTransform.call, asked]
  rw [HeaderTransform.applyAsync, Effect.bind_ok (Effect.gets_run _ _), Effect.bind_ok asks,
    Effect.bind_ok (HeaderTransform.tryAdd_run _ _ _),
    Effect.bind_ok (HeaderTransform.tryAdd_run _ _ _),
    Effect.bind_ok (HeaderTransform.tryAdd_run _ _ _),
    Effect.bind_ok (HeaderTransform.addClientId_run _), HeaderTransform.applyPolicy,
    Effect.bind_ok (HeaderTransform.addHeaders_run _ _ _)]
  obtain ⟨after, returned⟩ := removeHeaders_returns removable _
  exact ⟨after, returned, removeHeaders_frame returned⟩

/-- Unless the policy removes it, the caller's id is among the client headers. -/
theorem clientHeader_sent {σ : Type} {policyResolver : IPolicyResolver σ}
    {readings : HeaderTransform.Readings} {resolved : σ}
    {context after : HeaderTransform.RequestTransformContext σ}
    (asked : policyResolver.resolvePolicyAsync context.httpContext.path context.httpContext.method
      context.services = (.ok (some policy), resolved))
    (returned : HeaderTransform.applyAsync platform policyResolver readings context = (.ok (), after))
    (named : context.httpContext.user.clientId platform.caseMap = some clientId)
    (nonempty : clientId ≠ [])
    (kept : HeaderTransform.Kept (some policy) "X-Client-Id".toList) :
    clientId ∈ after.proxyRequestHeaders.values "X-Client-Id".toList := by
  have keptClient : (some clientId).filter (fun value : Text => !value.isEmpty) = some clientId := by
    simp [nonempty]
  have set : ("X-Client-Id".toList, clientId) ∈
      HeaderTransform.headersSet platform readings context.httpContext (some policy) := by
    apply List.mem_map.mpr
    refine ⟨("X-Client-Id".toList, some clientId), List.mem_append_left _ ?_, rfl⟩
    simp [HeaderTransform.ownHeaders, named, keptClient]
  have accepted : HeaderTransform.takes "X-Client-Id".toList = true := by
    decide
  rw [HeaderTransform.values_after asked returned, if_pos kept, if_pos accepted]
  exact List.mem_append_right _
    (List.mem_map.mpr ⟨_, List.mem_filter.mpr ⟨set, decide_eq_true rfl⟩, rfl⟩)

end Stages

section Answers

variable {platform : Platform} {primitives : Primitives} {policy : EndpointPolicy} {clientId : Text}

/-- A body carries a payload that decrypts, under the policy and a profile, to a text. -/
def AnswersUnder (platform : Platform) (primitives : Primitives) (policy : EndpointPolicy)
    (profile : UserProfile) (text : Text) (body : Bytes) : Prop :=
  ∃ payload,
    DecryptTransform.extractPayload platform policy.cryptoConfig.payloadWrapperFieldName
      (platform.readText body) = .ok (some payload) ∧
    decrypt primitives payload policy.cryptoConfig.algorithm profile.encryptionKey
      profile.encryptionIv policy.cryptoConfig.encoding = .ok (toUtf8 text)

/-- What the caller receives of a successful response, by the profile in the cache: a
payload under it, whose length is announced, and nothing for an empty text; without a
profile, or where the text cannot be read, the upstream's bytes. -/
def Answers (platform : Platform) (primitives : Primitives) (policy : EndpointPolicy)
    (response : ProxyResponse) (returned : ResponseTransformContext Gateway) :
    Option UserProfile → Prop
  | none => EncryptResponseTransform.sentBody returned = response.content
  | some profile =>
    match EncryptResponseTransform.readAsStringAsync platform response with
    | .error _ => EncryptResponseTransform.sentBody returned = response.content
    | .ok text =>
      if text = [] then EncryptResponseTransform.sentBody returned = []
      else Fits policy profile text →
        AnswersUnder platform primitives policy profile text
            (EncryptResponseTransform.sentBody returned) ∧
          returned.connection.response.contentLength =
            some (EncryptResponseTransform.sentBody returned).length

/-- The response stage always returns. -/
theorem response_returns (cryptoService : ICryptoService) (context : ResponseTransformContext Gateway) :
    ∃ returned, completed (EncryptResponseTransform.applyAsync platform
      (EncryptResponseTransform.gatewayServices platform cryptoService) context) = some returned := by
  have asked : EncryptResponseTransform.call ((EncryptResponseTransform.gatewayServices platform
      cryptoService).policyResolver.resolvePolicyAsync context.connection.context.path
        context.connection.context.method) context = (.ok _, EncryptResponseTransform.resolvedAt _
          context) :=
    Prod.ext (PolicyResolver.resolvePolicyAsync_value _ _ _) rfl
  have handled : ∀ (body : ResponseStage Gateway Unit) (state : ResponseTransformContext Gateway),
      ∃ returned, completed (body.handle
        (fun _ => EncryptResponseTransform.setSuppressed false) state) = some returned := by
    intro body state
    unfold Effect.handle
    rcases body state with ⟨ending, after⟩
    cases ending with
    | ok value => exact ⟨after, rfl⟩
    | error fault => exact ⟨_, rfl⟩
  unfold EncryptResponseTransform.applyAsync
  rw [Effect.bind_ok (Effect.gets_run _ _), Effect.bind_ok asked]
  generalize (context.connection.services.cache.peek _ _).or _ = answer
  cases answer with
  | none => exact ⟨_, rfl⟩
  | some policy =>
    dsimp only
    split
    · exact ⟨_, rfl⟩
    · cases context.proxyResponse.filter ProxyResponse.isSuccessStatusCode with
      | none => exact ⟨_, rfl⟩
      | some response =>
        cases (context.connection.context.user.clientId platform.caseMap).filter
            (fun value => !value.isEmpty) with
        | none => exact ⟨_, rfl⟩
        | some clientId => exact handled _ _

/-- What the response stage starts from, for a caller under a policy that asks for
encryption. -/
structure Encrypts (platform : Platform) (policy : EndpointPolicy) (clientId : Text)
    (response : ProxyResponse) (context : ResponseTransformContext Gateway) : Prop where
  serves : Serves platform context.connection.context policy context.connection.services
  expects : policy.encryptResponse = true
  answered : context.proxyResponse = some response
  named : context.connection.context.user.clientId platform.caseMap = some clientId
  nonempty : clientId ≠ []
  unsent : context.connection.response.written = []
  copies : context.suppressResponseBody = false

/-- A response that is no success is sent on as it is. -/
theorem unsuccessful_run (cryptoService : ICryptoService) {context : ResponseTransformContext Gateway}
    {response : ProxyResponse} (encrypts : Encrypts platform policy clientId response context)
    (failed : response.isSuccessStatusCode = false) {returned : ResponseTransformContext Gateway}
    (ended : completed (EncryptResponseTransform.applyAsync platform
      (EncryptResponseTransform.gatewayServices platform cryptoService) context) = some returned) :
    EncryptResponseTransform.sentBody returned = response.content := by
  obtain ⟨serves, expects, answered, named, nonempty, unsent, copies⟩ := encrypts
  obtain ⟨resolved, asked, _⟩ := resolves serves
  have called : EncryptResponseTransform.call ((EncryptResponseTransform.gatewayServices platform
      cryptoService).policyResolver.resolvePolicyAsync context.connection.context.path
        context.connection.context.method) context =
      (.ok (some policy), EncryptResponseTransform.resolvedAt resolved context) := by
    unfold EncryptResponseTransform.call EncryptResponseTransform.gatewayServices
      PolicyResolver.policyResolver
    dsimp only
    rw [asked]
    rfl
  have refused : (some response).filter ProxyResponse.isSuccessStatusCode = none := by
    simp [failed]
  rw [EncryptResponseTransform.applyAsync, Effect.bind_ok (Effect.gets_run _ _),
    Effect.bind_ok called] at ended
  simp only [expects, not_true_eq_false, if_false, answered, refused] at ended
  obtain rfl := Option.some.inj ended
  simp [EncryptResponseTransform.sentBody, EncryptResponseTransform.copiedBody,
    EncryptResponseTransform.resolvedAt, unsent, copies, answered]

/-- The stage's end for a successful response, by the profile in the cache and the text
of the body. -/
theorem encrypts_run (cryptoService : ICryptoService) {context : ResponseTransformContext Gateway}
    {response : ProxyResponse} (encrypts : Encrypts platform policy clientId response context)
    (success : response.isSuccessStatusCode = true) {returned : ResponseTransformContext Gateway}
    (ended : completed (EncryptResponseTransform.applyAsync platform
      (EncryptResponseTransform.gatewayServices platform cryptoService) context) = some returned) :
    match EncryptResponseTransform.cachedProfile context.connection.services clientId policy with
    | none => EncryptResponseTransform.sentBody returned = response.content
    | some profile =>
      match EncryptResponseTransform.readAsStringAsync platform response with
      | .error _ => EncryptResponseTransform.sentBody returned = response.content
      | .ok text =>
        if text = [] then EncryptResponseTransform.sentBody returned = []
        else ∀ payload, EncryptResponseTransform.encryptBody platform
            (EncryptResponseTransform.gatewayServices platform cryptoService) policy profile
            text = .ok payload →
          EncryptResponseTransform.sentBody returned =
              platform.getBytes (EncryptResponseTransform.wrap platform
                policy.cryptoConfig.payloadWrapperFieldName payload) ∧
            returned.connection.response.contentLength =
              some (EncryptResponseTransform.sentBody returned).length := by
  obtain ⟨serves, expects, answered, named, nonempty, unsent, copies⟩ := encrypts
  obtain ⟨resolved, asked, _⟩ := resolves serves
  rw [EncryptResponseTransform.applyAsync_run (by rw [asked]) expects answered success named
    nonempty] at ended
  obtain rfl := Option.some.inj ended
  cases EncryptResponseTransform.cachedProfile context.connection.services clientId policy with
  | none =>
    simp [EncryptResponseTransform.sentBody, EncryptResponseTransform.copiedBody,
      EncryptResponseTransform.profileRead, EncryptResponseTransform.resolvedAt, unsent, copies,
      answered]
  | some profile =>
    cases reads : EncryptResponseTransform.readAsStringAsync platform response with
    | error fault =>
      simp [EncryptResponseTransform.sentBody, EncryptResponseTransform.copiedBody,
        EncryptResponseTransform.suppressing, EncryptResponseTransform.profileRead,
        EncryptResponseTransform.resolvedAt, unsent, answered]
    | ok text =>
      by_cases blank : text = []
      · simp [blank, EncryptResponseTransform.sentBody, EncryptResponseTransform.copiedBody,
          EncryptResponseTransform.suppressing, EncryptResponseTransform.profileRead,
          EncryptResponseTransform.resolvedAt, unsent]
      · have shown : text.isEmpty = false := by simp [blank]
        simp only [shown, blank, Bool.false_eq_true, if_false]
        intro payload body
        simp [body, EncryptResponseTransform.sentBody, EncryptResponseTransform.copiedBody,
          EncryptResponseTransform.answering, EncryptResponseTransform.suppressing,
          EncryptResponseTransform.profileRead, EncryptResponseTransform.resolvedAt, unsent]

/-- The response stage answers as the cache does. -/
theorem answers (lawful : primitives.Lawful) (readsBack : ReadsBack platform)
    {context : ResponseTransformContext Gateway} {response : ProxyResponse}
    (encrypts : Encrypts platform policy clientId response context)
    (success : response.isSuccessStatusCode = true) {returned : ResponseTransformContext Gateway}
    (ended : completed (EncryptResponseTransform.applyAsync platform
      (EncryptResponseTransform.gatewayServices platform (cryptoService primitives)) context) =
        some returned) :
    Answers platform primitives policy response returned
      (EncryptResponseTransform.cachedProfile context.connection.services clientId policy) := by
  have run := encrypts_run (cryptoService primitives) encrypts success ended
  cases cached : EncryptResponseTransform.cachedProfile context.connection.services clientId policy with
  | none =>
    rw [cached] at run
    exact run
  | some profile =>
    rw [cached] at run
    unfold Answers
    cases reads : EncryptResponseTransform.readAsStringAsync platform response with
    | error fault => simpa only [reads] using run
    | ok text =>
      simp only [reads] at run ⊢
      split
      · next blank => simpa only [blank, if_true] using run
      · next filled =>
        rw [if_neg filled] at run
        intro fits
        obtain ⟨payload, payloadFilled, encrypted, decrypted⟩ := encrypted_text lawful filled fits
        have body : EncryptResponseTransform.encryptBody platform
            (EncryptResponseTransform.gatewayServices platform (cryptoService primitives)) policy
              profile text = .ok payload := by
          rw [EncryptResponseTransform.encryptBody, readsBack.encodes]
          exact encrypted
        obtain ⟨sent, announced⟩ := run payload body
        refine ⟨⟨payload, ?_, decrypted⟩, announced⟩
        rw [sent, readsBack.encodes, wrap_read readsBack]
        exact extractPayload_wrap readsBack _ payloadFilled

end Answers

section Exchange

variable {platform : Platform} {primitives : Primitives} {policy : EndpointPolicy} {clientId : Text}

/-- A caller's request that carries bytes encrypted under the policy and the profile in
effect for the caller; nothing is written to its response yet. -/
structure Asks (platform : Platform) (primitives : Primitives) (policy : EndpointPolicy)
    (profile : UserProfile) (clientId : Text) (plaintext : Bytes) (connection : Connection Gateway) :
    Prop where
  named : connection.context.user.clientId platform.caseMap = some clientId
  nonempty : clientId ≠ []
  unsent : connection.response.written = []
  effective : DecryptTransform.profileInEffect connection.services clientId policy.service.id =
    some profile
  carries : ∃ body payload, connection.context.body = .incoming body ∧
    Text.isNullOrWhiteSpace (some (platform.readText body)) = false ∧
    DecryptTransform.extractPayload platform policy.cryptoConfig.payloadWrapperFieldName
      (platform.readText body) = .ok (some payload) ∧
    decrypt primitives payload policy.cryptoConfig.algorithm profile.encryptionKey
      profile.encryptionIv policy.cryptoConfig.encoding = .ok plaintext

/-- The upstream was sent the decrypted bytes, with the headers that the gateway and the
policy add and without those that the policy removes, in the caller's name unless the
policy removes that. -/
structure Forwards (platform : Platform) (surroundings : Surroundings) (policy : EndpointPolicy)
    (clientId : Text) (plaintext : Bytes) (delivery : Delivery) : Prop where
  body : delivery.context.body = .replaced plaintext
  announced : delivery.context.contentLength = some plaintext.length
  headers : ∀ name, delivery.headers.values name =
    if HeaderTransform.Kept (some policy) name then
      (surroundings.copied delivery.context).values name ++
        if HeaderTransform.takes name then
          Fields.values HeaderTransform.headerKey name (HeaderTransform.headersSet platform
            surroundings.readings delivery.context (some policy))
        else []
    else []
  named : HeaderTransform.Kept (some policy) "X-Client-Id".toList →
    clientId ∈ delivery.headers.values "X-Client-Id".toList

/-- Resolving a policy changes nothing of whether a profile is retained. -/
theorem retains_resolved (path method : Text) (gateway : Gateway) :
    Retains (PolicyResolver.resolvePolicyAsync platform path method gateway).2 clientId policy ↔
      Retains gateway clientId policy := by
  have taken : (PolicyResolver.resolvePolicyAsync platform path method gateway).2.cache.takes
      (profileKeyOf clientId policy) = gateway.cache.takes (profileKeyOf clientId policy) := by
    rcases PolicyResolver.resolvePolicyAsync_state platform path method gateway with
      read | ⟨_, _, wrote⟩
    · rw [read]
      exact Cache.get_takes _ _ _ _ _
    · rw [wrote]
      exact (Cache.set_takes _ _ _ _ _ _).trans (Cache.get_takes _ _ _ _ _)
  rw [Retains, Retains, taken, EncryptResponseTransform.cachedProfile_resolved]

/-- Resolving a policy changes nothing of which profile is in effect. -/
theorem profileInEffect_resolved {path method : Text} {gateway resolved : Gateway}
    {answer : Except Fault (Option EndpointPolicy)}
    (asked : PolicyResolver.resolvePolicyAsync platform path method gateway = (answer, resolved))
    (connected : gateway.Connected) (userId : Text) (serviceId : Guid) :
    DecryptTransform.profileInEffect resolved userId serviceId =
        DecryptTransform.profileInEffect gateway userId serviceId ∧ resolved.Connected := by
  have frame := PolicyResolver.resolvePolicyAsync_sameOn platform path method gateway
  rw [asked] at frame
  refine ⟨?_, frame.connected connected⟩
  rw [DecryptTransform.profileInEffect, DecryptTransform.profileInEffect,
    frame.peek _ _ (fun routeKey => PolicyCache.policyKey_ne_userProfileKey routeKey _ _),
    frame.database]

/-- The decryption stage forwards such a request decrypted, still served by its policy,
and leaves the profile in the cache if the process retains it. -/
theorem decrypts {profile : UserProfile} {plaintext : Bytes} {connection : Connection Gateway}
    (serves : Serves platform connection.context policy connection.services)
    (connected : connection.services.Connected) (expects : policy.payloadExpectation = .Decrypted)
    (asks : Asks platform primitives policy profile clientId plaintext connection) :
    ∃ resolved found,
      DecryptTransform.forwarded platform
          (DecryptTransform.gatewayServices platform (cryptoService primitives)) connection =
        some (DecryptTransform.replaced found plaintext
          (DecryptTransform.resolvedAt resolved connection)) ∧
      Serves platform connection.context policy found ∧
      EncryptResponseTransform.cachedProfile found clientId policy =
        if Retains connection.services clientId policy then some profile else none := by
  obtain ⟨resolved, asked, servesResolved⟩ := resolves serves
  obtain ⟨body, payload, incoming, nonblank, extracted, decrypted⟩ := asks.carries
  have retained := @retains_resolved platform policy clientId connection.context.path
    connection.context.method connection.services
  rw [asked] at retained
  obtain ⟨unchanged, reached⟩ := profileInEffect_resolved asked connected clientId policy.service.id
  have effective := unchanged.trans asks.effective
  have looked := @DecryptTransform.lookupProfile_value platform resolved reached
    (cryptoService primitives) clientId policy.service.id
  rw [effective] at looked
  have profileFound : DecryptTransform.ProfileFound
      (DecryptTransform.gatewayServices platform (cryptoService primitives)) clientId
        policy.service.id resolved profile (DecryptTransform.lookupProfile
          (DecryptTransform.gatewayServices platform (cryptoService primitives)) clientId
            policy.service.id resolved).2 :=
    cacheAside_some_iff.mp (Prod.ext looked rfl)
  refine ⟨resolved, _, forwarded_opens asked expects asks.named asks.nonempty incoming nonblank
    ⟨payload, profile, extracted, profileFound, decrypted⟩, serves_found profileFound servesResolved,
      ?_⟩
  rw [cachedProfile_found profileFound]
  simp only [retained]

/-- What is sent to the upstream is what the decryption stage has left of the request. -/
theorem exchange_context {surroundings : Surroundings} {connection : Connection Gateway}
    {delivery : Delivery}
    (ran : exchange platform (cryptoService primitives) surroundings connection = some delivery) :
    ∃ decrypted, DecryptTransform.forwarded platform
        (DecryptTransform.gatewayServices platform (cryptoService primitives)) connection =
          some decrypted ∧
      delivery.context = decrypted.context := by
  simp only [exchange, Option.bind_eq_bind, Option.bind_eq_some_iff, Option.some.injEq] at ran
  obtain ⟨decrypted, forwarded, headed, sent, returned, responded, rfl⟩ := ran
  refine ⟨decrypted, forwarded, ?_⟩
  rcases ended : HeaderTransform.applyAsync platform (PolicyResolver.policyResolver platform)
    surroundings.readings (proxied surroundings decrypted) with ⟨ending, after⟩
  rw [ended] at sent
  cases ending with
  | error fault => cases sent
  | ok value =>
    obtain rfl := Option.some.inj sent
    exact headers_frame ended

/-- What the last stage of a delivery starts from and ends with. -/
structure Responds (platform : Platform) (primitives : Primitives) (policy : EndpointPolicy)
    (clientId : Text) (surroundings : Surroundings) (delivery : Delivery)
    (context : ResponseTransformContext Gateway) : Prop where
  serves : Serves platform context.connection.context policy context.connection.services
  named : context.connection.context.user.clientId platform.caseMap = some clientId
  services : context.connection.services = delivery.answered
  answered : context.proxyResponse = surroundings.upstream delivery.context delivery.headers
  unsent : context.connection.response.written = []
  copies : context.suppressResponseBody = false
  ended : completed (EncryptResponseTransform.applyAsync platform
    (EncryptResponseTransform.gatewayServices platform (cryptoService primitives)) context) =
      some delivery.returned

/-- The stages of such a request all return, and send it on decrypted. -/
theorem exchange_delivers {surroundings : Surroundings} {connection : Connection Gateway}
    {profile : UserProfile} {plaintext : Bytes}
    (serves : Serves platform connection.context policy connection.services)
    (connected : connection.services.Connected) (expects : policy.payloadExpectation = .Decrypted)
    (removable : ∀ name ∈ policy.headersToRemove, Removable name)
    (asks : Asks platform primitives policy profile clientId plaintext connection)
    (undisturbed : ∀ gateway, Serves platform connection.context policy gateway →
      Serves platform connection.context policy (surroundings.meanwhile gateway)) :
    ∃ delivery context, exchange platform (cryptoService primitives) surroundings connection =
        some delivery ∧
      Forwards platform surroundings policy clientId plaintext delivery ∧
      EncryptResponseTransform.cachedProfile delivery.sent clientId policy =
        (if Retains connection.services clientId policy then some profile else none) ∧
      delivery.answered = surroundings.meanwhile delivery.sent ∧
      Responds platform primitives policy clientId surroundings delivery context := by
  obtain ⟨resolved, found, forwarded, servesFound, cached⟩ :=
    decrypts serves connected expects asks
  obtain ⟨looked, asked, servesLooked⟩ := resolves servesFound
  obtain ⟨headed, returned, services, context⟩ := @headers_return platform policy _
    (PolicyResolver.policyResolver platform) looked (proxied surroundings
      (DecryptTransform.replaced found plaintext (DecryptTransform.resolvedAt resolved connection)))
    surroundings.readings asked removable
  obtain ⟨last, responded⟩ := @response_returns platform (cryptoService primitives)
    (responding surroundings (DecryptTransform.replaced found plaintext
      (DecryptTransform.resolvedAt resolved connection)) headed)
  have unread : EncryptResponseTransform.cachedProfile looked clientId policy =
      EncryptResponseTransform.cachedProfile found clientId policy := by
    have same := @EncryptResponseTransform.cachedProfile_resolved platform policy clientId
      connection.context.path connection.context.method found
    rwa [asked] at same
  refine ⟨⟨headed.httpContext, headed.proxyRequestHeaders, headed.services,
    surroundings.meanwhile headed.services, last⟩, _, ?_, ⟨?_, ?_, fun name => ?_, fun kept => ?_⟩,
    ?_, rfl, ⟨?_, ?_, rfl, rfl, asks.unsent, rfl, responded⟩⟩
  · have sentOn : completed (HeaderTransform.applyAsync platform
        (PolicyResolver.policyResolver platform) surroundings.readings (proxied surroundings
          (DecryptTransform.replaced found plaintext
            (DecryptTransform.resolvedAt resolved connection)))) = some headed := by
      rw [returned, completed]
    simp only [exchange, forwarded, sentOn, responded, Option.bind_eq_bind, Option.bind_some]
  · rw [context]
    rfl
  · rw [context]
    rfl
  · rw [HeaderTransform.values_after asked returned name]
    simp only [proxied, context]
  · exact clientHeader_sent asked returned asks.named asks.nonempty kept
  · rw [services, unread, cached]
  · show Serves platform headed.httpContext policy (surroundings.meanwhile headed.services)
    rw [context, services]
    exact ⟨(undisturbed looked servesLooked).held, (undisturbed looked servesLooked).published⟩
  · show headed.httpContext.user.clientId platform.caseMap = some clientId
    rw [context]
    exact asks.named

/-- An encrypted request under a policy that serves it reaches the upstream decrypted, with
the headers of the policy and in the caller's name. Its profile is then in the cache if
the process retains it. A response that is no success reaches the caller as it is; of a
successful one the caller receives what the profile in the cache at the upstream's
answer says. -/
theorem encrypted_exchange (lawful : primitives.Lawful) (readsBack : ReadsBack platform)
    {surroundings : Surroundings} {connection : Connection Gateway} {profile : UserProfile}
    {plaintext : Bytes} (serves : Serves platform connection.context policy connection.services)
    (connected : connection.services.Connected) (expects : policy.payloadExpectation = .Decrypted)
    (encrypts : policy.encryptResponse = true)
    (removable : ∀ name ∈ policy.headersToRemove, Removable name)
    (asks : Asks platform primitives policy profile clientId plaintext connection)
    (undisturbed : ∀ gateway, Serves platform connection.context policy gateway →
      Serves platform connection.context policy (surroundings.meanwhile gateway)) :
    ∃ delivery, exchange platform (cryptoService primitives) surroundings connection = some delivery ∧
      Forwards platform surroundings policy clientId plaintext delivery ∧
      EncryptResponseTransform.cachedProfile delivery.sent clientId policy =
        (if Retains connection.services clientId policy then some profile else none) ∧
      delivery.answered = surroundings.meanwhile delivery.sent ∧
      ∀ response, surroundings.upstream delivery.context delivery.headers = some response →
        if response.isSuccessStatusCode then
          Answers platform primitives policy response delivery.returned
            (EncryptResponseTransform.cachedProfile delivery.answered clientId policy)
        else EncryptResponseTransform.sentBody delivery.returned = response.content := by
  obtain ⟨delivery, context, ran, forwards, cached, answered, responds⟩ :=
    exchange_delivers serves connected expects removable asks undisturbed
  refine ⟨delivery, ran, forwards, cached, answered, fun response replied => ?_⟩
  have responding : Encrypts platform policy clientId response context :=
    ⟨responds.serves, encrypts, responds.answered.trans replied, responds.named, asks.nonempty,
      responds.unsent, responds.copies⟩
  rw [← responds.services]
  split
  · next success => exact answers lawful readsBack responding success responds.ended
  · next failed =>
    exact unsuccessful_run (cryptoService primitives) responding (Bool.eq_false_iff.mpr failed)
      responds.ended

/-- A process that has loaded the endpoint; the caller's profile is in the database only. -/
def echoServing : Gateway :=
  (PolicyResolver.refreshPoliciesAsync quotingPlatform (Gateway.started
    { Database.ofEndpoint .sample echoService echoEndpoint with
      userProfiles := [echoProfile]
      userProfiles_id := by simp
      userProfiles_pair := by simp [echoProfile] })).2

/-- Another call of the endpoint looks its policy up before the upstream answers. -/
def echoSurroundings : Surroundings where
  readings := HeaderTransform.fixedReadings
  copied := fun _ => HeaderTransform.plainHeaders
  upstream := fun _ _ => some ⟨200, some "utf-8".toList, toUtf8 "a\"b".toList⟩
  meanwhile := fun gateway => (PolicyResolver.resolvePolicyAsync quotingPlatform
    "/gateway/orders/echo".toList "POST".toList gateway).2

/-- A call of the endpoint with a payload in the wrapper. -/
def echoCall (payload : Text) : Connection Gateway where
  services := echoServing
  context := echoRequest (toUtf8 (EncryptResponseTransform.wrap quotingPlatform
    echoPolicy.cryptoConfig.payloadWrapperFieldName payload))
  response := .fresh

theorem echo_serves (payload : Text) :
    Serves quotingPlatform (echoCall payload).context echoPolicy (echoCall payload).services := by
  have memory : echoServing.cache.inMemory (policyKeyOf quotingPlatform (echoRequest [])) =
      some (.policy echoPolicy) := by
    decide
  have store : echoServing.cache.inStore (policyKeyOf quotingPlatform (echoRequest [])) =
      some (.policy echoPolicy) := by
    decide
  refine ⟨?_, (by decide : echoServing.policySnapshot.tryGetValue (PolicyResolver.requestKey
    quotingPlatform "/gateway/orders/echo".toList "POST".toList) = some echoPolicy)⟩
  rintro value (live | live)
  · exact Option.some.inj (live.symm.trans memory)
  · exact Option.some.inj (live.symm.trans store)

/-- The caller asks in its key and is answered in its key. -/
theorem encrypted_exchange_echo :
    ∃ payload delivery, exchange quotingPlatform (cryptoService samplePrimitives) echoSurroundings
        (echoCall payload) = some delivery ∧
      delivery.context.body = .replaced (toUtf8 "a\"b".toList) ∧
      AnswersUnder quotingPlatform samplePrimitives echoPolicy echoProfile "a\"b".toList
        (EncryptResponseTransform.sentBody delivery.returned) := by
  have fits : Fits echoPolicy echoProfile "a\"b".toList :=
    fun _ => ⟨⟨newBytes 32, by decide, by decide⟩, by decide⟩
  have filled : "a\"b".toList ≠ [] := by decide
  have success : ProxyResponse.isSuccessStatusCode
      ⟨200, some "utf-8".toList, toUtf8 "a\"b".toList⟩ = true := by
    decide
  have reads : EncryptResponseTransform.readAsStringAsync quotingPlatform
      ⟨200, some "utf-8".toList, toUtf8 "a\"b".toList⟩ = .ok "a\"b".toList := by
    decide
  obtain ⟨payload, payloadFilled, _, decrypted⟩ := encrypted_text samplePrimitives_lawful filled fits
  have asks : Asks quotingPlatform samplePrimitives echoPolicy echoProfile "alice".toList
      (toUtf8 "a\"b".toList) (echoCall payload) :=
    { named := (by decide : (echoRequest []).user.clientId quotingPlatform.caseMap =
        some "alice".toList)
      nonempty := by decide
      unsent := rfl
      effective := (by decide : DecryptTransform.profileInEffect echoServing "alice".toList
        echoPolicy.service.id = some echoProfile)
      carries := ⟨_, payload, rfl, by
        rw [wrap_read quotingPlatform_readsBack]
        have brace : isWhiteSpace '{' = false := by decide
        simp [Text.isNullOrWhiteSpace, EncryptResponseTransform.wrap, brace], by
        rw [wrap_read quotingPlatform_readsBack]
        exact extractPayload_wrap quotingPlatform_readsBack _ payloadFilled, decrypted⟩ }
  have retains : Retains (echoCall payload).services "alice".toList echoPolicy :=
    (by decide : Retains echoServing "alice".toList echoPolicy)
  have removable : ∀ name ∈ echoPolicy.headersToRemove, Removable name := by
    have unnamed : echoPolicy.headersToRemove = [] := by
      decide
    simp [unnamed]
  have undisturbed : ∀ gateway, Serves quotingPlatform (echoCall payload).context echoPolicy gateway →
      Serves quotingPlatform (echoCall payload).context echoPolicy
        (echoSurroundings.meanwhile gateway) := by
    intro gateway serves
    obtain ⟨resolved, asked, still⟩ := resolves serves
    have same : echoSurroundings.meanwhile gateway = resolved := congrArg Prod.snd asked
    rw [same]
    exact still
  obtain ⟨delivery, ran, forwards, cached, answered, received⟩ := encrypted_exchange
    samplePrimitives_lawful quotingPlatform_readsBack (echo_serves payload) (fun _ => rfl) rfl rfl
    removable asks undisturbed
  have returned := received ⟨200, some "utf-8".toList, toUtf8 "a\"b".toList⟩ rfl
  have held : EncryptResponseTransform.cachedProfile delivery.answered "alice".toList echoPolicy =
      some echoProfile := by
    rw [answered, echoSurroundings, EncryptResponseTransform.cachedProfile_resolved, cached,
      if_pos retains]
  rw [if_pos success, held, Answers, reads] at returned
  exact ⟨payload, delivery, ran, forwards.body, ((if_neg filled).mp returned fits).1⟩

end Exchange

end ApiGateway.EncryptedExchange
