import ApiGateway.Authorization
import ApiGateway.Decryption
import ApiGateway.Encryption
import ApiGateway.HeaderTransform

/-!
# Who the caller is

Six places derive the caller from the claims of its token: the authorization
middleware, the stages that decrypt and encrypt, the client header, the client
placeholder of the policy's headers and the partition of the rate limiter.

Each has a definition of its own here. The stages are shown to depend on no
other client's record or profile, and the header stage to write no other text.
-/

namespace ApiGateway

open Effects

/-- The client id of a caller, if it has one that is not empty. -/
def Principal.presentClientId (caseMap : CaseMap) (user : Principal) : Option Text :=
  (user.clientId caseMap).filter (fun value => !value.isEmpty)

section Stages

variable {σ : Type} {platform : Platform}

namespace Middleware

/-- The client id that the middleware authorises. -/
def authorisedClientId (platform : Platform) (context : HttpContext) : Option Text :=
  context.user.presentClientId platform.caseMap

/-- The middleware verifies no other client. -/
theorem verifyCaller_uses {first second : Services σ} {context : HttpContext}
    {policy : EndpointPolicy}
    (alike : ∀ clientId, authorisedClientId platform context = some clientId →
      verifyClient first policy clientId = verifyClient second policy clientId) :
    verifyCaller platform.caseMap first context policy =
      verifyCaller platform.caseMap second context policy := by
  unfold verifyCaller
  split
  · rfl
  · dsimp only
    split
    · rfl
    · cases present : (context.user.clientId platform.caseMap).filter
        (fun value => !value.isEmpty) with
      | none => rfl
      | some clientId => exact alike clientId present

end Middleware

namespace DecryptTransform

/-- The client id whose profile decrypts the request. -/
def profileClientId (platform : Platform) (context : HttpContext) : Option Text :=
  context.user.presentClientId platform.caseMap

/-- Decryption reads no other client's profile. -/
theorem applyAsync_uses {first second : Services σ} {connection : Connection σ}
    (resolver : first.policyResolver = second.policyResolver)
    (crypto : first.cryptoService = second.cryptoService)
    (alike : ∀ clientId, profileClientId platform connection.context = some clientId →
      lookupProfile first clientId = lookupProfile second clientId) :
    applyAsync platform first connection = applyAsync platform second connection := by
  unfold applyAsync
  rw [Effect.bind_ok (Effect.gets_run _ _), Effect.bind_ok (Effect.gets_run _ _), resolver,
    Effect.bind_run, Effect.bind_run]
  rcases Connection.call (second.policyResolver.resolvePolicyAsync connection.context.path
    connection.context.method) connection with ⟨ending, after⟩
  cases ending with
  | error fault => rfl
  | ok resolved =>
    cases resolved with
    | none => rfl
    | some policy =>
      dsimp only
      split
      · rfl
      · cases present : (connection.context.user.clientId platform.caseMap).filter
          (fun value => !value.isEmpty) with
        | none => rfl
        | some clientId =>
          have sameBody : decryptBody platform first policy clientId =
              decryptBody platform second policy clientId := by
            unfold decryptBody decryptPayload
            rw [alike clientId present, crypto]
          dsimp only
          rw [sameBody]

end DecryptTransform

namespace EncryptResponseTransform

/-- The client id whose profile encrypts the response. -/
def profileClientId (platform : Platform) (context : HttpContext) : Option Text :=
  context.user.presentClientId platform.caseMap

/-- Encryption reads no other client's profile. -/
theorem applyAsync_uses {first second : Services σ} {context : ResponseTransformContext σ}
    (resolver : first.policyResolver = second.policyResolver)
    (crypto : first.cryptoService = second.cryptoService)
    (alike : ∀ clientId, profileClientId platform context.connection.context = some clientId →
      first.cache.getUserProfileAsync clientId = second.cache.getUserProfileAsync clientId) :
    applyAsync platform first context = applyAsync platform second context := by
  unfold applyAsync
  rw [Effect.bind_ok (Effect.gets_run _ _), Effect.bind_ok (Effect.gets_run _ _), resolver,
    Effect.bind_run, Effect.bind_run]
  rcases call (second.policyResolver.resolvePolicyAsync context.connection.context.path
    context.connection.context.method) context with ⟨ending, after⟩
  cases ending with
  | error fault => rfl
  | ok resolved =>
    cases resolved with
    | none => rfl
    | some policy =>
      dsimp only
      split
      · rfl
      · cases context.proxyResponse.filter ProxyResponse.isSuccessStatusCode with
        | none => rfl
        | some response =>
          cases present : (context.connection.context.user.clientId platform.caseMap).filter
            (fun value => !value.isEmpty) with
          | none => rfl
          | some clientId =>
            have sameBody : encryptResponse platform first policy response clientId =
                encryptResponse platform second policy response clientId := by
              unfold encryptResponse encryptBody
              rw [alike clientId present, crypto]
            dsimp only
            rw [sameBody]

end EncryptResponseTransform

end Stages

namespace HeaderTransform

/-- The client id in the gateway's own header. -/
def headerClientId (platform : Platform) (context : HttpContext) : Option Text :=
  context.user.presentClientId platform.caseMap

/-- The text put in place of the client placeholder. -/
def placeholderClientId (platform : Platform) (context : HttpContext) : Text :=
  (context.user.findFirst platform.caseMap "client_id".toList).getD "unknown".toList

/-- The gateway's own client header has that value and no other. -/
theorem clientHeader_values (platform : Platform) (readings : Readings) (context : HttpContext) :
    Fields.values headerKey "X-Client-Id".toList (ownHeaders platform readings context) =
      ((headerClientId platform context).map some).toList := by
  have others : Fields.values headerKey "X-Client-Id".toList
      [("X-Correlation-Id".toList, some context.traceIdentifier),
        ("X-Gateway-Request-Id".toList, some readings.newGuid),
        ("X-Gateway-Timestamp".toList, some (readings.utcNow 0))] = [] := by
    rw [Fields.values_nil_iff]
    simp only [List.forall_mem_cons]
    decide
  rw [ownHeaders, Fields.values_append, others, headerClientId, Principal.presentClientId]
  cases (context.user.clientId platform.caseMap).filter (fun value => !value.isEmpty) with
  | none => rfl
  | some clientId => simp [Fields.values]

/-- A header that is the client placeholder alone becomes that text. -/
theorem resolveHeaderValue_clientId (platform : Platform) (context : HttpContext) (utcNow : Text)
    (plain : '{' ∉ placeholderClientId platform context) :
    resolveHeaderValue platform.caseMap (some "\x7bClientId\x7d".toList) context utcNow =
      some (placeholderClientId platform context) := by
  have holds : ("\x7bClientId\x7d".toList.isEmpty || !"\x7bClientId\x7d".toList.contains '{') =
      false := by
    decide
  rw [resolveHeaderValue, holds]
  have replaced : Text.replace "\x7bClientId\x7d".toList (placeholderClientId platform context)
      "\x7bClientId\x7d".toList = placeholderClientId platform context :=
    Text.replace_self _ _ _
  have userId : Text.replace "\x7bUserId\x7d".toList
      ((context.user.findFirst platform.caseMap "sub".toList).getD "unknown".toList)
      (placeholderClientId platform context) = placeholderClientId platform context :=
    Text.replace_absent plain
  have correlationId : Text.replace "\x7bCorrelationId\x7d".toList context.traceIdentifier
      (placeholderClientId platform context) = placeholderClientId platform context :=
    Text.replace_absent plain
  have timestamp : Text.replace "\x7bTimestamp\x7d".toList utcNow
      (placeholderClientId platform context) = placeholderClientId platform context :=
    Text.replace_absent plain
  simp only [Bool.false_eq_true, if_false]
  rw [← placeholderClientId, replaced, userId, correlationId, timestamp]

end HeaderTransform

namespace RateLimiting

/-- The partition that a request counts against. -/
def partitionKey (platform : Platform) (context : HttpContext) : Text :=
  (((context.user.findFirst platform.caseMap "sub".toList).or
    (context.user.findFirst platform.caseMap "client_id".toList)).or
      context.remoteIpAddress).getD "anonymous".toList

end RateLimiting

section Identity

/-- The caller as each of the six places sees it. -/
def identities (platform : Platform) (context : HttpContext) : List (Option Text) :=
  [Middleware.authorisedClientId platform context,
    DecryptTransform.profileClientId platform context,
    EncryptResponseTransform.profileClientId platform context,
    HeaderTransform.headerClientId platform context,
    some (HeaderTransform.placeholderClientId platform context),
    some (RateLimiting.partitionKey platform context)]

/-- The caller is one text everywhere. -/
def OneIdentity (platform : Platform) (context : HttpContext) : Prop :=
  ∃ identity, ∀ seen ∈ identities platform context, seen = some identity

/-- A caller is one identity everywhere exactly when its client id, which is not
empty, is its client id claim as well, or it has no such claim and the client id
is the placeholder's own default. -/
theorem one_identity_iff (platform : Platform) (context : HttpContext) :
    OneIdentity platform context ↔
      ∃ clientId, clientId ≠ [] ∧ context.user.clientId platform.caseMap = some clientId ∧
        (context.user.findFirst platform.caseMap "client_id".toList = some clientId ∨
          (context.user.findFirst platform.caseMap "client_id".toList = none ∧
            clientId = "unknown".toList)) := by
  have places : ∀ identity, (∀ seen ∈ identities platform context, seen = some identity) ↔
      context.user.presentClientId platform.caseMap = some identity ∧
        HeaderTransform.placeholderClientId platform context = identity ∧
        RateLimiting.partitionKey platform context = identity := by
    intro identity
    simp [identities, Middleware.authorisedClientId, DecryptTransform.profileClientId,
      EncryptResponseTransform.profileClientId, HeaderTransform.headerClientId]
  constructor
  · rintro ⟨identity, everywhere⟩
    obtain ⟨present, placeholder, -⟩ := (places identity).mp everywhere
    obtain ⟨named, nonempty⟩ := Option.filter_eq_some_iff.mp present
    refine ⟨identity, by simpa using nonempty, named, ?_⟩
    rw [HeaderTransform.placeholderClientId] at placeholder
    cases claimed : context.user.findFirst platform.caseMap "client_id".toList with
    | none =>
      rw [claimed, Option.getD_none] at placeholder
      exact Or.inr ⟨rfl, placeholder.symm⟩
    | some claim =>
      rw [claimed, Option.getD_some] at placeholder
      exact Or.inl (congrArg some placeholder)
  · rintro ⟨clientId, nonempty, named, claimed⟩
    refine ⟨clientId, (places clientId).mpr ⟨?_, ?_, ?_⟩⟩
    · rw [Principal.presentClientId, named]
      simp [nonempty]
    · rw [HeaderTransform.placeholderClientId]
      rcases claimed with same | ⟨absent, default⟩
      · rw [same, Option.getD_some]
      · rw [absent, default, Option.getD_none]
    · rw [RateLimiting.partitionKey, ← Principal.clientId, named]
      rfl

/-- A user and the application it came through. -/
def delegated : Principal where
  identity := some ⟨true⟩
  claims := [⟨"sub".toList, "alice".toList⟩, ⟨"client_id".toList, "portal".toList⟩]
  anonymous := by simp

/-- The middleware authorises alice and the placeholder names another caller, or
none that is known when the token has a subject claim only. -/
theorem placeholder_names_another :
    ¬ OneIdentity plainPlatform (HttpContext.request delegated [] "GET".toList []) ∧
      ¬ OneIdentity plainPlatform
        (HttpContext.request (Principal.subject "alice".toList) [] "GET".toList []) := by
  have apart : ∀ user : Principal, ∀ placeholder,
      user.presentClientId plainPlatform.caseMap = some "alice".toList →
      HeaderTransform.placeholderClientId plainPlatform
        (HttpContext.request user [] "GET".toList []) = placeholder →
      placeholder ≠ "alice".toList →
      ¬ OneIdentity plainPlatform (HttpContext.request user [] "GET".toList []) := by
    rintro user placeholder authorised substituted different ⟨identity, everywhere⟩
    have first : some "alice".toList = some identity :=
      authorised.symm.trans (everywhere _ List.mem_cons_self)
    have fifth : some placeholder = some identity := by
      rw [← substituted]
      exact everywhere _ (by simp [identities])
    exact different (Option.some.inj (fifth.trans first.symm))
  exact ⟨apart delegated "portal".toList (by decide) (by decide) (by decide),
    apart (Principal.subject "alice".toList) "unknown".toList (by decide)
      (by decide) (by decide)⟩

end Identity

end ApiGateway
