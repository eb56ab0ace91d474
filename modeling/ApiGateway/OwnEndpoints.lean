import ApiGateway.GatewayRuns
import ApiGateway.Registry

/-!
# The gateway's own endpoints

The gateway maps a health check, a metrics endpoint and two refresh endpoints
for itself, behind the authorization middleware. Every route key that the
snapshot or a cache can ever hold has a path under the gateway's own prefix, so
the middleware resolves no policy for such a request and answers it, unless it
is one the middleware lets through by its path.
-/

namespace ApiGateway

open Effects TwoTier PolicyCache

/-- The endpoints the gateway maps for itself. -/
inductive OwnEndpoint where
  | healthChecks
  | prometheusScraping
  | refreshPolicies
  | refreshOutboundRules
deriving DecidableEq

namespace OwnEndpoint

/-- The route pattern; none has parameters. -/
def pattern : OwnEndpoint → Text
  | .healthChecks => "/health".toList
  | .prometheusScraping => "/metrics".toList
  | .refreshPolicies => "/admin/refresh-policies".toList
  | .refreshOutboundRules => "/api/cache/refresh/outbound-rules".toList

/-- The one method an endpoint is mapped for; the others take any. -/
def httpMethod : OwnEndpoint → Option Text
  | .refreshPolicies => some "POST".toList
  | .refreshOutboundRules => some "POST".toList
  | _ => none

/-- A request matches an endpoint: paths and methods ignore case, a path may end
in a slash, and a method is a token. -/
structure Matched (caseMap : CaseMap) (endpoint : OwnEndpoint) (context : HttpContext) : Prop where
  path : Text.equalsIgnoreCase caseMap context.path endpoint.pattern = true ∨
    Text.equalsIgnoreCase caseMap context.path (endpoint.pattern ++ ['/']) = true
  method : ∀ method, endpoint.httpMethod = some method →
    Text.equalsIgnoreCase caseMap context.method method = true
  token : ':' ∉ context.method

end OwnEndpoint

/-- A policy is kept under a route key whose path is under the gateway's prefix. -/
def UnderGateway (key : Text) (value : CacheValue) : Prop :=
  ∀ routeKey policy, key = policyKey routeKey → value = .policy policy →
    ∃ method rest, routeKey = method ++ ':' :: (PolicyResolver.gatewayPathPrefix ++ rest)

theorem offered_underGateway {platform : Platform} (database : Database) (key : Text)
    (value : CacheValue) (offered : Offered platform database key value) :
    UnderGateway key value := by
  rintro routeKey policy keyed rfl
  cases offered with
  | policy offeredKey _ registered =>
    rw [← policyKey_injective keyed]
    obtain ⟨method, -, named⟩ := PolicyResolver.registered_key registered
    exact ⟨_, _, named⟩

section Paths

variable {caseMap : CaseMap} {endpoint : OwnEndpoint} {context : HttpContext}

/-- ASCII text is upper-cased as usual. -/
theorem toUpperInvariant_ascii (caseMap : CaseMap) {text : Text}
    (ascii : text.all (fun character => decide (character.toNat < 128)) = true) :
    Text.toUpperInvariant caseMap text = text.map Char.toUpper :=
  List.map_congr_left (fun character member => caseMap.upper_ascii character
    (of_decide_eq_true (List.all_eq_true.mp ascii character member)))

/-- The path of a matching request, upper-cased, is one of two. -/
theorem matched_path (matched : endpoint.Matched caseMap context) :
    Text.toUpperInvariant caseMap context.path ∈
      [endpoint.pattern.map Char.toUpper, (endpoint.pattern ++ ['/']).map Char.toUpper] := by
  have plain : ∀ endpoint : OwnEndpoint,
      endpoint.pattern.all (fun character => decide (character.toNat < 128)) = true ∧
        (endpoint.pattern ++ ['/']).all (fun character => decide (character.toNat < 128)) = true := by
    intro endpoint
    cases endpoint <;> decide
  rw [← toUpperInvariant_ascii caseMap (plain endpoint).1,
    ← toUpperInvariant_ascii caseMap (plain endpoint).2]
  rcases matched.path with same | same
  · exact List.mem_cons.mpr (Or.inl (eq_of_beq same))
  · exact List.mem_cons.mpr (Or.inr (List.mem_singleton.mpr (eq_of_beq same)))

/-- No such path holds a colon. -/
theorem matched_colon (matched : endpoint.Matched caseMap context) : ':' ∉ context.path := by
  intro member
  have upper : caseMap.upper ':' = ':' := caseMap.upper_ascii ':' (by decide)
  have kept : ':' ∈ Text.toUpperInvariant caseMap context.path :=
    List.mem_map.mpr ⟨':', member, upper⟩
  have absent : ∀ endpoint : OwnEndpoint, ∀ path ∈
      [endpoint.pattern.map Char.toUpper, (endpoint.pattern ++ ['/']).map Char.toUpper],
      ':' ∉ path := by
    intro endpoint
    cases endpoint <;> decide
  exact absent endpoint _ (matched_path matched) kept

/-- A path begins with an ASCII text, without regard to case, when its upper case
begins with the text's. -/
theorem startsWith_upper {lead path upper : Text}
    (ascii : lead.all (fun character => decide (character.toNat < 128)) = true)
    (folded : Text.toUpperInvariant caseMap path = upper) :
    Text.startsWithIgnoreCase caseMap lead path = (lead.map Char.toUpper).isPrefixOf upper := by
  rw [Text.startsWithIgnoreCase, toUpperInvariant_ascii caseMap ascii, folded]

/-- No such path is under the gateway's prefix. -/
theorem matched_outside (matched : endpoint.Matched caseMap context) (rest : Text) :
    context.path ≠ PolicyResolver.gatewayPathPrefix ++ rest := by
  intro under
  have begins : Text.startsWithIgnoreCase caseMap PolicyResolver.gatewayPathPrefix context.path =
      true := by
    rw [under, Text.startsWithIgnoreCase, Text.toUpperInvariant, Text.toUpperInvariant,
      List.map_append, List.isPrefixOf_iff_prefix]
    exact List.prefix_append _ _
  have outside : ∀ endpoint : OwnEndpoint, ∀ path ∈
      [endpoint.pattern.map Char.toUpper, (endpoint.pattern ++ ['/']).map Char.toUpper],
      (PolicyResolver.gatewayPathPrefix.map Char.toUpper).isPrefixOf path = false := by
    intro endpoint
    cases endpoint <;> decide
  rw [startsWith_upper (by decide) rfl, outside endpoint _ (matched_path matched)] at begins
  cases begins

/-- Only the health check's path is one the middleware lets through. -/
theorem matched_health_iff (matched : endpoint.Matched caseMap context) :
    Text.startsWithIgnoreCase caseMap Middleware.healthPrefix context.path = true ↔
      endpoint = .healthChecks := by
  have health : ∀ endpoint : OwnEndpoint, ∀ path ∈
      [endpoint.pattern.map Char.toUpper, (endpoint.pattern ++ ['/']).map Char.toUpper],
      ((Middleware.healthPrefix.map Char.toUpper).isPrefixOf path = true ↔
        endpoint = .healthChecks) := by
    intro endpoint
    cases endpoint <;> decide
  rw [startsWith_upper (by decide) rfl]
  exact health endpoint _ (matched_path matched)

end Paths

section Requests

variable {platform : Platform} {endpoint : OwnEndpoint} {context : HttpContext}

/-- The key of a matching request is no key with a path under the prefix. -/
theorem matched_key_ne (matched : endpoint.Matched platform.caseMap context) (method rest : Text) :
    PolicyResolver.requestKey platform context.path context.method ≠
      method ++ ':' :: (PolicyResolver.gatewayPathPrefix ++ rest) := by
  intro same
  have pathColons : context.path.count ':' = 0 := List.count_eq_zero.mpr (matched_colon matched)
  have methodColons : (Text.toUpperInvariant platform.caseMap context.method).count ':' = 0 :=
    List.count_eq_zero.mpr
      (Text.not_mem_toUpperInvariant platform.caseMap (by decide) (by decide) matched.token)
  -- The request's key has one colon, so the other has no more.
  have counted := congrArg (List.count ':') same
  simp only [PolicyResolver.requestKey, RouteKey.fromRequest, RouteKey.toKey, List.count_append,
    List.count_cons_self, methodColons, pathColons] at counted
  have whole : ':' ∉ PolicyResolver.gatewayPathPrefix ++ rest := by
    rw [← List.count_eq_zero, List.count_append]
    omega
  exact matched_outside matched rest (Text.cut_at_last same (matched_colon matched) whole).2

/-- Where only paths under the prefix are kept no policy is found. -/
theorem matched_unresolved (matched : endpoint.Matched platform.caseMap context) {gateway : Gateway}
    (sustains : Sustains (fun _ => UnderGateway) gateway) :
    (PolicyResolver.resolvePolicyAsync platform context.path context.method gateway).1 =
      .ok none := by
  have uncached : gateway.cache.peek CacheValue.asPolicy
      (policyKey (PolicyResolver.requestKey platform context.path context.method)) = none := by
    rw [Option.eq_none_iff_forall_ne_some]
    intro policy peeked
    obtain ⟨value, held, viewed⟩ := Cache.peek_held peeked
    obtain ⟨method, rest, keyed⟩ := sustains.cache _ value held _ policy rfl
      ((CacheValue.asPolicy_eq_some_iff value policy).mp viewed)
    exact matched_key_ne matched method rest keyed
  have unpublished : gateway.policySnapshot.tryGetValue
      (PolicyResolver.requestKey platform context.path context.method) = none := by
    rw [Option.eq_none_iff_forall_ne_some]
    intro policy found
    obtain ⟨method, rest, keyed⟩ := sustains.snapshot _ policy found _ policy rfl rfl
    exact matched_key_ne matched method rest keyed
  rw [PolicyResolver.resolvePolicyAsync_value, uncached, unpublished]
  rfl

/-- The middleware answers such a request itself unless its path lets it through. -/
theorem invokeAsync_matched (matched : endpoint.Matched platform.caseMap context)
    (next : Task Gateway Nat) {gateway : Gateway}
    (sustains : Sustains (fun _ => UnderGateway) gateway) :
    ((Middleware.invokeAsync platform.caseMap (gatewayServices platform) next context gateway).1 =
        ⟨404, "Endpoint not found or disabled".toList, false, []⟩ ∧ endpoint ≠ .healthChecks) ∨
      ((Middleware.invokeAsync platform.caseMap (gatewayServices platform) next context
        gateway).1.calledNext = true ∧ endpoint = .healthChecks) := by
  by_cases health : Text.startsWithIgnoreCase platform.caseMap Middleware.healthPrefix
    context.path = true
  · refine Or.inr ⟨?_, (matched_health_iff matched).mp health⟩
    rw [Middleware.invokeAsync, if_pos health, Middleware.proceed]
    rcases next gateway with ⟨ending, after⟩
    cases ending with
    | ok status => rfl
    | error fault => rfl
  · refine Or.inl ⟨?_, fun same => health ((matched_health_iff matched).mpr same)⟩
    have resolved : (gatewayServices platform).policyResolver.resolvePolicyAsync context.path
        context.method gateway = (.ok none, (PolicyResolver.resolvePolicyAsync platform
          context.path context.method gateway).2) :=
      Prod.ext (matched_unresolved matched sustains) rfl
    have answered : Middleware.authorize platform.caseMap (gatewayServices platform) context gateway =
        (.ok (.answered 404 "Endpoint not found or disabled".toList),
          (PolicyResolver.resolvePolicyAsync platform context.path context.method gateway).2) := by
      rw [Middleware.authorize, Effect.bind_ok resolved]
      rfl
    rw [Middleware.invokeAsync, if_neg health, answered]

/-- In every reachable state a request for one of the gateway's own endpoints is
passed on exactly when the endpoint is the health check. -/
theorem own_endpoint_passed_on_iff (platform : Platform) (database : Database)
    (steps : List (Step platform)) (next : Task Gateway Nat) {endpoint : OwnEndpoint}
    {context : HttpContext} (matched : endpoint.Matched platform.caseMap context) :
    (Middleware.invokeAsync platform.caseMap (gatewayServices platform) next context
        (Runs.run (perform platform) steps (Gateway.started database))).1.calledNext = true ↔
      endpoint = .healthChecks := by
  have sustains : Sustains (fun _ => UnderGateway)
      (Runs.run (perform platform) steps (Gateway.started database)) :=
    sustains_always offered_underGateway steps (sustains_started (fun _ => UnderGateway) database)
  rcases invokeAsync_matched matched next sustains with ⟨answered, other⟩ | ⟨passed, health⟩
  · simp [answered, other]
  · simp [passed, health]

/-- An authenticated request for a refresh of the policies. -/
def refreshRequest : HttpContext :=
  .request (Principal.subject "operator".toList) "/admin/refresh-policies".toList "POST".toList []

theorem refreshRequest_matched :
    OwnEndpoint.refreshPolicies.Matched plainPlatform.caseMap refreshRequest where
  path := Or.inl (by decide)
  method := by
    rintro method mapped
    cases mapped
    decide
  token := by decide

/-- A registry with one endpoint. -/
def orderedRegistry : Database :=
  Database.ofEndpoint .sample
    (.sample 1 "orders".toList "/orders".toList "v1".toList "orders".toList
      "[\"http://orders\"]".toList)
    (.sample 2 1 "list".toList "GET".toList "/list".toList)

theorem own_endpoint_passed_on_iff_refresh :
    (Middleware.invokeAsync plainPlatform.caseMap (gatewayServices plainPlatform) (pure 200)
        refreshRequest (Runs.run (perform plainPlatform) [.refreshesPolicies]
          (Gateway.started orderedRegistry))).1.calledNext = true ↔
      OwnEndpoint.refreshPolicies = .healthChecks :=
  own_endpoint_passed_on_iff plainPlatform orderedRegistry [.refreshesPolicies] (pure 200)
    refreshRequest_matched

/-- An authenticated refresh of the policies is answered by the middleware. -/
theorem refresh_answered_404 :
    refreshRequest.user.isAuthenticated = true ∧
      OwnEndpoint.refreshPolicies.Matched plainPlatform.caseMap refreshRequest ∧
      (Middleware.invokeAsync plainPlatform.caseMap (gatewayServices plainPlatform) (pure 200)
        refreshRequest (Runs.run (perform plainPlatform) [.refreshesPolicies]
          (Gateway.started orderedRegistry))).1 =
        ⟨404, "Endpoint not found or disabled".toList, false, []⟩ :=
  ⟨by decide, refreshRequest_matched, by decide⟩

end Requests

end ApiGateway
