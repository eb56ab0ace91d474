import ApiGateway.CachedPath

/-!
# Revocation

A cycle rewrites the entries of enabled clients. For a client id that has no
enabled client the middleware still trusts a cached client, with the permissions
then in effect for its row. So after a cycle a request is answered as the
database says exactly when no cached client outlives its enabled row with a
permission for the endpoint. A caller with an empty client id is never admitted.

Along a run requests keep being answered so as long as no change of the registry
takes away the enabled row of a client that the process still retains.
-/

namespace ApiGateway.PolicyRefreshService

open Effects TwoTier

/-- A caller's request for an endpoint whose policy requires a token. -/
structure Requests (platform : Platform) (gateway : Gateway) (context : HttpContext)
    (clientId : Text) (policy : EndpointPolicy) : Prop where
  identified : Middleware.IdentifiedRequest platform context clientId
  resolved : (PolicyResolver.resolvePolicyAsync platform context.path context.method gateway).1 =
    .ok (some policy)
  required : policy.requiresJwt = true

/-- The request is handed to the next stage exactly when the database grants the
endpoint to the caller. -/
def AnsweredByGrant (platform : Platform) (gateway : Gateway) (context : HttpContext)
    (clientId : Text) (policy : EndpointPolicy) : Prop :=
  ∀ next : Task Gateway Nat,
    (Middleware.invokeAsync platform.caseMap (gatewayServices platform) next context
        gateway).1.calledNext = true ↔
      gateway.database.Grants gateway.now clientId policy.endpoint.id

/-- The permissions a cycle puts in effect for a client row: the database's for
an enabled one, those in effect before for any other. -/
def permissionsAfterCycle (gateway : Gateway) (clientId : Guid) : List Guid :=
  if clientId ∈ gateway.database.enabledClients.map Client.id then
    gateway.database.authorizedEndpointIds gateway.now clientId
  else Middleware.permissionsInEffect gateway clientId

/-- A cached client without an enabled row has no permission for the endpoint,
and an empty client id has no grant. -/
structure NoneOutlives (gateway : Gateway) (clientId : Text) (endpointId : Guid) : Prop where
  named : clientId = [] → ¬ gateway.database.Grants gateway.now clientId endpointId
  revoked : clientId ≠ [] → gateway.database.clientByClientId clientId = none → ∀ client,
    gateway.cache.peek CacheValue.asClient (PolicyCache.clientKey clientId) = some client →
      endpointId ∉ permissionsAfterCycle gateway client.id

variable {platform : Platform} {gateway : Gateway}

theorem permissionsInEffect_refreshed (platform : Platform) (gateway : Gateway) (clientId : Guid) :
    Middleware.permissionsInEffect (refreshed platform gateway) clientId =
      permissionsAfterCycle gateway clientId := by
  unfold permissionsAfterCycle
  split
  · next enabled =>
    obtain ⟨client, listed, rfl⟩ := List.mem_map.mp enabled
    exact permissionsInEffect_enabled listed
  · next disabled =>
    refine permissionsInEffect_stale (fun client listed same => disabled ?_)
    exact List.mem_map.mpr ⟨client, listed, same⟩

/-- A cycle changes neither the database nor the clock. -/
theorem refreshed_grants (platform : Platform) (gateway : Gateway) (clientId : Text)
    (endpointId : Guid) :
    (refreshed platform gateway).database.Grants (refreshed platform gateway).now clientId
        endpointId ↔ gateway.database.Grants gateway.now clientId endpointId := by
  rw [refreshed_now]
  rfl

/-- For an enabled client a completed cycle puts the database's answer in effect. -/
theorem inEffect_enabled_iff {clientId : Text} {client : Client} {endpointId : Guid}
    (enabled : gateway.database.clientByClientId clientId = some client) :
    (∃ found, Middleware.clientInEffect (refreshed platform gateway) clientId = some found ∧
        endpointId ∈ Middleware.permissionsInEffect (refreshed platform gateway) found.id) ↔
      gateway.database.Grants gateway.now clientId endpointId := by
  have listed : client ∈ gateway.database.enabledClients := by
    rw [Database.mem_enabledClients_iff,
      ((gateway.database.clientByClientId_iff clientId client).mp enabled).2.1, enabled]
  rw [Database.grants_iff, clientInEffect_enabled enabled, enabled]
  simp only [Option.some.injEq, exists_eq_left', permissionsInEffect_enabled listed]

/-- For any other client id it leaves the cached client with its permissions. -/
theorem inEffect_stale_iff {clientId : Text} {endpointId : Guid}
    (absent : gateway.database.clientByClientId clientId = none) :
    (∃ found, Middleware.clientInEffect (refreshed platform gateway) clientId = some found ∧
        endpointId ∈ Middleware.permissionsInEffect (refreshed platform gateway) found.id) ↔
      ∃ client, gateway.cache.peek CacheValue.asClient (PolicyCache.clientKey clientId) =
        some client ∧ endpointId ∈ permissionsAfterCycle gateway client.id := by
  rw [clientInEffect_stale absent]
  simp only [permissionsInEffect_refreshed]

/-- After a completed cycle a request is answered as the database says exactly
when no cached client outlives its enabled row with a permission. -/
theorem answeredByGrant_refreshed_iff {context : HttpContext} {clientId : Text}
    {policy : EndpointPolicy} (connected : gateway.Connected)
    (requests : Requests platform (refreshed platform gateway) context clientId policy) :
    AnsweredByGrant platform (refreshed platform gateway) context clientId policy ↔
      NoneOutlives gateway clientId policy.endpoint.id := by
  have reached : (refreshed platform gateway).Connected := connected
  have admitted := Middleware.admitted_iff reached requests.identified requests.resolved
    requests.required
  unfold AnsweredByGrant
  simp only [admitted, refreshed_grants, forall_const]
  cases enabled : gateway.database.clientByClientId clientId with
  | none =>
    have refused : ¬ gateway.database.Grants gateway.now clientId policy.endpoint.id := by
      simp [Database.grants_iff, enabled]
    rw [inEffect_stale_iff enabled, iff_false_right refused]
    constructor
    · intro unanswered
      exact ⟨fun _ => refused, fun nonempty _ client cached member =>
        unanswered ⟨nonempty, client, cached, member⟩⟩
    · rintro ⟨_, revoked⟩ ⟨nonempty, client, cached, member⟩
      exact revoked nonempty enabled client cached member
  | some client =>
    rw [inEffect_enabled_iff enabled, and_iff_right_iff_imp]
    constructor
    · intro named
      refine ⟨fun empty granted => named granted empty, fun _ absent => ?_⟩
      cases enabled.symm.trans absent
    · exact fun outlives granted empty => outlives.named empty granted

/-- A cached client has an enabled row under the client id it is cached for. -/
def ClientKept (database : Database) (key : Text) (value : CacheValue) : Prop :=
  ∀ clientId client, key = PolicyCache.clientKey clientId → value = .client client →
    database.clientByClientId clientId ≠ none

theorem offered_clientKept (platform : Platform) (database : Database) (key : Text)
    (value : CacheValue) (offered : Offered platform database key value) :
    ClientKept database key value := by
  rintro clientId client keyed rfl
  cases offered with
  | client offeredId _ enabled =>
    rw [← PolicyCache.clientKey_injective keyed, enabled]
    exact Option.some_ne_none client

/-- No enabled client has an empty client id. -/
def ClientsNamed (database : Database) : Prop := database.clientByClientId [] = none

instance (database : Database) : Decidable (ClientsNamed database) :=
  inferInstanceAs (Decidable (_ = _))

/-- A step that takes no retained client's enabled row away and leaves every
enabled client named. -/
structure KeepsClients {platform : Platform} (gateway : Gateway) (step : Step platform) : Prop where
  tolerates : Tolerates ClientKept gateway step
  named : ClientsNamed (contentAfter gateway step)

/-- Enabled clients are named and every cached client has an enabled row. -/
structure ClientsCurrent (gateway : Gateway) : Prop where
  sustains : Sustains ClientKept gateway
  named : ClientsNamed gateway.database

theorem clientsCurrent_run {steps : List (Step platform)} (current : ClientsCurrent gateway)
    (along : Runs.Along (perform platform) KeepsClients steps gateway) :
    ClientsCurrent (Runs.run (perform platform) steps gateway) := by
  refine Runs.invariant_run (fun reached step holds keeps => ⟨?_, ?_⟩) along current
  · exact sustains_perform (offered_clientKept platform) holds.sustains keeps.tolerates
  · rw [(perform_frame step reached).1]
    exact keeps.named

/-- Where cached clients have enabled rows none outlives its own. -/
theorem ClientsCurrent.noneOutlives (current : ClientsCurrent gateway) (clientId : Text)
    (endpointId : Guid) : NoneOutlives gateway clientId endpointId := by
  constructor
  · rintro rfl granted
    obtain ⟨client, enabled, _⟩ := (Database.grants_iff _ _ _ _).mp granted
    cases current.named.symm.trans enabled
  · intro _ absent client cached
    obtain ⟨value, held, viewed⟩ := Cache.peek_held cached
    exact absurd absent (current.sustains.cache _ value held clientId client rfl
      ((CacheValue.asClient_eq_some_iff value client).mp viewed))

/-- Requests after a cycle that read the registry are answered as the database
grants them: in every state reached by a run that takes no retained client's row
away, and from any state at all exactly when no cached client outlives its own. -/
theorem revocation_reaches_iff (platform : Platform) :
    (∀ (database : Database) (steps : List (Step platform)), ClientsNamed database →
      Runs.Along (perform platform) KeepsClients steps (Gateway.started database) →
        (Runs.run (perform platform) steps (Gateway.started database)).Connected →
          ∀ context clientId policy,
            Requests platform (refreshAllAsync platform
              (Runs.run (perform platform) steps (Gateway.started database))).2
                context clientId policy →
              AnsweredByGrant platform (refreshAllAsync platform
                (Runs.run (perform platform) steps (Gateway.started database))).2
                  context clientId policy) ∧
      ∀ gateway : Gateway, gateway.Connected → ∀ context clientId policy,
        Requests platform (refreshAllAsync platform gateway).2 context clientId policy →
          (AnsweredByGrant platform (refreshAllAsync platform gateway).2 context clientId policy ↔
            NoneOutlives gateway clientId policy.endpoint.id) := by
  constructor
  · intro database steps named along connected context clientId policy
    have current := clientsCurrent_run ⟨sustains_started ClientKept database, named⟩ along
    rw [refreshAllAsync_run (completes_connected platform connected)]
    exact fun requests => (answeredByGrant_refreshed_iff connected requests).mpr
      (current.noneOutlives clientId policy.endpoint.id)
  · intro gateway connected context clientId policy
    rw [refreshAllAsync_run (completes_connected platform connected)]
    exact answeredByGrant_refreshed_iff connected

/-- A client with a permission for the one endpoint of a registry. -/
def grantedClient (isEnabled : Bool) : Client where
  id := Guid.numbered 3
  clientId := "alice".toList
  isEnabled := isEnabled

def grantedRegistry (isEnabled : Bool) : Database :=
  { PolicyResolver.oneEndpoint with
    clients := [grantedClient isEnabled]
    clientPermissions := [⟨Guid.numbered 4, Guid.numbered 3, Guid.numbered 2, true, none⟩]
    clients_id := by simp
    clients_clientId := by simp
    clientPermissions_id := by simp
    clientPermissions_pair := by simp }

/-- The client is loaded and then disabled. -/
def revoked : Gateway :=
  Runs.run (perform plainPlatform) [.refreshesAll, .databaseChanges (grantedRegistry false)]
    (Gateway.started (grantedRegistry true))

def grantedRequest : HttpContext :=
  HttpContext.request (Principal.subject "alice".toList) "/gateway/orders/list".toList "GET".toList []

def grantedPolicy : EndpointPolicy :=
  PolicyResolver.buildEndpointPolicy plainPlatform .sample PolicyResolver.oneService
    PolicyResolver.oneServiceEndpoint

theorem revoked_requests :
    Requests plainPlatform (refreshAllAsync plainPlatform revoked).2 grantedRequest "alice".toList
      grantedPolicy where
  identified := ⟨by decide, rfl, by decide⟩
  resolved := by decide
  required := rfl

theorem granted_requests :
    Requests plainPlatform (refreshAllAsync plainPlatform
      (Runs.run (perform plainPlatform) [.refreshesAll]
        (Gateway.started (grantedRegistry true)))).2 grantedRequest "alice".toList grantedPolicy where
  identified := ⟨by decide, rfl, by decide⟩
  resolved := by decide
  required := rfl

theorem revocation_reaches_iff_revoked :
    AnsweredByGrant plainPlatform (refreshAllAsync plainPlatform
        (Runs.run (perform plainPlatform) [.refreshesAll]
          (Gateway.started (grantedRegistry true)))).2 grantedRequest "alice".toList grantedPolicy ∧
      (AnsweredByGrant plainPlatform (refreshAllAsync plainPlatform revoked).2 grantedRequest
          "alice".toList grantedPolicy ↔
        NoneOutlives revoked "alice".toList grantedPolicy.endpoint.id) :=
  ⟨(revocation_reaches_iff plainPlatform).1 (grantedRegistry true) [.refreshesAll]
      (by decide) ⟨⟨trivial, by decide⟩, trivial⟩ (fun _ => rfl) _ _ _
      granted_requests,
    (revocation_reaches_iff plainPlatform).2 revoked (fun _ => rfl) _ _ _ revoked_requests⟩

/-- After a cycle that reads the registry the disabled client is still admitted. -/
theorem disabled_client_still_admitted :
    Completes plainPlatform revoked ∧
      Requests plainPlatform (refreshAllAsync plainPlatform revoked).2 grantedRequest
        "alice".toList grantedPolicy ∧
      ¬ AnsweredByGrant plainPlatform (refreshAllAsync plainPlatform revoked).2 grantedRequest
        "alice".toList grantedPolicy := by
  refine ⟨completes_connected plainPlatform (fun _ => rfl), revoked_requests, fun answered => ?_⟩
  have admitted : (Middleware.invokeAsync plainPlatform.caseMap (gatewayServices plainPlatform)
      (pure 200) grantedRequest (refreshAllAsync plainPlatform revoked).2).1.calledNext = true := by
    decide
  obtain ⟨client, enabled, _⟩ := (Database.grants_iff _ _ _ _).mp ((answered (pure 200)).mp admitted)
  have absent : (refreshAllAsync plainPlatform revoked).2.database.clientByClientId
      "alice".toList = none := by
    decide
  cases absent.symm.trans enabled

end ApiGateway.PolicyRefreshService
