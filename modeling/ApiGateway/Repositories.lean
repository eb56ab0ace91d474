import ApiGateway.Authorization
import ApiGateway.PolicyResolver

/-!
# The gateway's own services

The repositories query the database or fail. Recording a client's last access
writes a column that no modelled function reads.
-/

namespace ApiGateway

open Effects

def clientRepository : IClientRepository Gateway where
  getByClientIdAsync := fun clientId =>
    Gateway.query (.client clientId) (fun gateway => gateway.database.clientByClientId clientId)
  updateLastAccessAsync := fun _ gateway => gateway

def clientPermissionRepository : IClientPermissionRepository Gateway where
  getAuthorizedEndpointIdsAsync := fun clientId =>
    Gateway.query (.authorizedEndpointIds clientId)
      (fun gateway => gateway.database.authorizedEndpointIds gateway.now clientId)

def userProfileRepository : IUserProfileRepository Gateway where
  getByUserIdAsync := fun userId serviceId =>
    Gateway.query (.userProfile userId serviceId)
      (fun gateway => gateway.database.profileByUserId userId serviceId)

/-- What the middleware is handed in this process. -/
def gatewayServices (platform : Platform) : Middleware.Services Gateway where
  policyResolver := PolicyResolver.policyResolver platform
  clientRepo := clientRepository
  permissionRepo := clientPermissionRepository
  cache := PolicyCache.policyCache

theorem getAuthorizedEndpointIdsAsync_run {gateway : Gateway} {clientId : Guid}
    (answered : gateway.repositoryFault (.authorizedEndpointIds clientId) = none) :
    clientPermissionRepository.getAuthorizedEndpointIdsAsync clientId gateway =
      (.ok (gateway.database.authorizedEndpointIds gateway.now clientId), gateway) := by
  simp [clientPermissionRepository, Gateway.query, answered]

/-- A read aside of a table ends with what the cache answers, else with what the
table holds, and changes reads of its own key only. -/
theorem readAside_run {α : Type} (keys : Text → Prop) {key : Text} {gateway : Gateway}
    {call : RepositoryCall} (view : CacheValue → Option α) (wrap : α → CacheValue)
    (rows : Database → Option α) (outside : ¬ keys key)
    (answered : gateway.repositoryFault call = none) :
    ∃ after,
      cacheAside (PolicyCache.read view key) (Gateway.query call (fun gateway => rows gateway.database))
          (fun value => PolicyCache.write key (wrap value) oneHour) gateway =
        (.ok ((gateway.cache.peek view key).or (rows gateway.database)), after) ∧
      PolicyCache.SameOn keys after gateway := by
  have unchanged := PolicyCache.sameOn_afterRead view outside gateway
  unfold cacheAside
  rw [Effect.bind_ok (PolicyCache.read_run view key gateway)]
  cases gateway.cache.peek view key with
  | some found => exact ⟨_, rfl, unchanged⟩
  | none =>
    dsimp only
    have reached : (PolicyCache.afterRead view key gateway).repositoryFault call = none := answered
    rw [Effect.bind_ok (Gateway.query_run reached), unchanged.database, Option.none_or]
    cases rows gateway.database with
    | none => exact ⟨_, rfl, unchanged⟩
    | some value =>
      exact ⟨_, rfl, (PolicyCache.sameOn_afterWrite (wrap value) oneHour outside _).trans unchanged⟩

end ApiGateway
