import ApiGateway.CachedPath

/-!
# Key rotation

Profiles are cached under the user and the service they were looked up for, and
no refresh writes such a key. So after a cycle the decryption stage uses the
database's profile exactly when the cache answers with no other.

Along a run it does as long as no change of the registry gives a user another
profile, or none, than the process still retains.
-/

namespace ApiGateway.DecryptTransform

open Effects TwoTier

variable {platform : Platform}

/-- The profile in effect for a user and a service. -/
def profileInEffect (gateway : Gateway) (userId : Text) (serviceId : Guid) : Option UserProfile :=
  (gateway.cache.peek CacheValue.asUserProfile
      (PolicyCache.userProfileKey userId (some serviceId))).or
    (gateway.database.profileByUserId userId (some serviceId))

/-- A request with a body that no stage has read yet. -/
structure Posts (platform : Platform) (connection : Connection Gateway) (gateway : Gateway)
    (userId : Text) (policy : EndpointPolicy) : Prop where
  services : connection.services = gateway
  incoming : ∃ bytes, connection.context.body = .incoming bytes
  named : connection.context.user.clientId platform.caseMap = some userId
  resolved : (PolicyResolver.resolvePolicyAsync platform connection.context.path
    connection.context.method gateway).1 = .ok (some policy)

/-- The stage uses the database's profile, and without one it decrypts nothing. -/
structure UsesCurrentProfile (platform : Platform) (cryptoService : ICryptoService)
    (gateway : Gateway) (userId : Text) (serviceId : Guid) : Prop where
  profile : (lookupProfile (gatewayServices platform cryptoService) userId serviceId gateway).1 =
    .ok (gateway.database.profileByUserId userId (some serviceId))
  refused : gateway.database.profileByUserId userId (some serviceId) = none →
    ∀ connection policy, Posts platform connection gateway userId policy →
      policy.service.id = serviceId → ∀ output,
        (applyAsync platform (gatewayServices platform cryptoService) connection).2.context.body ≠
          .replaced output

/-- The cache answers for the user and the service with the database's profile
or not at all. -/
def CachedProfileCurrent (gateway : Gateway) (userId : Text) (serviceId : Guid) : Prop :=
  ∀ profile, gateway.cache.peek CacheValue.asUserProfile
      (PolicyCache.userProfileKey userId (some serviceId)) = some profile →
    gateway.database.profileByUserId userId (some serviceId) = some profile

/-- A profile is retained only for a user and a service that still have it. -/
def ProfileKept (database : Database) (key : Text) (value : CacheValue) : Prop :=
  ∀ userId serviceId profile, key = PolicyCache.userProfileKey userId (some serviceId) →
    value = .userProfile profile → database.profileByUserId userId (some serviceId) = some profile

/-- The profile lookup ends with the profile in effect. -/
theorem lookupProfile_value {gateway : Gateway} (connected : gateway.Connected)
    (cryptoService : ICryptoService) (userId : Text) (serviceId : Guid) :
    (lookupProfile (gatewayServices platform cryptoService) userId serviceId gateway).1 =
      .ok (profileInEffect gateway userId serviceId) := by
  obtain ⟨after, ran, _⟩ := readAside_run (fun _ => False) CacheValue.asUserProfile
    CacheValue.userProfile (fun database => database.profileByUserId userId (some serviceId)) id
    (connected (.userProfile userId (some serviceId)))
  exact congrArg Prod.fst ran

theorem profileInEffect_current {gateway : Gateway} {userId : Text} {serviceId : Guid} :
    profileInEffect gateway userId serviceId =
        gateway.database.profileByUserId userId (some serviceId) ↔
      CachedProfileCurrent gateway userId serviceId := by
  unfold profileInEffect CachedProfileCurrent
  cases gateway.cache.peek CacheValue.asUserProfile
      (PolicyCache.userProfileKey userId (some serviceId)) with
  | none => simp
  | some cached => simp [eq_comm]

/-- A body is replaced only after a profile was found for the caller. -/
theorem replaced_found {services : Services Gateway} {connection : Connection Gateway}
    {resolved : Gateway} {userId : Text} {policy : EndpointPolicy} {bytes output : Bytes}
    (asked : services.policyResolver.resolvePolicyAsync connection.context.path
      connection.context.method connection.services = (.ok (some policy), resolved))
    (incoming : connection.context.body = .incoming bytes)
    (named : connection.context.user.clientId platform.caseMap = some userId)
    (ended : (applyAsync platform services connection).2.context.body = .replaced output) :
    ∃ profile after, ProfileFound services userId policy.service.id resolved profile after := by
  unfold applyAsync at ended
  rw [Effect.bind_ok (Effect.gets_run _ _),
    Effect.bind_ok (Connection.call_ok connection asked)] at ended
  dsimp only at ended
  split at ended
  · exact absurd (incoming.symm.trans ended) (by simp)
  · cases kept : (connection.context.user.clientId platform.caseMap).filter
        (fun value => !value.isEmpty) with
    | none =>
      rw [kept] at ended
      exact absurd (incoming.symm.trans ended) (by simp)
    | some clientId =>
      obtain ⟨same, _⟩ := Option.filter_eq_some_iff.mp kept
      obtain rfl : userId = clientId := Option.some.inj (named.symm.trans same)
      rw [kept] at ended
      have body : (decryptBody platform services policy userId
          (resolvedAt resolved connection)).2.context.body = .replaced output := by
        unfold Effect.handle resolvedAt at *
        dsimp only at ended
        generalize decryptBody platform services policy userId
          { connection with services := resolved } = ran at ended ⊢
        obtain ⟨ending, after⟩ := ran
        cases ending with
        | ok value => exact ended
        | error fault => exact ended
      obtain ⟨after, opens⟩ := decryptBody_replaced (resolvedAt resolved connection) incoming body
      obtain ⟨_, profile, _, found, _⟩ := opens.opened
      exact ⟨profile, after, found⟩

/-- The stage uses the database's profile exactly where the cache answers with no
other. -/
theorem usesCurrentProfile_iff {gateway : Gateway} (connected : gateway.Connected)
    (cryptoService : ICryptoService) (userId : Text) (serviceId : Guid) :
    UsesCurrentProfile platform cryptoService gateway userId serviceId ↔
      CachedProfileCurrent gateway userId serviceId := by
  rw [← profileInEffect_current]
  constructor
  · rintro ⟨used, _⟩
    rw [lookupProfile_value connected] at used
    exact Except.ok.inj used
  · intro current
    refine ⟨by rw [lookupProfile_value connected, current], ?_⟩
    rintro absent connection policy ⟨rfl, ⟨bytes, incoming⟩, named, resolved⟩ rfl output ended
    -- Resolving the policy first changes no profile.
    have frame := PolicyResolver.resolvePolicyAsync_sameOn platform connection.context.path
      connection.context.method connection.services
    have outside : PolicyCache.NotPolicyKey
        (PolicyCache.userProfileKey userId (some policy.service.id)) :=
      fun routeKey => PolicyCache.policyKey_ne_userProfileKey routeKey userId _
    obtain ⟨profile, after, found⟩ := replaced_found (Prod.ext resolved rfl) incoming named ended
    have looked : (lookupProfile (gatewayServices platform cryptoService) userId policy.service.id
        (PolicyResolver.resolvePolicyAsync platform connection.context.path
          connection.context.method connection.services).2).1 =
        .ok (profileInEffect _ userId policy.service.id) :=
      lookupProfile_value (frame.connected connected) cryptoService userId policy.service.id
    have returned : lookupProfile (gatewayServices platform cryptoService) userId policy.service.id
        (PolicyResolver.resolvePolicyAsync platform connection.context.path
          connection.context.method connection.services).2 = (.ok (some profile), after) :=
      cacheAside_some_iff.mpr found
    rw [returned, profileInEffect, frame.peek _ _ outside, frame.database] at looked
    have effect := Except.ok.inj looked
    rw [← profileInEffect, current, absent] at effect
    cases effect

theorem offered_profileKept (platform : Platform) (database : Database) (key : Text)
    (value : CacheValue) (offered : Offered platform database key value) :
    ProfileKept database key value := by
  rintro userId serviceId profile keyed rfl
  cases offered with
  | userProfile offeredUser offeredService _ enabled =>
    obtain ⟨rfl, rfl⟩ := PolicyCache.userProfileKey_injective keyed
    exact enabled

/-- A cycle leaves cached profiles and the database alone. -/
theorem cachedProfileCurrent_refreshed (platform : Platform) (gateway : Gateway) (userId : Text)
    (serviceId : Guid) :
    CachedProfileCurrent (PolicyRefreshService.refreshed platform gateway) userId serviceId ↔
      CachedProfileCurrent gateway userId serviceId := by
  have unwritten : ∀ value, (PolicyCache.userProfileKey userId (some serviceId), value) ∉
      PolicyRefreshService.allClientEntries gateway.database gateway.now := by
    intro value member
    obtain ⟨client, _, ⟨key, _⟩ | ⟨key, _⟩⟩ :=
      (PolicyRefreshService.mem_allClientEntries_iff _ _).mp member
    · exact PolicyCache.permissionKey_ne_userProfileKey _ _ _ key.symm
    · exact PolicyCache.clientKey_ne_userProfileKey _ _ _ key.symm
  unfold CachedProfileCurrent
  rw [PolicyRefreshService.peek_refreshed_absent CacheValue.asUserProfile
    (fun routeKey => PolicyCache.policyKey_ne_userProfileKey routeKey userId _) unwritten]
  rfl

/-- Where retained profiles are the database's, the cache answers with no other. -/
theorem cachedProfileCurrent_of_sustains {gateway : Gateway}
    (sustains : Sustains ProfileKept gateway) (userId : Text) (serviceId : Guid) :
    CachedProfileCurrent gateway userId serviceId := by
  intro profile cached
  obtain ⟨value, held, viewed⟩ := Cache.peek_held cached
  exact sustains.cache _ value held userId serviceId profile rfl
    ((CacheValue.asUserProfile_eq_some_iff value profile).mp viewed)

/-- After a cycle the stage uses the database's profile: in every state reached by
a run that gives no user another profile than the one retained, and from any
state at all exactly where the cache answers with no other. -/
theorem rotation_reaches_iff (platform : Platform) :
    (∀ (database : Database) (steps : List (Step platform)),
      Runs.Along (perform platform) (Tolerates ProfileKept) steps (Gateway.started database) →
        (Runs.run (perform platform) steps (Gateway.started database)).Connected →
          ∀ cryptoService userId serviceId,
            UsesCurrentProfile platform cryptoService (PolicyRefreshService.refreshAllAsync platform
              (Runs.run (perform platform) steps (Gateway.started database))).2 userId serviceId) ∧
      ∀ gateway : Gateway, gateway.Connected → ∀ cryptoService userId serviceId,
        (UsesCurrentProfile platform cryptoService
            (PolicyRefreshService.refreshAllAsync platform gateway).2 userId serviceId ↔
          CachedProfileCurrent gateway userId serviceId) := by
  have cycle : ∀ gateway : Gateway, gateway.Connected → ∀ cryptoService userId serviceId,
      (UsesCurrentProfile platform cryptoService
          (PolicyRefreshService.refreshAllAsync platform gateway).2 userId serviceId ↔
        CachedProfileCurrent gateway userId serviceId) := by
    intro gateway connected cryptoService userId serviceId
    have reached : (PolicyRefreshService.refreshed platform gateway).Connected := connected
    rw [PolicyRefreshService.refreshAllAsync_run
        (PolicyRefreshService.completes_connected platform connected),
      usesCurrentProfile_iff reached, cachedProfileCurrent_refreshed]
  refine ⟨fun database steps along connected cryptoService userId serviceId => ?_, cycle⟩
  have sustains := sustains_run (offered_profileKept platform)
    (sustains_started ProfileKept database) along
  exact (cycle _ connected cryptoService userId serviceId).mpr
    (cachedProfileCurrent_of_sustains sustains userId serviceId)

/-- A user's profile for the one service of a registry. -/
def serviceProfile (isEnabled : Bool) : UserProfile where
  id := Guid.numbered 3
  userId := "alice".toList
  serviceId := some (Guid.numbered 1)
  encryptionKey := "key".toList
  encryptionIv := none
  isEnabled := isEnabled

def profiledRegistry (isEnabled : Bool) : Database :=
  { decryptedEndpoint with
    userProfiles := [serviceProfile isEnabled]
    userProfiles_id := by simp
    userProfiles_pair := by simp [serviceProfile] }

/-- A payload in its wrapper. -/
def wrappedBody : Bytes := plainPlatform.getBytes "\x7b\"data\":\"secret\"\x7d".toList

/-- The policies are loaded and a payload is decrypted, which caches the profile. -/
def profileRun : List (Step plainPlatform) :=
  [.refreshesPolicies, .decrypts plainCrypto (posted wrappedBody).context .fresh]

/-- The profile is then disabled. -/
def rotated : Gateway :=
  Runs.run (perform plainPlatform) (profileRun ++ [.databaseChanges (profiledRegistry false)])
    (Gateway.started (profiledRegistry true))

theorem rotation_reaches_iff_rotated :
    UsesCurrentProfile plainPlatform plainCrypto (PolicyRefreshService.refreshAllAsync plainPlatform
        (Runs.run (perform plainPlatform) profileRun
          (Gateway.started (profiledRegistry true)))).2 "alice".toList (Guid.numbered 1) ∧
      (UsesCurrentProfile plainPlatform plainCrypto
          (PolicyRefreshService.refreshAllAsync plainPlatform rotated).2 "alice".toList
            (Guid.numbered 1) ↔
        CachedProfileCurrent rotated "alice".toList (Guid.numbered 1)) :=
  ⟨(rotation_reaches_iff plainPlatform).1 (profiledRegistry true) profileRun
      ⟨trivial, trivial, trivial⟩ (fun _ => rfl) _ _ _,
    (rotation_reaches_iff plainPlatform).2 rotated (fun _ => rfl) _ _ _⟩

/-- After a cycle that reads the registry a payload is still decrypted under the
disabled profile. -/
theorem disabled_profile_still_decrypts :
    PolicyRefreshService.Completes plainPlatform rotated ∧
      rotated.database.profileByUserId "alice".toList (some (Guid.numbered 1)) = none ∧
      (applyAsync plainPlatform (gatewayServices plainPlatform plainCrypto)
        { posted wrappedBody with
          services := (PolicyRefreshService.refreshAllAsync plainPlatform rotated).2
        }).2.context.body = .replaced (plainPlatform.getBytes "secret".toList) ∧
      ¬ UsesCurrentProfile plainPlatform plainCrypto
        (PolicyRefreshService.refreshAllAsync plainPlatform rotated).2 "alice".toList
          (Guid.numbered 1) := by
  have absent : (PolicyRefreshService.refreshAllAsync plainPlatform rotated).2.database.profileByUserId
      "alice".toList (some (Guid.numbered 1)) = none := by
    decide
  refine ⟨PolicyRefreshService.completes_connected plainPlatform (fun _ => rfl), absent,
    by decide, fun uses => ?_⟩
  have used := uses.profile
  rw [absent] at used
  revert used
  decide

end ApiGateway.DecryptTransform
