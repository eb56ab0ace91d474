import ApiGateway.RefreshOrder
import ApiGateway.StagePolicies

/-!
# Permissions written back late

A request that misses a client's permission set reads it from the database and
writes it to both tiers, with other calls in between; a hit in the store is
copied to memory in the same way. A cycle reads the set of every enabled client
and writes it too.

A set that was read before a permission was revoked may be written after the
cycle's own write. As long as no call does that, the tiers are free of the
revoked permission once the cycle has completed, and a later request finds it
neither in the tiers nor in the database.
-/

namespace ApiGateway.Concurrent

open TwoTier Interleaving

/-- The endpoints of a cached permission set. -/
def grantedBy (value : CacheValue) : List Guid := value.asPermissions.getD []

/-- An action caches a client's permission for an endpoint. -/
def CachesGrant (clientId endpointId : Guid) : Action → Prop
  | .cacheMemory key value => key = PolicyCache.permissionKey clientId ∧ endpointId ∈ grantedBy value
  | .cacheStore key value _ => key = PolicyCache.permissionKey clientId ∧ endpointId ∈ grantedBy value
  | _ => False

instance (clientId endpointId : Guid) : DecidablePred (CachesGrant clientId endpointId)
  | .cacheMemory key value => inferInstanceAs (Decidable
      (key = PolicyCache.permissionKey clientId ∧ endpointId ∈ grantedBy value))
  | .cacheStore key value _ => inferInstanceAs (Decidable
      (key = PolicyCache.permissionKey clientId ∧ endpointId ∈ grantedBy value))
  | .readMemory _ | .readStore _ | .readSnapshot _ | .publish _ | .query _ => isFalse id

/-- A place holds a client's permission for an endpoint. -/
def HoldsGrant (clientId endpointId : Guid) (gateway : Gateway) : Place → Prop
  | .memory key => key = PolicyCache.permissionKey clientId ∧
      ∃ value, gateway.cache.inMemory key = some value ∧ endpointId ∈ grantedBy value
  | .store key => key = PolicyCache.permissionKey clientId ∧
      ∃ value, gateway.cache.inStore key = some value ∧ endpointId ∈ grantedBy value
  | .snapshot => False

/-- The permission stays revoked, the client enabled and the store available. -/
structure StaysRevoked (clientId endpointId : Guid) (gateway : Gateway) : Prop where
  revoked : endpointId ∉ gateway.database.authorizedEndpointIds gateway.now clientId
  enabled : ∃ client ∈ gateway.database.enabledClients, client.id = clientId
  available : ∀ key, gateway.cache.storeAnswers key = true

/-- A call has written a set without the permission to a place. -/
def Cleared (clientId endpointId : Guid) (index : Nat) (calls : Calls) (place : Place) : Prop :=
  ∃ entry ∈ calls.log, entry.1 = index ∧ entry.2.place = some place ∧
    ¬ CachesGrant clientId endpointId entry.2

instance (clientId endpointId : Guid) (index : Nat) (calls : Calls) :
    DecidablePred (Cleared clientId endpointId index calls) := fun place =>
  inferInstanceAs (Decidable (∃ entry ∈ calls.log, entry.1 = index ∧ entry.2.place = some place ∧
    ¬ CachesGrant clientId endpointId entry.2))

/-- The repository answers a query for the clients or for a client's permissions. -/
def AnswersClient (clientId : Guid) (gateway : Gateway) : Action → Prop
  | .query .enabledClients => gateway.repositoryFault .enabledClients = none
  | .query (.authorizedEndpointIds id) =>
      id = clientId → gateway.repositoryFault (.authorizedEndpointIds id) = none
  | _ => True

/-- The cycle's queries about the client are answered, and no call writes the
permission back to a tier that the cycle has written. -/
structure WritesNothingBack (clientId endpointId : Guid) (cycle : Nat) (calls : Calls)
    (move : Move Change Actor) : Prop where
  answered : ∀ act ∈ calls.acts move, act.1 = cycle → AnswersClient clientId calls.shared act.2
  withheld : ∀ act ∈ calls.acts move, CachesGrant clientId endpointId act.2 →
    ∀ place ∈ act.2.place, ¬ Cleared clientId endpointId cycle calls place

instance (clientId : Guid) (gateway : Gateway) : DecidablePred (AnswersClient clientId gateway)
  | .query .enabledClients =>
    inferInstanceAs (Decidable (gateway.repositoryFault .enabledClients = none))
  | .query (.authorizedEndpointIds id) => inferInstanceAs (Decidable
      (id = clientId → gateway.repositoryFault (.authorizedEndpointIds id) = none))
  | .query .services | .query .products | .query (.endpoints _) | .query (.client _)
  | .query (.userProfile _ _) => isTrue trivial
  | .readMemory _ | .readStore _ | .cacheMemory _ _ | .cacheStore _ _ _ | .readSnapshot _
  | .publish _ => isTrue trivial

instance (clientId endpointId : Guid) (cycle : Nat) (calls : Calls) :
    DecidablePred (WritesNothingBack clientId endpointId cycle calls) := fun move =>
  decidable_of_iff
    ((∀ act ∈ calls.acts move, act.1 = cycle → AnswersClient clientId calls.shared act.2) ∧
      ∀ act ∈ calls.acts move, CachesGrant clientId endpointId act.2 →
        ∀ place ∈ act.2.place, ¬ Cleared clientId endpointId cycle calls place)
    ⟨fun both => ⟨both.1, both.2⟩, fun writes => ⟨writes.answered, writes.withheld⟩⟩

/-- A request was admitted as a client to an endpoint. -/
def AdmittedAs (clientId endpointId : Guid) (ending : Except Fault Outcome) : Prop :=
  ∃ authorized client decrypting heading encrypting,
    ending = .ok (.served authorized (some client) decrypting heading encrypting) ∧
      client.id = clientId ∧ authorized.endpoint.id = endpointId

instance (clientId endpointId : Guid) : DecidablePred (AdmittedAs clientId endpointId)
  | .ok (.served authorized (some client) decrypting heading encrypting) =>
    decidable_of_iff (client.id = clientId ∧ authorized.endpoint.id = endpointId)
      ⟨fun both => ⟨authorized, client, decrypting, heading, encrypting, rfl, both⟩,
        fun ⟨_, _, _, _, _, same, both⟩ => by cases same; exact both⟩
  | .ok (.served _ none _ _ _) => isFalse (fun ⟨_, _, _, _, _, same, _⟩ => nomatch same)
  | .ok (.answered _ _) => isFalse (fun ⟨_, _, _, _, _, same, _⟩ => nomatch same)
  | .ok .refreshed => isFalse (fun ⟨_, _, _, _, _, same, _⟩ => nomatch same)
  | .error _ => isFalse (fun ⟨_, _, _, _, _, same, _⟩ => nomatch same)

/-- If the cycle has completed, no request that starts later is admitted on the
permission. -/
def RevocationHolds (platform : Platform) (clientId endpointId : Guid) (cycle : Nat) (calls : Calls)
    (later : List (Move Change Actor)) : Prop :=
  (calls.ending cycle).isSome → ∀ index, calls.threads.length ≤ index →
    ∀ ending, (after platform later calls).ending index = some ending →
      ¬ AdmittedAs clientId endpointId ending

section Tiers

variable {clientId endpointId : Guid} {gateway : Gateway} {calls : Calls} {cycle : Nat}

theorem holdsGrant_iff {place : Place} :
    HoldsGrant clientId endpointId gateway place ↔
      (place = .memory (PolicyCache.permissionKey clientId) ∨
        place = .store (PolicyCache.permissionKey clientId)) ∧
      ∃ value, heldAt gateway place = some value ∧ endpointId ∈ grantedBy value := by
  cases place with
  | memory key => simp [HoldsGrant, heldAt]
  | store key => simp [HoldsGrant, heldAt]
  | snapshot => simp [HoldsGrant]

/-- An action that writes a set with the endpoint to the client's place caches the
permission. -/
theorem cachesGrant_of {action : Action} {place : Place} {value : CacheValue}
    (tier : place = .memory (PolicyCache.permissionKey clientId) ∨
      place = .store (PolicyCache.permissionKey clientId))
    (placed : action.place = some place) (wrote : action.value = some value)
    (granted : endpointId ∈ grantedBy value) : CachesGrant clientId endpointId action := by
  cases action with
  | cacheMemory key written =>
    obtain rfl := Option.some.inj placed
    obtain rfl := Option.some.inj wrote
    exact ⟨by simpa using tier, granted⟩
  | cacheStore key written timeToLive =>
    obtain rfl := Option.some.inj placed
    obtain rfl := Option.some.inj wrote
    exact ⟨by simpa using tier, granted⟩
  | _ => cases wrote

/-- While the store answers, a place holds the permission after an action that
caches it there, or that leaves the place alone. -/
theorem holdsGrant_execute {action : Action} {place : Place}
    (available : ∀ key, gateway.cache.storeAnswers key = true)
    (holds : HoldsGrant clientId endpointId (execute action gateway).2 place) :
    (action.place = some place ∧ CachesGrant clientId endpointId action) ∨
      (action.place ≠ some place ∧ HoldsGrant clientId endpointId gateway place) := by
  obtain ⟨tier, value, live, granted⟩ := holdsGrant_iff.mp holds
  rcases heldAt_execute live with ⟨here, wrote⟩ | ⟨before, elsewhere | ⟨key, _, silent⟩⟩
  · exact Or.inl ⟨here, cachesGrant_of tier here wrote granted⟩
  · exact Or.inr ⟨elsewhere, holdsGrant_iff.mpr ⟨tier, value, before, granted⟩⟩
  · cases (available key).symm.trans silent

/-- What a place holds after a change of the surroundings it held before. -/
theorem holdsGrant_alter {change : Change} {place : Place}
    (holds : HoldsGrant clientId endpointId (alter change gateway) place) :
    HoldsGrant clientId endpointId gateway place := by
  obtain ⟨tier, value, live, granted⟩ := holdsGrant_iff.mp holds
  exact holdsGrant_iff.mpr ⟨tier, value, heldAt_alter live, granted⟩

/-- Places that the cycle has written are free of the permission. -/
def ClearedHold (clientId endpointId : Guid) (cycle : Nat) (calls : Calls) : Prop :=
  ∀ place, Cleared clientId endpointId cycle calls place →
    ¬ HoldsGrant clientId endpointId calls.shared place

/-- They stay free of it as long as nothing writes it back. -/
theorem clearedHold_move {platform : Platform} {move : Move Change Actor}
    (free : ClearedHold clientId endpointId cycle calls)
    (stays : StaysRevoked clientId endpointId calls.shared)
    (writes : WritesNothingBack clientId endpointId cycle calls move) :
    ClearedHold clientId endpointId cycle ((process platform).move move calls) := by
  cases move with
  | changes change => exact fun place cleared holds => free place cleared (holdsGrant_alter holds)
  | starts actor => exact free
  | advances index =>
    rcases move_advances (process platform) calls index with
      ⟨origin, action, next, asking, moved⟩ | idle
    · rw [moved]
      rintro place ⟨entry, logged, actor, placed, clean⟩ holds
      rcases holdsGrant_execute stays.available holds with
        ⟨here, grants⟩ | ⟨elsewhere, before⟩
      · rcases List.mem_append.mp logged with earlier | now
        · exact writes.withheld _ (acts_asking asking) grants place here
            ⟨entry, earlier, actor, placed, clean⟩
        · rw [List.mem_singleton.mp now] at clean
          exact clean grants
      · rcases List.mem_append.mp logged with earlier | now
        · exact free place ⟨entry, earlier, actor, placed, clean⟩ before
        · rw [List.mem_singleton.mp now] at placed
          exact elsewhere placed
    · rw [idle]
      exact free

end Tiers

section Cycle

variable {clientId endpointId : Guid} {calls : Calls} {cycle : Nat}

/-- What a cycle receives about a client without the permission. -/
def CycleAnswers (clientId endpointId : Guid) : (action : Action) → Answer action → Prop
  | .query .enabledClients, received => ∃ clients, received = .ok clients ∧
      ∃ client ∈ clients, client.id = clientId
  | .query (.authorizedEndpointIds id), received => id = clientId →
      ∃ endpointIds, received = .ok endpointIds ∧ endpointId ∉ endpointIds
  | _, _ => True

/-- A write to a place that puts no permission there. -/
def Clears (clientId endpointId : Guid) (place : Place) (action : Action) : Prop :=
  action.place = some place ∧ ¬ CachesGrant clientId endpointId action

/-- The cycle writes the client's set to both tiers before it ends. -/
theorem refreshAllAsync_passes (platform : Platform) {place : Place}
    (tier : place = .memory (PolicyCache.permissionKey clientId) ∨
      place = .store (PolicyCache.permissionKey clientId)) :
    (refreshAllAsync platform).Passes (CycleAnswers clientId endpointId)
      (Clears clientId endpointId place) := by
  have written : ∀ endpointIds : List Guid, endpointId ∉ endpointIds →
      (write (PolicyCache.permissionKey clientId) (.permissions endpointIds) oneHour).Passes
        (CycleAnswers clientId endpointId) (Clears clientId endpointId place) := by
    intro endpointIds clean
    rcases tier with rfl | rfl
    · exact Or.inl ⟨rfl, fun grants => clean grants.2⟩
    · exact Or.inr fun _ _ => Or.inl ⟨rfl, fun grants => clean grants.2⟩
  have client : ∀ client : Client, client.id = clientId →
      (refreshClient client).Passes (CycleAnswers clientId endpointId)
        (Clears clientId endpointId place) := by
    rintro client rfl
    refine Program.passes_handle (Program.passes_bind_second ?_)
    intro received answered
    obtain ⟨endpointIds, rfl, clean⟩ := answered rfl
    exact ⟨endpointIds, rfl, Program.passes_bind_first (written endpointIds clean)⟩
  have guarded : ∀ client : Client, (refreshClient client).Ends (CycleAnswers clientId endpointId)
      (fun ending => ∃ value, ending = .ok value) := by
    intro client
    refine Program.ends_caught (fun _ => ?_) _
    exact ⟨(), rfl⟩
  have policies : (refreshPoliciesAsync platform).Ends (CycleAnswers clientId endpointId)
      (fun ending => ∃ value, ending = .ok value) := by
    refine Program.ends_caught (fun _ => ?_) _
    exact ⟨(), rfl⟩
  refine Program.passes_handle (Program.passes_bind_second (Program.ends_mono ?_ policies))
  rintro ending ⟨value, rfl⟩
  refine ⟨value, rfl, Program.passes_bind_second ?_⟩
  rintro received ⟨clients, rfl, listed, member, same⟩
  exact ⟨some clients, rfl, Program.passes_foldlM member (fun _ => client listed same)
    (fun _ other => guarded other) ()⟩

/-- While the permission stays revoked and its queries are answered, the cycle
receives the client without it. -/
theorem receives_cycle (platform : Platform) {move : Move Change Actor}
    (stays : StaysRevoked clientId endpointId calls.shared)
    (writes : WritesNothingBack clientId endpointId cycle calls move) :
    Receives (CycleAnswers clientId endpointId) (process platform) cycle calls move := by
  cases move with
  | advances index =>
    rintro origin action next rfl asking
    have reachable := writes.answered _ (acts_asking asking) rfl
    cases action with
    | query call =>
      cases call with
      | enabledClients =>
        refine ⟨calls.shared.database.enabledClients, ?_, stays.enabled⟩
        have fine : calls.shared.repositoryFault .enabledClients = none := reachable
        show answerQuery .enabledClients calls.shared = _
        simp [answerQuery, fine, rowsOf]
      | authorizedEndpointIds id =>
        rintro rfl
        refine ⟨_, ?_, stays.revoked⟩
        have fine := reachable rfl
        show answerQuery (.authorizedEndpointIds id) calls.shared = _
        simp [answerQuery, fine, rowsOf]
      | _ => trivial
    | _ => trivial
  | _ => trivial

end Cycle

section Requests

variable {clientId endpointId : Guid} {calls : Calls} {cycle : Nat}

/-- What a request receives while neither the tiers nor the database grant the
permission. -/
def WithoutGrant (clientId endpointId : Guid) : (action : Action) → Answer action → Prop
  | .readMemory key, received => key = PolicyCache.permissionKey clientId →
      ∀ value, received = some value → endpointId ∉ grantedBy value
  | .readStore key, received => key = PolicyCache.permissionKey clientId →
      ∀ value, received = some value → endpointId ∉ grantedBy value
  | .query (.authorizedEndpointIds id), received => id = clientId →
      ∀ endpointIds, received = .ok endpointIds → endpointId ∉ endpointIds
  | _, _ => True

/-- The permissions found for the client do not include the endpoint. -/
theorem lookupPermissions_without :
    (lookupPermissions clientId).Ends (WithoutGrant clientId endpointId)
      (fun ending => ∀ permissions, ending = .ok permissions → endpointId ∉ permissions) := by
  have cached : (read CacheValue.asPermissions (PolicyCache.permissionKey clientId)).Ends
      (WithoutGrant clientId endpointId) (fun ending => ∃ found, ending = .ok found ∧
        ∀ result, found = some result → ∃ value, endpointId ∉ grantedBy value ∧
          CacheValue.asPermissions value = some result) :=
    read_ends (fun value answered => answered rfl value rfl)
      (fun value answered => answered rfl value rfl)
  refine Program.ends_bind (Program.ends_mono ?_ cached)
  rintro ending ⟨found, rfl, clean⟩
  cases found with
  | some permissions =>
    rintro _ same
    obtain rfl := Except.ok.inj same
    obtain ⟨value, without, viewed⟩ := clean permissions rfl
    rwa [grantedBy, viewed] at without
  | none =>
    intro received answered
    cases received with
    | error fault => exact fun _ failed => nomatch failed
    | ok endpointIds =>
      have without := answered rfl endpointIds rfl
      exact fun _ _ _ _ permissions same => Except.ok.inj same ▸ without

/-- A decision that does not admit the client to the endpoint. -/
def Denies (clientId endpointId : Guid) (ending : Except Fault Decision) : Prop :=
  ∀ policy presented client, ending = .ok (.admitted policy presented (some client)) →
    client.id = clientId → policy.endpoint.id ≠ endpointId

theorem verifyClient_denies (policy : EndpointPolicy) (presented : Text) :
    (verifyClient policy presented).Ends (WithoutGrant clientId endpointId)
      (Denies clientId endpointId) := by
  have failed : ∀ fault, Denies clientId endpointId (.error fault) :=
    fun _ _ _ _ same => nomatch same
  refine Program.ends_after failed (fun found => ?_)
  cases found with
  | none => exact fun _ _ _ answered => nomatch answered
  | some client =>
    have looked : (lookupPermissions client.id).Ends (WithoutGrant clientId endpointId)
        (fun ending => ∀ permissions, ending = .ok permissions → client.id = clientId →
          endpointId ∉ permissions) := by
      by_cases revoked : client.id = clientId
      · rw [revoked]
        exact Program.ends_mono (fun _ without permissions same _ => without permissions same)
          lookupPermissions_without
      · exact Program.ends_mono (fun _ _ _ _ same => absurd same revoked) (Program.ends_trivial _)
    refine Program.ends_bind (Program.ends_mono ?_ looked)
    intro ending without
    cases ending with
    | error fault => exact failed fault
    | ok permissions =>
      dsimp only
      split
      · next granted =>
        rintro _ _ _ admitted revoked same
        cases admitted
        exact without permissions rfl revoked (same ▸ granted)
      · exact fun _ _ _ answered => nomatch answered

/-- The checks do not admit the client to the endpoint. -/
theorem authorize_denies (platform : Platform) (context : HttpContext) :
    (authorize platform context).Ends (WithoutGrant clientId endpointId)
      (Denies clientId endpointId) := by
  refine Program.ends_after (fun _ _ _ _ same => nomatch same) (fun resolved => ?_)
  cases resolved with
  | none => exact fun _ _ _ answered => nomatch answered
  | some policy =>
    dsimp only
    unfold verifyCaller
    split
    · exact fun _ _ _ answered => nomatch answered
    · dsimp only
      split
      · exact fun _ _ _ answered => nomatch answered
      · cases (context.user.clientId platform.caseMap).filter (fun value => !value.isEmpty) with
        | none => exact fun _ _ _ anonymous => nomatch anonymous
        | some presented => exact verifyClient_denies policy presented

/-- What follows the checks is served under the policy and as the client of the
checks, or fails. -/
theorem forward_served {answers : (action : Action) → Answer action → Prop} (platform : Platform)
    (context : HttpContext) (proxyResponse : Option ProxyResponse) (policy : EndpointPolicy)
    (client : Option Client) :
    (forward platform context proxyResponse policy client).Ends answers (fun ending =>
      ∀ outcome, ending = .ok outcome →
        ∃ decrypting heading encrypting, outcome = .served policy client decrypting heading encrypting) := by
  have failed : ∀ fault : Fault, ∀ outcome, (.error fault : Except Fault Outcome) = .ok outcome →
      ∃ decrypting heading encrypting, outcome = .served policy client decrypting heading encrypting :=
    fun _ _ same => nomatch same
  refine Program.ends_after failed (fun decrypting => Program.ends_after failed (fun heading =>
    Program.ends_after failed (fun encrypting => ?_)))
  exact fun _ same => ⟨decrypting, heading, encrypting, (Except.ok.inj same).symm⟩

/-- No call that receives no grant of the permission is admitted on it. -/
theorem launch_without (platform : Platform) (actor : Actor) :
    (launch platform actor).Ends (WithoutGrant clientId endpointId)
      (fun ending => ¬ AdmittedAs clientId endpointId ending) := by
  have refreshing : ∀ routine : Routine Unit, (routine >>= fun _ => pure Outcome.refreshed).Ends
      (WithoutGrant clientId endpointId) (fun ending => ¬ AdmittedAs clientId endpointId ending) := by
    intro routine
    refine Program.ends_after (fun fault => ?_) (fun _ => ?_)
    · rintro ⟨_, _, _, _, _, same, _⟩
      cases same
    · rintro ⟨_, _, _, _, _, same, _⟩
      cases same
  cases actor with
  | refreshesPolicies => exact refreshing (refreshPoliciesAsync platform)
  | cycles => exact refreshing (refreshAllAsync platform)
  | requests context proxyResponse =>
    have answered : ∀ status text, ¬ AdmittedAs clientId endpointId (.ok (.answered status text)) := by
      rintro status text ⟨_, _, _, _, _, same, _⟩
      cases same
    refine Program.ends_handle (Program.ends_bind (Program.ends_mono ?_
      (authorize_denies platform context)))
    intro decision denies
    cases decision with
    | error fault => exact answered _ _
    | ok decision =>
      cases decision with
      | answered status text => exact answered status text
      | admitted policy presented client =>
        refine Program.ends_mono ?_ (forward_served platform context proxyResponse policy client)
        intro ending served
        cases ending with
        | error fault => exact answered _ _
        | ok outcome =>
          obtain ⟨decrypting, heading, encrypting, rfl⟩ := served outcome rfl
          rintro ⟨_, admitted, _, _, _, same, named, covered⟩
          cases same
          exact denies policy presented admitted rfl named covered

/-- While the permission is neither held nor granted no call receives it. -/
theorem receiveAll_without (platform : Platform) {calls : Calls} {move : Move Change Actor}
    (memory : ¬ HoldsGrant clientId endpointId calls.shared
      (.memory (PolicyCache.permissionKey clientId)))
    (store : ¬ HoldsGrant clientId endpointId calls.shared
      (.store (PolicyCache.permissionKey clientId)))
    (stays : StaysRevoked clientId endpointId calls.shared) :
    ReceiveAll (WithoutGrant clientId endpointId) (process platform) calls move := by
  intro index
  cases move with
  | advances advancing =>
    intro origin action next _ _
    cases action with
    | readMemory key =>
      rintro rfl value live granted
      exact memory ⟨rfl, value, live, granted⟩
    | readStore key =>
      rintro rfl value found granted
      exact store ⟨rfl, value, Cache.fromStore_some found, granted⟩
    | query call =>
      cases call with
      | authorizedEndpointIds id =>
        rintro rfl endpointIds answered
        have read : answerQuery (.authorizedEndpointIds id) calls.shared = .ok endpointIds := answered
        unfold answerQuery at read
        split at read
        · cases read
        · exact Except.ok.inj read ▸ stays.revoked
      | _ => trivial
    | _ => trivial
  | _ => trivial

end Requests

/-- The cycle has written both tiers, and they are free of the permission. -/
structure BothFree (clientId endpointId : Guid) (cycle : Nat) (calls : Calls) : Prop where
  hold : ClearedHold clientId endpointId cycle calls
  memory : Cleared clientId endpointId cycle calls (.memory (PolicyCache.permissionKey clientId))
  store : Cleared clientId endpointId cycle calls (.store (PolicyCache.permissionKey clientId))

section Afterwards

variable {platform : Platform} {clientId endpointId : Guid} {calls : Calls} {cycle : Nat}

theorem staysRevoked_execute {gateway : Gateway} (stays : StaysRevoked clientId endpointId gateway)
    (action : Action) : StaysRevoked clientId endpointId (execute action gateway).2 := by
  cases action with
  | cacheStore key value timeToLive =>
    refine ⟨?_, stays.enabled, fun tested => ?_⟩
    · have clock : (gateway.cache.insertStore timeToLive key value).now = gateway.cache.now :=
        Cache.insertStore_now ..
      show endpointId ∉ gateway.database.authorizedEndpointIds
        (gateway.cache.insertStore timeToLive key value).now clientId
      rw [clock]
      exact stays.revoked
    · exact (congrFun (Cache.insertStore_answers timeToLive value) tested).trans
        (stays.available tested)
  | _ => exact ⟨stays.revoked, stays.enabled, stays.available⟩

/-- A place once cleared stays so. -/
theorem cleared_move {place : Place} (move : Move Change Actor)
    (cleared : Cleared clientId endpointId cycle calls place) :
    Cleared clientId endpointId cycle ((process platform).move move calls) place := by
  obtain ⟨entry, logged, wrote⟩ := cleared
  exact ⟨entry, (log_grows (process platform) [move] calls).subset logged, wrote⟩

theorem bothFree_move {move : Move Change Actor} (free : BothFree clientId endpointId cycle calls)
    (stays : StaysRevoked clientId endpointId calls.shared)
    (writes : WritesNothingBack clientId endpointId cycle calls move) :
    BothFree clientId endpointId cycle ((process platform).move move calls) :=
  ⟨clearedHold_move free.hold stays writes, cleared_move move free.memory,
    cleared_move move free.store⟩

/-- While only calls advance, the permission stays revoked. -/
theorem staysRevoked_internal (stays : StaysRevoked clientId endpointId calls.shared)
    {moves : List (Move Change Actor)} (internal : ∀ move ∈ moves, move.internal = true) :
    Runs.Along (process platform).move
      (fun calls _ => StaysRevoked clientId endpointId calls.shared) moves calls := by
  induction moves generalizing calls with
  | nil => trivial
  | cons move moves ih =>
    refine ⟨stays, ih ?_ (fun later member => internal later (List.mem_cons_of_mem move member))⟩
    cases move with
    | changes change => cases internal _ List.mem_cons_self
    | starts actor => exact stays
    | advances index =>
      rcases move_advances (process platform) calls index with
        ⟨origin, action, next, _, moved⟩ | idle
      · rw [moved]
        exact staysRevoked_execute stays action
      · rw [idle]
        exact stays

end Afterwards

/-- As long as the permission stays revoked and is not written back to a tier that
the cycle has written, no request that starts after the cycle is admitted on it. -/
theorem revocation_holds (platform : Platform) (gateway : Gateway) (clientId endpointId : Guid)
    (earlier during later : List (Move Change Actor))
    (stays : Runs.Along (process platform).move
      (fun calls _ => StaysRevoked clientId endpointId calls.shared) (during ++ later)
      (starting platform .cycles (reached platform gateway earlier)))
    (writes : Runs.Along (process platform).move
      (WritesNothingBack clientId endpointId (reached platform gateway earlier).threads.length)
      (during ++ later) (starting platform .cycles (reached platform gateway earlier))) :
    RevocationHolds platform clientId endpointId (reached platform gateway earlier).threads.length
      (after platform during (starting platform .cycles (reached platform gateway earlier))) later := by
  obtain ⟨meanwhile, afterwards⟩ := Runs.along_append.mp (Runs.along_and stays writes)
  have unwritten : ClearedHold clientId endpointId (reached platform gateway earlier).threads.length
      (starting platform .cycles (reached platform gateway earlier)) := by
    rintro place ⟨⟨actor, action⟩, logged, rfl, _⟩
    have started := log_started (fun _ member => by cases member) logged
    exact absurd started (Nat.lt_irrefl _)
  have hold : ClearedHold clientId endpointId (reached platform gateway earlier).threads.length
      (after platform during (starting platform .cycles (reached platform gateway earlier))) := by
    refine Runs.invariant_run ?_ meanwhile unwritten
    exact fun _ _ free condition => clearedHold_move free condition.1 condition.2
  intro finished index started ending ended
  obtain ⟨cycled, completed⟩ := Option.isSome_iff_exists.mp finished
  have written : ∀ place, place = .memory (PolicyCache.permissionKey clientId) ∨
      place = .store (PolicyCache.permissionKey clientId) →
        Cleared clientId endpointId (reached platform gateway earlier).threads.length
          (after platform during (starting platform .cycles (reached platform gateway earlier)))
            place := by
    intro place tier
    have passes : (launch platform .cycles).Passes (CycleAnswers clientId endpointId)
        (Clears clientId endpointId place) :=
      Program.passes_bind_first (refreshAllAsync_passes platform tier)
    have receives := Runs.along_mono (fun _ _ condition =>
      receives_cycle platform condition.1 condition.2) meanwhile
    obtain ⟨action, logged, clears⟩ :=
      passes_run List.getElem?_concat_length passes receives completed
    exact ⟨_, logged, rfl, clears⟩
  have both : BothFree clientId endpointId (reached platform gateway earlier).threads.length
      (after platform during (starting platform .cycles (reached platform gateway earlier))) :=
    ⟨hold, written _ (Or.inl rfl), written _ (Or.inr rfl)⟩
  have receives : Runs.Along (process platform).move
      (ReceiveAll (WithoutGrant clientId endpointId) (process platform)) later
      (after platform during (starting platform .cycles (reached platform gateway earlier))) := by
    refine Runs.along_invariant ?_ ?_ afterwards both
    · exact fun _ _ free condition => bothFree_move free condition.1 condition.2
    · exact fun _ _ free condition => receiveAll_without platform (free.hold _ free.memory)
        (free.hold _ free.store) condition.1
  exact started_run (fun actor _ => launch_without platform actor) receives started ended

/-- The registry with the client's permission removed. -/
def revokedRegistry : Database :=
  { PolicyRefreshService.grantedRegistry true with
    clientPermissions := []
    clientPermissions_id := List.nodup_nil
    clientPermissions_pair := List.nodup_nil }

/-- A cycle has cached the permission, which is then removed. -/
def cachedThenRevoked : List (Move Change Actor) :=
  .starts .cycles :: List.replicate 12 (.advances 0) ++ [.changes (.database revokedRegistry)]

/-- The client's request, from its start to its end. -/
def wholeRequest (index count : Nat) : List (Move Change Actor) :=
  .starts (.requests PolicyRefreshService.grantedRequest none) :: List.replicate count (.advances index)

theorem revocation_holds_cached :
    RevocationHolds plainPlatform (Guid.numbered 3) (Guid.numbered 2) 1
      (after plainPlatform (List.replicate 12 (.advances 1))
        (starting plainPlatform .cycles (reached plainPlatform
          (Gateway.started (PolicyRefreshService.grantedRegistry true)) cachedThenRevoked)))
      (wholeRequest 2 3) := by
  have one : (reached plainPlatform (Gateway.started (PolicyRefreshService.grantedRegistry true))
      cachedThenRevoked).threads.length = 1 := by
    decide
  have holds := revocation_holds plainPlatform
    (Gateway.started (PolicyRefreshService.grantedRegistry true)) (Guid.numbered 3) (Guid.numbered 2)
    cachedThenRevoked (List.replicate 12 (.advances 1)) (wholeRequest 2 3)
    (staysRevoked_internal ⟨by decide, by decide, fun _ => rfl⟩ (by decide))
    (by decide)
  rwa [one] at holds

/-- The policies are loaded; the client's request has read the permission when it
is removed. -/
def readThenRevoked : List (Move Change Actor) :=
  .starts .refreshesPolicies :: List.replicate 6 (.advances 0) ++
    (wholeRequest 1 9 ++ [.changes (.database revokedRegistry)])

/-- The first request goes on to write what it read; then the client's second
request runs. -/
def writtenBack : List (Move Change Actor) := List.replicate 2 (.advances 1) ++ wholeRequest 3 6

/-- The second request is admitted although the cycle has completed. -/
theorem stale_fill_admits :
    Runs.Along (process plainPlatform).move
        (fun calls _ => StaysRevoked (Guid.numbered 3) (Guid.numbered 2) calls.shared)
        (List.replicate 12 (.advances 2) ++ writtenBack)
        (starting plainPlatform .cycles (reached plainPlatform
          (Gateway.started (PolicyRefreshService.grantedRegistry true)) readThenRevoked)) ∧
      ¬ RevocationHolds plainPlatform (Guid.numbered 3) (Guid.numbered 2) 2
        (after plainPlatform (List.replicate 12 (.advances 2))
          (starting plainPlatform .cycles (reached plainPlatform
            (Gateway.started (PolicyRefreshService.grantedRegistry true)) readThenRevoked)))
        writtenBack := by
  refine ⟨staysRevoked_internal ⟨by decide, by decide, fun _ => rfl⟩
    (by decide), fun holds => ?_⟩
  have admitted : ∃ ending ∈ (after plainPlatform writtenBack
      (after plainPlatform (List.replicate 12 (.advances 2))
        (starting plainPlatform .cycles (reached plainPlatform
          (Gateway.started (PolicyRefreshService.grantedRegistry true)) readThenRevoked)))).ending 3,
      AdmittedAs (Guid.numbered 3) (Guid.numbered 2) ending := by
    decide
  obtain ⟨ending, ended, grants⟩ := admitted
  exact holds (by decide) 3 (by decide) ending ended grants

end ApiGateway.Concurrent
