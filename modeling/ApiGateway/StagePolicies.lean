import ApiGateway.Revocation
import ApiGateway.SnapshotReads

/-!
# The policies of a request's stages

The middleware admits a request under a policy. The decryption, the headers and
the encryption of the response each resolve the policy again, so they use what
the tiers and the snapshot have at that time.

From the admission to the response the stages use its policy as long as the tiers
hold nothing else for the request and the snapshot has it. Expiry and changes of the
database leave that alone; a refresh that writes or publishes another policy for
the request meanwhile does not.
-/

namespace ApiGateway.Concurrent

open TwoTier Interleaving

/-- The cache key of a request's policy. -/
def policyKeyOf (platform : Platform) (context : HttpContext) : Text :=
  PolicyCache.policyKey (PolicyResolver.requestKey platform context.path context.method)

/-- The tiers hold nothing but one policy for a request, and the snapshot has it. -/
structure Serves (platform : Platform) (context : HttpContext) (policy : EndpointPolicy)
    (gateway : Gateway) : Prop where
  held : ∀ value, gateway.cache.Held (policyKeyOf platform context) value → value = .policy policy
  published : gateway.policySnapshot.tryGetValue
    (PolicyResolver.requestKey platform context.path context.method) = some policy

/-- An action writes and publishes no other policy for a request. -/
def KeepsPolicy (platform : Platform) (context : HttpContext) (policy : EndpointPolicy) :
    Action → Prop
  | .cacheMemory key value => key = policyKeyOf platform context → value = .policy policy
  | .cacheStore key value _ => key = policyKeyOf platform context → value = .policy policy
  | .publish snapshot => snapshot.tryGetValue
      (PolicyResolver.requestKey platform context.path context.method) = some policy
  | _ => True

/-- A move writes and publishes no other policy for a request. -/
def LeavesPolicy (platform : Platform) (context : HttpContext) (policy : EndpointPolicy)
    (calls : Calls) (move : Move Change Actor) : Prop :=
  ∀ act ∈ calls.acts move, KeepsPolicy platform context policy act.2

instance (platform : Platform) (context : HttpContext) (policy : EndpointPolicy) :
    DecidablePred (KeepsPolicy platform context policy)
  | .cacheMemory key value =>
    inferInstanceAs (Decidable (key = policyKeyOf platform context → value = .policy policy))
  | .cacheStore key value _ =>
    inferInstanceAs (Decidable (key = policyKeyOf platform context → value = .policy policy))
  | .publish snapshot => inferInstanceAs (Decidable (snapshot.tryGetValue
      (PolicyResolver.requestKey platform context.path context.method) = some policy))
  | .readMemory _ | .readStore _ | .readSnapshot _ | .query _ => isTrue trivial

instance (platform : Platform) (context : HttpContext) (policy : EndpointPolicy) (calls : Calls) :
    DecidablePred (LeavesPolicy platform context policy calls) := fun move =>
  inferInstanceAs (Decidable (∀ act ∈ calls.acts move, KeepsPolicy platform context policy act.2))

/-- What is left of a request once its checks have decided. -/
def decided (platform : Platform) (context : HttpContext) (proxyResponse : Option ProxyResponse)
    (checks : Routine Decision) : Routine Outcome :=
  Program.handle
    (do
      match ← checks with
      | .answered status text => pure (.answered status text)
      | .admitted policy _ client => forward platform context proxyResponse policy client)
    (fun _ => pure (.answered 500 "Internal server error".toList))

/-- A request has just been admitted under a policy. -/
def AdmittedUnder (platform : Platform) (context : HttpContext) (proxyResponse : Option ProxyResponse)
    (index : Nat) (policy : EndpointPolicy) (calls : Calls) : Prop :=
  ∃ origin clientId client, calls.threads[index]? = some ⟨origin,
    decided platform context proxyResponse (.done (.ok (.admitted policy clientId client)))⟩

/-- If a request is admitted at all, then there is a moment before its next stage at
which its policy is in force for it and from which no move replaces the policy until
the request has ended. -/
def LeavesAuthorized (platform : Platform) (context : HttpContext)
    (proxyResponse : Option ProxyResponse) (index : Nat) (calls : Calls)
    (moves : List (Move Change Actor)) : Prop :=
  (∃ during rest policy, moves = during ++ rest ∧
    AdmittedUnder platform context proxyResponse index policy (after platform during calls)) →
  ∃ during rest policy, moves = during ++ rest ∧
    AdmittedUnder platform context proxyResponse index policy (after platform during calls) ∧
    Serves platform context policy (after platform during calls).shared ∧
    Runs.Along (process platform).move
      (fun calls move => calls.ending index = none → LeavesPolicy platform context policy calls move)
      rest (after platform during calls)

/-- The stages of a request that has been served used the policy under which it
was authorised. -/
def UsesOnePolicy (index : Nat) (calls : Calls) : Prop :=
  ∀ authorized client decrypting heading encrypting,
    calls.ending index = some (.ok (.served authorized client decrypting heading encrypting)) →
      decrypting = some authorized ∧ heading = some authorized ∧ encrypting = some authorized

/-- What a request receives while one policy is in force for it. -/
def ServedBy (platform : Platform) (context : HttpContext) (policy : EndpointPolicy) :
    (action : Action) → Answer action → Prop
  | .readMemory key, received => key = policyKeyOf platform context →
      ∀ value, received = some value → value = .policy policy
  | .readStore key, received => key = policyKeyOf platform context →
      ∀ value, received = some value → value = .policy policy
  | .readSnapshot routeKey, received =>
      routeKey = PolicyResolver.requestKey platform context.path context.method →
        received = some policy
  | _, _ => True

section Stages

variable {platform : Platform} {context : HttpContext} {policy : EndpointPolicy}
  {proxyResponse : Option ProxyResponse}

/-- A read ends with a view of what one of the tiers answers, or with nothing. -/
theorem read_ends {α : Type} {answers : (action : Action) → Answer action → Prop}
    {kept : CacheValue → Prop} {view : CacheValue → Option α} {key : Text}
    (memory : ∀ value, answers (.readMemory key) (some value) → kept value)
    (store : ∀ value, answers (.readStore key) (some value) → kept value) :
    (read view key).Ends answers (fun ending => ∃ found, ending = .ok found ∧
      ∀ result, found = some result → ∃ value, kept value ∧ view value = some result) := by
  refine Program.ends_ask fun remembered answered => ?_
  cases viewed : Option.bind remembered view with
  | some found =>
    obtain ⟨value, rfl, same⟩ := Option.bind_eq_some_iff.mp viewed
    exact ⟨_, rfl, fun result equal => Option.some.inj equal ▸ ⟨value, memory value answered, same⟩⟩
  | none =>
    refine Program.ends_ask fun stored replied => ?_
    cases stored with
    | none => exact ⟨none, rfl, fun _ absent => by cases absent⟩
    | some value =>
      dsimp only
      cases same : view value with
      | none => exact ⟨none, rfl, fun _ absent => by cases absent⟩
      | some found =>
        exact fun _ _ => ⟨_, rfl, fun result equal =>
          Option.some.inj equal ▸ ⟨value, store value replied, same⟩⟩

/-- While one policy is in force a lookup ends with it. -/
theorem resolvePolicyAsync_served :
    (resolvePolicyAsync platform context.path context.method).Ends
      (ServedBy platform context policy) (fun ending => ending = .ok (some policy)) := by
  have cached : (read CacheValue.asPolicy (policyKeyOf platform context)).Ends
      (ServedBy platform context policy) (fun ending => ∃ found, ending = .ok found ∧
        ∀ result, found = some result → ∃ value, value = .policy policy ∧
          CacheValue.asPolicy value = some result) :=
    read_ends (fun value answered => answered rfl value rfl)
      (fun value answered => answered rfl value rfl)
  refine Program.ends_bind (Program.ends_mono ?_ cached)
  rintro ending ⟨found, rfl, only⟩
  cases found with
  | some result =>
    obtain ⟨value, rfl, viewed⟩ := only result rfl
    exact congrArg Except.ok viewed.symm
  | none =>
    intro published answered
    obtain rfl := answered rfl
    exact fun _ _ _ _ => rfl

theorem decrypt_served :
    (decrypt platform context).Ends (ServedBy platform context policy)
      (fun ending => ending = .ok (some policy)) := by
  refine Program.ends_bind (Program.ends_mono ?_ resolvePolicyAsync_served)
  rintro ending rfl
  dsimp only
  cases decryptedFor platform context policy with
  | none => exact rfl
  | some clientId =>
    refine Program.ends_handle (Program.ends_bind (Program.ends_mono ?_ (Program.ends_trivial _)))
    intro looked _
    cases looked with
    | ok profile => exact rfl
    | error fault => exact rfl

theorem encrypt_served :
    (encrypt platform context proxyResponse).Ends (ServedBy platform context policy)
      (fun ending => ending = .ok (some policy)) := by
  refine Program.ends_bind (Program.ends_mono ?_ resolvePolicyAsync_served)
  rintro ending rfl
  dsimp only
  cases encryptedFor platform context proxyResponse policy with
  | none => exact rfl
  | some clientId =>
    have looked : (read CacheValue.asUserProfile
        (PolicyCache.userProfileKey clientId (some policy.service.id))).Ends
          (ServedBy platform context policy) (fun ending => ∃ found, ending = .ok found ∧
            ∀ result, found = some result → ∃ value, True ∧
              CacheValue.asUserProfile value = some result) :=
      read_ends (fun _ _ => trivial) (fun _ _ => trivial)
    refine Program.ends_bind (Program.ends_mono ?_ looked)
    rintro ending ⟨profile, rfl, _⟩
    exact rfl

/-- While its policy is in force an admitted request is served under it throughout. -/
theorem decided_served (clientId : Option Text) (client : Option Client) :
    (decided platform context proxyResponse (.done (.ok (.admitted policy clientId client)))).Ends
      (ServedBy platform context policy) (fun ending =>
        ending = .ok (.served policy client (some policy) (some policy) (some policy))) := by
  refine Program.ends_handle (Program.ends_mono (fun ending same => ?_)
    (?_ : (forward platform context proxyResponse policy client).Ends
      (ServedBy platform context policy) (fun ending =>
        ending = .ok (.served policy client (some policy) (some policy) (some policy)))))
  · rw [same]
  · refine Program.ends_bind (Program.ends_mono ?_ decrypt_served)
    rintro ending rfl
    refine Program.ends_bind (Program.ends_mono ?_ resolvePolicyAsync_served)
    rintro ending rfl
    refine Program.ends_bind (Program.ends_mono ?_ encrypt_served)
    rintro ending rfl
    exact rfl

/-- A request that the checks do not admit is answered. -/
theorem decided_refused {answers : (action : Action) → Answer action → Prop}
    {decision : Except Fault Decision}
    (refused : ∀ policy clientId client, decision ≠ .ok (.admitted policy clientId client)) :
    (decided platform context proxyResponse (.done decision)).Ends answers (fun ending =>
      ∃ status text, ending = .ok (.answered status text)) := by
  cases decision with
  | error fault => exact ⟨500, _, rfl⟩
  | ok decision =>
    cases decision with
    | answered status text => exact ⟨status, text, rfl⟩
    | admitted policy clientId client => exact absurd rfl (refused policy clientId client)

end Stages

section Moves

variable {platform : Platform} {context : HttpContext} {policy : EndpointPolicy}
  {proxyResponse : Option ProxyResponse} {gateway : Gateway} {calls : Calls}

/-- An action that keeps the policy leaves it in force. -/
theorem serves_execute {action : Action} (serves : Serves platform context policy gateway)
    (keeps : KeepsPolicy platform context policy action) :
    Serves platform context policy (execute action gateway).2 := by
  cases action with
  | cacheMemory key value =>
    refine ⟨?_, serves.published⟩
    have sound : (gateway.cache.insertMemory oneHour key value).Sound (fun tested value =>
        tested = policyKeyOf platform context → value = .policy policy) :=
      Cache.sound_insertMemory oneHour
        (fun tested value held same => serves.held value (same ▸ held)) keeps
    exact fun held live => sound _ held live rfl
  | cacheStore key value timeToLive =>
    refine ⟨?_, serves.published⟩
    have sound : (gateway.cache.insertStore timeToLive key value).Sound (fun tested value =>
        tested = policyKeyOf platform context → value = .policy policy) :=
      Cache.sound_insertStore timeToLive
        (fun tested value held same => serves.held value (same ▸ held)) keeps
    exact fun held live => sound _ held live rfl
  | publish snapshot => exact ⟨serves.held, keeps⟩
  | _ => exact serves

/-- A move that leaves the policy alone leaves it in force. -/
theorem serves_move {move : Move Change Actor} (serves : Serves platform context policy calls.shared)
    (leaves : LeavesPolicy platform context policy calls move) :
    Serves platform context policy ((process platform).move move calls).shared := by
  cases move with
  | changes change =>
    cases change with
    | tiers decay =>
      exact ⟨fun value held => serves.held value (Cache.held_decay held), serves.published⟩
    | _ => exact ⟨serves.held, serves.published⟩
  | starts actor => exact serves
  | advances index =>
    rcases move_advances (process platform) calls index with
      ⟨origin, action, next, asking, moved⟩ | idle
    · rw [moved]
      exact serves_execute serves (leaves _ (acts_asking asking))
    · rw [idle]
      exact serves

/-- While a policy is in force every call receives it. -/
theorem receives_served (serves : Serves platform context policy calls.shared) (index : Nat)
    (move : Move Change Actor) :
    Receives (ServedBy platform context policy) (process platform) index calls move := by
  cases move with
  | advances advancing =>
    intro origin action next _ _
    cases action with
    | readMemory key =>
      rintro rfl value found
      exact serves.held value (Or.inl found)
    | readStore key =>
      rintro rfl value found
      exact serves.held value (Or.inr (Cache.fromStore_some found))
    | readSnapshot routeKey =>
      rintro rfl
      exact serves.published
    | _ => trivial
  | _ => trivial

/-- As long as moves leave the policy alone, until it has ended, a call receives it. -/
theorem receives_along {moves : List (Move Change Actor)} {index : Nat}
    (serves : Serves platform context policy calls.shared)
    (leaves : Runs.Along (process platform).move (fun calls move =>
      calls.ending index = none → LeavesPolicy platform context policy calls move) moves calls) :
    Runs.Along (process platform).move
      (Receives (ServedBy platform context policy) (process platform) index) moves calls := by
  have kept : ∀ (calls : Calls) (move : Move Change Actor),
      (calls.ending index = none → Serves platform context policy calls.shared) →
      (calls.ending index = none → LeavesPolicy platform context policy calls move) →
        ((process platform).move move calls).ending index = none →
          Serves platform context policy ((process platform).move move calls).shared := by
    intro calls move serves leaves continues
    have under : calls.ending index = none := by
      cases ended : calls.ending index with
      | none => rfl
      | some ending => cases continues.symm.trans (ended_move ended move)
    exact serves_move (serves under) (leaves under)
  refine Runs.along_invariant kept (fun calls move serves _ => ?_) leaves (fun _ => serves)
  cases ended : calls.ending index with
  | none => exact receives_served (serves ended) index move
  | some ending => exact receives_ended ended move

end Moves

/-- A request whose policy stays in force from its admission on is authorised,
decrypted and answered under it. -/
theorem one_policy (platform : Platform) (gateway : Gateway) (context : HttpContext)
    (proxyResponse : Option ProxyResponse) (earlier moves : List (Move Change Actor))
    (leaves : LeavesAuthorized platform context proxyResponse
      (reached platform gateway earlier).threads.length
      (starting platform (.requests context proxyResponse) (reached platform gateway earlier)) moves) :
    UsesOnePolicy (reached platform gateway earlier).threads.length
      (after platform moves
        (starting platform (.requests context proxyResponse) (reached platform gateway earlier))) := by
  intro authorized client decrypting heading encrypting ended
  have started : (starting platform (.requests context proxyResponse)
      (reached platform gateway earlier)).threads[(reached platform gateway earlier).threads.length]? =
        some ⟨(reached platform gateway earlier).shared,
          decided platform context proxyResponse (authorize platform context)⟩ :=
    List.getElem?_concat_length
  rcases context_run (fun _ _ => rfl) moves started with
    ⟨action, next, asking⟩ | ⟨during, rest, ending, parts, checked⟩
  · obtain ⟨thread, found, done⟩ := ending_eq_some_iff.mp ended
    obtain rfl := Option.some.inj (found.symm.trans asking)
    cases done
  · by_cases admitted : ∃ policy clientId client, ending = .ok (.admitted policy clientId client)
    · obtain ⟨policy, clientId, client, rfl⟩ := admitted
      obtain ⟨during, rest, policy, rfl, ⟨_, clientId, client, proceeding⟩, serves, along⟩ :=
        leaves ⟨during, rest, policy, parts, _, clientId, client, checked⟩
      rw [after, Runs.run_append] at ended
      have served := ends_run proceeding (decided_served clientId client)
        (receives_along serves along) ended
      cases served
      exact ⟨rfl, rfl, rfl⟩
    · rw [parts, after, Runs.run_append] at ended
      have refused := ends_run checked (decided_refused fun policy clientId client same =>
        admitted ⟨policy, clientId, client, same⟩)
          (receives_any (process platform) _ rest _) ended
      obtain ⟨status, text, answered⟩ := refused
      cases answered

/-- A cycle over a registry with a granted client, then the client's request. -/
def requestLoaded : Calls :=
  starting plainPlatform (.requests PolicyRefreshService.grantedRequest none)
    (reached plainPlatform (Gateway.started (PolicyRefreshService.grantedRegistry true))
      (.starts .cycles :: List.replicate 12 (.advances 0)))

/-- Between the checks and the next stage the policies are refreshed and the memory
tier is lost. -/
def refreshedMeanwhile : List (Move Change Actor) :=
  List.replicate 3 (.advances 1) ++ (.starts .refreshesPolicies :: List.replicate 6 (.advances 2) ++
    (.changes (.tiers ⟨0, fun _ => false, fun _ => true, fun _ => true, fun _ => true⟩) ::
      List.replicate 5 (.advances 1)))

/-- The registry with its endpoint changed to expect plain payloads. -/
def changedRegistry : Database :=
  { PolicyRefreshService.grantedRegistry true with
    endpoints := [{ PolicyResolver.oneServiceEndpoint with payloadExpectation := .Decrypted }]
    endpoints_id := by simp
    endpoints_name := by simp }

/-- The policies are refreshed after the endpoint has changed. -/
def changedMeanwhile : List (Move Change Actor) :=
  List.replicate 3 (.advances 1) ++ (.changes (.database changedRegistry) ::
    .starts .refreshesPolicies :: List.replicate 6 (.advances 2) ++ List.replicate 3 (.advances 1))

/-- From the admission on the refresh writes and publishes the policy again. -/
theorem refreshed_leaves : Runs.Along (process plainPlatform).move
    (LeavesPolicy plainPlatform PolicyRefreshService.grantedRequest
      PolicyRefreshService.grantedPolicy)
    (.starts .refreshesPolicies :: List.replicate 6 (.advances 2) ++
      (.changes (.tiers ⟨0, fun _ => false, fun _ => true, fun _ => true, fun _ => true⟩) ::
        List.replicate 5 (.advances 1)))
    (after plainPlatform (List.replicate 3 (.advances 1)) requestLoaded) := by
  decide

theorem one_policy_refreshed :
    UsesOnePolicy 1 (after plainPlatform refreshedMeanwhile requestLoaded) := by
  refine one_policy plainPlatform (Gateway.started (PolicyRefreshService.grantedRegistry true))
    PolicyRefreshService.grantedRequest none (.starts .cycles :: List.replicate 12 (.advances 0))
      refreshedMeanwhile (fun _ => ?_)
  refine ⟨List.replicate 3 (.advances 1), _, PolicyRefreshService.grantedPolicy, rfl,
    ⟨_, _, _, rfl⟩, ⟨?_, ?_⟩, ?_⟩
  · have memory : (after plainPlatform (List.replicate 3 (.advances 1))
        requestLoaded).shared.cache.inMemory
          (policyKeyOf plainPlatform PolicyRefreshService.grantedRequest) =
            some (.policy PolicyRefreshService.grantedPolicy) := by
      decide
    have store : (after plainPlatform (List.replicate 3 (.advances 1))
        requestLoaded).shared.cache.inStore
          (policyKeyOf plainPlatform PolicyRefreshService.grantedRequest) =
            some (.policy PolicyRefreshService.grantedPolicy) := by
      decide
    rintro value (live | live)
    · exact Option.some.inj (live.symm.trans memory)
    · exact Option.some.inj (live.symm.trans store)
  · decide
  · have leaves := refreshed_leaves
    rw [requestLoaded] at leaves
    refine Runs.along_mono ?_ leaves
    exact fun _ _ kept _ => kept

/-- Then the later stages use the changed policy. -/
theorem changed_endpoint_splits :
    ¬ UsesOnePolicy 1 (after plainPlatform changedMeanwhile requestLoaded) := by
  intro uses
  have used := uses PolicyRefreshService.grantedPolicy _ _ _ _ rfl
  revert used
  decide

end ApiGateway.Concurrent
