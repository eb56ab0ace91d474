import ApiGateway.Revocation

/-!
# Permission expiry

The query that fills a permission set leaves out expired rows; the set it fills
has no expiry of its own and is trusted for as long as a tier holds it. So a
client is admitted only before its permission expires exactly when no set that
lists the endpoint outlives the expiry in the cache.

Along a run it is enough that no such set is live when the clock passes the
expiry, and that none is written late after it: whatever is read from the
database from then on leaves the endpoint out.
-/

namespace ApiGateway.Middleware

open Effects TwoTier

/-- Every permission row of the client for the endpoint expires at one time. -/
def ExpiresAt (clientId endpointId : Guid) (expiry : Nat) (database : Database) : Prop :=
  ∀ permission ∈ database.clientPermissions, permission.clientId = clientId →
    permission.endpointId = endpointId → permission.expiresAt = some expiry

/-- A permission set of the client that lists the endpoint. -/
def Lists (clientId endpointId : Guid) (key : Text) (value : CacheValue) : Prop :=
  ∃ endpointIds, key = PolicyCache.permissionKey clientId ∧ value = .permissions endpointIds ∧
    endpointId ∈ endpointIds

/-- Where the rows expire at one time, no set lists the endpoint from then on. -/
def ListsInTime (clientId endpointId : Guid) (expiry : Nat) (database : Database) (now : Nat)
    (key : Text) (value : CacheValue) : Prop :=
  ExpiresAt clientId endpointId expiry database → Lists clientId endpointId key value → now < expiry

/-- The rows expire at one time, and no set that the process holds lists the
endpoint from then on. -/
structure InTime (clientId endpointId : Guid) (expiry : Nat) (gateway : Gateway) : Prop where
  sustains : SustainsAt (ListsInTime clientId endpointId expiry) gateway
  expires : ExpiresAt clientId endpointId expiry gateway.database

/-- A request is admitted through the permission set of a client for an endpoint. -/
def AdmittedThroughSet (platform : Platform) (gateway : Gateway) (context : HttpContext)
    (clientId endpointId : Guid) : Prop :=
  ∃ policy named client,
    (authorize platform.caseMap (gatewayServices platform) context gateway).1 =
        .ok (.admitted policy named (some client)) ∧
      client.id = clientId ∧ policy.endpoint.id = endpointId

/-- The request is admitted so only before the expiry. -/
def HonoursExpiry (platform : Platform) (gateway : Gateway) (context : HttpContext)
    (clientId endpointId : Guid) (expiry : Nat) : Prop :=
  AdmittedThroughSet platform gateway context clientId endpointId → gateway.now < expiry

/-- A step that leaves rows that expire at the one time. -/
def KeepsExpiry {platform : Platform} (clientId endpointId : Guid) (expiry : Nat) (gateway : Gateway)
    (step : Step platform) : Prop :=
  ExpiresAt clientId endpointId expiry (contentAfter gateway step)

/-- A step by which no set listing the endpoint outlives the expiry: none is live
where the clock has reached it, and none is written late from then on. -/
def DropsInTime {platform : Platform} (clientId endpointId : Guid) (expiry : Nat) (gateway : Gateway) :
    Step platform → Prop
  | .surroundingsChange change => expiry ≤ gateway.now + change.elapsed → ∀ key value,
      (Cache.decay change gateway.cache).Held key value → ¬ Lists clientId endpointId key value
  | .cachesLate key value _ _ => Lists clientId endpointId key value → gateway.now < expiry
  | _ => True

section Admission

variable {σ : Type} {services : Services σ}

/-- An admission with a client rests on a permission set found for it. -/
theorem verifyCaller_rests {caseMap : CaseMap} {context : HttpContext}
    {policy admitted : EndpointPolicy} {named : Option Text} {client : Client} {before after : σ}
    (returned : verifyCaller caseMap services context policy before =
      (.ok (.admitted admitted named (some client)), after)) :
    admitted = policy ∧ ∃ clientId found permissions granted,
      lookupClient services clientId before = (.ok (some client), found) ∧
        PermissionsFound services client.id found permissions granted ∧
          policy.endpoint.id ∈ permissions := by
  obtain ⟨_, _, ⟨_, _, _, unknown⟩ | ⟨present, _, checked⟩⟩ := verifyCaller_cases returned
  · cases unknown
  · obtain ⟨same, _, known, found, permissions, granted, answer, rests⟩ :=
      verifyClient_rests checked
    obtain rfl := Option.some.inj answer
    exact ⟨same, present, found, permissions, granted, rests⟩

/-- So does an admission of a request. -/
theorem authorize_rests {caseMap : CaseMap} {context : HttpContext} {policy : EndpointPolicy}
    {named : Option Text} {client : Client} {before after : σ}
    (returned : authorize caseMap services context before =
      (.ok (.admitted policy named (some client)), after)) :
    ∃ resolved clientId found permissions granted,
      services.policyResolver.resolvePolicyAsync context.path context.method before =
          (.ok (some policy), resolved) ∧
        lookupClient services clientId resolved = (.ok (some client), found) ∧
          PermissionsFound services client.id found permissions granted ∧
            policy.endpoint.id ∈ permissions := by
  obtain ⟨answer, resolved, asked, returned⟩ := Effect.bind_ok_inv returned
  cases answer with
  | none => cases returned
  | some answered =>
    obtain ⟨rfl, clientId, found, permissions, granted, rests⟩ := verifyCaller_rests returned
    exact ⟨resolved, clientId, found, permissions, granted, asked, rests⟩

end Admission

section Runs

variable {platform : Platform} {clientId endpointId : Guid} {expiry : Nat}

/-- The query lists the endpoint only before the expiry. -/
theorem authorized_inTime {database : Database} {now : Nat}
    (expires : ExpiresAt clientId endpointId expiry database)
    (member : endpointId ∈ database.authorizedEndpointIds now clientId) : now < expiry := by
  obtain ⟨permission, row, owner, target, _, current⟩ :=
    (Database.mem_authorizedEndpointIds_iff database now clientId endpointId).mp member
  have dated := expires permission row owner target
  simpa [Database.unexpired, dated] using current

/-- So do the sets the tables offer at a time. -/
theorem offered_listsInTime (database : Database) (now : Nat) (key : Text) (value : CacheValue)
    (offer : OfferedAt platform database now key value) :
    ListsInTime clientId endpointId expiry database now key value := by
  rintro expires ⟨endpointIds, keyed, rfl, member⟩
  obtain rfl := offer.current clientId endpointIds keyed rfl
  exact authorized_inTime expires member

/-- The set found for a client lists the endpoint only before the expiry. -/
theorem permissionsFound_inTime {provider : Provider} {before after : Gateway} {now : Nat}
    {database : Database} {permissions : List Guid}
    (keeps : KeepsAt now (ListsInTime clientId endpointId expiry database now) database provider
      before)
    (expires : ExpiresAt clientId endpointId expiry database)
    (found : PermissionsFound (gatewayServices platform) clientId before permissions after)
    (member : endpointId ∈ permissions) : now < expiry := by
  cases found with
  | cached _ hit =>
    have peeked := (congrArg Prod.fst (PolicyCache.read_run CacheValue.asPermissions
      (PolicyCache.permissionKey clientId) before)).symm.trans (congrArg Prod.fst hit)
    obtain ⟨value, held, viewed⟩ := Cache.peek_held (Except.ok.inj peeked)
    exact keeps.cache _ value held expires
      ⟨permissions, rfl, (CacheValue.asPermissions_eq_some_iff value permissions).mp viewed, member⟩
  | loaded missed read _ miss answered _ =>
    have kept := preserves_read CacheValue.asPermissions (PolicyCache.permissionKey clientId) before keeps
    rw [show (PolicyCache.read CacheValue.asPermissions (PolicyCache.permissionKey clientId)
      before).2 = missed from congrArg Prod.snd miss] at kept
    obtain ⟨_, rows⟩ := ensures_query (.authorizedEndpointIds clientId)
      (fun database now => database.authorizedEndpointIds now clientId) missed kept
    obtain rfl := rows permissions (congrArg Prod.fst answered)
    exact authorized_inTime expires member

/-- A process that holds no set listing the endpoint too late admits nobody too late. -/
theorem InTime.honoursExpiry {gateway : Gateway} {context : HttpContext}
    (holds : InTime clientId endpointId expiry gateway)
    (admitted : AdmittedThroughSet platform gateway context clientId endpointId) :
    gateway.now < expiry := by
  obtain ⟨policy, named, client, returned, rfl, rfl⟩ := admitted
  obtain ⟨resolved, presented, found, permissions, granted, asked, looked, set, member⟩ :=
    authorize_rests (Prod.ext returned rfl)
  have now : KeepsAt gateway.now (ListsInTime client.id policy.endpoint.id expiry gateway.database
      gateway.now) gateway.database gateway.provider gateway := ⟨holds.sustains, rfl⟩
  have kept := @preserves_resolvePolicyAsync platform _ _ _ _ context.path context.method gateway now
  rw [show (PolicyResolver.resolvePolicyAsync platform context.path context.method gateway).2 =
    resolved from congrArg Prod.snd asked] at kept
  have reached := preserves_lookupClient (@offered_listsInTime platform _ _ _ gateway.database gateway.now)
    presented resolved kept
  rw [looked] at reached
  exact permissionsFound_inTime reached holds.expires set member

/-- A policy is no permission set. -/
theorem not_lists_policy (key : Text) (policy : EndpointPolicy) :
    ¬ Lists clientId endpointId key (.policy policy) := by
  rintro ⟨endpointIds, _, same, _⟩
  cases same

/-- A step that drops in time what expires tolerates that sets list in time. -/
theorem DropsInTime.toleratesAt {gateway : Gateway} {step : Step platform}
    (sustains : SustainsAt (ListsInTime clientId endpointId expiry) gateway)
    (expires : ExpiresAt clientId endpointId expiry gateway.database)
    (drops : DropsInTime clientId endpointId expiry gateway step) :
    ToleratesAt (ListsInTime clientId endpointId expiry) gateway step := by
  cases step with
  | databaseChanges database =>
    exact fun key value retained _ lists => sustains.retains retained expires lists
  | surroundingsChange change =>
    intro key value retained _ lists
    cases retained with
    | cached _ _ held =>
      by_contra late
      exact drops (Nat.le_of_not_lt late) key value held lists
    | published routeKey policy _ => exact absurd lists (not_lists_policy _ policy)
  | cachesLate key value source offered => exact fun _ lists => drops lists
  | publishesLate snapshot offered =>
    exact fun routeKey policy _ _ lists => absurd lists (not_lists_policy _ policy)
  | _ => trivial

/-- A step that keeps the rows' expiry and drops in time what expires keeps all in time. -/
theorem InTime.perform {gateway : Gateway} {step : Step platform}
    (holds : InTime clientId endpointId expiry gateway)
    (stays : KeepsExpiry clientId endpointId expiry gateway step)
    (drops : DropsInTime clientId endpointId expiry gateway step) :
    InTime clientId endpointId expiry (perform platform step gateway) := by
  constructor
  · exact sustainsAt_perform offered_listsInTime holds.sustains
      (drops.toleratesAt holds.sustains holds.expires)
  · rw [(perform_frame step gateway).1]
    exact stays

/-- So do runs of such steps. -/
theorem InTime.run {steps : List (Step platform)} {gateway : Gateway}
    (holds : InTime clientId endpointId expiry gateway)
    (stays : Runs.Along (ApiGateway.perform platform) (KeepsExpiry clientId endpointId expiry) steps
      gateway)
    (drops : Runs.Along (ApiGateway.perform platform) (DropsInTime clientId endpointId expiry) steps
      gateway) :
    InTime clientId endpointId expiry (Runs.run (ApiGateway.perform platform) steps gateway) :=
  Runs.invariant_run (fun _ _ reached allowed => InTime.perform reached allowed.1 allowed.2)
    (Runs.along_and stays drops) holds

/-- A set that the cache answers with for the client lists the endpoint only
before the expiry. -/
def AnswersInTime (gateway : Gateway) (clientId endpointId : Guid) (expiry : Nat) : Prop :=
  ∀ endpointIds, gateway.cache.peek CacheValue.asPermissions (PolicyCache.permissionKey clientId) =
    some endpointIds → endpointId ∈ endpointIds → gateway.now < expiry

/-- A request of the client for the endpoint is admitted through its set exactly
when the set in effect lists the endpoint. -/
theorem admittedThroughSet_iff {gateway : Gateway} {context : HttpContext} {name : Text}
    {policy : EndpointPolicy} {client : Client} (connected : gateway.Connected)
    (request : IdentifiedRequest platform context name) (nonempty : name ≠ [])
    (resolved : (PolicyResolver.resolvePolicyAsync platform context.path context.method gateway).1 =
      .ok (some policy)) (known : clientInEffect gateway name = some client) :
    AdmittedThroughSet platform gateway context client.id policy.endpoint.id ↔
      policy.endpoint.id ∈ permissionsInEffect gateway client.id := by
  have answer := authorize_value connected request nonempty resolved
  rw [verdict, known] at answer
  dsimp only at answer
  unfold AdmittedThroughSet
  rw [answer]
  by_cases member : policy.endpoint.id ∈ permissionsInEffect gateway client.id
  · simp [member]
  · simp [member]

/-- A client is admitted to an endpoint through its permission set only before its
permission expires: in every state reached by a run that drops in time what
expires, and from any state at all exactly when the cache answers in time. -/
theorem honours_expiry_iff (platform : Platform) :
    (∀ (clientId endpointId : Guid) (expiry : Nat) (database : Database)
      (steps : List (Step platform)), ExpiresAt clientId endpointId expiry database →
      Runs.Along (perform platform) (KeepsExpiry clientId endpointId expiry) steps
          (Gateway.started database) →
        Runs.Along (perform platform) (DropsInTime clientId endpointId expiry) steps
            (Gateway.started database) →
          ∀ context, HonoursExpiry platform
            (Runs.run (perform platform) steps (Gateway.started database)) context clientId
              endpointId expiry) ∧
      ∀ (gateway : Gateway) (context : HttpContext) (name : Text) (policy : EndpointPolicy)
        (client : Client) (expiry : Nat), gateway.Connected →
          IdentifiedRequest platform context name → name ≠ [] →
            (PolicyResolver.resolvePolicyAsync platform context.path context.method gateway).1 =
                .ok (some policy) → clientInEffect gateway name = some client →
              ExpiresAt client.id policy.endpoint.id expiry gateway.database →
                (HonoursExpiry platform gateway context client.id policy.endpoint.id expiry ↔
                  AnswersInTime gateway client.id policy.endpoint.id expiry) := by
  constructor
  · intro clientId endpointId expiry database steps expires stays drops context
    have started : InTime clientId endpointId expiry (Gateway.started database) :=
      ⟨sustainsAt_started _ database, expires⟩
    exact (started.run stays drops).honoursExpiry
  · intro gateway context name policy client expiry connected request nonempty resolved known expires
    unfold HonoursExpiry AnswersInTime
    rw [admittedThroughSet_iff connected request nonempty resolved known, permissionsInEffect]
    cases gateway.cache.peek CacheValue.asPermissions (PolicyCache.permissionKey client.id) with
    | some endpointIds => simp
    | none =>
      have current : policy.endpoint.id ∈
          gateway.database.authorizedEndpointIds gateway.now client.id → gateway.now < expiry :=
        authorized_inTime expires
      simpa using current

end Runs

/-- The granted client's permission expires ten seconds after the start. -/
def expiringRegistry : Database :=
  { PolicyRefreshService.grantedRegistry true with
    clientPermissions := [⟨Guid.numbered 4, Guid.numbered 3, Guid.numbered 2, true, some 10⟩]
    clientPermissions_id := by simp
    clientPermissions_pair := by simp }

theorem expiringRegistry_expires :
    ExpiresAt (Guid.numbered 3) (Guid.numbered 2) 10 expiringRegistry := by
  intro permission member
  rw [show expiringRegistry.clientPermissions =
    [⟨Guid.numbered 4, Guid.numbered 3, Guid.numbered 2, true, some 10⟩] from rfl,
    List.mem_singleton] at member
  subst permission
  exact fun _ _ => rfl

/-- Time passes and nothing is lost. -/
def passing (elapsed : Nat) : Step plainPlatform :=
  .surroundingsChange ⟨elapsed, fun _ => true, fun _ => true, fun _ => true, fun _ => true⟩

/-- The client is loaded and time passes. -/
def waited (elapsed : Nat) : Gateway :=
  Runs.run (perform plainPlatform) [.refreshesAll, passing elapsed] (Gateway.started expiringRegistry)

theorem honours_expiry_iff_waited :
    HonoursExpiry plainPlatform (waited 9) PolicyRefreshService.grantedRequest (Guid.numbered 3)
        (Guid.numbered 2) 10 ∧
      (HonoursExpiry plainPlatform (waited 10) PolicyRefreshService.grantedRequest
          (Guid.numbered 3) (Guid.numbered 2) 10 ↔
        AnswersInTime (waited 10) (Guid.numbered 3) (Guid.numbered 2) 10) :=
  ⟨(honours_expiry_iff plainPlatform).1 _ _ 10 expiringRegistry [.refreshesAll, passing 9]
      expiringRegistry_expires ⟨expiringRegistry_expires, expiringRegistry_expires, trivial⟩
      ⟨trivial, fun late => absurd late (by decide), trivial⟩ _,
    (honours_expiry_iff plainPlatform).2 (waited 10) PolicyRefreshService.grantedRequest
      "alice".toList PolicyRefreshService.grantedPolicy (PolicyRefreshService.grantedClient true) 10
      (fun _ => rfl) ⟨by decide, rfl, by decide⟩ (by decide) (by decide)
      (by decide) expiringRegistry_expires⟩

/-- At the very second of the expiry the client is still admitted. -/
theorem expired_still_admitted :
    ExpiresAt (Guid.numbered 3) (Guid.numbered 2) 10 expiringRegistry ∧
      Runs.Along (perform plainPlatform) (KeepsExpiry (Guid.numbered 3) (Guid.numbered 2) 10)
          [.refreshesAll, passing 10] (Gateway.started expiringRegistry) ∧
        ¬ HonoursExpiry plainPlatform (waited 10) PolicyRefreshService.grantedRequest
          (Guid.numbered 3) (Guid.numbered 2) 10 := by
  refine ⟨expiringRegistry_expires, ⟨expiringRegistry_expires, expiringRegistry_expires, trivial⟩,
    fun honours => ?_⟩
  have answered : (authorize plainPlatform.caseMap (gatewayServices plainPlatform)
      PolicyRefreshService.grantedRequest (waited 10)).1 =
        .ok (.admitted PolicyRefreshService.grantedPolicy (some "alice".toList)
          (some (PolicyRefreshService.grantedClient true))) := by
    decide
  have early := honours ⟨_, _, _, answered, rfl, rfl⟩
  have late : (waited 10).now = 10 := by decide
  omega

end ApiGateway.Middleware
