import ApiGateway.CallGuarantees

/-!
# The caches do not show

While the registry, the caller's row and the caller's permissions stay as they
are, a request of that caller is answered as the rows alone say: whatever happens
to the tiers, to other clients' rows and to the repositories, and in whatever
order requests, refreshes and cycles take turns.

Until a snapshot has been published a registered endpoint may be answered as not
found; a repository that fails may cost an answer of 500. Where several endpoints
register one route key, the stages may each use any of their policies.
-/

namespace ApiGateway.Concurrent

open TwoTier Interleaving PolicyResolver

/-- The client id under which a request is checked, if it presents one. -/
def callerOf (platform : Platform) (context : HttpContext) : Option Text :=
  (context.user.clientId platform.caseMap).filter (fun value => !value.isEmpty)

/-- The rows that decide a caller's requests, and the time at which they are read. -/
structure Reference where
  platform : Platform
  database : Database
  now : Nat
  caller : Option Text

namespace Reference

/-- A policy is registered under a route key. -/
def Registers (reference : Reference) (routeKey : Text) (policy : EndpointPolicy) : Prop :=
  (routeKey, policy) ∈ registrations reference.platform reference.database

/-- The row of the caller. -/
def IsCaller (reference : Reference) (client : Client) : Prop :=
  ∃ clientId ∈ reference.caller, reference.database.clientByClientId clientId = some client

/-- The caller's row has a permission for an endpoint. -/
def Granted (reference : Reference) (client : Client) (endpointId : Guid) : Prop :=
  endpointId ∈ reference.database.authorizedEndpointIds reference.now client.id

/-- The registry, the caller's row and the caller's permissions are those of the
reference. -/
def FittingRows (reference : Reference) : (call : RepositoryCall) → Rows call → Prop
  | .services, rows => ∀ service, service ∈ rows ↔ service ∈ reference.database.enabledServices
  | .products, rows => ∀ product, product ∈ rows ↔ product ∈ reference.database.enabledProducts
  | .endpoints serviceId, rows =>
      ∀ endpoint, endpoint ∈ rows ↔ endpoint ∈ reference.database.enabledEndpoints serviceId
  | .client clientId, found =>
      clientId ∈ reference.caller → found = reference.database.clientByClientId clientId
  | .enabledClients, rows => ∀ client ∈ rows, client.clientId ∈ reference.caller →
      reference.database.clientByClientId client.clientId = some client
  | .authorizedEndpointIds id, rows => ∀ client, reference.IsCaller client → client.id = id →
      ∀ endpointId, endpointId ∈ rows ↔ reference.Granted client endpointId
  | .userProfile _ _, _ => True

/-- A value that may be cached under a key. -/
structure Fitting (reference : Reference) (key : Text) (value : CacheValue) : Prop where
  policy : ∀ routeKey, key = PolicyCache.policyKey routeKey →
    ∃ policy, value = .policy policy ∧ reference.Registers routeKey policy
  client : ∀ clientId ∈ reference.caller, key = PolicyCache.clientKey clientId →
    ∃ client, value = .client client ∧
      reference.database.clientByClientId clientId = some client
  permissions : ∀ client, reference.IsCaller client → key = PolicyCache.permissionKey client.id →
    ∃ endpointIds, value = .permissions endpointIds ∧
      ∀ endpointId, endpointId ∈ endpointIds ↔ reference.Granted client endpointId

/-- A snapshot has registered policies, one under every registered key. -/
structure Complete (reference : Reference) (snapshot : Dictionary Text EndpointPolicy) : Prop where
  registered : ∀ routeKey policy, snapshot.tryGetValue routeKey = some policy →
    reference.Registers routeKey policy
  covers : ∀ routeKey policy, reference.Registers routeKey policy →
    snapshot.tryGetValue routeKey ≠ none

/-- What a snapshot answers: a registered policy, or nothing where none is registered
or no complete snapshot is loaded. -/
def Lookup (reference : Reference) (loaded : Prop) (routeKey : Text) :
    Option EndpointPolicy → Prop
  | some policy => reference.Registers routeKey policy
  | none => loaded → ∀ policy, ¬ reference.Registers routeKey policy

section Rows

variable {reference : Reference}

/-- Fitting products give every service the product of the reference. -/
theorem productOf_fitting {products : List Product} (fits : reference.FittingRows .products products)
    (service : Service) :
    productOf products service = productOf reference.database.enabledProducts service := by
  have unique : ∀ left ∈ products, ∀ right ∈ products,
      decide (left.id = service.productId) = true → decide (right.id = service.productId) = true →
        left = right := by
    intro left leftMember right rightMember leftOwner rightOwner
    rw [decide_eq_true_eq] at leftOwner rightOwner
    exact Database.row_unique reference.database.products_id
      (List.mem_of_mem_filter ((fits left).mp leftMember))
      (List.mem_of_mem_filter ((fits right).mp rightMember)) (leftOwner.trans rightOwner.symm)
  refine Option.ext fun product => ?_
  rw [productOf_iff, ← fits product, productOf, Database.find_row_iff unique, decide_eq_true_eq]

theorem fitting_policy {routeKey : Text} {policy : EndpointPolicy}
    (registered : reference.Registers routeKey policy) :
    reference.Fitting (PolicyCache.policyKey routeKey) (.policy policy) where
  policy := fun other same => by
    rw [← PolicyCache.policyKey_injective same]
    exact ⟨policy, rfl, registered⟩
  client := fun _ _ same => absurd same (PolicyCache.policyKey_ne_clientKey _ _)
  permissions := fun _ _ same => absurd same (PolicyCache.policyKey_ne_permissionKey _ _)

theorem fitting_client {clientId : Text} {client : Client}
    (fits : reference.FittingRows (.client clientId) (some client)) :
    reference.Fitting (PolicyCache.clientKey clientId) (.client client) where
  policy := fun _ same => absurd same.symm (PolicyCache.policyKey_ne_clientKey _ _)
  client := fun other caller same => by
    obtain rfl := PolicyCache.clientKey_injective same
    exact ⟨client, rfl, (fits caller).symm⟩
  permissions := fun _ _ same => absurd same (PolicyCache.clientKey_ne_permissionKey _ _)

theorem fitting_permissions {id : Guid} {endpointIds : List Guid}
    (fits : reference.FittingRows (.authorizedEndpointIds id) endpointIds) :
    reference.Fitting (PolicyCache.permissionKey id) (.permissions endpointIds) where
  policy := fun _ same => absurd same.symm (PolicyCache.policyKey_ne_permissionKey _ _)
  client := fun _ _ same => absurd same.symm (PolicyCache.clientKey_ne_permissionKey _ _)
  permissions := fun client caller same =>
    ⟨endpointIds, rfl, fits client caller (PolicyCache.permissionKey_injective same).symm⟩

/-- Profiles are cached under keys of their own. -/
theorem fitting_userProfile (userId : Text) (serviceId : Option Guid) (profile : UserProfile) :
    reference.Fitting (PolicyCache.userProfileKey userId serviceId) (.userProfile profile) where
  policy := fun _ same => absurd same.symm (PolicyCache.policyKey_ne_userProfileKey _ _ _)
  client := fun _ _ same => absurd same.symm (PolicyCache.clientKey_ne_userProfileKey _ _ _)
  permissions := fun _ _ same => absurd same.symm (PolicyCache.permissionKey_ne_userProfileKey _ _ _)

/-- A snapshot with the keys of all services read has every registered key. -/
theorem complete_served {services : List Service} {products : List Product}
    {snapshot : Dictionary Text EndpointPolicy} (servicesFit : reference.FittingRows .services services)
    (productsFit : reference.FittingRows .products products)
    (only : ∀ routeKey policy, snapshot.tryGetValue routeKey = some policy →
      reference.Registers routeKey policy)
    (served : ∀ service ∈ services, ∀ product, productOf products service = some product →
      ∃ endpoints, reference.FittingRows (.endpoints service.id) endpoints ∧
        HasKeys reference.platform service endpoints snapshot) : reference.Complete snapshot := by
  refine ⟨only, fun routeKey policy registered => ?_⟩
  obtain ⟨service, enabled, product, owned, endpoint, exposed, method, named, rfl, _⟩ :=
    (mem_registrations_iff _ _).mp registered
  rw [← productOf_fitting productsFit] at owned
  obtain ⟨endpoints, fits, has⟩ := served service ((servicesFit service).mpr enabled) product owned
  exact has endpoint ((fits endpoint).mpr exposed) method named

end Rows

/-- What fits the reference is read, cached and published. -/
def discipline (reference : Reference) (loaded : Prop) : Discipline where
  platform := reference.platform
  FittingRows := reference.FittingRows
  Fitting := reference.Fitting
  Stored := reference.Fitting
  Remembered := reference.Fitting
  Built := reference.Registers
  Registers := reference.Registers
  Lookup := reference.Lookup loaded
  Publishable := reference.Complete
  stored := fun _ _ fitting => fitting
  remembered := fun _ _ fitting => fitting
  policies := fun _ _ registered => fitting_policy registered
  clients := fun _ _ fits => fitting_client fits
  permissions := fun _ _ fits => fitting_permissions fits
  profiles := fun userId serviceId profile _ => fitting_userProfile userId serviceId profile
  listed := fun _ fits client member caller => (fits client member caller).symm
  built := fun _ _ registered => registered
  found := fun _ _ => Iff.rfl
  registers := by
    intro services products service product endpoints endpoint method servicesFit productsFit member
      owned endpointsFit listed named
    rw [productOf_fitting productsFit] at owned
    exact (mem_registrations_iff _ _).mpr ⟨service, (servicesFit service).mp member, product, owned,
      endpoint, (endpointsFit endpoint).mp listed, method, named, rfl, rfl⟩
  publishes := fun _ _ _ => complete_served
  looksUp := by
    intro snapshot complete routeKey
    cases found : snapshot.tryGetValue routeKey with
    | some policy => exact complete.registered routeKey policy found
    | none => exact fun _ policy registered => complete.covers routeKey policy registered found

theorem recalls (reference : Reference) (loaded : Prop) : (reference.discipline loaded).Recalls := by
  intro routeKey policy fitting
  obtain ⟨registered, same, holds⟩ := Fitting.policy fitting routeKey rfl
  exact CacheValue.policy.inj same ▸ holds

/-- The answer that the rows give to a request under a policy. -/
def decision (reference : Reference) (context : HttpContext) (policy : EndpointPolicy) : Decision :=
  if policy.requiresJwt && Middleware.unauthenticated context.user then
    .answered 401 "Unauthorized".toList
  else if Text.isNullOrEmpty (context.user.clientId reference.platform.caseMap) &&
      policy.requiresJwt then
    .answered 401 "Invalid token".toList
  else
    match reference.caller with
    | none => .admitted policy (context.user.clientId reference.platform.caseMap) none
    | some clientId =>
      match reference.database.clientByClientId clientId with
      | none => .answered 403 "Client not found".toList
      | some client =>
        if policy.endpoint.id ∈
            reference.database.authorizedEndpointIds reference.now client.id then
          .admitted policy (some clientId) (some client)
        else .answered 403 "Access denied to this endpoint".toList

/-- The policies registered for a request. -/
def RegistersFor (reference : Reference) (context : HttpContext) (policy : EndpointPolicy) : Prop :=
  reference.Registers (requestKey reference.platform context.path context.method) policy

/-- A stage uses a registered policy; it may find none while no snapshot is loaded. -/
def Uses (reference : Reference) (context : HttpContext) (loaded : Prop) :
    Option EndpointPolicy → Prop
  | some policy => reference.RegistersFor context policy
  | none => ¬ loaded

/-- A request has ended as a decision says. -/
def EndsAs (reference : Reference) (context : HttpContext) (loaded : Prop)
    (ending : Except Fault Outcome) : Decision → Prop
  | .answered status text => ending = .ok (.answered status text)
  | .admitted policy _ client => ∃ decrypting heading encrypting,
      ending = .ok (.served policy client decrypting heading encrypting) ∧
        ∀ stage ∈ [decrypting, heading, encrypting], reference.Uses context loaded stage

/-- How a request may end: as the rows say under a policy registered for it; as not
found, from a loaded snapshot only where none is; and with 500 where a query of its
checks went unanswered. -/
inductive Decided (reference : Reference) (context : HttpContext) (loaded answered : Prop)
    (ending : Except Fault Outcome) : Prop where
  | byRows (policy : EndpointPolicy) (registered : reference.RegistersFor context policy)
      (ends : reference.EndsAs context loaded ending (reference.decision context policy))
  | notFound (same : ending = .ok (.answered 404 "Endpoint not found or disabled".toList))
      (absent : loaded → ∀ policy, ¬ reference.RegistersFor context policy)
  | failed (same : ending = .ok (.answered 500 "Internal server error".toList))
      (unanswered : ¬ answered)

/-- A query on which the checks of a request depend. -/
def checks : RepositoryCall → Bool
  | .client _ => true
  | .authorizedEndpointIds _ => true
  | _ => false

/-- What a request receives: what fits, and an answer to each query of its checks. -/
def Replies (reference : Reference) (loaded answered : Prop) (action : Action)
    (received : Answer action) : Prop :=
  (reference.discipline loaded).Answers action received ∧ (answered →
    match action, received with
    | .query call, received => checks call = true → ∃ rows, received = .ok rows
    | _, _ => True)

variable {reference : Reference} {loaded answered : Prop} {context : HttpContext}

section Requests

/-- What ends as it does with fitting answers ends so with these. -/
theorem ends_replies {α : Type} {routine : Routine α} {post : Except Fault α → Prop}
    (ends : routine.Ends (reference.discipline loaded).Answers post) :
    routine.Ends (reference.Replies loaded answered) post :=
  Program.ends_fewer (fun _ _ replies => replies.1) ends

theorem query_replies {call : RepositoryCall} (check : checks call = true) :
    (query call).Ends (reference.Replies loaded answered) (fun ending =>
      (∃ rows, ending = .ok rows ∧ reference.FittingRows call rows) ∨
        ((∃ fault, ending = .error fault) ∧ ¬ answered)) := by
  intro received replies
  cases received with
  | ok rows => exact Or.inl ⟨rows, rfl, replies.1 rows rfl⟩
  | error fault =>
    refine Or.inr ⟨⟨fault, rfl⟩, fun complete => ?_⟩
    obtain ⟨rows, same⟩ := replies.2 complete check
    cases same

/-- The caller's client is found as the rows have it. -/
theorem lookupClient_decided {clientId : Text} (caller : clientId ∈ reference.caller) :
    (lookupClient clientId).Ends (reference.Replies loaded answered) (fun ending =>
      ending = .ok (reference.database.clientByClientId clientId) ∨
        ((∃ fault, ending = .error fault) ∧ ¬ answered)) := by
  refine Program.ends_bind (Program.ends_mono ?_ (ends_replies (Discipline.read_fits _ _)))
  rintro ending ⟨found, rfl, fits⟩
  cases found with
  | some client =>
    obtain ⟨value, fitting, viewed⟩ := fits client rfl
    rw [CacheValue.asClient_eq_some_iff] at viewed
    obtain ⟨row, same, held⟩ := Fitting.client fitting clientId caller rfl
    obtain rfl := CacheValue.client.inj (viewed.symm.trans same)
    exact Or.inl (congrArg Except.ok held.symm)
  | none =>
    refine Program.ends_bind (Program.ends_mono ?_ (query_replies rfl))
    rintro ending (⟨rows, rfl, fits⟩ | ⟨⟨fault, rfl⟩, unanswered⟩)
    · have same := fits caller
      cases rows with
      | none => exact Or.inl (congrArg Except.ok same)
      | some client => exact fun _ _ _ _ => Or.inl (congrArg Except.ok same)
    · exact Or.inr ⟨⟨fault, rfl⟩, unanswered⟩

/-- The caller's permissions are found as the rows have them. -/
theorem lookupPermissions_decided {client : Client} (caller : reference.IsCaller client) :
    (lookupPermissions client.id).Ends (reference.Replies loaded answered) (fun ending =>
      (∃ permissions, ending = .ok permissions ∧
          ∀ endpointId, endpointId ∈ permissions ↔ reference.Granted client endpointId) ∨
        ((∃ fault, ending = .error fault) ∧ ¬ answered)) := by
  refine Program.ends_bind (Program.ends_mono ?_ (ends_replies (Discipline.read_fits _ _)))
  rintro ending ⟨found, rfl, fits⟩
  cases found with
  | some permissions =>
    obtain ⟨value, fitting, viewed⟩ := fits permissions rfl
    rw [CacheValue.asPermissions_eq_some_iff] at viewed
    obtain ⟨endpointIds, same, granted⟩ := Fitting.permissions fitting client caller rfl
    obtain rfl := CacheValue.permissions.inj (viewed.symm.trans same)
    exact Or.inl ⟨_, rfl, granted⟩
  | none =>
    refine Program.ends_bind (Program.ends_mono ?_ (query_replies rfl))
    rintro ending (⟨rows, rfl, fits⟩ | ⟨⟨fault, rfl⟩, unanswered⟩)
    · exact fun _ _ _ _ => Or.inl ⟨rows, rfl, fits client caller rfl⟩
    · exact Or.inr ⟨⟨fault, rfl⟩, unanswered⟩

/-- The checks decide as the rows do. -/
theorem verifyCaller_decided (named : reference.caller = callerOf reference.platform context)
    (policy : EndpointPolicy) :
    (verifyCaller reference.platform.caseMap context policy).Ends (reference.Replies loaded answered)
      (fun ending => ending = .ok (reference.decision context policy) ∨
        ((∃ fault, ending = .error fault) ∧ ¬ answered)) := by
  unfold verifyCaller decision
  split
  · exact Or.inl rfl
  · dsimp only
    split
    · exact Or.inl rfl
    · rw [named, callerOf]
      cases presented : (context.user.clientId reference.platform.caseMap).filter
          (fun value => !value.isEmpty) with
      | none => exact Or.inl rfl
      | some clientId =>
        have caller : clientId ∈ reference.caller := named.trans presented
        dsimp only
        refine Program.ends_bind (Program.ends_mono ?_ (lookupClient_decided caller))
        rintro ending (rfl | ⟨⟨fault, rfl⟩, unanswered⟩)
        · dsimp only
          cases found : reference.database.clientByClientId clientId with
          | none => exact Or.inl rfl
          | some client =>
            dsimp only
            refine Program.ends_bind (Program.ends_mono ?_
              (lookupPermissions_decided ⟨clientId, caller, found⟩))
            rintro ending (⟨permissions, rfl, granted⟩ | ⟨⟨fault, rfl⟩, unanswered⟩)
            · have same : policy.endpoint.id ∈ permissions ↔ policy.endpoint.id ∈
                  reference.database.authorizedEndpointIds reference.now client.id := granted _
              by_cases listed : policy.endpoint.id ∈ permissions
              · simp only [if_pos listed, if_pos (same.mp listed)]
                exact Or.inl rfl
              · simp only [if_neg listed, if_neg (mt same.mpr listed)]
                exact Or.inl rfl
            · exact Or.inr ⟨⟨fault, rfl⟩, unanswered⟩
        · exact Or.inr ⟨⟨fault, rfl⟩, unanswered⟩

/-- Where a policy is registered a stage uses one, unless no snapshot is loaded. -/
theorem uses_lookup {policy : EndpointPolicy} (registered : reference.RegistersFor context policy)
    {stage : Option EndpointPolicy} (looked : reference.Lookup loaded
      (requestKey reference.platform context.path context.method) stage) :
    reference.Uses context loaded stage := by
  cases stage with
  | some used => exact looked
  | none => exact fun full => looked full policy registered

/-- A request ends as the rows say, in every interleaving. -/
theorem serve_decided (named : reference.caller = callerOf reference.platform context)
    (proxyResponse : Option ProxyResponse) :
    (serve reference.platform context proxyResponse).Ends (reference.Replies loaded answered)
      (reference.Decided context loaded answered) := by
  have failing : ¬ answered → reference.Decided context loaded answered
      (.ok (.answered 500 "Internal server error".toList)) := .failed rfl
  refine Program.ends_handle (Program.ends_bind (Program.ends_bind (Program.ends_mono ?_
    (ends_replies (Discipline.resolvePolicyAsync_looksUp (reference.recalls loaded) _ _)))))
  rintro ending ⟨found, rfl, looked⟩
  cases found with
  | none => exact .notFound rfl looked
  | some policy =>
    have registered : reference.RegistersFor context policy := looked
    refine Program.ends_mono ?_ (verifyCaller_decided named policy)
    rintro ending (rfl | ⟨⟨fault, rfl⟩, unanswered⟩)
    · dsimp only
      cases decided : reference.decision context policy with
      | answered status text => exact .byRows policy registered (by rw [decided]; exact rfl)
      | admitted authorized clientId client =>
        refine Program.ends_mono ?_ (ends_replies
          (Discipline.forward_looksUp (reference.recalls loaded) context proxyResponse authorized client))
        rintro ending ⟨decrypting, heading, encrypting, rfl, looks⟩
        refine .byRows policy registered ?_
        rw [decided]
        refine ⟨decrypting, heading, encrypting, rfl, fun stage member => ?_⟩
        exact uses_lookup registered (looks stage member)
    · exact failing unanswered

end Requests

section Runs

/-- Every query of a request's checks is answered. -/
def AnswersChecks (index : Nat) (calls : Calls) (move : Move Change Actor) : Prop :=
  ∀ act ∈ calls.acts move, act.1 = index →
    match act.2 with
    | .query call => checks call = true → calls.shared.repositoryFault call = none
    | _ => True

/-- The process and its calls keep to the reference. -/
abbrev Disciplined (reference : Reference) (loaded : Prop) (calls : Calls) : Prop :=
  Honoured (reference.discipline loaded).Fits (fun _ => (reference.discipline loaded).Answers)
    (fun _ => (reference.discipline loaded).Permits) calls

/-- Some call has published a snapshot. -/
def HasPublished (calls : Calls) : Prop :=
  ∃ index snapshot, (index, Action.publish snapshot) ∈ calls.log

/-- The process keeps to the reference and has a complete snapshot once one has been
published. -/
structure Loading (reference : Reference) (calls : Calls) : Prop where
  disciplined : reference.Disciplined False calls
  complete : HasPublished calls → reference.Complete calls.shared.policySnapshot

theorem loading_move {calls : Calls} (loading : reference.Loading calls)
    (steady : (reference.discipline False).Steady calls.shared) (move : Move Change Actor) :
    reference.Loading ((process reference.platform).move move calls) := by
  refine ⟨(reference.discipline False).contract.move loading.disciplined steady
    (fun _ _ _ => trivial) move, ?_⟩
  cases move with
  | changes change => cases change <;> exact loading.complete
  | starts actor => exact loading.complete
  | advances index =>
    rcases move_advances (process reference.platform) calls index with
      ⟨origin, action, next, asking, moved⟩ | idle
    · rw [moved]
      rintro ⟨publisher, snapshot, logged⟩
      have permits := loading.disciplined.permits asking
      cases action with
      | publish latest => exact permits
      | _ =>
        refine loading.complete ⟨publisher, snapshot, ?_⟩
        rcases List.mem_append.mp logged with earlier | now
        · exact earlier
        · cases List.mem_singleton.mp now
    · rw [idle]
      exact loading.complete

/-- As long as the rows stay, a snapshot that has been published is complete. -/
theorem loading_run {gateway : Gateway} {moves : List (Move Change Actor)}
    (fits : (reference.discipline False).Fits gateway)
    (steady : Runs.Along (process reference.platform).move
      (fun calls _ => (reference.discipline False).Steady calls.shared) moves (World.idle gateway)) :
    reference.Loading (reached reference.platform gateway moves) := by
  have unpublished : HasPublished (World.idle gateway : Calls) →
      reference.Complete gateway.policySnapshot := by
    rintro ⟨index, snapshot, logged⟩
    cases logged
  refine Runs.invariant_run ?_ steady ⟨honoured_idle fits, unpublished⟩
  exact fun _ move loading stays => loading_move loading stays move

/-- What calls guarantee they guarantee under a loaded snapshot too. -/
theorem disciplined_loaded {calls : Calls} (honoured : reference.Disciplined False calls) :
    reference.Disciplined (reference.Complete calls.shared.policySnapshot) calls := by
  refine ⟨⟨honoured.shared.memory, honoured.shared.store, fun routeKey => ?_⟩,
    fun thread member => ?_⟩
  · have only := honoured.shared.snapshot routeKey
    cases found : calls.shared.policySnapshot.tryGetValue routeKey with
    | some policy =>
      rw [found] at only
      exact only
    | none => exact fun complete policy registered => complete.covers routeKey policy registered found
  · refine Program.asks_mono (fun action received answered => ?_) (fun _ permits => permits)
      (honoured.asking thread member)
    cases action with
    | readSnapshot routeKey =>
      cases received with
      | some policy => exact answered
      | none => exact False.elim
    | _ => exact answered

/-- A request that receives what fits receives replies to its checks, if they are
answered. -/
theorem receives_replies {index : Nat} {calls : Calls} {move : Move Change Actor}
    (receives : Receives (reference.discipline loaded).Answers (process reference.platform) index calls
      move)
    (answers : answered → AnswersChecks index calls move) :
    Receives (reference.Replies loaded answered) (process reference.platform) index calls move := by
  cases move with
  | advances advancing =>
    rintro origin action next rfl asking
    refine ⟨receives origin action next rfl asking, fun complete => ?_⟩
    have reachable := answers complete _ (acts_asking asking) rfl
    cases action with
    | query call =>
      intro check
      refine ⟨rowsOf calls.shared.database calls.shared.now call, ?_⟩
      show answerQuery call calls.shared = _
      simp [answerQuery, reachable check]
    | _ => trivial
  | _ => trivial

/-- A request of the reference's caller that receives what fits is decided by the
rows. -/
theorem decided_run (named : reference.caller = callerOf reference.platform context)
    {proxyResponse : Option ProxyResponse} {index : Nat} {origin : Gateway} {started : Calls}
    {moves : List (Move Change Actor)}
    (found : started.threads[index]? = some ⟨origin, serve reference.platform context proxyResponse⟩)
    (receives : Runs.Along (process reference.platform).move
      (Receives (reference.discipline loaded).Answers (process reference.platform) index) moves started)
    {ending : Except Fault Outcome}
    (ended : (after reference.platform moves started).ending index = some ending) :
    reference.Decided context loaded
      (Runs.Along (process reference.platform).move (AnswersChecks index) moves started) ending := by
  generalize answers : Runs.Along (process reference.platform).move (AnswersChecks index) moves
    started = answered
  have replies : Runs.Along (process reference.platform).move (Receives
      (reference.Replies loaded answered) (process reference.platform) index) moves started := by
    by_cases complete : answered
    · rw [← answers] at complete
      exact Runs.along_mono (fun _ _ both => receives_replies both.1 fun _ => both.2)
        (Runs.along_and receives complete)
    · exact Runs.along_mono (fun _ _ fitting =>
        receives_replies fitting fun holds => absurd holds complete) receives
  exact ends_run found (serve_decided named proxyResponse) replies ended

end Runs

end Reference

/-- A request is answered as the rows say, from a snapshot that is loaded as soon as
one has been published. -/
structure Transparent (reference : Reference) (context : HttpContext) (before : Calls) (index : Nat)
    (started : Calls) (moves : List (Move Change Actor)) : Prop where
  loads : Reference.HasPublished before → reference.Complete before.shared.policySnapshot
  decided : ∀ ending, (after reference.platform moves started).ending index = some ending →
    reference.Decided context (reference.Complete before.shared.policySnapshot)
      (Runs.Along (process reference.platform).move (Reference.AnswersChecks index) moves started) ending

/-- A request of the reference's caller is answered as the rows say. -/
theorem Reference.transparent (reference : Reference) {context : HttpContext}
    (named : reference.caller = callerOf reference.platform context)
    (proxyResponse : Option ProxyResponse) (gateway : Gateway) (earlier moves : List (Move Change Actor))
    (fits : (reference.discipline False).Fits gateway)
    (steady : Runs.Along (process reference.platform).move
      (fun calls _ => (reference.discipline False).Steady calls.shared)
      (earlier ++ .starts (.requests context proxyResponse) :: moves) (World.idle gateway)) :
    Transparent reference context (reached reference.platform gateway earlier)
      (reached reference.platform gateway earlier).threads.length
      (starting reference.platform (.requests context proxyResponse)
        (reached reference.platform gateway earlier)) moves := by
  obtain ⟨before, stays, later⟩ := Runs.along_append.mp steady
  have loading := loading_run fits before
  refine ⟨loading.complete, fun ending ended => ?_⟩
  have started := (reference.discipline _).contract.move (disciplined_loaded loading.disciplined)
    stays (fun _ _ _ => trivial) (.starts (.requests context proxyResponse))
  have found : (starting reference.platform (.requests context proxyResponse)
      (reached reference.platform gateway earlier)).threads[(reached reference.platform gateway
        earlier).threads.length]? = some ⟨(reached reference.platform gateway earlier).shared,
          serve reference.platform context proxyResponse⟩ :=
    List.getElem?_concat_length
  have undisturbed : Runs.Along (process reference.platform).move (fun calls _ =>
      (reference.discipline False).Steady calls.shared ∧ calls.Lasting (fun _ _ => True)) moves
        (starting reference.platform (.requests context proxyResponse)
          (reached reference.platform gateway earlier)) :=
    Runs.along_mono (fun _ _ holds => ⟨holds, fun _ _ _ => trivial⟩) later
  exact decided_run named found
    ((reference.discipline _).contract.receives_along started found undisturbed) ended

/-- The request of a caller, the only one whose rows matter, over given rows. -/
def Reference.of (platform : Platform) (database : Database) (now : Nat) (context : HttpContext) :
    Reference where
  platform := platform
  database := database
  now := now
  caller := callerOf platform context

/-- While the registry, the caller's row and the caller's permissions stay as they
are, a request is answered as the rows alone say, whatever else happens. -/
theorem caches_transparent (platform : Platform) (database : Database) (now : Nat)
    (context : HttpContext) (proxyResponse : Option ProxyResponse) (gateway : Gateway)
    (earlier moves : List (Move Change Actor))
    (fits : ((Reference.of platform database now context).discipline False).Fits gateway)
    (steady : Runs.Along (process platform).move
      (fun calls _ =>
        ((Reference.of platform database now context).discipline False).Steady calls.shared)
      (earlier ++ .starts (.requests context proxyResponse) :: moves) (World.idle gateway)) :
    Transparent (Reference.of platform database now context) context
      (reached platform gateway earlier) (reached platform gateway earlier).threads.length
      (starting platform (.requests context proxyResponse) (reached platform gateway earlier))
      moves :=
  (Reference.of platform database now context).transparent rfl proxyResponse gateway earlier moves
    fits steady

section Undisturbed

variable {platform : Platform} {database : Database} {context : HttpContext} {now : Nat}

/-- The rows of a database are steady while it is the one that is read and its grants
are what they were. -/
theorem steady_same {gateway : Gateway} (content : gateway.database = database)
    (grants : ∀ id, database.authorizedEndpointIds gateway.now id =
      database.authorizedEndpointIds now id) (loaded : Prop) :
    ((Reference.of platform database now context).discipline loaded).Steady gateway := by
  intro call
  rw [content]
  cases call with
  | services => exact fun _ => Iff.rfl
  | products => exact fun _ => Iff.rfl
  | endpoints serviceId => exact fun _ => Iff.rfl
  | client clientId => exact fun _ => rfl
  | enabledClients => exact fun client listed _ => (Database.mem_enabledClients_iff _ _).mp listed
  | authorizedEndpointIds id =>
    rintro client - rfl endpointId
    show endpointId ∈ database.authorizedEndpointIds gateway.now client.id ↔ _
    rw [grants]
    exact Iff.rfl
  | userProfile userId serviceId => trivial

/-- A move that changes neither the database nor the clock. -/
def undisturbing : Move Change Actor → Bool
  | .changes (.database _) => false
  | .changes (.tiers change) => change.elapsed == 0
  | _ => true

/-- While neither changes the rows are steady. -/
theorem steady_undisturbed {calls : Calls} (content : calls.shared.database = database)
    (time : calls.shared.now = now) {moves : List (Move Change Actor)}
    (undisturbed : ∀ move ∈ moves, undisturbing move = true) :
    Runs.Along (process platform).move
      (fun calls _ =>
        ((Reference.of platform database now context).discipline False).Steady calls.shared) moves
      calls := by
  induction moves generalizing calls with
  | nil => trivial
  | cons move moves ih =>
    have kept : ((process platform).move move calls).shared.database = database ∧
        ((process platform).move move calls).shared.now = now := by
      cases move with
      | changes change =>
        have quiet := undisturbed _ List.mem_cons_self
        cases change with
        | database replaced => cases quiet
        | repositories fault => exact ⟨content, time⟩
        | tiers decay =>
          have still : decay.elapsed = 0 := eq_of_beq quiet
          refine ⟨content, ?_⟩
          show calls.shared.cache.now + decay.elapsed = now
          rw [still]
          exact time
      | starts actor => exact ⟨content, time⟩
      | advances index =>
        rcases move_advances (process platform) calls index with
          ⟨origin, action, next, _, moved⟩ | idle
        · rw [moved]
          refine ⟨(execute_database action calls.shared).trans content, ?_⟩
          cases action with
          | cacheStore key value timeToLive => exact (Cache.insertStore_now ..).trans time
          | _ => exact time
        · rw [idle]
          exact ⟨content, time⟩
    exact ⟨steady_same content (fun id => by rw [time]) False, ih kept.1 kept.2 fun later member =>
      undisturbed later (List.mem_cons_of_mem move member)⟩

end Undisturbed

theorem caches_transparent_refreshed :
    Transparent (Reference.of plainPlatform (PolicyRefreshService.grantedRegistry true) 0
        PolicyRefreshService.grantedRequest) PolicyRefreshService.grantedRequest
      (reached plainPlatform (Gateway.started (PolicyRefreshService.grantedRegistry true))
        (.starts .cycles :: List.replicate 12 (.advances 0))) 1 requestLoaded refreshedMeanwhile := by
  have one : (reached plainPlatform (Gateway.started (PolicyRefreshService.grantedRegistry true))
      (.starts .cycles :: List.replicate 12 (.advances 0))).threads.length = 1 := by
    decide
  have undisturbed : ∀ move ∈ (.starts .cycles :: List.replicate 12 (.advances 0)) ++
      .starts (.requests PolicyRefreshService.grantedRequest none) :: refreshedMeanwhile,
        undisturbing move = true := by
    decide
  have transparent := caches_transparent plainPlatform (PolicyRefreshService.grantedRegistry true) 0
    PolicyRefreshService.grantedRequest none
    (Gateway.started (PolicyRefreshService.grantedRegistry true))
    (.starts .cycles :: List.replicate 12 (.advances 0)) refreshedMeanwhile
    (Discipline.fits_started (fun _ => False.elim) _) (steady_undisturbed rfl rfl undisturbed)
  rwa [one] at transparent

end ApiGateway.Concurrent
