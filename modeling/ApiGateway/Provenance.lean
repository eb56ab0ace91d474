import ApiGateway.CacheTransparency
import ApiGateway.ProcessFleet

/-!
# Where an admission comes from

Rows come and go while requests, refreshes and cycles run, and cached copies
outlive them, in the store even the processes that wrote them. Still nothing is
served out of thin air: whatever any process has cached or published was read from
the database at some time of the run. So a request that is served as a client is
served on an exposed endpoint, an enabled client and a permission, each of which was
in force at some time since the processes were started over an empty store, though
not necessarily all at the same time.
-/

namespace ApiGateway.Concurrent

open TwoTier Interleaving PolicyResolver

section Sources

variable (platform : Platform) (seen : Database → Nat → Prop)

/-- A policy is of rows that were enabled and is registered under a key of its
endpoint. -/
structure Exposed (routeKey : Text) (policy : EndpointPolicy) : Prop
    extends EnabledIn (fun database => ∃ now, seen database now) policy where
  named : ∃ method ∈ methodsOf policy.endpoint,
    routeKey = routeKeyOf platform method (fullPathOf policy.service policy.endpoint)
  built : policy = buildEndpointPolicy platform policy.product policy.service policy.endpoint

/-- A repository call returned these rows at some time. -/
def Returned (call : RepositoryCall) (rows : Rows call) : Prop :=
  ∃ database now, seen database now ∧ rows = rowsOf database now call

/-- A cached value was read from the database at some time. -/
structure Sourced (key : Text) (value : CacheValue) : Prop where
  policy : ∀ routeKey, key = PolicyCache.policyKey routeKey →
    ∃ policy, value = .policy policy ∧ Exposed platform seen routeKey policy
  client : ∀ clientId, key = PolicyCache.clientKey clientId →
    ∃ client, value = .client client ∧ Returned seen (.client clientId) (some client)
  permissions : ∀ id, key = PolicyCache.permissionKey id →
    ∃ endpointIds, value = .permissions endpointIds ∧
      Returned seen (.authorizedEndpointIds id) endpointIds

variable {platform seen}

theorem sourced_policy {routeKey : Text} {policy : EndpointPolicy}
    (exposed : Exposed platform seen routeKey policy) :
    Sourced platform seen (PolicyCache.policyKey routeKey) (.policy policy) where
  policy := fun other same => by
    rw [← PolicyCache.policyKey_injective same]
    exact ⟨policy, rfl, exposed⟩
  client := fun _ same => absurd same (PolicyCache.policyKey_ne_clientKey _ _)
  permissions := fun _ same => absurd same (PolicyCache.policyKey_ne_permissionKey _ _)

theorem sourced_client {clientId : Text} {client : Client}
    (returned : Returned seen (.client clientId) (some client)) :
    Sourced platform seen (PolicyCache.clientKey clientId) (.client client) where
  policy := fun _ same => absurd same.symm (PolicyCache.policyKey_ne_clientKey _ _)
  client := fun other same => by
    rw [← PolicyCache.clientKey_injective same]
    exact ⟨client, rfl, returned⟩
  permissions := fun _ same => absurd same (PolicyCache.clientKey_ne_permissionKey _ _)

theorem sourced_permissions {id : Guid} {endpointIds : List Guid}
    (returned : Returned seen (.authorizedEndpointIds id) endpointIds) :
    Sourced platform seen (PolicyCache.permissionKey id) (.permissions endpointIds) where
  policy := fun _ same => absurd same.symm (PolicyCache.policyKey_ne_permissionKey _ _)
  client := fun _ same => absurd same.symm (PolicyCache.clientKey_ne_permissionKey _ _)
  permissions := fun other same => by
    rw [← PolicyCache.permissionKey_injective same]
    exact ⟨endpointIds, rfl, returned⟩

theorem sourced_userProfile (userId : Text) (serviceId : Option Guid) (profile : UserProfile) :
    Sourced platform seen (PolicyCache.userProfileKey userId serviceId) (.userProfile profile) where
  policy := fun _ same => absurd same.symm (PolicyCache.policyKey_ne_userProfileKey _ _ _)
  client := fun _ same => absurd same.symm (PolicyCache.clientKey_ne_userProfileKey _ _ _)
  permissions := fun _ same => absurd same.symm (PolicyCache.permissionKey_ne_userProfileKey _ _ _)

/-- A policy that a refresh builds from returned rows is of enabled rows. -/
theorem exposed_read {services : List Service} {products : List Product} {service : Service}
    {product : Product} {endpoints : List Endpoint} {endpoint : Endpoint} {method : Text}
    (servicesRead : Returned seen .services services) (productsRead : Returned seen .products products)
    (member : service ∈ services) (owned : productOf products service = some product)
    (endpointsRead : Returned seen (.endpoints service.id) endpoints) (listed : endpoint ∈ endpoints)
    (named : method ∈ methodsOf endpoint) :
    Exposed platform seen (routeKeyOf platform method (fullPathOf service endpoint))
      (buildEndpointPolicy platform product service endpoint) := by
  obtain ⟨servicesFrom, servicesAt, servicesSeen, rfl⟩ := servicesRead
  obtain ⟨productsFrom, productsAt, productsSeen, rfl⟩ := productsRead
  obtain ⟨endpointsFrom, endpointsAt, endpointsSeen, rfl⟩ := endpointsRead
  have owner : product.id = service.productId := by simpa using List.find?_some owned
  exact
    { service := ⟨servicesFrom, ⟨servicesAt, servicesSeen⟩, member⟩
      product := ⟨productsFrom, ⟨productsAt, productsSeen⟩, List.mem_of_find?_eq_some owned⟩
      endpoint := ⟨endpointsFrom, ⟨endpointsAt, endpointsSeen⟩, listed⟩
      owned := owner
      named := ⟨method, named, rfl⟩
      built := rfl }

variable (platform seen)

/-- Everything is read, cached and published as it was in the database at some time. -/
def provenance : Discipline where
  platform := platform
  FittingRows := Returned seen
  Fitting := Sourced platform seen
  Stored := Sourced platform seen
  Remembered := Sourced platform seen
  Built := Exposed platform seen
  Registers := Exposed platform seen
  Lookup := fun routeKey found => ∀ policy ∈ found, Exposed platform seen routeKey policy
  Publishable := fun snapshot => ∀ routeKey policy,
    snapshot.tryGetValue routeKey = some policy → Exposed platform seen routeKey policy
  stored := fun _ _ sourced => sourced
  remembered := fun _ _ sourced => sourced
  policies := fun _ _ exposed => sourced_policy exposed
  clients := fun _ _ returned => sourced_client returned
  permissions := fun _ _ returned => sourced_permissions returned
  profiles := fun userId serviceId profile _ => sourced_userProfile userId serviceId profile
  listed := by
    rintro clients ⟨database, now, was, rfl⟩ client member
    exact ⟨database, now, was, ((Database.mem_enabledClients_iff database client).mp member).symm⟩
  built := fun _ _ exposed => exposed
  found := fun _ policy => ⟨fun exposed => exposed policy rfl,
    fun exposed _ same => Option.some.inj same ▸ exposed⟩
  registers := fun _ _ _ _ _ _ _ servicesRead productsRead member owned endpointsRead listed named =>
    exposed_read servicesRead productsRead member owned endpointsRead listed named
  publishes := fun _ _ _ _ _ only _ => only
  looksUp := fun _ only routeKey policy found => only routeKey policy found

theorem provenance_recalls : (provenance platform seen).Recalls := by
  intro routeKey policy sourced
  obtain ⟨built, same, exposed⟩ := Sourced.policy sourced routeKey rfl
  exact CacheValue.policy.inj same ▸ exposed

end Sources

/-- The caller a request was served as was authorised: no client on an endpoint that
requires no token, or an enabled client of the presented id with a permission. -/
def AuthorisedCaller (platform : Platform) (seen : Database → Nat → Prop) (context : HttpContext)
    (policy : EndpointPolicy) : Option Client → Prop
  | none => callerOf platform context = none ∧ policy.requiresJwt = false
  | some client => ∃ clientId ∈ callerOf platform context,
      Returned seen (.client clientId) (some client) ∧
        ∃ endpointIds, Returned seen (.authorizedEndpointIds client.id) endpointIds ∧
          policy.endpoint.id ∈ endpointIds

/-- A request was served with authority. -/
structure Authorised (platform : Platform) (seen : Database → Nat → Prop) (context : HttpContext)
    (policy : EndpointPolicy) (client : Option Client) : Prop where
  exposed : Exposed platform seen (requestKey platform context.path context.method) policy
  authenticated : policy.requiresJwt = true → Middleware.unauthenticated context.user = false
  caller : AuthorisedCaller platform seen context policy client

/-- If a call has served its request, it was with authority, and every policy its
stages used was exposed. -/
def ServesAuthorised (platform : Platform) (seen : Database → Nat → Prop) (context : HttpContext)
    (ending : Except Fault Outcome) : Prop :=
  ∀ authorized client decrypting heading encrypting,
    ending = .ok (.served authorized client decrypting heading encrypting) →
      Authorised platform seen context authorized client ∧
        ∀ stage ∈ [decrypting, heading, encrypting], ∀ policy ∈ stage,
          Exposed platform seen (requestKey platform context.path context.method) policy

section Requests

variable {platform : Platform} {seen : Database → Nat → Prop} {context : HttpContext}

/-- A client that is found was returned for the id at some time. -/
theorem lookupClient_returned (clientId : Text) :
    (lookupClient clientId).Ends (provenance platform seen).Answers (fun ending => ∀ client,
      ending = .ok (some client) → Returned seen (.client clientId) (some client)) := by
  refine Program.ends_bind (Program.ends_mono ?_ (Discipline.read_fits _ _))
  rintro ending ⟨found, rfl, fits⟩
  cases found with
  | some cached =>
    obtain ⟨value, sourced, viewed⟩ := fits cached rfl
    rw [CacheValue.asClient_eq_some_iff] at viewed
    obtain ⟨client, same, returned⟩ := Sourced.client sourced _ rfl
    obtain rfl := CacheValue.client.inj (viewed.symm.trans same)
    rintro _ equal
    cases equal
    exact returned
  | none =>
    refine Program.ends_bind (Program.ends_mono ?_ (Discipline.query_fits _))
    intro ending returned
    cases ending with
    | error fault => exact fun _ same => nomatch same
    | ok rows =>
      cases rows with
      | none => exact fun _ same => nomatch same
      | some loaded =>
        rintro _ _ _ _ client equal
        cases equal
        exact returned _ rfl

/-- A permission set that is found was returned for the client at some time. -/
theorem lookupPermissions_returned (id : Guid) :
    (lookupPermissions id).Ends (provenance platform seen).Answers (fun ending => ∀ endpointIds,
      ending = .ok endpointIds → Returned seen (.authorizedEndpointIds id) endpointIds) := by
  refine Program.ends_bind (Program.ends_mono ?_ (Discipline.read_fits _ _))
  rintro ending ⟨found, rfl, fits⟩
  cases found with
  | some cached =>
    obtain ⟨value, sourced, viewed⟩ := fits cached rfl
    rw [CacheValue.asPermissions_eq_some_iff] at viewed
    obtain ⟨endpointIds, same, returned⟩ := Sourced.permissions sourced _ rfl
    obtain rfl := CacheValue.permissions.inj (viewed.symm.trans same)
    exact fun _ equal => Except.ok.inj equal ▸ returned
  | none =>
    refine Program.ends_bind (Program.ends_mono ?_ (Discipline.query_fits _))
    intro ending returned
    cases ending with
    | error fault => exact fun _ same => nomatch same
    | ok rows => exact fun _ _ _ _ _ equal => Except.ok.inj equal ▸ returned rows rfl

/-- Whoever the checks admit is authenticated where that is required, and an
authorised caller. -/
theorem verifyCaller_authorised (policy : EndpointPolicy) :
    (verifyCaller platform.caseMap context policy).Ends (provenance platform seen).Answers
      (fun ending => ∀ admitted clientId client,
        ending = .ok (.admitted admitted clientId client) → admitted = policy ∧
          (policy.requiresJwt = true → Middleware.unauthenticated context.user = false) ∧
            AuthorisedCaller platform seen context policy client) := by
  unfold verifyCaller
  split
  · rintro _ _ _ ⟨⟩
  · next passes =>
    have authenticated : policy.requiresJwt = true →
        Middleware.unauthenticated context.user = false := by
      intro required
      simpa [required] using passes
    dsimp only
    split
    · rintro _ _ _ ⟨⟩
    · next named =>
      cases presented : (context.user.clientId platform.caseMap).filter
          (fun value => !value.isEmpty) with
      | none =>
        rintro _ _ _ same
        cases same
        refine ⟨rfl, authenticated, presented, ?_⟩
        have absent : Text.isNullOrEmpty (context.user.clientId platform.caseMap) = true := by
          cases claimed : context.user.clientId platform.caseMap with
          | none => rfl
          | some value => simpa [claimed, Text.isNullOrEmpty] using presented
        simpa [absent] using named
      | some clientId =>
        dsimp only
        refine Program.ends_bind (Program.ends_mono ?_ (lookupClient_returned clientId))
        intro ending returned
        cases ending with
        | error fault => rintro _ _ _ ⟨⟩
        | ok found =>
          cases found with
          | none => rintro _ _ _ ⟨⟩
          | some client =>
            refine Program.ends_bind (Program.ends_mono ?_ (lookupPermissions_returned client.id))
            intro ending granted
            cases ending with
            | error fault => rintro _ _ _ ⟨⟩
            | ok permissions =>
              dsimp only
              split
              · next listed =>
                rintro _ _ _ same
                cases same
                exact ⟨rfl, authenticated, clientId, presented, returned client rfl, permissions,
                  granted permissions rfl, listed⟩
              · rintro _ _ _ ⟨⟩

/-- A request that is served is served with authority. -/
theorem serve_authorised (proxyResponse : Option ProxyResponse) :
    (serve platform context proxyResponse).Ends (provenance platform seen).Answers
      (ServesAuthorised platform seen context) := by
  have answered : ∀ status text,
      ServesAuthorised platform seen context (.ok (.answered status text)) :=
    fun _ _ _ _ _ _ _ same => nomatch same
  refine Program.ends_handle (Program.ends_bind (Program.ends_bind (Program.ends_mono ?_
    (Discipline.resolvePolicyAsync_looksUp (provenance_recalls platform seen) _ _))))
  rintro ending ⟨found, rfl, exposed⟩
  cases found with
  | none => exact answered _ _
  | some policy =>
    refine Program.ends_mono ?_ (verifyCaller_authorised policy)
    intro ending admits
    cases ending with
    | error fault => exact answered _ _
    | ok decision =>
      cases decision with
      | answered status text => exact answered status text
      | admitted admitted clientId client =>
        obtain ⟨rfl, authenticated, caller⟩ := admits _ _ _ rfl
        refine Program.ends_mono ?_
          (Discipline.forward_looksUp (provenance_recalls platform seen) context proxyResponse admitted
            client)
        rintro ending ⟨decrypting, heading, encrypting, rfl, uses⟩
        rintro _ _ _ _ _ same
        cases same
        exact ⟨⟨exposed _ rfl, authenticated, caller⟩, uses⟩

end Requests

section Runs

variable {Process : Type} [DecidableEq Process]

/-- The database had a content at a time of a run. -/
def SeenDuring (platform : Platform) (database : Database)
    (moves : List (Move (Gateways.Change Process) (Process × Actor))) (content : Database)
    (now : Nat) : Prop :=
  ∃ during, during <+: moves ∧ (fleetReached platform database during).shared.database = content ∧
    (fleetReached platform database during).shared.caches.now = now

/-- If a call has ended by serving its request, it has done so with authority. -/
def ServedOnlyAuthorised (platform : Platform) (seen : Database → Nat → Prop) (context : HttpContext)
    (index : Nat) (calls : FleetCalls Process) : Prop :=
  ∀ ending ∈ calls.ending index, ServesAuthorised platform seen context ending

/-- Whatever changes and whichever process serves it, a request is served only on an
endpoint, as a client and with a permission that the database has had in force since
the processes were started over an empty store. -/
theorem served_was_authorised (platform : Platform) (database : Database) (process : Process)
    (context : HttpContext) (proxyResponse : Option ProxyResponse)
    (earlier moves : List (Move (Gateways.Change Process) (Process × Actor))) :
    ServedOnlyAuthorised platform
      (SeenDuring platform database
        (earlier ++ .starts (process, .requests context proxyResponse) :: moves))
      context (fleetReached platform database earlier).threads.length
      (fleetReached platform database
        (earlier ++ .starts (process, .requests context proxyResponse) :: moves)) := by
  intro ending ended
  generalize sources : SeenDuring platform database
    (earlier ++ .starts (process, .requests context proxyResponse) :: moves) = seen
  have vacant : ∀ routeKey, (provenance platform seen).Lookup routeKey none :=
    fun _ _ absent => nomatch absent
  have contract := (provenance platform seen).fleetContract Process vacant
  have steady : Runs.Along (processes platform).move
      (fun calls _ => (∀ each, (provenance platform seen).Steady (calls.shared.view each)) ∧
        calls.Lasting (fun _ _ => Process → True))
      (earlier ++ .starts (process, .requests context proxyResponse) :: moves)
      (World.idle (Gateways.started database)) := by
    refine Runs.along_mono ?_ (Runs.along_prefixes _ _)
    rintro _ _ ⟨during, part, rfl⟩
    exact ⟨fun each call => ⟨_, _, sources ▸ ⟨during, part, rfl, rfl⟩, rfl⟩, fun _ _ _ _ => trivial⟩
  obtain ⟨before, stays, later⟩ := Runs.along_append.mp steady
  have started := contract.move (contract.run
    (honoured_idle fun each => Discipline.fits_fleetStarted vacant database each) before) stays.1 stays.2
      (.starts (process, .requests context proxyResponse))
  have found : ((processes platform).move (.starts (process, .requests context proxyResponse))
      (fleetReached platform database earlier)).threads[(fleetReached platform
        database earlier).threads.length]? =
          some ⟨(fleetReached platform database earlier).shared,
            (serve platform context proxyResponse).atMember process⟩ :=
    List.getElem?_concat_length
  rw [fleetReached, Runs.run_append] at ended
  exact ends_run found (Program.ends_atMember (fun _ _ answered => answered)
    (serve_authorised proxyResponse)) (contract.receives_along started found later) ended

end Runs

end ApiGateway.Concurrent
