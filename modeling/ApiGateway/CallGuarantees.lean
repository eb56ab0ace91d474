import ApiGateway.KeyOwnership
import ApiGateway.Library.Fading
import ApiGateway.Library.RelyGuarantee
import ApiGateway.StagePolicies

/-!
# What the calls of a process guarantee

The requests, refreshes and cycles of a process read and write the cache and the
snapshot at the same time. A discipline says which rows a repository may return,
which values may be cached under a key, and which snapshots may be published. If
cached and published values are derived from rows as the calls derive them, every
call relies on what it reads to keep to the discipline and guarantees that what
it writes does.
-/

namespace ApiGateway.Concurrent

open TwoTier Interleaving PolicyResolver

/-- A later snapshot has a policy under every key of an earlier one. -/
def Extends (earlier later : Dictionary Text EndpointPolicy) : Prop :=
  ∀ routeKey, earlier.tryGetValue routeKey ≠ none → later.tryGetValue routeKey ≠ none

/-- A snapshot has a policy under every key of some endpoints. -/
def HasKeys (platform : Platform) (service : Service) (endpoints : List Endpoint)
    (snapshot : Dictionary Text EndpointPolicy) : Prop :=
  ∀ endpoint ∈ endpoints, ∀ method ∈ methodsOf endpoint,
    snapshot.tryGetValue (routeKeyOf platform method (fullPathOf service endpoint)) ≠ none

/-- Rows; values to write to the cache, to find in the store and to find in memory;
policies that a refresh builds and those that a snapshot has; answers of a published
snapshot and whole snapshots, each derived from the ones before. -/
structure Discipline where
  platform : Platform
  FittingRows : (call : RepositoryCall) → Rows call → Prop
  Fitting : Text → CacheValue → Prop
  Stored : Text → CacheValue → Prop
  Remembered : Text → CacheValue → Prop
  Built : Text → EndpointPolicy → Prop
  Registers : Text → EndpointPolicy → Prop
  Lookup : Text → Option EndpointPolicy → Prop
  Publishable : Dictionary Text EndpointPolicy → Prop
  stored : ∀ key value, Fitting key value → Stored key value
  remembered : ∀ key value, Stored key value → Remembered key value
  policies : ∀ routeKey policy, Registers routeKey policy →
    Fitting (PolicyCache.policyKey routeKey) (.policy policy)
  clients : ∀ clientId client, FittingRows (.client clientId) (some client) →
    Fitting (PolicyCache.clientKey clientId) (.client client)
  permissions : ∀ id endpointIds, FittingRows (.authorizedEndpointIds id) endpointIds →
    Fitting (PolicyCache.permissionKey id) (.permissions endpointIds)
  profiles : ∀ userId serviceId profile,
    FittingRows (.userProfile userId serviceId) (some profile) →
      Fitting (PolicyCache.userProfileKey userId serviceId) (.userProfile profile)
  listed : ∀ clients, FittingRows .enabledClients clients → ∀ client ∈ clients,
    FittingRows (.client client.clientId) (some client)
  built : ∀ routeKey policy, Built routeKey policy → Registers routeKey policy
  found : ∀ routeKey policy, Lookup routeKey (some policy) ↔ Registers routeKey policy
  registers : ∀ services products service product endpoints endpoint method,
    FittingRows .services services → FittingRows .products products →
      service ∈ services → productOf products service = some product →
        FittingRows (.endpoints service.id) endpoints → endpoint ∈ endpoints →
          method ∈ methodsOf endpoint →
            Built (routeKeyOf platform method (fullPathOf service endpoint))
              (buildEndpointPolicy platform product service endpoint)
  publishes : ∀ services products snapshot, FittingRows .services services →
    FittingRows .products products →
      (∀ routeKey policy, snapshot.tryGetValue routeKey = some policy → Built routeKey policy) →
        (∀ service ∈ services, ∀ product, productOf products service = some product →
          ∃ endpoints, FittingRows (.endpoints service.id) endpoints ∧
            HasKeys platform service endpoints snapshot) →
          Publishable snapshot
  looksUp : ∀ snapshot, Publishable snapshot → ∀ routeKey,
    Lookup routeKey (snapshot.tryGetValue routeKey)

namespace Discipline

/-- Calls cache and publish what the discipline allows. What they put into memory
they may have found in the store. -/
def Permits (discipline : Discipline) : Action → Prop
  | .cacheMemory key value => discipline.Stored key value
  | .cacheStore key value timeToLive => discipline.Fitting key value ∧ timeToLive = oneHour
  | .publish snapshot => discipline.Publishable snapshot
  | _ => True

/-- Calls read what the discipline allows. -/
def Answers (discipline : Discipline) : (action : Action) → Answer action → Prop
  | .readMemory key, received => ∀ value, received = some value → discipline.Remembered key value
  | .readStore key, received => ∀ value, received = some value → discipline.Stored key value
  | .readSnapshot routeKey, received => discipline.Lookup routeKey received
  | .query call, received => ∀ rows, received = .ok rows → discipline.FittingRows call rows
  | .cacheMemory _ _, _ | .cacheStore _ _ _, _ | .publish _, _ => True

/-- The database holds rows that may be returned. -/
def Steady (discipline : Discipline) (gateway : Gateway) : Prop :=
  ∀ call, discipline.FittingRows call (rowsOf gateway.database gateway.now call)

/-- Whatever is cached and published keeps to the discipline. -/
structure Fits (discipline : Discipline) (gateway : Gateway) : Prop where
  memory : ∀ key value, gateway.cache.inMemory key = some value → discipline.Remembered key value
  store : ∀ key value, gateway.cache.inStore key = some value → discipline.Stored key value
  snapshot : ∀ routeKey, discipline.Lookup routeKey (gateway.policySnapshot.tryGetValue routeKey)

/-- A call asks for permitted actions. -/
abbrev Keeps {α : Type} (discipline : Discipline) (routine : Routine α) : Prop :=
  routine.Asks discipline.Answers discipline.Permits

variable {discipline : Discipline}

/-- An answered query of rows that may be returned returns them. -/
theorem query_steady {call : RepositoryCall} {gateway : Gateway} (steady : discipline.Steady gateway)
    {rows : Rows call} (answered : answerQuery call gateway = .ok rows) :
    discipline.FittingRows call rows := by
  unfold answerQuery at answered
  split at answered
  · cases answered
  · exact Except.ok.inj answered ▸ steady call

section Caching

theorem query_fits (call : RepositoryCall) :
    (query call).Ends discipline.Answers (fun ending =>
      ∀ rows, ending = .ok rows → discipline.FittingRows call rows) :=
  fun _ answered => answered

theorem query_keeps (call : RepositoryCall) : discipline.Keeps (query call) :=
  Program.asks_ask trivial fun _ _ => trivial

theorem read_fits {α : Type} (view : CacheValue → Option α) (key : Text) :
    (read view key).Ends discipline.Answers (fun ending => ∃ found, ending = .ok found ∧
      ∀ result, found = some result →
        ∃ value, discipline.Remembered key value ∧ view value = some result) :=
  read_ends (fun value answered => answered value rfl)
    (fun value answered => discipline.remembered key value (answered value rfl))

theorem read_keeps {α : Type} (view : CacheValue → Option α) (key : Text) :
    discipline.Keeps (read view key) := by
  refine Program.asks_ask trivial fun remembered _ => ?_
  cases Option.bind remembered view with
  | some found => trivial
  | none =>
    refine Program.asks_ask trivial fun stored answered => ?_
    cases stored with
    | none => trivial
    | some value =>
      dsimp only
      cases view value with
      | none => trivial
      | some found => exact Program.asks_ask (answered value rfl) fun _ _ => trivial

theorem write_keeps {key : Text} {value : CacheValue} (fitting : discipline.Fitting key value) :
    discipline.Keeps (write key value oneHour) :=
  ⟨discipline.stored key value fitting, fun _ _ => ⟨⟨fitting, rfl⟩, fun _ _ => trivial⟩⟩

/-- A lookup through the cache caches what its query returns. -/
theorem cacheAside_keeps {α : Type} {fetch load : Routine (Option α)} {keep : α → Routine Unit} {loads : α → Prop}
    (fetches : discipline.Keeps fetch) (asks : discipline.Keeps load)
    (ends : load.Ends discipline.Answers
      (fun ending => ∀ value, ending = .ok (some value) → loads value))
    (keeps : ∀ value, loads value → discipline.Keeps (keep value)) :
    discipline.Keeps (Program.cacheAside fetch load keep) := by
  refine Program.asks_after fetches fun found => ?_
  cases found with
  | some value => trivial
  | none =>
    refine Program.asks_bind asks (Program.ends_mono ?_ ends)
    rintro ending fits answer rfl
    cases answer with
    | none => trivial
    | some value => exact Program.asks_after (keeps value (fits value rfl)) fun _ => trivial

end Caching

section Refreshes

/-- Whatever a snapshot under construction has was built. -/
def OnlyBuilt (discipline : Discipline) (snapshot : Dictionary Text EndpointPolicy) : Prop :=
  ∀ routeKey policy, snapshot.tryGetValue routeKey = some policy →
    discipline.Built routeKey policy

/-- A round extends the snapshot by policies it builds up to a goal. -/
def Builds (discipline : Discipline) (goal : Dictionary Text EndpointPolicy → Prop)
    (round : Dictionary Text EndpointPolicy → Routine (Dictionary Text EndpointPolicy)) : Prop :=
  ∀ newSnapshot, discipline.OnlyBuilt newSnapshot → discipline.Keeps (round newSnapshot) ∧
    (round newSnapshot).Ends discipline.Answers (fun ending => ∀ extended, ending = .ok extended →
      discipline.OnlyBuilt extended ∧ Extends newSnapshot extended ∧ goal extended)

theorem extends_refl (snapshot : Dictionary Text EndpointPolicy) : Extends snapshot snapshot :=
  fun _ present => present

theorem extends_trans {first second third : Dictionary Text EndpointPolicy}
    (former : Extends first second) (latter : Extends second third) : Extends first third :=
  fun routeKey present => latter routeKey (former routeKey present)

/-- A key that has been reached stays reached. -/
theorem hasKeys_extends {platform : Platform} {service : Service} {endpoints : List Endpoint}
    {earlier later : Dictionary Text EndpointPolicy} (has : HasKeys platform service endpoints earlier)
    (longer : Extends earlier later) : HasKeys platform service endpoints later :=
  fun endpoint listed method named => longer _ (has endpoint listed method named)

/-- A loop reaches the goals of all of its rounds, if they stay reached. -/
theorem builds_foldlM {ι : Type} {goal : ι → Dictionary Text EndpointPolicy → Prop}
    {round : Dictionary Text EndpointPolicy → ι → Routine (Dictionary Text EndpointPolicy)}
    (stays : ∀ item earlier later, goal item earlier → Extends earlier later → goal item later)
    (items : List ι) (rounds : ∀ item ∈ items,
      discipline.Builds (goal item) (fun newSnapshot => round newSnapshot item)) :
    discipline.Builds (fun snapshot => ∀ item ∈ items, goal item snapshot)
      (fun newSnapshot => items.foldlM round newSnapshot) := by
  induction items with
  | nil =>
    refine fun newSnapshot only => ⟨trivial, fun extended same => ?_⟩
    rw [← Except.ok.inj same]
    exact ⟨only, extends_refl newSnapshot, fun _ member => nomatch member⟩
  | cons item rest ih =>
    intro newSnapshot only
    obtain ⟨asks, ends⟩ := rounds item List.mem_cons_self newSnapshot only
    have later := ih fun other member => rounds other (List.mem_cons_of_mem item member)
    simp only [List.foldlM_cons]
    refine ⟨Program.asks_bind asks (Program.ends_mono ?_ ends),
      Program.ends_bind (Program.ends_mono ?_ ends)⟩
    · exact fun ending kept extended same => (later extended (kept extended same).1).1
    · intro ending kept
      cases ending with
      | error fault => exact fun _ same => nomatch same
      | ok extended =>
        obtain ⟨registered, longer, reached⟩ := kept extended rfl
        refine Program.ends_mono ?_ (later extended registered).2
        intro ending built complete same
        obtain ⟨onlyThere, longest, rest⟩ := built complete same
        refine ⟨onlyThere, extends_trans longer longest, fun which member => ?_⟩
        rcases List.mem_cons.mp member with rfl | other
        · exact stays _ _ _ reached longest
        · exact rest which other

theorem registerMethod_builds {policy : EndpointPolicy} {fullPath method : Text}
    (built : discipline.Built (routeKeyOf discipline.platform method fullPath) policy) :
    discipline.Builds
      (fun snapshot =>
        snapshot.tryGetValue (routeKeyOf discipline.platform method fullPath) ≠ none)
      (fun newSnapshot =>
        registerMethod discipline.platform policy fullPath newSnapshot method) := by
  intro newSnapshot only
  have caches := write_keeps (discipline.policies _ _ (discipline.built _ _ built))
  refine ⟨Program.asks_after caches fun _ => trivial, ?_⟩
  intro _ _ _ _ extended same
  obtain rfl := Except.ok.inj same
  refine ⟨fun routeKey found present => ?_, fun routeKey present => ?_, ?_⟩
  · rw [Dictionary.tryGetValue_set] at present
    split at present
    · next here =>
      obtain rfl := Option.some.inj present
      exact here ▸ built
    · exact only routeKey found present
  · rw [Dictionary.tryGetValue_set]
    split
    · exact Option.some_ne_none policy
    · exact present
  · dsimp only
    rw [Dictionary.tryGetValue_set, if_pos rfl]
    exact Option.some_ne_none policy

/-- The keys of a service's endpoints are reached, for some rows its query may have
returned. -/
def Served (discipline : Discipline) (products : List Product) (service : Service)
    (snapshot : Dictionary Text EndpointPolicy) : Prop :=
  ∀ product, productOf products service = some product →
    ∃ endpoints, discipline.FittingRows (.endpoints service.id) endpoints ∧
      HasKeys discipline.platform service endpoints snapshot

theorem registerService_builds {services : List Service} {products : List Product}
    (servicesFit : discipline.FittingRows .services services)
    (productsFit : discipline.FittingRows .products products) {service : Service}
    (member : service ∈ services) :
    discipline.Builds (discipline.Served products service)
      (fun newSnapshot => registerService discipline.platform products newSnapshot service) := by
  unfold registerService
  cases owned : productOf products service with
  | none =>
    refine fun newSnapshot only => ⟨trivial, fun extended same => ?_⟩
    rw [← Except.ok.inj same]
    exact ⟨only, extends_refl newSnapshot, fun product found => nomatch owned.symm.trans found⟩
  | some product =>
    intro newSnapshot only
    have rounds : ∀ endpoints, discipline.FittingRows (.endpoints service.id) endpoints →
        discipline.Builds (HasKeys discipline.platform service endpoints) (fun newSnapshot =>
          endpoints.foldlM (registerEndpoint discipline.platform product service) newSnapshot) := by
      intro endpoints fits
      refine builds_foldlM ?_ endpoints fun endpoint listed => builds_foldlM ?_ (methodsOf endpoint)
        fun method named => registerMethod_builds (discipline.registers services products service
          product endpoints endpoint method servicesFit productsFit member owned fits listed named)
      · exact fun endpoint earlier later has longer method named => longer _ (has method named)
      · exact fun method earlier later has longer => longer _ has
    have read : (query (.endpoints service.id)).Ends discipline.Answers _ := query_fits _
    refine ⟨Program.asks_bind (query_keeps _) (Program.ends_mono
      (fun ending fits endpoints same => (rounds endpoints (fits endpoints same) _ only).1) read),
      Program.ends_bind (Program.ends_mono (fun ending fits => ?_) read)⟩
    cases ending with
    | error fault => exact fun _ same => nomatch same
    | ok endpoints =>
      refine Program.ends_mono ?_ (rounds endpoints (fits endpoints rfl) _ only).2
      intro ending built extended same
      obtain ⟨onlyThere, longer, has⟩ := built extended same
      exact ⟨onlyThere, longer, fun _ _ => ⟨endpoints, fits endpoints rfl, has⟩⟩

/-- A refresh caches and publishes what its queries give it. -/
theorem refreshPoliciesAsync_keeps : discipline.Keeps (refreshPoliciesAsync discipline.platform) := by
  refine Program.asks_handle ?_ fun _ => trivial
  refine Program.asks_bind (query_keeps .services) (Program.ends_mono ?_ (query_fits .services))
  rintro ending servicesFit services rfl
  refine Program.asks_bind (query_keeps .products) (Program.ends_mono ?_ (query_fits .products))
  rintro ending productsFit products rfl
  have vacant : discipline.OnlyBuilt Dictionary.empty := by
    intro routeKey policy found
    cases found
  have stays : ∀ service earlier later, discipline.Served products service earlier →
      Extends earlier later → discipline.Served products service later := by
    intro service earlier later served longer product owned
    obtain ⟨endpoints, fits, has⟩ := served product owned
    exact ⟨endpoints, fits, hasKeys_extends has longer⟩
  obtain ⟨asks, ends⟩ := builds_foldlM stays services
    (fun service member => registerService_builds (servicesFit services rfl)
      (productsFit products rfl) member) _ vacant
  refine Program.asks_bind asks (Program.ends_mono ?_ ends)
  rintro ending built newSnapshot rfl
  obtain ⟨only, _, served⟩ := built newSnapshot rfl
  exact Program.asks_ask (discipline.publishes services products newSnapshot
    (servicesFit services rfl) (productsFit products rfl) only served) fun _ _ => trivial

/-- A cycle also caches permissions and clients as it reads them. -/
theorem refreshAllAsync_keeps : discipline.Keeps (refreshAllAsync discipline.platform) := by
  have listed : loadEnabledClients.Ends discipline.Answers (fun ending =>
      ∀ clients, ending = .ok (some clients) → discipline.FittingRows .enabledClients clients) := by
    refine Program.ends_handle (Program.ends_bind (Program.ends_mono ?_ (query_fits .enabledClients)))
    intro ending fits
    cases ending with
    | ok rows =>
      rintro clients same
      cases same
      exact fits rows rfl
    | error fault => exact fun _ same => nomatch same
  have clients : discipline.Keeps refreshClientPermissionsAsync := by
    refine Program.asks_bind (Program.asks_handle (Program.asks_after (query_keeps .enabledClients)
      fun _ => trivial) fun _ => trivial) (Program.ends_mono ?_ listed)
    rintro ending fits answer rfl
    cases answer with
    | none => trivial
    | some clients =>
      have cached : ∀ client ∈ clients, discipline.Keeps (refreshClient client) := by
        intro client member
        refine Program.asks_handle ?_ fun _ => trivial
        refine Program.asks_bind (query_keeps _) (Program.ends_mono ?_ (query_fits _))
        rintro ending permitted endpointIds rfl
        have permissions := discipline.permissions _ _ (permitted endpointIds rfl)
        have kept := discipline.clients _ _ (discipline.listed clients (fits clients rfl) client member)
        exact Program.asks_after (write_keeps permissions) fun _ => write_keeps kept
      exact Program.asks_foldlM clients () fun _ client member => cached client member
  exact Program.asks_handle (Program.asks_after refreshPoliciesAsync_keeps fun _ => clients)
    fun _ => trivial

end Refreshes

section Requests

theorem resolvePolicyAsync_keeps (path method : Text) :
    discipline.Keeps (resolvePolicyAsync discipline.platform path method) := by
  refine Program.asks_after (read_keeps _ _) fun cached => ?_
  cases cached with
  | some policy => trivial
  | none =>
    refine Program.asks_ask trivial fun published answered => ?_
    cases published with
    | none => trivial
    | some policy =>
      have registered := (discipline.found _ policy).mp answered
      exact Program.asks_after (write_keeps (discipline.policies _ _ registered)) fun _ => trivial

/-- A policy remembered under a key is one that a snapshot may have. -/
def Recalls (discipline : Discipline) : Prop :=
  ∀ routeKey policy, discipline.Remembered (PolicyCache.policyKey routeKey) (.policy policy) →
    discipline.Registers routeKey policy

/-- A lookup ends with what a published snapshot may answer. -/
theorem resolvePolicyAsync_looksUp (recalls : discipline.Recalls) (path method : Text) :
    (resolvePolicyAsync discipline.platform path method).Ends discipline.Answers (fun ending =>
      ∃ found, ending = .ok found ∧
        discipline.Lookup (requestKey discipline.platform path method) found) := by
  refine Program.ends_bind (Program.ends_mono ?_ (read_fits _ _))
  rintro ending ⟨found, rfl, fits⟩
  cases found with
  | some policy =>
    obtain ⟨value, remembered, viewed⟩ := fits policy rfl
    rw [CacheValue.asPolicy_eq_some_iff] at viewed
    subst viewed
    exact ⟨_, rfl, (discipline.found _ policy).mpr (recalls _ policy remembered)⟩
  | none =>
    refine Program.ends_ask fun published answered => ?_
    cases published with
    | none => exact ⟨none, rfl, answered⟩
    | some policy => exact fun _ _ _ _ => ⟨_, rfl, answered⟩

theorem decrypt_looksUp (recalls : discipline.Recalls) (context : HttpContext) :
    (decrypt discipline.platform context).Ends discipline.Answers (fun ending =>
      ∃ found, ending = .ok found ∧
        discipline.Lookup (requestKey discipline.platform context.path context.method) found) := by
  refine Program.ends_bind (Program.ends_mono ?_ (resolvePolicyAsync_looksUp recalls _ _))
  rintro ending ⟨found, rfl, looked⟩
  cases found with
  | none => exact ⟨none, rfl, looked⟩
  | some used =>
    dsimp only
    cases decryptedFor discipline.platform context used with
    | none => exact ⟨_, rfl, looked⟩
    | some clientId =>
      refine Program.ends_handle (Program.ends_bind (Program.ends_mono ?_ (Program.ends_trivial _)))
      intro profile _
      cases profile with
      | ok profile => exact ⟨_, rfl, looked⟩
      | error fault => exact ⟨_, rfl, looked⟩

theorem encrypt_looksUp (recalls : discipline.Recalls) (context : HttpContext)
    (proxyResponse : Option ProxyResponse) :
    (encrypt discipline.platform context proxyResponse).Ends discipline.Answers (fun ending =>
      ∃ found, ending = .ok found ∧
        discipline.Lookup (requestKey discipline.platform context.path context.method) found) := by
  refine Program.ends_bind (Program.ends_mono ?_ (resolvePolicyAsync_looksUp recalls _ _))
  rintro ending ⟨found, rfl, looked⟩
  cases found with
  | none => exact ⟨none, rfl, looked⟩
  | some used =>
    dsimp only
    cases encryptedFor discipline.platform context proxyResponse used with
    | none => exact ⟨_, rfl, looked⟩
    | some clientId =>
      refine Program.ends_bind (Program.ends_mono ?_ (read_fits _ _))
      rintro ending ⟨profile, rfl, _⟩
      exact ⟨_, rfl, looked⟩

/-- Each stage uses what a published snapshot may answer. -/
theorem forward_looksUp (recalls : discipline.Recalls) (context : HttpContext)
    (proxyResponse : Option ProxyResponse) (authorized : EndpointPolicy) (client : Option Client) :
    (forward discipline.platform context proxyResponse authorized client).Ends discipline.Answers
      (fun ending => ∃ decrypting heading encrypting,
        ending = .ok (.served authorized client decrypting heading encrypting) ∧
          ∀ stage ∈ [decrypting, heading, encrypting],
            discipline.Lookup (requestKey discipline.platform context.path context.method) stage) := by
  refine Program.ends_bind (Program.ends_mono ?_ (decrypt_looksUp recalls context))
  rintro ending ⟨decrypting, rfl, first⟩
  refine Program.ends_bind (Program.ends_mono ?_ (resolvePolicyAsync_looksUp recalls _ _))
  rintro ending ⟨heading, rfl, second⟩
  refine Program.ends_bind (Program.ends_mono ?_ (encrypt_looksUp recalls context proxyResponse))
  rintro ending ⟨encrypting, rfl, third⟩
  exact ⟨decrypting, heading, encrypting, rfl, by simpa using ⟨first, second, third⟩⟩

theorem lookupClient_keeps (clientId : Text) : discipline.Keeps (lookupClient clientId) := by
  have loads : (query (.client clientId)).Ends discipline.Answers (fun ending =>
      ∀ client, ending = .ok (some client) →
        discipline.FittingRows (.client clientId) (some client)) :=
    Program.ends_mono (fun _ fits client => fits (some client)) (query_fits (.client clientId))
  exact cacheAside_keeps (read_keeps _ _) (query_keeps _) loads
    fun client fits => write_keeps (discipline.clients clientId client fits)

theorem lookupPermissions_keeps (id : Guid) : discipline.Keeps (lookupPermissions id) := by
  refine Program.asks_after (read_keeps _ _) fun cached => ?_
  cases cached with
  | some permissions => trivial
  | none =>
    refine Program.asks_bind (query_keeps _)
      (Program.ends_mono ?_ (query_fits (.authorizedEndpointIds id)))
    rintro ending fits endpointIds rfl
    have fitting := discipline.permissions id endpointIds (fits endpointIds rfl)
    exact Program.asks_after (write_keeps fitting) fun _ => trivial

theorem lookupProfile_keeps (clientId : Text) (serviceId : Guid) :
    discipline.Keeps (lookupProfile clientId serviceId) := by
  have loads : (query (.userProfile clientId (some serviceId))).Ends discipline.Answers
      (fun ending => ∀ profile, ending = .ok (some profile) →
        discipline.FittingRows (.userProfile clientId (some serviceId)) (some profile)) :=
    Program.ends_mono (fun _ fits profile => fits (some profile)) (query_fits _)
  exact cacheAside_keeps (read_keeps _ _) (query_keeps _) loads
    fun profile fits => write_keeps (discipline.profiles _ _ profile fits)

theorem authorize_keeps (context : HttpContext) :
    discipline.Keeps (authorize discipline.platform context) := by
  refine Program.asks_after (resolvePolicyAsync_keeps _ _) fun resolved => ?_
  cases resolved with
  | none => trivial
  | some policy =>
    dsimp only
    unfold verifyCaller
    split
    · trivial
    · dsimp only
      split
      · trivial
      · split
        · trivial
        · next presented _ =>
          refine Program.asks_after (lookupClient_keeps presented) fun client => ?_
          cases client with
          | none => trivial
          | some client =>
            refine Program.asks_after (lookupPermissions_keeps client.id) fun permissions => ?_
            split <;> trivial

theorem forward_keeps (context : HttpContext) (proxyResponse : Option ProxyResponse)
    (authorized : EndpointPolicy) (client : Option Client) :
    discipline.Keeps (forward discipline.platform context proxyResponse authorized client) := by
  refine Program.asks_after ?_ fun _ => Program.asks_after (resolvePolicyAsync_keeps _ _) fun _ =>
    Program.asks_after ?_ fun _ => trivial
  · refine Program.asks_after (resolvePolicyAsync_keeps _ _) fun resolved => ?_
    cases resolved with
    | none => trivial
    | some policy =>
      dsimp only
      split
      · trivial
      · exact Program.asks_handle (Program.asks_after (lookupProfile_keeps _ _) fun _ => trivial)
          fun _ => trivial
  · refine Program.asks_after (resolvePolicyAsync_keeps _ _) fun resolved => ?_
    cases resolved with
    | none => trivial
    | some policy =>
      dsimp only
      split
      · trivial
      · exact Program.asks_after (read_keeps _ _) fun _ => trivial

/-- Every call guarantees that what it writes keeps to the discipline. -/
theorem launch_keeps (actor : Actor) : discipline.Keeps (launch discipline.platform actor) := by
  cases actor with
  | requests context proxyResponse =>
    refine Program.asks_handle ?_ fun _ => trivial
    refine Program.asks_after (authorize_keeps context) fun decision => ?_
    cases decision with
    | answered status text => trivial
    | admitted policy clientId client => exact forward_keeps context proxyResponse policy client
  | refreshesPolicies => exact Program.asks_after refreshPoliciesAsync_keeps fun _ => trivial
  | cycles => exact Program.asks_after refreshAllAsync_keeps fun _ => trivial

end Requests

/-- As long as the database holds rows that may be returned, the calls keep the cache
and the snapshot to the discipline and read nothing else. -/
theorem contract (discipline : Discipline) :
    Contract (process discipline.platform) discipline.Steady (fun _ _ => True) discipline.Fits
      (fun _ => discipline.Answers) (fun _ => discipline.Permits) where
  launched := fun actor _ => launch_keeps actor
  answered := by
    intro _ action gateway steady _ fits
    cases action with
    | readMemory key => exact fits.memory key
    | readStore key => exact fun value found => fits.store key value (Cache.fromStore_some found)
    | readSnapshot routeKey => exact fits.snapshot routeKey
    | query call => exact fun rows answered => query_steady steady answered
    | cacheMemory key value => trivial
    | cacheStore key value timeToLive => trivial
    | publish snapshot => trivial
  performed := by
    intro _ action gateway _ fits permits
    cases action with
    | cacheMemory key value =>
      refine ⟨fun tested held live => ?_, fits.store, fits.snapshot⟩
      rcases Cache.inMemory_insertMemory live with ⟨rfl, rfl⟩ | before
      · exact discipline.remembered tested held permits
      · exact fits.memory tested held before
    | cacheStore key value timeToLive =>
      refine ⟨fun tested held live => ?_, fun tested held live => ?_, fits.snapshot⟩
      · exact fits.memory tested held ((Cache.insertStore_memory timeToLive value tested).symm.trans live)
      · rcases Cache.inStore_insertStore live with ⟨rfl, rfl⟩ | before
        · exact discipline.stored tested held permits.1
        · exact fits.store tested held before
    | publish snapshot => exact ⟨fits.memory, fits.store, discipline.looksUp snapshot permits⟩
    | readMemory key => exact fits
    | readStore key => exact fits
    | readSnapshot routeKey => exact fits
    | query call => exact fits
  altered := by
    intro change gateway fits
    cases change with
    | tiers decay =>
      exact ⟨fun key value live => fits.memory key value (Cache.inMemory_decay live),
        fun key value live => fits.store key value (Cache.inStore_decay live), fits.snapshot⟩
    | database content => exact ⟨fits.memory, fits.store, fits.snapshot⟩
    | repositories fault => exact ⟨fits.memory, fits.store, fits.snapshot⟩

/-- A process at its start keeps to a discipline that allows an empty snapshot. -/
theorem fits_started (vacant : ∀ routeKey, discipline.Lookup routeKey none) (database : Database) :
    discipline.Fits (Gateway.started database) where
  memory := fun _ _ live => nomatch live
  store := fun _ _ live => nomatch live
  snapshot := vacant

end Discipline

end ApiGateway.Concurrent
