import ApiGateway.Mediation

/-!
# Audit events

After the next stage has returned the middleware publishes an event of the request,
if the policy asks for events and the caller has a client id. An event names its
client, so a request without one has none.

The producer serializes an event into one message under the request's correlation
id. It never throws.
-/

namespace ApiGateway

open Effects

/-- A message as it is handed to the broker's client. -/
structure Message where
  key : Text
  value : Text
  headers : List (Text × Bytes)
deriving DecidableEq

/-- What the producer uses: it serializes an event and encodes texts. -/
structure KafkaEventProducer where
  serialize : GatewayEvent → Except Fault Text
  getBytes : Text → Bytes

/-- The message of an event and its topic; an exception is logged. -/
def KafkaEventProducer.publishAsync (producer : KafkaEventProducer) (gatewayEvent : GatewayEvent)
    (topic : Text) : List (Text × Message) :=
  match producer.serialize gatewayEvent with
  | .error _ => []
  | .ok json =>
    [(topic,
      { key := gatewayEvent.correlationId
        value := json
        headers :=
          [("correlation-id".toList, producer.getBytes gatewayEvent.correlationId),
            ("product".toList, producer.getBytes gatewayEvent.productName),
            ("service".toList, producer.getBytes gatewayEvent.serviceName)] })]

/-- What an exchange has the broker's client send. -/
def Exchange.produced (producer : KafkaEventProducer) (exchange : Exchange) : List (Text × Message) :=
  exchange.published.flatMap (fun publication => producer.publishAsync publication.1 publication.2)

namespace Middleware

variable {σ : Type}

/-- The topic of a policy's events. -/
def eventsTopic (policy : EndpointPolicy) : Text := policy.topicPrefix.getD [] ++ ".events".toList

/-- The caller's client id, if it is not empty. -/
def callerId (caseMap : CaseMap) (context : HttpContext) : Option Text :=
  (context.user.clientId caseMap).filter (fun value => !value.isEmpty)

/-- Exactly one event was published, to the policy's topic and with the data of the
request. -/
def Recorded (context : HttpContext) (policy : EndpointPolicy) (exchange : Exchange) : Prop :=
  ∃ event, exchange.published = [(event, eventsTopic policy)] ∧
    event.productName = policy.product.name ∧ event.serviceName = policy.service.serviceName ∧
    event.endpointName = policy.endpoint.endpointName ∧ event.method = context.method ∧
    event.path = context.path ∧ event.correlationId = context.traceIdentifier

/-- The request is handed to the next stage under a policy, in a state. -/
structure PassedToNext (caseMap : CaseMap) (services : Services σ) (context : HttpContext)
    (state : σ) (policy : EndpointPolicy) (reached : σ) : Prop where
  outside : Text.startsWithIgnoreCase caseMap healthPrefix context.path = false
  resolved : ∃ after, services.policyResolver.resolvePolicyAsync context.path context.method state =
    (.ok (some policy), after)
  admitted : ∃ clientId client,
    authorize caseMap services context state = (.ok (.admitted policy clientId client), reached)

/-- A request that is not handed over has no event. One that is handed over under a
policy with events, to a stage that returns, has one if its caller has a client id
and none otherwise. -/
structure Audited (caseMap : CaseMap) (services : Services σ) (next : Task σ Nat)
    (context : HttpContext) (state : σ) (exchange : Exchange) : Prop where
  silent : exchange.calledNext = false → exchange.published = []
  complete : exchange.calledNext = true →
    Text.startsWithIgnoreCase caseMap healthPrefix context.path = false →
      ∃ policy reached, PassedToNext caseMap services context state policy reached ∧
        (policy.emitEvents = true → ∀ status after, next reached = (.ok status, after) →
          ((callerId caseMap context).isSome = true → Recorded context policy exchange) ∧
            (callerId caseMap context = none → exchange.published = []))

variable {caseMap : CaseMap} {services : Services σ} {context : HttpContext}

/-- The checks pass on the caller's client id. -/
theorem verifyCaller_clientId {policy resolved : EndpointPolicy} {clientId : Option Text}
    {client : Option Client} {before after : σ}
    (returned : verifyCaller caseMap services context policy before =
      (.ok (.admitted resolved clientId client), after)) :
    clientId = context.user.clientId caseMap := by
  obtain ⟨_, _, ⟨_, _, same, _⟩ | ⟨present, kept, checked⟩⟩ := verifyCaller_cases returned
  · exact same
  · obtain ⟨_, same, _⟩ := verifyClient_rests checked
    exact same.trans (Option.filter_eq_some_iff.mp kept).1.symm

theorem authorize_clientId {policy : EndpointPolicy} {clientId : Option Text} {client : Option Client}
    {before after : σ}
    (returned : authorize caseMap services context before =
      (.ok (.admitted policy clientId client), after)) :
    clientId = context.user.clientId caseMap := by
  obtain ⟨answer, resolved, _, checked⟩ := Effect.bind_ok_inv returned
  cases answer with
  | none => cases checked
  | some found => exact verifyCaller_clientId checked

/-- Under a policy with events the emission is the event of a caller with a client
id. -/
theorem emit_eq {policy : EndpointPolicy} (emits : policy.emitEvents = true) (status : Nat) :
    emit context policy (context.user.clientId caseMap) status =
      ((callerId caseMap context).map (fun clientId =>
        (({ correlationId := context.traceIdentifier
            productName := policy.product.name
            serviceName := policy.service.serviceName
            endpointName := policy.endpoint.endpointName
            clientId := clientId
            method := context.method
            path := context.path
            upstreamStatusCode := status } : GatewayEvent), eventsTopic policy))).toList := by
  rw [emit, callerId]
  simp only [emits, Bool.true_and]
  cases (context.user.clientId caseMap).filter (fun value => !value.isEmpty) <;> rfl

/-- A stage that returns under a policy with events leaves one event of a caller with a
client id and none of another. -/
theorem proceed_recorded {next : Task σ Nat} {policy : EndpointPolicy} {status : Nat}
    {reached last : σ} (emits : policy.emitEvents = true)
    (returned : next reached = (.ok status, last)) :
    ((callerId caseMap context).isSome = true → Recorded context policy
        (proceed next (emit context policy (context.user.clientId caseMap)) reached).1) ∧
      (callerId caseMap context = none →
        (proceed next (emit context policy (context.user.clientId caseMap)) reached).1.published =
          []) := by
  rw [proceed, returned]
  dsimp only
  rw [emit_eq emits]
  constructor
  · intro named
    obtain ⟨present, found⟩ := Option.isSome_iff_exists.mp named
    rw [found]
    exact ⟨_, rfl, rfl, rfl, rfl, rfl, rfl, rfl⟩
  · intro unnamed
    rw [unnamed]
    rfl

/-- Every exchange of the middleware is audited so. -/
theorem invokeAsync_audited (caseMap : CaseMap) (services : Services σ) (next : Task σ Nat)
    (context : HttpContext) (state : σ) :
    Audited caseMap services next context state
      (invokeAsync caseMap services next context state).1 := by
  rw [invokeAsync]
  split
  · next health =>
    constructor
    · intro uncalled
      rw [proceed_calledNext] at uncalled
      cases uncalled
    · intro _ outside
      rw [health] at outside
      cases outside
  · next outside =>
    have apart : Text.startsWithIgnoreCase caseMap healthPrefix context.path = false := by
      simpa using outside
    rcases checked : authorize caseMap services context state with ⟨ending, reached⟩
    cases ending with
    | error fault =>
      constructor
      · intro _
        rfl
      · intro called
        cases called
    | ok decision =>
      cases decision with
      | answered status text =>
        constructor
        · intro _
          rfl
        · intro called
          cases called
      | admitted policy clientId client =>
        constructor
        · intro uncalled
          rw [proceed_calledNext] at uncalled
          cases uncalled
        · intro _ _
          obtain ⟨after, asked, _⟩ := authorize_admitted checked
          refine ⟨policy, reached, ⟨apart, ⟨after, asked⟩, clientId, client, checked⟩, ?_⟩
          intro emits status last returned
          rw [authorize_clientId checked]
          exact proceed_recorded emits returned

/-- What is recorded of a request becomes one message under its correlation id. -/
theorem recorded_produced {policy : EndpointPolicy} {exchange : Exchange}
    (producer : KafkaEventProducer) (serializes : ∀ event, ∃ json, producer.serialize event = .ok json)
    (recorded : Recorded context policy exchange) :
    ∃ message, exchange.produced producer = [(eventsTopic policy, message)] ∧
      message.key = context.traceIdentifier := by
  obtain ⟨event, published, _, _, _, _, _, correlated⟩ := recorded
  obtain ⟨json, serialized⟩ := serializes event
  rw [Exchange.produced, published, List.flatMap_singleton, KafkaEventProducer.publishAsync, serialized]
  exact ⟨_, rfl, correlated⟩

/-- A policy that asks for events and for no token. -/
def openPolicy : EndpointPolicy :=
  PolicyResolver.buildEndpointPolicy plainPlatform .sample
    { Service.sample 1 "orders".toList "/orders".toList "v1".toList "orders".toList "[]".toList with
      requiresJwt := false
      emitEvents := true
      topicPrefix := some "orders".toList }
    (.sample 2 1 "list".toList "GET".toList "/list".toList)

/-- Services that know this policy and no client. -/
def openServices : Services Unit where
  policyResolver := ⟨fun _ _ state => (.ok (some openPolicy), state)⟩
  clientRepo := ⟨fun _ state => (.ok none, state), fun _ state => state⟩
  permissionRepo := ⟨fun _ state => (.ok [], state)⟩
  cache :=
    { getClientAsync := fun _ state => (.ok none, state)
      setClientAsync := fun _ _ _ state => (.ok (), state)
      getClientPermissionsAsync := fun _ state => (.ok none, state)
      setClientPermissionsAsync := fun _ _ _ state => (.ok (), state)
      getUserProfileAsync := fun _ _ state => (.ok none, state)
      setUserProfileAsync := fun _ _ _ _ state => (.ok (), state) }

/-- A request without an identity. -/
def anonymousContext : HttpContext :=
  HttpContext.request .nobody "/gateway/orders/list".toList "GET".toList []

/-- The request is handed over under a policy with events and has none. -/
theorem anonymous_unrecorded :
    PassedToNext asciiCase openServices anonymousContext () openPolicy () ∧
      openPolicy.emitEvents = true ∧
      (invokeAsync asciiCase openServices (pure 200) anonymousContext ()).1.calledNext = true ∧
      (invokeAsync asciiCase openServices (pure 200) anonymousContext ()).1.published = [] ∧
      ¬ Recorded anonymousContext openPolicy
        (invokeAsync asciiCase openServices (pure 200) anonymousContext ()).1 := by
  have silent : (invokeAsync asciiCase openServices (pure 200) anonymousContext ()).1.published =
      [] := by
    decide
  refine ⟨⟨by decide, ⟨(), rfl⟩, none, none, rfl⟩, rfl, by decide, silent, ?_⟩
  rintro ⟨event, published, _⟩
  rw [silent] at published
  cases published

end Middleware

end ApiGateway
