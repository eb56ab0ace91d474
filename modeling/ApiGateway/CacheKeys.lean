import ApiGateway.CacheCoherence
import ApiGateway.CachedPath

/-!
# Keys of the policy cache

The cache keeps four families of values in one key space. A key is put together from
texts, some of them a caller's, with colons between its parts, and nothing is escaped.

A profile key ends in a service's id or in a word, and a route key begins with a
method. None of these has a colon, so that every key can be taken apart in one way
only.
-/

namespace ApiGateway.PolicyResolver

open PolicyCache

/-- No method of an enabled endpoint has a colon. -/
def PlainMethods (database : Database) : Prop :=
  ∀ service ∈ database.enabledServices, ∀ endpoint ∈ database.enabledEndpoints service.id,
    ∀ entry ∈ methodsOf endpoint, ':' ∉ entry

section Routes

variable {platform : Platform} {path otherPath method otherMethod : Text}

/-- A method before a colon and the path behind it can be told from the key. -/
theorem toKey_inj (leftPlain : ':' ∉ method) (rightPlain : ':' ∉ otherMethod) :
    RouteKey.toKey ⟨path, method⟩ = RouteKey.toKey ⟨otherPath, otherMethod⟩ ↔
      method = otherMethod ∧ path = otherPath := by
  constructor
  · exact fun same => Text.cut_at_first same leftPlain rightPlain
  · rintro ⟨rfl, rfl⟩
    rfl

theorem colon_not_mem_upper (caseMap : CaseMap) (plain : ':' ∉ method) :
    ':' ∉ Text.toUpperInvariant caseMap method :=
  Text.not_mem_toUpperInvariant caseMap (by decide) (by decide) plain

/-- Keys of requests are equal exactly if their methods are, up to case, and their
paths. -/
theorem requestKey_inj (plain : ':' ∉ method) (otherPlain : ':' ∉ otherMethod) :
    requestKey platform path method = requestKey platform otherPath otherMethod ↔
      Text.toUpperInvariant platform.caseMap method =
          Text.toUpperInvariant platform.caseMap otherMethod ∧ path = otherPath :=
  toKey_inj (colon_not_mem_upper platform.caseMap plain)
    (colon_not_mem_upper platform.caseMap otherPlain)

/-- An entry is registered under the key of a request for it. -/
theorem routeKeyOf_eq (platform : Platform) (entry fullPath : Text) :
    routeKeyOf platform entry fullPath = requestKey platform fullPath (Text.trim entry) := rfl

end Routes

/-- Cache keys are equal only for one family and one id, keys of requests only for one
method and one path, and a request finds registered under its key exactly the endpoints
with its method and its path. -/
theorem keys_unambiguous (platform : Platform) :
    Function.Injective LogicalId.key ∧
      (∀ path method otherPath otherMethod, ':' ∉ method → ':' ∉ otherMethod →
        ((RouteKey.fromRequest platform.caseMap path method).toKey =
            (RouteKey.fromRequest platform.caseMap otherPath otherMethod).toKey ↔
          Text.toUpperInvariant platform.caseMap method =
            Text.toUpperInvariant platform.caseMap otherMethod ∧ path = otherPath)) ∧
      ∀ database, PlainMethods database → ∀ path method, ':' ∉ method → ∀ policy,
        ((requestKey platform path method, policy) ∈ registrations platform database ↔
          ∃ service ∈ database.enabledServices,
            ∃ product, productOf database.enabledProducts service = some product ∧
              ∃ endpoint ∈ database.enabledEndpoints service.id, ∃ entry ∈ methodsOf endpoint,
                (Text.toUpperInvariant platform.caseMap method =
                    Text.toUpperInvariant platform.caseMap (Text.trim entry) ∧
                  path = fullPathOf service endpoint) ∧
                policy = buildEndpointPolicy platform product service endpoint) := by
  refine ⟨fun _ _ same => LogicalId.key_injective same, fun _ _ _ _ plain otherPlain => requestKey_inj plain otherPlain, ?_⟩
  intro database stored path method plain policy
  rw [mem_registrations_iff]
  refine exists_congr fun service => and_congr_right fun enabled => exists_congr fun product =>
    and_congr_right fun _ => exists_congr fun endpoint => and_congr_right fun listed =>
      exists_congr fun entry => and_congr_right fun named => and_congr_left fun _ => ?_
  rw [routeKeyOf_eq]
  apply requestKey_inj plain
  exact fun member =>
    stored service enabled endpoint listed entry named (Text.trim_subset entry member)

theorem keys_unambiguous_list :
    ∃ policy, (requestKey plainPlatform "/gateway/orders/list".toList "get".toList, policy) ∈
      registrations plainPlatform oneEndpoint := by
  have stored : PlainMethods oneEndpoint := by
    unfold PlainMethods
    decide
  refine ⟨buildEndpointPolicy plainPlatform .sample oneService oneServiceEndpoint,
    ((keys_unambiguous plainPlatform).2.2 _ stored _ _ (by decide) _).mpr ?_⟩
  exact ⟨oneService, by decide, .sample, by decide, oneServiceEndpoint, by decide, "GET".toList,
    by decide, ⟨by decide, by decide⟩, rfl⟩

example : userProfileKey "mallory:global".toList none =
    "user-profile:mallory:global:global".toList := by
  decide

end ApiGateway.PolicyResolver
