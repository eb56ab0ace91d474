import Mathlib.Data.Set.Function
import ApiGateway.CallerIdentity
import ApiGateway.Library.Partitions

/-!
# The rate limiter between callers

A request counts against a fixed window under its partition key: its client id, or
else its remote address, or else a literal. The keys are plain texts, so a client
id may be another caller's address or the literal.

A window is opened by the first request under its key. The limiter replenishes on
a heartbeat of its own, and only those windows whose time has passed.
-/

namespace ApiGateway.RateLimiting

open Partitions

/-- Who a request is from: a client, or else whoever has its remote address. -/
inductive Caller where
  | client (clientId : Text)
  | address (remoteIpAddress : Option Text)
deriving DecidableEq

def callerOf (platform : Platform) (context : HttpContext) : Caller :=
  match context.user.clientId platform.caseMap with
  | some clientId => .client clientId
  | none => .address context.remoteIpAddress

/-- The partition of a caller. -/
def Caller.key : Caller → Text
  | .client clientId => clientId
  | .address remoteIpAddress => remoteIpAddress.getD "anonymous".toList

structure FixedWindowRateLimiterOptions where
  permitLimit : Nat
  window : Nat
  limit_positive : 0 < permitLimit
  window_positive : 0 < window

/-- The permits left in the current window and when it was opened. -/
structure FixedWindowRateLimiter where
  lastReplenishment : Nat
  permitCount : Nat

/-- A request and its time of arrival. -/
structure Arrival where
  context : HttpContext
  now : Nat

/-- One counter: a request takes a permit or is rejected at once, and a heartbeat
replenishes a window whose time has passed. That the heartbeat also forgets a counter
which has been idle with all its permits is left out. -/
def fixedWindow (options : FixedWindowRateLimiterOptions) :
    Machine (Option FixedWindowRateLimiter) Arrival Nat Bool where
  react := fun limiter arrival =>
    let current := limiter.getD ⟨arrival.now, options.permitLimit⟩
    if 0 < current.permitCount then
      (some { current with permitCount := current.permitCount - 1 }, true)
    else (some current, false)
  tick := fun limiter now => limiter.map (fun current =>
    if current.lastReplenishment + options.window ≤ now then ⟨now, options.permitLimit⟩ else current)

/-- The requests of a run and whether they were admitted. -/
def admissions (platform : Platform) (options : FixedWindowRateLimiterOptions)
    (run : List (Event Arrival Nat)) : List (Arrival × Bool) :=
  answers (fixedWindow options) (fun arrival => partitionKey platform arrival.context)
    (fun _ => none) run

/-- The request is from another caller. -/
def fromOther (platform : Platform) (caller : Caller) (arrival : Arrival) : Bool :=
  decide (callerOf platform arrival.context ≠ caller)

/-- In no run of requests from the callers, under no options, is another caller's
request admitted otherwise when one caller's requests are taken out. -/
def Isolated (platform : Platform) (callers : Set Caller) : Prop :=
  ∀ (options : FixedWindowRateLimiterOptions) (run : List (Event Arrival Nat)),
    (∀ arrival, .request arrival ∈ run → callerOf platform arrival.context ∈ callers) →
    ∀ caller ∈ callers,
      (admissions platform options run).filter (fun admission => fromOther platform caller admission.1) =
        admissions platform options (run.filter (passes (fromOther platform caller)))

variable {platform : Platform}

theorem partitionKey_eq (platform : Platform) (context : HttpContext) :
    partitionKey platform context = (callerOf platform context).key := by
  rw [partitionKey, ← Principal.clientId, callerOf]
  cases context.user.clientId platform.caseMap <;> rfl

/-- A request of each caller. -/
def arrivalOf : Caller → Arrival
  | .client clientId => ⟨HttpContext.request (Principal.subject clientId) [] "GET".toList [], 0⟩
  | .address remoteIpAddress =>
    ⟨{ HttpContext.request .nobody [] "GET".toList [] with
        remoteIpAddress := remoteIpAddress }, 0⟩

theorem callerOf_arrivalOf (platform : Platform) (caller : Caller) :
    callerOf platform (arrivalOf caller).context = caller := by
  cases caller with
  | client clientId =>
    simp [callerOf, arrivalOf, HttpContext.request, Principal.subject, Principal.clientId,
      Principal.findFirst, Text.equalsIgnoreCase]
  | address remoteIpAddress => rfl

/-- With one permit the second of two requests under one key is rejected, and it is
admitted alone. -/
theorem admissions_pair {first second : Arrival} {options : FixedWindowRateLimiterOptions}
    (single : options.permitLimit = 1)
    (shared : partitionKey platform first.context = partitionKey platform second.context) :
    admissions platform options [.request first, .request second] =
        [(first, true), (second, false)] ∧
      admissions platform options [.request second] = [(second, true)] := by
  constructor
  · simp [admissions, answers, fixedWindow, single, shared]
  · simp [admissions, answers, fixedWindow, single]

/-- Two callers under one key are not isolated. -/
theorem shared_not_isolated {callers : Set Caller} {left right : Caller} (ofLeft : left ∈ callers)
    (ofRight : right ∈ callers) (different : right ≠ left) (shared : left.key = right.key) :
    ¬ Isolated platform callers := by
  intro isolated
  have keys : partitionKey platform (arrivalOf left).context =
      partitionKey platform (arrivalOf right).context := by
    rw [partitionKey_eq, partitionKey_eq, callerOf_arrivalOf, callerOf_arrivalOf, shared]
  obtain ⟨both, alone⟩ := @admissions_pair platform _ _ ⟨1, 1, Nat.one_pos, Nat.one_pos⟩ rfl keys
  have fromBoth : ∀ arrival,
      Event.request arrival ∈
        ([.request (arrivalOf left), .request (arrivalOf right)] : List (Event Arrival Nat)) →
        callerOf platform arrival.context ∈ callers := by
    intro arrival member
    simp only [List.mem_cons, Event.request.injEq, List.not_mem_nil, or_false] at member
    rcases member with rfl | rfl
    · rwa [callerOf_arrivalOf]
    · rwa [callerOf_arrivalOf]
  have same := isolated ⟨1, 1, Nat.one_pos, Nat.one_pos⟩ _ fromBoth left ofLeft
  have dropped : fromOther platform left (arrivalOf left) = false := by
    simp [fromOther, callerOf_arrivalOf]
  have kept : fromOther platform left (arrivalOf right) = true := by
    simp [fromOther, callerOf_arrivalOf, different]
  rw [both] at same
  simp only [List.filter_cons, passes, dropped, kept, if_true, Bool.false_eq_true, if_false,
    List.filter_nil, alone] at same
  cases same

/-- The limiter isolates callers exactly if no two of them share a partition. -/
theorem isolated_iff (platform : Platform) (callers : Set Caller) :
    Isolated platform callers ↔ Set.InjOn Caller.key callers := by
  constructor
  · intro isolated left ofLeft right ofRight shared
    by_contra different
    exact shared_not_isolated ofLeft ofRight (Ne.symm different) shared isolated
  · intro injective options run fromCallers caller ofCaller
    -- among the callers, to be another one is to have another key
    have apart : ∀ arrival, .request arrival ∈ run → fromOther platform caller arrival =
        decide (partitionKey platform arrival.context ≠ caller.key) := by
      intro arrival member
      rw [fromOther, partitionKey_eq, decide_eq_decide]
      exact (injective.ne_iff (fromCallers arrival member) ofCaller).symm
    have answered : (admissions platform options run).filter
        (fun admission => fromOther platform caller admission.1) =
          (admissions platform options run).filter (fun admission =>
            decide (partitionKey platform admission.1.context ≠ caller.key)) := by
      apply List.filter_congr
      intro admission member
      exact apart admission.1 (mem_answers _ _ member)
    have remaining : run.filter (passes (fromOther platform caller)) =
        run.filter (passes (fun arrival =>
          decide (partitionKey platform arrival.context ≠ caller.key))) := by
      apply List.filter_congr
      intro event member
      cases event with
      | request arrival => exact apart arrival member
      | tick now => rfl
    rw [answered, remaining]
    exact answers_filter (fixedWindow options)
      (fun arrival => partitionKey platform arrival.context)
      (fun key => decide (key ≠ caller.key)) run (fun _ _ => rfl)

/-- A client under the id that is another caller's address, and one under the
literal. -/
theorem shared_partitions :
    ¬ Isolated plainPlatform {.client "10.0.0.1".toList, .address (some "10.0.0.1".toList)} ∧
      ¬ Isolated plainPlatform {.client "anonymous".toList, .address none} := by
  constructor
  · exact shared_not_isolated (Set.mem_insert _ _) (Set.mem_insert_of_mem _ rfl)
      (by decide) rfl
  · exact shared_not_isolated (Set.mem_insert _ _) (Set.mem_insert_of_mem _ rfl)
      (by decide) rfl

end ApiGateway.RateLimiting
