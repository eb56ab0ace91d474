import ApiGateway.RateLimits

/-!
# What the rate limiter admits

A window that is replenished no sooner than its time has passed admits no more than the
limit before that, so in several windows' time a partition admits at most the limit for
each of them and once more for the window that was open before.

It rejects only what the limit demands. Where heartbeats come regularly, a rejected
request finds that many requests of its partition admitted within a window and the time
between two heartbeats.
-/

namespace ApiGateway.RateLimiting

open Partitions

/-- When an event happens. -/
def timeOf : Event Arrival Nat → Nat
  | .request arrival => arrival.now
  | .tick now => now

/-- Events happen in order. -/
def Chronological (run : List (Event Arrival Nat)) : Prop :=
  run.Pairwise (fun former latter => timeOf former ≤ timeOf latter)

/-- A request of a partition was admitted in a span of time. -/
def admittedIn (platform : Platform) (key : Text) (start finish : Nat) (admission : Arrival × Bool) :
    Bool :=
  decide (partitionKey platform admission.1.context = key) && admission.2 &&
    decide (start ≤ admission.1.now) && decide (admission.1.now < finish)

section Limit

variable {platform : Platform} {options : FixedWindowRateLimiterOptions} {key : Text}
  {start finish : Nat} {run : List (Event Arrival Nat)}
  {limiters : Text → Option FixedWindowRateLimiter}

/-- The answers of a run from given limiters. -/
def answersFrom (platform : Platform) (options : FixedWindowRateLimiterOptions)
    (limiters : Text → Option FixedWindowRateLimiter) (run : List (Event Arrival Nat)) :
    List (Arrival × Bool) :=
  answers (fixedWindow options) (fun arrival => partitionKey platform arrival.context) limiters run

/-- The limiters after a request. -/
def requested (platform : Platform) (options : FixedWindowRateLimiterOptions)
    (limiters : Text → Option FixedWindowRateLimiter) (arrival : Arrival) :
    Text → Option FixedWindowRateLimiter :=
  Function.update limiters (partitionKey platform arrival.context)
    ((fixedWindow options).react (limiters (partitionKey platform arrival.context)) arrival).1

/-- The limiters after a heartbeat. -/
def ticked (options : FixedWindowRateLimiterOptions)
    (limiters : Text → Option FixedWindowRateLimiter) (now : Nat) :
    Text → Option FixedWindowRateLimiter :=
  fun each => (fixedWindow options).tick (limiters each) now

theorem answersFrom_request (arrival : Arrival) :
    answersFrom platform options limiters (.request arrival :: run) =
      (arrival, ((fixedWindow options).react
        (limiters (partitionKey platform arrival.context)) arrival).2) ::
        answersFrom platform options (requested platform options limiters arrival) run :=
  rfl

theorem answersFrom_tick (now : Nat) :
    answersFrom platform options limiters (.tick now :: run) =
      answersFrom platform options (ticked options limiters now) run :=
  rfl

/-- A request of another partition leaves the window alone. -/
theorem requested_other {arrival : Arrival} (other : partitionKey platform arrival.context ≠ key) :
    requested platform options limiters arrival key = limiters key :=
  Function.update_of_ne (Ne.symm other) _ _

/-- A request takes a permit if there is one and is admitted then. -/
theorem requested_own {arrival : Arrival} (own : partitionKey platform arrival.context = key)
    {limiter : FixedWindowRateLimiter}
    (current : (limiters key).getD ⟨arrival.now, options.permitLimit⟩ = limiter) :
    requested platform options limiters arrival key =
        some { limiter with permitCount := limiter.permitCount - 1 } ∧
      ((fixedWindow options).react (limiters key) arrival).2 = decide (0 < limiter.permitCount) := by
  subst own
  rw [requested, Function.update_self]
  simp only [fixedWindow, current]
  split
  · next left => exact ⟨rfl, (decide_eq_true left).symm⟩
  · next none =>
    have empty : limiter.permitCount = 0 := by omega
    refine ⟨?_, (decide_eq_false none).symm⟩
    rw [empty, Nat.zero_sub, ← empty]

/-- A window whose time has passed is replenished by a heartbeat. -/
theorem ticked_passed {limiter : FixedWindowRateLimiter} (present : limiters key = some limiter)
    {now : Nat} (passed : limiter.lastReplenishment + options.window ≤ now) :
    ticked options limiters now key = some ⟨now, options.permitLimit⟩ := by
  rw [ticked, present]
  exact congrArg some (if_pos passed)

theorem ticked_open {limiter : FixedWindowRateLimiter} (present : limiters key = some limiter)
    {now : Nat} (early : now < limiter.lastReplenishment + options.window) :
    ticked options limiters now key = some limiter := by
  rw [ticked, present]
  exact congrArg some (if_neg (Nat.not_le.mpr early))

/-- Nothing is admitted before a time by which nothing has happened. -/
theorem admitted_none (later : ∀ event ∈ run, finish ≤ timeOf event) :
    (answersFrom platform options limiters run).countP (admittedIn platform key start finish) = 0 := by
  rw [List.countP_eq_zero]
  intro admission member
  have event := later _ (mem_answers _ _ member)
  have after : ¬ admission.1.now < finish := Nat.not_lt.mpr event
  simp [admittedIn, after]

/-- A request of another partition does not count. -/
theorem admitted_other {arrival : Arrival} (other : partitionKey platform arrival.context ≠ key) :
    (answersFrom platform options limiters (.request arrival :: run)).countP
        (admittedIn platform key start finish) =
      (answersFrom platform options (requested platform options limiters arrival) run).countP
        (admittedIn platform key start finish) := by
  rw [answersFrom_request, List.countP_cons_of_neg]
  simp [admittedIn, other]

/-- What a request adds to the count it takes from the permits. -/
theorem admitted_own {arrival : Arrival} (own : partitionKey platform arrival.context = key)
    {limiter : FixedWindowRateLimiter}
    (current : (limiters key).getD ⟨arrival.now, options.permitLimit⟩ = limiter) :
    (answersFrom platform options limiters (.request arrival :: run)).countP
        (admittedIn platform key start finish) + (limiter.permitCount - 1) ≤
      limiter.permitCount +
        (answersFrom platform options (requested platform options limiters arrival) run).countP
          (admittedIn platform key start finish) := by
  rw [answersFrom_request, List.countP_cons, own, (requested_own own current).2]
  split
  · next counts =>
    have left : 0 < limiter.permitCount := by
      simp only [admittedIn, Bool.and_eq_true, decide_eq_true_eq] at counts
      exact counts.1.1.2
    omega
  · omega

/-- A window that was opened at a time, with permits left, admits no more than those and
the limit for each window that begins later. -/
theorem admitted_opened (chronological : Chronological run) (windows : Nat)
    {limiter : FixedWindowRateLimiter} (present : limiters key = some limiter)
    (after : ∀ event ∈ run, limiter.lastReplenishment ≤ timeOf event)
    (ends : finish ≤ limiter.lastReplenishment + (windows + 1) * options.window) :
    (answersFrom platform options limiters run).countP (admittedIn platform key start finish) ≤
      limiter.permitCount + windows * options.permitLimit := by
  induction run generalizing limiters limiter windows with
  | nil => exact Nat.zero_le _
  | cons event rest ih =>
    obtain ⟨first, remaining⟩ := List.pairwise_cons.mp chronological
    have follows : ∀ each ∈ rest, limiter.lastReplenishment ≤ timeOf each := fun each member =>
      after each (List.mem_cons_of_mem event member)
    cases event with
    | tick now =>
      rw [answersFrom_tick]
      by_cases passed : limiter.lastReplenishment + options.window ≤ now
      · cases windows with
        | zero =>
          -- the span ends with the window
          have closed : ∀ each ∈ rest, finish ≤ timeOf each := by
            intro each member
            have later : now ≤ timeOf each := first each member
            omega
          rw [admitted_none closed]
          exact Nat.zero_le _
        | succ fewer =>
          rw [Nat.succ_mul] at ends
          have bound := ih remaining fewer (ticked_passed present passed) first (by
            dsimp only
            omega)
          rw [Nat.succ_mul]
          dsimp only at bound
          omega
      · exact ih remaining windows (ticked_open present (Nat.not_le.mp passed)) follows ends
    | request arrival =>
      by_cases own : partitionKey platform arrival.context = key
      · have current : (limiters key).getD ⟨arrival.now, options.permitLimit⟩ = limiter := by
          rw [present, Option.getD_some]
        have counted := @admitted_own platform options key start finish rest limiters arrival own
          limiter current
        have bound := ih remaining windows (requested_own own current).1 follows ends
        dsimp only at bound
        omega
      · rw [admitted_other own]
        exact ih remaining windows ((requested_other own).trans present) follows ends

/-- The permits of a window that is open. -/
def permitsLeft (limiter : Option FixedWindowRateLimiter) : Nat :=
  (limiter.map FixedWindowRateLimiter.permitCount).getD 0

/-- From a time on, the permits that are left are admitted and the limit for each window
in which the span has a part. -/
theorem admitted_spanned (chronological : Chronological run) (windows : Nat)
    (after : ∀ event ∈ run, start ≤ timeOf event)
    (ends : finish ≤ start + windows * options.window) :
    (answersFrom platform options limiters run).countP (admittedIn platform key start finish) ≤
      permitsLeft (limiters key) + windows * options.permitLimit := by
  induction run generalizing limiters with
  | nil => exact Nat.zero_le _
  | cons event rest ih =>
    cases windows with
    | zero =>
      have closed : ∀ each ∈ event :: rest, finish ≤ timeOf each := by
        intro each member
        have later := after each member
        omega
      rw [admitted_none closed]
      exact Nat.zero_le _
    | succ fewer =>
      obtain ⟨first, remaining⟩ := List.pairwise_cons.mp chronological
      have begun : start ≤ timeOf event := after event List.mem_cons_self
      have follows : ∀ each ∈ rest, start ≤ timeOf each := fun each member =>
        after each (List.mem_cons_of_mem event member)
      have spanned := fun limiters => @ih limiters remaining follows
      have opened : ∀ limiters now permits, start ≤ now → limiters key = some ⟨now, permits⟩ →
          (∀ each ∈ rest, now ≤ timeOf each) →
            (answersFrom platform options limiters rest).countP
                (admittedIn platform key start finish) ≤
              permits + fewer * options.permitLimit := by
        intro limiters now permits late present all
        exact admitted_opened remaining fewer present all
          (Nat.le_trans ends (Nat.add_le_add_right late _))
      cases event with
      | tick now =>
        rw [answersFrom_tick]
        cases present : limiters key with
        | none =>
          have absent : ticked options limiters now key = none := by
            rw [ticked, present]
            rfl
          have bound := spanned (ticked options limiters now)
          rwa [absent] at bound
        | some limiter =>
          by_cases passed : limiter.lastReplenishment + options.window ≤ now
          · have replenished := @ticked_passed options key limiters limiter present now passed
            have bound := opened (ticked options limiters now) now options.permitLimit begun
              replenished first
            rw [Nat.succ_mul]
            omega
          · have bound := spanned (ticked options limiters now)
            rwa [ticked_open present (Nat.not_le.mp passed)] at bound
      | request arrival =>
        by_cases own : partitionKey platform arrival.context = key
        · cases present : limiters key with
          | none =>
            have current : (limiters key).getD ⟨arrival.now, options.permitLimit⟩ =
                ⟨arrival.now, options.permitLimit⟩ := by
              rw [present, Option.getD_none]
            have counted := @admitted_own platform options key start finish rest limiters arrival own
              _ current
            have bound := opened (requested platform options limiters arrival) arrival.now _ begun
              (requested_own own current).1 first
            rw [Nat.succ_mul]
            dsimp only at counted bound
            omega
          | some limiter =>
            have current : (limiters key).getD ⟨arrival.now, options.permitLimit⟩ = limiter := by
              rw [present, Option.getD_some]
            have counted := @admitted_own platform options key start finish rest limiters arrival own
              limiter current
            have bound := spanned (requested platform options limiters arrival)
            rw [(requested_own own current).1] at bound
            simp only [permitsLeft, Option.map_some, Option.getD_some] at bound ⊢
            omega
        · rw [admitted_other own]
          have bound := spanned (requested platform options limiters arrival)
          rwa [requested_other own] at bound

/-- No window has more permits than the limit. -/
def WithinLimit (options : FixedWindowRateLimiterOptions)
    (limiters : Text → Option FixedWindowRateLimiter) : Prop :=
  ∀ key, permitsLeft (limiters key) ≤ options.permitLimit

theorem withinLimit_requested (within : WithinLimit options limiters) (arrival : Arrival) :
    WithinLimit options (requested platform options limiters arrival) := by
  intro key
  by_cases own : partitionKey platform arrival.context = key
  · have before := within key
    cases present : limiters key with
    | none =>
      have current : (limiters key).getD ⟨arrival.now, options.permitLimit⟩ =
          ⟨arrival.now, options.permitLimit⟩ := by
        rw [present, Option.getD_none]
      rw [(requested_own own current).1]
      exact Nat.sub_le _ _
    | some limiter =>
      have current : (limiters key).getD ⟨arrival.now, options.permitLimit⟩ = limiter := by
        rw [present, Option.getD_some]
      rw [(requested_own own current).1]
      rw [present] at before
      exact Nat.le_trans (Nat.sub_le _ _) before
  · rw [requested_other own]
    exact within key

theorem withinLimit_ticked (within : WithinLimit options limiters) (now : Nat) :
    WithinLimit options (ticked options limiters now) := by
  intro key
  have before := within key
  cases present : limiters key with
  | none =>
    have absent : ticked options limiters now key = none := by
      rw [ticked, present]
      rfl
    rw [absent]
    exact Nat.zero_le _
  | some limiter =>
    by_cases passed : limiter.lastReplenishment + options.window ≤ now
    · rw [ticked_passed present passed]
      exact Nat.le_refl _
    · rw [ticked_open present (Nat.not_le.mp passed), ← present]
      exact before

/-- What happens before a span does not count, and leaves at most the limit. -/
theorem admitted_run (chronological : Chronological run) (within : WithinLimit options limiters)
    (windows : Nat) (ends : finish ≤ start + windows * options.window) :
    (answersFrom platform options limiters run).countP (admittedIn platform key start finish) ≤
      (windows + 1) * options.permitLimit := by
  induction run generalizing limiters with
  | nil => exact Nat.zero_le _
  | cons event rest ih =>
    obtain ⟨first, remaining⟩ := List.pairwise_cons.mp chronological
    by_cases begun : start ≤ timeOf event
    · have after : ∀ each ∈ event :: rest, start ≤ timeOf each := by
        intro each member
        rcases List.mem_cons.mp member with rfl | later
        · exact begun
        · exact Nat.le_trans begun (first each later)
      have bound := @admitted_spanned platform options key start finish (event :: rest) limiters
        chronological windows after ends
      have left := within key
      rw [Nat.succ_mul]
      omega
    · cases event with
      | tick now => exact ih remaining (withinLimit_ticked within now)
      | request arrival =>
        rw [answersFrom_request, List.countP_cons_of_neg]
        · exact ih remaining (withinLimit_requested within arrival)
        · have early : ¬ start ≤ arrival.now := begun
          simp [admittedIn, early]

/-- In the time of some windows a partition has admitted at most the limit for each of
them and once more. -/
theorem window_limit (platform : Platform) (options : FixedWindowRateLimiterOptions)
    (run : List (Event Arrival Nat)) (chronological : Chronological run) (key : Text)
    (start windows : Nat) :
    (admissions platform options run).countP
        (admittedIn platform key start (start + windows * options.window)) ≤
      (windows + 1) * options.permitLimit :=
  admitted_run chronological (fun _ => Nat.zero_le _) windows (Nat.le_refl _)

end Limit

section Rejections

variable {platform : Platform} {options : FixedWindowRateLimiterOptions} {key : Text}

/-- The limiters after a run. -/
def limitersAfter (platform : Platform) (options : FixedWindowRateLimiterOptions)
    (run : List (Event Arrival Nat)) : Text → Option FixedWindowRateLimiter :=
  reached (fixedWindow options) (fun arrival => partitionKey platform arrival.context)
    (fun _ => none) run

def isTick : Event Arrival Nat → Bool
  | .request _ => false
  | .tick _ => true

/-- Events with no heartbeat between them are less than a period apart. -/
def Beats (period : Nat) (run : List (Event Arrival Nat)) : Prop :=
  ∀ earlier first middle second later, run = earlier ++ first :: (middle ++ second :: later) →
    (∀ event ∈ middle, isTick event = false) → timeOf second < timeOf first + period

/-- What a window has admitted since it was opened it has taken from the limit, and the
last heartbeat, or else its first request, was in its time. -/
structure Open (platform : Platform) (options : FixedWindowRateLimiterOptions) (key : Text)
    (run : List (Event Arrival Nat)) (limiter : FixedWindowRateLimiter) : Prop where
  taken : ∀ finish, (∀ event ∈ run, timeOf event < finish) →
    options.permitLimit ≤ limiter.permitCount + (admissions platform options run).countP
      (admittedIn platform key limiter.lastReplenishment finish)
  marked : ∃ earlier mark middle, run = earlier ++ mark :: middle ∧
    (∀ event ∈ middle, isTick event = false) ∧
      limiter.lastReplenishment ≤ timeOf mark ∧
        timeOf mark < limiter.lastReplenishment + options.window

theorem limitersAfter_concat (run : List (Event Arrival Nat)) (event : Event Arrival Nat) :
    limitersAfter platform options (run ++ [event]) =
      match event with
      | .request arrival => requested platform options (limitersAfter platform options run) arrival
      | .tick now => ticked options (limitersAfter platform options run) now := by
  rw [limitersAfter, reached_append]
  cases event <;> rfl

theorem admissions_concat (run : List (Event Arrival Nat)) (event : Event Arrival Nat) :
    admissions platform options (run ++ [event]) = admissions platform options run ++
      answersFrom platform options (limitersAfter platform options run) [event] := by
  rw [admissions, answers_append]
  rfl

/-- A request leaves the last heartbeat where it was. -/
theorem Open.marked_request {run : List (Event Arrival Nat)} {limiter : FixedWindowRateLimiter}
    (opened : Open platform options key run limiter) (arrival : Arrival) :
    ∃ earlier mark middle, run ++ [.request arrival] = earlier ++ mark :: middle ∧
      (∀ event ∈ middle, isTick event = false) ∧
        limiter.lastReplenishment ≤ timeOf mark ∧
          timeOf mark < limiter.lastReplenishment + options.window := by
  obtain ⟨earlier, mark, middle, rfl, quiet, late, early⟩ := opened.marked
  refine ⟨earlier, mark, middle ++ [.request arrival], by simp, ?_, late, early⟩
  intro event member
  rcases List.mem_append.mp member with within | last
  · exact quiet event within
  · rw [List.mem_singleton.mp last]
    rfl

/-- Nothing after a window's mark is earlier than the window. -/
theorem Open.begun {run : List (Event Arrival Nat)} {limiter : FixedWindowRateLimiter}
    (opened : Open platform options key run limiter) {now : Nat}
    (ordered : ∀ event ∈ run, timeOf event ≤ now) : limiter.lastReplenishment ≤ now := by
  obtain ⟨earlier, mark, middle, rfl, _, late, _⟩ := opened.marked
  exact Nat.le_trans late (ordered mark (List.mem_append_right _ List.mem_cons_self))

/-- Windows are open after every run. -/
theorem open_run {run : List (Event Arrival Nat)} (chronological : Chronological run)
    {limiter : FixedWindowRateLimiter}
    (present : limitersAfter platform options run key = some limiter) :
    Open platform options key run limiter := by
  induction run using List.reverseRecOn generalizing limiter with
  | nil => cases present
  | append_singleton run event ih =>
    obtain ⟨former, _, each⟩ := List.pairwise_append.mp chronological
    have ordered : ∀ other ∈ run, timeOf other ≤ timeOf event := fun other member =>
      each other member event List.mem_cons_self
    have within : ∀ {finish}, (∀ other ∈ run ++ [event], timeOf other < finish) →
        (∀ other ∈ run, timeOf other < finish) ∧ timeOf event < finish := fun all =>
      ⟨fun other member => all other (List.mem_append_left _ member),
        all event (List.mem_append_right _ List.mem_cons_self)⟩
    rw [limitersAfter_concat] at present
    cases event with
    | tick now =>
      dsimp only at present
      have same : admissions platform options (run ++ [.tick now]) =
          admissions platform options run := by
        rw [admissions_concat, answersFrom_tick]
        exact List.append_nil _
      cases before : limitersAfter platform options run key with
      | none =>
        rw [ticked, before] at present
        cases present
      | some old =>
        by_cases passed : old.lastReplenishment + options.window ≤ now
        · rw [ticked_passed before passed] at present
          obtain rfl := Option.some.inj present
          exact ⟨fun _ _ => Nat.le_add_right _ _, run, .tick now, [], rfl, List.forall_mem_nil _,
            Nat.le_refl _, Nat.lt_add_of_pos_right options.window_positive⟩
        · rw [ticked_open before (Nat.not_le.mp passed)] at present
          obtain rfl := Option.some.inj present
          have opened := ih former before
          refine ⟨fun finish all => ?_, run, .tick now, [], rfl, List.forall_mem_nil _,
            opened.begun ordered, Nat.not_le.mp passed⟩
          rw [same]
          exact opened.taken finish (within all).1
    | request arrival =>
      dsimp only at present
      have grows : admissions platform options (run ++ [.request arrival]) =
          admissions platform options run ++ [(arrival, ((fixedWindow options).react
            (limitersAfter platform options run (partitionKey platform arrival.context))
              arrival).2)] := by
        rw [admissions_concat, answersFrom_request]
        rfl
      by_cases own : partitionKey platform arrival.context = key
      · rw [own] at grows
        cases before : limitersAfter platform options run key with
        | none =>
          have current : (limitersAfter platform options run key).getD
              ⟨arrival.now, options.permitLimit⟩ = ⟨arrival.now, options.permitLimit⟩ := by
            rw [before, Option.getD_none]
          obtain ⟨takes, answers⟩ := requested_own own current
          rw [takes] at present
          obtain rfl := Option.some.inj present
          refine ⟨fun finish all => ?_, run, .request arrival, [], rfl,
            List.forall_mem_nil _, Nat.le_refl _,
            Nat.lt_add_of_pos_right options.window_positive⟩
          have early : arrival.now < finish := (within all).2
          rw [grows, answers, List.countP_append, List.countP_singleton, if_pos]
          · dsimp only
            omega
          · simp [admittedIn, own, early, options.limit_positive]
        | some old =>
          have current : (limitersAfter platform options run key).getD
              ⟨arrival.now, options.permitLimit⟩ = old := by
            rw [before, Option.getD_some]
          obtain ⟨takes, answers⟩ := requested_own own current
          rw [takes] at present
          obtain rfl := Option.some.inj present
          have opened := ih former before
          refine ⟨fun finish all => ?_, opened.marked_request arrival⟩
          have taken := opened.taken finish (within all).1
          have early : arrival.now < finish := (within all).2
          have begun : old.lastReplenishment ≤ arrival.now := opened.begun ordered
          rw [grows, answers, List.countP_append, List.countP_singleton]
          by_cases left : 0 < old.permitCount
          · rw [if_pos]
            · dsimp only
              omega
            · simp [admittedIn, own, early, begun, left]
          · dsimp only
            omega
      · rw [requested_other own] at present
        have opened := ih former present
        refine ⟨fun finish all => ?_, opened.marked_request arrival⟩
        have taken := opened.taken finish (within all).1
        rw [grows, List.countP_append]
        omega

/-- A rejected request finds the limit admitted to its partition within a window and a
period of the heartbeat. -/
theorem rejected_after_limit (platform : Platform) (options : FixedWindowRateLimiterOptions)
    (period : Nat) (earlier : List (Event Arrival Nat)) (arrival : Arrival)
    (chronological : Chronological (earlier ++ [.request arrival]))
    (beats : Beats period (earlier ++ [.request arrival]))
    (rejected : admissions platform options (earlier ++ [.request arrival]) =
      admissions platform options earlier ++ [(arrival, false)]) :
    options.permitLimit ≤ (admissions platform options earlier).countP
      (admittedIn platform (partitionKey platform arrival.context)
        (arrival.now + 1 - (options.window + period)) (arrival.now + 1)) := by
  obtain ⟨former, _, each⟩ := List.pairwise_append.mp chronological
  have ordered : ∀ event ∈ earlier, timeOf event < arrival.now + 1 := fun event member =>
    Nat.lt_succ_of_le (each event member (.request arrival) List.mem_cons_self)
  have answer : ((fixedWindow options).react
      (limitersAfter platform options earlier (partitionKey platform arrival.context))
        arrival).2 = false := by
    rw [admissions_concat, answersFrom_request] at rejected
    exact (Prod.mk.inj (List.cons.inj (List.append_cancel_left rejected)).1).2
  cases present : limitersAfter platform options earlier (partitionKey platform arrival.context) with
  | none =>
    have current : (limitersAfter platform options earlier (partitionKey platform arrival.context)).getD
        ⟨arrival.now, options.permitLimit⟩ = ⟨arrival.now, options.permitLimit⟩ := by
      rw [present, Option.getD_none]
    rw [(@requested_own platform options _ _ arrival rfl _ current).2] at answer
    exact absurd options.limit_positive (of_decide_eq_false answer)
  | some limiter =>
    have current : (limitersAfter platform options earlier (partitionKey platform arrival.context)).getD
        ⟨arrival.now, options.permitLimit⟩ = limiter := by
      rw [present, Option.getD_some]
    rw [(@requested_own platform options _ _ arrival rfl _ current).2] at answer
    have exhausted : limiter.permitCount = 0 := Nat.eq_zero_of_not_pos (of_decide_eq_false answer)
    have opened := open_run former present
    have taken := opened.taken (arrival.now + 1) ordered
    rw [exhausted, Nat.zero_add] at taken
    refine Nat.le_trans taken (List.countP_mono_left fun admission _ counts => ?_)
    obtain ⟨before, mark, middle, split, quiet, _, early⟩ := opened.marked
    have soon : arrival.now < timeOf mark + period :=
      beats before mark middle (.request arrival) [] (by rw [split]; simp) quiet
    simp only [admittedIn, Bool.and_eq_true, decide_eq_true_eq] at counts ⊢
    refine ⟨⟨counts.1.1, ?_⟩, counts.2⟩
    omega

end Rejections

section Sample

/-- A request without a caller at a time. -/
def anonymousAt (now : Nat) : Arrival := ⟨HttpContext.request .nobody [] "GET".toList [], now⟩

/-- One request a minute. -/
def onePerMinute : FixedWindowRateLimiterOptions := ⟨1, 60, Nat.one_pos, by decide⟩

theorem two_in_a_window :
    (admissions plainPlatform onePerMinute
        [.request (anonymousAt 0), .tick 60, .request (anonymousAt 60)]).countP
      (admittedIn plainPlatform "anonymous".toList 0 (0 + 1 * 60)) ≤ (1 + 1) * 1 :=
  window_limit plainPlatform onePerMinute _ (by simp [Chronological, timeOf, anonymousAt]) _ 0 1

theorem rejected_after_limit_second :
    1 ≤ (admissions plainPlatform onePerMinute [.request (anonymousAt 0)]).countP
      (admittedIn plainPlatform (partitionKey plainPlatform (anonymousAt 1).context)
        ((anonymousAt 1).now + 1 - (60 + 2)) ((anonymousAt 1).now + 1)) := by
  refine rejected_after_limit plainPlatform onePerMinute 2 [.request (anonymousAt 0)] (anonymousAt 1)
    (by simp [Chronological, timeOf, anonymousAt]) ?_ ?_
  · intro earlier first middle second later parts _
    have early : ∀ event ∈ [Event.request (anonymousAt 0)] ++ [.request (anonymousAt 1)],
        timeOf event ≤ 1 := by
      simp [timeOf, anonymousAt]
    have last := early second (by rw [parts]; simp)
    omega
  · obtain ⟨both, _⟩ := @admissions_pair plainPlatform (anonymousAt 0) (anonymousAt 1) onePerMinute
      rfl rfl
    exact both

end Sample

end ApiGateway.RateLimiting
