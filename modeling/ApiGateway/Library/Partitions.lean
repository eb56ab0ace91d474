import Mathlib.Logic.Function.Basic
import Mathlib.Data.List.Basic

/-!
# Machines under keys

Each key has a machine of its own. A request goes to the machine of its key, which
answers it; a tick goes to every machine. Machines do not see each other, so what
a machine answers is determined by the ticks and the requests under its own key.
-/

namespace ApiGateway.Partitions

universe u v w x y z
variable {Key : Type u} {State : Type v} {Request : Type w} {Tick : Type x} {Answer : Type y}

/-- How a machine answers a request and how a tick changes it. -/
structure Machine (State : Type v) (Request : Type w) (Tick : Type x) (Answer : Type y) where
  react : State → Request → State × Answer
  tick : State → Tick → State

/-- One event of a run. -/
inductive Event (Request : Type w) (Tick : Type x) where
  | request (request : Request)
  | tick (tick : Tick)

variable [DecidableEq Key] (machine : Machine State Request Tick Answer) (keyOf : Request → Key)

/-- The requests of a run with their answers, in order. -/
def answers : (Key → State) → List (Event Request Tick) → List (Request × Answer)
  | _, [] => []
  | states, .request request :: rest =>
    (request, (machine.react (states (keyOf request)) request).2) ::
      answers (Function.update states (keyOf request)
        (machine.react (states (keyOf request)) request).1) rest
  | states, .tick tick :: rest => answers (fun key => machine.tick (states key) tick) rest

/-- An event that is no request, or a request that passes a test. -/
def passes (test : Request → Bool) : Event Request Tick → Bool
  | .request request => test request
  | .tick _ => true

/-- Machines that start alike answer the requests under chosen keys alike, whether or
not there are requests under others. -/
theorem answers_filter (chosen : Key → Bool) (events : List (Event Request Tick))
    {states others : Key → State} (alike : ∀ key, chosen key = true → states key = others key) :
    (answers machine keyOf states events).filter (fun answered => chosen (keyOf answered.1)) =
      answers machine keyOf others
        (events.filter (passes (fun request => chosen (keyOf request)))) := by
  induction events generalizing states others with
  | nil => rfl
  | cons event rest ih =>
    cases event with
    | tick tick =>
      have kept : (Event.tick tick :: rest).filter (passes (fun request => chosen (keyOf request))) =
          .tick tick :: rest.filter (passes (fun request => chosen (keyOf request))) := rfl
      rw [kept, answers, answers]
      apply ih
      intro key among
      rw [alike key among]
    | request request =>
      rw [answers]
      by_cases among : chosen (keyOf request) = true
      · have kept : (Event.request request :: rest).filter
            (passes (fun request => chosen (keyOf request))) =
              .request request :: rest.filter (passes (fun request => chosen (keyOf request))) :=
          List.filter_cons_of_pos among
        rw [kept, answers, List.filter_cons, if_pos among, alike (keyOf request) among]
        congr 1
        apply ih
        intro key also
        by_cases same : key = keyOf request
        · rw [same, Function.update_self, Function.update_self]
        · rw [Function.update_of_ne same, Function.update_of_ne same, alike key also]
      · have dropped : (Event.request request :: rest).filter
            (passes (fun request => chosen (keyOf request))) =
              rest.filter (passes (fun request => chosen (keyOf request))) :=
          List.filter_cons_of_neg among
        rw [dropped, List.filter_cons, if_neg among]
        apply ih
        intro key also
        have apart : key ≠ keyOf request := by
          rintro rfl
          exact among also
        rw [Function.update_of_ne apart, alike key also]

/-- The requests with answers are those of the run. -/
theorem mem_answers {states : Key → State} {events : List (Event Request Tick)}
    {answered : Request × Answer} (member : answered ∈ answers machine keyOf states events) :
    .request answered.1 ∈ events := by
  induction events generalizing states with
  | nil => cases member
  | cons event rest ih =>
    cases event with
    | tick tick =>
      rw [answers] at member
      exact List.mem_cons_of_mem _ (ih member)
    | request request =>
      rw [answers] at member
      rcases List.mem_cons.mp member with rfl | later
      · exact List.mem_cons_self
      · exact List.mem_cons_of_mem _ (ih later)

/-- The machines after a run. -/
def reached : (Key → State) → List (Event Request Tick) → Key → State
  | states, [] => states
  | states, .request request :: rest =>
    reached (Function.update states (keyOf request)
      (machine.react (states (keyOf request)) request).1) rest
  | states, .tick tick :: rest => reached (fun key => machine.tick (states key) tick) rest

/-- A run that goes on answers from the machines reached. -/
theorem answers_append (states : Key → State) (former latter : List (Event Request Tick)) :
    answers machine keyOf states (former ++ latter) =
      answers machine keyOf states former ++
        answers machine keyOf (reached machine keyOf states former) latter := by
  induction former generalizing states with
  | nil => rfl
  | cons event rest ih =>
    cases event with
    | request request => simp only [List.cons_append, answers, reached, ih]
    | tick tick => simp only [List.cons_append, answers, reached, ih]

theorem reached_append (states : Key → State) (former latter : List (Event Request Tick)) :
    reached machine keyOf states (former ++ latter) =
      reached machine keyOf (reached machine keyOf states former) latter := by
  induction former generalizing states with
  | nil => rfl
  | cons event rest ih =>
    cases event with
    | request request => simp only [List.cons_append, reached, ih]
    | tick tick => simp only [List.cons_append, reached, ih]

end ApiGateway.Partitions
