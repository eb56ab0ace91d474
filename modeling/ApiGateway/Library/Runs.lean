import Mathlib.Data.List.Basic

/-!
# Runs of a step function

A run performs steps one after another. A condition on single steps is followed
along a run: each step is judged in the state it is performed in.

An invariant that allowed steps keep holds after every run along which the steps
are allowed. If moreover a disallowed step loses the invariant for good, it
holds after exactly those runs.
-/

namespace ApiGateway.Runs

universe u v
variable {State : Type u} {Step : Type v} (perform : Step → State → State)

/-- Perform steps in order. -/
def run (steps : List Step) (state : State) : State :=
  steps.foldl (fun reached step => perform step reached) state

theorem run_concat (steps : List Step) (last : Step) (state : State) :
    run perform (steps ++ [last]) state = perform last (run perform steps state) := by
  simp [run]

theorem run_append (former latter : List Step) (state : State) :
    run perform (former ++ latter) state = run perform latter (run perform former state) := by
  simp [run]

/-- Each step of a run is allowed in the state it is performed in. -/
def Along (allowed : State → Step → Prop) : List Step → State → Prop
  | [], _ => True
  | step :: rest, state => allowed state step ∧ Along allowed rest (perform step state)

instance decidableAlong {allowed : State → Step → Prop} [∀ state step, Decidable (allowed state step)] :
    (steps : List Step) → (state : State) → Decidable (Along perform allowed steps state)
  | [], _ => isTrue trivial
  | step :: rest, state =>
    have : Decidable (Along perform allowed rest (perform step state)) :=
      decidableAlong rest (perform step state)
    inferInstanceAs (Decidable (allowed state step ∧ Along perform allowed rest (perform step state)))

variable {perform} {invariant lost : State → Prop} {allowed : State → Step → Prop}

/-- Allowed steps keep the invariant, so runs of them do. -/
theorem invariant_run
    (kept : ∀ state step, invariant state → allowed state step → invariant (perform step state))
    {steps : List Step} {state : State} (along : Along perform allowed steps state)
    (initial : invariant state) : invariant (run perform steps state) := by
  induction steps generalizing state with
  | nil => exact initial
  | cons step rest ih => exact ih along.2 (kept state step initial along.1)

/-- Two runs of the same steps stay related when allowed steps keep them so. -/
theorem related_run {Other : Type u} {performOther : Step → Other → Other}
    {related : State → Other → Prop} {allowed : Other → Step → Prop}
    (kept : ∀ state other step, related state other → allowed other step →
      related (perform step state) (performOther step other))
    {steps : List Step} {state : State} {other : Other} (along : Along performOther allowed steps other)
    (initial : related state other) :
    related (run perform steps state) (run performOther steps other) := by
  induction steps generalizing state other with
  | nil => exact initial
  | cons step rest ih => exact ih along.2 (kept state other step initial along.1)

theorem along_append {former latter : List Step} {state : State} :
    Along perform allowed (former ++ latter) state ↔
      Along perform allowed former state ∧ Along perform allowed latter (run perform former state) := by
  induction former generalizing state with
  | nil => simp [Along, run]
  | cons step rest ih =>
    rw [List.cons_append, Along, Along, ih, and_assoc]
    rfl

/-- What the invariant and the allowed steps imply of single steps holds along the
run. -/
theorem along_invariant {implied : State → Step → Prop}
    (kept : ∀ state step, invariant state → allowed state step → invariant (perform step state))
    (implies : ∀ state step, invariant state → allowed state step → implied state step)
    {steps : List Step} {state : State} (along : Along perform allowed steps state)
    (initial : invariant state) : Along perform implied steps state := by
  induction steps generalizing state with
  | nil => trivial
  | cons step rest ih =>
    exact ⟨implies state step initial along.1, ih along.2 (kept state step initial along.1)⟩

theorem along_mono {implied : State → Step → Prop}
    (implies : ∀ state step, allowed state step → implied state step) {steps : List Step}
    {state : State} (along : Along perform allowed steps state) : Along perform implied steps state := by
  induction steps generalizing state with
  | nil => trivial
  | cons step rest ih => exact ⟨implies state step along.1, ih along.2⟩

theorem along_and {other : State → Step → Prop} {steps : List Step} {state : State}
    (along : Along perform allowed steps state) (also : Along perform other steps state) :
    Along perform (fun state step => allowed state step ∧ other state step) steps state := by
  induction steps generalizing state with
  | nil => trivial
  | cons step rest ih => exact ⟨⟨along.1, also.1⟩, ih along.2 also.2⟩

/-- Every run is allowed when every step is. -/
theorem along_of_forall (always : ∀ state step, allowed state step) (steps : List Step)
    (state : State) : Along perform allowed steps state := by
  induction steps generalizing state with
  | nil => trivial
  | cons step rest ih => exact ⟨always state step, ih _⟩

/-- A run is allowed when its steps are allowed in every state. -/
theorem along_of_mem {steps : List Step} (always : ∀ step ∈ steps, ∀ state, allowed state step)
    (state : State) : Along perform allowed steps state := by
  induction steps generalizing state with
  | nil => trivial
  | cons step rest ih =>
    exact ⟨always step List.mem_cons_self state,
      ih (fun later member => always later (List.mem_cons_of_mem step member)) _⟩

/-- Each step of a run is performed in a state that a first part of the run reaches. -/
theorem along_prefixes (steps : List Step) (state : State) :
    Along perform (fun reached _ => ∃ during, during <+: steps ∧ run perform during state = reached)
      steps state := by
  induction steps generalizing state with
  | nil => trivial
  | cons step rest ih =>
    refine ⟨⟨[], List.nil_prefix, rfl⟩, along_mono ?_ (ih (perform step state))⟩
    rintro reached _ ⟨during, part, same⟩
    exact ⟨step :: during, List.cons_prefix_cons.mpr ⟨rfl, part⟩, same⟩

/-- Where a step keeps the invariant exactly when it is allowed, the invariant
holds all along exactly the runs whose steps are allowed. -/
theorem always_iff
    (exact : ∀ state step, invariant state → (invariant (perform step state) ↔ allowed state step))
    {steps : List Step} {state : State} (initial : invariant state) :
    (∀ earlier, earlier <+: steps → invariant (run perform earlier state)) ↔
      Along perform allowed steps state := by
  induction steps generalizing state with
  | nil =>
    refine ⟨fun _ => trivial, fun _ earlier part => ?_⟩
    rw [List.prefix_nil.mp part]
    exact initial
  | cons step rest ih =>
    constructor
    · intro always
      have next : invariant (perform step state) :=
        always [step] (List.prefix_append [step] rest)
      exact ⟨(exact state step initial).mp next, (ih next).mp (fun earlier part =>
        always (step :: earlier) (List.cons_prefix_cons.mpr ⟨rfl, part⟩))⟩
    · rintro ⟨permitted, along⟩ earlier part
      cases earlier with
      | nil => exact initial
      | cons first earlier =>
        obtain ⟨rfl, shorter⟩ := List.cons_prefix_cons.mp part
        exact (ih ((exact state first initial).mpr permitted)).mpr along earlier shorter

/-- An invariant that a disallowed step loses for good holds after exactly the
runs whose steps are allowed. -/
theorem invariant_run_iff
    (kept : ∀ state step, invariant state → allowed state step → invariant (perform step state))
    (departs : ∀ state step, invariant state → ¬ allowed state step → lost (perform step state))
    (absorbing : ∀ state step, lost state → lost (perform step state))
    (apart : ∀ state, lost state → ¬ invariant state)
    {steps : List Step} {state : State} (initial : invariant state) :
    invariant (run perform steps state) ↔ Along perform allowed steps state := by
  refine ⟨fun holds => ?_, fun along => invariant_run kept along initial⟩
  induction steps generalizing state with
  | nil => trivial
  | cons step rest ih =>
    by_cases permitted : allowed state step
    · exact ⟨permitted, ih (kept state step initial permitted) holds⟩
    · have gone : lost (run perform rest (perform step state)) :=
        invariant_run (fun state step gone _ => absorbing state step gone)
          (along_of_forall (fun _ _ => trivial) rest _) (departs state step initial permitted)
      exact absurd holds (apart _ gone)

end ApiGateway.Runs
