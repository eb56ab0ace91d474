import Mathlib.Data.List.Basic

/-!
# Fields under names that fold together

A collection holds named values in the order they were added and may hold
several under one name. Two names are one when they fold to the same key, such
as names that differ in case only. Adding appends; removing drops every value
under a name.
-/

namespace ApiGateway.Fields

universe u v w
variable {ν : Type u} {κ : Type v} {α : Type w} [DecidableEq κ] {fold : ν → κ}

/-- The values under a name, in order. -/
def values (fold : ν → κ) (name : ν) (fields : List (ν × α)) : List α :=
  (fields.filter (fun field => decide (fold field.1 = fold name))).map Prod.snd

/-- The fields that are left when every name of a list is removed. -/
def removing (fold : ν → κ) (names : List ν) (fields : List (ν × α)) : List (ν × α) :=
  fields.filter (fun field => decide (fold field.1 ∉ names.map fold))

theorem values_append (name : ν) (former latter : List (ν × α)) :
    values fold name (former ++ latter) = values fold name former ++ values fold name latter := by
  simp [values]

/-- Nothing is held under a name exactly when no field has it. -/
theorem values_nil_iff {name : ν} {fields : List (ν × α)} :
    values fold name fields = [] ↔ ∀ field ∈ fields, fold field.1 ≠ fold name := by
  simp [values, List.filter_eq_nil_iff]

theorem values_ne_nil {name : ν} {fields : List (ν × α)} {field : ν × α} (held : field ∈ fields)
    (same : fold field.1 = fold name) : values fold name fields ≠ [] :=
  fun none => values_nil_iff.mp none field held same

/-- Fields chosen by a test on names that respects folding are all kept under a
name that passes it. -/
theorem values_filter_kept {name : ν} (test : ν → Bool) (fields : List (ν × α))
    (respects : ∀ other, fold other = fold name → test other = test name)
    (passes : test name = true) :
    values fold name (fields.filter (fun field => test field.1)) = values fold name fields := by
  rw [values, values, List.filter_filter]
  congr 1
  refine List.filter_congr (fun field _ => ?_)
  by_cases same : fold field.1 = fold name
  · simp [same, respects field.1 same, passes]
  · simp [same]

/-- They are all dropped under a name that fails it. -/
theorem values_filter_dropped {name : ν} (test : ν → Bool) (fields : List (ν × α))
    (respects : ∀ other, fold other = fold name → test other = test name)
    (fails : test name = false) :
    values fold name (fields.filter (fun field => test field.1)) = [] := by
  refine values_nil_iff.mpr (fun field held same => ?_)
  have passed : test field.1 = true := by simpa using (List.mem_filter.mp held).2
  rw [respects field.1 same, fails] at passed
  exact Bool.noConfusion passed

theorem values_removing_removed {names : List ν} {name : ν} (fields : List (ν × α))
    (removed : fold name ∈ names.map fold) : values fold name (removing fold names fields) = [] :=
  values_filter_dropped (fun other => decide (fold other ∉ names.map fold)) fields
    (fun _ same => by rw [same]) (by simpa using removed)

theorem values_removing_kept {names : List ν} {name : ν} (fields : List (ν × α))
    (kept : fold name ∉ names.map fold) :
    values fold name (removing fold names fields) = values fold name fields :=
  values_filter_kept (fun other => decide (fold other ∉ names.map fold)) fields
    (fun _ same => by rw [same]) (by simpa using kept)

theorem removing_nil (fields : List (ν × α)) : removing fold [] fields = fields := by
  simp [removing]

/-- Names may be removed one by one. -/
theorem removing_cons (name : ν) (names : List ν) (fields : List (ν × α)) :
    removing fold (name :: names) fields = removing fold names (removing fold [name] fields) := by
  rw [removing, removing, removing, List.filter_filter]
  refine List.filter_congr (fun field _ => ?_)
  by_cases same : fold field.1 = fold name <;> simp [same]

end ApiGateway.Fields
