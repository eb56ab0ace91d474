import Mathlib.Data.List.Basic

/-!
# Fallible functions over lists

A traversal applies a function that may fail to every element and ends with the first
failure. Where it succeeds the function succeeded on every element, and the results are
those, in order.
-/

namespace ApiGateway.Traversals

universe u v w
variable {ε : Type u} {α : Type v} {β : Type u} {δ : Type w} {fallible : α → Except ε β}

/-- One element succeeds and then the rest do. -/
theorem mapM_cons_ok_iff {head : α} {rest : List α} {results : List β} :
    (head :: rest).mapM fallible = .ok results ↔
      ∃ first, fallible head = .ok first ∧
        ∃ later, rest.mapM fallible = .ok later ∧ first :: later = results := by
  rw [List.mapM_cons]
  cases former : fallible head with
  | error fault => simp [bind, Except.bind]
  | ok first =>
    cases latter : rest.mapM fallible with
    | error fault => simp [bind, Except.bind]
    | ok later => simp [bind, Except.bind, pure, Except.pure]

/-- What is told of every result by its element is told of the list. -/
theorem map_of_mapM {elements : List α} {results : List β} {ofElement : α → δ} {ofResult : β → δ}
    (same : ∀ element ∈ elements, ∀ result, fallible element = .ok result →
      ofResult result = ofElement element)
    (done : elements.mapM fallible = .ok results) :
    results.map ofResult = elements.map ofElement := by
  induction elements generalizing results with
  | nil =>
    cases done
    rfl
  | cons head rest ih =>
    obtain ⟨first, former, later, latter, rfl⟩ := mapM_cons_ok_iff.mp done
    rw [List.map_cons, List.map_cons, same head List.mem_cons_self first former,
      ih (fun element member => same element (List.mem_cons_of_mem head member)) latter]

/-- The results are what the elements have. -/
theorem mem_of_mapM {elements : List α} {results : List β}
    (done : elements.mapM fallible = .ok results) (result : β) :
    result ∈ results ↔ ∃ element ∈ elements, fallible element = .ok result := by
  induction elements generalizing results with
  | nil =>
    cases done
    simp
  | cons head rest ih =>
    obtain ⟨first, former, later, latter, rfl⟩ := mapM_cons_ok_iff.mp done
    simp [ih latter, former, eq_comm]

/-- A traversal succeeds exactly where the function does on every element. -/
theorem mapM_ok_iff {elements : List α} :
    (∃ results, elements.mapM fallible = .ok results) ↔
      ∀ element ∈ elements, ∃ result, fallible element = .ok result := by
  induction elements with
  | nil => simp [pure, Except.pure]
  | cons head rest ih =>
    simp only [mapM_cons_ok_iff, List.forall_mem_cons, ← ih]
    constructor
    · rintro ⟨_, first, former, later, latter, _⟩
      exact ⟨⟨first, former⟩, later, latter⟩
    · rintro ⟨⟨first, former⟩, later, latter⟩
      exact ⟨_, first, former, later, latter, rfl⟩

end ApiGateway.Traversals
