import Mathlib.Logic.Function.Basic
import Mathlib.Data.List.Nodup

/-!
# Numbering items among those of equal key

A list is passed with a count for each key, and every item gets the number that it
has among the items of its key. The pairs of key and number are then all different,
and under a key the numbers are those up to how often it occurs.
-/

namespace ApiGateway.Numbering

universe u v
variable {Item : Type u} {Key : Type v} [DecidableEq Key] (keyOf : Item → Key)

/-- The items with their numbers, after those already counted. -/
def number : (Key → Nat) → List Item → List (Item × Nat)
  | _, [] => []
  | counts, item :: rest =>
    (item, counts (keyOf item) + 1) ::
      number (Function.update counts (keyOf item) (counts (keyOf item) + 1)) rest

/-- The key of a numbered item and its number. -/
def label (numbered : Item × Nat) : Key × Nat := (keyOf numbered.1, numbered.2)

theorem map_fst_number (counts : Key → Nat) (items : List Item) :
    (number keyOf counts items).map Prod.fst = items := by
  induction items generalizing counts with
  | nil => rfl
  | cons item rest ih => rw [number, List.map_cons, ih]

/-- Under a key the numbers go on from its count. -/
theorem mem_labels_iff [BEq Key] [LawfulBEq Key] (counts : Key → Nat) (items : List Item)
    (key : Key) (position : Nat) :
    (key, position) ∈ (number keyOf counts items).map (label keyOf) ↔
      counts key < position ∧ position ≤ counts key + (items.map keyOf).count key := by
  induction items generalizing counts with
  | nil =>
    simp only [number, List.map_nil, List.not_mem_nil, List.count_nil, false_iff]
    omega
  | cons item rest ih =>
    rw [number, List.map_cons, List.mem_cons, ih, List.map_cons, label, Prod.mk.injEq]
    by_cases same : key = keyOf item
    · subst same
      rw [Function.update_self, List.count_cons_self]
      simp only [true_and]
      omega
    · rw [Function.update_of_ne same, List.count_cons_of_ne (Ne.symm same)]
      simp only [same, false_and, false_or]

theorem nodup_labels (counts : Key → Nat) (items : List Item) :
    ((number keyOf counts items).map (label keyOf)).Nodup := by
  induction items generalizing counts with
  | nil => exact List.nodup_nil
  | cons item rest ih =>
    rw [number, List.map_cons, List.nodup_cons]
    constructor
    · rw [label, mem_labels_iff, Function.update_self]
      omega
    · exact ih _

end ApiGateway.Numbering
