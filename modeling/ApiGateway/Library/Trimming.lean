import Mathlib.Data.List.DropRight

/-!
# Lists without their blank ends

Trimming drops the leading and the trailing items that are blank. What is left
begins and ends with items that are not, and it has every item that is not.
-/

namespace ApiGateway.Trimming

universe u
variable {α : Type u} {blank : α → Bool} {items : List α}

/-- Items without the blank ones at both ends. -/
def trim (blank : α → Bool) (items : List α) : List α := (items.dropWhile blank).rdropWhile blank

/-- The first item that is left is the first that is not blank. -/
theorem trim_cons {first : α} {rest : List α} (begins : items.dropWhile blank = first :: rest) :
    ∃ kept, trim blank items = first :: kept ∧ kept <+: rest := by
  have visible : blank first = false := by
    have found := List.head?_dropWhile_not blank items
    rw [begins] at found
    simpa using found
  rw [trim, begins]
  have lead : (first :: rest).rdropWhile blank <+: first :: rest := List.rdropWhile_prefix blank _
  cases kept : (first :: rest).rdropWhile blank with
  | nil =>
    have allBlank := List.rdropWhile_eq_nil_iff.mp kept first List.mem_cons_self
    rw [visible] at allBlank
    cases allBlank
  | cons head tail =>
    rw [kept, List.cons_prefix_cons] at lead
    exact ⟨tail, by rw [lead.1], lead.2⟩

theorem trim_nil (ends : items.dropWhile blank = []) : trim blank items = [] := by
  rw [trim, ends, List.rdropWhile_nil]

/-- Leading blanks may be dropped before. -/
theorem trim_dropWhile : trim blank (items.dropWhile blank) = trim blank items := by
  rw [trim, trim, List.dropWhile_idempotent]

theorem mem_trim_iff {item : α} (visible : blank item = false) :
    item ∈ trim blank items ↔ item ∈ items := by
  have front : item ∈ items.dropWhile blank ↔ item ∈ items := by
    constructor
    · exact fun member => (List.dropWhile_suffix blank).subset member
    · intro member
      rw [← @List.takeWhile_append_dropWhile _ blank items] at member
      rcases List.mem_append.mp member with dropped | kept
      · rw [List.mem_takeWhile_imp dropped] at visible
        cases visible
      · exact kept
  rw [← front, trim]
  constructor
  · exact fun member => (List.rdropWhile_prefix blank _).subset member
  · intro member
    rw [← @List.rdropWhile_append_rtakeWhile _ blank (items.dropWhile blank)] at member
    rcases List.mem_append.mp member with kept | dropped
    · exact kept
    · rw [List.mem_rtakeWhile_imp dropped] at visible
      cases visible

/-- What is left does not begin with a blank. -/
theorem head_trim {first : α} (begins : (trim blank items).head? = some first) :
    blank first = false := by
  cases dropped : items.dropWhile blank with
  | nil =>
    rw [trim_nil dropped] at begins
    cases begins
  | cons head rest =>
    obtain ⟨kept, whole, _⟩ := trim_cons dropped
    rw [whole, List.head?_cons, Option.some.injEq] at begins
    have visible := List.head?_dropWhile_not blank items
    rw [dropped, List.head?_cons, begins] at visible
    simpa using visible

/-- Nor does it end with one. -/
theorem last_trim {last : α} (ends : (trim blank items).getLast? = some last) :
    blank last = false := by
  have nonempty : trim blank items ≠ [] := by
    intro empty
    rw [empty] at ends
    cases ends
  have visible := List.rdropWhile_last_not blank _ nonempty
  rw [List.getLast?_eq_some_getLast nonempty, Option.some.injEq] at ends
  rw [← ends]
  exact eq_false_of_ne_true visible

theorem trim_within : trim blank items <:+: items :=
  (List.rdropWhile_prefix blank _).isInfix.trans (List.dropWhile_suffix blank).isInfix

/-- Items without blanks at the ends stay as they are. -/
theorem trim_eq_self (begins : ∀ first, items.head? = some first → blank first = false)
    (ends : ∀ last, items.getLast? = some last → blank last = false) :
    trim blank items = items := by
  have front : items.dropWhile blank = items := by
    cases items with
    | nil => rfl
    | cons first rest => rw [List.dropWhile_cons, if_neg (by simp [begins first rfl])]
  rw [trim, front, List.rdropWhile_eq_self_iff]
  intro nonempty
  simp [ends _ (List.getLast?_eq_some_getLast nonempty)]

theorem trim_trim : trim blank (trim blank items) = trim blank items :=
  trim_eq_self (fun _ => head_trim) (fun _ => last_trim)

end ApiGateway.Trimming
