import Mathlib.Data.List.Sort

/-!
# Queries under three-valued logic

A condition on a row is true, false or unknown. A comparison with a null is
unknown, a test for null never is, and a clause keeps the rows whose condition is
true.

Rows are listed in the order in which they are scanned. An ordering by a column
moves them and leaves rows with equal columns in their order of scanning.
-/

namespace ApiGateway.Sql

universe u v
variable {Row : Type u} {Key : Type v}

/-- A truth value; none is unknown. -/
abbrev Truth := Option Bool

/-- A false side decides a conjunction. -/
def Truth.and : Truth → Truth → Truth
  | some false, _ => some false
  | _, some false => some false
  | some true, some true => some true
  | _, _ => none

/-- A true side decides a disjunction. -/
def Truth.or : Truth → Truth → Truth
  | some true, _ => some true
  | _, some true => some true
  | some false, some false => some false
  | _, _ => none

/-- Equality of nullable values. -/
def equal [DecidableEq Key] (left right : Option Key) : Truth :=
  left.bind (fun former => right.map (fun latter => decide (former = latter)))

def isNull (value : Option Key) : Truth := some value.isNone

def isNotNull (value : Option Key) : Truth := some value.isSome

/-- Unknown does not satisfy a clause. -/
def satisfied (truth : Truth) : Bool := truth == some true

/-- The rows a clause keeps. -/
def select (condition : Row → Truth) (rows : List Row) : List Row :=
  rows.filter (fun row => satisfied (condition row))

/-- The greater column first, rows without one last. -/
def descNullsLast (column : Row → Option Key) (atMost : Key → Key → Bool) (left right : Row) : Prop :=
  match column left, column right with
  | _, none => True
  | none, some _ => False
  | some former, some latter => atMost latter former = true

instance (column : Row → Option Key) (atMost : Key → Key → Bool) :
    DecidableRel (descNullsLast column atMost) := by
  intro left right
  unfold descNullsLast
  split
  · exact inferInstanceAs (Decidable True)
  · exact inferInstanceAs (Decidable False)
  · exact inferInstanceAs (Decidable (_ = true))

/-- Rows in an order, ties in the order of scanning. -/
def orderBy (before : Row → Row → Prop) [DecidableRel before] (rows : List Row) : List Row :=
  rows.insertionSort before

@[simp] theorem satisfied_and (left right : Truth) :
    satisfied (left.and right) = (satisfied left && satisfied right) := by
  rcases left with _ | _ | _ <;> rcases right with _ | _ | _ <;> rfl

@[simp] theorem satisfied_or (left right : Truth) :
    satisfied (left.or right) = (satisfied left || satisfied right) := by
  rcases left with _ | _ | _ <;> rcases right with _ | _ | _ <;> rfl

@[simp] theorem satisfied_isNull (value : Option Key) : satisfied (isNull value) = value.isNone := by
  cases value <;> rfl

@[simp] theorem satisfied_isNotNull (value : Option Key) :
    satisfied (isNotNull value) = value.isSome := by
  cases value <;> rfl

@[simp] theorem satisfied_equal_some [DecidableEq Key] (left : Option Key) (key : Key) :
    satisfied (equal left (some key)) = decide (left = some key) := by
  cases left with
  | none => simp [equal, satisfied]
  | some former => by_cases same : former = key <;> simp [equal, satisfied, same]

/-- No value equals a null. -/
@[simp] theorem satisfied_equal_none [DecidableEq Key] (left : Option Key) :
    satisfied (equal left none) = false := by
  cases left <;> rfl

@[simp] theorem mem_select_iff {condition : Row → Truth} {rows : List Row} {row : Row} :
    row ∈ select condition rows ↔ row ∈ rows ∧ satisfied (condition row) = true := by
  rw [select, List.mem_filter]

/-- The first of a row put in order among others. -/
theorem head_orderedInsert (before : Row → Row → Prop) [DecidableRel before] (row : Row)
    (rows : List Row) :
    (rows.orderedInsert before row).head? =
      some (rows.head?.elim row (fun first => if before row first then row else first)) := by
  cases rows with
  | nil => rfl
  | cons first rest =>
    rw [List.orderedInsert_cons]
    by_cases earlier : before row first <;> simp [earlier]

/-- Where the column takes one value at most, the first row in order is the first
that has it, else the first that has none. -/
theorem head_orderBy_descNullsLast {column : Row → Option Key} {atMost : Key → Key → Bool} {key : Key}
    (reflexive : atMost key key = true) (rows : List Row)
    (single : ∀ row ∈ rows, column row = some key ∨ column row = none) :
    (orderBy (descNullsLast column atMost) rows).head? =
      (rows.find? (fun row => (column row).isSome)).or
        (rows.find? (fun row => (column row).isNone)) := by
  induction rows with
  | nil => rfl
  | cons row rest hypothesis =>
    have restSingle : ∀ other ∈ rest, column other = some key ∨ column other = none :=
      fun other member => single other (List.mem_cons_of_mem row member)
    have ordered := hypothesis restSingle
    rw [orderBy] at ordered
    rw [orderBy, List.insertionSort_cons, head_orderedInsert, ordered]
    rcases single row List.mem_cons_self with keyed | unkeyed
    · -- a row with the value precedes whatever comes first in the rest
      have precedes : ∀ other ∈ rest, descNullsLast column atMost row other := by
        intro other member
        rcases restSingle other member with alike | without
        · simpa [descNullsLast, keyed, alike] using reflexive
        · simp [descNullsLast, keyed, without]
      cases chosen : (rest.find? (fun row => (column row).isSome)).or
          (rest.find? (fun row => (column row).isNone)) with
      | none => simp [keyed]
      | some first =>
        have member : first ∈ rest := by
          rcases Option.or_eq_some_iff.mp chosen with found | ⟨_, found⟩
          · exact List.mem_of_find?_eq_some found
          · exact List.mem_of_find?_eq_some found
        simp [keyed, precedes first member]
    · cases found : rest.find? (fun row => (column row).isSome) with
      | some first =>
        have valued : (column first).isSome = true := by simpa using List.find?_some found
        obtain ⟨value, valuedAs⟩ := Option.isSome_iff_exists.mp valued
        have later : ¬ descNullsLast column atMost row first := by
          simp [descNullsLast, unkeyed, valuedAs]
        simp [unkeyed, found, later]
      | none =>
        cases other : rest.find? (fun row => (column row).isNone) with
        | none => simp [unkeyed, found]
        | some first =>
          have without : column first = none := by simpa using List.find?_some other
          simp [unkeyed, found, descNullsLast, without]

end ApiGateway.Sql
