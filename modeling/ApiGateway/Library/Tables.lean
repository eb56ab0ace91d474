import Mathlib.Data.List.Nodup

/-!
# Tables with a primary key and a unique constraint

The rows of a table are listed in the order in which they were inserted. No two
rows agree on the primary key, and none on the columns of the constraint. A row
that would break either is not inserted; a change of rows that leaves both alone
is always possible. Rows that refer to others can be listed under them.
-/

namespace ApiGateway.Keyed

universe u v w
variable {Row : Type u} {Key : Type v} {Columns : Type w}

/-- Rows under a primary key and a unique constraint. -/
structure Table (primary : Row → Key) (unique : Row → Columns) where
  rows : List Row
  distinctKeys : (rows.map primary).Nodup
  distinctColumns : (rows.map unique).Nodup

namespace Table

variable {primary : Row → Key} {unique : Row → Columns}

/-- A table without rows. -/
def empty : Table primary unique := ⟨[], List.nodup_nil, List.nodup_nil⟩

/-- No row shares the primary key or the constrained columns. -/
def Admits (table : Table primary unique) (row : Row) : Prop :=
  primary row ∉ table.rows.map primary ∧ unique row ∉ table.rows.map unique

instance [DecidableEq Key] [DecidableEq Columns] (table : Table primary unique) (row : Row) :
    Decidable (table.Admits row) :=
  inferInstanceAs (Decidable (_ ∧ _))

/-- Add a row that is admitted. -/
def insert (table : Table primary unique) (row : Row) (admits : table.Admits row) :
    Table primary unique where
  rows := table.rows ++ [row]
  distinctKeys := by
    rw [List.map_append, List.map_singleton, List.nodup_append_comm, List.singleton_append]
    exact List.nodup_cons.mpr ⟨admits.1, table.distinctKeys⟩
  distinctColumns := by
    rw [List.map_append, List.map_singleton, List.nodup_append_comm, List.singleton_append]
    exact List.nodup_cons.mpr ⟨admits.2, table.distinctColumns⟩

/-- The row of a key. -/
def find [DecidableEq Key] (table : Table primary unique) (key : Key) : Option Row :=
  table.rows.find? (fun row => primary row = key)

/-- Change the row of a key in columns that are not constrained. -/
def modify [DecidableEq Key] (table : Table primary unique) (key : Key) (change : Row → Row)
    (sameKey : ∀ row, primary (change row) = primary row)
    (sameColumns : ∀ row, unique (change row) = unique row) : Table primary unique where
  rows := table.rows.map (fun row => if primary row = key then change row else row)
  distinctKeys := by
    rw [List.map_map]
    convert table.distinctKeys using 2
    funext row
    simp only [Function.comp_apply]
    split
    · exact sameKey row
    · rfl
  distinctColumns := by
    rw [List.map_map]
    convert table.distinctColumns using 2
    funext row
    simp only [Function.comp_apply]
    split
    · exact sameColumns row
    · rfl

variable {table : Table primary unique}

theorem mem_insert_iff {row : Row} (admits : table.Admits row) (each : Row) :
    each ∈ (table.insert row admits).rows ↔ each ∈ table.rows ∨ each = row := by
  simp [insert]

/-- Rows that agree on the constrained columns are one row. -/
theorem row_of_columns {left right : Row} (leftRow : left ∈ table.rows)
    (rightRow : right ∈ table.rows) (same : unique left = unique right) : left = right :=
  List.inj_on_of_nodup_map table.distinctColumns leftRow rightRow same

theorem row_of_key {left right : Row} (leftRow : left ∈ table.rows)
    (rightRow : right ∈ table.rows) (same : primary left = primary right) : left = right :=
  List.inj_on_of_nodup_map table.distinctKeys leftRow rightRow same

theorem find_eq_some_iff [DecidableEq Key] {key : Key} {row : Row} :
    table.find key = some row ↔ row ∈ table.rows ∧ primary row = key := by
  constructor
  · intro found
    exact ⟨List.mem_of_find?_eq_some found, by simpa using List.find?_some found⟩
  · rintro ⟨member, rfl⟩
    cases found : table.find (primary row) with
    | none => exact absurd (List.find?_eq_none.mp found row member) (by simp)
    | some other =>
      have same : primary other = primary row := by simpa using List.find?_some found
      rw [row_of_key (List.mem_of_find?_eq_some found) member same]

theorem mem_modify_iff [DecidableEq Key] (table : Table primary unique) (key : Key)
    (change : Row → Row)
    (sameKey : ∀ row, primary (change row) = primary row)
    (sameColumns : ∀ row, unique (change row) = unique row) (each : Row) :
    each ∈ (table.modify key change sameKey sameColumns).rows ↔
      (each ∈ table.rows ∧ primary each ≠ key) ∨
        ∃ row, table.find key = some row ∧ each = change row := by
  simp only [modify, List.mem_map, find_eq_some_iff]
  constructor
  · rintro ⟨row, member, rfl⟩
    split
    · next named => exact Or.inr ⟨row, ⟨member, named⟩, rfl⟩
    · next other => exact Or.inl ⟨member, other⟩
  · rintro (⟨member, other⟩ | ⟨row, ⟨member, named⟩, rfl⟩)
    · exact ⟨each, member, if_neg other⟩
    · exact ⟨row, member, if_pos named⟩

end Table

section Children

variable {Parent : Type w} [DecidableEq Key] (identity : Parent → Key) (parentOf : Row → Key)

/-- The rows of each parent, parent by parent. -/
def children (parents : List Parent) (rows : List Row) : List Row :=
  parents.flatMap (fun parent => rows.filter (fun row => decide (parentOf row = identity parent)))

variable {identity parentOf} {parents : List Parent} {rows : List Row}

/-- Rows with distinct names are listed once under parents with distinct keys. -/
theorem nodup_children {Name : Type w} {name : Row → Name}
    (distinctParents : (parents.map identity).Nodup) (distinct : (rows.map name).Nodup) :
    ((children identity parentOf parents rows).map name).Nodup := by
  rw [children, List.map_flatMap, List.nodup_flatMap]
  constructor
  · intro parent _
    exact distinct.sublist (List.filter_sublist.map name)
  · have apart : parents.Pairwise (fun left right => identity left ≠ identity right) :=
      List.pairwise_map.mp distinctParents
    apply apart.imp
    intro left right different
    apply List.disjoint_left.mpr
    intro named ofLeft ofRight
    obtain ⟨former, formerRow, formerNamed⟩ := List.mem_map.mp ofLeft
    obtain ⟨latter, latterRow, latterNamed⟩ := List.mem_map.mp ofRight
    rw [List.mem_filter, decide_eq_true_eq] at formerRow latterRow
    have same : former = latter :=
      List.inj_on_of_nodup_map distinct formerRow.1 latterRow.1 (formerNamed.trans latterNamed.symm)
    exact different (formerRow.2.symm.trans ((congrArg parentOf same).trans latterRow.2))

end Children

end ApiGateway.Keyed
