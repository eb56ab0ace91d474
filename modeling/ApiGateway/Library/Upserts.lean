import ApiGateway.Library.Tables

/-!
# Rows that are inserted or merged

An upsert inserts a row, or changes the row that has its constrained columns already.
The changed row keeps its keys and takes over what the merge says. A primary key that is
taken refuses the insertion.

Afterwards the columns of the proposed row are held by the row it settled in, and all
other columns are held as before. A row that a merge no longer changes is settled, and
proposing it again does nothing.

A timed table also knows when each of its rows was written last. Proposing a settled row
writes that row again, and changes nothing but its time.
-/

namespace ApiGateway.Keyed

universe u v w t
variable {Row : Type u} {Key : Type v} {Columns : Type w}

/-- What a held row takes over from a proposed one. Its keys stay. -/
structure Merge (primary : Row → Key) (unique : Row → Columns) where
  merge : Row → Row → Row
  sameKey : ∀ proposed held, primary (merge proposed held) = primary held
  sameColumns : ∀ proposed held, unique (merge proposed held) = unique held

namespace Table

variable {primary : Row → Key} {unique : Row → Columns} [DecidableEq Columns]

/-- The row with some constrained columns. -/
def lookup (table : Table primary unique) (columns : Columns) : Option Row :=
  table.rows.find? (fun row => unique row = columns)

/-- The row that a proposed one ends in. -/
def settles (merge : Merge primary unique) (table : Table primary unique) (row : Row) : Row :=
  ((table.lookup (unique row)).map (merge.merge row)).getD row

variable {merge : Merge primary unique} {table after : Table primary unique} {row : Row}

theorem lookup_eq_some_iff {columns : Columns} {row : Row} :
    table.lookup columns = some row ↔ row ∈ table.rows ∧ unique row = columns := by
  constructor
  · intro found
    exact ⟨List.mem_of_find?_eq_some found, by simpa using List.find?_some found⟩
  · rintro ⟨member, rfl⟩
    cases found : table.lookup (unique row) with
    | none => exact absurd (List.find?_eq_none.mp found row member) (by simp)
    | some other =>
      have same : unique other = unique row := by simpa using List.find?_some found
      rw [row_of_columns (List.mem_of_find?_eq_some found) member same]

theorem lookup_member (member : row ∈ table.rows) : table.lookup (unique row) = some row :=
  lookup_eq_some_iff.mpr ⟨member, rfl⟩

theorem lookup_eq_none_iff {columns : Columns} :
    table.lookup columns = none ↔ columns ∉ table.rows.map unique := by
  simp [lookup]

/-- Tables hold the same rows when they hold the same columns alike. -/
theorem lookup_ext {columns : Columns} {result : Option Row}
    (exactly : ∀ row, (row ∈ table.rows ∧ unique row = columns) ↔ result = some row) :
    table.lookup columns = result := by
  apply Option.ext
  intro row
  rw [lookup_eq_some_iff, exactly]

/-- The row a proposed one ends in has its columns. -/
theorem settles_columns : unique (table.settles merge row) = unique row := by
  unfold settles
  cases held : table.lookup (unique row) with
  | none => rfl
  | some other =>
    exact (merge.sameColumns row other).trans (lookup_eq_some_iff.mp held).2

variable [DecidableEq Key]

/-- Merge a row into the one with its columns, or else insert it. -/
def upsert (merge : Merge primary unique) (table : Table primary unique) (row : Row) :
    Option (Table primary unique) :=
  match table.lookup (unique row) with
  | some held =>
    some (table.modify (primary held) (merge.merge row) (merge.sameKey row) (merge.sameColumns row))
  | none => if admits : table.Admits row then some (table.insert row admits) else none

/-- Upsert rows in order; the first refusal ends it. -/
def upsertAll (merge : Merge primary unique) (table : Table primary unique) (rows : List Row) :
    Option (Table primary unique) :=
  rows.foldlM (upsert merge) table

omit [DecidableEq Key] in
/-- An inserted row holds its columns, all others are held as before. -/
theorem lookup_insert (admits : table.Admits row) (columns : Columns) :
    (table.insert row admits).lookup columns =
      if columns = unique row then some row else table.lookup columns := by
  apply lookup_ext
  intro each
  rw [mem_insert_iff]
  split
  · next hit =>
    subst hit
    rw [Option.some.injEq]
    constructor
    · rintro ⟨there | rfl, named⟩
      · exact absurd (List.mem_map.mpr ⟨each, there, named⟩) admits.2
      · rfl
    · rintro rfl
      exact ⟨Or.inr rfl, rfl⟩
  · next miss =>
    rw [lookup_eq_some_iff]
    constructor
    · rintro ⟨there | rfl, named⟩
      · exact ⟨there, named⟩
      · exact absurd named.symm miss
    · rintro ⟨there, named⟩
      exact ⟨Or.inl there, named⟩

/-- The changed row holds the columns of the row it was, all others are held as before. -/
theorem lookup_modify {other : Row} (member : other ∈ table.rows) (change : Row → Row)
    (sameKey : ∀ row, primary (change row) = primary row)
    (sameColumns : ∀ row, unique (change row) = unique row) (columns : Columns) :
    (table.modify (primary other) change sameKey sameColumns).lookup columns =
      if columns = unique other then some (change other) else table.lookup columns := by
  have found : table.find (primary other) = some other := find_eq_some_iff.mpr ⟨member, rfl⟩
  apply lookup_ext
  intro each
  rw [mem_modify_iff]
  split
  · next hit =>
    subst hit
    rw [Option.some.injEq]
    constructor
    · rintro ⟨⟨there, apart⟩ | ⟨changed, again, rfl⟩, named⟩
      · exact absurd (congrArg primary (row_of_columns there member named)) apart
      · rw [Option.some.inj (found.symm.trans again)]
    · rintro rfl
      exact ⟨Or.inr ⟨other, found, rfl⟩, sameColumns other⟩
  · next miss =>
    rw [lookup_eq_some_iff]
    constructor
    · rintro ⟨⟨there, _⟩ | ⟨changed, again, rfl⟩, named⟩
      · exact ⟨there, named⟩
      · obtain rfl := Option.some.inj (found.symm.trans again)
        exact absurd (named.symm.trans (sameColumns other)) miss
    · rintro ⟨there, rfl⟩
      refine ⟨Or.inl ⟨there, fun sameKey => miss ?_⟩, rfl⟩
      rw [row_of_key there member sameKey]

/-- What each column holds after an upsert. -/
theorem lookup_upsert (done : table.upsert merge row = some after) (columns : Columns) :
    after.lookup columns =
      if columns = unique row then some (table.settles merge row) else table.lookup columns := by
  unfold upsert at done
  unfold settles
  cases held : table.lookup (unique row) with
  | some other =>
    obtain ⟨member, same⟩ := lookup_eq_some_iff.mp held
    rw [held] at done
    obtain rfl := Option.some.inj done
    rw [lookup_modify member, same]
    rfl
  | none =>
    rw [held] at done
    dsimp only at done
    split at done
    · next admits =>
      obtain rfl := Option.some.inj done
      rw [lookup_insert]
      rfl
    · cases done

/-- Columns that no proposed row has are held as before. -/
theorem lookup_upsertAll_other {rows : List Row} (done : table.upsertAll merge rows = some after)
    {columns : Columns} (absent : columns ∉ rows.map unique) :
    after.lookup columns = table.lookup columns := by
  induction rows generalizing table with
  | nil => rw [Option.some.inj done]
  | cons row rest ih =>
    obtain ⟨between, first, later⟩ := Option.bind_eq_some_iff.mp done
    rw [List.map_cons, List.mem_cons, not_or] at absent
    rw [ih later absent.2, lookup_upsert first, if_neg absent.1]

/-- Rows with distinct columns each end in what they settle in. -/
theorem lookup_upsertAll {rows : List Row} (done : table.upsertAll merge rows = some after)
    (distinct : (rows.map unique).Nodup) {row : Row} (proposed : row ∈ rows) :
    after.lookup (unique row) = some (table.settles merge row) := by
  induction rows generalizing table with
  | nil => cases proposed
  | cons head rest ih =>
    obtain ⟨between, first, later⟩ := Option.bind_eq_some_iff.mp done
    rw [List.map_cons, List.nodup_cons] at distinct
    rcases List.mem_cons.mp proposed with rfl | among
    · rw [lookup_upsertAll_other later distinct.1, lookup_upsert first, if_pos rfl]
    · have apart : unique row ≠ unique head := fun same =>
        distinct.1 (same ▸ List.mem_map_of_mem among)
      rw [ih later distinct.2 among, settles, settles, lookup_upsert first, if_neg apart]

/-- The rows afterwards: those that no proposed row shares its columns with, and what the
proposed rows settle in. -/
theorem mem_upsertAll_iff {rows : List Row} (done : table.upsertAll merge rows = some after)
    (distinct : (rows.map unique).Nodup) (each : Row) :
    each ∈ after.rows ↔ (each ∈ table.rows ∧ unique each ∉ rows.map unique) ∨
      ∃ row ∈ rows, table.settles merge row = each := by
  constructor
  · intro member
    by_cases among : unique each ∈ rows.map unique
    · obtain ⟨row, proposed, same⟩ := List.mem_map.mp among
      have settled := lookup_upsertAll done distinct proposed
      rw [same, lookup_member member] at settled
      exact Or.inr ⟨row, proposed, (Option.some.inj settled).symm⟩
    · have kept := lookup_upsertAll_other done among
      rw [lookup_member member] at kept
      exact Or.inl ⟨(lookup_eq_some_iff.mp kept.symm).1, among⟩
  · rintro (⟨member, apart⟩ | ⟨row, proposed, rfl⟩)
    · have kept := lookup_upsertAll_other done apart
      rw [lookup_member member] at kept
      exact (lookup_eq_some_iff.mp kept).1
    · exact (lookup_eq_some_iff.mp (lookup_upsertAll done distinct proposed)).1

/-- Every row is still there, as far as merges leave rows alone. -/
theorem upsert_keeps {kept : Row → Row → Prop} (same : ∀ row, kept row row)
    (merged : ∀ proposed held, kept held (merge.merge proposed held))
    (done : table.upsert merge row = some after) {held : Row} (member : held ∈ table.rows) :
    ∃ still ∈ after.rows, kept held still := by
  have holds := lookup_upsert done (unique held)
  rw [lookup_member member] at holds
  split at holds
  · next named =>
    have present : table.lookup (unique row) = some held := named ▸ lookup_member member
    refine ⟨_, (lookup_eq_some_iff.mp holds).1, ?_⟩
    rw [settles, present]
    exact merged row held
  · exact ⟨held, (lookup_eq_some_iff.mp holds).1, same held⟩

theorem upsertAll_keeps {kept : Row → Row → Prop} (same : ∀ row, kept row row)
    (merged : ∀ proposed held, kept held (merge.merge proposed held))
    (transitive : ∀ {first second third}, kept first second → kept second third → kept first third)
    {rows : List Row} (done : table.upsertAll merge rows = some after) {held : Row}
    (member : held ∈ table.rows) : ∃ still ∈ after.rows, kept held still := by
  induction rows generalizing table held with
  | nil =>
    obtain rfl := Option.some.inj done
    exact ⟨held, member, same held⟩
  | cons row rest ih =>
    obtain ⟨between, first, later⟩ := Option.bind_eq_some_iff.mp done
    obtain ⟨middle, there, former⟩ := upsert_keeps same merged first member
    obtain ⟨last, reached, latter⟩ := ih later there
    exact ⟨last, reached, transitive former latter⟩

/-- Proposing a row that its merge does not change does nothing. -/
theorem upsert_settled {held : Row} (present : table.lookup (unique row) = some held)
    (settled : merge.merge row held = held) : table.upsert merge row = some table := by
  obtain ⟨member, _⟩ := lookup_eq_some_iff.mp present
  have unchanged : table.rows.map (fun each =>
      if primary each = primary held then merge.merge row each else each) = table.rows := by
    apply (List.map_congr_left fun each there => ?_).trans (List.map_id _)
    by_cases same : primary each = primary held
    · rw [if_pos same, row_of_key there member same, settled]
      rfl
    · rw [if_neg same]
      rfl
  rw [upsert, present]
  dsimp only [modify]
  congr 1
  cases table
  congr 1

theorem upsertAll_settled {rows : List Row}
    (settled : ∀ row ∈ rows, ∃ held, table.lookup (unique row) = some held ∧
      merge.merge row held = held) : table.upsertAll merge rows = some table := by
  induction rows with
  | nil => rfl
  | cons row rest ih =>
    obtain ⟨held, present, same⟩ := settled row List.mem_cons_self
    have first := upsert_settled present same
    have later := ih (fun each among => settled each (List.mem_cons_of_mem row among))
    rw [upsertAll, List.foldlM_cons, first]
    exact later

end Table

/-- A table that knows when the row of each primary key was written last. -/
structure Timed (primary : Row → Key) (unique : Row → Columns) (Time : Type t) extends
    Table primary unique where
  updatedAt : Key → Time

namespace Timed

variable {Time : Type t} {primary : Row → Key} {unique : Row → Columns} [DecidableEq Columns]
  [DecidableEq Key]

/-- An upsert writes the row that the proposed one ends in. -/
def upsert (merge : Merge primary unique) (now : Time) (timed : Timed primary unique Time)
    (row : Row) : Option (Timed primary unique Time) :=
  (timed.toTable.upsert merge row).map fun table =>
    ⟨table, fun key =>
      if key = primary (timed.settles merge row) then now else timed.updatedAt key⟩

def upsertAll (merge : Merge primary unique) (now : Time) (timed : Timed primary unique Time)
    (rows : List Row) : Option (Timed primary unique Time) :=
  rows.foldlM (upsert merge now) timed

variable {merge : Merge primary unique} {now : Time} {timed after : Timed primary unique Time}

/-- The rows are upserted as without times. -/
theorem upsert_table {row : Row} (done : timed.upsert merge now row = some after) :
    timed.toTable.upsert merge row = some after.toTable := by
  obtain ⟨table, upserted, rfl⟩ := Option.map_eq_some_iff.mp done
  exact upserted

theorem upsertAll_table {rows : List Row} (done : timed.upsertAll merge now rows = some after) :
    timed.toTable.upsertAll merge rows = some after.toTable := by
  induction rows generalizing timed with
  | nil => rw [← Option.some.inj done, Table.upsertAll, List.foldlM_nil]; rfl
  | cons row rest ih =>
    obtain ⟨between, first, later⟩ := Option.bind_eq_some_iff.mp done
    rw [Table.upsertAll, List.foldlM_cons, upsert_table first]
    exact ih later

/-- A row is still there, and was not written. -/
def Leaves (timed after : Timed primary unique Time) (held : Row) : Prop :=
  held ∈ after.rows ∧ after.updatedAt (primary held) = timed.updatedAt (primary held)

omit [DecidableEq Columns] [DecidableEq Key] in
theorem Leaves.trans {between : Timed primary unique Time} {held : Row}
    (former : timed.Leaves between held) (latter : between.Leaves after held) :
    timed.Leaves after held :=
  ⟨latter.1, latter.2.trans former.2⟩

/-- An upsert leaves a row under other columns. -/
theorem upsert_leaves {row held : Row} (done : timed.upsert merge now row = some after)
    (member : held ∈ timed.rows) (apart : unique held ≠ unique row) : timed.Leaves after held := by
  have kept := Table.lookup_upsert (upsert_table done) (unique held)
  rw [if_neg apart, Table.lookup_member member] at kept
  have settled := Table.lookup_upsert (upsert_table done) (unique row)
  rw [if_pos rfl] at settled
  obtain ⟨there, _⟩ := Table.lookup_eq_some_iff.mp kept
  obtain ⟨written, _⟩ := Table.lookup_eq_some_iff.mp settled
  obtain ⟨table, _, rfl⟩ := Option.map_eq_some_iff.mp done
  refine ⟨there, if_neg fun same => apart ?_⟩
  rw [Table.row_of_key there written same]
  exact Table.settles_columns

theorem upsertAll_leaves {rows : List Row} {held : Row}
    (done : timed.upsertAll merge now rows = some after) (member : held ∈ timed.rows)
    (absent : unique held ∉ rows.map unique) : timed.Leaves after held := by
  induction rows generalizing timed with
  | nil =>
    obtain rfl := Option.some.inj done
    exact ⟨member, rfl⟩
  | cons row rest ih =>
    obtain ⟨between, first, later⟩ := Option.bind_eq_some_iff.mp done
    rw [List.map_cons, List.mem_cons, not_or] at absent
    have left := upsert_leaves first member absent.1
    exact left.trans (ih later left.1 absent.2)

/-- Proposing rows that their merges do not change leaves all rows as they are. -/
theorem upsert_settled {row held : Row} (present : timed.lookup (unique row) = some held)
    (settled : merge.merge row held = held) :
    ∃ later, timed.upsert merge now row = some later ∧ later.toTable = timed.toTable := by
  unfold upsert
  rw [Table.upsert_settled present settled]
  exact ⟨_, rfl, rfl⟩

theorem upsertAll_settled {rows : List Row}
    (settled : ∀ row ∈ rows, ∃ held, timed.lookup (unique row) = some held ∧
      merge.merge row held = held) :
    ∃ later, timed.upsertAll merge now rows = some later ∧ later.toTable = timed.toTable := by
  induction rows generalizing timed with
  | nil => exact ⟨timed, rfl, rfl⟩
  | cons row rest ih =>
    obtain ⟨held, present, unchanged⟩ := settled row List.mem_cons_self
    obtain ⟨between, first, same⟩ :
        ∃ later, timed.upsert merge now row = some later ∧ later.toTable = timed.toTable :=
      upsert_settled present unchanged
    obtain ⟨later, others, equal⟩ := @ih between (fun each among => by
      rw [same]
      exact settled each (List.mem_cons_of_mem row among))
    exact ⟨later, Option.bind_eq_some_iff.mpr ⟨between, first, others⟩, equal.trans same⟩

end Timed

end ApiGateway.Keyed
