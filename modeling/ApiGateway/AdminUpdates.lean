import ApiGateway.AdminRows
import Mathlib.Logic.Function.Basic

/-!
# What an update changes

An update handler loads the row, merges the request into it and sends one
statement that replaces each column by what was sent or, where that is null, by
itself. The database converts what it stores to the column's type, and it may
refuse either statement; then nothing changes.

A column whose property is absent is written all the same. It keeps its value
when what is sent for it is what it holds, which a null under a property with an
initial value and a constant are not.
-/

namespace ApiGateway.Admin

open Effects

/-- A row by its columns; null is none. -/
abbrev Row (table : AdminTable) := table.Column → Option Value

/-- The body of an update request: a property for each column, or its absence. -/
abbrev Request (table : AdminTable) :=
  (column : table.Column) → Option (table.put.assignment column).property.Carrier

/-- The database: the tables with a handler by primary key, and all others. -/
structure Tables (Others : Type) where
  rows : (table : AdminTable) → Guid → Option (Row table)
  others : Others

variable {Others : Type}

/-- What the database makes of statements: it may refuse to read or to write, and
it converts what it stores. The time of day stamps rows. -/
structure Postgres (Others : Type) where
  refusesRead : (table : AdminTable) → Guid → Tables Others → Option Fault
  refusesWrite : (table : AdminTable) → Guid → Row table → Tables Others → Option Fault
  convert : (table : AdminTable) → table.Column → Value → Value
  currentTimestamp : Nat

/-- Run against the tables. -/
abbrev Statement (Others α : Type) := Effect Fault (Tables Others) α

namespace Assignment

/-- What the handler sends for a column. The loaded property is the stored value,
or the initial one for null. -/
def sent (assignment : Assignment) (conversions : Conversions)
    (request : Option assignment.property.Carrier) (stored : Option Value) : Option Value :=
  let existing := match assignment.whenAbsent with
    | .existing initial => stored.or initial
    | .constant value => value
  match request with
  | none => existing
  | some value =>
    match assignment.requested conversions value, assignment.whenInvalid with
    | some asked, _ => some asked
    | none, .existing => existing
    | none, .null => none

end Assignment

/-- The row of an identifier. -/
def getByIdAsync (postgres : Postgres Others) (table : AdminTable) (id : Guid) :
    Statement Others (Option (Row table)) := do
  let tables ← Effect.gets (fun tables : Tables Others => tables)
  match postgres.refusesRead table id tables with
  | some fault => Effect.fail fault
  | none => pure (tables.rows table id)

/-- Each column is replaced by what was sent, or by itself where that is null. -/
def coalesced (postgres : Postgres Others) (table : AdminTable) (parameters row : Row table) :
    Row table := fun column =>
  if table.put.stamped column then some (.instant postgres.currentTimestamp)
  else ((parameters column).map (postgres.convert table column)).or (row column)

/-- The tables with one row replaced. -/
def Tables.setRow {table : AdminTable} (tables : Tables Others) (id : Guid) (row : Row table) :
    Tables Others :=
  { tables with
    rows := Function.update tables.rows table
      (Function.update (tables.rows table) id (some row)) }

/-- The update statement and the row it returns. -/
def updateAsync (postgres : Postgres Others) (table : AdminTable) (id : Guid)
    (parameters : Row table) : Statement Others (Option (Row table)) := do
  let tables ← Effect.gets (fun tables : Tables Others => tables)
  match postgres.refusesWrite table id parameters tables with
  | some fault => Effect.fail fault
  | none =>
    match tables.rows table id with
    | none => pure none
    | some row => do
      Effect.update (fun tables => tables.setRow id (coalesced postgres table parameters row))
      pure (some (coalesced postgres table parameters row))

/-- The parameters of the update statement. -/
def parameters (conversions : Conversions) (table : AdminTable) (request : Request table)
    (existing : Row table) : Row table := fun column =>
  (table.put.assignment column).sent conversions (request column) (existing column)

/-- An update handler: the row that was written, or none when there is no such
row. -/
def put (postgres : Postgres Others) (conversions : Conversions) (table : AdminTable) (id : Guid)
    (request : Request table) : Statement Others (Option (Row table)) :=
  if table.put.loadsExisting then do
    match ← getByIdAsync postgres table id with
    | none => pure none
    | some existing => updateAsync postgres table id (parameters conversions table request existing)
  else updateAsync postgres table id (parameters conversions table request (fun _ => none))

/-- What a handler has loaded when it merges the request. -/
def loaded {table : AdminTable} (row : Row table) : Row table :=
  if table.put.loadsExisting then row else fun _ => none

/-- The database carries out the statements of an update of a row. -/
def Accepts (postgres : Postgres Others) (conversions : Conversions) (table : AdminTable) (id : Guid)
    (request : Request table) (tables : Tables Others) (row : Row table) : Prop :=
  (table.put.loadsExisting = true → postgres.refusesRead table id tables = none) ∧
    postgres.refusesWrite table id (parameters conversions table request (loaded row)) tables = none

section Runs

variable {postgres : Postgres Others} {conversions : Conversions} {table : AdminTable} {id : Guid}
  {request : Request table} {tables : Tables Others} {row : Row table}

@[simp] theorem setRow_rows_self (row : Row table) :
    (tables.setRow id row).rows table id = some row := by
  simp [Tables.setRow]

/-- Replacing a row leaves every other one. -/
theorem setRow_rows_other {other : AdminTable} {key : Guid} (different : other = table → key ≠ id)
    (row : Row table) : (tables.setRow id row).rows other key = tables.rows other key := by
  by_cases same : other = table
  · subst same
    simp [Tables.setRow, different rfl]
  · simp [Tables.setRow, same]

theorem getByIdAsync_run (answered : postgres.refusesRead table id tables = none) :
    getByIdAsync postgres table id tables = (.ok (tables.rows table id), tables) := by
  rw [getByIdAsync, Effect.bind_ok (Effect.gets_run _ _), answered]
  rfl

theorem getByIdAsync_fault {fault : Fault}
    (refused : postgres.refusesRead table id tables = some fault) :
    getByIdAsync postgres table id tables = (.error fault, tables) := by
  rw [getByIdAsync, Effect.bind_ok (Effect.gets_run _ _), refused]
  rfl

theorem updateAsync_fault {sent : Row table} {fault : Fault}
    (refused : postgres.refusesWrite table id sent tables = some fault) :
    updateAsync postgres table id sent tables = (.error fault, tables) := by
  rw [updateAsync, Effect.bind_ok (Effect.gets_run _ _), refused]
  rfl

theorem updateAsync_run {sent : Row table}
    (answered : postgres.refusesWrite table id sent tables = none)
    (stored : tables.rows table id = some row) :
    updateAsync postgres table id sent tables =
      (.ok (some (coalesced postgres table sent row)),
        tables.setRow id (coalesced postgres table sent row)) := by
  rw [updateAsync, Effect.bind_ok (Effect.gets_run _ _), answered]
  dsimp only
  rw [stored]
  rfl

/-- Where there is no row the statement changes nothing. -/
theorem updateAsync_missing {sent : Row table} (missing : tables.rows table id = none) :
    (updateAsync postgres table id sent tables).2 = tables := by
  cases refused : postgres.refusesWrite table id sent tables with
  | some fault => rw [updateAsync_fault refused]
  | none =>
    rw [updateAsync, Effect.bind_ok (Effect.gets_run _ _), refused]
    dsimp only
    rw [missing]
    rfl

/-- An accepted update replaces the row. -/
theorem put_accepted (stored : tables.rows table id = some row)
    (accepts : Accepts postgres conversions table id request tables row) :
    put postgres conversions table id request tables =
      (.ok (some (coalesced postgres table
          (parameters conversions table request (loaded row)) row)),
        tables.setRow id (coalesced postgres table
          (parameters conversions table request (loaded row)) row)) := by
  obtain ⟨reads, writes⟩ := accepts
  unfold put
  split
  · next loads =>
    rw [Effect.bind_ok (getByIdAsync_run (reads loads)), stored]
    rw [loaded, if_pos loads] at writes ⊢
    exact updateAsync_run writes stored
  · next blind =>
    rw [loaded, if_neg blind] at writes ⊢
    exact updateAsync_run writes stored

/-- A refused update ends with an exception and changes nothing. -/
theorem put_refused (stored : tables.rows table id = some row)
    (refuses : ¬ Accepts postgres conversions table id request tables row) :
    ∃ fault, put postgres conversions table id request tables = (.error fault, tables) := by
  have writeRefused : (table.put.loadsExisting = true →
      postgres.refusesRead table id tables = none) → ∃ fault, postgres.refusesWrite table id
        (parameters conversions table request (loaded row)) tables = some fault :=
    fun reads => Option.ne_none_iff_exists'.mp (fun writes => refuses ⟨reads, writes⟩)
  unfold put
  split
  · next loads =>
    cases reads : postgres.refusesRead table id tables with
    | some fault => exact ⟨fault, Effect.bind_error (getByIdAsync_fault reads)⟩
    | none =>
      obtain ⟨fault, writes⟩ := writeRefused (fun _ => reads)
      rw [loaded, if_pos loads] at writes
      rw [Effect.bind_ok (getByIdAsync_run reads), stored]
      exact ⟨fault, updateAsync_fault writes⟩
  · next blind =>
    obtain ⟨fault, writes⟩ := writeRefused (fun loads => absurd loads blind)
    rw [loaded, if_neg blind] at writes
    exact ⟨fault, updateAsync_fault writes⟩

/-- An update of a row that does not exist changes nothing. -/
theorem put_missing (missing : tables.rows table id = none) :
    (put postgres conversions table id request tables).2 = tables := by
  unfold put
  split
  · cases reads : postgres.refusesRead table id tables with
    | some fault => rw [Effect.bind_error (getByIdAsync_fault reads)]
    | none =>
      rw [Effect.bind_ok (getByIdAsync_run reads), missing]
      rfl
  · exact updateAsync_missing missing

/-- An update is carried out on a row or changes nothing. -/
theorem put_cases (postgres : Postgres Others) (conversions : Conversions) (table : AdminTable)
    (id : Guid) (tables : Tables Others) (request : Request table) :
    (∃ row, tables.rows table id = some row ∧
        Accepts postgres conversions table id request tables row ∧
        (put postgres conversions table id request tables).2 =
          tables.setRow id (coalesced postgres table
            (parameters conversions table request (loaded row)) row)) ∨
      ((∀ row, tables.rows table id = some row →
          ¬ Accepts postgres conversions table id request tables row) ∧
        (put postgres conversions table id request tables).2 = tables) := by
  cases stored : tables.rows table id with
  | none =>
    refine Or.inr ⟨?_, put_missing stored⟩
    rintro row ⟨⟩
  | some row =>
    by_cases accepts : Accepts postgres conversions table id request tables row
    · exact Or.inl ⟨row, rfl, accepts, congrArg Prod.snd (put_accepted stored accepts)⟩
    · obtain ⟨fault, refused⟩ := put_refused stored accepts
      refine Or.inr ⟨?_, congrArg Prod.snd refused⟩
      rintro held ⟨⟩
      exact accepts

end Runs

/-- The row of an update: unmentioned columns keep their values and a valid value
that the database takes is stored. The trigger's column is left out. -/
def OnlyMentioned (postgres : Postgres Others) (conversions : Conversions) (table : AdminTable)
    (request : Request table) (accepted : Prop) (row changed : Row table) : Prop :=
  ∀ column, table.put.stamped column = false →
    (request column = none → changed column = row column) ∧
      ∀ value asked, request column = some value →
        (table.put.assignment column).requested conversions value = some asked → accepted →
          changed column = some (postgres.convert table column asked)

/-- An update changes only what its request mentions: no other row of any table,
and of its own row the columns that are present. -/
structure ChangesOnlyMentioned (postgres : Postgres Others) (conversions : Conversions)
    (table : AdminTable) (id : Guid) (request : Request table) (tables : Tables Others)
    (outcome : Except Fault (Option (Row table)) × Tables Others) : Prop where
  elsewhere : ∀ other key, (other = table → key ≠ id) →
    outcome.2.rows other key = tables.rows other key
  others : outcome.2.others = tables.others
  missing : tables.rows table id = none → outcome.2.rows table id = none
  columns : ∀ row, tables.rows table id = some row →
    ∃ changed, outcome.2.rows table id = some changed ∧
      OnlyMentioned postgres conversions table request (∃ written, outcome.1 = .ok written) row changed

/-- What is sent for an absent property is what the column holds. -/
def Restores (postgres : Postgres Others) {table : AdminTable} (column : table.Column)
    (stored : Option Value) : Prop :=
  match (table.put.assignment column).whenAbsent with
  | .existing initial => stored = none → initial = none
  | .constant value => ∀ sent, value = some sent → stored = some (postgres.convert table column sent)

section Mentioned

variable {postgres : Postgres Others} {conversions : Conversions} {table : AdminTable} {id : Guid}
  {request : Request table} {tables : Tables Others} {row : Row table}

/-- Only a handler that loads the row sends what it has loaded. -/
theorem loads_of_existing {column : table.Column} {initial : Option Value}
    (source : (table.put.assignment column).whenAbsent = .existing initial) :
    table.put.loadsExisting = true := by
  cases table with
  | orgEndpointApprovals => cases column <;> cases source
  | _ => rfl

/-- A column whose property is absent keeps its value exactly when what is sent
for it restores it. -/
theorem absent_kept_iff {column : table.Column} (unstamped : table.put.stamped column = false)
    (absent : request column = none)
    (settled : ∀ value, row column = some value → postgres.convert table column value = value) :
    coalesced postgres table (parameters conversions table request (loaded row)) row column =
        row column ↔ Restores postgres column (row column) := by
  rw [coalesced, unstamped, parameters, absent, Assignment.sent, Restores]
  cases source : (table.put.assignment column).whenAbsent with
  | existing initial =>
    rw [loaded, if_pos (loads_of_existing source)]
    cases stored : row column with
    | none => cases initial <;> simp
    | some value => simp [settled value stored]
  | constant value =>
    cases value with
    | none => simp
    | some sent => simp [eq_comm]

/-- A column whose property is present and valid takes the value asked for. -/
theorem present_taken {column : table.Column} (unstamped : table.put.stamped column = false)
    {value : (table.put.assignment column).property.Carrier} {asked : Value}
    (present : request column = some value)
    (valid : (table.put.assignment column).requested conversions value = some asked) :
    coalesced postgres table (parameters conversions table request (loaded row)) row column =
      some (postgres.convert table column asked) := by
  rw [coalesced, unstamped, parameters, present, Assignment.sent]
  simp [valid]

/-- The row an accepted update writes has changed only in what the request
mentions exactly when every absent property restores its column. -/
theorem coalesced_onlyMentioned_iff {accepted : Prop}
    (settled : ∀ column value, row column = some value →
      postgres.convert table column value = value) :
    OnlyMentioned postgres conversions table request accepted row
        (coalesced postgres table (parameters conversions table request (loaded row)) row) ↔
      ∀ column, table.put.stamped column = false → request column = none →
        Restores postgres column (row column) := by
  constructor
  · intro mentioned column unstamped absent
    exact (absent_kept_iff unstamped absent (settled column)).mp ((mentioned column unstamped).1 absent)
  · intro restores column unstamped
    refine ⟨fun absent => ?_, fun value asked present valid _ => present_taken unstamped present valid⟩
    exact (absent_kept_iff unstamped absent (settled column)).mpr (restores column unstamped absent)

/-- An update changes only what its request mentions exactly when the database
refuses it, or every property that is absent restores its column: the column is
not null under a property with an initial value, or it holds the constant. -/
theorem put_changes_only_mentioned_iff (postgres : Postgres Others) (conversions : Conversions)
    (table : AdminTable) (id : Guid) (request : Request table) (tables : Tables Others)
    (settled : ∀ row column value, tables.rows table id = some row → row column = some value →
      postgres.convert table column value = value) :
    ChangesOnlyMentioned postgres conversions table id request tables
        (put postgres conversions table id request tables) ↔
      ∀ row, tables.rows table id = some row →
        Accepts postgres conversions table id request tables row →
          ∀ column, table.put.stamped column = false → request column = none →
            Restores postgres column (row column) := by
  constructor
  · intro only row stored accepts
    obtain ⟨changed, written, mentioned⟩ := only.columns row stored
    rw [put_accepted stored accepts, setRow_rows_self, Option.some.injEq] at written
    rw [← written] at mentioned
    exact (coalesced_onlyMentioned_iff (fun column value => settled row column value stored)).mp
      mentioned
  · intro restores
    cases stored : tables.rows table id with
    | none =>
      refine ⟨?_, ?_, ?_, ?_⟩ <;> rw [put_missing stored]
      · exact fun _ _ _ => rfl
      · exact fun _ => stored
      · intro row present
        rw [stored] at present
        cases present
    | some row =>
      by_cases accepts : Accepts postgres conversions table id request tables row
      · have ran := put_accepted stored accepts
        refine ⟨?_, ?_, ?_, ?_⟩ <;> rw [ran]
        · exact fun _ _ different => setRow_rows_other different _
        · rfl
        · intro missing
          rw [stored] at missing
          cases missing
        · intro before present
          obtain rfl : row = before := Option.some.inj (stored.symm.trans present)
          exact ⟨_, setRow_rows_self _, (coalesced_onlyMentioned_iff
            (fun column value => settled row column value stored)).mpr (restores row stored accepts)⟩
      · obtain ⟨fault, ran⟩ := put_refused stored accepts
        refine ⟨?_, ?_, ?_, ?_⟩ <;> rw [ran]
        · exact fun _ _ _ => rfl
        · exact fun missing => missing
        · intro before present
          refine ⟨before, present, fun column _ => ⟨fun _ => rfl, ?_⟩⟩
          rintro value asked - - ⟨written, impossible⟩
          cases impossible

/-- Of an approval only the switch has to be present, or be off already. -/
theorem approval_restores_iff {request : Request .orgEndpointApprovals}
    {row : Row .orgEndpointApprovals} :
    (∀ column : OrgEndpointApprovalColumn, request column = none →
        @Restores _ postgres .orgEndpointApprovals column (row column)) ↔
      (request OrgEndpointApprovalColumn.adminIpEnforced = none →
        row OrgEndpointApprovalColumn.adminIpEnforced =
          some (postgres.convert .orgEndpointApprovals OrgEndpointApprovalColumn.adminIpEnforced
            (.boolean false))) := by
  constructor
  · exact fun restores absent => restores .adminIpEnforced absent _ rfl
  · intro switch column absent
    cases column with
    | adminIpEnforced =>
      rintro sent ⟨⟩
      exact switch absent
    | _ =>
      rintro sent ⟨⟩

/-- A database that refuses nothing and stores what it is given. -/
def lenient : Postgres Unit where
  refusesRead := fun _ _ _ => none
  refusesWrite := fun _ _ _ _ => none
  convert := fun _ _ value => value
  currentTimestamp := 2

/-- A JSON array of texts, written without spaces or escapes. -/
def plainArray (items : List NullableText) : Text :=
  '[' :: ([','].intercalate (items.map fun item =>
    (item.map plainPlatform.quoteJson).getD "null".toList) ++ [']'])

def plainConversions : Conversions where
  caseMap := asciiCase
  serialize := plainArray
  toDouble := fun _ => 0

/-- An approval whose address list is enforced. -/
def enforcedApproval : Row .orgEndpointApprovals := fun (column : OrgEndpointApprovalColumn) =>
  match column with
  | .id => some (.guid (Guid.numbered 1))
  | .tenantId => some (.guid (Guid.numbered 2))
  | .endpointId => some (.guid (Guid.numbered 3))
  | .approvedBy => none
  | .approvedAt => some (.instant 1)
  | .adminIpAllowlist => some (.json "[\"10.0.0.1\"]".toList)
  | .adminIpEnforced => some (.boolean true)
  | .createdAt => some (.instant 1)

def approvedTables : Tables Unit where
  rows := fun table id =>
    match table with
    | .orgEndpointApprovals => if id = Guid.numbered 1 then some enforcedApproval else none
    | _ => none
  others := ()

/-- An update that mentions the address list only. -/
def listOnly : Request .orgEndpointApprovals := fun (column : OrgEndpointApprovalColumn) =>
  match column with
  | .adminIpAllowlist => some ["10.0.0.2".toList]
  | .id => none
  | .tenantId => none
  | .endpointId => none
  | .approvedBy => none
  | .approvedAt => none
  | .adminIpEnforced => none
  | .createdAt => none

theorem put_changes_only_mentioned_iff_listOnly :
    ChangesOnlyMentioned lenient plainConversions .orgEndpointApprovals (Guid.numbered 1) listOnly
        approvedTables
        (put lenient plainConversions .orgEndpointApprovals (Guid.numbered 1) listOnly
          approvedTables) ↔
      ∀ row, approvedTables.rows .orgEndpointApprovals (Guid.numbered 1) = some row →
        Accepts lenient plainConversions .orgEndpointApprovals (Guid.numbered 1) listOnly
            approvedTables row →
          ∀ column, AdminTable.orgEndpointApprovals.put.stamped column = false →
            listOnly column = none → Restores lenient column (row column) :=
  put_changes_only_mentioned_iff lenient plainConversions .orgEndpointApprovals (Guid.numbered 1)
    listOnly approvedTables (fun _ _ _ _ _ => rfl)

/-- An update of the address list switches its enforcement off. -/
theorem enforcement_switched_off :
    listOnly OrgEndpointApprovalColumn.adminIpEnforced = none ∧
      enforcedApproval OrgEndpointApprovalColumn.adminIpEnforced = some (.boolean true) ∧
      (((put lenient plainConversions .orgEndpointApprovals (Guid.numbered 1) listOnly
        approvedTables).2.rows .orgEndpointApprovals (Guid.numbered 1)).map
          (fun row => row OrgEndpointApprovalColumn.adminIpEnforced)) =
            some (some (.boolean false)) ∧
      ¬ ChangesOnlyMentioned lenient plainConversions .orgEndpointApprovals (Guid.numbered 1) listOnly
        approvedTables
        (put lenient plainConversions .orgEndpointApprovals (Guid.numbered 1) listOnly
          approvedTables) := by
  have stored : approvedTables.rows .orgEndpointApprovals (Guid.numbered 1) =
      some enforcedApproval := by
    simp [approvedTables]
  have ran := @put_accepted _ lenient plainConversions _ _ listOnly _ _ stored ⟨fun _ => rfl, rfl⟩
  refine ⟨rfl, rfl, ?_, fun only => ?_⟩
  · rw [ran, setRow_rows_self]
    rfl
  · obtain ⟨changed, written, mentioned⟩ := only.columns enforcedApproval stored
    rw [ran, setRow_rows_self, Option.some.injEq] at written
    rw [← written] at mentioned
    have restores := (coalesced_onlyMentioned_iff (fun _ _ _ => rfl)).mp mentioned
    have off := approval_restores_iff.mp (fun column => restores column rfl) rfl
    cases off

end Mentioned

end ApiGateway.Admin
