import ApiGateway.AdminUpdates
import ApiGateway.Library.Interleaving

/-!
# Concurrent requests on one row

An update is two statements: it reads the row, merges its request into what it
has read, and writes every column back. A deletion is one statement that clears
the row's switch. Requests on one row take turns, one statement each, in any
order; everything else in the database and the time of day may change between
any two statements.

A write is carried out on the row as it is then. What a request leaves out is
sent as it was read, so it undoes whatever has been written since.
-/

namespace ApiGateway.Admin

open Effects Interleaving

variable {Others : Type}

/-- The switch that a deletion clears. Approvals have none and are not deleted. -/
def AdminTable.switch : (table : AdminTable) → table.Column → Bool
  | .products => fun (column : ProductColumn) => column = .isEnabled
  | .services => fun (column : ServiceColumn) => column = .isEnabled
  | .serviceDestinations => fun (column : ServiceDestinationColumn) => column = .isEnabled
  | .endpoints => fun (column : EndpointColumn) => column = .isEnabled
  | .clients => fun (column : ClientColumn) => column = .isEnabled
  | .clientPermissions => fun (column : ClientPermissionColumn) => column = .isEnabled
  | .userProfiles => fun (column : UserProfileColumn) => column = .isEnabled
  | .orgEndpointApprovals => fun _ => false

/-- A database that may refuse to disable a row as well. -/
structure AdminPostgres (Others : Type) extends Postgres Others where
  refusesDisable : (table : AdminTable) → Guid → Tables Others → Option Fault

/-- `SET is_enabled = false`, and the trigger's stamp. -/
def disabled (postgres : Postgres Others) (table : AdminTable) (row : Row table) : Row table :=
  fun column =>
    if table.put.stamped column then some (.instant postgres.currentTimestamp)
    else if table.switch column then some (.boolean false)
    else row column

/-- The statement of a deletion: whether there was a row. -/
def disableAsync (postgres : AdminPostgres Others) (table : AdminTable) (id : Guid) :
    Statement Others Bool := do
  let tables ← Effect.gets (fun tables : Tables Others => tables)
  match postgres.refusesDisable table id tables with
  | some fault => Effect.fail fault
  | none =>
    match tables.rows table id with
    | none => pure false
    | some row => do
      Effect.update (fun tables => tables.setRow id (disabled postgres.toPostgres table row))
      pure true

/-- A deletion is carried out on a row or changes nothing. -/
theorem disableAsync_cases (postgres : AdminPostgres Others) (table : AdminTable) (id : Guid)
    (tables : Tables Others) :
    (∃ row, tables.rows table id = some row ∧ postgres.refusesDisable table id tables = none ∧
        (disableAsync postgres table id tables).2 =
          tables.setRow id (disabled postgres.toPostgres table row)) ∨
      ((∀ row, tables.rows table id = some row → postgres.refusesDisable table id tables ≠ none) ∧
        (disableAsync postgres table id tables).2 = tables) := by
  rw [disableAsync, Effect.bind_ok (Effect.gets_run _ _)]
  cases answered : postgres.refusesDisable table id tables with
  | some fault => exact Or.inr ⟨fun row _ => Option.some_ne_none fault, rfl⟩
  | none =>
    cases stored : tables.rows table id with
    | none =>
      refine Or.inr ⟨?_, rfl⟩
      rintro row ⟨⟩
    | some row => exact Or.inl ⟨row, rfl, rfl, rfl⟩

/-- The tables and the time of day. -/
structure Shared (Others : Type) where
  tables : Tables Others
  now : Nat

/-- The statements of the requests on one row. An update carries its request and
the row it has read. -/
inductive Access (table : AdminTable) where
  | select
  | update (request : Request table) (existing : Row table)
  | disable

def Access.isUpdate {table : AdminTable} : Access table → Bool
  | .update _ _ => true
  | _ => false

/-- What a statement returns. -/
def Access.answer {table : AdminTable} : Access table → Type
  | .select => Except Fault (Option (Row table))
  | .update _ _ => Except Fault (Option (Row table))
  | .disable => Except Fault Bool

/-- A response of the admin interface. -/
inductive Response (table : AdminTable) where
  | ok (row : Row table)
  | noContent
  | notFound

/-- `updated is null ? NotFound : Ok`. -/
def Response.of {table : AdminTable} : Option (Row table) → Response table
  | none => .notFound
  | some row => .ok row

/-- A request on one row. -/
inductive Call (table : AdminTable) where
  | put (request : Request table)
  | delete

/-- A request under way. -/
abbrev Handling (table : AdminTable) (α : Type) :=
  Program (Access table) Access.answer Fault α

namespace Call

variable {table : AdminTable}

/-- Each statement is a step of its own; its exception is the handler's. -/
def select : Handling table (Option (Row table)) :=
  .ask .select (fun received => .done received)

def write (request : Request table) (existing : Row table) : Handling table (Option (Row table)) :=
  .ask (.update request existing) (fun received => .done received)

def clear : Handling table Bool := .ask .disable (fun received => .done received)

/-- `PUT /{id}`. -/
def update (request : Request table) : Handling table (Response table) := do
  if table.put.loadsExisting then
    match ← select with
    | none => pure .notFound
    | some existing => pure (Response.of (← write request existing))
  else pure (Response.of (← write request (fun _ => none)))

/-- `DELETE /{id}`. -/
def disable : Handling table (Response table) := do
  if ← clear then pure .noContent else pure .notFound

/-- The handler of a request. -/
def handler : Call table → Handling table (Response table)
  | .put request => update request
  | .delete => disable

end Call

section Statements

variable (postgres : AdminPostgres Others) (conversions : Conversions) (table : AdminTable) (id : Guid)

/-- The database at a time of day. -/
def AdminPostgres.at (postgres : AdminPostgres Others) (now : Nat) : AdminPostgres Others :=
  { postgres with currentTimestamp := now }

/-- Run a statement against the tables. -/
def Shared.onTables {α : Type} (statement : Statement Others α) (shared : Shared Others) :
    Except Fault α × Shared Others :=
  ((statement shared.tables).1, { shared with tables := (statement shared.tables).2 })

/-- What the statements do. -/
def execute : (action : Access table) → Shared Others → action.answer × Shared Others
  | .select, shared => shared.onTables (getByIdAsync (postgres.at shared.now).toPostgres table id)
  | .update request existing, shared =>
      shared.onTables (updateAsync (postgres.at shared.now).toPostgres table id
        (parameters conversions table request existing))
  | .disable, shared =>
      shared.onTables (disableAsync (postgres.at shared.now) table id)

/-- Everything but the row becomes what it is elsewhere. -/
def Shared.around (elsewhere shared : Shared Others) : Shared Others where
  tables := { elsewhere.tables with
    rows := Function.update elsewhere.tables.rows table
      (Function.update (elsewhere.tables.rows table) id (shared.tables.rows table id)) }
  now := elsewhere.now

/-- The admin interface serving requests on one row. -/
def admin : System (Access table) Access.answer Fault (Response table) (Shared Others)
    (Shared Others) (Call table) where
  execute := execute postgres conversions table id
  alter := Shared.around table id
  launch := fun call _ => call.handler

end Statements

section Connection

variable {postgres : AdminPostgres Others} {conversions : Conversions} {table : AdminTable} {id : Guid}

theorem getByIdAsync_tables (postgres : AdminPostgres Others) (tables : Tables Others) :
    (getByIdAsync postgres.toPostgres table id tables).2 = tables := by
  cases refused : postgres.refusesRead table id tables with
  | none => rw [getByIdAsync_run refused]
  | some fault => rw [getByIdAsync_fault refused]

theorem write_alone (request : Request table) (existing : Row table) (shared : Shared Others) :
    Program.alone (execute postgres conversions table id)
        (do pure (Response.of (← Call.write request existing))) shared =
      shared.onTables (do
        pure (Response.of (← updateAsync (postgres.at shared.now).toPostgres table id
          (parameters conversions table request existing)))) := by
  rcases ran : updateAsync (postgres.at shared.now).toPostgres table id
    (parameters conversions table request existing) shared.tables with ⟨ending, after⟩
  rw [Shared.onTables, Effect.bind_run, ran]
  simp only [Call.write, Program.ask_andThen, Program.alone, execute, Shared.onTables, ran]
  cases ending with
  | ok updated => rfl
  | error fault => rfl

/-- Uninterrupted, the two statements of an update are the update. -/
theorem update_alone (request : Request table) (shared : Shared Others) :
    Program.alone (execute postgres conversions table id) (Call.update request) shared =
      shared.onTables (do
        pure (Response.of
          (← put (postgres.at shared.now).toPostgres conversions table id request))) := by
  unfold Call.update put
  split
  · rcases ran : getByIdAsync (postgres.at shared.now).toPostgres table id shared.tables with
      ⟨ending, after⟩
    obtain rfl : after = shared.tables :=
      (congrArg Prod.snd ran).symm.trans (getByIdAsync_tables _ _)
    simp only [Call.select, Program.ask_andThen, Program.alone, execute, Shared.onTables, ran,
      Effect.bind_run]
    rcases ending with fault | read
    · rfl
    · cases read with
      | none => rfl
      | some existing => exact write_alone request existing shared
  · exact write_alone request _ shared

end Connection

/-- A world of requests on one row. -/
abbrev AdminWorld (Others : Type) (table : AdminTable) :=
  World (Access table) Access.answer Fault (Response table) (Shared Others)

/-- A move of such a world. -/
abbrev AdminMove (Others : Type) (table : AdminTable) := Move (Shared Others) (Call table)

section Columns

variable (postgres : AdminPostgres Others) (conversions : Conversions) {table : AdminTable} (id : Guid)

/-- The row, if there is one. -/
def rowIn (id : Guid) (world : AdminWorld Others table) : Option (Row table) :=
  world.shared.tables.rows table id

/-- What a column holds. -/
def held (id : Guid) (world : AdminWorld Others table) (column : table.Column) : Option Value :=
  (rowIn id world).bind (fun row => row column)

/-- The value that a request gives to a column: a property that is present and
valid. -/
def asked (request : Request table) (column : table.Column) : Option Value :=
  (request column).bind ((table.put.assignment column).requested conversions)

/-- A move carries out the write of a request with what it has read. -/
def Writes (world : AdminWorld Others table) (move : AdminMove Others table)
    (request : Request table) (existing : Row table) : Prop :=
  (∃ index, world.acts move = some (index, .update request existing)) ∧
    (∃ row, rowIn id world = some row) ∧
    postgres.refusesWrite table id (parameters conversions table request existing)
      world.shared.tables = none

/-- A move carries out a deletion. -/
def Deletes (world : AdminWorld Others table) (move : AdminMove Others table) : Prop :=
  (∃ index, world.acts move = some (index, .disable)) ∧ (∃ row, rowIn id world = some row) ∧
    postgres.refusesDisable table id world.shared.tables = none

/-- The statement a move carries out gives a value to a column. -/
def Gives (world : AdminWorld Others table) (move : AdminMove Others table) (column : table.Column)
    (value : Value) : Prop :=
  (∃ request existing, Writes postgres conversions id world move request existing ∧
      asked conversions request column = some value) ∨
    (Deletes postgres id world move ∧ table.switch column = true ∧ value = .boolean false)

/-- A write sends for no column that its request gives no value another value than
the column holds. -/
def UpToDate (world : AdminWorld Others table) (move : AdminMove Others table) : Prop :=
  ∀ request existing column sent value, Writes postgres conversions id world move request existing →
    asked conversions request column = none →
    parameters conversions table request existing column = some sent →
    held id world column = some value → sent = value

end Columns

section Steps

variable {postgres : AdminPostgres Others} {conversions : Conversions} {table : AdminTable} {id : Guid}
  {world : AdminWorld Others table} {move : AdminMove Others table} {row : Row table}

/-- What a statement makes of the row. -/
theorem updateAsync_row (postgres : Postgres Others) (sent : Row table) {tables : Tables Others}
    (stored : tables.rows table id = some row) :
    (updateAsync postgres table id sent tables).2.rows table id =
      match postgres.refusesWrite table id sent tables with
      | some _ => some row
      | none => some (coalesced postgres table sent row) := by
  cases refused : postgres.refusesWrite table id sent tables with
  | some fault => rw [updateAsync_fault refused, stored]
  | none => rw [updateAsync_run refused stored, setRow_rows_self]

theorem disableAsync_row (postgres : AdminPostgres Others) {tables : Tables Others}
    (stored : tables.rows table id = some row) :
    (disableAsync postgres table id tables).2.rows table id =
      match postgres.refusesDisable table id tables with
      | some _ => some row
      | none => some (disabled postgres.toPostgres table row) := by
  rw [disableAsync, Effect.bind_ok (Effect.gets_run _ _)]
  cases postgres.refusesDisable table id tables with
  | some fault => exact stored
  | none =>
    dsimp only
    rw [stored]
    exact setRow_rows_self _

/-- A move that asks for no statement, or for one that is refused, changes no row. -/
theorem idle_of_acts (done : Option (Nat × Access table)) (acts : world.acts move = done)
    (refused : ∀ index,
      (∀ request existing, done = some (index, .update request existing) →
        postgres.refusesWrite table id (parameters conversions table request existing)
          world.shared.tables ≠ none) ∧
      (done = some (index, .disable) → postgres.refusesDisable table id world.shared.tables ≠ none)) :
    (∀ request existing, ¬ Writes postgres conversions id world move request existing) ∧
      ¬ Deletes postgres id world move := by
  constructor
  · rintro request existing ⟨⟨index, asks⟩, _, accepted⟩
    exact (refused index).1 request existing (acts.symm.trans asks) accepted
  · rintro ⟨⟨index, asks⟩, _, accepted⟩
    exact (refused index).2 (acts.symm.trans asks) accepted

/-- A move leaves the row, or carries out one of the two statements that change it. -/
theorem move_row (postgres : AdminPostgres Others) (conversions : Conversions)
    (stored : rowIn id world = some row) (move : AdminMove Others table) :
    (rowIn id ((admin postgres conversions table id).move move world) = some row ∧
        (∀ request existing, ¬ Writes postgres conversions id world move request existing) ∧
        ¬ Deletes postgres id world move) ∨
      (∃ request existing, Writes postgres conversions id world move request existing ∧
        rowIn id ((admin postgres conversions table id).move move world) =
          some (coalesced (postgres.at world.shared.now).toPostgres table
            (parameters conversions table request existing) row)) ∨
      (Deletes postgres id world move ∧
        rowIn id ((admin postgres conversions table id).move move world) =
          some (disabled (postgres.at world.shared.now).toPostgres table row)) := by
  cases move with
  | changes elsewhere =>
    refine Or.inl ⟨?_, idle_of_acts none rfl (by simp)⟩
    simpa [rowIn, System.move, admin, Shared.around] using stored
  | starts call => exact Or.inl ⟨stored, idle_of_acts none rfl (by simp)⟩
  | advances index =>
    rcases asks_or_idle (admin postgres conversions table id) world index with
      ⟨origin, action, next, asking⟩ | ⟨silent, idle⟩
    · have acting : world.acts (.advances index : AdminMove Others table) = some (index, action) :=
        acts_asking asking
      rw [move_asking asking]
      cases action with
      | select =>
        refine Or.inl ⟨?_, idle_of_acts _ acting (by simp)⟩
        exact (congrArg (fun tables : Tables Others => tables.rows table id)
          (getByIdAsync_tables (postgres.at world.shared.now) _)).trans stored
      | update request existing =>
        have ran := updateAsync_row (postgres.at world.shared.now).toPostgres
          (parameters conversions table request existing) stored
        cases refused : postgres.refusesWrite table id
            (parameters conversions table request existing) world.shared.tables with
        | some fault =>
          rw [show (postgres.at world.shared.now).refusesWrite table id _ _ = _ from refused] at ran
          exact Or.inl ⟨ran, idle_of_acts _ acting (by simp [refused])⟩
        | none =>
          rw [show (postgres.at world.shared.now).refusesWrite table id _ _ = _ from refused] at ran
          exact Or.inr (Or.inl ⟨request, existing, ⟨⟨index, acting⟩, ⟨row, stored⟩, refused⟩, ran⟩)
      | disable =>
        have ran := disableAsync_row (postgres.at world.shared.now) stored
        cases refused : postgres.refusesDisable table id world.shared.tables with
        | some fault =>
          rw [show (postgres.at world.shared.now).refusesDisable table id _ = _ from refused] at ran
          exact Or.inl ⟨ran, idle_of_acts _ acting (by simp [refused])⟩
        | none =>
          rw [show (postgres.at world.shared.now).refusesDisable table id _ = _ from refused] at ran
          exact Or.inr (Or.inr ⟨⟨⟨index, acting⟩, ⟨row, stored⟩, refused⟩, ran⟩)
    · rw [idle]
      exact Or.inl ⟨stored, idle_of_acts none silent (by simp)⟩

/-- What a column returned is stored as it is, and a switch stores what it is
given. -/
structure Faithful (postgres : Postgres Others) (table : AdminTable) : Prop where
  settled : ∀ column value, postgres.convert table column (postgres.convert table column value) =
    postgres.convert table column value
  switches : ∀ column state, table.switch column = true →
    postgres.convert table column (.boolean state) = .boolean state

/-- A stamped column is not among those set. -/
theorem stamped_unset {column : table.Column} (stamped : table.put.stamped column = true) :
    table.put.assignment column = Assignment.unset := by
  cases table <;> cases column <;> first | rfl | cases stamped

theorem asked_unstamped {request : Request table} {column : table.Column} {value : Value}
    (gives : asked conversions request column = some value) :
    table.put.stamped column = false := by
  cases stamped : table.put.stamped column with
  | false => rfl
  | true =>
    obtain ⟨given, _, _⟩ := Option.bind_eq_some_iff.mp gives
    rw [stamped_unset stamped] at given
    exact nomatch given

theorem switch_unstamped {column : table.Column} (switch : table.switch column = true) :
    table.put.stamped column = false := by
  cases table <;> cases column <;> first | rfl | cases switch

/-- A switch is only ever given a truth value. -/
theorem asked_switch {request : Request table} {column : table.Column} {value : Value}
    (switch : table.switch column = true) (gives : asked conversions request column = some value) :
    ∃ state, value = .boolean state := by
  obtain ⟨given, _, valid⟩ := Option.bind_eq_some_iff.mp gives
  cases table <;> cases column <;> first | exact ⟨given, (Option.some.inj valid).symm⟩ | cases switch

/-- A write stores the value that its request gives to a column. -/
theorem write_taken (postgres : Postgres Others) {request : Request table} {existing : Row table}
    {column : table.Column}
    {value : Value} (gives : asked conversions request column = some value) :
    coalesced postgres table (parameters conversions table request existing) row column =
      some (postgres.convert table column value) := by
  obtain ⟨given, present, valid⟩ := Option.bind_eq_some_iff.mp gives
  rw [coalesced, asked_unstamped gives, parameters, present, Assignment.sent]
  simp [valid]

theorem held_eq_some_iff {column : table.Column} {value : Value} :
    held id world column = some value ↔ ∃ row, rowIn id world = some row ∧ row column = some value :=
  Option.bind_eq_some_iff

theorem gives_switch {column : table.Column} {value : Value} (switch : table.switch column = true)
    (gives : Gives postgres conversions id world move column value) :
    ∃ state, value = .boolean state := by
  rcases gives with ⟨request, existing, _, gives⟩ | ⟨_, _, rfl⟩
  · exact asked_switch switch gives
  · exact ⟨false, rfl⟩

/-- A move that asks for no write sends nothing. -/
theorem upToDate_unwritten
    (unwritten : (world.acts move).any (fun acting => acting.2.isUpdate) = false) :
    UpToDate postgres conversions id world move := by
  rintro request existing column sent value ⟨⟨index, acts⟩, _⟩
  rw [acts] at unwritten
  cases unwritten

/-- A value stays in its column through every step that sends nothing stale and
gives the column nothing else. -/
theorem held_move (faithful : Faithful postgres.toPostgres table) {column : table.Column}
    {value : Value} (unstamped : table.put.stamped column = false)
    (settled : postgres.convert table column value = value)
    (upToDate : UpToDate postgres conversions id world move)
    (same : ∀ given, Gives postgres conversions id world move column given →
      postgres.convert table column given = value)
    (holds : held id world column = some value) :
    held id ((admin postgres conversions table id).move move world) column = some value := by
  obtain ⟨row, stored, present⟩ := held_eq_some_iff.mp holds
  rw [held_eq_some_iff]
  rcases move_row postgres conversions stored move with
    ⟨kept, _⟩ | ⟨request, existing, writes, written⟩ | ⟨deletes, written⟩
  · exact ⟨row, kept, present⟩
  · refine ⟨_, written, ?_⟩
    cases gives : asked conversions request column with
    | some given =>
      rw [← same given (Or.inl ⟨request, existing, writes, gives⟩)]
      exact write_taken (postgres.at world.shared.now).toPostgres gives
    | none =>
      rw [coalesced, unstamped]
      cases sent : parameters conversions table request existing column with
      | none => simpa using present
      | some back =>
        obtain rfl := upToDate request existing column back value writes gives sent holds
        simp [AdminPostgres.at, settled]
  · refine ⟨_, written, ?_⟩
    rw [disabled, unstamped]
    cases switch : table.switch column with
    | false => simpa using present
    | true =>
      have cleared := same (.boolean false) (Or.inr ⟨deletes, switch, rfl⟩)
      rw [faithful.switches column false switch] at cleared
      simp [cleared]

/-- A value stays in its column through a run of such steps. -/
theorem held_run (faithful : Faithful postgres.toPostgres table) {column : table.Column}
    {value : Value} (unstamped : table.put.stamped column = false)
    (settled : postgres.convert table column value = value) {moves : List (AdminMove Others table)}
    (upToDate : Runs.Along (admin postgres conversions table id).move
      (UpToDate postgres conversions id) moves world)
    (same : Runs.Along (admin postgres conversions table id).move (fun world move =>
      ∀ given, Gives postgres conversions id world move column given →
        postgres.convert table column given = value) moves world)
    (holds : held id world column = some value) :
    held id (Runs.run (admin postgres conversions table id).move moves world) column =
      some value := by
  have kept : ∀ (reached : AdminWorld Others table) (move : AdminMove Others table),
      held id reached column = some value →
      (UpToDate postgres conversions id reached move ∧
        ∀ given, Gives postgres conversions id reached move column given →
          postgres.convert table column given = value) →
      held id ((admin postgres conversions table id).move move reached) column = some value :=
    fun _ _ holds allowed => held_move faithful unstamped settled allowed.1 allowed.2 holds
  exact Runs.invariant_run kept (Runs.along_and upToDate same) holds

/-- A move carries out one write at most. -/
theorem writes_unique {request other : Request table} {existing otherRead : Row table}
    (writes : Writes postgres conversions id world move request existing)
    (also : Writes postgres conversions id world move other otherRead) : request = other := by
  obtain ⟨⟨index, acting⟩, _⟩ := writes
  obtain ⟨⟨again, acts⟩, _⟩ := also
  rw [acting] at acts
  cases acts
  rfl

theorem not_deletes {request : Request table} {existing : Row table}
    (writes : Writes postgres conversions id world move request existing) :
    ¬ Deletes postgres id world move := by
  rintro ⟨⟨index, acts⟩, _⟩
  obtain ⟨⟨again, acting⟩, _⟩ := writes
  rw [acting] at acts
  cases acts

/-- A write leaves the value that its request gives to a column there. -/
theorem held_writes {request : Request table} {existing : Row table}
    (writes : Writes postgres conversions id world move request existing) {column : table.Column}
    {value : Value} (gives : asked conversions request column = some value) :
    held id ((admin postgres conversions table id).move move world) column =
      some (postgres.convert table column value) := by
  obtain ⟨row, stored⟩ := writes.2.1
  rw [held_eq_some_iff]
  rcases move_row postgres conversions stored move with
    ⟨_, silent, _⟩ | ⟨other, read, also, written⟩ | ⟨deletes, _⟩
  · exact absurd writes (silent request existing)
  · obtain rfl := writes_unique writes also
    exact ⟨_, written, write_taken (postgres.at world.shared.now).toPostgres gives⟩
  · exact absurd deletes (not_deletes writes)

/-- A deletion leaves the switch off. -/
theorem held_deletes (conversions : Conversions) (deletes : Deletes postgres id world move)
    {column : table.Column}
    (switch : table.switch column = true) :
    held id ((admin postgres conversions table id).move move world) column =
      some (.boolean false) := by
  obtain ⟨row, stored⟩ := deletes.2.1
  rw [held_eq_some_iff]
  rcases move_row postgres conversions stored move with
    ⟨_, _, silent⟩ | ⟨request, existing, writes, _⟩ | ⟨_, written⟩
  · exact absurd deletes silent
  · exact absurd deletes (not_deletes writes)
  · refine ⟨_, written, ?_⟩
    simp [disabled, switch_unstamped switch, switch]

end Steps

section LostUpdates

variable (postgres : AdminPostgres Others) (conversions : Conversions) (table : AdminTable) (id : Guid)

/-- What a move carries out gives a column no value. -/
def Silent (world : AdminWorld Others table) (move : AdminMove Others table)
    (column : table.Column) : Prop :=
  ∀ value, ¬ Gives postgres conversions id world move column value

/-- No update of the row is lost in a run. What a deletion has disabled stays
disabled while no write sets the switch. Of two updates whose requests mention no
property in common, both completed, every property has the value its request
gave it, while nothing else is given to it. -/
structure NoLostUpdate (moves : List (AdminMove Others table)) (world : AdminWorld Others table) :
    Prop where
  staysDisabled : ∀ during deletion after column, moves = during ++ deletion :: after →
    table.switch column = true →
    Deletes postgres id (Runs.run (admin postgres conversions table id).move during world) deletion →
    Runs.Along (admin postgres conversions table id).move (fun reached move =>
        ¬ Gives postgres conversions id reached move column (.boolean true)) after
      (Runs.run (admin postgres conversions table id).move (during ++ [deletion]) world) →
    held id (Runs.run (admin postgres conversions table id).move moves world) column =
      some (.boolean false)
  mentionedKept : ∀ during former between latter after first firstRead second secondRead,
    moves = during ++ former :: (between ++ latter :: after) →
    Writes postgres conversions id
      (Runs.run (admin postgres conversions table id).move during world) former first firstRead →
    Writes postgres conversions id (Runs.run (admin postgres conversions table id).move
      (during ++ former :: between) world) latter second secondRead →
    (∀ column, first column = none ∨ second column = none) →
    Runs.Along (admin postgres conversions table id).move (fun reached move =>
        ∀ column, (first column).isSome → Silent postgres conversions table id reached move column)
      between (Runs.run (admin postgres conversions table id).move (during ++ [former]) world) →
    Runs.Along (admin postgres conversions table id).move (fun reached move =>
        ∀ column, (first column).isSome ∨ (second column).isSome →
          Silent postgres conversions table id reached move column)
      after (Runs.run (admin postgres conversions table id).move
        (during ++ former :: (between ++ [latter])) world) →
    ∀ column value, asked conversions first column = some value ∨
        asked conversions second column = some value →
      held id (Runs.run (admin postgres conversions table id).move moves world) column =
        some (postgres.convert table column value)

variable {postgres conversions table id}

theorem asked_mentions {request : Request table} {column : table.Column} {value : Value}
    (gives : asked conversions request column = some value) : (request column).isSome := by
  obtain ⟨given, present, _⟩ := Option.bind_eq_some_iff.mp gives
  simp [present]

/-- A value stays in its column while nothing is given to it. -/
theorem held_silent (faithful : Faithful postgres.toPostgres table) {column : table.Column}
    {value : Value} (unstamped : table.put.stamped column = false)
    (settled : postgres.convert table column value = value) {moves : List (AdminMove Others table)}
    {world : AdminWorld Others table}
    (upToDate : Runs.Along (admin postgres conversions table id).move
      (UpToDate postgres conversions id) moves world)
    (quiet : Runs.Along (admin postgres conversions table id).move (fun reached move =>
      Silent postgres conversions table id reached move column) moves world)
    (holds : held id world column = some value) :
    held id (Runs.run (admin postgres conversions table id).move moves world) column = some value :=
  held_run faithful unstamped settled upToDate
    (Runs.along_mono (fun _ _ silent given gives => absurd gives (silent given)) quiet) holds

/-- Where no write ever sends a stale value for a column that its request gives no
value, no update is lost. -/
theorem no_lost_update (faithful : Faithful postgres.toPostgres table)
    (moves : List (AdminMove Others table)) (world : AdminWorld Others table)
    (upToDate : Runs.Along (admin postgres conversions table id).move
      (UpToDate postgres conversions id) moves world) :
    NoLostUpdate postgres conversions table id moves world := by
  constructor
  · rintro during deletion after column rfl switch deletes unset
    have along := (Runs.along_append.mp upToDate).2.2
    have judged : ∀ (reached : AdminWorld Others table) (move : AdminMove Others table),
        ¬ Gives postgres conversions id reached move column (.boolean true) →
          ∀ given, Gives postgres conversions id reached move column given →
            postgres.convert table column given = .boolean false := by
      intro reached move never given gives
      obtain ⟨state, rfl⟩ := gives_switch switch gives
      cases state with
      | true => exact absurd gives never
      | false => exact faithful.switches column false switch
    rw [Runs.run_concat] at unset
    rw [Runs.run_append]
    have kept := held_run faithful (switch_unstamped switch) (faithful.switches column false switch)
      along (Runs.along_mono judged unset) (held_deletes conversions deletes switch)
    exact kept
  · rintro during former between latter after first firstRead second secondRead rfl writesFirst
      writesSecond disjoint quietBetween quietAfter column value given
    obtain ⟨alongBetween, latterUpToDate, alongAfter⟩ :=
      Runs.along_append.mp (Runs.along_append.mp upToDate).2.2
    rw [Runs.run_append] at quietBetween writesSecond quietAfter ⊢
    have betweenLatter : ∀ reached, Runs.run (admin postgres conversions table id).move
        (former :: (between ++ [latter])) reached = (admin postgres conversions table id).move latter
          (Runs.run (admin postgres conversions table id).move (former :: between) reached) :=
      fun reached => Runs.run_concat _ (former :: between) latter reached
    rw [betweenLatter] at quietAfter
    have rest : ∀ reached, Runs.run (admin postgres conversions table id).move
        (former :: (between ++ latter :: after)) reached =
          Runs.run (admin postgres conversions table id).move after
            ((admin postgres conversions table id).move latter
              (Runs.run (admin postgres conversions table id).move (former :: between) reached)) :=
      fun reached => Runs.run_append _ (former :: between) (latter :: after) reached
    rw [rest]
    refine held_silent faithful (given.elim asked_unstamped asked_unstamped)
      (faithful.settled column value) alongAfter (Runs.along_mono (fun _ _ quiet => quiet column
        (given.imp asked_mentions asked_mentions)) quietAfter) ?_
    rcases given with gives | gives
    · have mentioned := asked_mentions gives
      have stays := held_silent faithful (asked_unstamped gives) (faithful.settled column value)
        alongBetween (Runs.along_mono (fun _ _ quiet => quiet column mentioned) quietBetween)
        (held_writes writesFirst gives)
      refine held_move faithful (asked_unstamped gives) (faithful.settled column value)
        latterUpToDate ?_ stays
      rintro other (⟨request, existing, writes, also⟩ | ⟨deletes, _⟩)
      · obtain rfl := writes_unique writesSecond writes
        have absent := (disjoint column).resolve_left (Option.isSome_iff_ne_none.mp mentioned)
        rw [asked, absent] at also
        cases also
      · exact absurd deletes (not_deletes writesSecond)
    · exact held_writes writesSecond gives

end LostUpdates

section Sample

/-- A database that refuses nothing. -/
def lenientAdmin : AdminPostgres Unit := { lenient with refusesDisable := fun _ _ _ => none }

theorem lenientAdmin_faithful (table : AdminTable) : Faithful lenientAdmin.toPostgres table :=
  ⟨fun _ _ => rfl, fun _ _ _ => rfl⟩

/-- A permission in force. -/
def grantedPermission : Row .clientPermissions := fun (column : ClientPermissionColumn) =>
  match column with
  | .id => some (.guid (Guid.numbered 1))
  | .clientId => some (.guid (Guid.numbered 2))
  | .endpointId => some (.guid (Guid.numbered 3))
  | .isEnabled => some (.boolean true)
  | .createdAt => some (.instant 1)
  | .expiresAt => some (.instant 100)

def grantedTables : Tables Unit where
  rows := fun table id =>
    match table with
    | .clientPermissions => if id = Guid.numbered 1 then some grantedPermission else none
    | _ => none
  others := ()

/-- No request has arrived yet. -/
def grantedWorld : AdminWorld Unit .clientPermissions := World.idle ⟨grantedTables, 1⟩

/-- An update that postpones the expiry. -/
def postpone : Request .clientPermissions := fun (column : ClientPermissionColumn) =>
  match column with
  | .expiresAt => some (200 : Nat)
  | .id => none
  | .clientId => none
  | .endpointId => none
  | .isEnabled => none
  | .createdAt => none

/-- An update that switches the permission off. -/
def switchOff : Request .clientPermissions := fun (column : ClientPermissionColumn) =>
  match column with
  | .isEnabled => some false
  | .id => none
  | .clientId => none
  | .endpointId => none
  | .createdAt => none
  | .expiresAt => none

/-- The permission is deleted between the two statements of an update. -/
def deletedMeanwhile : List (AdminMove Unit .clientPermissions) :=
  [.starts (.put postpone), .advances 0, .starts .delete, .advances 1, .advances 0]

/-- Two updates read before either has written. -/
def readTogether : List (AdminMove Unit .clientPermissions) :=
  [.starts (.put switchOff), .starts (.put postpone), .advances 0, .advances 1, .advances 0,
    .advances 1]

/-- An update after a deletion. -/
def inSequence : List (AdminMove Unit .clientPermissions) :=
  [.starts .delete, .advances 0, .starts (.put postpone), .advances 1, .advances 1]

theorem no_lost_update_inSequence :
    NoLostUpdate lenientAdmin plainConversions .clientPermissions (Guid.numbered 1) inSequence
      grantedWorld :=
  no_lost_update (lenientAdmin_faithful _) inSequence grantedWorld (by
    refine ⟨upToDate_unwritten rfl, upToDate_unwritten rfl, upToDate_unwritten rfl,
      upToDate_unwritten rfl, ?_, trivial⟩
    intro request existing column sent value writes silent sends holds
    obtain ⟨⟨_, acts⟩, _⟩ := writes
    cases acts
    cases (column : ClientPermissionColumn) with
    | isEnabled => exact Option.some.inj (sends.symm.trans holds)
    | expiresAt => cases silent
    | _ => cases sends)

/-- An update that has read a permission before it was deleted grants it again;
an update that has read before another one has written undoes it. -/
theorem permission_granted_again :
    ¬ NoLostUpdate lenientAdmin plainConversions .clientPermissions (Guid.numbered 1)
        deletedMeanwhile grantedWorld ∧
      ¬ NoLostUpdate lenientAdmin plainConversions .clientPermissions (Guid.numbered 1)
        readTogether grantedWorld := by
  constructor
  · intro kept
    have off := kept.staysDisabled [.starts (.put postpone), .advances 0, .starts .delete]
      (.advances 1) [.advances 0] ClientPermissionColumn.isEnabled rfl rfl
      ⟨⟨1, rfl⟩, ⟨_, rfl⟩, rfl⟩ ⟨?_, trivial⟩
    · exact absurd off (by decide)
    · rintro (⟨request, existing, ⟨⟨_, acts⟩, _⟩, gives⟩ | ⟨⟨⟨_, acts⟩, _⟩, _⟩)
      · cases acts
        cases gives
      · cases acts
  · intro kept
    have off := kept.mentionedKept [.starts (.put switchOff), .starts (.put postpone), .advances 0,
      .advances 1] (.advances 0) [] (.advances 1) [] switchOff grantedPermission postpone
      grantedPermission rfl ⟨⟨0, rfl⟩, ⟨_, rfl⟩, rfl⟩ ⟨⟨1, rfl⟩, ⟨_, rfl⟩, rfl⟩
      (fun (column : ClientPermissionColumn) => by
        cases column <;> first | exact Or.inl rfl | exact Or.inr rfl)
      trivial trivial ClientPermissionColumn.isEnabled (.boolean false) (Or.inl rfl)
    exact absurd off (by decide)

end Sample

end ApiGateway.Admin
