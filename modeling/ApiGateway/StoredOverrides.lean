import ApiGateway.ConcurrentUpdates

/-!
# Overrides that are stored

A null column of an endpoint leaves the service's default in force, a null
expiry never comes, and a null address list admits every address. A request
cannot ask for null: a property that is null is one that is left out, and a null
that a handler sends all the same keeps the column. So a value that a column
holds can be replaced and never removed.
-/

namespace ApiGateway.Admin

open Effects Interleaving

variable {Others : Type} {postgres : AdminPostgres Others} {conversions : Conversions}
  {table : AdminTable} {id : Guid} {world : AdminWorld Others table}

/-- The columns whose null leaves something else in force. -/
def AdminTable.override : (table : AdminTable) → table.Column → Bool
  | .endpoints => fun (column : EndpointColumn) =>
      column ∈ [.cryptoAlgorithm, .keySource, .ivSource, .encoding, .requireIv,
        .upstreamPathTemplate, .headersToAdd, .headersToRemove, .rateLimitPolicy]
  | .clientPermissions => fun (column : ClientPermissionColumn) => column = .expiresAt
  | .clients => fun (column : ClientColumn) => column = .allowedIpAddresses
  | _ => fun _ => false

/-- Some requests on the row make one column null and leave the others. The
trigger's column is left out. -/
def TakenBack (postgres : AdminPostgres Others) (conversions : Conversions) (id : Guid)
    (world : AdminWorld Others table) (column : table.Column) : Prop :=
  ∃ moves row changed, rowIn id world = some row ∧
    rowIn id (Runs.run (admin postgres conversions table id).move moves world) = some changed ∧
    changed column = none ∧
    ∀ other, other ≠ column → table.put.stamped other = false → changed other = row other

/-- The columns of a row that hold a value. -/
def Filled (row : Row table) (column : table.Column) : Prop := (row column).isSome

theorem coalesced_filled (postgres : Postgres Others) {parameters row : Row table}
    {column : table.Column}
    (filled : Filled row column) : Filled (coalesced postgres table parameters row) column := by
  rw [Filled, coalesced]
  split
  · rfl
  · rw [Option.isSome_or, filled, Bool.or_true]

theorem disabled_filled (postgres : Postgres Others) {row : Row table} {column : table.Column}
    (filled : Filled row column) :
    Filled (disabled postgres table row) column := by
  rw [Filled, disabled]
  split
  · rfl
  · split
    · rfl
    · exact filled

/-- The row has a value in a column. -/
def HoldsValue (id : Guid) (column : table.Column) (world : AdminWorld Others table) : Prop :=
  ∃ row, rowIn id world = some row ∧ Filled row column

/-- A column that holds a value holds one after every move. -/
theorem filled_move {column : table.Column} (filled : HoldsValue id column world)
    (move : AdminMove Others table) :
    HoldsValue id column ((admin postgres conversions table id).move move world) := by
  obtain ⟨row, stored, filled⟩ := filled
  rcases move_row postgres conversions stored move with
    ⟨kept, _⟩ | ⟨request, existing, _, written⟩ | ⟨_, written⟩
  · exact ⟨row, kept, filled⟩
  · exact ⟨_, written, coalesced_filled (postgres.at world.shared.now).toPostgres filled⟩
  · exact ⟨_, written, disabled_filled (postgres.at world.shared.now).toPostgres filled⟩

/-- A column that holds a value holds one after every run of requests. -/
theorem filled_run {column : table.Column} (filled : HoldsValue id column world)
    (moves : List (AdminMove Others table)) :
    HoldsValue id column (Runs.run (admin postgres conversions table id).move moves world) := by
  have kept : ∀ (reached : AdminWorld Others table) (move : AdminMove Others table),
      HoldsValue id column reached → True →
        HoldsValue id column ((admin postgres conversions table id).move move reached) :=
    fun _ move filled _ => filled_move filled move
  exact Runs.invariant_run kept (Runs.along_of_forall (fun _ _ => trivial) moves world) filled

/-- No requests on the row remove the value of a column that holds one. -/
theorem filled_kept {column : table.Column} {value : Value}
    (stored : held id world column = some value) :
    ¬ TakenBack postgres conversions id world column := by
  rintro ⟨moves, _, changed, _, reached, null, _⟩
  obtain ⟨row, present, holds⟩ := held_eq_some_iff.mp stored
  have filled : HoldsValue id column world := ⟨row, present, by rw [Filled, holds]; rfl⟩
  obtain ⟨last, there, filled⟩ : HoldsValue id column
      (Runs.run (admin postgres conversions table id).move moves world) := filled_run filled moves
  obtain rfl := Option.some.inj (reached.symm.trans there)
  rw [Filled, null] at filled
  cases filled

/-- An override that is stored is never taken back, whatever requests on its row
follow. -/
theorem override_never_taken_back (postgres : AdminPostgres Others) (conversions : Conversions)
    (table : AdminTable) (id : Guid) (world : AdminWorld Others table) (column : table.Column)
    (value : Value) (overrides : table.override column = true ∧ held id world column = some value) :
    ¬ TakenBack postgres conversions id world column :=
  filled_kept overrides.2

/-- An endpoint that leaves everything to its service. -/
def plainEndpoint : Row .endpoints := fun (column : EndpointColumn) =>
  match column with
  | .id => some (.guid (Guid.numbered 1))
  | .serviceId => some (.guid (Guid.numbered 2))
  | .endpointName => some (.text "login".toList)
  | .httpMethod => some (.text "POST".toList)
  | .relativePath => some (.text "/login".toList)
  | .isEnabled => some (.boolean true)
  | .timeoutMs => some (.integer 30000)
  | .maxRetries => some (.integer 0)
  | .idempotentOnly => some (.boolean false)
  | .requestSizeLimitBytes => some (.integer 1048576)
  | .responseSizeLimitBytes => some (.integer 1048576)
  | .payloadExpectation => some (.member 2)
  | .encryptRequest => some (.boolean false)
  | .encryptResponse => some (.boolean false)
  | .createdAt => some (.instant 1)
  | .updatedAt => some (.instant 1)
  | _ => none

def endpointTables : Tables Unit where
  rows := fun table id =>
    match table with
    | .endpoints => if id = Guid.numbered 1 then some plainEndpoint else none
    | _ => none
  others := ()

/-- An update that overrides the algorithm. -/
def overrideAlgorithm : Request .endpoints := fun (column : EndpointColumn) =>
  match column with
  | .cryptoAlgorithm => some "NONE".toList
  | _ => none

/-- The endpoint after that update. -/
def overriddenWorld : AdminWorld Unit .endpoints :=
  Runs.run (admin lenientAdmin plainConversions .endpoints (Guid.numbered 1)).move
    [.starts (.put overrideAlgorithm), .advances 0, .advances 0] (World.idle ⟨endpointTables, 1⟩)

theorem override_never_taken_back_algorithm :
    ¬ TakenBack lenientAdmin plainConversions (Guid.numbered 1) overriddenWorld
      EndpointColumn.cryptoAlgorithm :=
  override_never_taken_back lenientAdmin plainConversions .endpoints (Guid.numbered 1)
    overriddenWorld EndpointColumn.cryptoAlgorithm (.member 0) (by decide)

/-- An algorithm that was overridden stays overridden, and a permission that
expires goes on expiring. -/
theorem algorithm_stays_overridden :
    plainEndpoint EndpointColumn.cryptoAlgorithm = none ∧
      held (Guid.numbered 1) overriddenWorld EndpointColumn.cryptoAlgorithm = some (.member 0) ∧
      ¬ TakenBack lenientAdmin plainConversions (Guid.numbered 1) overriddenWorld
        EndpointColumn.cryptoAlgorithm ∧
      ¬ TakenBack lenientAdmin plainConversions (Guid.numbered 1) grantedWorld
        ClientPermissionColumn.expiresAt := by
  have overridden : held (Guid.numbered 1) overriddenWorld EndpointColumn.cryptoAlgorithm =
      some (.member 0) := by
    decide
  have expires : held (Guid.numbered 1) grantedWorld ClientPermissionColumn.expiresAt =
      some (.instant 100) := by
    decide
  exact ⟨rfl, overridden, filled_kept overridden, filled_kept expires⟩

end ApiGateway.Admin
