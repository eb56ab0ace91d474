import ApiGateway.AdminRows
import ApiGateway.Library.Runs
import ApiGateway.Library.Tables

/-!
# Endpoint access of organisations

An organisation requests an endpoint; an administrator sets the request's status;
an approval lets the organisation use the endpoint. Requests and approvals are
two tables, each with one row for an organisation and an endpoint. The handlers
of one table do not look at the other.

A statement may also be refused for reasons of its own, such as a connection
that is lost or a row of another table that is missing; then nothing changes.
-/

namespace ApiGateway.Organisations

open Effects Keyed

structure OrgEndpointRequest where
  id : Guid
  tenantId : Guid
  endpointId : Guid
  status : Text
  requestedBy : Option Guid
  reviewedBy : Option Guid
  reviewedAt : Option Nat
  createdAt : Nat
deriving DecidableEq

structure OrgEndpointApproval where
  id : Guid
  tenantId : Guid
  endpointId : Guid
  approvedBy : Option Guid
  approvedAt : Nat
  adminIpAllowlist : Option Text
  adminIpEnforced : Bool
  createdAt : Nat
deriving DecidableEq

/-- The organisation and the endpoint of a request. -/
def OrgEndpointRequest.access (row : OrgEndpointRequest) : Guid × Guid :=
  (row.tenantId, row.endpointId)

/-- The organisation and the endpoint of an approval. -/
def OrgEndpointApproval.access (row : OrgEndpointApproval) : Guid × Guid :=
  (row.tenantId, row.endpointId)

/-- The two tables, each unique in organisation and endpoint. -/
structure OrgTables where
  requests : Table OrgEndpointRequest.id OrgEndpointRequest.access
  approvals : Table OrgEndpointApproval.id OrgEndpointApproval.access

def OrgTables.empty : OrgTables := ⟨Table.empty, Table.empty⟩

/-- What a handler meets: the key the database generates, the time of day and
statements that are refused. -/
structure Circumstances where
  generated : Guid
  now : Nat
  refusesRead : Option Fault := none
  refusesWrite : Option Fault := none

def uniqueViolation : Fault := ⟨"23505".toList⟩

def notNullViolation : Fault := ⟨"23502".toList⟩

/-- A statement against the two tables. -/
abbrev OrgTask (α : Type) := Effect Fault OrgTables α

/-- End with the exception of a refused statement. -/
def unlessRefused (refused : Option Fault) : OrgTask Unit :=
  match refused with
  | some fault => Effect.fail fault
  | none => pure ()

namespace OrgEndpointRequestEntityRepository

/-- The row of `VALUES (…, COALESCE(@Status, 'pending'), …)`. -/
def inserted (circumstances : Circumstances) (tenantId endpointId : Guid) (status : NullableText)
    (requestedBy : Option Guid) : OrgEndpointRequest where
  id := circumstances.generated
  tenantId := tenantId
  endpointId := endpointId
  status := status.getD "pending".toList
  requestedBy := requestedBy
  reviewedBy := none
  reviewedAt := none
  createdAt := circumstances.now

/-- Add a row, unless a key is taken. -/
def insert (row : OrgEndpointRequest) : OrgTask OrgEndpointRequest := fun tables =>
  if admits : tables.requests.Admits row then
    (.ok row, { tables with requests := tables.requests.insert row admits })
  else (.error uniqueViolation, tables)

def createAsync (circumstances : Circumstances) (tenantId endpointId : Guid)
    (status : NullableText) (requestedBy : Option Guid) : OrgTask OrgEndpointRequest := do
  unlessRefused circumstances.refusesWrite
  insert (inserted circumstances tenantId endpointId status requestedBy)

def getByIdAsync (circumstances : Circumstances) (id : Guid) : OrgTask (Option OrgEndpointRequest) := do
  unlessRefused circumstances.refusesRead
  Effect.gets (fun tables => tables.requests.find id)

/-- `SET status = @Status, reviewed_by = @ReviewedBy, reviewed_at = now()`. -/
def reviewed (circumstances : Circumstances) (status : Text) (reviewedBy : Option Guid)
    (row : OrgEndpointRequest) : OrgEndpointRequest :=
  { row with status := status, reviewedBy := reviewedBy, reviewedAt := some circumstances.now }

/-- The tables with a status set. -/
def setStatus (circumstances : Circumstances) (id : Guid) (status : Text) (reviewedBy : Option Guid)
    (tables : OrgTables) : OrgTables where
  requests := tables.requests.modify id (reviewed circumstances status reviewedBy)
    (fun _ => rfl) (fun _ => rfl)
  approvals := tables.approvals

def updateStatusAsync (circumstances : Circumstances) (id : Guid) (status : NullableText)
    (reviewedBy : Option Guid) : OrgTask (Option OrgEndpointRequest) := do
  unlessRefused circumstances.refusesWrite
  match status with
  | none => do
    let found ← Effect.gets (fun tables : OrgTables => tables.requests.find id)
    if found.isSome then Effect.fail notNullViolation else pure none
  | some status => do
    Effect.update (setStatus circumstances id status reviewedBy)
    Effect.gets (fun tables => tables.requests.find id)

end OrgEndpointRequestEntityRepository

namespace OrgEndpointApprovalEntityRepository

def inserted (circumstances : Circumstances) (tenantId endpointId : Guid)
    (approvedBy : Option Guid) (adminIpAllowlist : Option Text) (adminIpEnforced : Bool) :
    OrgEndpointApproval where
  id := circumstances.generated
  tenantId := tenantId
  endpointId := endpointId
  approvedBy := approvedBy
  approvedAt := circumstances.now
  adminIpAllowlist := adminIpAllowlist
  adminIpEnforced := adminIpEnforced
  createdAt := circumstances.now

/-- Add a row, unless a key is taken. -/
def insert (row : OrgEndpointApproval) : OrgTask OrgEndpointApproval := fun tables =>
  if admits : tables.approvals.Admits row then
    (.ok row, { tables with approvals := tables.approvals.insert row admits })
  else (.error uniqueViolation, tables)

def createAsync (circumstances : Circumstances) (tenantId endpointId : Guid)
    (approvedBy : Option Guid) (adminIpAllowlist : Option Text) (adminIpEnforced : Bool) :
    OrgTask OrgEndpointApproval := do
  unlessRefused circumstances.refusesWrite
  insert (inserted circumstances tenantId endpointId approvedBy adminIpAllowlist adminIpEnforced)

/-- `SET admin_ip_allowlist = COALESCE(…), admin_ip_enforced = COALESCE(…)`. -/
def restricted (adminIpAllowlist : Option Text) (adminIpEnforced : Bool)
    (row : OrgEndpointApproval) : OrgEndpointApproval :=
  { row with
    adminIpAllowlist := adminIpAllowlist.or row.adminIpAllowlist
    adminIpEnforced := adminIpEnforced }

def updateAsync (circumstances : Circumstances) (id : Guid) (adminIpAllowlist : Option Text)
    (adminIpEnforced : Bool) : OrgTask (Option OrgEndpointApproval) := do
  unlessRefused circumstances.refusesWrite
  Effect.update (fun tables => { tables with
    approvals := tables.approvals.modify id (restricted adminIpAllowlist adminIpEnforced)
      (fun _ => rfl) (fun _ => rfl) })
  Effect.gets (fun tables => tables.approvals.find id)

end OrgEndpointApprovalEntityRepository

/-- The operations on requests and approvals, with their bodies. -/
inductive OrgOperation where
  | createRequest (tenantId endpointId : Guid) (requestedBy : Option Guid)
  | setRequestStatus (id : Guid) (status : NullableText) (reviewedById : Option Guid)
  | createApproval (tenantId endpointId : Guid) (approvedById : Option Guid)
      (adminIpAllowlist : Option (List NullableText)) (adminIpEnforced : Option Bool)
  | updateApproval (id : Guid) (adminIpAllowlist : Option (List NullableText))
      (adminIpEnforced : Option Bool)

/-- An operation in its circumstances. -/
structure OrgStep where
  operation : OrgOperation
  circumstances : Circumstances

section Handlers

variable (serialize : List NullableText → Text) (circumstances : Circumstances)

/-- `POST /tenants/{tenantId}/endpoint-requests`. -/
def createRequest (tenantId endpointId : Guid) (requestedBy : Option Guid) :
    OrgTask OrgEndpointRequest :=
  OrgEndpointRequestEntityRepository.createAsync circumstances tenantId endpointId
    (some "pending".toList) requestedBy

/-- `PUT /org-endpoint-requests/{id}/status`: none is `NotFound`. -/
def setRequestStatus (id : Guid) (status : NullableText) (reviewedById : Option Guid) :
    OrgTask (Option OrgEndpointRequest) := do
  match ← OrgEndpointRequestEntityRepository.getByIdAsync circumstances id with
  | none => pure none
  | some _ =>
    OrgEndpointRequestEntityRepository.updateStatusAsync circumstances id status reviewedById

/-- `POST /tenants/{tenantId}/approvals`. -/
def createApproval (tenantId endpointId : Guid) (approvedById : Option Guid)
    (adminIpAllowlist : Option (List NullableText)) (adminIpEnforced : Option Bool) :
    OrgTask OrgEndpointApproval :=
  OrgEndpointApprovalEntityRepository.createAsync circumstances tenantId endpointId approvedById
    (adminIpAllowlist.map serialize) (adminIpEnforced.getD false)

/-- `PUT /org-endpoint-approvals/{id}`: none is `NotFound`. -/
def updateApproval (id : Guid) (adminIpAllowlist : Option (List NullableText))
    (adminIpEnforced : Option Bool) : OrgTask (Option OrgEndpointApproval) :=
  OrgEndpointApprovalEntityRepository.updateAsync circumstances id (adminIpAllowlist.map serialize)
    (adminIpEnforced.getD false)

/-- The tables after an operation. -/
def perform (step : OrgStep) (tables : OrgTables) : OrgTables :=
  match step.operation with
  | .createRequest tenantId endpointId requestedBy =>
      (createRequest step.circumstances tenantId endpointId requestedBy tables).2
  | .setRequestStatus id status reviewedById =>
      (setRequestStatus step.circumstances id status reviewedById tables).2
  | .createApproval tenantId endpointId approvedById adminIpAllowlist adminIpEnforced =>
      (createApproval serialize step.circumstances tenantId endpointId approvedById
        adminIpAllowlist adminIpEnforced tables).2
  | .updateApproval id adminIpAllowlist adminIpEnforced =>
      (updateApproval serialize step.circumstances id adminIpAllowlist adminIpEnforced tables).2

end Handlers

section Statements

variable {serialize : List NullableText → Text} {circumstances : Circumstances} {tables : OrgTables}
  {tenantId endpointId id : Guid}

/-- A new request is inserted as pending, or nothing changes. -/
theorem createRequest_tables (circumstances : Circumstances) (tenantId endpointId : Guid)
    (requestedBy : Option Guid) (tables : OrgTables) :
    (∃ admits, (createRequest circumstances tenantId endpointId requestedBy tables).2 =
        { tables with requests := tables.requests.insert (OrgEndpointRequestEntityRepository.inserted
            circumstances tenantId endpointId (some "pending".toList) requestedBy) admits }) ∨
      (createRequest circumstances tenantId endpointId requestedBy tables).2 = tables := by
  rw [createRequest, OrgEndpointRequestEntityRepository.createAsync]
  cases circumstances.refusesWrite with
  | some fault => exact Or.inr rfl
  | none =>
    simp only [unlessRefused, Effect.bind_run, Effect.pure_run, OrgEndpointRequestEntityRepository.insert]
    split
    · next admits => exact Or.inl ⟨admits, rfl⟩
    · exact Or.inr rfl

/-- A status is set on a request that is there, unless a statement is refused. -/
structure Reviews (circumstances : Circumstances) (id : Guid) (status : NullableText)
    (tables : OrgTables) (row : OrgEndpointRequest) (text : Text) : Prop where
  found : tables.requests.find id = some row
  given : status = some text
  reads : circumstances.refusesRead = none
  writes : circumstances.refusesWrite = none

/-- The requests after a status is set: the others, and the reviewed one. -/
theorem mem_setStatus_iff (text : Text) (reviewedBy : Option Guid) (each : OrgEndpointRequest) :
    each ∈ (OrgEndpointRequestEntityRepository.setStatus circumstances id text reviewedBy
        tables).requests.rows ↔
      (each ∈ tables.requests.rows ∧ each.id ≠ id) ∨ ∃ row, tables.requests.find id = some row ∧
        each = OrgEndpointRequestEntityRepository.reviewed circumstances text reviewedBy row :=
  tables.requests.mem_modify_iff id
    (OrgEndpointRequestEntityRepository.reviewed circumstances text reviewedBy)
    (fun _ => rfl) (fun _ => rfl) each

theorem setRequestStatus_reviews {status : NullableText} {row : OrgEndpointRequest} {text : Text}
    (reviews : Reviews circumstances id status tables row text) (reviewedById : Option Guid) :
    (setRequestStatus circumstances id status reviewedById tables).2 =
      OrgEndpointRequestEntityRepository.setStatus circumstances id text reviewedById tables := by
  obtain ⟨found, rfl, reads, writes⟩ := reviews
  have asked : OrgEndpointRequestEntityRepository.getByIdAsync circumstances id tables =
      (.ok (some row), tables) := by
    simp [OrgEndpointRequestEntityRepository.getByIdAsync, unlessRefused, reads, Effect.bind_run, found]
  rw [setRequestStatus, Effect.bind_ok asked]
  simp [OrgEndpointRequestEntityRepository.updateStatusAsync, unlessRefused, writes, Effect.bind_run]

theorem setRequestStatus_idle {status : NullableText}
    (idle : ∀ row text, ¬ Reviews circumstances id status tables row text)
    (reviewedById : Option Guid) :
    (setRequestStatus circumstances id status reviewedById tables).2 = tables := by
  unfold setRequestStatus OrgEndpointRequestEntityRepository.getByIdAsync
    OrgEndpointRequestEntityRepository.updateStatusAsync unlessRefused
  cases reads : circumstances.refusesRead with
  | some fault => rfl
  | none =>
    cases found : tables.requests.find id with
    | none => simp [Effect.bind_run, found]
    | some row =>
      cases writes : circumstances.refusesWrite with
      | some fault => simp [Effect.bind_run, found]
      | none =>
        cases status with
        | none =>
          simp [Effect.bind_run, found]
        | some text => exact absurd ⟨found, rfl, reads, writes⟩ (idle row text)

/-- A property of the tables outlasts a call exactly when it outlasts the status that is
set, if one is. -/
theorem setRequestStatus_keeps_iff {status : NullableText} {reviewedById : Option Guid}
    {property : OrgTables → Prop} {keeps : OrgEndpointRequest → Text → Prop}
    (holds : property tables)
    (set : ∀ row text, Reviews circumstances id status tables row text →
      (property (OrgEndpointRequestEntityRepository.setStatus circumstances id text reviewedById
        tables) ↔ keeps row text)) :
    property (setRequestStatus circumstances id status reviewedById tables).2 ↔
      ∀ row text, Reviews circumstances id status tables row text → keeps row text := by
  by_cases reviewed : ∃ row text, Reviews circumstances id status tables row text
  · obtain ⟨row, text, reviews⟩ := reviewed
    rw [setRequestStatus_reviews reviews, set row text reviews]
    constructor
    · intro kept other given also
      obtain rfl := Option.some.inj (reviews.given.symm.trans also.given)
      obtain rfl := Option.some.inj (reviews.found.symm.trans also.found)
      exact kept
    · exact fun keeps => keeps row text reviews
  · have idle : ∀ row text, ¬ Reviews circumstances id status tables row text :=
      fun row text reviews => reviewed ⟨row, text, reviews⟩
    rw [setRequestStatus_idle idle]
    exact iff_of_true holds (fun row text reviews => absurd reviews (idle row text))

/-- An approval is inserted that no key forbids, unless the statement is refused. -/
structure Approves (circumstances : Circumstances) (tables : OrgTables) (row : OrgEndpointApproval) :
    Prop where
  admits : tables.approvals.Admits row
  writes : circumstances.refusesWrite = none

theorem createApproval_approves {approvedById : Option Guid}
    {adminIpAllowlist : Option (List NullableText)} {adminIpEnforced : Option Bool}
    (approves : Approves circumstances tables (OrgEndpointApprovalEntityRepository.inserted
      circumstances tenantId endpointId approvedById (adminIpAllowlist.map serialize)
      (adminIpEnforced.getD false))) :
    (createApproval serialize circumstances tenantId endpointId approvedById adminIpAllowlist
      adminIpEnforced tables).2 =
        { tables with approvals := tables.approvals.insert _ approves.admits } := by
  rw [createApproval, OrgEndpointApprovalEntityRepository.createAsync]
  simp [approves.writes, unlessRefused, Effect.bind_run, OrgEndpointApprovalEntityRepository.insert,
    approves.admits]

theorem createApproval_idle {approvedById : Option Guid}
    {adminIpAllowlist : Option (List NullableText)} {adminIpEnforced : Option Bool}
    (idle : ¬ Approves circumstances tables (OrgEndpointApprovalEntityRepository.inserted
      circumstances tenantId endpointId approvedById (adminIpAllowlist.map serialize)
      (adminIpEnforced.getD false))) :
    (createApproval serialize circumstances tenantId endpointId approvedById adminIpAllowlist
      adminIpEnforced tables).2 = tables := by
  rw [createApproval, OrgEndpointApprovalEntityRepository.createAsync]
  cases writes : circumstances.refusesWrite with
  | some fault => rfl
  | none =>
    simp only [unlessRefused, Effect.bind_run, Effect.pure_run,
      OrgEndpointApprovalEntityRepository.insert]
    split
    · next admits => exact absurd ⟨admits, writes⟩ idle
    · rfl

/-- An approval touches no request. -/
theorem createApproval_requests (approvedById : Option Guid)
    (adminIpAllowlist : Option (List NullableText)) (adminIpEnforced : Option Bool) :
    (createApproval serialize circumstances tenantId endpointId approvedById adminIpAllowlist
      adminIpEnforced tables).2.requests = tables.requests := by
  by_cases approves : Approves circumstances tables (OrgEndpointApprovalEntityRepository.inserted
    circumstances tenantId endpointId approvedById (adminIpAllowlist.map serialize)
    (adminIpEnforced.getD false))
  · rw [createApproval_approves approves]
  · rw [createApproval_idle approves]

/-- A restriction touches no request, and no approval's organisation or endpoint. -/
theorem updateApproval_tables (serialize : List NullableText → Text) (circumstances : Circumstances)
    (id : Guid) (adminIpAllowlist : Option (List NullableText)) (adminIpEnforced : Option Bool)
    (tables : OrgTables) :
    (updateApproval serialize circumstances id adminIpAllowlist adminIpEnforced tables).2.requests =
        tables.requests ∧
      ∀ access, (∃ approval ∈ (updateApproval serialize circumstances id adminIpAllowlist
          adminIpEnforced tables).2.approvals.rows, approval.access = access) ↔
        ∃ approval ∈ tables.approvals.rows, approval.access = access := by
  rw [updateApproval, OrgEndpointApprovalEntityRepository.updateAsync]
  cases circumstances.refusesWrite with
  | some fault => exact ⟨rfl, fun _ => Iff.rfl⟩
  | none =>
    refine ⟨rfl, fun access => ?_⟩
    simp only [unlessRefused, Effect.bind_run, Effect.pure_run, Effect.update_run, Effect.gets_run,
      Table.modify, List.mem_map, exists_exists_and_eq_and]
    refine exists_congr fun approval => and_congr_right fun _ => ?_
    split <;> rfl

end Statements

end ApiGateway.Organisations
