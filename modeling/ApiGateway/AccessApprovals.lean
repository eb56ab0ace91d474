import ApiGateway.AccessRequests

/-!
# Approvals and the requests behind them

An approval is meant to follow an approved request. The two are written by
handlers that do not look at each other, so approvals follow requests after
exactly those runs in which every approval is created for an approved request and
no request with an approval is set to anything else.
-/

namespace ApiGateway.Organisations

open Effects Keyed

/-- The organisation's request for the endpoint is there and approved. -/
def HasApprovedRequest (tables : OrgTables) (access : Guid × Guid) : Prop :=
  ∃ request ∈ tables.requests.rows, request.access = access ∧ request.status = approved

/-- Every approval has an approved request behind it. -/
def ApprovalsFollow (tables : OrgTables) : Prop :=
  ∀ approval ∈ tables.approvals.rows, HasApprovedRequest tables approval.access

/-- A step creates an approval for an approved request only, and sets a request to
anything else only where there is no approval. -/
def KeepsWorkflow (serialize : List NullableText → Text) (tables : OrgTables) (step : OrgStep) :
    Prop :=
  match step.operation with
  | .createApproval tenantId endpointId approvedById adminIpAllowlist adminIpEnforced =>
      Approves step.circumstances tables (OrgEndpointApprovalEntityRepository.inserted
        step.circumstances tenantId endpointId approvedById (adminIpAllowlist.map serialize)
        (adminIpEnforced.getD false)) → HasApprovedRequest tables (tenantId, endpointId)
  | .setRequestStatus id status _ => ∀ row text,
      Reviews step.circumstances id status tables row text →
        text = approved ∨ ∀ approval ∈ tables.approvals.rows, approval.access ≠ row.access
  | _ => True

section Steps

variable {serialize : List NullableText → Text} {tables : OrgTables}

/-- After a status is set, a request is approved that was approved and is another
one, or that is this one and is approved now. -/
theorem hasApprovedRequest_setStatus {id : Guid} {row : OrgEndpointRequest}
    (found : tables.requests.find id = some row) (circumstances : Circumstances) (text : Text)
    (reviewedBy : Option Guid) (access : Guid × Guid) :
    HasApprovedRequest
        (OrgEndpointRequestEntityRepository.setStatus circumstances id text reviewedBy tables) access ↔
      if row.access = access then text = approved else HasApprovedRequest tables access := by
  obtain ⟨member, named⟩ := Table.find_eq_some_iff.mp found
  rw [HasApprovedRequest]
  simp only [mem_setStatus_iff]
  split
  · next same =>
    subst same
    constructor
    · rintro ⟨request, ⟨other, different⟩ | ⟨changed, again, rfl⟩, sameAccess, granted⟩
      · rw [Table.row_of_columns other member sameAccess] at different
        exact absurd named different
      · exact granted
    · rintro rfl
      exact ⟨_, Or.inr ⟨row, found, rfl⟩, rfl, rfl⟩
  · next different =>
    constructor
    · rintro ⟨request, ⟨other, _⟩ | ⟨changed, again, rfl⟩, sameAccess, granted⟩
      · exact ⟨request, other, sameAccess, granted⟩
      · obtain rfl := Option.some.inj (found.symm.trans again)
        exact absurd sameAccess different
    · rintro ⟨request, there, sameAccess, granted⟩
      refine ⟨request, Or.inl ⟨there, ?_⟩, sameAccess, granted⟩
      intro sameId
      rw [Table.row_of_key there member (sameId.trans named.symm)] at sameAccess
      exact different sameAccess

/-- Setting a status keeps the workflow exactly when it approves, or there is no
approval. -/
theorem approvalsFollow_setStatus {id : Guid} {row : OrgEndpointRequest}
    (found : tables.requests.find id = some row) (circumstances : Circumstances) (text : Text)
    (reviewedBy : Option Guid) (follow : ApprovalsFollow tables) :
    ApprovalsFollow
        (OrgEndpointRequestEntityRepository.setStatus circumstances id text reviewedBy tables) ↔
      text = approved ∨ ∀ approval ∈ tables.approvals.rows, approval.access ≠ row.access := by
  have after : ∀ approval ∈ tables.approvals.rows,
      HasApprovedRequest (OrgEndpointRequestEntityRepository.setStatus circumstances id text
        reviewedBy tables) approval.access ↔ (row.access = approval.access → text = approved) := by
    intro approval member
    rw [hasApprovedRequest_setStatus found]
    split
    · next same => exact ⟨fun granted _ => granted, fun granted => granted same⟩
    · next different => exact iff_of_true (follow approval member) (fun same => absurd same different)
  constructor
  · intro follows
    by_cases granted : text = approved
    · exact Or.inl granted
    · right
      intro approval member same
      exact granted ((after approval member).mp (follows approval member) same.symm)
  · intro kept approval member
    refine (after approval member).mpr fun same => ?_
    exact kept.resolve_right (fun none => none approval member same.symm)

/-- A step keeps the workflow's promise exactly when it keeps to the workflow. -/
theorem approvalsFollow_step (serialize : List NullableText → Text) (tables : OrgTables)
    (step : OrgStep) (follow : ApprovalsFollow tables) :
    ApprovalsFollow (perform serialize step tables) ↔ KeepsWorkflow serialize tables step := by
  obtain ⟨operation, circumstances⟩ := step
  cases operation with
  | createRequest tenantId endpointId requestedBy =>
    refine iff_of_true ?_ trivial
    rcases createRequest_tables circumstances tenantId endpointId requestedBy tables with
      ⟨admits, inserted⟩ | idle
    · simp only [perform, inserted]
      intro approval member
      obtain ⟨request, there, behind⟩ := follow approval member
      exact ⟨request, (Table.mem_insert_iff admits request).mpr (Or.inl there), behind⟩
    · simp only [perform, idle]
      exact follow
  | setRequestStatus id status reviewedById =>
    apply setRequestStatus_keeps_iff follow
    intro row text reviews
    exact approvalsFollow_setStatus reviews.found circumstances text reviewedById follow
  | createApproval tenantId endpointId approvedById adminIpAllowlist adminIpEnforced =>
    simp only [perform]
    by_cases approves : Approves circumstances tables (OrgEndpointApprovalEntityRepository.inserted
      circumstances tenantId endpointId approvedById (adminIpAllowlist.map serialize)
      (adminIpEnforced.getD false))
    · rw [createApproval_approves approves]
      constructor
      · intro follows _
        exact follows _ ((Table.mem_insert_iff approves.admits _).mpr (Or.inr rfl))
      · intro keeps approval member
        rcases (Table.mem_insert_iff approves.admits approval).mp member with earlier | rfl
        · exact follow approval earlier
        · exact keeps approves
    · rw [createApproval_idle approves]
      exact iff_of_true follow (fun also => absurd also approves)
  | updateApproval id adminIpAllowlist adminIpEnforced =>
    refine iff_of_true ?_ trivial
    simp only [perform]
    obtain ⟨requests, accesses⟩ := updateApproval_tables serialize circumstances id
      adminIpAllowlist adminIpEnforced tables
    intro approval member
    obtain ⟨earlier, there, same⟩ := (accesses approval.access).mp ⟨approval, member, rfl⟩
    rw [HasApprovedRequest, requests, ← same]
    exact follow earlier there

end Steps

/-- Approvals follow approved requests all along a run exactly when every step
keeps to the workflow. -/
theorem approvals_follow_iff (serialize : List NullableText → Text) (steps : List OrgStep) :
    (∀ earlier, earlier <+: steps →
        ApprovalsFollow (Runs.run (perform serialize) earlier OrgTables.empty)) ↔
      Runs.Along (perform serialize) (KeepsWorkflow serialize) steps OrgTables.empty :=
  Runs.always_iff (approvalsFollow_step serialize) (fun _ member => absurd member List.not_mem_nil)

/-- A request that is approved, granted and then rejected. -/
def rejectedLater : List OrgStep :=
  [⟨.createRequest (Guid.numbered 1) (Guid.numbered 2) none, ⟨Guid.numbered 3, 1, none, none⟩⟩,
    ⟨.setRequestStatus (Guid.numbered 3) (some approved) (some (Guid.numbered 4)),
      ⟨Guid.numbered 5, 2, none, none⟩⟩,
    ⟨.createApproval (Guid.numbered 1) (Guid.numbered 2) (some (Guid.numbered 4)) none none,
      ⟨Guid.numbered 6, 3, none, none⟩⟩,
    ⟨.setRequestStatus (Guid.numbered 3) (some rejected) (some (Guid.numbered 4)),
      ⟨Guid.numbered 7, 4, none, none⟩⟩]

/-- An approval that nobody has requested. -/
def approvedUnasked : List OrgStep :=
  [⟨.createApproval (Guid.numbered 1) (Guid.numbered 2) (some (Guid.numbered 4)) none none,
    ⟨Guid.numbered 6, 1, none, none⟩⟩]

/-- An approval outlives the rejection of its request, and needs no request. -/
theorem approval_outlives_request :
    ¬ ApprovalsFollow (Runs.run (perform emptyLists) rejectedLater OrgTables.empty) ∧
      ¬ ApprovalsFollow (Runs.run (perform emptyLists) approvedUnasked OrgTables.empty) := by
  constructor
  · intro follow
    obtain ⟨request, there, _, granted⟩ := follow ⟨Guid.numbered 6, Guid.numbered 1,
      Guid.numbered 2, some (Guid.numbered 4), 3, none, false, 3⟩ (List.mem_singleton.mpr rfl)
    have only := List.mem_singleton.mp (show request ∈ [_] from there)
    rw [only] at granted
    exact absurd granted (by decide)
  · intro follow
    obtain ⟨request, there, _⟩ := follow ⟨Guid.numbered 6, Guid.numbered 1, Guid.numbered 2,
      some (Guid.numbered 4), 1, none, false, 1⟩ (List.mem_singleton.mpr rfl)
    exact absurd there List.not_mem_nil

end ApiGateway.Organisations
