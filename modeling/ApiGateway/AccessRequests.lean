import ApiGateway.Organisations

/-!
# The states of access requests

A request is pending until an administrator decides it. The status an update
sets is the text of its body, and the reviewer is the body's as well, so the
states hold after exactly those runs in which every update decides the request
for a reviewer.
-/

namespace ApiGateway.Organisations

open Effects Keyed

def pending : Text := "pending".toList

def approved : Text := "approved".toList

def rejected : Text := "rejected".toList

/-- One of the three states, and reviewed unless pending. -/
structure OrgEndpointRequest.InState (row : OrgEndpointRequest) : Prop where
  status : row.status = pending ∨ row.status = approved ∨ row.status = rejected
  reviewedAt : row.reviewedAt = none ↔ row.status = pending
  reviewedBy : row.reviewedBy = none ↔ row.status = pending

/-- Every request is in one of its states. -/
def AllInState (tables : OrgTables) : Prop := ∀ row ∈ tables.requests.rows, row.InState

/-- A step that sets a request's status approves or rejects it for a reviewer. -/
def Decides (tables : OrgTables) (step : OrgStep) : Prop :=
  match step.operation with
  | .setRequestStatus id status reviewedById => ∀ row text,
      Reviews step.circumstances id status tables row text →
        (text = approved ∨ text = rejected) ∧ reviewedById ≠ none
  | _ => True

/-- A request that has been reviewed is in a state exactly when it was decided for
a reviewer. -/
theorem reviewed_inState_iff (circumstances : Circumstances) (text : Text)
    (reviewedBy : Option Guid) (row : OrgEndpointRequest) :
    (OrgEndpointRequestEntityRepository.reviewed circumstances text reviewedBy row).InState ↔
      (text = approved ∨ text = rejected) ∧ reviewedBy ≠ none := by
  constructor
  · rintro ⟨status, reviewedAt, reviewer⟩
    have decided : text ≠ pending := by
      intro same
      cases reviewedAt.mpr same
    exact ⟨status.resolve_left decided, fun absent => decided (reviewer.mp absent)⟩
  · rintro ⟨decision, reviewer⟩
    have decided : text ≠ pending := by
      rintro rfl
      exact absurd decision (by decide)
    exact ⟨Or.inr decision, iff_of_false (Option.some_ne_none _) decided,
      iff_of_false reviewer decided⟩

/-- Setting a status keeps the states exactly when it decides the request. -/
theorem allInState_setStatus {tables : OrgTables} {id : Guid} {row : OrgEndpointRequest}
    (circumstances : Circumstances) (text : Text) (reviewedBy : Option Guid)
    (found : tables.requests.find id = some row) (inState : AllInState tables) :
    AllInState (OrgEndpointRequestEntityRepository.setStatus circumstances id text reviewedBy tables) ↔
      (text = approved ∨ text = rejected) ∧ reviewedBy ≠ none := by
  rw [← reviewed_inState_iff circumstances text reviewedBy row]
  constructor
  · intro after
    exact after _ ((mem_setStatus_iff text reviewedBy _).mpr (Or.inr ⟨row, found, rfl⟩))
  · intro decided each member
    rcases (mem_setStatus_iff text reviewedBy each).mp member with ⟨earlier, _⟩ | ⟨changed, same, rfl⟩
    · exact inState each earlier
    · obtain rfl := Option.some.inj (found.symm.trans same)
      exact decided

/-- A step keeps the states exactly when it decides. -/
theorem allInState_step (serialize : List NullableText → Text) (tables : OrgTables) (step : OrgStep)
    (inState : AllInState tables) :
    AllInState (perform serialize step tables) ↔ Decides tables step := by
  obtain ⟨operation, circumstances⟩ := step
  cases operation with
  | createRequest tenantId endpointId requestedBy =>
    refine iff_of_true ?_ trivial
    rcases createRequest_tables circumstances tenantId endpointId requestedBy tables with
      ⟨admits, inserted⟩ | idle
    · simp only [perform, inserted]
      intro row member
      rcases (Table.mem_insert_iff admits row).mp member with earlier | rfl
      · exact inState row earlier
      · exact ⟨Or.inl rfl, iff_of_true rfl rfl, iff_of_true rfl rfl⟩
    · simp only [perform, idle]
      exact inState
  | setRequestStatus id status reviewedById =>
    apply setRequestStatus_keeps_iff inState
    intro row text reviews
    exact allInState_setStatus circumstances text reviewedById reviews.found inState
  | createApproval tenantId endpointId approvedById adminIpAllowlist adminIpEnforced =>
    refine iff_of_true ?_ trivial
    simp only [perform, AllInState, createApproval_requests]
    exact inState
  | updateApproval id adminIpAllowlist adminIpEnforced =>
    refine iff_of_true ?_ trivial
    simp only [perform, AllInState, (updateApproval_tables serialize circumstances id
      adminIpAllowlist adminIpEnforced tables).1]
    exact inState

/-- Every request is in one of its states all along a run exactly when every
status that the run sets decides a request for a reviewer. -/
theorem requests_in_state_iff (serialize : List NullableText → Text) (steps : List OrgStep) :
    (∀ earlier, earlier <+: steps →
        AllInState (Runs.run (perform serialize) earlier OrgTables.empty)) ↔
      Runs.Along (perform serialize) Decides steps OrgTables.empty :=
  Runs.always_iff (allInState_step serialize) (fun _ member => absurd member List.not_mem_nil)

/-- A request that is made and then has its status set. -/
def statusSet (status : Text) : List OrgStep :=
  [⟨.createRequest (Guid.numbered 1) (Guid.numbered 2) none, ⟨Guid.numbered 3, 1, none, none⟩⟩,
    ⟨.setRequestStatus (Guid.numbered 3) (some status) (some (Guid.numbered 4)),
      ⟨Guid.numbered 5, 2, none, none⟩⟩]

/-- The lists of the sample runs are empty. -/
def emptyLists : List NullableText → Text := fun _ => "[]".toList

/-- Any text can be a status, and a request that is pending again has been
reviewed. -/
theorem request_leaves_states :
    ¬ AllInState (Runs.run (perform emptyLists) (statusSet "on hold".toList) OrgTables.empty) ∧
      ¬ AllInState (Runs.run (perform emptyLists) (statusSet pending) OrgTables.empty) := by
  have stored : ∀ status, (Runs.run (perform emptyLists) (statusSet status)
      OrgTables.empty).requests.rows = [⟨Guid.numbered 3, Guid.numbered 1, Guid.numbered 2, status,
        none, some (Guid.numbered 4), some 2, 1⟩] := fun _ => rfl
  constructor
  · intro inState
    have first := inState _ (by rw [stored]; exact List.mem_singleton_self _)
    exact absurd first.status (by decide)
  · intro inState
    have first := inState _ (by rw [stored]; exact List.mem_singleton_self _)
    exact absurd (first.reviewedAt.mpr rfl) (by decide)

end ApiGateway.Organisations
