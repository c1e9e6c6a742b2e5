import Foundry.Services.Readiness

/-!
# Live approval requests

`approvals.py`: the private mirror of the approvals a running attempt waits for.
The functions on one row come first; the two API operations follow.
-/

set_option autoImplicit false

namespace Foundry

open Raise

variable {D : Type}

/-- `_reconcile_locked`: expired consent and a missed acknowledgement close the row. -/
def reconcileApproval (now : Instant) (approval : ApprovalRequest) : ApprovalRequest :=
  if approval.status = .pending ∧ approval.material.expiresAt ≤ now then
    { approval with status := .expired, outcome := some .expired, resolvedAt := some now }
  else if approval.status = .decisionRecorded ∧
      approval.acknowledgementDeadlineAt.any (fun deadline => deadline ≤ now) then
    { approval with status := .outcomeUnknown, resolvedAt := some now }
  else approval

/-- What `cancel_live_approval_requests` makes of one live row. -/
def cancelLiveApproval (now : Instant) (given : ApprovalRequest) : ApprovalRequest :=
  if given.status = .pending ∨ given.status = .decisionRecorded then
    let approval := reconcileApproval now given
    if approval.status = .pending then
      { approval with
        status := .cancelled, outcome := some .cancelled, resolvedAt := some now }
    else if approval.status = .decisionRecorded then
      { approval with status := .outcomeUnknown, resolvedAt := some now }
    else approval
  else given

/-- Close the approvals that cannot resume after the attempt leaves its lease. -/
def cancelLiveApprovalRequests (now : Instant) (attempt : AttemptId)
    (approvals : Table Uuid ApprovalRequest) : Table Uuid ApprovalRequest :=
  approvals.updateAll fun _ approval =>
    if approval.attempt = attempt then cancelLiveApproval now approval else approval

/-- The bounds `record_approval_request_from_event` puts on the rich payload. -/
def checkApprovalMaterial (now : Instant) (material : ApprovalMaterial) :
    Except RuntimeError Unit := do
  require (material.actionKind ∈ ["terminal", "execute_code", "plugin_tool"])
    (validationError "approval action kind is invalid")
  require (1 ≤ material.actionLabel.length ∧ material.actionLabel.length ≤ 120 ∧
      Char.ofNat 0 ∉ material.actionLabel.toList)
    (validationError "approval action label is invalid")
  require (material.actionPreview ≠ "" ∧ Char.ofNat 0 ∉ material.actionPreview.toList ∧
      material.actionPreview.utf8ByteSize ≤ 16 * 1024)
    (validationError "approval action preview is invalid")
  require (now < material.expiresAt ∧
      material.expiresAt ≤ now + seconds maxApprovalLifetimeSeconds)
    (validationError "approval expiry is outside the bounded window")

def ApprovalRequest.opened (id : AttemptId) (execution : Execution D) (attempt : Attempt D)
    (material : ApprovalMaterial) : ApprovalRequest where
  workspace := execution.workspace
  profile := execution.profile
  attempt := id
  generation := attempt.machineGeneration
  material := material
  status := .pending
  decision := none
  decisionCommandId := none
  decisionIdempotencyKey := none
  decisionFingerprint := ""
  decidedAt := none
  acknowledgementDeadlineAt := none
  outcome := none
  resolvedAt := none

def recordApprovalRequestFromEvent (now : Instant) (id : AttemptId) (execution : Execution D)
    (attempt : Attempt D) (workspace : Workspace) (material : ApprovalMaterial)
    (approvals : Table Uuid ApprovalRequest) :
    Except RuntimeError (Table Uuid ApprovalRequest) := do
  checkApprovalMaterial now material
  require (attempt.machineGeneration = workspace.machineGeneration)
    (fencedError "approval generation is stale")
  match approvals.lookup material.approvalRequestId with
  | some existing =>
    require (existing.attempt = id ∧ existing.workspace = execution.workspace ∧
        existing.profile = execution.profile ∧
        existing.generation = attempt.machineGeneration ∧ existing.material = material)
      (conflictError "approval request identity conflicts with content")
    return approvals
  | none =>
    return approvals.insert material.approvalRequestId (.opened id execution attempt material)

def ApprovalOutcome.decision : ApprovalOutcome → Option RoutineDecision
  | .approved => some .approve
  | .rejected => some .reject
  | .expired | .cancelled => none

/-- `apply_approval_resolution` on the row it found. -/
def resolveApproval (now : Instant) (outcome : ApprovalOutcome) (given : ApprovalRequest) :
    Except RuntimeError ApprovalRequest := do
  let approval := reconcileApproval now given
  let resolved (status : ApprovalRequestStatus) : ApprovalRequest :=
    { approval with status := status, outcome := some outcome, resolvedAt := some now }
  if approval.status = .outcomeUnknown then
    -- An approval without the approve decision counts as rejected here.
    require (outcome.decision.isSome →
        outcome = if approval.decision = some .approve then .approved else .rejected)
      (conflictError "approval outcome conflicts with decision")
    return approval
  if approval.outcome = some outcome ∧
      approval.status ∈ [ApprovalRequestStatus.applied, .expired, .cancelled] then
    return approval
  match outcome with
  | .approved | .rejected =>
    require (approval.status = .decisionRecorded)
      (conflictError "approval decision is not awaiting runtime acknowledgement")
    require (approval.decision = outcome.decision)
      (conflictError "approval outcome conflicts with decision")
    return resolved .applied
  | .expired =>
    require (approval.status ∈ [ApprovalRequestStatus.pending, .decisionRecorded, .expired])
      (conflictError "approval cannot be expired after decision")
    return resolved .expired
  | .cancelled =>
    require (approval.status ∈ [ApprovalRequestStatus.pending, .decisionRecorded, .cancelled])
      (conflictError "approval cannot be cancelled")
    return resolved .cancelled

def applyApprovalResolution (now : Instant) (attempt : AttemptId) (request : Uuid)
    (outcome : ApprovalOutcome) (approvals : Table Uuid ApprovalRequest) :
    Except RuntimeError (Table Uuid ApprovalRequest) := do
  let approval ← orRaise
    ((approvals.lookup request).filter fun approval => approval.attempt = attempt)
    (conflictError "approval request does not belong to attempt")
  let resolved ← resolveApproval now outcome approval
  return approvals.insert request resolved

/-! ## API operations -/

/-- `ApprovalDecisionCommand`, after its wire contract. -/
structure ApprovalDecisionCommand where
  commandId : Uuid
  idempotencyKey : Uuid
  cloudWorkspaceId : Uuid
  cloudAllyId : Uuid
  cloudConversationId : Uuid
  cloudMessageId : Uuid
  cloudBindingId : Uuid
  attempt : AttemptId
  generation : Nat
  approvalRequestId : Uuid
  decision : RoutineDecision
  decidedAt : Instant
  acknowledgementDeadlineAt : Instant
  issuedAt : Instant
  deadlineAt : Instant
  fingerprint : String
deriving DecidableEq, Repr

inductive ApprovalDecisionReceipt where
  | accepted
  | duplicate
deriving DecidableEq, Repr

def ApprovalRequest.decided (approval : ApprovalRequest) (command : ApprovalDecisionCommand) :
    ApprovalRequest :=
  { approval with
    decision := some command.decision
    decisionCommandId := some command.commandId
    decisionIdempotencyKey := some command.idempotencyKey
    decisionFingerprint := command.fingerprint
    decidedAt := some command.decidedAt
    acknowledgementDeadlineAt := some command.acknowledgementDeadlineAt
    status := .decisionRecorded }

def ensureDecisionWindow (now : Instant) (approval : ApprovalRequest)
    (command : ApprovalDecisionCommand) : Except RuntimeError Unit := do
  require (command.issuedAt ≤ command.decidedAt)
    (validationError "approval command timestamps are out of order")
  require (command.deadlineAt ≤ command.acknowledgementDeadlineAt)
    (validationError "approval command deadline is beyond acknowledgement")
  require (command.deadlineAt ≤ approval.material.expiresAt)
    (conflictError "approval command deadline exceeds consent expiry")
  require (command.decidedAt ≤ now)
    (conflictError "approval decision is dated in the future")
  require (now < command.deadlineAt ∧ now < command.acknowledgementDeadlineAt ∧
      now < approval.material.expiresAt)
    (conflictError "approval decision window has expired")

def recordApprovalDecision (env : Env D) (now : Instant) (command : ApprovalDecisionCommand)
    (db : Db D) : Except RuntimeError (ApprovalDecisionReceipt × Db D) := do
  let (workspaceId, workspace) ← orRaise
    (db.workspaceByTenant (env.uuidText command.cloudWorkspaceId))
    (notFoundError "approval workspace is unavailable")
  let (execution, attempt) ← orRaise (db.attemptIn workspaceId command.attempt)
    (notFoundError "approval attempt is unavailable")
  let stored ← orRaise
    ((db.approvals.lookup command.approvalRequestId).filter
      fun approval => approval.attempt = command.attempt)
    (notFoundError "approval request is unavailable")
  require (stored.generation = command.generation ∧
      execution.cloudWorkspaceId = some command.cloudWorkspaceId ∧
      execution.cloudAllyId = some command.cloudAllyId ∧
      execution.cloudConversationId = some command.cloudConversationId ∧
      execution.cloudMessageId = some command.cloudMessageId ∧
      execution.cloudBindingId = some command.cloudBindingId)
    (conflictError "approval command scope does not match request")
  let approval := reconcileApproval now stored
  if approval.status = .pending then
    ensureDecisionWindow now approval command
    require (attempt.lease.any fun lease =>
        lease.state = .active ∧ now < lease.expiresAt ∧
          lease.machineGeneration = workspace.machineGeneration ∧
          lease.machineGeneration = attempt.machineGeneration)
      (leaseConflictError "approval lease is unavailable")
    require (workspace.machineGeneration = command.generation ∧
        attempt.machineGeneration = command.generation)
      (fencedError "approval generation is stale")
    require attempt.status.isOpen (conflictError "approval attempt cannot be resumed")
    return (.accepted,
      { db with
        approvals := db.approvals.insert command.approvalRequestId (approval.decided command) })
  else
    require (approval.decisionCommandId = some command.commandId ∧
        approval.decisionIdempotencyKey = some command.idempotencyKey ∧
        approval.decisionFingerprint = command.fingerprint ∧
        approval.decision = some command.decision)
      (conflictError "approval request has already been resolved")
    return (.duplicate,
      { db with approvals := db.approvals.insert command.approvalRequestId approval })

def readRuntimeApproval [DecidableEq D] (env : Env D) (now : Instant) (context : RuntimeContext)
    (id : AttemptId) (leaseToken : String) (request : Uuid) (db : Db D) :
    Except RuntimeError (ApprovalRequest × Db D) := do
  require (leaseToken ≠ "") (validationError "lease token must be a non-empty string")
  let workspace ← orRaise (db.workspaces.lookup context.workspace) (doesNotExist "Workspace")
  require (workspace.machineGeneration = context.machineGeneration)
    (fencedError "runtime generation is stale")
  let (execution, attempt) ← orRaise (db.attemptIn context.workspace id)
    (leaseConflictError "attempt is not in this workspace")
  require (attempt.lease.any fun lease =>
      lease.tokenDigest = env.digestLeaseToken leaseToken ∧
        lease.machineGeneration = context.machineGeneration ∧
        lease.profile = execution.profile ∧ lease.state = .active ∧ now < lease.expiresAt)
    (leaseConflictError "lease does not authorize approval read")
  let stored ← orRaise
    ((db.approvals.lookup request).filter fun approval =>
      approval.attempt = id ∧ approval.workspace = context.workspace)
    (notFoundError "approval request is unavailable")
  let approval := reconcileApproval now stored
  return (approval, { db with approvals := db.approvals.insert request approval })

theorem recordApprovalDecision_frame
    {env : Env D} {now : Instant} {command : ApprovalDecisionCommand} {db next : Db D}
    {receipt : ApprovalDecisionReceipt}
    (success : recordApprovalDecision env now command db = .ok (receipt, next)) :
    ∃ approvals, next = { db with approvals := approvals } := by
  simp only [recordApprovalDecision, bind_eq_ok] at success
  obtain ⟨_, _, _, _, _, _, _, _, success⟩ := success
  split at success
  · simp only [bind_eq_ok, return_eq_ok] at success
    obtain ⟨_, _, _, _, _, _, _, _, _, rfl⟩ := success
    exact ⟨_, rfl⟩
  · simp only [bind_eq_ok, return_eq_ok] at success
    obtain ⟨_, _, _, rfl⟩ := success
    exact ⟨_, rfl⟩

end Foundry
