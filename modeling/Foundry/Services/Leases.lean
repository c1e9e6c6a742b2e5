import Foundry.Services.Routines

/-!
# Leases

`leases.py`: the bounded attempt mutation, renewal, the stop acknowledgement and
the fence after a confirmed Machine stop.  `create_lease` and its digest form
have no caller in the application and are not part of the system.
-/

set_option autoImplicit false

namespace Foundry

open Raise

variable {D : Type}

/-! ## Attempt mutation -/

/-- `_ATTEMPT_STATUS_TRANSITIONS`. -/
def AttemptStatus.mayBecome : AttemptStatus → AttemptStatus → Bool
  | .queued, next => next = .queued ∨ next = .leased ∨ next = .running
  | .leased, next => next = .leased ∨ next = .running
  | .running, next => next = .running ∨ next.isTerminal
  | .approvalWaiting, _ => false
  | current, next => next = current

/-- The fields `authorize_attempt_mutation` may set; `claimedAt := some none` is an
explicit null. -/
structure AttemptUpdates where
  status : Option AttemptStatus
  claimedAt : Option (Option Instant)
deriving DecidableEq, Repr

/-- `_validate_authorized_attempt_mutation`. -/
def validateAttemptMutation (attempt : Attempt D) (updates : AttemptUpdates) :
    Except RuntimeError Unit := do
  let nextStatus := updates.status.getD attempt.status
  require (attempt.status.mayBecome nextStatus)
    (conflictError "attempt status transition is invalid")
  match updates.claimedAt, attempt.claimedAt with
  | none, _ => return ()
  | some nextClaimedAt, some current =>
    require (nextClaimedAt = some current)
      (conflictError "attempt claimed_at is immutable")
  | some nextClaimedAt, none =>
    require (nextClaimedAt = none ∨ nextStatus = .leased ∨ nextStatus = .running)
      (conflictError "claimed_at requires a leased or running attempt")

def Attempt.mutate (attempt : Attempt D) (updates : AttemptUpdates) : Attempt D :=
  { attempt with
    status := updates.status.getD attempt.status
    claimedAt := updates.claimedAt.getD attempt.claimedAt }

section Operations

variable [DecidableEq D]

/-- Authorize and apply bounded attempt fields in one transaction. -/
def authorizeAttemptMutation (now : Instant) (id leaseId : AttemptId) (tokenDigest : D)
    (machineGeneration : Nat) (updates : AttemptUpdates) (db : Db D) :
    Except RuntimeError (Unit × Db D) := do
  require (updates.status.isSome ∨ updates.claimedAt.isSome)
    (validationError "attempt mutation requires a field")
  let (execution, attempt) ← orRaise (db.attempt? id)
    (authorizationError "attempt is not authorized")
  require (leaseId = id) (authorizationError "lease is not authorized for attempt")
  let workspace ← orRaise (db.workspaces.lookup execution.workspace) (doesNotExist "Workspace")
  let profile ← orRaise (db.profiles.lookup execution.profile) (doesNotExist "RuntimeProfile")
  let _ ← authorizeAttempt now workspace profile execution attempt tokenDigest machineGeneration
  validateAttemptMutation attempt updates
  return ((), db.putExecution id.execution
    (execution.setAttempt id.number (attempt.mutate updates)))

/-! ## Renewal -/

structure LeaseReceipt where
  leaseId : AttemptId
  expiresAt : Instant
deriving DecidableEq, Repr

/-- Extend one current-generation ACTIVE lease for another 60 seconds. -/
def renewLease (env : Env D) (now : Instant) (context : RuntimeContext) (id : AttemptId)
    (leaseToken : String) (db : Db D) : Except RuntimeError (LeaseReceipt × Db D) := do
  let tokenDigest ← digestLeaseToken env leaseToken
  let workspace ← orRaise (db.workspaces.lookup context.workspace) (doesNotExist "Workspace")
  require (workspace.machineGeneration = context.machineGeneration)
    (fencedError "runtime generation is stale")
  let (execution, attempt) ← orRaise (db.attemptIn context.workspace id)
    (leaseConflictError "attempt is not in this workspace")
  let profile ← orRaise (db.profiles.lookup execution.profile) (doesNotExist "RuntimeProfile")
  require (profileAllowsRuntimeWrite profile)
    (leaseConflictError "profile lifecycle is not active")
  let lease ← orRaise (attempt.lease.filter fun lease => lease.tokenDigest = tokenDigest)
    (leaseConflictError "lease token does not authorize attempt")
  require (lease.machineGeneration = workspace.machineGeneration)
    (fencedError "lease belongs to a retired generation")
  require (lease.state = .active) (leaseConflictError "lease is no longer active")
  require (now < lease.expiresAt) (leaseConflictError "lease has expired")
  let renewed := { lease with expiresAt := now + seconds leaseSeconds }
  return (⟨id, renewed.expiresAt⟩,
    db.putExecution id.execution (execution.setAttempt id.number (attempt.setLease renewed)))

/-! ## Stop acknowledgement -/

structure StopReceipt where
  attempt : AttemptId
  state : LeaseState
  requeued : Bool
deriving DecidableEq, Repr

/-- The test of a started attempt in `acknowledge_stopped`. -/
def Attempt.stopCheckpointed (attempt : Attempt D) : Bool :=
  attempt.sessionRequestDigest.isSome || attempt.hasDispatched

def Attempt.stopped (attempt : Attempt D) (requestDigest tokenDigest : D)
    (receipt : StoppedReceipt) (status : AttemptStatus) : Attempt D :=
  { attempt with
    status := status
    stoppedRequestDigest := some requestDigest
    stoppedLeaseDigest := some tokenDigest
    stoppedReceipt := some receipt
    lease := attempt.lease.map fun lease => { lease with state := .released } }

/-- The writes of a stop that are common to ordinary and routine work. -/
def applyStop (number : Nat) (requestDigest tokenDigest : D) (receipt : StoppedReceipt)
    (status : AttemptStatus) (attempt : Attempt D) (execution : Execution D) : Execution D :=
  { execution.setAttempt number
      (attempt.stopped requestDigest tokenDigest receipt status) with
    status := if receipt.requeued then .queued else .failed }

/-- Release ACTIVE or STOPPING work and terminalize routine stops exactly once. -/
def acknowledgeStopped (env : Env D) (now : Instant) (context : RuntimeContext) (id : AttemptId)
    (leaseToken reason : String) (requestDigest : Option D) (db : Db D) :
    Except RuntimeError (StopReceipt × Db D) := do
  validateNonempty reason "reason" 255
  let tokenDigest ← digestLeaseToken env leaseToken
  let canonicalDigest := requestDigest.getD (env.digestPayload (.stopReason reason))
  let workspace ← orRaise (db.workspaces.lookup context.workspace) (doesNotExist "Workspace")
  require (workspace.machineGeneration = context.machineGeneration)
    (fencedError "runtime generation is stale")
  let (execution, attempt) ← orRaise (db.attemptIn context.workspace id)
    (leaseConflictError "attempt is not in this workspace")
  let profile ← orRaise (db.profiles.lookup execution.profile) (doesNotExist "RuntimeProfile")
  match attempt.stoppedRequestDigest with
  | some stored =>
    require (stored = canonicalDigest ∧ attempt.stoppedLeaseDigest = some tokenDigest)
      (idempotencyConflictError "stopped request conflicts with its stored receipt")
    return (⟨id, (attempt.stoppedReceipt.map StoppedReceipt.state).getD .released,
      (attempt.stoppedReceipt.map StoppedReceipt.requeued).getD false⟩, db)
  | none =>
    require (profileAllowsStop profile)
      (leaseConflictError "profile lifecycle does not accept stop")
    let lease ← orRaise (attempt.lease.filter fun lease => lease.tokenDigest = tokenDigest)
      (leaseConflictError "lease token does not authorize attempt")
    require (lease.machineGeneration = workspace.machineGeneration)
      (fencedError "lease belongs to a retired generation")
    require lease.state.isUnresolved (leaseConflictError "lease is already released")
    let cleanupPending : Bool := profile.lifecycleState = .cleanupPending
    let receiptReason := if cleanupPending then "profile_deprovisioned" else reason
    let approvals := cancelLiveApprovalRequests now id db.approvals
    match execution.routineAt id.number with
    | none =>
      let requeue := !cleanupPending && !attempt.stopCheckpointed
      let stopped := applyStop id.number canonicalDigest tokenDigest
        ⟨.released, requeue, receiptReason⟩ .unknown attempt execution
      return (⟨id, .released, requeue⟩,
        { db.putExecution id.execution stopped with approvals := approvals })
    | some _ =>
      let (outcome, finished) ← recordTerminalFailureResult env now id.execution db.supply
        "Routine stopped before completion." execution
      let ended ← orRaise (finished.attempt? id.number) (doesNotExist "Attempt")
      let deliveries ← enqueueAppended env id execution attempt outcome db.deliveries
      let stopped := applyStop id.number canonicalDigest tokenDigest
        ⟨.released, false, receiptReason⟩ .failed ended finished
      return (⟨id, .released, false⟩,
        { db.draw.putExecution id.execution stopped with
          approvals := approvals
          deliveries := deliveries })

/-! ## The fence after a Machine stop -/

structure FenceReceipt where
  workspace : Uuid
  sourceGeneration : Nat
  targetGeneration : Nat
  fenced : Nat
  requeued : Nat
deriving DecidableEq, Repr

/-- The test of a started attempt in `confirm_machine_stopped_and_fence`. -/
def Attempt.fenceCheckpointed (attempt : Attempt D) : Bool :=
  attempt.hasDispatched || attempt.sessionRequestDigest.isSome

/-- The fence's writes for one unresolved lease.  The routine is not among them. -/
def fenceLease (number : Nat) (attempt : Attempt D) (lease : Lease D)
    (execution : Execution D) : Execution D :=
  let fenced := attempt.setLease { lease with state := .fenced }
  if attempt.status.isOpen then
    { execution.setAttempt number { fenced with status := .unknown } with
      status :=
        if execution.status = .running then
          (if attempt.fenceCheckpointed then .failed else .queued)
        else execution.status }
  else execution.setAttempt number fenced

def fenceOne (now : Instant) (state : Db D × Nat × Nat) (id : AttemptId) :
    Except RuntimeError (Db D × Nat × Nat) :=
  match state with
  | (db, fenced, requeued) =>
    match db.attempt? id with
    | none => throw (doesNotExist "Lease")
    | some (execution, attempt) =>
      match attempt.lease with
      | none => throw (doesNotExist "Lease")
      | some lease =>
        if lease.state.isUnresolved then
          let requeues := attempt.status.isOpen ∧ execution.status = .running ∧
            attempt.fenceCheckpointed = false
          let stored := db.putExecution id.execution
            (fenceLease id.number attempt lease execution)
          return ({ stored with
              approvals := cancelLiveApprovalRequests now id db.approvals },
            fenced + 1, if requeues then requeued + 1 else requeued)
        else return state

/-- The unresolved leases of one generation whose profile is in the Workspace. -/
def Db.staleGenerationLeases (db : Db D) (workspaceId : Uuid) (generation : Nat) :
    List AttemptId :=
  (db.leases.filter fun row =>
    ((db.profiles.lookup row.2.profile).any fun profile => profile.workspace = workspaceId) ∧
      row.2.machineGeneration = generation ∧ row.2.state.isUnresolved).map Prod.fst

/-- The checks before the fence: the Workspace is at the stopped phase of exactly
this replacement. -/
def fenceGates (workspaceId : Uuid) (sourceGeneration targetGeneration : Nat)
    (machineRef : Option String) (db : Db D) : Except RuntimeError Unit := do
  require (sourceGeneration < targetGeneration)
    (validationError "source/target generations are invalid")
  let workspace ← orRaise (db.workspaces.lookup workspaceId) (doesNotExist "Workspace")
  require (targetGeneration ≤ workspace.machineGeneration)
    (conflictError "workspace has not advanced to target generation")
  require (workspace.machineGeneration ≤ targetGeneration)
    (conflictError "fence generation is stale")
  require (sourceGeneration + 1 = targetGeneration)
    (conflictError "fence generations are not adjacent")
  require (workspace.provisioningKind = some .replace)
    (conflictError "workspace is not in replacement fencing")
  require (workspace.provisioningSourceGeneration = some sourceGeneration ∧
      workspace.provisioningTargetGeneration = some targetGeneration)
    (conflictError "fence does not match replacement generations")
  require (workspace.provisioningPhase = .oldMachineStopped ∨
      workspace.provisioningPhase = .oldMachineDestroyed)
    (conflictError "workspace is not at the stopped fence phase")
  require (workspace.provisioningPreviousMachineRef = machineRef)
    (conflictError "fence Machine does not match replacement state")

/-- Retire old-generation leases after a provider-confirmed stop. -/
def confirmMachineStoppedAndFence (now : Instant) (workspaceId : Uuid)
    (sourceGeneration targetGeneration : Nat) (machineRef : Option String) (db : Db D) :
    Except RuntimeError (FenceReceipt × Db D) := do
  fenceGates workspaceId sourceGeneration targetGeneration machineRef db
  let (next, fenced, requeued) ←
    (db.staleGenerationLeases workspaceId sourceGeneration).foldlM (fenceOne now) (db, 0, 0)
  return (⟨workspaceId, sourceGeneration, targetGeneration, fenced, requeued⟩, next)

end Operations

end Foundry
