import Mathlib.Data.List.Sort
import Foundry.Services.Sessions

/-!
# Lease expiry

`_reconcile_expired_leases` of `claims.py` and the checkpoint test it decides
with: an expired lease is either released for another run of the same work, or
retired together with its attempt.
-/

set_option autoImplicit false

namespace Foundry

open Raise

variable {D : Type}

/-! ## The replay checkpoint -/

/-- The evidence of a started run that an acquisition carries. -/
def RoutineLeaseAcquisition.hasEvidence (acquisition : RoutineLeaseAcquisition D) : Bool :=
  acquisition.sessionRequestDigest.isSome || acquisition.sessionReceipt.isSome ||
    acquisition.stopRequestDigest.isSome || acquisition.stopReceipt.isSome ||
    acquisition.terminalRequestDigest.isSome || acquisition.terminalReceipt.isSome

def Attempt.acquisitionsHaveEvidence (attempt : Attempt D) : Bool :=
  attempt.lease.any fun lease => lease.acquisitions.any RoutineLeaseAcquisition.hasEvidence

def Attempt.hasAttemptCheckpoint (attempt : Attempt D) : Bool :=
  attempt.sessionRequestDigest.isSome || attempt.sessionReceipt.isSome || attempt.hasDispatched

/-- `_has_replay_checkpoint`. -/
def hasReplayCheckpoint (execution : Execution D) (attempt : Attempt D) : Bool :=
  if attempt.hasAttemptCheckpoint || !execution.isRoutineDispatch then
    attempt.hasAttemptCheckpoint
  else attempt.acquisitionsHaveEvidence

/-! ## One expired lease -/

/-- Routine admission raises the fence, not the not-ready error. -/
def admissionIsFenced (env : Env D) (now : Instant) (workspace : Workspace) : Bool :=
  match requireRoutineAdmission env now true workspace with
  | .ok _ => false
  | .error error => error.kind = .fenced

structure ExpiryVerdict where
  replayable : Bool
  retired : Bool
deriving DecidableEq, Repr

/-- Whether the work of the expired lease may run again, and whether the lease
belongs to a retired generation, profile or release. -/
def expiryVerdict (env : Env D) (now : Instant) (workspace : Workspace)
    (profile : RuntimeProfile D) (number : Nat) (execution : Execution D) (attempt : Attempt D)
    (lease : Lease D) : ExpiryVerdict :=
  let retired : Bool :=
    lease.machineGeneration ≠ workspace.machineGeneration ∨
      attempt.machineGeneration ≠ workspace.machineGeneration ∨
      lease.profile ≠ execution.profile
  let replayable : Bool :=
    attempt.status.isOpen ∧ (execution.status = .queued ∨ execution.status = .running) ∧
      retired = false ∧ profile.lifecycleState ≠ .cleanupPending ∧
      profileIsClaimReady profile workspace.machineGeneration ∧
      hasReplayCheckpoint execution attempt = false
  -- Disabled admission leaves the attempt queued; a stale release retires it.
  if replayable && (execution.routineAt number).isSome && admissionIsFenced env now workspace then
    ⟨false, true⟩
  else ⟨replayable, retired⟩

/-- The lease after expiry; only a routine has acquisitions to retire. -/
def Lease.expire (lease : Lease D) (now : Instant) (isRoutine : Bool) (state : LeaseState) :
    Lease D :=
  if isRoutine then lease.close now state
  else { lease with currentAcquisition := none, state := state }

def Attempt.expireLease (attempt : Attempt D) (now : Instant) (isRoutine : Bool)
    (state : LeaseState) : Attempt D :=
  { attempt with lease := attempt.lease.map fun lease => lease.expire now isRoutine state }

def replayExpired (now : Instant) (number : Nat) (attempt : Attempt D) (lease : Lease D)
    (execution : Execution D) : Execution D :=
  match execution.routineAt number with
  | none =>
    { execution.setAttempt number
        { attempt.setLease (lease.expire now false .released) with status := .unknown } with
      status := .queued }
  | some routine =>
    { execution.setAttempt number
        { attempt.setLease (lease.expire now true .released) with status := .queued } with
      status := .queued
      routine := some { routine with status := .queued } }

structure Reconciled (D : Type) where
  execution : Execution D
  events : List (Append D)

/-- The server-owned failure event of an open attempt, unless its profile is being
cleaned up. -/
def expiryFailure [DecidableEq D] (env : Env D) (now : Instant) (id : AttemptId)
    (cleanupPending : Bool) (attempt : Attempt D) :
    Except RuntimeError (List (Append D) × Attempt D) :=
  if cleanupPending then return ([], attempt)
  else do
    let outcome ← leaseExpiredFailure env now id attempt
    return ([outcome], outcome.applyTo attempt)

/-- The routine's failure result, when the routine is not terminal yet. -/
def expiryResult [DecidableEq D] (env : Env D) (now : Instant) (id : AttemptId) (drawn : Uuid)
    (routine : Option RoutineExecution) (execution : Execution D) :
    Except RuntimeError (Option (Append D) × Execution D) :=
  if routine.all fun routine => routine.status.isTerminal then return (none, execution)
  else do
    let (outcome, failed) ← recordTerminalFailureResult env now id.execution drawn
      "Routine lease expired before completion." execution
    return (some outcome, failed)

/-- The routine row after its lease expired.  `before` is the row as it was read,
before the result was recorded. -/
def expireRoutine (before : RoutineExecution) (result : Append D) (recorded : RoutineExecution) :
    RoutineExecution :=
  { recorded with
    status := .failed
    terminalReceipt := some { before.terminalReceipt.getD RoutineReceipt.empty with
      code := some "LEASE_EXPIRED"
      resultEventId := some result.event.eventId } }

/-- Retire an expired lease.  The statuses are decided on the rows read before
the failure event and the routine result were stored, and written after them. -/
def retireExpired [DecidableEq D] (env : Env D) (now : Instant) (id : AttemptId) (drawn : Uuid)
    (cleanupPending : Bool) (state : LeaseState) (attempt : Attempt D) (execution : Execution D) :
    Except RuntimeError (Reconciled D) := do
  let routine := execution.routineAt id.number
  let closeLease (ended : Attempt D) : Attempt D := ended.expireLease now routine.isSome state
  if attempt.status.isOpen then
    let (failures, failed) ← expiryFailure env now id cleanupPending attempt
    let (result, recorded) ← expiryResult env now id drawn routine
      (execution.setAttempt id.number failed)
    let ended ← orRaise (recorded.attempt? id.number) (doesNotExist "Attempt")
    let status := if execution.status.isTerminal then recorded.status else .failed
    let retired :=
      { recorded.setAttempt id.number (closeLease { ended with status := .unknown }) with
        status := status }
    match routine, result with
    | some before, some outcome =>
      return ⟨{ retired with routine := recorded.routine.map (expireRoutine before outcome) },
        failures ++ [outcome]⟩
    | _, _ => return ⟨retired, failures⟩
  else
    return ⟨execution.setAttempt id.number (closeLease attempt), []⟩

/-- `_reconcile_expired_lease`; `drawn` is the event id of a routine result. -/
def reconcileExpiredLease [DecidableEq D] (env : Env D) (now : Instant) (workspace : Workspace)
    (profile : RuntimeProfile D) (id : AttemptId) (drawn : Uuid) (attempt : Attempt D)
    (lease : Lease D) (execution : Execution D) : Except RuntimeError (Reconciled D) :=
  let cleanupPending : Bool := profile.lifecycleState = .cleanupPending
  let verdict := expiryVerdict env now workspace profile id.number execution attempt lease
  if verdict.replayable then
    return ⟨replayExpired now id.number attempt lease execution, []⟩
  else
    retireExpired env now id drawn cleanupPending
      (if cleanupPending || verdict.retired then .fenced else .released) attempt execution

/-! ## The batch -/

def leaseOrder (left right : AttemptId × Lease D) : Prop :=
  left.2.expiresAt < right.2.expiresAt ∨
    left.2.expiresAt = right.2.expiresAt ∧
      (left.1.execution < right.1.execution ∨
        left.1.execution = right.1.execution ∧ left.1.number ≤ right.1.number)

instance (left right : AttemptId × Lease D) : Decidable (leaseOrder left right) :=
  inferInstanceAs (Decidable (_ ∨ _ ∧ (_ ∨ _ ∧ _)))

def Lease.isStale (lease : Lease D) (now : Instant) : Bool :=
  lease.state.isUnresolved ∧ lease.expiresAt ≤ now

/-- The stale leases one call reconciles: the oldest, up to the batch limit. -/
def Db.staleLeases (db : Db D) (workspaceId : Uuid) (now : Instant) : List AttemptId :=
  let stale := db.leases.filter fun row =>
    ((db.profiles.lookup row.2.profile).any fun profile => profile.workspace = workspaceId) ∧
      row.2.isStale now
  ((stale.insertionSort leaseOrder).take maxAvailableSlots).map Prod.fst

def reconcileOne [DecidableEq D] (env : Env D) (now : Instant) (workspaceId : Uuid)
    (workspace : Workspace) (db : Db D) (id : AttemptId) : Except RuntimeError (Db D) :=
  match db.attemptIn workspaceId id with
  | none => return db
  | some (execution, attempt) =>
    match (db.profiles.lookup execution.profile).filter
        (fun profile => profile.workspace = workspaceId),
      attempt.lease.filter (fun lease => lease.isStale now) with
    | some profile, some lease => do
        let reconciled ← reconcileExpiredLease env now workspace profile id db.supply attempt
          lease execution
        let deliveries ← reconciled.events.foldlM
          (fun deliveries outcome =>
            enqueueEventDelivery env id execution attempt outcome.event deliveries)
          db.deliveries
        return { db.draw.putExecution id.execution reconciled.execution with
          approvals := cancelLiveApprovalRequests now id db.approvals
          deliveries := deliveries }
    | _, _ => return db

def reconcileExpiredLeases [DecidableEq D] (env : Env D) (now : Instant) (workspaceId : Uuid)
    (workspace : Workspace) (db : Db D) : Except RuntimeError (Db D) :=
  (db.staleLeases workspaceId now).foldlM (reconcileOne env now workspaceId workspace) db

end Foundry
