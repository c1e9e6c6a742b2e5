import Foundry.Services.Claims

/-!
# Profile lifecycle

The parts of `profiles.py` and `profile_deletion.py` that create a profile,
materialize it, and clean it up; cleanup stops or fences the leases of the
profile, and a finished deletion purges its work.
-/

set_option autoImplicit false

namespace Foundry

open Raise

variable {D : Type}

/-! ## Leases of a profile -/

def Attempt.stopLease (attempt : Attempt D) (profileId : Uuid) : Attempt D :=
  { attempt with
    lease := attempt.lease.map fun lease =>
      if lease.profile = profileId ∧ lease.state = .active then
        { lease with state := .stopping }
      else lease }

def Execution.stopLeases (execution : Execution D) (profileId : Uuid) : Execution D :=
  { execution with
    attempts := execution.attempts.updateAll fun _ attempt => attempt.stopLease profileId }

def Db.stopLeases (db : Db D) (profileId : Uuid) : Db D :=
  { db with executions := db.executions.updateAll fun _ execution =>
      execution.stopLeases profileId }

def Db.unresolvedLeasesOf (db : Db D) (profileId : Uuid) : List AttemptId :=
  (db.leases.filter fun row => row.2.profile = profileId ∧ row.2.state.isUnresolved).map Prod.fst

section Fence

variable [DecidableEq D]

def fenceRoutine (before : RoutineExecution) (result : Append D) (recorded : RoutineExecution) :
    RoutineExecution :=
  { recorded with
    status := .failed
    terminalReceipt := some { before.terminalReceipt.getD RoutineReceipt.empty with
      code := some "PROFILE_FENCED"
      resultEventId := some result.event.eventId } }

/-- The failure result of a routine that was not terminal yet. -/
def profileFenceResult (env : Env D) (now : Instant) (id : AttemptId) (drawn : Uuid)
    (execution : Execution D) : Except RuntimeError (Option (Append D) × Execution D) :=
  if (execution.routineAt id.number).all fun routine => routine.status.isTerminal then
    return (none, execution)
  else do
    let (outcome, failed) ← recordTerminalFailureResult env now id.execution drawn
      "Routine profile was fenced before completion." execution
    return (some outcome, failed)

/-- `_fence_profile_leases` on one lease.  The attempt and the Execution are read
again after the routine's result was recorded. -/
def fenceProfileLease (env : Env D) (now : Instant) (id : AttemptId) (drawn : Uuid)
    (execution : Execution D) : Except RuntimeError (Option (Append D) × Execution D) := do
  let routine := execution.routineAt id.number
  let (result, recorded) ← profileFenceResult env now id drawn execution
  let attempt ← orRaise (recorded.attempt? id.number) (doesNotExist "Attempt")
  let fenced : Attempt D :=
    { attempt.expireLease now routine.isSome .fenced with
      status := if attempt.status.isOpen || result.isSome then .unknown else attempt.status }
  let retired : Execution D :=
    { recorded.setAttempt id.number fenced with
      status := if recorded.status = .running then .failed else recorded.status }
  match routine, result with
  | some before, some outcome =>
    return (result, { retired with
      routine := recorded.routine.map (fenceRoutine before outcome) })
  | _, _ => return (result, retired)

def enqueueFenceResult (env : Env D) (id : AttemptId) (execution : Execution D)
    (attempt : Attempt D) (result : Option (Append D))
    (deliveries : Table DeliveryId ExecutionEventDelivery) :
    Except RuntimeError (Table DeliveryId ExecutionEventDelivery) :=
  match result with
  | none => return deliveries
  | some outcome => enqueueAppended env id execution attempt outcome deliveries

def fenceProfileOne (env : Env D) (now : Instant) (profileId : Uuid) (db : Db D)
    (id : AttemptId) : Except RuntimeError (Db D) :=
  match (db.attempt? id).filter fun found =>
      found.1.profile = profileId ∧
        found.2.lease.any fun lease => lease.profile = profileId with
  | none => return db
  | some (execution, attempt) => do
      let (result, retired) ← fenceProfileLease env now id db.supply execution
      let deliveries ← enqueueFenceResult env id execution attempt result db.deliveries
      return { db.draw.putExecution id.execution retired with
        approvals := cancelLiveApprovalRequests now id db.approvals
        deliveries := deliveries }

def fenceProfileLeases (env : Env D) (now : Instant) (profileId : Uuid) (db : Db D) :
    Except RuntimeError (Db D) :=
  (db.unresolvedLeasesOf profileId).foldlM (fenceProfileOne env now profileId) db

end Fence

/-! ## Creation and materialization -/

structure ProfileReceipt where
  profile : Uuid
  lifecycleState : RuntimeProfileLifecycleState
  lifecycleEpoch : Nat
  materializedGeneration : Nat
  receiptId : Option Uuid
  resultCode : String
deriving DecidableEq, Repr

def profileReceipt (id : Uuid) (receiptId : Option Uuid) (resultCode : String)
    (profile : RuntimeProfile D) : ProfileReceipt where
  profile := id
  lifecycleState := profile.lifecycleState
  lifecycleEpoch := profile.lifecycleEpoch
  materializedGeneration := profile.materializedGeneration
  receiptId := receiptId
  resultCode := resultCode

def ensureRuntimeProfile (env : Env D) (workspaceId profileId : Uuid) (allyRef : String)
    (seed : Json) (db : Db D) : Except RuntimeError (ProfileReceipt × Db D) := do
  validateNonempty allyRef "ally_ref" 255
  let key := env.hermesProfileKey profileId
  let fingerprint := env.seedFingerprint profileId allyRef seed
  let workspace ← orRaise (db.workspaces.lookup workspaceId)
    (validationError "workspace does not exist")
  require (db.deletedProfiles.lookup profileId = none)
    (fencedError "profile has been deleted")
  match db.profiles.lookup profileId with
  | some profile =>
    require (profile.workspace = workspaceId ∧ profile.allyRef = allyRef ∧
        profile.hermesProfileKey = key)
      (conflictError "profile identity is immutable")
    require (profile.hermesProfileKeyVersion ≠ 0)
      (repairRequiredError "legacy Hermes profile key requires repair")
    require (profile.cleanupRequiresQuiescence = false)
      (fencedError "profile deletion is in progress")
    require ((profile.seedFingerprint = "" ∨ profile.seedFingerprint = fingerprint) ∧
        profile.seedPayload.all fun stored => stored = seed)
      (conflictError "profile seed conflicts with stored immutable state")
    if profile.seedPayload.isSome then
      return (profileReceipt profileId none "" profile, db)
    else
      let seeded := { profile with
        seedPayload := some seed, seedFingerprint := fingerprint }
      return (profileReceipt profileId none "" seeded,
        (db.putProfile profileId seeded).putWorkspace workspaceId
          (advanceWorkspaceActivity workspace))
  | none =>
    require (db.profiles.rows.all fun row =>
        row.2.workspace ≠ workspaceId ∨ row.2.allyRef ≠ allyRef)
      (conflictError "ally reference already belongs to another profile")
    require (db.profiles.rows.all fun row =>
        row.2.workspace ≠ workspaceId ∨ row.2.hermesProfileKey ≠ key)
      (conflictError "Hermes profile key collides with existing state")
    let profile := RuntimeProfile.pending workspaceId allyRef key (some seed) fingerprint
    return (profileReceipt profileId none "" profile,
      (db.putProfile profileId profile).putWorkspace workspaceId
        (advanceWorkspaceActivity workspace))

section Operations

variable [DecidableEq D]

/-- Commit one runtime materialization observation idempotently. -/
def acceptMaterializationReceipt (env : Env D) (context : RuntimeContext)
    (profileId operationId : Uuid) (lifecycleEpoch materializedGeneration : Nat)
    (seedFingerprint resultCode : String) (db : Db D) :
    Except RuntimeError (ProfileReceipt × Db D) := do
  let requestDigest := env.digestPayload (.materialization profileId operationId lifecycleEpoch
    materializedGeneration seedFingerprint resultCode)
  let workspace ← orRaise (db.workspaces.lookup context.workspace) (doesNotExist "Workspace")
  require (workspace.machineGeneration = context.machineGeneration)
    (fencedError "runtime generation is stale")
  require workspace.isServing
    (notReadyError "workspace is not ready for profile reconciliation")
  let profile ← orRaise
    ((db.profiles.lookup profileId).filter fun profile => profile.workspace = context.workspace)
    (validationError "profile is not in this workspace")
  require (profile.lifecycleState = .pending ∨ profile.lifecycleState = .active)
    (repairRequiredError "profile lifecycle has fenced provisioning")
  require (profile.hermesProfileKeyVersion = 1)
    (repairRequiredError "legacy Hermes profile key requires repair")
  require (profile.lifecycleEpoch = lifecycleEpoch)
    (fencedError "profile lifecycle operation is stale")
  match profile.materializationOperationId with
  | some stored =>
    require (stored = operationId ∧ profile.materializationRequestDigest = some requestDigest)
      (idempotencyConflictError "materialization operation conflicts with stored receipt")
    return (profileReceipt profileId profile.materializationReceiptId
      profile.materializationResultCode profile, db)
  | none =>
    require (profile.seedFingerprint = seedFingerprint)
      (conflictError "materialization fingerprint does not match desired state")
    require (materializedGeneration = workspace.machineGeneration)
      (fencedError "materialization belongs to a retired generation")
    let materialized := { profile with
      lifecycleState := .active
      materializedGeneration := materializedGeneration
      materializationOperationId := some operationId
      materializationRequestDigest := some requestDigest
      materializationReceiptId := some db.supply
      materializationResultCode := resultCode }
    return (profileReceipt profileId (some db.supply) resultCode materialized,
      db.draw.putProfile profileId materialized)

/-! ## Cleanup -/

/-- Persist the cleanup fence before the runtime removes any files. -/
def requestProfileCleanup (env : Env D) (now : Instant)
    (workspaceId profileId operationId : Uuid) (bindingContextDigest : String)
    (suppliedExpiresAt : Option Instant) (db : Db D) :
    Except RuntimeError (ProfileReceipt × Db D) := do
  let expiresAt := suppliedExpiresAt.getD (now + seconds cleanupGraceSeconds)
  require (now < expiresAt ∧ expiresAt ≤ now + seconds (24 * 60 * 60))
    (validationError "cleanup expiry is outside the bounded window")
  let requestDigest := env.digestPayload (.cleanup operationId bindingContextDigest expiresAt)
  let workspace ← orRaise (db.workspaces.lookup workspaceId) (doesNotExist "Workspace")
  let profile ← orRaise
    ((db.profiles.lookup profileId).filter fun profile => profile.workspace = workspaceId)
    (validationError "profile is not in this workspace")
  match profile.cleanupOperationId with
  | some stored =>
    require (stored = operationId ∧ profile.cleanupContextDigest = bindingContextDigest ∧
        (suppliedExpiresAt.isSome → profile.cleanupRequestDigest = some requestDigest))
      (idempotencyConflictError "cleanup operation conflicts with stored state")
    return (profileReceipt profileId profile.cleanupReceiptId profile.cleanupResultCode profile,
      db)
  | none =>
    require (profile.lifecycleState ≠ .deprovisioned)
      (repairRequiredError "deprovisioned profile has no cleanup operation")
    let pending := { profile with
      lifecycleEpoch := profile.lifecycleEpoch + 1
      lifecycleState := .cleanupPending
      cleanupOperationId := some operationId
      cleanupContextDigest := bindingContextDigest
      cleanupRequestDigest := some requestDigest
      cleanupExpiresAt := some expiresAt
      cleanupRetryAfter := some (min expiresAt (now + seconds cleanupGraceSeconds))
      cleanupResultCode := "cleanup_pending" }
    return (profileReceipt profileId none "cleanup_pending" pending,
      ((db.stopLeases profileId).putProfile profileId pending).putWorkspace workspaceId
        (advanceWorkspaceActivity workspace))

inductive CleanupResult where
  | deprovisioned
  | cleanupPending
  | repairRequired
deriving DecidableEq, Repr

def CleanupResult.code : CleanupResult → String
  | .deprovisioned => "deprovisioned"
  | .cleanupPending => "cleanup_pending"
  | .repairRequired => "repair_required"

structure CleanupProof where
  attemptId : Option Uuid
  machineGeneration : Option Nat
  runtimeStartEpoch : Option Nat
  runtimeBootId : Option Uuid
  hermesInstanceId : Option Uuid
  /-- The quiescence report is present, quiesced and all zero. -/
  quiesced : Bool
deriving DecidableEq, Repr

def RuntimeProfile.requireRepair (profile : RuntimeProfile D) (now : Instant) (receiptId : Uuid) :
    RuntimeProfile D :=
  { profile with
    lifecycleState := .repairRequired
    cleanupCompletedAt := some now
    cleanupReceiptId := some receiptId
    cleanupResultCode := "repair_required"
    cleanupRetryAfter := none }

/-- The quiescence checks of `accept_cleanup_receipt`. -/
def checkCleanupProof (now : Instant) (workspace : Workspace) (profile : RuntimeProfile D)
    (lifecycleEpoch : Nat) (deleted : Bool) (proof : CleanupProof) :
    Except RuntimeError Unit := do
  if profile.cleanupRequiresQuiescence then
    require (profile.cleanupAttemptId = proof.attemptId ∧
        profile.lifecycleEpoch = lifecycleEpoch)
      (fencedError "cleanup attempt is stale")
    require (profile.cleanupExpiresAt.any fun deadline => now < deadline)
      (fencedError "cleanup attempt has expired")
    if deleted then
      require (proof.machineGeneration = some workspace.machineGeneration ∧
          proof.runtimeStartEpoch = some workspace.runtimeStartEpoch ∧
          proof.runtimeBootId.isSome ∧ proof.runtimeBootId = workspace.readyBootId ∧
          workspace.readyGeneration = proof.machineGeneration ∧
          workspace.readyStartEpoch = proof.runtimeStartEpoch ∧ proof.hermesInstanceId.isSome)
        (fencedError "cleanup proof belongs to a stale runtime")
      require (proof.quiesced = true)
        (conflictError "profile resource closure is unverified")

def acceptCleanupReceipt (env : Env D) (now : Instant) (context : RuntimeContext)
    (profileId operationId : Uuid) (lifecycleEpoch : Nat) (requestDigest : D)
    (result : CleanupResult) (activeLeaseCount : Nat) (proof : CleanupProof) (db : Db D) :
    Except RuntimeError (ProfileReceipt × Db D) := do
  let deleted : Bool := result = .deprovisioned
  let workspace ← orRaise (db.workspaces.lookup context.workspace) (doesNotExist "Workspace")
  require (workspace.machineGeneration = context.machineGeneration)
    (fencedError "runtime generation is stale")
  let profile ← orRaise
    ((db.profiles.lookup profileId).filter fun profile => profile.workspace = context.workspace)
    (validationError "profile is not in this workspace")
  require (profile.cleanupOperationId = some operationId)
    (idempotencyConflictError "cleanup operation is stale")
  require (profile.cleanupRequestDigest = some requestDigest)
    (idempotencyConflictError "cleanup receipt does not match the request")
  checkCleanupProof now workspace profile lifecycleEpoch deleted proof
  match profile.cleanupReceiptId with
  | some receiptId =>
    require (profile.cleanupResultCode = result.code)
      (idempotencyConflictError "cleanup receipt conflicts with stored result")
    return (profileReceipt profileId (some receiptId) profile.cleanupResultCode profile, db)
  | none =>
    require (profile.lifecycleEpoch = lifecycleEpoch)
      (fencedError "cleanup receipt belongs to a stale lifecycle epoch")
    require (db.unresolvedLeaseCount profileId = activeLeaseCount)
      (conflictError "cleanup receipt has stale active lease count")
    require (deleted = true → activeLeaseCount = 0)
      (conflictError "profile files cannot be deleted while work is active")
    let active := advanceWorkspaceActivity workspace
    if deleted then
      let removed := { profile with
        lifecycleState := .deprovisioned
        materializedGeneration := 0
        cleanupCompletedAt := some now
        cleanupReceiptId := some db.supply
        cleanupResultCode := result.code
        cleanupRetryAfter := none }
      return (profileReceipt profileId (some db.supply) result.code removed,
        (db.draw.putProfile profileId removed).putWorkspace context.workspace active)
    else if result = .repairRequired ∨
        profile.cleanupExpiresAt.any (fun deadline => deadline ≤ now) then
      let fenced ← fenceProfileLeases env now profileId db.draw
      let repaired := profile.requireRepair now db.supply
      return (profileReceipt profileId (some db.supply) "repair_required" repaired,
        (fenced.putProfile profileId repaired).putWorkspace context.workspace active)
    else
      let grace := now + seconds cleanupGraceSeconds
      let retried := { profile with
        cleanupRetryAfter := some (min (profile.cleanupExpiresAt.getD grace) grace)
        cleanupResultCode := "cleanup_pending" }
      return (profileReceipt profileId none "cleanup_pending" retried,
        db.putProfile profileId retried)

/-- One pass of the loop of `expire_profile_cleanups`, a transaction of its own. -/
def expireProfileCleanup (env : Env D) (now : Instant) (profileId : Uuid) (db : Db D) :
    Except RuntimeError (Option ProfileReceipt × Db D) :=
  match (db.profiles.lookup profileId).filter fun profile =>
      profile.lifecycleState = .cleanupPending ∧
        profile.cleanupExpiresAt.any fun deadline => deadline ≤ now with
  | none => return (none, db)
  | some profile => do
      let workspace ← orRaise (db.workspaces.lookup profile.workspace) (doesNotExist "Workspace")
      let fenced ← fenceProfileLeases env now profileId db.draw
      let receiptId := profile.cleanupReceiptId.getD db.supply
      let repaired := profile.requireRepair now receiptId
      return (some (profileReceipt profileId (some receiptId) "repair_required" repaired),
        (fenced.putProfile profileId repaired).putWorkspace profile.workspace
          (advanceWorkspaceActivity workspace))

/-! ## Deletion -/

inductive DeletionState where
  | pending
  | repairRequired
  | complete
deriving DecidableEq, Repr

def deletionState (profile : RuntimeProfile D) : DeletionState :=
  if profile.lifecycleState = .repairRequired then .repairRequired else .pending

def RoutineCommandResponse.belongsTo (response : RoutineCommandResponse) (env : Env D)
    (allyRef : String) (routines : List Uuid) : Bool :=
  match response with
  | .dispatched _ _ _ _ allyId _ => env.uuidText allyId = allyRef
  | .decided _ _ _ _ _ allyId _ => env.uuidText allyId = allyRef
  | .cancelled _ routine _ _ => routine ∈ routines

/-- `_purge_profile`: the profile and everything that hangs on it. -/
def purgeProfile (env : Env D) (workspaceId profileId : Uuid) (workspace : Workspace)
    (profile : RuntimeProfile D) (db : Db D) : Except RuntimeError (Db D) := do
  require (profile.cleanupRequiresQuiescence = true ∧ profile.cleanupReceiptId.isSome)
    (conflictError "verified cleanup receipt is required")
  require (db.unresolvedLeaseCount profileId = 0)
    (conflictError "profile still owns unresolved work")
  let routines := (db.executions.rows.filter fun row =>
    row.2.profile = profileId ∧ row.2.isRoutineDispatch = true).map Prod.fst
  return { db with
    commandReceipts := db.commandReceipts.keep fun key stored =>
      !(key.1 = workspaceId ∧ stored.response.belongsTo env profile.allyRef routines)
    executions := db.executions.keep fun _ execution => execution.profile ≠ profileId
    deliveries := db.deliveries.keep fun key _ =>
      (db.executions.lookup key.1.execution).all fun execution => execution.profile ≠ profileId
    approvals := db.approvals.keep fun _ approval => approval.profile ≠ profileId
    bindings := db.bindings.erase profileId
    deletedProfiles := db.deletedProfiles.insert profileId workspaceId
    profiles := db.profiles.erase profileId
    workspaces := db.workspaces.insert workspaceId (advanceWorkspaceActivity workspace) }

/-- The profile row a deletion starts from: the stored one, or a new one for a
binding that never was provisioned. -/
def deletionProfile (env : Env D) (workspaceId profileId allyId : Uuid)
    (expectedAttemptId : Option Uuid) (db : Db D) :
    Except RuntimeError (RuntimeProfile D) :=
  match db.profiles.lookup profileId with
  | some profile => do
      require (profile.workspace = workspaceId ∧ profile.allyRef = env.uuidText allyId)
        (conflictError "profile identity conflicts")
      return profile
  | none => do
      require (expectedAttemptId = none) (fencedError "deletion attempt is unavailable")
      require (db.profiles.rows.all fun row =>
          row.2.workspace ≠ workspaceId ∨ row.2.allyRef ≠ env.uuidText allyId)
        (integrityError "runtime_profile_workspace_ally_unique")
      require (db.profiles.rows.all fun row =>
          row.2.workspace ≠ workspaceId ∨
            row.2.hermesProfileKey ≠ env.hermesProfileKey profileId)
        (integrityError "runtime_profile_workspace_hermes_unique")
      return .pending workspaceId (env.uuidText allyId) (env.hermesProfileKey profileId) none ""

/-- Start, or start again, the cleanup of a profile that is to be deleted. -/
def beginDeletion (env : Env D) (now : Instant) (workspaceRef workspaceId allyId bindingId : Uuid)
    (operationId : Uuid) (workspace : Workspace) (profileId : Uuid) (profile : RuntimeProfile D)
    (db : Db D) : Except RuntimeError (DeletionState × Db D) := do
  let attemptId := db.supply
  let expiresAt := now + seconds (24 * 60 * 60)
  let epoch := profile.lifecycleEpoch + 1
  let contextDigest := env.digestText (env.digestPayload
    (.deletionContext workspaceRef allyId bindingId profileId))
  let woken ← requestExecutionWakeLocked env now (db.supply + 1)
    (advanceWorkspaceActivity workspace)
  let pending := { profile with
    cleanupPreviousAttemptId := profile.cleanupAttemptId
    cleanupAttemptId := some attemptId
    cleanupOperationId := some operationId
    cleanupRequiresQuiescence := true
    lifecycleEpoch := epoch
    lifecycleState := .cleanupPending
    cleanupExpiresAt := some expiresAt
    cleanupContextDigest := contextDigest
    cleanupRequestDigest := some (env.digestPayload
      (.deletion contextDigest operationId attemptId epoch expiresAt))
    cleanupReceiptId := none
    cleanupCompletedAt := none
    cleanupResultCode := "cleanup_pending"
    cleanupRetryAfter := some now }
  return (.pending,
    ((db.draw.draw.stopLeases profileId).putProfile profileId pending).putWorkspace workspaceId
      woken)

def observeDeadline (now : Instant) (profile : RuntimeProfile D) : RuntimeProfile D :=
  if profile.cleanupExpiresAt.all fun deadline => deadline ≤ now then
    { profile with
      lifecycleState := .repairRequired
      cleanupResultCode := "repair_required" }
  else profile

def coordinateProfileDeletion (env : Env D) (now : Instant)
    (workspaceRef allyId bindingId operationId : Uuid) (expectedAttemptId : Option Uuid)
    (db : Db D) : Except RuntimeError (DeletionState × Db D) := do
  let (workspaceId, workspace) ← orRaise (db.workspaceByTenant (env.uuidText workspaceRef))
    (doesNotExist "Workspace")
  let profileId := env.profileIdOf bindingId
  match db.deletedProfiles.lookup profileId with
  | some owner =>
    require (owner = workspaceId) (conflictError "profile identity conflicts")
    return (.complete, db)
  | none =>
    let profile ← deletionProfile env workspaceId profileId allyId expectedAttemptId db
    require (profile.cleanupOperationId = none ∨
        (profile.cleanupRequiresQuiescence = true ∧
          profile.cleanupOperationId = some operationId))
      (idempotencyConflictError "deletion operation conflicts")
    if profile.cleanupRequiresQuiescence then
      if profile.lifecycleState = .deprovisioned then
        let purged ← purgeProfile env workspaceId profileId workspace profile db
        return (.complete, purged)
      else
        let observed := observeDeadline now profile
        match expectedAttemptId with
        | none => return (deletionState observed, db.putProfile profileId observed)
        | some expected =>
          if observed.cleanupPreviousAttemptId = some expected then
            return (deletionState observed, db.putProfile profileId observed)
          else
            require (observed.cleanupAttemptId = some expected ∧
                observed.lifecycleState = .repairRequired)
              (fencedError "deletion resume belongs to a stale attempt")
            beginDeletion env now workspaceRef workspaceId allyId bindingId operationId
              workspace profileId observed db
    else
      require (expectedAttemptId = none) (fencedError "deletion attempt is unavailable")
      beginDeletion env now workspaceRef workspaceId allyId bindingId operationId workspace
        profileId profile db

end Operations

end Foundry
