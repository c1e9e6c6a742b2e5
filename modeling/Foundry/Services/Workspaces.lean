import Foundry.Services.Profiles

/-!
# Workspaces and Executions

`workspaces.py`: registration and the transactions of the provisioning
lifecycle, the only writers of `machine_generation`; the readiness receipt of
`runtime_readiness.py`; and `executions.py`.

The power workers, wake intents, release upgrades and the ready pool write other
columns of a Workspace row in transactions of their own.  They enter as one
operation, `maintainWorkspace`, that may set those columns to anything.
-/

set_option autoImplicit false

namespace Foundry

open Raise

variable {D : Type}

def registerWorkspace (tenantRef : String) (db : Db D) :
    Except RuntimeError (Uuid × Db D) := do
  require (tenantRef ≠ "" ∧ tenantRef.length ≤ 255) (validationError "workspace_id is invalid")
  match db.workspaceByTenant tenantRef with
  | some (id, _) => return (id, db)
  | none => return (db.supply, db.draw.putWorkspace db.supply (Workspace.registered tenantRef))

/-! ## Provisioning -/

inductive LifecycleRequest where
  | ensure
  | replace (expectedSourceGeneration : Nat)
deriving DecidableEq, Repr

def LifecycleRequest.kind : LifecycleRequest → WorkspaceProvisioningKind
  | .ensure => .ensure
  | .replace _ => .replace

inductive LifecycleReply where
  | bound
  | waiting
  | claimed (operationId token : Uuid) (phase : WorkspaceProvisioningPhase)
deriving DecidableEq, Repr

/-- A replacement invalidates what the previous Machine had materialized. -/
def RuntimeProfile.forgetMaterialization (profile : RuntimeProfile D) : RuntimeProfile D :=
  { profile with
    materializedGeneration := 0
    materializationOperationId := none
    materializationRequestDigest := none
    materializationReceiptId := none
    materializationResultCode := "" }

def Db.forgetMaterializations (db : Db D) (workspaceId : Uuid) : Db D :=
  { db with
    profiles := db.profiles.updateAll fun _ profile =>
      if profile.workspace = workspaceId ∧ profile.lifecycleState = .active then
        profile.forgetMaterialization
      else profile }

/-- The claim's writes when it opens a new operation on an idle Workspace.  The
generation is advanced here, before any provider call. -/
def openOperation (request : LifecycleRequest) (operationId : Uuid) (target : Nat)
    (phase : WorkspaceProvisioningPhase) (workspace : Workspace) :
    Except RuntimeError Workspace := do
  let advanced ← advanceRuntimeStartEpochLocked
    { workspace with machineGeneration := target }
  let opened := { advanced with
    provisioningId := some operationId
    provisioningKind := some request.kind
    provisioningPhase := phase
    provisioningTargetGeneration := some target
    provisioningClaimToken := none
    provisioningClaimExpiresAt := none }
  match request with
  | .ensure =>
    return { opened with
      provisioningSourceGeneration := none
      provisioningPreviousMachineRef := none }
  | .replace expectedSourceGeneration =>
    return { opened with
      machineRef := none
      provisioningSourceGeneration := some expectedSourceGeneration
      provisioningPreviousMachineRef := workspace.machineRef }

/-- The second half of a claim: join the operation in flight, unless another
worker's claim on it is live. -/
def joinOperation (now : Instant) (workspaceId token : Uuid) (request : LifecycleRequest)
    (workspace : Workspace) (db : Db D) : Except RuntimeError (LifecycleReply × Db D) := do
  if workspace.provisioningKind ≠ some request.kind then return (.waiting, db)
  match request with
  | .ensure => pure ()
  | .replace expectedSourceGeneration =>
    require (workspace.provisioningSourceGeneration = some expectedSourceGeneration)
      (conflictError "replacement source generation is stale")
  if workspace.provisioningClaimToken.isSome ∧
      workspace.provisioningClaimExpiresAt.any (fun expiry => now < expiry) then
    return (.waiting, db)
  let claimed := { workspace with
    provisioningClaimToken := some token
    provisioningClaimExpiresAt := some (now + seconds claimSeconds) }
  let operationId ← orRaise workspace.provisioningId (doesNotExist "provisioning_id")
  return (.claimed operationId token workspace.provisioningPhase,
    db.putWorkspace workspaceId claimed)

/-- `_claim_or_wait`.  `proofHolds` is the verdict of the optional proof
precondition of a replacement. -/
def claimOrWait (now : Instant) (workspaceId : Uuid) (request : LifecycleRequest)
    (proofHolds : Bool) (db : Db D) : Except RuntimeError (LifecycleReply × Db D) := do
  let workspace ← orRaise (db.workspaces.lookup workspaceId)
    (validationError "workspace does not exist")
  require (workspace.provisioningPhase ≠ .failed)
    ⟨.providerTerminal, "workspace provisioning is terminally failed"⟩
  let operationId := db.supply
  let token := db.supply + 1
  if workspace.provisioningPhase ≠ .idle then
    joinOperation now workspaceId token request workspace db.draw.draw
  else
    match request with
    | .ensure =>
      if 0 < workspace.machineGeneration then return (.bound, db)
      let opened ← openOperation request operationId 1 .appReady workspace
      joinOperation now workspaceId token request opened
        ((db.draw.draw.forgetMaterializations workspaceId).putWorkspace workspaceId opened)
    | .replace expectedSourceGeneration =>
      if workspace.machineGeneration ≠ expectedSourceGeneration then
        require (expectedSourceGeneration < workspace.machineGeneration ∧
            workspace.provisioningKind = some .replace ∧
            workspace.provisioningSourceGeneration = some expectedSourceGeneration)
          (conflictError "replacement source generation is stale")
        return (.bound, db)
      require (proofHolds = true) (conflictError "replacement proof precondition failed")
      let opened ← openOperation request operationId (workspace.machineGeneration + 1)
        .oldMachineStopped workspace
      joinOperation now workspaceId token request opened
        ((db.draw.draw.forgetMaterializations workspaceId).putWorkspace workspaceId opened)

def claimedWorkspace (workspaceId operationId token : Uuid) (db : Db D) :
    Except RuntimeError Workspace := do
  let workspace ← orRaise (db.workspaces.lookup workspaceId) (doesNotExist "Workspace")
  require (workspace.provisioningId = some operationId ∧
      workspace.provisioningClaimToken = some token)
    (conflictError "workspace provisioning claim is stale")
  return workspace

structure PhaseUpdates where
  flyAppRef : Option String
  volumeRef : Option String
  machineRef : Option String
deriving DecidableEq, Repr

def casPhase (workspaceId operationId token : Uuid) (phase : WorkspaceProvisioningPhase)
    (updates : PhaseUpdates) (db : Db D) : Except RuntimeError (Unit × Db D) := do
  let workspace ← claimedWorkspace workspaceId operationId token db
  return ((), db.putWorkspace workspaceId { workspace with
    flyAppRef := updates.flyAppRef <|> workspace.flyAppRef
    volumeRef := updates.volumeRef <|> workspace.volumeRef
    machineRef := updates.machineRef <|> workspace.machineRef
    provisioningPhase := phase
    provisioningClaimToken := none
    provisioningClaimExpiresAt := none })

def bindIdle (now : Instant) (workspaceId operationId token : Uuid) (machineRef : String)
    (images : Images) (db : Db D) : Except RuntimeError (Unit × Db D) := do
  let workspace ← claimedWorkspace workspaceId operationId token db
  require (0 < workspace.machineGeneration ∧ workspace.flyAppRef.isSome ∧
      workspace.volumeRef.isSome)
    (integrityError "runtime_workspace_idle_binding_contract")
  return ((), db.draw.putWorkspace workspaceId { workspace with
    machineRef := some machineRef
    appliedImages := images
    releaseTarget := { workspace.releaseTarget with pin := none }
    activationClaimToken :=
      if workspace.releaseTarget.pin.isSome then none else workspace.activationClaimToken
    activationClaimExpiresAt :=
      if workspace.releaseTarget.pin.isSome then none else workspace.activationClaimExpiresAt
    provisioningPhase := .idle
    provisioningClaimToken := none
    provisioningClaimExpiresAt := none
    runtimeOperationId := some (workspace.runtimeOperationId.getD db.supply)
    runtimeOperationState := .awaitingReadiness
    runtimeOperationTrigger := none
    runtimeOperationRequestedAt := some now })

/-- `_handle_failure` and `_clear_claim`: the claim is given up, terminally or for
another try; a stale claim changes nothing. -/
def handleFailure (workspaceId operationId token : Uuid) (retryable : Bool) (db : Db D) :
    Except RuntimeError (Unit × Db D) := do
  let workspace ← orRaise (db.workspaces.lookup workspaceId) (doesNotExist "Workspace")
  if workspace.provisioningId = some operationId ∧
      workspace.provisioningClaimToken = some token then
    return ((), db.putWorkspace workspaceId { workspace with
      provisioningPhase := if retryable then workspace.provisioningPhase else .failed
      provisioningClaimToken := none
      provisioningClaimExpiresAt := none })
  else return ((), db)

/-! ## Readiness receipts and maintenance -/

def acceptRuntimeReadiness (now : Instant) (context : RuntimeContext) (bootId : Uuid)
    (reconciledGeneration runtimeStartEpoch : Nat) (db : Db D) :
    Except RuntimeError (Unit × Db D) := do
  require (0 < reconciledGeneration) (validationError "reconciled_generation must be positive")
  let workspace ← orRaise (db.workspaces.lookup context.workspace)
    (notReadyError "runtime workspace does not exist")
  require (workspace.machineGeneration = context.machineGeneration)
    (fencedError "runtime credential belongs to a retired generation")
  require (reconciledGeneration = workspace.machineGeneration)
    (fencedError "readiness belongs to a different machine generation")
  require (runtimeStartEpoch = workspace.runtimeStartEpoch)
    (fencedError "readiness belongs to a retired runtime start")
  require workspace.isServing (notReadyError "workspace has no current Machine binding")
  let acceptingStart : Bool := workspace.runtimeOperationState = .awaitingReadiness
  require (acceptingStart = true ∨ workspace.runtimeOperationState = .idle)
    (notReadyError "runtime start has no provider evidence")
  let bootReplaced := workspace.readyBootId.any fun ready => ready ≠ bootId
  require (acceptingStart = false ∨ bootReplaced = false)
    (conflictError "runtime boot was replaced")
  let ready := { workspace with
    readyGeneration := some reconciledGeneration
    readyStartEpoch := some runtimeStartEpoch
    readyBootId := some bootId
    readyAt :=
      if workspace.readyAt = none ∨ acceptingStart = true ∨ bootReplaced = true then some now
      else workspace.readyAt
    runtimeLastSeenAt := some now }
  let settled :=
    if acceptingStart then
      { ready with
        runtimeOperationId := none
        runtimeOperationState := .idle
        runtimeOperationTrigger := none
        runtimeOperationRequestedAt := none
        runtimeOperationRetryCount := 0 }
    else ready
  return ((), db.putWorkspace context.workspace settled)

/-- The columns of a Workspace that the maintenance workers own. -/
structure MaintenanceColumns where
  tenantRef : String
  appliedImages : Images
  releaseTarget : ReleaseTarget
  runtimeOperationId : Option Uuid
  runtimeOperationState : RuntimeOperationState
  runtimeOperationTrigger : Option RuntimeOperationTrigger
  runtimeOperationRequestedAt : Option Instant
  runtimeOperationRetryCount : Nat
  runtimeStartEpoch : Nat
  activityRevision : Nat
  readyGeneration : Option Nat
  readyStartEpoch : Option Nat
  readyBootId : Option Uuid
  readyAt : Option Instant
  runtimeLastSeenAt : Option Instant
  speculativeKeepWarmUntil : Option Instant
  lastSpeculativeStartAt : Option Instant
  activationClaimToken : Option Uuid
  activationClaimExpiresAt : Option Instant
deriving DecidableEq, Repr

def maintainWorkspace (workspaceId : Uuid) (columns : MaintenanceColumns) (db : Db D) :
    Except RuntimeError (Unit × Db D) := do
  let workspace ← orRaise (db.workspaces.lookup workspaceId) (doesNotExist "Workspace")
  return ((), db.putWorkspace workspaceId { workspace with
    tenantRef := columns.tenantRef
    appliedImages := columns.appliedImages
    releaseTarget := columns.releaseTarget
    runtimeOperationId := columns.runtimeOperationId
    runtimeOperationState := columns.runtimeOperationState
    runtimeOperationTrigger := columns.runtimeOperationTrigger
    runtimeOperationRequestedAt := columns.runtimeOperationRequestedAt
    runtimeOperationRetryCount := columns.runtimeOperationRetryCount
    runtimeStartEpoch := columns.runtimeStartEpoch
    activityRevision := columns.activityRevision
    readyGeneration := columns.readyGeneration
    readyStartEpoch := columns.readyStartEpoch
    readyBootId := columns.readyBootId
    readyAt := columns.readyAt
    runtimeLastSeenAt := columns.runtimeLastSeenAt
    speculativeKeepWarmUntil := columns.speculativeKeepWarmUntil
    lastSpeculativeStartAt := columns.lastSpeculativeStartAt
    activationClaimToken := columns.activationClaimToken
    activationClaimExpiresAt := columns.activationClaimExpiresAt })

end Foundry
