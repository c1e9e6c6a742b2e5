import Foundry.Model.Store

/-!
# Readiness, admission and wake requests

`runtime_readiness.py`, the profile predicates of `profiles.py`, the routine
admission gate of `routines.py` with the release digests of
`runtime_releases.py`, and the wake request of `runtime_intents.py`.  A service
call observes one instant `now`.
-/

set_option autoImplicit false

namespace Foundry

open Raise

variable {D : Type}

def isPresent (reference : Option String) : Bool :=
  reference.any fun text => text ≠ ""

/-- `_has_existing_binding`. -/
def Workspace.hasExistingBinding (workspace : Workspace) : Bool :=
  0 < workspace.machineGeneration ∧ isPresent workspace.flyAppRef ∧
    isPresent workspace.volumeRef ∧ isPresent workspace.machineRef

/-- The test before claims and profile receipts: no provisioning in flight, and
a complete Machine binding. -/
def Workspace.isServing (workspace : Workspace) : Bool :=
  !workspace.provisioningPhase.isInFlight && workspace.hasExistingBinding

def isRuntimeReady (env : Env D) (now : Instant) (workspace : Workspace) : Bool :=
  workspace.isServing ∧
    workspace.readyGeneration = some workspace.machineGeneration ∧
    workspace.readyStartEpoch = some workspace.runtimeStartEpoch ∧
    workspace.readyBootId.isSome ∧
    workspace.runtimeLastSeenAt.any fun seen => now ≤ seen + env.readinessFreshness

def requireCurrentRuntimeReadyLocked (env : Env D) (now : Instant) (id : Uuid)
    (workspace : Workspace) (context : RuntimeContext) : Except RuntimeError Unit := do
  require (id = context.workspace)
    (fencedError "runtime credential does not match workspace")
  require (workspace.machineGeneration = context.machineGeneration)
    (fencedError "runtime credential belongs to a retired generation")
  require (isRuntimeReady env now workspace)
    (notReadyError "workspace readiness receipt is missing or stale")

/-- Fence old runtime receipts before any provider start or stop. -/
def advanceRuntimeStartEpochLocked (workspace : Workspace) : Except RuntimeError Workspace := do
  require (workspace.runtimeStartEpoch < 2 ^ 63 - 1)
    (conflictError "runtime start epoch is exhausted")
  return { workspace with
    runtimeStartEpoch := workspace.runtimeStartEpoch + 1
    readyGeneration := none
    readyStartEpoch := none
    readyBootId := none
    readyAt := none
    runtimeLastSeenAt := none }

def advanceWorkspaceActivity (workspace : Workspace) : Workspace :=
  { workspace with activityRevision := workspace.activityRevision + 1 }

/-! ## Profile predicates -/

def profileIsClaimReady (profile : RuntimeProfile D) (generation : Nat) : Bool :=
  profile.lifecycleState = .active ∧ profile.hermesProfileKeyVersion = 1 ∧
    profile.materializedGeneration = generation

def profileAllowsRuntimeWrite (profile : RuntimeProfile D) : Bool :=
  profile.lifecycleState = .active

def profileAllowsStop (profile : RuntimeProfile D) : Bool :=
  profile.lifecycleState = .active ∨ profile.lifecycleState = .cleanupPending

/-! ## Routine admission -/

def currentRuntimeReleaseDigest (env : Env D) (workspace : Workspace) : Option String :=
  if workspace.releaseTarget.images.all fun images => images = workspace.appliedImages then
    env.runtimeReleaseDigest workspace.appliedImages
  else none

def desiredRoutineReleaseDigest (env : Env D) : Except RuntimeError String := do
  let images ← orRaise env.desiredImages (notReadyError "runtime image release is invalid")
  orRaise (env.runtimeReleaseDigest images)
    (notReadyError "runtime image release is not configured")

def requireRoutineAdmission (env : Env D) (now : Instant) (requireReadiness : Bool)
    (workspace : Workspace) : Except RuntimeError Unit := do
  require (workspace.releaseTarget.routineAdmission ≠ some false)
    (notReadyError "routine admission is disabled")
  let releaseDigest ← desiredRoutineReleaseDigest env
  require (requireReadiness = true → isRuntimeReady env now workspace = true)
    (notReadyError "runtime readiness receipt is missing or stale")
  require (currentRuntimeReleaseDigest env workspace = some releaseDigest)
    (fencedError "runtime image release is stale")

/-! ## Wake requests -/

def extendKeepWarm (env : Env D) (now : Instant) (workspace : Workspace) : Workspace :=
  { workspace with
    speculativeKeepWarmUntil :=
      match workspace.speculativeKeepWarmUntil with
      | none => some (now + env.keepWarm)
      | some deadline => some (max deadline (now + env.keepWarm)) }

/-- Mark an accepted prompt as the wake trigger; `operationId` is the identifier
drawn for a new power operation. -/
def requestExecutionWakeLocked (env : Env D) (now : Instant) (operationId : Uuid)
    (given : Workspace) : Except RuntimeError Workspace := do
  let workspace := extendKeepWarm env now given
  let requested := { workspace with
    runtimeOperationId := some operationId
    runtimeOperationState := .requested
    runtimeOperationTrigger := some .execution
    runtimeOperationRequestedAt := some now
    runtimeOperationRetryCount := 0 }
  if isRuntimeReady env now workspace then
    return workspace
  match workspace.runtimeOperationState with
  | .idle =>
    -- A prompt cannot create a Machine: first provisioning owns that.
    return if workspace.hasExistingBinding then requested else workspace
  | .stopping =>
    return { requested with
      activationClaimToken := none
      activationClaimExpiresAt := none }
  | .requested | .starting | .awaitingReadiness =>
    require workspace.runtimeOperationId.isSome
      (conflictError "runtime operation state has no identity")
    if workspace.runtimeOperationTrigger = some .execution then
      return workspace
    else
      return { workspace with
        runtimeOperationTrigger := some .execution
        runtimeOperationRequestedAt := some now
        runtimeOperationRetryCount := 0 }

/-! ## What these services leave alone -/

theorem advanceRuntimeStartEpochLocked_generation {workspace next : Workspace}
    (success : advanceRuntimeStartEpochLocked workspace = .ok next) :
    next.machineGeneration = workspace.machineGeneration := by
  simp only [advanceRuntimeStartEpochLocked, bind_eq_ok, pure_eq_ok] at success
  obtain ⟨_, _, rfl⟩ := success
  rfl

section

variable (env : Env D) (now : Instant) (operationId : Uuid) (workspace next : Workspace)
  (success : requestExecutionWakeLocked env now operationId workspace = .ok next)

include env now operationId success

theorem requestExecutionWakeLocked_frame :
    next = { workspace with
      runtimeOperationId := next.runtimeOperationId
      runtimeOperationState := next.runtimeOperationState
      runtimeOperationTrigger := next.runtimeOperationTrigger
      runtimeOperationRequestedAt := next.runtimeOperationRequestedAt
      runtimeOperationRetryCount := next.runtimeOperationRetryCount
      speculativeKeepWarmUntil := next.speculativeKeepWarmUntil
      activationClaimToken := next.activationClaimToken
      activationClaimExpiresAt := next.activationClaimExpiresAt } := by
  simp only [requestExecutionWakeLocked] at success
  split at success
  · cases success
    rfl
  · split at success
    · cases success
      split <;> rfl
    · cases success
      rfl
    all_goals
      simp only [bind_eq_ok] at success
      obtain ⟨_, _, success⟩ := success
      split at success <;> simp only [pure_eq_ok] at success <;> subst success <;> rfl

theorem requestExecutionWakeLocked_generation :
    next.machineGeneration = workspace.machineGeneration := by
  rw [requestExecutionWakeLocked_frame env now operationId workspace next success]

theorem requestExecutionWakeLocked_activity :
    next.activityRevision = workspace.activityRevision := by
  rw [requestExecutionWakeLocked_frame env now operationId workspace next success]

end

end Foundry
