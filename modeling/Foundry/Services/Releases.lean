import Foundry.Services.Power

/-!
# Release upgrades

The transactions of `runtime_releases.py`.  A release claim pins the images a Workspace
is to run and the generation they replace; the replacement itself is the Machine
lifecycle of `workspaces.py`, and binding the new Machine clears the pin.
-/

set_option autoImplicit false

namespace Foundry

open Raise

variable {D : Type}

def releaseClaimSeconds : Nat := 1200
def releaseMaxAttempts : Nat := 5

/-- `target.get("images") or desired_images()`; an invalid configuration raises. -/
def releaseImages (env : Env D) (workspace : Workspace) : Except Raised Images :=
  match workspace.releaseTarget.images.filter fun images => images ≠ [] with
  | some images => .ok images
  | none => orRaise env.desiredImages .other

/-- The conditional update of `applied_images` after an inspection. -/
def recordAppliedImages (workspaceId : Uuid) (machine : MachineRecord) (images : Images)
    (store : PowerDb D) : PowerDb D :=
  match (store.db.workspaces.lookup workspaceId).filter fun workspace =>
      workspace.machineRef = some machine.id with
  | some workspace => store.putWorkspace workspaceId { workspace with appliedImages := images }
  | none => store

def Workspace.claimedRelease (now : Instant) (operationId token : Uuid) (pin : ReleasePin)
    (workspace : Workspace) : Workspace :=
  { workspace with
    releaseTarget :=
      { workspace.releaseTarget with pin := some { pin with attempts := pin.attempts + 1 } }
    activationClaimToken := some token
    activationClaimExpiresAt := some (now + seconds releaseClaimSeconds)
    runtimeOperationId := some (workspace.runtimeOperationId.getD operationId)
    runtimeOperationState := .starting
    runtimeOperationRequestedAt := some now }

/-- The first claim of a release: `none` while the Workspace is busy. -/
def pinRelease (settings : PowerSettings) (now : Instant) (workspaceId : Uuid)
    (machine : Option MachineRecord) (images : Images) (onWake : Bool) (workspace : Workspace)
    (db : Db D) : Except Raised (Option (ReleasePin × Workspace)) := do
  if workspace.provisioningPhase ≠ .idle then return none
  let found ← orRaise machine .other
  let ownership ← orRaise found.ownership .other
  require (workspace.machineRef = some found.id ∧
      ownership.generation = workspace.machineGeneration) .conflict
  require (found.state = .stopped ∨ found.state = .started) (.provider true false)
  if onWake = false ∧ workspace.runtimeOperationState ≠ .idle then return none
  if db.hasActiveAttempt workspaceId ∨ db.hasLiveLease workspaceId ∨
      db.hasExecution workspaceId .running then
    return none
  -- Queued prompts are preserved on a stopped Machine and wait for readiness.
  if found.state = .started ∧
      ((workspace.speculativeKeepWarmUntil.all fun deadline => now < deadline) ∨
        db.hasExecution workspaceId .queued) then
    return none
  require (settings.foundryOriginIsValid = true) .other
  match advanceRuntimeStartEpochLocked workspace with
  | .error _ => throw .conflict
  | .ok advanced => return some (⟨images, workspace.machineGeneration, 0⟩, advanced)

/-- `_claim_release`. -/
def claimRelease (settings : PowerSettings) (now : Instant) (workspaceId : Uuid)
    (machine : Option MachineRecord) (images : Images) (wakeClaim : Option OperationClaim)
    (store : PowerDb D) : Except Raised (Option Uuid × PowerDb D) := do
  let workspace ← orRaise (store.db.workspaces.lookup workspaceId) .other
  require (workspace.provisioningPhase ≠ .failed) .conflict
  require (wakeClaim.all fun claim =>
      claim.isCurrent workspace ∧ workspace.runtimeOperationState = .starting) .conflict
  if wakeClaim = none ∧ workspace.activationClaimToken.isSome = true ∧
      workspace.activationClaimExpiresAt.any (fun expiry => now < expiry) then
    return (none, store)
  let token := store.db.supply + 1
  match workspace.releaseTarget.pin with
  | some pin =>
    return (some token, store.draw.draw.putWorkspace workspaceId
      (workspace.claimedRelease now store.db.supply token pin))
  | none =>
    match ← pinRelease settings now workspaceId machine images wakeClaim.isSome workspace
      store.db with
    | none => return (none, store)
    | some (pin, advanced) =>
      return (some token, store.draw.draw.putWorkspace workspaceId
        (advanced.claimedRelease now store.db.supply token pin))

end Foundry
