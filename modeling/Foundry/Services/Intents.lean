import Foundry.Model.Power
import Foundry.Services.Workspaces

/-!
# Wake intents

`runtime_intents.py`: the intents that ask for a wake, the wakes of onboarding and of
an activation, and the demand behind an operation; with the activation claim of
`activate_fly_workspace`, the assignment of a pooled Workspace of `ready_pool.py`, and
the readiness receipt, which settles the intents of the start it answers.
-/

set_option autoImplicit false

namespace Foundry

open Raise

variable {D : Type}

def workspaceIntentLimit : Nat := 30
def workspaceIntentPeriodSeconds : Nat := 60
def maxReceivedAtFutureSkewSeconds : Nat := 5
def activationClaimSeconds : Nat := 1200

/-- The bulk update of the WAKING intents that were coalesced into an operation. -/
def settleIntents (workspaceId : Uuid) (operationId : Option Uuid)
    (outcome : RuntimeIntentOutcome) (intents : Table (Uuid × Uuid) RuntimeIntent) :
    Table (Uuid × Uuid) RuntimeIntent :=
  intents.updateAll fun key intent =>
    if key.1 = workspaceId ∧ intent.coalescedOperationId = operationId ∧
        intent.outcome = .waking then
      { intent with outcome := outcome }
    else intent

/-- Whether a durable operation still has an owner-side demand. -/
def hasWakeDemand (env : Env D) (now : Instant) (id : Uuid) (workspace : Workspace)
    (store : PowerDb D) : Bool :=
  match workspace.runtimeOperationTrigger with
  | some .onboarding =>
    (store.bundles.lookup id).any fun safeErrorCode =>
      !workspace.isPooled && safeErrorCode ≠ some "onboarding_wake_exhausted" &&
        !isRuntimeReady env now workspace
  | some .execution => store.db.hasExecution id .queued
  | some .speculative =>
    store.intents.rows.any fun row => row.1.1 = id ∧
      row.2.coalescedOperationId = workspace.runtimeOperationId ∧
      row.2.outcome = .waking ∧ now ≤ row.2.expiresAt
  | none => false

/-! ## Intents -/

structure RuntimeIntentReceipt where
  status : RuntimeIntentOutcome
  operationId : Option Uuid
  replayed : Bool
deriving DecidableEq, Repr

def createIntent (workspaceId key : Uuid) (intent : RuntimeIntent) (store : PowerDb D) :
    Except RuntimeError (RuntimeIntentReceipt × PowerDb D) := do
  require (store.intents.lookup (workspaceId, key) = none ∧
      intent.receivedAt < intent.expiresAt ∧ intent.expiresAt ≤ intent.deleteAfter)
    (conflictError "runtime intent identity conflicts")
  return (⟨intent.outcome, intent.coalescedOperationId, false⟩,
    { store with intents := store.intents.insert (workspaceId, key) intent })

def Workspace.requested (now : Instant) (operationId : Uuid) (trigger : RuntimeOperationTrigger)
    (workspace : Workspace) : Workspace :=
  { workspace with
    runtimeOperationId := some operationId
    runtimeOperationState := .requested
    runtimeOperationTrigger := some trigger
    runtimeOperationRequestedAt := some now
    runtimeOperationRetryCount := 0 }

def Workspace.withoutActivationClaim (workspace : Workspace) : Workspace :=
  { workspace with
    activationClaimToken := none
    activationClaimExpiresAt := none }

/-- The intent as it is stored, with the outcome and the operation decided on. -/
def RuntimeIntent.decided (settings : PowerSettings) (intentType : RuntimeIntentType)
    (received : Instant) (outcome : RuntimeIntentOutcome) (operationId : Option Uuid) :
    RuntimeIntent where
  intentType := intentType
  receivedAt := received
  expiresAt := received + settings.intentTtl
  deleteAfter := received + settings.intentRetention
  outcome := outcome
  coalescedOperationId := operationId

/-- The rest of `_request_runtime_intent_once` for an intent that is not rate limited:
a Workspace that has a Machine and is not ready is woken, or the wake is joined. -/
def wakeForIntent (env : Env D) (settings : PowerSettings) (now : Instant)
    (workspaceId key : Uuid) (intentType : RuntimeIntentType) (received : Instant)
    (workspace : Workspace) (store : PowerDb D) :
    Except RuntimeError (RuntimeIntentReceipt × PowerDb D) :=
  let decided := RuntimeIntent.decided settings intentType received
  let warm := extendKeepWarm env now workspace
  if isRuntimeReady env now workspace then
    createIntent workspaceId key (decided .alreadyReady none) (store.putWorkspace workspaceId warm)
  else if workspace.provisioningPhase.isInFlight then
    createIntent workspaceId key (decided .failed none) store
  else if workspace.hasExistingBinding = false then
    createIntent workspaceId key (decided .firstProvisionRequired none) store
  else
    match workspace.runtimeOperationState with
    | .stopping =>
      createIntent workspaceId key (decided .waking (some store.db.supply))
        (store.draw.putWorkspace workspaceId
          (warm.requested now store.db.supply .speculative).withoutActivationClaim)
    | .requested | .starting | .awaitingReadiness => do
        let operationId ← orRaise workspace.runtimeOperationId
          (conflictError "runtime operation state has no identity")
        createIntent workspaceId key (decided .waking (some operationId))
          (store.putWorkspace workspaceId warm)
    | .idle =>
      if workspace.lastSpeculativeStartAt.any fun last =>
          now ≤ last + settings.speculativeStartCooldown then
        createIntent workspaceId key (decided .rateLimited none) store
      else
        createIntent workspaceId key (decided .waking (some store.db.supply))
          (store.draw.putWorkspace workspaceId
            (warm.requested now store.db.supply .speculative))

def requestRuntimeIntent (env : Env D) (settings : PowerSettings) (now : Instant)
    (workspaceId key : Uuid) (intentType : RuntimeIntentType) (receivedAt : Instant)
    (store : PowerDb D) : Except RuntimeError (RuntimeIntentReceipt × PowerDb D) := do
  let workspace ← orRaise (store.db.workspaces.lookup workspaceId)
    (notFoundError "workspace is unavailable")
  match store.intents.lookup (workspaceId, key) with
  | some existing =>
    require (existing.intentType = intentType)
      (idempotencyConflictError "idempotency key already identifies a different intent")
    return (⟨existing.outcome, existing.coalescedOperationId, true⟩, store)
  | none =>
    -- An intent from the future is recorded as received now, and as failed.
    if now + seconds maxReceivedAtFutureSkewSeconds < receivedAt then
      createIntent workspaceId key (.decided settings intentType now .failed none) store
    else if receivedAt + settings.intentTtl < now then
      createIntent workspaceId key (.decided settings intentType receivedAt .failed none) store
    else if workspaceIntentLimit ≤ (store.intents.rows.filter fun row =>
        row.1.1 = workspaceId ∧
          now ≤ row.2.receivedAt + seconds workspaceIntentPeriodSeconds).length then
      createIntent workspaceId key (.decided settings intentType receivedAt .rateLimited none)
        store
    else wakeForIntent env settings now workspaceId key intentType receivedAt workspace store

def cleanupRuntimeIntents (now : Instant) (limit : Nat) (store : PowerDb D) : PowerDb D :=
  let due := store.intents.rows.filter fun row => row.2.deleteAfter ≤ now
  let ids := ((due.mergeSort fun left right =>
    left.2.deleteAfter ≤ right.2.deleteAfter).take limit).map Prod.fst
  { store with intents := store.intents.keep fun key _ => key ∉ ids }

/-! ## Other wakes -/

/-- `_wake_publication_workspaces`, for one Workspace. -/
def wakePublicationWorkspace (env : Env D) (now : Instant) (workspaceId : Uuid)
    (store : PowerDb D) : Except RuntimeError (PowerDb D) := do
  let workspace ← orRaise (store.db.workspaces.lookup workspaceId) (doesNotExist "Workspace")
  let woken ← requestExecutionWakeLocked env now store.db.supply workspace
  return store.draw.putWorkspace workspaceId woken

def Workspace.forgetReadiness (workspace : Workspace) : Workspace :=
  { workspace with
    readyGeneration := none
    readyStartEpoch := none
    readyBootId := none
    readyAt := none
    runtimeLastSeenAt := none }

/-- Queue the durable first wake for a permanently assigned pool row. -/
def requestOnboardingWakeLocked (env : Env D) (now : Instant) (id operationId : Uuid)
    (workspace : Workspace) (store : PowerDb D) : Workspace :=
  if ((store.bundles.lookup id).any fun safeErrorCode =>
      !workspace.isPooled && safeErrorCode ≠ some "onboarding_wake_exhausted") = false then
    workspace
  else
    match workspace.runtimeOperationState with
    | .idle =>
      extendKeepWarm env now (workspace.requested now operationId .onboarding).forgetReadiness
    | .stopping =>
      extendKeepWarm env now
        (workspace.requested now operationId .onboarding).withoutActivationClaim.forgetReadiness
    | .requested | .starting | .awaitingReadiness =>
      if workspace.runtimeOperationTrigger = some .onboarding then
        extendKeepWarm env now workspace.forgetReadiness
      else workspace

/-- `_assign_ready_workspace_once` for the candidate it settles on.  `bundleIsEligible` is
what `_eligible` makes of the bundle, the credentials and the empty Workspace. -/
def assignReadyWorkspace (env : Env D) (now : Instant) (workspaceId : Uuid) (tenantRef : String)
    (sleeping bundleIsEligible : Bool) (store : PowerDb D) :
    Except RuntimeError (PowerDb D) := do
  let workspace ← orRaise (store.db.workspaces.lookup workspaceId) (doesNotExist "Workspace")
  require (store.db.workspaceByTenant tenantRef = none ∧ bundleIsEligible = true ∧
      store.bundles.lookup workspaceId = none ∧ isPresent workspace.volumeRef = true ∧
      workspace.isPooled = true ∧ workspace.provisioningPhase = .idle ∧
      workspace.runtimeOperationState = .idle ∧ workspace.provisioningClaimToken = none ∧
      workspace.provisioningClaimExpiresAt = none ∧ workspace.activationClaimToken = none ∧
      workspace.activationClaimExpiresAt = none ∧ workspace.releaseTarget.pin = none ∧
      (sleeping = false → isRuntimeReady env now workspace = true))
    (conflictError "stale_candidate")
  let assigned := { workspace with tenantRef := tenantRef }
  let claimed := { store with bundles := store.bundles.insert workspaceId none }
  if sleeping then
    return claimed.draw.putWorkspace workspaceId
      (requestOnboardingWakeLocked env now workspaceId store.db.supply assigned claimed)
  else return claimed.putWorkspace workspaceId assigned

/-! ## Activation -/

/-- `_claim_activation`; without a claim nothing is written. -/
def claimActivation (now : Instant) (workspaceId : Uuid) (store : PowerDb D) :
    Except RuntimeError (Option Uuid × PowerDb D) := do
  let workspace ← orRaise (store.db.workspaces.lookup workspaceId) (doesNotExist "Workspace")
  require (workspace.provisioningPhase ≠ .failed)
    ⟨.providerTerminal, "Workspace activation failed"⟩
  if workspace.runtimeOperationState = .starting ∨ workspace.runtimeOperationState = .stopping ∨
      workspace.activationClaimToken.isSome = true ∧
        workspace.activationClaimExpiresAt.any (fun expiry => now < expiry) then
    return (none, store)
  else
    return (some store.db.supply, store.draw.putWorkspace workspaceId { workspace with
      activationClaimToken := some store.db.supply
      activationClaimExpiresAt := some (now + seconds activationClaimSeconds) })

/-- `_release_activation_claim`, and the end of a failed release attempt. -/
def releaseActivationClaim (workspaceId token : Uuid) (store : PowerDb D) : PowerDb D :=
  match (store.db.workspaces.lookup workspaceId).filter fun workspace =>
      workspace.activationClaimToken = some token with
  | some workspace => store.putWorkspace workspaceId workspace.withoutActivationClaim
  | none => store

/-- What the activation command observed of the Machine before it asks for a wake. -/
structure ObservedBinding where
  appRef : String
  machineRef : String
  volumeRef : Option String
  owner : Option OwnershipMetadata
  generation : Nat
deriving DecidableEq, Repr

def Workspace.matchesObserved (id : Uuid) (workspace : Workspace) (observed : ObservedBinding) :
    Bool :=
  workspace.machineGeneration = observed.generation ∧
    workspace.flyAppRef = some observed.appRef ∧
    workspace.machineRef = some observed.machineRef ∧
    workspace.volumeRef = observed.volumeRef ∧ observed.volumeRef.isSome = true ∧
    observed.owner.any fun owner => owner.workspaceId = id ∧
      workspace.provisioningId = some owner.operationId ∧
      owner.generation = workspace.machineGeneration

def requestActivationRecoveryWake (env : Env D) (now : Instant) (workspaceId token : Uuid)
    (observed : ObservedBinding) (store : PowerDb D) :
    Except RuntimeError (Option Uuid × PowerDb D) := do
  require (observed.appRef ≠ "" ∧ observed.machineRef ≠ "" ∧ observed.volumeRef ≠ some "")
    (validationError "observed provider references are required")
  require (0 < observed.generation ∧ observed.owner.all fun owner => 0 < owner.generation)
    (validationError "observed generation must be positive")
  let workspace ← orRaise (store.db.workspaces.lookup workspaceId)
    (notFoundError "workspace is unavailable")
  require (workspace.activationClaimToken = some token ∧
      workspace.activationClaimExpiresAt.any fun expiry => now < expiry)
    (conflictError "workspace activation claim is stale")
  require (workspace.provisioningPhase = .idle)
    (conflictError "workspace provisioning state changed")
  require (workspace.runtimeOperationState ≠ .starting ∧
      workspace.runtimeOperationState ≠ .awaitingReadiness)
    (conflictError "runtime wake is already in progress")
  require (workspace.matchesObserved workspaceId observed)
    (conflictError "workspace provider binding changed")
  let forgotten := workspace.forgetReadiness
  let onboardingRecovery : Bool := (store.bundles.lookup workspaceId).isSome ∧
    workspace.isPooled = false ∧ store.db.hasExecution workspaceId .queued = false ∧
    (workspace.runtimeOperationState = .idle ∨ workspace.runtimeOperationState = .stopping ∨
      workspace.runtimeOperationTrigger = some .onboarding)
  if onboardingRecovery then
    let cleared := { store with
      bundles := store.bundles.updateAll fun id safeErrorCode =>
        if id = workspaceId ∧ (safeErrorCode = some "onboarding_wake_failed" ∨
            safeErrorCode = some "onboarding_wake_exhausted") then none
        else safeErrorCode }
    let woken := requestOnboardingWakeLocked env now workspaceId store.db.supply forgotten cleared
    return (woken.runtimeOperationId, cleared.draw.putWorkspace workspaceId woken)
  else
    let woken ← requestExecutionWakeLocked env now store.db.supply forgotten
    return (woken.runtimeOperationId, store.draw.putWorkspace workspaceId woken)

/-! ## Readiness -/

/-- `accept_runtime_readiness` with the intents and the onboarding error it settles. -/
def settleRuntimeReadiness (now : Instant) (context : RuntimeContext) (bootId : Uuid)
    (reconciledGeneration runtimeStartEpoch : Nat) (store : PowerDb D) :
    Except RuntimeError (PowerDb D) := do
  let accepted ←
    acceptRuntimeReadiness now context bootId reconciledGeneration runtimeStartEpoch store.db
  let workspace ← orRaise (store.db.workspaces.lookup context.workspace)
    (notReadyError "runtime workspace does not exist")
  return { store with
    db := accepted.2
    intents :=
      if workspace.runtimeOperationState = .awaitingReadiness then
        settleIntents context.workspace workspace.runtimeOperationId .ready store.intents
      else store.intents
    bundles :=
      if workspace.isPooled then store.bundles
      else store.bundles.updateAll fun id safeErrorCode =>
        if id = context.workspace ∧ (safeErrorCode = some "onboarding_wake_failed" ∨
            safeErrorCode = some "onboarding_wake_exhausted") then none
        else safeErrorCode }

end Foundry
