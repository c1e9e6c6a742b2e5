import Foundry.Services.Intents

/-!
# Power operations

The transactions of `runtime_power.py`.  A worker claims a requested start or an idle
Workspace, prepares the start or the stop, calls the provider outside any transaction
and then records the outcome; a claim that nobody finished is recovered after it
expires.
-/

set_option autoImplicit false

namespace Foundry

open Raise

variable {D : Type}

def operationClaimSeconds : Nat := 60
def executionWakeRetrySeconds : Nat := 5
def executionWakeMaxRetries : Nat := 4

structure PowerFields where
  operationId : Option Uuid
  state : RuntimeOperationState
  trigger : Option RuntimeOperationTrigger
  requestedAt : Option Instant
  retryCount : Nat
  startEpoch : Nat
  readyGeneration : Option Nat
  readyStartEpoch : Option Nat
  readyBootId : Option Uuid
  readyAt : Option Instant
  lastSeenAt : Option Instant
  keepWarmUntil : Option Instant
  lastSpeculativeStartAt : Option Instant
  claimToken : Option Uuid
  claimExpiresAt : Option Instant
deriving DecidableEq, Repr

def Workspace.power (workspace : Workspace) : PowerFields where
  operationId := workspace.runtimeOperationId
  state := workspace.runtimeOperationState
  trigger := workspace.runtimeOperationTrigger
  requestedAt := workspace.runtimeOperationRequestedAt
  retryCount := workspace.runtimeOperationRetryCount
  startEpoch := workspace.runtimeStartEpoch
  readyGeneration := workspace.readyGeneration
  readyStartEpoch := workspace.readyStartEpoch
  readyBootId := workspace.readyBootId
  readyAt := workspace.readyAt
  lastSeenAt := workspace.runtimeLastSeenAt
  keepWarmUntil := workspace.speculativeKeepWarmUntil
  lastSpeculativeStartAt := workspace.lastSpeculativeStartAt
  claimToken := workspace.activationClaimToken
  claimExpiresAt := workspace.activationClaimExpiresAt

/-! ## Claims -/

/-- The claim names the operation and the token that the Workspace has. -/
def OperationClaim.isCurrent (claim : OperationClaim) (workspace : Workspace) : Bool :=
  workspace.runtimeOperationId = some claim.operationId ∧
    workspace.activationClaimToken = some claim.token

/-- `_owned_operation`, with the row it returns. -/
def ownedOperation (claim : OperationClaim) (state : RuntimeOperationState) (store : PowerDb D) :
    Except RuntimeError Workspace := do
  let workspace ← orRaise (store.db.workspaces.lookup claim.workspace)
    (conflictError "runtime operation claim is stale")
  require (claim.isCurrent workspace ∧ workspace.runtimeOperationState = state)
    (conflictError "runtime operation claim is stale")
  return workspace

/-- `_same_expired_claim`: the row, if the claim that expired is still on it. -/
def sameExpiredClaim (claim : OperationClaim) (state : RuntimeOperationState)
    (store : PowerDb D) : Option Workspace :=
  (store.db.workspaces.lookup claim.workspace).filter fun workspace =>
    claim.isCurrent workspace ∧ workspace.runtimeOperationState = state

/-! ## Failure -/

/-- A retried operation waits five seconds, and twice as long each further time. -/
def Workspace.retried (now : Instant) (operationId : Uuid) (workspace : Workspace) : Workspace :=
  { workspace with
    runtimeOperationId := some operationId
    runtimeOperationState := .requested
    runtimeOperationRequestedAt :=
      some (now + seconds (executionWakeRetrySeconds * 2 ^ workspace.runtimeOperationRetryCount))
    runtimeOperationRetryCount := workspace.runtimeOperationRetryCount + 1
    activationClaimToken := none
    activationClaimExpiresAt := none }

def Workspace.abandoned (clearKeepWarm : Bool) (workspace : Workspace) : Workspace :=
  { workspace with
    speculativeKeepWarmUntil :=
      if clearKeepWarm then none else workspace.speculativeKeepWarmUntil
    runtimeOperationId := none
    runtimeOperationState := .idle
    runtimeOperationTrigger := none
    runtimeOperationRequestedAt := none
    runtimeOperationRetryCount :=
      if workspace.runtimeOperationTrigger = some .onboarding then
        workspace.runtimeOperationRetryCount
      else 0
    activationClaimToken := none
    activationClaimExpiresAt := none }

/-- `_set_onboarding_error_locked`. -/
def setOnboardingErrorLocked (id : Uuid) (workspace : Workspace) (code : String)
    (store : PowerDb D) : PowerDb D :=
  if workspace.isPooled then store
  else { store with
    bundles := store.bundles.updateAll fun other safeErrorCode =>
      if other = id then some code else safeErrorCode }

/-- Whether `_mark_operation_failed_locked` requests the operation again. -/
def retriesOperation (env : Env D) (now : Instant) (id : Uuid) (retryExecution : Bool)
    (workspace : Workspace) (store : PowerDb D) : Bool :=
  retryExecution ∧
    (workspace.runtimeOperationTrigger = some .execution ∧
        store.db.hasExecution id .queued = true ∨
      workspace.runtimeOperationTrigger = some .onboarding ∧
        hasWakeDemand env now id workspace store = true) ∧
    workspace.runtimeOperationRetryCount < executionWakeMaxRetries

def markOperationFailedLocked (env : Env D) (now : Instant) (id : Uuid)
    (retryExecution clearKeepWarm : Bool) (workspace : Workspace) (store : PowerDb D) :
    PowerDb D :=
  let onboarding : Bool := workspace.runtimeOperationTrigger = some .onboarding
  let settled :=
    if workspace.runtimeOperationId.isSome then
      { store with
        intents := settleIntents id workspace.runtimeOperationId .failed store.intents }
    else store
  if retriesOperation env now id retryExecution workspace store then
    let noted :=
      if onboarding then setOnboardingErrorLocked id workspace "onboarding_wake_failed" settled
      else settled
    noted.draw.putWorkspace id (workspace.retried now store.db.supply)
  else
    let noted :=
      if onboarding && hasWakeDemand env now id workspace store then
        setOnboardingErrorLocked id workspace "onboarding_wake_exhausted" settled
      else settled
    noted.putWorkspace id (workspace.abandoned clearKeepWarm)

def markOperationFailed (env : Env D) (now : Instant) (claim : OperationClaim)
    (retryExecution clearKeepWarm : Bool) (store : PowerDb D) : PowerDb D :=
  match (store.db.workspaces.lookup claim.workspace).filter fun workspace =>
      claim.isCurrent workspace with
  | some workspace =>
    markOperationFailedLocked env now claim.workspace retryExecution clearKeepWarm workspace
      store
  | none => store

/-! ## Starts -/

def Workspace.claimedStart (now : Instant) (token : Uuid) (workspace : Workspace) : Workspace :=
  { workspace with
    runtimeOperationState := .starting
    activationClaimToken := some token
    activationClaimExpiresAt := some (now + seconds operationClaimSeconds) }

/-- The row a worker may claim a start on: REQUESTED, named, and not being provisioned. -/
def Workspace.isClaimableStart (workspace : Workspace) : Bool :=
  workspace.runtimeOperationState = .requested ∧ workspace.runtimeOperationId.isSome ∧
    workspace.runtimeOperationTrigger.isSome ∧ workspace.provisioningPhase.isInFlight = false

def claimRequestedOperation (env : Env D) (now : Instant) (workspaceId : Uuid)
    (store : PowerDb D) : Option OperationClaim × PowerDb D :=
  match (store.db.workspaces.lookup workspaceId).filter Workspace.isClaimableStart with
  | none => (none, store)
  | some workspace =>
    match workspace.runtimeOperationId, workspace.runtimeOperationTrigger with
    | some operationId, some trigger =>
      if trigger ≠ .execution ∧ hasWakeDemand env now workspaceId workspace store = false then
        (none, markOperationFailedLocked env now workspaceId false false workspace store)
      else
        (some ⟨workspaceId, operationId, store.db.supply, some trigger⟩,
          store.draw.putWorkspace workspaceId (workspace.claimedStart now store.db.supply))
    | _, _ => (none, store)

def prepareStart (now : Instant) (claim : OperationClaim) (store : PowerDb D) :
    Except RuntimeError (PowerDb D) := do
  let workspace ← ownedOperation claim .starting store
  let advanced ← advanceRuntimeStartEpochLocked workspace
  return store.putWorkspace claim.workspace { advanced with
    lastSpeculativeStartAt :=
      if claim.trigger = some .speculative then some now else workspace.lastSpeculativeStartAt }

/-- The row of a start whose Machine runs and has still to report. -/
def Workspace.awaiting (workspace : Workspace) : Workspace :=
  { workspace.withoutActivationClaim with runtimeOperationState := .awaitingReadiness }

def markAwaitingReadiness (claim : OperationClaim) (store : PowerDb D) :
    Except RuntimeError (PowerDb D) := do
  let workspace ← ownedOperation claim .starting store
  return store.putWorkspace claim.workspace workspace.awaiting

/-- `_expire_unacknowledged_readiness_one`, at the cutoff of this instant. -/
def expireUnacknowledgedReadiness (env : Env D) (settings : PowerSettings) (now : Instant)
    (workspaceId : Uuid) (store : PowerDb D) : PowerDb D :=
  match (store.db.workspaces.lookup workspaceId).filter fun workspace =>
      workspace.runtimeOperationState = .awaitingReadiness ∧
        workspace.runtimeOperationRequestedAt.any fun requested =>
          requested + settings.readinessTimeout ≤ now with
  | some workspace => markOperationFailedLocked env now workspaceId true false workspace store
  | none => store

/-! ## Stops -/

def idleCandidateLocked (settings : PowerSettings) (now : Instant) (id : Uuid)
    (allowStopping : Bool) (workspace : Workspace) (db : Db D) : Bool :=
  settings.idleStopEnabled ∧
    workspace.runtimeOperationState = (if allowStopping then .stopping else .idle) ∧
    workspace.provisioningPhase.isInFlight = false ∧ workspace.isPooled = false ∧
    (workspace.speculativeKeepWarmUntil.any fun deadline => deadline ≤ now) ∧
    workspace.hasExistingBinding ∧
    db.hasExecution id .queued = false ∧ db.hasExecution id .running = false ∧
    db.hasActiveAttempt id = false ∧ db.hasLiveLease id = false

def Workspace.claimedStop (now : Instant) (operationId token : Uuid) (workspace : Workspace) :
    Workspace :=
  { workspace with
    runtimeOperationId := some operationId
    runtimeOperationState := .stopping
    runtimeOperationTrigger := none
    runtimeOperationRequestedAt := some now
    activationClaimToken := some token
    activationClaimExpiresAt := some (now + seconds operationClaimSeconds) }

def claimIdleOperation (settings : PowerSettings) (now : Instant) (workspaceId : Uuid)
    (store : PowerDb D) : Option OperationClaim × PowerDb D :=
  match (store.db.workspaces.lookup workspaceId).filter fun workspace =>
      idleCandidateLocked settings now workspaceId false workspace store.db with
  | none => (none, store)
  | some workspace =>
    (some ⟨workspaceId, store.db.supply, store.db.supply + 1, none⟩,
      store.draw.draw.putWorkspace workspaceId
        (workspace.claimedStop now store.db.supply (store.db.supply + 1)))

def prepareStop (settings : PowerSettings) (now : Instant) (claim : OperationClaim)
    (store : PowerDb D) : Except RuntimeError (PowerDb D) := do
  let workspace ← ownedOperation claim .stopping store
  require (idleCandidateLocked settings now claim.workspace true workspace store.db)
    (conflictError "workspace is no longer idle")
  let advanced ← advanceRuntimeStartEpochLocked workspace
  return store.putWorkspace claim.workspace advanced

def Workspace.stoppedIdle (workspace : Workspace) : Workspace :=
  { workspace.withoutActivationClaim with
    runtimeOperationId := none
    runtimeOperationState := .idle
    runtimeOperationTrigger := none
    runtimeOperationRequestedAt := none
    speculativeKeepWarmUntil := none }

def finalizeStop (claim : OperationClaim) (store : PowerDb D) :
    Except RuntimeError (PowerDb D) := do
  let workspace ← ownedOperation claim .stopping store
  return store.putWorkspace claim.workspace workspace.stoppedIdle

/-! ## Recovery of expired claims -/

def recoverStartAsAwaiting (claim : OperationClaim) (store : PowerDb D) : PowerDb D :=
  match sameExpiredClaim claim .starting store with
  | some workspace => store.putWorkspace claim.workspace workspace.awaiting
  | none => store

def recoverStartAsRequested (claim : OperationClaim) (store : PowerDb D) : PowerDb D :=
  match sameExpiredClaim claim .starting store with
  | some workspace => store.putWorkspace claim.workspace
      { workspace.withoutActivationClaim with runtimeOperationState := .requested }
  | none => store

def recoverStopAsFinished (claim : OperationClaim) (store : PowerDb D) :
    Except RuntimeError (PowerDb D) :=
  match sameExpiredClaim claim .stopping store with
  | some workspace => do
      let advanced ← advanceRuntimeStartEpochLocked workspace
      return store.putWorkspace claim.workspace advanced.stoppedIdle
  | none => return store

def recoverStopAsClaimed (now : Instant) (claim : OperationClaim) (store : PowerDb D) :
    Option OperationClaim × PowerDb D :=
  match sameExpiredClaim claim .stopping store with
  | some workspace =>
    (some ⟨claim.workspace, store.db.supply, store.db.supply + 1, none⟩,
      store.draw.draw.putWorkspace claim.workspace { workspace with
        runtimeOperationId := some store.db.supply
        runtimeOperationState := .stopping
        runtimeOperationRequestedAt := some now
        activationClaimToken := some (store.db.supply + 1)
        activationClaimExpiresAt := some (now + seconds operationClaimSeconds) })
  | none => (none, store)

/-- `_clear_expired_operation`: whatever claim is on the row by now. -/
def clearExpiredOperation (env : Env D) (now : Instant) (workspaceId : Uuid) (store : PowerDb D) :
    PowerDb D :=
  match (store.db.workspaces.lookup workspaceId).filter fun workspace =>
      workspace.runtimeOperationId.isSome ∧
        (workspace.runtimeOperationState = .starting ∨
          workspace.runtimeOperationState = .stopping) with
  | some workspace => markOperationFailedLocked env now workspaceId false false workspace store
  | none => store

/-! ## The binding a worker observes -/

/-- `_inspect_machine`: without references there is nothing to inspect. -/
def inspectMachine (workspace : Workspace) (answer : Except Raised (Option MachineRecord)) :
    Except Raised (Option MachineRecord) :=
  if isPresent workspace.flyAppRef ∧ isPresent workspace.machineRef then answer else .ok none

def verifyMachineBinding (id : Uuid) (workspace : Workspace) (machine : Option MachineRecord) :
    Except Raised MachineRecord := do
  let found ← orRaise (machine.filter fun record => workspace.machineRef = some record.id)
    Raised.terminal
  require (workspace.flyAppRef = some found.appName) Raised.terminal
  require (found.volumeId = workspace.volumeRef) Raised.terminal
  require (found.ownership.any fun ownership => ownership.workspaceId = id ∧
      workspace.provisioningId = some ownership.operationId ∧
      ownership.generation = workspace.machineGeneration)
    Raised.terminal
  return found

end Foundry
