import Foundry.Fleet.Workers
import Foundry.System

/-!
# The fleet

The system with its power workers.  An event is a service call, an intent, a readiness
receipt, an assignment of the ready pool, the query by which a worker picks a Workspace,
or one step of a worker; runs are arbitrary sequences of events.

A service call may be anything but the two operations given here in full: the maintenance of
a Workspace, which is what the workers do, and the readiness receipt.  A lifecycle worker
moves a provisioning phase only to a phase in flight, with references that are not empty
(`runtime_workspace_fly_refs_nonempty`).

`history`, which nothing reads, is the start epoch at which an operation and a provisioning
operation began.
-/

set_option autoImplicit false

namespace Foundry

open Raise

variable {D : Type}

/-! ## Selectors -/

inductive Task where
  | requestedStart
  | releaseResumption
  | expiredClaim
  | unacknowledgedReadiness
  | idleStop
  /-- `reconcile_runtime_images`, by an operator. -/
  | operatorRelease
  /-- `activate_fly_workspace`, by an operator. -/
  | activation
deriving DecidableEq, Repr

def Task.selects (settings : PowerSettings) (now : Instant) (id : Uuid) (workspace : Workspace)
    (db : Db D) : Task → Bool
  | .requestedStart =>
    workspace.runtimeOperationState = .requested ∧
      workspace.runtimeOperationRequestedAt.any fun requested => requested ≤ now
  | .releaseResumption =>
    workspace.provisioningPhase ≠ .failed ∧
      workspace.activationClaimExpiresAt.all (fun expiry => expiry ≤ now) ∧
      workspace.releaseTarget.pin.any fun pin => pin.attempts < releaseMaxAttempts
  | .expiredClaim =>
    workspace.releaseTarget.pin = none ∧
      (workspace.runtimeOperationState = .starting ∨
        workspace.runtimeOperationState = .stopping) ∧
      workspace.activationClaimExpiresAt.any fun expiry => expiry ≤ now
  | .unacknowledgedReadiness =>
    workspace.runtimeOperationState = .awaitingReadiness ∧
      workspace.runtimeOperationRequestedAt.any fun requested =>
        requested + settings.readinessTimeout ≤ now
  | .idleStop => idleCandidateLocked settings now id false workspace db
  | .operatorRelease => 0 < workspace.machineGeneration
  | .activation => true

def Task.start (id : Uuid) (workspace : Workspace) : Task → Point
  | .requestedStart => .claimRequested id
  | .releaseResumption | .operatorRelease => .readForRelease id none
  | .expiredClaim => .readExpired id workspace.runtimeOperationId
  | .unacknowledgedReadiness => .expireReadiness id
  | .idleStop => .claimIdle id
  | .activation => .claimActivation id

/-! ## History -/

structure History where
  /-- The start epoch when the operation now named by the row began; for a binding, when
  the provisioning operation it completes began. -/
  began : Nat
  /-- The start epoch when the latest provisioning operation was opened. -/
  opened : Nat
deriving DecidableEq, Repr

def History.observe (history : History) (before after : Workspace) : History where
  began :=
    if before.provisioningPhase.isInFlight = true ∧ after.provisioningPhase = .idle then
      history.opened
    else if after.runtimeOperationId ≠ before.runtimeOperationId then before.runtimeStartEpoch
    else history.began
  opened :=
    if after.provisioningId ≠ before.provisioningId then before.runtimeStartEpoch
    else history.opened

structure Fleet (D : Type) where
  store : PowerDb D
  workers : Table Nat PowerWorker
  history : Uuid → History

def Fleet.empty : Fleet D where
  store := PowerDb.empty
  workers := ∅
  history := fun _ => ⟨0, 0⟩

def Fleet.commit (fleet : Fleet D) (store : PowerDb D) (workers : Table Nat PowerWorker) :
    Fleet D where
  store := store
  workers := workers
  history := fun id =>
    match fleet.store.db.workspaces.lookup id, store.db.workspaces.lookup id with
    | some before, some after => (fleet.history id).observe before after
    | _, _ => fleet.history id

/-! ## Events -/

def PhaseUpdates.areNonempty (updates : PhaseUpdates) : Bool :=
  updates.flyAppRef ≠ some "" ∧ updates.volumeRef ≠ some "" ∧ updates.machineRef ≠ some ""

def Operation.isFleetCall : Operation D → Bool
  | .maintainWorkspace _ _ | .acceptRuntimeReadiness _ _ _ _ => false
  | .casPhase _ _ _ phase updates => phase.isInFlight && updates.areNonempty
  | .bindIdle _ _ _ machineRef _ => machineRef ≠ ""
  | _ => true

inductive FleetEvent (D : Type) where
  | service (call : Call D)
  | readiness (now : Instant) (context : RuntimeContext) (bootId : Uuid)
      (generation startEpoch : Nat)
  | intent (now : Instant) (workspace key : Uuid) (intentType : RuntimeIntentType)
      (receivedAt : Instant)
  | cleanupIntents (now : Instant) (limit : Nat)
  | publicationWake (now : Instant) (workspace : Uuid)
  | assign (now : Instant) (workspace : Uuid) (tenantRef : String)
      (sleeping bundleIsEligible : Bool)
  | enableRoutineAdmission (now : Instant) (workspace : Uuid) (releaseDigest : String)
      (generation startEpoch : Nat)
  | disableRoutineAdmission (workspace : Uuid)
  | select (now : Instant) (worker : Nat) (task : Task) (workspace : Uuid)
  | work (clock : Instant) (worker : Nat) (input : PowerInput)

def enableRoutineAdmission (env : Env D) (now : Instant) (workspaceId : Uuid)
    (releaseDigest : String) (generation startEpoch : Nat) (store : PowerDb D) :
    Except RuntimeError (PowerDb D) := do
  require (releaseDigest ≠ "") (validationError "release_digest is required")
  require (0 < generation) (validationError "runtime release generation is invalid")
  let workspace ← orRaise (store.db.workspaces.lookup workspaceId)
    (notFoundError "workspace is unavailable")
  require (workspace.machineGeneration = generation)
    (fencedError "runtime release generation is stale")
  require (workspace.runtimeStartEpoch = startEpoch)
    (fencedError "runtime release epoch is stale")
  let approved ← desiredRoutineReleaseDigest env
  require (releaseDigest = approved)
    (notReadyError "runtime release is not approved for routines")
  require (isRuntimeReady env now workspace)
    (notReadyError "runtime readiness receipt is missing or stale")
  require (currentRuntimeReleaseDigest env workspace = some releaseDigest)
    (fencedError "runtime image release is not the approved release")
  return store.putWorkspace workspaceId { workspace with
    releaseTarget := { workspace.releaseTarget with routineAdmission := some true } }

def disableRoutineAdmission (workspaceId : Uuid) (store : PowerDb D) :
    Except RuntimeError (PowerDb D) := do
  let workspace ← orRaise (store.db.workspaces.lookup workspaceId)
    (notFoundError "workspace is unavailable")
  return store.putWorkspace workspaceId { workspace with
    releaseTarget := { workspace.releaseTarget with routineAdmission := some false } }

inductive FleetReply (D : Type) where
  | done
  | service (reply : Reply D)
  | intent (receipt : RuntimeIntentReceipt)

variable [DecidableEq D]

def commitEvent (env : Env D) (settings : PowerSettings) (event : FleetEvent D)
    (store : PowerDb D) : Except RuntimeError (FleetReply D × PowerDb D) :=
  match event with
  | .service call => do
      require (call.operation.isFleetCall = true) (validationError "not a call of a service")
      let (reply, db) ← apply env call store.db
      return (.service reply, { store with db := db })
  | .readiness now context bootId generation startEpoch => do
      let next ← settleRuntimeReadiness now context bootId generation startEpoch store
      return (.done, next)
  | .intent now workspace key intentType receivedAt => do
      let (receipt, next) ←
        requestRuntimeIntent env settings now workspace key intentType receivedAt store
      return (.intent receipt, next)
  | .cleanupIntents now limit => return (.done, cleanupRuntimeIntents now limit store)
  | .publicationWake now workspace => do
      let next ← wakePublicationWorkspace env now workspace store
      return (.done, next)
  | .assign now workspace tenantRef sleeping bundleIsEligible => do
      let next ← assignReadyWorkspace env now workspace tenantRef sleeping bundleIsEligible store
      return (.done, next)
  | .enableRoutineAdmission now workspace releaseDigest generation startEpoch => do
      let next ←
        enableRoutineAdmission env now workspace releaseDigest generation startEpoch store
      return (.done, next)
  | .disableRoutineAdmission workspace => do
      let next ← disableRoutineAdmission workspace store
      return (.done, next)
  | .select _ _ _ _ | .work _ _ _ => return (.done, store)

/-- The worker a query starts, if the query selects the Workspace. -/
def selectWorkspace (settings : PowerSettings) (now : Instant) (worker : Nat) (task : Task)
    (id : Uuid) (fleet : Fleet D) : Except RuntimeError (Fleet D) := do
  let workspace ← orRaise (fleet.store.db.workspaces.lookup id) (doesNotExist "Workspace")
  require (fleet.workers.lookup worker = none) (validationError "the worker is at work")
  require (task.selects settings now id workspace fleet.store.db = true)
    (validationError "the Workspace is not selected")
  return fleet.commit fleet.store (fleet.workers.insert worker ⟨now, task.start id workspace⟩)

def workStep (env : Env D) (settings : PowerSettings) (clock : Instant) (worker : Nat)
    (input : PowerInput) (fleet : Fleet D) : Except RuntimeError (Fleet D) := do
  let current ← orRaise (fleet.workers.lookup worker) (validationError "no such worker")
  let (point, store) ← orRaise (current.advance env settings clock input fleet.store)
    (validationError "the worker is at another point")
  match point with
  | some next => return fleet.commit store (fleet.workers.insert worker ⟨current.now, next⟩)
  | none => return fleet.commit store (fleet.workers.erase worker)

def applyEvent (env : Env D) (settings : PowerSettings) (event : FleetEvent D)
    (fleet : Fleet D) : Except RuntimeError (FleetReply D × Fleet D) :=
  match event with
  | .select now worker task id => do
      let next ← selectWorkspace settings now worker task id fleet
      return (.done, next)
  | .work clock worker input => do
      let next ← workStep env settings clock worker input fleet
      return (.done, next)
  | event => do
      let (reply, store) ← commitEvent env settings event fleet.store
      return (reply, fleet.commit store fleet.workers)

/-- The fleet after a sequence of events; an event that raises changes nothing. -/
def runFleet (env : Env D) (settings : PowerSettings) (fleet : Fleet D)
    (events : List (FleetEvent D)) : Fleet D :=
  Run.run (applyEvent env settings) fleet events

/-! ## A fleet to evaluate -/

def PowerSettings.plain : PowerSettings where
  idleStopEnabled := true
  intentTtl := seconds 120
  intentRetention := seconds 600
  speculativeStartCooldown := seconds 300
  readinessTimeout := seconds 120
  imageUpdatesEnabled := true
  foundryOriginIsValid := true

def plainMachine (state : MachineState) : MachineRecord where
  id := "machine"
  name := "name"
  appName := "app"
  state := state
  volumeId := some "volume"
  ownership := some ⟨0, 1, 1⟩
  images := [("runtime", "sha256")]

/-- The events that provision Workspace 0 at generation 1 with profile 50; its runtime
boots as 7 and reports ready. -/
def provisionedFleet : List (FleetEvent PlainDigest) :=
  [.service ⟨0, .registerWorkspace "tenant"⟩,
    .service ⟨0, .claimOrWait 0 .ensure true⟩,
    .service ⟨0, .casPhase 0 1 2 .volumeReady ⟨some "app", none, none⟩⟩,
    .service ⟨0, .claimOrWait 0 .ensure true⟩,
    .service ⟨0, .casPhase 0 1 4 .machineCreated ⟨some "app", some "volume", none⟩⟩,
    .service ⟨0, .claimOrWait 0 .ensure true⟩,
    .service ⟨0, .casPhase 0 1 6 .machineStarted ⟨none, none, some "machine"⟩⟩,
    .service ⟨0, .claimOrWait 0 .ensure true⟩,
    .service ⟨0, .casPhase 0 1 8 .healthy ⟨none, none, none⟩⟩,
    .service ⟨0, .claimOrWait 0 .ensure true⟩,
    .service ⟨0, .bindIdle 0 1 10 "machine" [("runtime", "sha256")]⟩,
    .readiness 0 ⟨0, 1⟩ 7 1 1,
    .service ⟨0, .ensureRuntimeProfile 0 50 "20" (.obj [])⟩,
    .service ⟨0, .acceptMaterializationReceipt ⟨0, 1⟩ 50 51 0 1 "seed" "ok"⟩]

end Foundry
