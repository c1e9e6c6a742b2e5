import Foundry.Services.Releases

/-!
# Power workers

The programs of `runtime_power.py` and `runtime_releases.py`, and what
`activate_fly_workspace` does to the power of a Workspace, cut where they
can be interrupted: before every transaction and every provider call.  A `Point` is the
place a worker has reached, with the local variables the rest of its program reads.  A worker
handles one Workspace; a batch is as many workers as it has Workspaces.
-/

set_option autoImplicit false

namespace Foundry

open Raise

variable {D : Type}

/-- What `release_on_wake` returns to when the Machine turns out to be current. -/
structure WakeFrame where
  claim : OperationClaim
  workspace : Workspace
  machine : MachineRecord
deriving DecidableEq, Repr

inductive Point where
  -- `_process_wake_claim`
  | claimRequested (id : Uuid)
  | readForWake (claim : OperationClaim)
  | inspectForWake (claim : OperationClaim) (workspace : Workspace)
  | releaseOnWake (frame : WakeFrame)
  | prepareStart (frame : WakeFrame)
  | startMachine (claim : OperationClaim) (workspace : Workspace)
  | inspectStarted (claim : OperationClaim) (workspace : Workspace)
  | markAwaiting (claim : OperationClaim)
  -- `_process_stop_claim`
  | claimIdle (id : Uuid)
  | readForStop (claim : OperationClaim)
  | inspectForStop (claim : OperationClaim) (workspace : Workspace)
  | prepareStop (claim : OperationClaim) (workspace : Workspace) (isStopped : Bool)
  | stopMachine (claim : OperationClaim) (workspace : Workspace)
  | inspectStopped (claim : OperationClaim) (workspace : Workspace)
  | finalizeStop (claim : OperationClaim)
  -- `_recover_expired_operations`; `selected` is the operation at the time of the query,
  -- which the program does not read
  | readExpired (id : Uuid) (selected : Option Uuid)
  | clearExpired (id : Uuid) (selected : Option Uuid)
  | inspectExpired (claim : OperationClaim) (workspace : Workspace)
  | recoverStartAsAwaiting (claim : OperationClaim)
  | recoverStartAsRequested (claim : OperationClaim)
  | recoverStopAsFinished (claim : OperationClaim)
  | recoverStopAsClaimed (claim : OperationClaim)
  -- `_expire_unacknowledged_readiness` and `_mark_operation_failed`
  | expireReadiness (id : Uuid)
  | markFailed (claim : OperationClaim) (retryExecution clearKeepWarm : Bool)
  -- `reconcile_workspace_release`, alone or on a wake
  | readForRelease (id : Uuid) (wake : Option WakeFrame)
  | inspectForRelease (id : Uuid) (wake : Option WakeFrame) (workspace : Workspace)
      (images : Images)
  | recordCurrent (id : Uuid) (wake : Option WakeFrame) (machine : MachineRecord)
      (images : Images)
  | claimRelease (id : Uuid) (wake : Option WakeFrame) (machine : Option MachineRecord)
      (images : Images)
  | replaceMachine (id : Uuid) (wake : Option WakeFrame) (token : Uuid)
  | releaseClaim (id : Uuid) (wake : Option WakeFrame) (token : Uuid) (raised : Raised)
  -- `activate_fly_workspace`, on a Workspace that has a Machine
  | claimActivation (id : Uuid)
  | activating (id token : Uuid)
deriving DecidableEq, Repr

/-- `now` is the instant the worker observed when it began its pass. -/
structure PowerWorker where
  now : Instant
  point : Point
deriving DecidableEq, Repr

/-- What comes back to a worker: nothing from a transaction, the answer from a call, or
the Machine an activation found without a ready runtime. -/
inductive PowerInput where
  | go
  | inspected (answer : Except Raised (Option MachineRecord))
  | called (answer : Except Raised Unit)
  | observed (binding : ObservedBinding)

/-- The point after a release attempt that ended without an exception. -/
def Point.afterRelease (wake : Option WakeFrame) (isCurrent : Bool) : Option Point :=
  wake.map fun frame =>
    if isCurrent then .prepareStart frame
    else .markFailed frame.claim Raised.conflict.isRetried false

/-- An exception of a release attempt fails the wake it served, if it served one. -/
def Point.afterReleaseRaised (wake : Option WakeFrame) (raised : Raised) : Option Point :=
  wake.map fun frame => .markFailed frame.claim raised.isRetried false

/-- An exception in `_process_stop_claim`. -/
def Point.stopRaised (claim : OperationClaim) (raised : Raised) : Point :=
  .markFailed claim false (raised ≠ .conflict)

/-- The branch of `_process_wake_claim` after the start was prepared. -/
def Point.afterPreparedStart (frame : WakeFrame) : Point :=
  match frame.machine.state with
  | .started => .markAwaiting frame.claim
  | .stopped => .startMachine frame.claim frame.workspace
  | .created | .unknown => .markFailed frame.claim true false
  | .destroyed => .markFailed frame.claim false false

/-- The branch of `_process_stop_claim` after the Machine was inspected. -/
def Point.afterInspectedStop (claim : OperationClaim) (workspace : Workspace)
    (machine : MachineRecord) : Point :=
  match machine.state with
  | .stopped => .prepareStop claim workspace true
  | .started => .prepareStop claim workspace false
  | .created | .destroyed | .unknown => .markFailed claim false true

/-- The branch of `_recover_expired_operations` after the Machine was inspected. -/
def Point.afterInspectedExpired (claim : OperationClaim) (workspace : Workspace)
    (machine : MachineRecord) : Point :=
  match workspace.runtimeOperationState, machine.state with
  | .starting, .started => .recoverStartAsAwaiting claim
  | .starting, .stopped => .recoverStartAsRequested claim
  | .stopping, .stopped => .recoverStopAsFinished claim
  | .stopping, .started => .recoverStopAsClaimed claim
  | .starting, .created | .starting, .unknown => .markFailed claim true false
  | _, _ => .markFailed claim false false

/-- The branch of `release_on_wake`, with the images it records if the Machine has them. -/
def Point.afterWakeObserved (env : Env D) (settings : PowerSettings) (frame : WakeFrame) :
    Point × Option Images :=
  if settings.imageUpdatesEnabled = false then (.prepareStart frame, none)
  else
    match releaseImages env frame.workspace with
    | .error raised => (.markFailed frame.claim raised.isRetried false, none)
    | .ok images =>
      if images = [] ∨ frame.machine.state ≠ .stopped then (.prepareStart frame, none)
      else if frame.machine.images = images then (.prepareStart frame, some images)
      else (.readForRelease frame.claim.workspace (some frame), none)

/-- The start of `reconcile_workspace_release`. -/
def Point.afterReleaseRead (env : Env D) (id : Uuid) (wake : Option WakeFrame)
    (workspace : Workspace) : Option Point :=
  match releaseImages env workspace with
  | .error raised => Point.afterReleaseRaised wake raised
  | .ok images =>
    if workspace.releaseTarget.pin.isSome then some (.claimRelease id wake none images)
    else if images = [] then Point.afterReleaseRaised wake .other
    else some (.inspectForRelease id wake workspace images)

def Workspace.expiredClaim (id : Uuid) (workspace : Workspace) : Option OperationClaim :=
  workspace.runtimeOperationId.bind fun operationId =>
    workspace.activationClaimToken.map fun token =>
      ⟨id, operationId, token, workspace.runtimeOperationTrigger⟩

/-- One step of a worker: the point it reaches, or `none` when its program ends, and the
committed state.  `clock` is the time of day, for the code that reads it afresh. -/
def PowerWorker.advance (env : Env D) (settings : PowerSettings) (clock : Instant)
    (input : PowerInput) (worker : PowerWorker) (store : PowerDb D) :
    Option (Option Point × PowerDb D) :=
  let now := worker.now
  match worker.point, input with
  | .claimRequested id, .go =>
    let claimed := claimRequestedOperation env now id store
    some (claimed.1.map .readForWake, claimed.2)
  | .readForWake claim, .go =>
    match store.db.workspaces.lookup claim.workspace with
    | none => some (some (.markFailed claim false false), store)
    | some workspace => some (some (.inspectForWake claim workspace), store)
  | .inspectForWake claim workspace, .inspected answer =>
    match (inspectMachine workspace answer).bind
        (verifyMachineBinding claim.workspace workspace) with
    | .error raised => some (some (.markFailed claim raised.isRetried false), store)
    | .ok machine => some (some (.releaseOnWake ⟨claim, workspace, machine⟩), store)
  | .releaseOnWake frame, .go =>
    match Point.afterWakeObserved env settings frame with
    | (next, none) => some (some next, store)
    | (next, some images) =>
      some (some next, recordAppliedImages frame.claim.workspace frame.machine images store)
  | .prepareStart frame, .go =>
    match prepareStart now frame.claim store with
    | .error _ => some (some (.markFailed frame.claim false false), store)
    | .ok prepared => some (some (.afterPreparedStart frame), prepared)
  | .startMachine claim workspace, .called answer =>
    match answer with
    | .ok _ => some (some (.markAwaiting claim), store)
    | .error raised =>
      if raised.isUncertain then some (some (.inspectStarted claim workspace), store)
      else some (some (.markFailed claim raised.isRetried false), store)
  | .inspectStarted claim workspace, .inspected answer =>
    match inspectMachine workspace answer with
    | .error raised => some (some (.markFailed claim raised.isRetried false), store)
    | .ok machine =>
      if machine.any fun record => record.state = .started then
        some (some (.markAwaiting claim), store)
      else some (some (.markFailed claim true false), store)
  | .markAwaiting claim, .go =>
    match markAwaitingReadiness claim store with
    | .error _ => some (some (.markFailed claim false false), store)
    | .ok marked => some (none, marked)
  | .claimIdle id, .go =>
    let claimed := claimIdleOperation settings now id store
    some (claimed.1.map .readForStop, claimed.2)
  | .readForStop claim, .go =>
    match store.db.workspaces.lookup claim.workspace with
    | none => some (some (.markFailed claim false true), store)
    | some workspace => some (some (.inspectForStop claim workspace), store)
  | .inspectForStop claim workspace, .inspected answer =>
    match (inspectMachine workspace answer).bind
        (verifyMachineBinding claim.workspace workspace) with
    | .error raised => some (some (.stopRaised claim raised), store)
    | .ok machine => some (some (.afterInspectedStop claim workspace machine), store)
  | .prepareStop claim workspace isStopped, .go =>
    match prepareStop settings now claim store with
    | .error _ => some (some (.stopRaised claim .conflict), store)
    | .ok prepared =>
      some (some (if isStopped then .finalizeStop claim else .stopMachine claim workspace),
        prepared)
  | .stopMachine claim workspace, .called answer =>
    match answer with
    | .ok _ => some (some (.finalizeStop claim), store)
    | .error raised =>
      if raised.isUncertain then some (some (.inspectStopped claim workspace), store)
      else some (some (.stopRaised claim raised), store)
  | .inspectStopped claim workspace, .inspected answer =>
    match inspectMachine workspace answer with
    | .error raised => some (some (.stopRaised claim raised), store)
    | .ok machine =>
      if machine.any fun record => record.state = .stopped then
        some (some (.finalizeStop claim), store)
      else some (some (.markFailed claim false true), store)
  | .finalizeStop claim, .go =>
    match finalizeStop claim store with
    | .error _ => some (some (.stopRaised claim .conflict), store)
    | .ok finalized => some (none, finalized)
  | .readExpired id selected, .go =>
    match store.db.workspaces.lookup id with
    | none => some (none, store)
    | some workspace =>
      match workspace.expiredClaim id with
      | none => some (some (.clearExpired id selected), store)
      | some claim => some (some (.inspectExpired claim workspace), store)
  | .clearExpired id _, .go => some (none, clearExpiredOperation env now id store)
  | .inspectExpired claim workspace, .inspected answer =>
    match (inspectMachine workspace answer).bind
        (verifyMachineBinding claim.workspace workspace) with
    | .error raised => some (some (.markFailed claim raised.isRetried false), store)
    | .ok machine => some (some (.afterInspectedExpired claim workspace machine), store)
  | .recoverStartAsAwaiting claim, .go => some (none, recoverStartAsAwaiting claim store)
  | .recoverStartAsRequested claim, .go => some (none, recoverStartAsRequested claim store)
  | .recoverStopAsFinished claim, .go =>
    match recoverStopAsFinished claim store with
    | .error _ => some (some (.markFailed claim false false), store)
    | .ok finished => some (none, finished)
  | .recoverStopAsClaimed claim, .go =>
    let claimed := recoverStopAsClaimed now claim store
    some (claimed.1.map .readForStop, claimed.2)
  | .expireReadiness id, .go =>
    some (none, expireUnacknowledgedReadiness env settings now id store)
  | .markFailed claim retryExecution clearKeepWarm, .go =>
    some (none, markOperationFailed env now claim retryExecution clearKeepWarm store)
  | .readForRelease id wake, .go =>
    match store.db.workspaces.lookup id with
    | none => some (Point.afterReleaseRaised wake .other, store)
    | some workspace => some (Point.afterReleaseRead env id wake workspace, store)
  | .inspectForRelease id wake workspace images, .inspected answer =>
    match (inspectMachine workspace answer).bind (verifyMachineBinding id workspace) with
    | .error raised => some (Point.afterReleaseRaised wake raised, store)
    | .ok machine =>
      if machine.images = images then some (some (.recordCurrent id wake machine images), store)
      else some (some (.claimRelease id wake (some machine) images), store)
  | .recordCurrent id wake machine images, .go =>
    some (Point.afterRelease wake true, recordAppliedImages id machine images store)
  | .claimRelease id wake machine images, .go =>
    match claimRelease settings clock id machine images (wake.map WakeFrame.claim) store with
    | .error raised => some (Point.afterReleaseRaised wake raised, store)
    | .ok (none, _) => some (Point.afterRelease wake false, store)
    | .ok (some token, claimed) => some (some (.replaceMachine id wake token), claimed)
  -- The replacement runs as calls of its own; here only how it ended.
  | .replaceMachine id wake token, .called answer =>
    match answer with
    | .ok _ => some (none, store)
    | .error raised => some (some (.releaseClaim id wake token raised), store)
  | .releaseClaim id wake token raised, .go =>
    some (Point.afterReleaseRaised wake raised, releaseActivationClaim id token store)
  | .claimActivation id, .go =>
    match claimActivation clock id store with
    | .error _ => some (none, store)
    | .ok (token, claimed) => some (token.map fun token => .activating id token, claimed)
  | .activating id token, .observed binding =>
    match requestActivationRecoveryWake env clock id token binding store with
    | .error _ => some (some (.activating id token), store)
    | .ok (_, woken) => some (some (.activating id token), woken)
  | .activating id token, .go => some (none, releaseActivationClaim id token store)
  | _, _ => none

end Foundry
