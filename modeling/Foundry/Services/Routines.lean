import Foundry.Services.Contracts
import Foundry.Services.RoutineResults

/-!
# Routine commands

The operations of `routines.py`: dispatch, approval requests and decisions,
cancellation, expiry, and the two ways a result arrives.
-/

set_option autoImplicit false

namespace Foundry

open Raise

variable {D : Type}

structure RoutineScope where
  workspaceId : Uuid
  ownerUserId : Uuid
  allyId : Uuid
  cloudBindingId : Uuid
deriving DecidableEq, Repr

/-- `RoutineDispatch`, after its wire contract. -/
structure RoutineDispatch where
  scope : RoutineScope
  commandId : Uuid
  idempotencyKey : Uuid
  routineId : Uuid
  routineRevision : Nat
  occurrenceId : Uuid
  runId : Uuid
  schedule : Json
  delayed : Bool
  occurrenceDisposition : String
  mainConversationId : Uuid
  runConversationId : Uuid
  executionPrompt : String
  titleSnapshot : String
  fingerprint : String
deriving DecidableEq, Repr

structure RoutineApprovalDecision where
  scope : RoutineScope
  commandId : Uuid
  idempotencyKey : Uuid
  approvalRequestId : Uuid
  actionAttemptId : Uuid
  runId : Uuid
  attempt : AttemptId
  generation : Nat
  decision : RoutineDecision
  fingerprint : String
deriving DecidableEq, Repr

structure RoutineCancelWait where
  scope : RoutineScope
  commandId : Uuid
  idempotencyKey : Uuid
  approvalRequestId : Uuid
  runId : Uuid
  attempt : AttemptId
  generation : Nat
  replacingOccurrenceId : Uuid
  fingerprint : String
deriving DecidableEq, Repr

/-- `RoutineCommand`. -/
inductive RoutineCommand where
  | dispatch (command : RoutineDispatch)
  | decision (command : RoutineApprovalDecision)
  | cancel (command : RoutineCancelWait)
deriving DecidableEq, Repr

namespace RoutineCommand

def scope : RoutineCommand → RoutineScope
  | .dispatch command => command.scope
  | .decision command => command.scope
  | .cancel command => command.scope

def commandId : RoutineCommand → Uuid
  | .dispatch command => command.commandId
  | .decision command => command.commandId
  | .cancel command => command.commandId

def idempotencyKey : RoutineCommand → Uuid
  | .dispatch command => command.idempotencyKey
  | .decision command => command.idempotencyKey
  | .cancel command => command.idempotencyKey

def kind : RoutineCommand → RoutineCommandKind
  | .dispatch _ => .dispatch
  | .decision _ => .approvalDecision
  | .cancel _ => .cancelWait

def fingerprint : RoutineCommand → String
  | .dispatch command => command.fingerprint
  | .decision command => command.fingerprint
  | .cancel command => command.fingerprint

end RoutineCommand

/-! ## Scope and command receipts -/

/-- `_resolve_scope`: the Workspace by identifier, else by tenant reference. -/
def resolveScope (env : Env D) (scope : RoutineScope) (db : Db D) :
    Except RuntimeError ((Uuid × Workspace) × (Uuid × RuntimeProfile D)) := do
  let byId := (db.workspaces.lookup scope.workspaceId).map
    fun workspace => (scope.workspaceId, workspace)
  let workspace ← orRaise
    (byId <|> db.workspaceByTenant (env.uuidText scope.workspaceId))
    (notFoundError "routine workspace is unavailable")
  let profileId := env.profileIdOf scope.cloudBindingId
  let profile ← orRaise
    ((db.profiles.lookup profileId).filter fun profile =>
      profile.workspace = workspace.1 ∧ profile.allyRef = env.uuidText scope.allyId)
    (notFoundError "routine binding is unavailable")
  require (profile.cleanupRequiresQuiescence = false)
    (fencedError "profile deletion is in progress")
  return (workspace, (profileId, profile))

/-- `_ensure_main_binding`: the bindings after the profile's main conversation is
reserved. -/
def ensureMainBinding (profileId : Uuid) (conversationRef : String)
    (bindings : Table Uuid ConversationBinding) :
    Except RuntimeError (Table Uuid ConversationBinding) :=
  match bindings.lookup profileId with
  | some binding => do
      require (binding.cloudConversationRef = conversationRef)
        (conflictError "main conversation binding is different")
      return bindings
  | none => do
      require (bindings.rows.all fun row => row.2.cloudConversationRef ≠ conversationRef)
        (conflictError "main conversation binding conflicts")
      return bindings.insert profileId ⟨conversationRef, none⟩

def commandIsKnown (commandId : Uuid) (db : Db D) : Bool :=
  db.commandReceipts.rows.any fun row => row.2.commandId = commandId

/-- The stored answer of a command with this key, if it is the same command. -/
def replayedCommand (workspace key : Uuid) (kind : RoutineCommandKind) (fingerprint : String)
    (db : Db D) : Except RuntimeError (Option RoutineCommandResponse) :=
  match db.commandReceipts.lookup (workspace, key) with
  | none => return none
  | some stored => do
      require (stored.kind = kind ∧ stored.fingerprint = fingerprint)
        (idempotencyConflictError "routine command replay conflicts")
      return some stored.response

def storeCommandReceipt (workspace key commandId : Uuid) (kind : RoutineCommandKind)
    (fingerprint : String) (response : RoutineCommandResponse) (db : Db D) : Db D :=
  { db with
    commandReceipts := db.commandReceipts.insert (workspace, key)
      ⟨commandId, kind, fingerprint, response⟩ }

/-! ## Dispatch -/

def dispatchPayload (env : Env D) (command : RoutineDispatch) : Json :=
  .obj
    [("cloud_conversation_ref", .str (env.uuidText command.mainConversationId)),
     ("delayed", .bool command.delayed),
     ("execution_prompt", .str command.executionPrompt),
     ("kind", .str "routine"),
     ("main_conversation_id", .str (env.uuidText command.mainConversationId)),
     ("message", .str command.executionPrompt),
     ("occurrence_disposition", .str command.occurrenceDisposition),
     ("occurrence_id", .str (env.uuidText command.occurrenceId)),
     ("routine_dispatch_fingerprint", .str command.fingerprint),
     ("routine_id", .str (env.uuidText command.routineId)),
     ("routine_revision", .int command.routineRevision),
     ("run_conversation_id", .str (env.uuidText command.runConversationId)),
     ("run_id", .str (env.uuidText command.runId)),
     ("schedule", command.schedule),
     ("title_snapshot", .str command.titleSnapshot)]

/-- The Execution, its first attempt and its routine as the dispatch creates them. -/
def dispatchedExecution (env : Env D) (now : Instant) (workspaceId profileId : Uuid)
    (workspace : Workspace) (command : RoutineDispatch) : Execution D where
  workspace := workspaceId
  profile := profileId
  idempotencyKey := env.uuidText command.idempotencyKey
  inputPayload := dispatchPayload env command
  payloadDigest := env.digestPayload (.execution (dispatchPayload env command))
  commandId := none
  commandFingerprint := ""
  cloudWorkspaceId := some command.scope.workspaceId
  cloudAllyId := none
  cloudConversationId := none
  cloudMessageId := none
  cloudBindingId := none
  conversationTurnOrdinal := none
  status := .queued
  createdAt := now
  attempts := (∅ : Table Nat (Attempt D)).insert 1
    (Attempt.fresh .queued workspace.machineGeneration)
  routine := some
    { routineId := command.routineId
      routineRevision := command.routineRevision
      occurrenceId := command.occurrenceId
      runId := command.runId
      delayed := command.delayed
      mainConversationId := command.mainConversationId
      runConversationId := command.runConversationId
      hermesSessionId := none
      cloudBindingId := command.scope.cloudBindingId
      ownerUserId := command.scope.ownerUserId
      allyId := command.scope.allyId
      titleSnapshot := command.titleSnapshot
      generation := workspace.machineGeneration
      fence := 0
      status := .queued
      currentAttempt := some 1
      dispatchFingerprint := command.fingerprint
      dispatchIssuedAt := now
      terminalReceipt := none
      actions := [] }

/-- The unique constraints a dispatched Execution could violate. -/
def dispatchIdentityConflicts (env : Env D) (workspaceId profileId : Uuid)
    (command : RoutineDispatch) (db : Db D) : Bool :=
  db.executions.rows.any fun row =>
    (row.2.workspace = workspaceId ∧
        row.2.idempotencyKey = env.uuidText command.idempotencyKey) ∨
      row.2.routine.any fun routine =>
        (row.2.workspace = workspaceId ∧
            (routine.runId = command.runId ∨
              routine.runConversationId = command.runConversationId)) ∨
          (row.2.profile = profileId ∧ routine.routineId = command.routineId ∧
            routine.status.isTerminal = false)

def acceptRoutineDispatch (env : Env D) (now : Instant) (command : RoutineDispatch) (db : Db D) :
    Except RuntimeError (RoutineCommandResponse × Db D) := do
  let ((workspaceId, workspace), (profileId, _)) ← resolveScope env command.scope db
  requireRoutineAdmission env now false workspace
  let bindings ← ensureMainBinding profileId (env.uuidText command.mainConversationId) db.bindings
  require (command.runConversationId ≠ command.mainConversationId)
    (validationError "routine run conversation must be fresh")
  let replay ← replayedCommand workspaceId command.idempotencyKey .dispatch command.fingerprint db
  match replay with
  | some response => return (response, { db with bindings := bindings })
  | none =>
    require (commandIsKnown command.commandId db = false)
      (idempotencyConflictError "command identity already exists")
    let occurrence := db.executions.rows.find? fun row =>
      row.2.workspace = workspaceId ∧
        row.2.routine.any fun routine => routine.occurrenceId = command.occurrenceId
    match occurrence with
    | some (executionId, existing) =>
      let routine ← orRaise existing.routine (doesNotExist "RoutineExecution")
      require (routine.dispatchFingerprint = command.fingerprint)
        (idempotencyConflictError "occurrence identity conflicts")
      let response := RoutineCommandResponse.dispatched routine.occurrenceId routine.runId
        ⟨executionId, 1⟩ routine.generation routine.allyId routine.dispatchIssuedAt
      return (response,
        storeCommandReceipt workspaceId command.idempotencyKey command.commandId .dispatch
          command.fingerprint response { db with bindings := bindings })
    | none =>
      require (dispatchIdentityConflicts env workspaceId profileId command db = false)
        (idempotencyConflictError "routine dispatch identity conflicts")
      let executionId := db.supply
      let woken ← requestExecutionWakeLocked env now (db.supply + 1) workspace
      let response := RoutineCommandResponse.dispatched command.occurrenceId command.runId
        ⟨executionId, 1⟩ workspace.machineGeneration command.scope.allyId now
      let created := { db.draw.draw with
        bindings := bindings
        workspaces := db.workspaces.insert workspaceId woken
        executions := db.executions.insert executionId
          (dispatchedExecution env now workspaceId profileId workspace command) }
      return (response,
        storeCommandReceipt workspaceId command.idempotencyKey command.commandId .dispatch
          command.fingerprint response created)

/-! ## Approval requests -/

structure RoutineApprovalRequest where
  actionAttemptId : Uuid
  approvalRequestId : Uuid
  actionDigest : String
  providerIdempotencyKey : String
  continuation : Json
  eventId : Uuid
  eventSequence : Option Nat
  expiresAt : Instant
deriving DecidableEq, Repr

/-- Every approval action with the Execution of its routine. -/
def Db.routineActions (db : Db D) : List (Uuid × RoutineApprovalAction) :=
  db.executions.rows.flatMap fun row =>
    (row.2.routine.map RoutineExecution.actions).getD [] |>.map fun action => (row.1, action)

def applyApprovalRequest (now : Instant) (number : Nat) (action : RoutineApprovalAction)
    (event : ExecutionEvent D) (routine : RoutineExecution) (attempt : Attempt D)
    (lease : Lease D) (execution : Execution D) : Execution D :=
  { execution.setAttempt number
      { (attempt.store event).setLease (lease.close now .released) with
        status := .approvalWaiting } with
    routine := some { routine with
      status := .approvalWaiting
      actions := routine.actions ++ [action] } }

/-- Persist one approval checkpoint and publish its request event. -/
def requestRoutineApproval (env : Env D) (now : Instant) (executionId : Uuid)
    (request : RoutineApprovalRequest) (db : Db D) :
    Except RuntimeError (ExecutionEvent D × Db D) := do
  require (now < request.expiresAt)
    (validationError "approval expiry must be after creation")
  require (isSha256Text request.actionDigest)
    (validationError "action_digest must be a lowercase SHA-256 digest")
  require (request.providerIdempotencyKey ≠ "" ∧ request.providerIdempotencyKey.length ≤ 255)
    (validationError "provider_idempotency_key is invalid")
  require (env.jsonSize request.continuation ≤ 8 * 1024)
    (validationError "payload exceeds the 8192 byte limit")
  require (request.eventSequence.all fun sequence => 1 ≤ sequence ∧ sequence ≤ maxRoutineSequence)
    (validationError "approval event sequence is invalid")
  let execution ← orRaise (db.executions.lookup executionId) (doesNotExist "RoutineExecution")
  let routine ← orRaise execution.routine (doesNotExist "RoutineExecution")
  let number ← orRaise routine.currentAttempt
    (conflictError "routine has no current attempt")
  let attempt ← orRaise (execution.attempt? number) (doesNotExist "Attempt")
  let existing :=
    (db.routineActions.find? fun row => row.2.actionAttemptId = request.actionAttemptId) <|>
      db.routineActions.find? fun row => row.2.approvalRequestId = request.approvalRequestId
  match existing with
  | some (owner, action) =>
    require (owner = executionId ∧ action.attempt = number ∧
        action.approvalRequestId = request.approvalRequestId ∧
        action.actionAttemptId = request.actionAttemptId ∧
        action.actionDigest = request.actionDigest ∧
        action.providerIdempotencyKey = request.providerIdempotencyKey ∧
        action.continuation = request.continuation)
      (idempotencyConflictError "approval request identity conflicts")
    let eventId ← orRaise action.createdEventId
      (conflictError "approval request event is unavailable")
    let event ← orRaise (attempt.findEvent eventId) (doesNotExist "ExecutionEvent")
    return (event, db)
  | none =>
    require (routine.status = .working ∧
        (attempt.status = .leased ∨ attempt.status = .running))
      (conflictError "routine is not eligible for approval")
    let lease ← orRaise (attempt.lease.filter fun lease => lease.state.isUnresolved)
      (leaseConflictError "routine lease is unavailable")
    require (lease.scopeKey = .routine routine.routineId)
      (leaseConflictError "routine lease scope is stale")
    require (routine.hasAction .pending = false)
      (integrityError "runtime_routine_pending_approval_unique")
    let sequence := request.eventSequence.getD (attempt.latestSequence + 1)
    require (1 ≤ sequence ∧ sequence ≤ maxRoutineSequence)
      (conflictError "approval event sequence budget is exhausted")
    require (attempt.latestSequence < sequence)
      (conflictError "approval event sequence is not monotonic")
    require (attempt.findEvent request.eventId = none)
      (conflictError "approval event identity conflicts")
    let payload := EventPayload.routineApprovalRequested
      { approvalRequestId := request.approvalRequestId
        actionAttemptId := request.actionAttemptId
        runId := routine.runId
        attempt := ⟨executionId, number⟩
        generation := routine.generation
        createdAt := now
        expiresAt := request.expiresAt
        actionDigest := request.actionDigest
        providerIdempotencyKey := request.providerIdempotencyKey }
    let event : ExecutionEvent D :=
      { eventId := request.eventId
        streamId := env.routineStream routine.runId
        sequence := sequence
        payload := payload
        payloadDigest := env.digestPayload (.event payload)
        createdAt := now }
    let action : RoutineApprovalAction :=
      { approvalRequestId := request.approvalRequestId
        actionAttemptId := request.actionAttemptId
        attempt := number
        generation := routine.generation
        status := .pending
        permissionConsumed := false
        actionDigest := request.actionDigest
        providerIdempotencyKey := request.providerIdempotencyKey
        createdAt := now
        expiresAt := request.expiresAt
        actionState := some .preDispatch
        continuation := request.continuation
        decision := none
        decisionDigest := none
        createdEventId := some request.eventId
        createdEventSequence := some sequence }
    let waiting := applyApprovalRequest now number action event routine attempt lease execution
    let deliveries ← enqueueEventDelivery env ⟨executionId, number⟩ execution attempt event
      db.deliveries
    return (event, { db.putExecution executionId waiting with deliveries := deliveries })

/-! ## Decisions, cancellation and expiry -/

section Commands

variable [DecidableEq D]

/-- The routine of a decision or cancellation, found by run and current attempt. -/
def findRoutineRun (workspaceId runId : Uuid) (id : AttemptId) (db : Db D) :
    Option (Execution D × Attempt D × RoutineExecution) :=
  (db.attemptIn workspaceId id).bind fun found =>
    ((found.1.routineAt id.number).filter fun routine => routine.runId = runId).map
      fun routine => (found.1, found.2, routine)

def decideRoutineApproval (env : Env D) (now : Instant) (command : RoutineApprovalDecision)
    (db : Db D) : Except RuntimeError (RoutineCommandResponse × Db D) := do
  let ((workspaceId, workspace), _) ← resolveScope env command.scope db
  let replay ← replayedCommand workspaceId command.idempotencyKey .approvalDecision
    command.fingerprint db
  match replay with
  | some response => return (response, db)
  | none =>
    require (commandIsKnown command.commandId db = false)
      (idempotencyConflictError "command identity already exists")
    let (execution, attempt, routine) ← orRaise
      (findRoutineRun workspaceId command.runId command.attempt db)
      (notFoundError "routine run is unavailable")
    require (routine.generation = command.generation ∧
        routine.cloudBindingId = command.scope.cloudBindingId)
      (fencedError "routine identity or generation is stale")
    let action ← orRaise
      (routine.actions.find? fun action =>
        action.approvalRequestId = command.approvalRequestId ∧
          action.actionAttemptId = command.actionAttemptId)
      (notFoundError "approval request is unavailable")
    require (action.generation = command.generation)
      (fencedError "approval generation is stale")
    require (action.status = .pending)
      (conflictError "approval request is no longer pending")
    let decisionDigest := (command.fingerprint.splitOn ":").getLastD ""
    let commit (response : RoutineCommandResponse) (committed : Db D) :=
      storeCommandReceipt workspaceId command.idempotencyKey command.commandId
        .approvalDecision command.fingerprint response committed
    if action.expiresAt ≤ now then
      let response := RoutineCommandResponse.decided "APPROVAL_EXPIRED" .expired .expired false
        .preDispatch command.scope.allyId now
      let (outcome, ended) ← endWait env now command.attempt.execution db.supply
        command.attempt.number command.approvalRequestId .expired routine execution
      let deliveries ← enqueueAppended env command.attempt execution attempt outcome
        db.deliveries
      let stored := db.draw.putExecution command.attempt.execution ended
      return (response, commit response { stored with deliveries := deliveries })
    else if command.decision = .reject then
      let response := RoutineCommandResponse.decided "APPROVAL_REJECTED" .rejected .cancelled
        true (action.actionState.getD .preDispatch) command.scope.allyId now
      let (outcome, ended) ← endWait env now command.attempt.execution db.supply
        command.attempt.number command.approvalRequestId (.rejected decisionDigest) routine
        execution
      let deliveries ← enqueueAppended env command.attempt execution attempt outcome
        db.deliveries
      let stored := db.draw.putExecution command.attempt.execution ended
      return (response, commit response { stored with deliveries := deliveries })
    else
      let response := RoutineCommandResponse.decided "APPROVAL_AUTHORIZED" .authorizing .working
        true .preDispatch command.scope.allyId now
      let approved := approveAction command.attempt.number command.approvalRequestId
        decisionDigest routine attempt execution
      let woken ← requestExecutionWakeLocked env now db.supply workspace
      let stored := (db.draw.putExecution command.attempt.execution approved).putWorkspace
        workspaceId woken
      return (response, commit response stored)

def cancelRoutineWait (env : Env D) (now : Instant) (command : RoutineCancelWait) (db : Db D) :
    Except RuntimeError (RoutineCommandResponse × Db D) := do
  let ((workspaceId, _), _) ← resolveScope env command.scope db
  let replay ← replayedCommand workspaceId command.idempotencyKey .cancelWait
    command.fingerprint db
  match replay with
  | some response => return (response, db)
  | none =>
    require (commandIsKnown command.commandId db = false)
      (idempotencyConflictError "command identity already exists")
    let (execution, attempt, routine) ← orRaise
      (findRoutineRun workspaceId command.runId command.attempt db)
      (notFoundError "routine run is unavailable")
    require (routine.generation = command.generation ∧
        routine.cloudBindingId = command.scope.cloudBindingId)
      (fencedError "routine identity or generation is stale")
    let action ← orRaise
      (routine.actions.find? fun action => action.approvalRequestId = command.approvalRequestId)
      (notFoundError "approval request is unavailable")
    let commit (response : RoutineCommandResponse) (committed : Db D) :=
      storeCommandReceipt workspaceId command.idempotencyKey command.commandId .cancelWait
        command.fingerprint response committed
    if action.status = .authorizing then
      let response := RoutineCommandResponse.cancelled "APPROVAL_ALREADY_AUTHORIZING"
        command.attempt.execution routine.fence action.status
      return (response, commit response db)
    else if action.status ≠ .pending then
      let response := RoutineCommandResponse.cancelled "APPROVAL_ALREADY_TERMINAL"
        command.attempt.execution routine.fence action.status
      return (response, commit response db)
    else
      let (outcome, ended) ← endWait env now command.attempt.execution db.supply
        command.attempt.number command.approvalRequestId
        (.cancelled command.replacingOccurrenceId) routine execution
      let deliveries ← enqueueAppended env command.attempt execution attempt outcome
        db.deliveries
      let response := RoutineCommandResponse.cancelled "WAIT_CANCELLED"
        command.attempt.execution (routine.fence + 1) .cancelled
      let stored := db.draw.putExecution command.attempt.execution ended
      return (response, commit response { stored with deliveries := deliveries })

/-- One pass of the loop of `expire_routine_approvals`, which is a transaction of
its own: whether the action was expired. -/
def expireRoutineApproval (env : Env D) (now : Instant) (executionId request : Uuid)
    (db : Db D) : Except RuntimeError (Bool × Db D) := do
  let pending := (db.executions.lookup executionId).bind fun execution =>
    execution.routine.bind fun routine =>
      routine.currentAttempt.bind fun number =>
        (execution.attempt? number).bind fun attempt =>
          (routine.actions.find? fun action =>
            action.approvalRequestId = request ∧ action.status = .pending ∧
              action.expiresAt ≤ now).map fun _ => (execution, routine, number, attempt)
  match pending with
  | none => return (false, db)
  | some (execution, routine, number, attempt) =>
    let (outcome, ended) ← endWait env now executionId db.supply number request .expired
      routine execution
    let deliveries ← enqueueAppended env ⟨executionId, number⟩ execution attempt outcome
      db.deliveries
    return (true, { db.draw.putExecution executionId ended with deliveries := deliveries })

/-! ## Results -/

/-- `record_routine_result`; a missing event id is drawn. -/
def recordRoutineResult (env : Env D) (now : Instant) (executionId : Uuid)
    (eventId : Option Uuid) (args : RoutineResultArgs) (db : Db D) :
    Except RuntimeError (ExecutionEvent D × Db D) := do
  let execution ← orRaise (db.executions.lookup executionId) (doesNotExist "RoutineExecution")
  let (outcome, finished) ← recordRoutineResultOnce env now executionId
    { args with eventId := eventId.getD db.supply } execution
  match outcome with
  | .replayed existing => return (existing, db)
  | .appended event =>
    let number ← orRaise (execution.routine.bind RoutineExecution.currentAttempt)
      (doesNotExist "Attempt")
    let attempt ← orRaise (execution.attempt? number) (doesNotExist "Attempt")
    let deliveries ← enqueueEventDelivery env ⟨executionId, number⟩ execution attempt event
      db.deliveries
    return (event,
      { db.draw.putExecution executionId finished with deliveries := deliveries })

/-- Store the terminal request on the acquisition that authorized it. -/
def Attempt.sealAcquisition (attempt : Attempt D) (tokenDigest requestDigest : D)
    (receipt : RoutineTerminalReceipt) : Attempt D :=
  { attempt with
    lease := attempt.lease.map fun lease =>
      { lease with
        acquisitions := lease.acquisitions.map fun acquisition =>
          if acquisition.tokenDigest = tokenDigest then
            { acquisition with
              terminalRequestDigest := some requestDigest
              terminalReceipt := some receipt }
          else acquisition } }

/-- The runtime's routine result: replayed after release, or recorded under an
ACTIVE unexpired lease. -/
def appendRuntimeRoutineResult (env : Env D) (now : Instant) (context : RuntimeContext)
    (id : AttemptId) (leaseToken : String) (request : RoutineResultRequest) (db : Db D) :
    Except RuntimeError (RoutineTerminalReceipt × Db D) := do
  let tokenDigest ← digestLeaseToken env leaseToken
  let workspace ← orRaise (db.workspaces.lookup context.workspace) (doesNotExist "Workspace")
  require (workspace.machineGeneration = context.machineGeneration)
    (fencedError "runtime generation is stale")
  let (execution, attempt) ← orRaise (db.attemptIn context.workspace id)
    (leaseConflictError "routine lease scope is stale")
  let routine ← orRaise (execution.routineAt id.number)
    (leaseConflictError "routine lease scope is stale")
  let lease ← orRaise (attempt.lease.filter fun lease => lease.tokenDigest = tokenDigest)
    (leaseConflictError "routine lease is stale")
  require (lease.scopeKey = .routine routine.routineId)
    (leaseConflictError "routine lease scope is stale")
  let requestDigest := env.digestPayload (.routineResult request)
  let acquisition ← orRaise (lease.acquisitionWith tokenDigest)
    (leaseConflictError "routine lease authority is unavailable")
  let replayAfterRelease :=
    lease.state = .released ∧ (attempt.findEvent request.eventId).isSome
  require (replayAfterRelease ∨ (lease.state = .active ∧ now < lease.expiresAt))
    (leaseConflictError "routine lease is stale")
  match if replayAfterRelease then acquisition.terminalReceipt else none with
  | some receipt =>
    require (acquisition.terminalRequestDigest = some requestDigest)
      (conflictError "routine result replay conflicts")
    return (receipt, db)
  | none =>
    let (outcome, finished) ← recordRoutineResultOnce env now id.execution
      { eventId := request.eventId
        eventSequence := some request.sequence
        outcome := request.outcome
        text := request.text
        references := request.references
        delayed := request.delayed }
      execution
    let deliveries ← enqueueAppended env id execution attempt outcome db.deliveries
    let receipt : RoutineTerminalReceipt :=
      { attempt := id
        status := request.outcome.attemptStatus
        receiptId := db.supply
        requeued := false
        outcome := request.outcome
        eventId := outcome.event.eventId }
    let ended ← orRaise (finished.attempt? id.number) (doesNotExist "Attempt")
    let sealedExecution := finished.setAttempt id.number
      (ended.sealAcquisition tokenDigest requestDigest receipt)
    return (receipt,
      { db.draw.putExecution id.execution sealedExecution with deliveries := deliveries })

end Commands

end Foundry
