import Foundry.Services.Events

/-!
# Routine results and approval transitions

The part of `routines.py` that moves one routine run: the result every terminal
path records, and the transitions of an approval action.  Each function takes
the Execution with the rows it holds and returns them changed.
-/

set_option autoImplicit false

namespace Foundry

open Raise

variable {D : Type}

def RoutineOutcome.runStatus : RoutineOutcome → RoutineRunStatus
  | .changed | .unchanged => .succeeded
  | .failed => .failed

def RoutineOutcome.attemptStatus : RoutineOutcome → AttemptStatus
  | .changed | .unchanged => .succeeded
  | .failed => .failed

def RoutineOutcome.executionStatus : RoutineOutcome → ExecutionStatus
  | .changed | .unchanged => .succeeded
  | .failed => .failed

/-- Close a lease: its current acquisition is retired with it. -/
def Lease.close (lease : Lease D) (now : Instant) (state : LeaseState) : Lease D :=
  { lease.retireCurrent now with currentAcquisition := none, state := state }

def Attempt.releaseUnresolved (attempt : Attempt D) (now : Instant) : Attempt D :=
  { attempt with
    lease := attempt.lease.map fun lease =>
      if lease.state.isUnresolved then lease.close now .released else lease }

/-- The bulk `UPDATE` of unresolved leases that leaves their acquisitions alone. -/
def Attempt.fenceUnresolved (attempt : Attempt D) : Attempt D :=
  { attempt with
    lease := attempt.lease.map fun lease =>
      if lease.state.isUnresolved then { lease with state := .fenced } else lease }

def RoutineExecution.cancelAuthorizing (routine : RoutineExecution) : RoutineExecution :=
  { routine with
    actions := routine.actions.map fun action =>
      if action.status = .authorizing then
        { action with
          status := .cancelled
          permissionConsumed := true
          decision := some "system_failure"
          actionState := some .manualReconciliation }
      else action }

def RoutineExecution.updateAction (routine : RoutineExecution) (request : Uuid)
    (change : RoutineApprovalAction → RoutineApprovalAction) : RoutineExecution :=
  { routine with
    actions := routine.actions.map fun action =>
      if action.approvalRequestId = request then change action else action }

/-! ## The result -/

def resultPayload (id : AttemptId) (routine : RoutineExecution) (outcome : RoutineOutcome)
    (text : String) (references : List Json) (delayed : Option Bool) :
    RoutineResultPayload where
  routineId := routine.routineId
  occurrenceId := routine.occurrenceId
  runId := routine.runId
  routineRevision := routine.routineRevision
  titleSnapshot := routine.titleSnapshot
  attempt := id
  generation := routine.generation
  mainConversationId := routine.mainConversationId
  runConversationId := routine.runConversationId
  outcome := outcome
  text := text
  references := references
  delayed := delayed.getD routine.delayed

/-- The arguments of `_record_routine_result_once`; without a sequence the next
free one is taken. -/
structure RoutineResultArgs where
  eventId : Uuid
  eventSequence : Option Nat
  outcome : RoutineOutcome
  text : String
  references : List Json
  delayed : Option Bool
deriving DecidableEq, Repr

def Attempt.endWithResult (attempt : Attempt D) (now : Instant) (outcome : RoutineOutcome)
    (event : ExecutionEvent D) : Attempt D :=
  { (attempt.store event).releaseUnresolved now with status := outcome.attemptStatus }

def RoutineExecution.endWithResult (routine : RoutineExecution) (outcome : RoutineOutcome)
    (event : ExecutionEvent D) : RoutineExecution :=
  let finished := { routine with
    status := outcome.runStatus
    terminalReceipt := some { RoutineReceipt.empty with
      outcome := some outcome, eventId := some event.eventId } }
  if outcome = .failed then finished.cancelAuthorizing else finished

def applyRoutineResult (now : Instant) (outcome : RoutineOutcome) (number : Nat)
    (event : ExecutionEvent D) (routine : RoutineExecution) (attempt : Attempt D)
    (execution : Execution D) : Execution D :=
  { execution.setAttempt number (attempt.endWithResult now outcome event) with
    status := outcome.executionStatus
    routine := some (routine.endWithResult outcome event) }

/-- `_record_routine_result_once`.  An explicit sequence only has to be free. -/
def recordRoutineResultOnce [DecidableEq D] (env : Env D) (now : Instant)
    (executionId : Uuid) (args : RoutineResultArgs) (execution : Execution D) :
    Except RuntimeError (Append D × Execution D) := do
  let routine ← orRaise execution.routine (doesNotExist "RoutineExecution")
  let number ← orRaise routine.currentAttempt
    (conflictError "routine has no current attempt")
  let attempt ← orRaise (execution.attempt? number) (doesNotExist "Attempt")
  let sequence := args.eventSequence.getD (attempt.latestSequence + 1)
  require (1 ≤ sequence ∧ sequence ≤ maxRoutineTerminalSequence)
    (validationError "routine result event sequence is invalid")
  let payload := resultPayload ⟨executionId, number⟩ routine args.outcome args.text
    args.references args.delayed
  require (env.routineResultIsValid payload args.eventId sequence now)
    (validationError "routine result is invalid")
  match attempt.findEvent args.eventId with
  | some existing =>
    require (existing.sequence = sequence ∧ existing.payload = .routineResult payload)
      (conflictError "routine result replay conflicts")
    return (.replayed existing, execution)
  | none =>
    require (routine.status.isTerminal = false) (conflictError "routine run is terminal")
    require (attempt.events.all fun stored => stored.sequence ≠ sequence)
      (integrityError "runtime_event_attempt_sequence_unique")
    let event : ExecutionEvent D :=
      { eventId := args.eventId
        streamId := env.routineStream routine.runId
        sequence := sequence
        payload := .routineResult payload
        payloadDigest := env.digestPayload (.event (.routineResult payload))
        createdAt := now }
    return (.appended event,
      applyRoutineResult now args.outcome number event routine attempt execution)

/-- `_record_terminal_failure_result`; `eventId` is the `uuid4` drawn for it. -/
def recordTerminalFailureResult [DecidableEq D] (env : Env D) (now : Instant)
    (executionId eventId : Uuid) (text : String) (execution : Execution D) :
    Except RuntimeError (Append D × Execution D) :=
  recordRoutineResultOnce env now executionId
    { eventId := eventId
      eventSequence := none
      outcome := .failed
      text := text
      references := []
      delayed := none }
    execution

/-- The outbox row of a newly recorded event; the rows are those before the
caller's own status writes. -/
def enqueueAppended (env : Env D) (id : AttemptId) (execution : Execution D)
    (attempt : Attempt D) (outcome : Append D)
    (deliveries : Table DeliveryId ExecutionEventDelivery) :
    Except RuntimeError (Table DeliveryId ExecutionEventDelivery) :=
  match outcome with
  | .replayed _ => return deliveries
  | .appended event => enqueueEventDelivery env id execution attempt event deliveries

/-! ## Approval transitions -/

def RoutineExecution.authorize (routine : RoutineExecution) (request : Uuid)
    (decisionDigest : String) : RoutineExecution :=
  { routine.updateAction request fun action =>
      { action with
        status := .authorizing
        permissionConsumed := true
        decision := some "approve"
        decisionDigest := some decisionDigest
        actionState := some .preDispatch } with
    status := .working }

/-- The routine, its attempt and the Execution after an approval was granted. -/
def approveAction (number : Nat) (request : Uuid) (decisionDigest : String)
    (routine : RoutineExecution) (attempt : Attempt D) (execution : Execution D) :
    Execution D :=
  { execution.setAttempt number { attempt with status := .queued } with
    status := .running
    routine := some (routine.authorize request decisionDigest) }

structure WaitEnd where
  actionStatus : RoutineApprovalStatus
  permissionConsumed : Bool
  /-- `none` leaves the stored decision as it is. -/
  decision : Option String
  decisionDigest : Option String
  actionState : Option RoutineActionState
  text : String
  code : String
  replacingOccurrenceId : Option Uuid
  runStatus : RoutineRunStatus
  executionStatus : ExecutionStatus
  attemptStatus : AttemptStatus
  fencesLease : Bool

def WaitEnd.rejected (decisionDigest : String) : WaitEnd where
  actionStatus := .rejected
  permissionConsumed := true
  decision := some "reject"
  decisionDigest := some decisionDigest
  actionState := none
  text := "Routine approval was rejected before execution."
  code := "APPROVAL_REJECTED"
  replacingOccurrenceId := none
  runStatus := .cancelled
  executionStatus := .cancelled
  attemptStatus := .cancelled
  fencesLease := false

def WaitEnd.cancelled (replacingOccurrenceId : Uuid) : WaitEnd where
  actionStatus := .cancelled
  permissionConsumed := true
  decision := some "cancel"
  decisionDigest := none
  actionState := none
  text := "Routine wait was cancelled before execution."
  code := "WAIT_CANCELLED"
  replacingOccurrenceId := some replacingOccurrenceId
  runStatus := .cancelled
  executionStatus := .cancelled
  attemptStatus := .cancelled
  fencesLease := true

def WaitEnd.expired : WaitEnd where
  actionStatus := .expired
  permissionConsumed := false
  decision := none
  decisionDigest := none
  actionState := some .preDispatch
  text := "Routine approval expired before execution."
  code := "APPROVAL_EXPIRED"
  replacingOccurrenceId := none
  runStatus := .expired
  executionStatus := .failed
  attemptStatus := .failed
  fencesLease := true

def RoutineExecution.closeAction (routine : RoutineExecution) (request : Uuid)
    (waitEnd : WaitEnd) : RoutineExecution :=
  routine.updateAction request fun action =>
    { action with
      status := waitEnd.actionStatus
      permissionConsumed := waitEnd.permissionConsumed
      decision := waitEnd.decision <|> action.decision
      decisionDigest := waitEnd.decisionDigest <|> action.decisionDigest
      actionState := waitEnd.actionState <|> action.actionState }

/-- End a wait: close the action, record the failure result, then store the
specific terminal state over the result's. -/
def endWait [DecidableEq D] (env : Env D) (now : Instant) (executionId eventId : Uuid)
    (number : Nat) (request : Uuid) (waitEnd : WaitEnd) (routine : RoutineExecution)
    (execution : Execution D) : Except RuntimeError (Append D × Execution D) := do
  let (outcome, failed) ← recordTerminalFailureResult env now executionId eventId waitEnd.text
    { execution with routine := some (routine.closeAction request waitEnd) }
  let recorded ← orRaise failed.routine (doesNotExist "RoutineExecution")
  let attempt ← orRaise (failed.attempt? number) (doesNotExist "Attempt")
  let ended := { attempt with status := waitEnd.attemptStatus }
  return (outcome,
    { failed.setAttempt number (if waitEnd.fencesLease then ended.fenceUnresolved else ended) with
      status := waitEnd.executionStatus
      routine := some { recorded with
        fence := routine.fence + 1
        status := waitEnd.runStatus
        terminalReceipt := some { RoutineReceipt.empty with
          code := some waitEnd.code
          fence := some (routine.fence + 1)
          replacingOccurrenceId := waitEnd.replacingOccurrenceId
          resultEventId := some outcome.event.eventId } } })

end Foundry
