import Foundry.Services.Leases

/-!
# Terminal requests

`attempts.py`: completion and failure, with the replay of a stored terminal
request.  A receipt is a bounded JSON object.
-/

set_option autoImplicit false

namespace Foundry

open Raise

variable {D : Type}

structure TerminalReceipt where
  attempt : AttemptId
  status : AttemptStatus
  receiptId : Uuid
  requeued : Bool
  receipt : Option Json
deriving DecidableEq, Repr

/-- `validate_bounded_receipt`. -/
def validateBoundedReceipt (env : Env D) (receipt : Json) : Except RuntimeError Json := do
  match receipt with
  | .obj _ => pure ()
  | _ => throw (validationError "payload must be a JSON object")
  require (env.jsonSize receipt ≤ 8 * 1024)
    (validationError "payload exceeds the 8192 byte limit")
  match receipt.get? "code" with
  | some (.str code) => validateNonempty code "receipt.code" 64
  | _ => throw (validationError
      "receipt.code must be a non-empty string of at most 64 characters")
  match receipt.get? "summary_ref" with
  | none | some .null => pure ()
  | some (.str summary) => validateNonempty summary "receipt.summary_ref" 255
  | some _ => throw (validationError
      "receipt.summary_ref must be a non-empty string of at most 255 characters")
  return receipt

/-- `_terminal_event`: the bounds of a request's terminal event, whose payload
must be of the type the operation ends with. -/
def checkTerminalEvent (env : Env D) (ends : EventType) (event : TerminalEvent) :
    Except RuntimeError Unit := do
  validateNonempty event.streamId "terminal stream_id" 255
  require (1 ≤ event.sequence ∧ event.sequence ≤ maxTerminalSequence)
    (validationError "terminal sequence must be an integer from 1 to 100001")
  require (env.payloadSize event.payload ≤ 16 * 1024)
    (validationError "payload exceeds the 16384 byte limit")
  require (event.payload.eventType = ends)
    (validationError "terminal event payload is invalid")
  match event.payload with
  | .completed runId => validateNonempty runId "terminal run_id" 128
  | .failed code _ => validateNonempty code "terminal code" 64
  | _ => return ()

/-- `_terminal_from_attempt`. -/
def terminalFromAttempt (id : AttemptId) (attempt : Attempt D) :
    Except RuntimeError TerminalReceipt := do
  let receiptId ← orRaise attempt.terminalReceiptId
    (leaseConflictError "terminal receipt is unavailable")
  let value ← orRaise attempt.terminalReceipt
    (leaseConflictError "terminal receipt is unavailable")
  return ⟨id, attempt.status, receiptId, value.get? "retryable" = some (.bool true), some value⟩

structure TerminalArgs where
  canonical : Json
  retryable : Bool
  terminalStatus : AttemptStatus
  terminalEvent : Option TerminalEvent
deriving DecidableEq, Repr

def TerminalArgs.executionStatus (args : TerminalArgs) : ExecutionStatus :=
  if args.retryable then .queued
  else if args.terminalStatus = .succeeded then .succeeded
  else .failed

def Attempt.finished (attempt : Attempt D) (args : TerminalArgs) (requestDigest leaseDigest : D)
    (receiptId : Uuid) (lease : Lease D) : Attempt D :=
  { attempt.setLease { lease with state := .released } with
    status := args.terminalStatus
    terminalRequestDigest := some requestDigest
    terminalLeaseDigest := some leaseDigest
    terminalReceipt := some args.canonical
    terminalReceiptId := some receiptId }

def applyFinish (number : Nat) (args : TerminalArgs) (requestDigest leaseDigest : D)
    (receiptId : Uuid) (attempt : Attempt D) (lease : Lease D) (execution : Execution D) :
    Execution D :=
  { execution.setAttempt number
      (attempt.finished args requestDigest leaseDigest receiptId lease) with
    status := args.executionStatus }

section Operations

variable [DecidableEq D]

/-- The terminal event, if the request carries one, appended under the lease. -/
def appendTerminalEvent (env : Env D) (now : Instant) (workspace : Workspace)
    (profile : RuntimeProfile D) (execution : Execution D) (attempt : Attempt D)
    (leaseDigest : D) (machineGeneration : Nat) (event : Option TerminalEvent) :
    Except RuntimeError (Option (Append D)) :=
  match event with
  | none => return none
  | some event => do
      let outcome ← appendEventOnce env now workspace profile execution attempt leaseDigest
        machineGeneration true ⟨event.eventId, event.streamId, event.sequence, event.payload⟩
      return some outcome

/-- The outbox row of the terminal event; an exact replay confirms its row. -/
def enqueueTerminalEvent (env : Env D) (id : AttemptId) (execution : Execution D)
    (attempt : Attempt D) (outcome : Option (Append D))
    (deliveries : Table DeliveryId ExecutionEventDelivery) :
    Except RuntimeError (Table DeliveryId ExecutionEventDelivery) :=
  match outcome with
  | none => return deliveries
  | some appended => enqueueEventDelivery env id execution attempt appended.event deliveries

def Append.applyOption (attempt : Attempt D) : Option (Append D) → Attempt D
  | none => attempt
  | some outcome => outcome.applyTo attempt

/-- `_finish_attempt`. -/
def finishAttempt (env : Env D) (now : Instant) (context : RuntimeContext) (id : AttemptId)
    (leaseToken : String) (args : TerminalArgs) (db : Db D) :
    Except RuntimeError (TerminalReceipt × Db D) := do
  let leaseDigest ← digestLeaseToken env leaseToken
  let requestDigest := env.digestPayload (.terminal args.canonical args.terminalEvent)
  let workspace ← orRaise (db.workspaces.lookup context.workspace) (doesNotExist "Workspace")
  require (workspace.machineGeneration = context.machineGeneration)
    (fencedError "runtime generation is stale")
  let (execution, attempt) ← orRaise
    ((db.attemptIn context.workspace id).filter fun found => !found.1.isRoutineDispatch)
    (leaseConflictError "attempt is not in this workspace")
  let profile ← orRaise (db.profiles.lookup execution.profile) (doesNotExist "RuntimeProfile")
  require (profileAllowsRuntimeWrite profile)
    (leaseConflictError "profile lifecycle is not active")
  match attempt.terminalRequestDigest with
  | some stored =>
    require (stored = requestDigest ∧ attempt.terminalLeaseDigest = some leaseDigest)
      (idempotencyConflictError "terminal request conflicts with its stored receipt")
    let receipt ← terminalFromAttempt id attempt
    return (receipt, db)
  | none =>
    let lease ← orRaise (attempt.lease.filter fun lease => lease.tokenDigest = leaseDigest)
      (leaseConflictError "lease token does not authorize attempt")
    require (lease.machineGeneration = workspace.machineGeneration)
      (fencedError "lease belongs to a retired generation")
    require (lease.state = .active) (leaseConflictError "lease is no longer active")
    require (now < lease.expiresAt) (leaseConflictError "lease has expired")
    require (args.terminalStatus = .succeeded → args.terminalEvent.isSome →
        attempt.sessionReceipt.isSome ∧ attempt.sessionLeaseDigest = some leaseDigest)
      (leaseConflictError "effective session receipt is required before completion")
    require (attempt.status.isTerminal = false)
      (leaseConflictError "attempt is already terminal")
    let outcome ← appendTerminalEvent env now workspace profile execution attempt leaseDigest
      context.machineGeneration args.terminalEvent
    let deliveries ← enqueueTerminalEvent env id execution attempt outcome db.deliveries
    let finished := applyFinish id.number args requestDigest leaseDigest db.supply
      (Append.applyOption attempt outcome) lease execution
    return (⟨id, args.terminalStatus, db.supply, args.retryable, some args.canonical⟩,
      { db.draw.putExecution id.execution finished with
        approvals := cancelLiveApprovalRequests now id db.approvals
        deliveries := deliveries })

def completeAttempt (env : Env D) (now : Instant) (context : RuntimeContext) (id : AttemptId)
    (leaseToken : String) (receipt : Json) (terminalEvent : Option TerminalEvent) (db : Db D) :
    Except RuntimeError (TerminalReceipt × Db D) := do
  match terminalEvent with
  | none => pure ()
  | some event => checkTerminalEvent env .completed event
  let canonical ← validateBoundedReceipt env receipt
  finishAttempt env now context id leaseToken
    { canonical := canonical
      retryable := false
      terminalStatus := .succeeded
      terminalEvent := terminalEvent } db

/-- The fields of a failure report; a missing receipt is the code alone. -/
structure Failure where
  code : String
  retryable : Bool
  receipt : Option Json
deriving DecidableEq, Repr

def Failure.reported (failure : Failure) : Json :=
  failure.receipt.getD (.obj [("code", .str failure.code)])

def Failure.canonical (failure : Failure) (receipt : Json) : Json :=
  .obj [("code", .str failure.code), ("receipt", receipt),
    ("retryable", .bool failure.retryable)]

def routineFailure (drawn : Uuid) (terminalEvent : Option TerminalEvent) :
    RoutineResultRequest where
  eventId := (terminalEvent.map TerminalEvent.eventId).getD drawn
  sequence := (terminalEvent.map TerminalEvent.sequence).getD maxTerminalSequence
  outcome := .failed
  text := "Routine failed before completion."
  references := []
  delayed := none

def routineFailureReceipt (env : Env D) (result : RoutineTerminalReceipt) : TerminalReceipt where
  attempt := result.attempt
  status := result.status
  receiptId := result.receiptId
  requeued := result.requeued
  receipt := some (.obj [("event_id", .str (env.uuidText result.eventId)),
    ("outcome", .str result.outcome.text)])

/-- `fail_attempt`.  For the current attempt of a routine the failure becomes the
routine's result, under the sequence of the terminal event or the last one. -/
def failAttempt (env : Env D) (now : Instant) (context : RuntimeContext) (id : AttemptId)
    (leaseToken : String) (failure : Failure) (terminalEvent : Option TerminalEvent)
    (db : Db D) : Except RuntimeError (TerminalReceipt × Db D) := do
  require (failure.code ≠ "") (validationError "failure.code is required")
  let receipt ← validateBoundedReceipt env failure.reported
  match (db.attempt? id).bind fun found => found.1.routineAt id.number with
  | some _ =>
    let (result, next) ← appendRuntimeRoutineResult env now context id leaseToken
      (routineFailure db.supply terminalEvent)
      (if terminalEvent.isSome then db else db.draw)
    return (routineFailureReceipt env result, next)
  | none =>
    match terminalEvent with
    | none => pure ()
    | some event => checkTerminalEvent env .failed event
    require (failure.retryable = true → terminalEvent = none)
      (validationError "terminal failure events cannot request automatic replay")
    let canonical := failure.canonical receipt
    if failure.retryable = false then
      let _ ← validateBoundedReceipt env canonical
      finishAttempt env now context id leaseToken
        { canonical := canonical
          retryable := false
          terminalStatus := .failed
          terminalEvent := terminalEvent } db
    else
      finishAttempt env now context id leaseToken
        { canonical := canonical
          retryable := true
          terminalStatus := .failed
          terminalEvent := none } db

end Operations

end Foundry
