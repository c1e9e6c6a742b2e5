import Foundry.Lib.Population
import Foundry.System

/-!
# What a call can do to one Execution

An Execution with the rows it holds is the unit of change: every service call
changes Executions one at a time, and each change rewrites one attempt together
with the statuses above it.  `Move` lists these rewrites, one constructor for each
write of the source, with the checks the service made before it; `Change` adds the
two that are not of this form, a first claim and the bulk stop of a profile.
-/

set_option autoImplicit false

namespace Foundry

variable {D : Type}

/-! ## One rewritten attempt -/

/-- The Execution with one attempt, its own status and its routine rewritten. -/
def Execution.write (execution : Execution D) (number : Nat) (attempt : Attempt D)
    (status : ExecutionStatus) (routine : Option RoutineExecution) : Execution D :=
  { execution.setAttempt number attempt with status := status, routine := routine }

section Write

variable (execution : Execution D) (number other : Nat) (attempt : Attempt D)
  (status : ExecutionStatus) (routine : Option RoutineExecution)

@[simp] theorem write_status :
    (execution.write number attempt status routine).status = status := rfl

@[simp] theorem write_routine :
    (execution.write number attempt status routine).routine = routine := rfl

@[simp] theorem write_workspace :
    (execution.write number attempt status routine).workspace = execution.workspace := rfl

@[simp] theorem write_profile :
    (execution.write number attempt status routine).profile = execution.profile := rfl

theorem attempt?_write :
    (execution.write number attempt status routine).attempt? other =
      if other = number then some attempt else execution.attempt? other :=
  Table.lookup_insert_eq execution.attempts number other attempt

@[simp] theorem attempt?_write_same :
    (execution.write number attempt status routine).attempt? number = some attempt := by
  simp [attempt?_write]

theorem attempt?_write_ne (different : other ≠ number) :
    (execution.write number attempt status routine).attempt? other = execution.attempt? other := by
  simp [attempt?_write, different]

theorem setAttempt_eq_write :
    execution.setAttempt number attempt =
      execution.write number attempt execution.status execution.routine := rfl

@[simp] theorem attempt?_setAttempt_same :
    (execution.setAttempt number attempt).attempt? number = some attempt := by
  simp [setAttempt_eq_write]

@[simp] theorem write_write (later : Attempt D) (status' : ExecutionStatus)
    (routine' : Option RoutineExecution) :
    (execution.write number attempt status routine).write number later status' routine' =
      execution.write number later status' routine' := by
  simp [Execution.write, Execution.setAttempt]

@[simp] theorem setAttempt_write (first : Attempt D) :
    (execution.setAttempt number first).write number attempt status routine =
      execution.write number attempt status routine := by
  simp [setAttempt_eq_write]

end Write

/-! ## Results -/

/-- What `_record_routine_result_once` has checked before it stores a result. -/
structure ResultEvent (routine : RoutineExecution) (attempt : Attempt D)
    (event : ExecutionEvent D) : Prop where
  unfinished : routine.status.isTerminal = false
  unknown : attempt.findEvent event.eventId = none
  free : ∀ stored ∈ attempt.events, stored.sequence ≠ event.sequence
  bounded : event.sequence ≤ maxRoutineTerminalSequence
  kind : event.eventType = .routineResult

/-- A result without an explicit sequence takes the next one. -/
structure NextResult (routine : RoutineExecution) (attempt : Attempt D)
    (event : ExecutionEvent D) : Prop extends ResultEvent routine attempt event where
  next : event.sequence = attempt.latestSequence + 1

structure NewEvent (attempt : Attempt D) (event : ExecutionEvent D) : Prop where
  unknown : attempt.findEvent event.eventId = none
  later : attempt.latestSequence < event.sequence

def EventType.isReported : EventType → Bool
  | .completed | .failed | .routineResult | .routineApprovalRequested => false
  | _ => true

inductive Service where
  | registerWorkspace
  | claimOrWait
  | casPhase
  | bindIdle
  | handleFailure
  | maintainWorkspace
  | confirmMachineStoppedAndFence
  | ensureRuntimeProfile
  | requestProfileCleanup
  | expireProfileCleanup
  | coordinateProfileDeletion
  | createExecution
  | createExecutionIntent
  | reconcileExecutionIntent
  | acceptRoutineDispatch
  | decideRoutineApproval
  | cancelRoutineWait
  | expireRoutineApproval
  | requestRoutineApproval
  | recordRoutineResult
  | recordApprovalDecision
  | acceptRuntimeReadiness
  | acceptMaterializationReceipt
  | acceptCleanupReceipt
  | claimNextExecution
  | renewLease
  | appendRuntimeEvent
  | updateSessionBinding
  | bindRoutineSession
  | compareAndSetSession
  | acknowledgeStopped
  | completeAttempt
  | failAttempt
  | appendRuntimeRoutineResult
  | readRuntimeApproval
  | authorizeAttemptMutation
  | claimEventDeliveries
  | markEventDelivery
  | deferForSequenceGap
  | wakeAttemptSuccessors
  | redriveEventDeliveries
deriving DecidableEq, Repr

def Operation.service : Operation D → Service
  | .registerWorkspace _ => .registerWorkspace
  | .claimOrWait _ _ _ => .claimOrWait
  | .casPhase _ _ _ _ _ => .casPhase
  | .bindIdle _ _ _ _ _ => .bindIdle
  | .handleFailure _ _ _ _ => .handleFailure
  | .maintainWorkspace _ _ => .maintainWorkspace
  | .confirmMachineStoppedAndFence _ _ _ _ => .confirmMachineStoppedAndFence
  | .ensureRuntimeProfile _ _ _ _ => .ensureRuntimeProfile
  | .requestProfileCleanup _ _ _ _ _ => .requestProfileCleanup
  | .expireProfileCleanup _ => .expireProfileCleanup
  | .coordinateProfileDeletion _ _ _ _ _ => .coordinateProfileDeletion
  | .createExecution _ _ _ _ => .createExecution
  | .createExecutionIntent _ => .createExecutionIntent
  | .reconcileExecutionIntent _ _ => .reconcileExecutionIntent
  | .acceptRoutineDispatch _ => .acceptRoutineDispatch
  | .decideRoutineApproval _ => .decideRoutineApproval
  | .cancelRoutineWait _ => .cancelRoutineWait
  | .expireRoutineApproval _ _ => .expireRoutineApproval
  | .requestRoutineApproval _ _ => .requestRoutineApproval
  | .recordRoutineResult _ _ _ => .recordRoutineResult
  | .recordApprovalDecision _ => .recordApprovalDecision
  | .acceptRuntimeReadiness _ _ _ _ => .acceptRuntimeReadiness
  | .acceptMaterializationReceipt _ _ _ _ _ _ _ => .acceptMaterializationReceipt
  | .acceptCleanupReceipt _ _ _ _ _ _ _ _ => .acceptCleanupReceipt
  | .claimNextExecution _ _ _ => .claimNextExecution
  | .renewLease _ _ _ => .renewLease
  | .appendRuntimeEvent _ _ _ _ => .appendRuntimeEvent
  | .updateSessionBinding _ _ _ _ => .updateSessionBinding
  | .bindRoutineSession _ _ _ _ _ => .bindRoutineSession
  | .compareAndSetSession _ _ _ _ => .compareAndSetSession
  | .acknowledgeStopped _ _ _ _ _ => .acknowledgeStopped
  | .completeAttempt _ _ _ _ _ => .completeAttempt
  | .failAttempt _ _ _ _ _ => .failAttempt
  | .appendRuntimeRoutineResult _ _ _ _ => .appendRuntimeRoutineResult
  | .readRuntimeApproval _ _ _ _ => .readRuntimeApproval
  | .authorizeAttemptMutation _ _ _ _ _ => .authorizeAttemptMutation
  | .claimEventDeliveries _ => .claimEventDeliveries
  | .markEventDelivery _ _ _ _ => .markEventDelivery
  | .deferForSequenceGap _ => .deferForSequenceGap
  | .wakeAttemptSuccessors _ => .wakeAttemptSuccessors
  | .redriveEventDeliveries _ _ _ => .redriveEventDeliveries

/-- The Execution and its routine's result event that a call carries, with the
sequence it asks for; `supply` is the next identifier to be drawn. -/
def Operation.explicitResult (supply : Nat) : Operation D → Option (Uuid × Uuid × Nat)
  | .recordRoutineResult execution eventId args =>
    args.eventSequence.map fun sequence => (execution, eventId.getD supply, sequence)
  | .appendRuntimeRoutineResult _ attempt _ request =>
    some (attempt.execution, request.eventId, request.sequence)
  | .failAttempt _ attempt _ _ terminalEvent =>
    some (attempt.execution, (terminalEvent.map TerminalEvent.eventId).getD supply,
      (terminalEvent.map TerminalEvent.sequence).getD maxTerminalSequence)
  | _ => none

def Operation.resultTarget : Operation D → Option Uuid
  | .recordRoutineResult execution _ _ => some execution
  | .appendRuntimeRoutineResult _ attempt _ _ => some attempt.execution
  | .failAttempt _ attempt _ _ _ => some attempt.execution
  | _ => none

def Operation.carriedEvent : Operation D → Option Uuid
  | .appendRuntimeEvent _ _ _ request => some request.eventId
  | .completeAttempt _ _ _ _ terminalEvent => terminalEvent.map TerminalEvent.eventId
  | .failAttempt _ _ _ _ terminalEvent => terminalEvent.map TerminalEvent.eventId
  | .appendRuntimeRoutineResult _ _ _ request => some request.eventId
  | .recordRoutineResult _ eventId _ => eventId
  | _ => none

def Operation.cleanupProfile : Operation D → Option Uuid
  | .acceptCleanupReceipt _ profile _ _ _ _ _ _ => some profile
  | .expireProfileCleanup profile => some profile
  | _ => none

/-! ## The attempt and the routine after the composite writes -/

structure ExpiryEvent (attempt : Attempt D) (event : ExecutionEvent D) : Prop where
  unknown : attempt.findEvent event.eventId = none
  next : event.sequence = attempt.latestSequence + 1
  bounded : event.sequence ≤ maxTerminalSequence
  kind : event.eventType = .failed

def Attempt.endWait (attempt : Attempt D) (now : Instant) (waitEnd : WaitEnd)
    (event : ExecutionEvent D) : Attempt D :=
  let ended := { attempt.endWithResult now .failed event with status := waitEnd.attemptStatus }
  if waitEnd.fencesLease then ended.fenceUnresolved else ended

def RoutineExecution.endWait (routine : RoutineExecution) (request : Uuid) (waitEnd : WaitEnd)
    (event : ExecutionEvent D) : RoutineExecution :=
  { (routine.closeAction request waitEnd).endWithResult .failed event with
    fence := routine.fence + 1
    status := waitEnd.runStatus
    terminalReceipt := some { RoutineReceipt.empty with
      code := some waitEnd.code
      fence := some (routine.fence + 1)
      replacingOccurrenceId := waitEnd.replacingOccurrenceId
      resultEventId := some event.eventId } }

def Attempt.fence (attempt : Attempt D) (lease : Lease D) : Attempt D :=
  { attempt.setLease { lease with state := .fenced } with
    status := if attempt.status.isOpen then .unknown else attempt.status }

def Execution.statusAfterFence (execution : Execution D) (attempt : Attempt D) :
    ExecutionStatus :=
  if attempt.status.isOpen = true ∧ execution.status = .running then
    (if attempt.fenceCheckpointed then .failed else .queued)
  else execution.status

def Attempt.retired (attempt : Attempt D) (now : Instant) (isRoutine : Bool)
    (state : LeaseState) : Attempt D :=
  { attempt.expireLease now isRoutine state with status := .unknown }

/-! ## Moves -/

section Moves

variable [DecidableEq D]

/-- `Move env call db id execution number attempt` relates the attempt to what a
call, started in `db`, may make of it, of the Execution's status and of its
routine. -/
inductive Move (env : Env D) (call : Call D) (db : Db D) (id : Uuid) (execution : Execution D)
    (number : Nat) (attempt : Attempt D) :
    Attempt D → ExecutionStatus → Option RoutineExecution → Prop
  /-- `append_runtime_event`. -/
  | append (event : ExecutionEvent D) (lease : Lease D)
      (service : call.operation.service = .appendRuntimeEvent)
      (carried : call.operation.carriedEvent = some event.eventId)
      (held : attempt.lease = some lease) (active : lease.state = .active)
      (isOpen : attempt.status.isOpen = true) (fresh : NewEvent attempt event)
      (bounded : event.sequence ≤ maxRuntimeEventSequence)
      (kind : event.eventType.isReported = true) :
      Move env call db id execution number attempt
        (attempt.store event) execution.status execution.routine
  /-- `renew_lease`. -/
  | renew (lease : Lease D) (expiresAt : Instant)
      (service : call.operation.service = .renewLease)
      (held : attempt.lease = some lease) (active : lease.state = .active) :
      Move env call db id execution number attempt
        (attempt.setLease { lease with expiresAt := expiresAt })
        execution.status execution.routine
  /-- `authorize_attempt_mutation`. -/
  | mutate (lease : Lease D) (updates : AttemptUpdates) (leaseId : AttemptId) (tokenDigest : D)
      (generation : Nat)
      (asked : call.operation =
        .authorizeAttemptMutation ⟨id, number⟩ leaseId tokenDigest generation updates)
      (held : attempt.lease = some lease) (active : lease.state = .active)
      (allowed : attempt.status.mayBecome (updates.status.getD attempt.status) = true) :
      Move env call db id execution number attempt
        (attempt.mutate updates) execution.status execution.routine
  /-- `update_session_binding`. -/
  | bindSession (lease : Lease D) (requestDigest tokenDigest : D) (sessionId : String)
      (service : call.operation.service = .updateSessionBinding)
      (ordinary : execution.routine = none)
      (held : attempt.lease = some lease) (active : lease.state = .active)
      (first : attempt.sessionRequestDigest = none) :
      Move env call db id execution number attempt
        (attempt.storeSessionReceipt requestDigest tokenDigest sessionId)
        execution.status execution.routine
  /-- `bind_routine_session`. -/
  | bindRoutineSession (routine : RoutineExecution) (lease : Lease D)
      (tokenDigest requestDigest : D) (sessionId : String)
      (service : call.operation.service = .bindRoutineSession)
      (current : execution.routineAt number = some routine)
      (held : attempt.lease = some lease) (active : lease.state = .active)
      (acquisition : RoutineLeaseAcquisition D)
      (bound : lease.acquisitions.find? (fun acquisition =>
        acquisition.current && acquisition.tokenDigest = tokenDigest) = some acquisition)
      (first : acquisition.sessionRequestDigest = none)
      (immutable : ∀ session, routine.hermesSessionId = some session → session = sessionId) :
      Move env call db id execution number attempt
        (attempt.setLease (lease.bindSession tokenDigest requestDigest sessionId))
        execution.status (some { routine with hermesSessionId := some sessionId })
  /-- `acknowledge_stopped` of an ordinary attempt. -/
  | stop (context : RuntimeContext) (leaseToken reason : String) (supplied : Option D)
      (lease : Lease D) (requestDigest tokenDigest : D) (receipt : StoppedReceipt)
      (asked : call.operation =
        .acknowledgeStopped context ⟨id, number⟩ leaseToken reason supplied)
      (ordinary : execution.routineAt number = none)
      (held : attempt.lease = some lease) (unresolved : lease.state.isUnresolved = true)
      (first : attempt.stoppedRequestDigest = none)
      (requeues : receipt.requeued = true → attempt.stopCheckpointed = false) :
      Move env call db id execution number attempt
        (attempt.stopped requestDigest tokenDigest receipt .unknown)
        (if receipt.requeued then .queued else .failed) execution.routine
  /-- `acknowledge_stopped` of a routine's current attempt. -/
  | stopRoutine (context : RuntimeContext) (leaseToken reason : String) (supplied : Option D)
      (routine : RoutineExecution) (lease : Lease D) (event : ExecutionEvent D)
      (requestDigest tokenDigest : D) (receipt : StoppedReceipt)
      (asked : call.operation =
        .acknowledgeStopped context ⟨id, number⟩ leaseToken reason supplied)
      (current : execution.routineAt number = some routine)
      (held : attempt.lease = some lease) (unresolved : lease.state.isUnresolved = true)
      (first : attempt.stoppedRequestDigest = none)
      (result : NextResult routine attempt event) :
      Move env call db id execution number attempt
        ((attempt.endWithResult call.now .failed event).stopped requestDigest tokenDigest receipt
          .failed)
        .failed (some (routine.endWithResult .failed event))
  /-- `complete_attempt`, and `fail_attempt` of an ordinary attempt. -/
  | finish (lease : Lease D) (args : TerminalArgs) (requestDigest leaseDigest : D)
      (receiptId : Uuid) (outcome : Option (Append D))
      (service : call.operation.service = .completeAttempt ∨
        call.operation.service = .failAttempt)
      (ordinary : execution.routine = none)
      (held : attempt.lease = some lease) (active : lease.state = .active)
      (first : attempt.terminalRequestDigest = none)
      (unfinished : attempt.status.isTerminal = false)
      (ends : args.terminalStatus = .succeeded ∨ args.terminalStatus = .failed)
      (requeues : args.retryable = true → ∃ context leaseToken failure,
        call.operation = .failAttempt context ⟨id, number⟩ leaseToken failure none)
      (appends : ∀ event, outcome = some (.appended event) →
        NewEvent attempt event ∧ attempt.status.isOpen = true ∧
          event.sequence ≤ maxTerminalSequence ∧ event.eventType.isEnding = true ∧
          call.operation.carriedEvent = some event.eventId) :
      Move env call db id execution number attempt
        ((Append.applyOption attempt outcome).finished args requestDigest leaseDigest receiptId
          lease)
        args.executionStatus execution.routine
  /-- `record_routine_result`. -/
  | record (routine : RoutineExecution) (outcome : RoutineOutcome) (event : ExecutionEvent D)
      (asked : call.operation.resultTarget = some id)
      (carried : ∀ sent, call.operation.carriedEvent = some sent → event.eventId = sent)
      (current : execution.routineAt number = some routine)
      (result : ResultEvent routine attempt event)
      (sequence : call.operation.explicitResult db.supply =
          some (id, event.eventId, event.sequence) ∨
        event.sequence = attempt.latestSequence + 1)
      (service : call.operation.service = .recordRoutineResult) :
      Move env call db id execution number attempt
        (attempt.endWithResult call.now outcome event)
        outcome.executionStatus (some (routine.endWithResult outcome event))
  /-- The routine result of a runtime, and `fail_attempt` of a routine. -/
  | recordSealed (routine : RoutineExecution) (lease : Lease D) (outcome : RoutineOutcome)
      (event : ExecutionEvent D) (tokenDigest requestDigest : D)
      (receipt : RoutineTerminalReceipt)
      (asked : call.operation.resultTarget = some id)
      (current : execution.routineAt number = some routine)
      (held : attempt.lease = some lease) (active : lease.state = .active)
      (result : ResultEvent routine attempt event)
      (sequence : call.operation.explicitResult db.supply =
        some (id, event.eventId, event.sequence)) :
      Move env call db id execution number attempt
        ((attempt.endWithResult call.now outcome event).sealAcquisition tokenDigest requestDigest
          receipt)
        outcome.executionStatus (some (routine.endWithResult outcome event))
  /-- A runtime's routine result whose event was stored without it. -/
  | sealReplay (routine : RoutineExecution) (lease : Lease D)
      (acquisition : RoutineLeaseAcquisition D) (tokenDigest requestDigest : D)
      (receipt : RoutineTerminalReceipt) (known : ExecutionEvent D)
      (asked : call.operation.resultTarget = some id)
      (current : execution.routineAt number = some routine)
      (held : attempt.lease = some lease) (token : lease.tokenDigest = tokenDigest)
      (found : lease.acquisitionWith tokenDigest = some acquisition)
      (stored : known ∈ attempt.events) (kind : known.eventType = .routineResult)
      (unsealed : lease.state = .active ∨ acquisition.terminalReceipt = none) :
      Move env call db id execution number attempt
        (attempt.sealAcquisition tokenDigest requestDigest receipt)
        execution.status execution.routine
  /-- `request_routine_approval`. -/
  | requestApproval (routine : RoutineExecution) (lease : Lease D)
      (action : RoutineApprovalAction) (event : ExecutionEvent D)
      (service : call.operation.service = .requestRoutineApproval)
      (current : execution.routineAt number = some routine)
      (working : routine.status = .working)
      (leased : attempt.status = .leased ∨ attempt.status = .running)
      (held : attempt.lease = some lease) (unresolved : lease.state.isUnresolved = true)
      (noPending : routine.hasAction .pending = false) (pending : action.status = .pending)
      (fresh : NewEvent attempt event) (bounded : event.sequence ≤ maxRoutineSequence)
      (kind : event.eventType = .routineApprovalRequested) :
      Move env call db id execution number attempt
        { (attempt.store event).setLease (lease.close call.now .released) with
          status := .approvalWaiting }
        execution.status
        (some { routine with
          status := .approvalWaiting, actions := routine.actions ++ [action] })
  /-- An approval granted by `decide_routine_approval`. -/
  | approve (command : RoutineApprovalDecision) (routine : RoutineExecution)
      (action : RoutineApprovalAction) (decisionDigest : String)
      (asked : call.operation = .decideRoutineApproval command)
      (target : command.attempt = ⟨id, number⟩) (granted : command.decision = .approve)
      (current : execution.routineAt number = some routine)
      (listed : action ∈ routine.actions) (pending : action.status = .pending)
      (unexpired : call.now < action.expiresAt) :
      Move env call db id execution number attempt
        { attempt with status := .queued } .running
        (some (routine.authorize action.approvalRequestId decisionDigest))
  /-- A wait ended by rejection, cancellation or expiry. -/
  | endWait (routine : RoutineExecution) (action : RoutineApprovalAction) (waitEnd : WaitEnd)
      (event : ExecutionEvent D)
      (service : call.operation.service = .decideRoutineApproval ∨
        call.operation.service = .cancelRoutineWait ∨
        call.operation.service = .expireRoutineApproval)
      (ending : (∃ digest, waitEnd = .rejected digest) ∨
        (∃ occurrence, waitEnd = .cancelled occurrence) ∨ waitEnd = .expired)
      (current : execution.routineAt number = some routine)
      (listed : action ∈ routine.actions) (pending : action.status = .pending)
      (result : NextResult routine attempt event) :
      Move env call db id execution number attempt
        (attempt.endWait call.now waitEnd event) waitEnd.executionStatus
        (some (routine.endWait action.approvalRequestId waitEnd event))
  /-- `confirm_machine_stopped_and_fence`. -/
  | fence (workspace : Uuid) (source target : Nat) (machineRef : Option String) (lease : Lease D)
      (asked : call.operation =
        .confirmMachineStoppedAndFence workspace source target machineRef)
      (gates : fenceGates workspace source target machineRef db = .ok ())
      (listed : ⟨id, number⟩ ∈ db.staleGenerationLeases workspace source)
      (held : attempt.lease = some lease) (unresolved : lease.state.isUnresolved = true) :
      Move env call db id execution number attempt
        (attempt.fence lease) (execution.statusAfterFence attempt) execution.routine
  /-- An expired lease of ordinary work that may run again. -/
  | requeue (lease : Lease D)
      (service : call.operation.service = .claimNextExecution)
      (ordinary : execution.routineAt number = none)
      (held : attempt.lease = some lease) (unresolved : lease.state.isUnresolved = true)
      (isOpen : attempt.status.isOpen = true)
      (unstarted : hasReplayCheckpoint execution attempt = false) :
      Move env call db id execution number attempt
        { attempt.setLease (lease.expire call.now false .released) with status := .unknown }
        .queued execution.routine
  /-- An expired lease of a routine that may run again. -/
  | requeueRoutine (routine : RoutineExecution) (lease : Lease D)
      (service : call.operation.service = .claimNextExecution)
      (current : execution.routineAt number = some routine)
      (held : attempt.lease = some lease) (unresolved : lease.state.isUnresolved = true)
      (isOpen : attempt.status.isOpen = true)
      (unstarted : hasReplayCheckpoint execution attempt = false) :
      Move env call db id execution number attempt
        { attempt.setLease (lease.expire call.now true .released) with status := .queued }
        .queued (some { routine with status := .queued })
  /-- An expired lease of an attempt that is not open. -/
  | close (lease : Lease D) (isRoutine : Bool) (state : LeaseState)
      (service : call.operation.service = .claimNextExecution)
      (held : attempt.lease = some lease) (unresolved : lease.state.isUnresolved = true)
      (notOpen : attempt.status.isOpen = false) (resolved : state.isUnresolved = false) :
      Move env call db id execution number attempt
        (attempt.expireLease call.now isRoutine state)
        execution.status execution.routine
  /-- An expired lease retired with its attempt. -/
  | retire (lease : Lease D) (isRoutine : Bool) (state : LeaseState) (failure : Option (Append D))
      (service : call.operation.service = .claimNextExecution)
      (ordinary : (execution.routineAt number).all (fun routine => routine.status.isTerminal) = true)
      (held : attempt.lease = some lease) (unresolved : lease.state.isUnresolved = true)
      (isOpen : attempt.status.isOpen = true) (resolved : state.isUnresolved = false)
      (appends : ∀ event, failure = some (.appended event) → ExpiryEvent attempt event) :
      Move env call db id execution number attempt
        ((Append.applyOption attempt failure).retired call.now isRoutine state)
        (if execution.status.isTerminal then execution.status else .failed) execution.routine
  /-- An expired lease retired with its attempt and its routine. -/
  | retireRoutine (routine : RoutineExecution) (lease : Lease D) (state : LeaseState)
      (failure : Option (Append D)) (event : ExecutionEvent D)
      (service : call.operation.service = .claimNextExecution)
      (current : execution.routineAt number = some routine)
      (held : attempt.lease = some lease) (unresolved : lease.state.isUnresolved = true)
      (isOpen : attempt.status.isOpen = true) (resolved : state.isUnresolved = false)
      (appends : ∀ event, failure = some (.appended event) → ExpiryEvent attempt event)
      (result : NextResult routine (Append.applyOption attempt failure) event) :
      Move env call db id execution number attempt
        (((Append.applyOption attempt failure).endWithResult call.now .failed event).retired
          call.now true state)
        .failed
        (some (expireRoutine routine (.appended event) (routine.endWithResult .failed event)))
  /-- The cleanup fence on ordinary work, or on work whose routine has ended. -/
  | cleanup (profile : Uuid) (lease : Lease D) (isRoutine : Bool)
      (asked : call.operation.cleanupProfile = some profile)
      (listed : ⟨id, number⟩ ∈ db.unresolvedLeasesOf profile)
      (ordinary : (execution.routineAt number).all (fun routine => routine.status.isTerminal) = true)
      (held : attempt.lease = some lease) (unresolved : lease.state.isUnresolved = true) :
      Move env call db id execution number attempt
        { attempt.expireLease call.now isRoutine .fenced with
          status := if attempt.status.isOpen then .unknown else attempt.status }
        (if execution.status = .running then .failed else execution.status) execution.routine
  /-- The cleanup fence on a routine that has not ended. -/
  | cleanupRoutine (profile : Uuid) (routine : RoutineExecution) (lease : Lease D)
      (event : ExecutionEvent D)
      (asked : call.operation.cleanupProfile = some profile)
      (listed : ⟨id, number⟩ ∈ db.unresolvedLeasesOf profile)
      (current : execution.routineAt number = some routine)
      (held : attempt.lease = some lease) (unresolved : lease.state.isUnresolved = true)
      (result : NextResult routine attempt event) :
      Move env call db id execution number attempt
        ((attempt.endWithResult call.now .failed event).retired call.now true .fenced)
        .failed
        (some (fenceRoutine routine (.appended event) (routine.endWithResult .failed event)))
  /-- A leg of a routine granted by `claim_next_execution`. -/
  | resume (terms : GrantTerms D) (routine : RoutineExecution) (lease : Lease D)
      (service : call.operation.service = .claimNextExecution)
      (current : execution.routineAt number = some routine)
      (eligible : execution.statusAllowsClaim = true) (queued : attempt.status = .queued)
      (source : attempt.lease = none ∧
          lease = terms.acquire (terms.lease execution.profile (.routine routine.routineId)) ∨
        ∃ former, attempt.lease = some former ∧ former.state.isUnresolved = false ∧
          lease = terms.acquire (terms.renewedLease former)) :
      Move env call db id execution number attempt
        ((attempt.resumed terms).setLease lease) .running
        (some { routine with
          status := .working, generation := terms.generation, currentAttempt := some number })
  /-- A leg the loop gave up, because the attempt's lease was not free. -/
  | abandon (terms : GrantTerms D) (routine : RoutineExecution) (lease : Lease D)
      (service : call.operation.service = .claimNextExecution)
      (current : execution.routineAt number = some routine)
      (eligible : execution.statusAllowsClaim = true) (queued : attempt.status = .queued)
      (held : attempt.lease = some lease) (unresolved : lease.state.isUnresolved = true) :
      Move env call db id execution number attempt
        (attempt.resumed terms) .running
        (some { routine with
          status := .working, generation := terms.generation, currentAttempt := some number })

inductive Change (env : Env D) (call : Call D) (db : Db D) (id : Uuid) (execution : Execution D) :
    Execution D → Prop
  | move (number : Nat) (attempt next : Attempt D) (status : ExecutionStatus)
      (routine : Option RoutineExecution)
      (found : execution.attempt? number = some attempt)
      (move : Move env call db id execution number attempt next status routine) :
      Change env call db id execution (execution.write number next status routine)
  /-- The first leg of ordinary work, or another one after a requeue. -/
  | claim (terms : GrantTerms D)
      (service : call.operation.service = .claimNextExecution)
      (ordinary : execution.routine = none) (queued : execution.status = .queued) :
      Change env call db id execution
        (execution.write execution.attempts.nextNumber
          (Attempt.claimed terms execution.profile) .running none)
  /-- A routine without a current attempt; no such routine is ever stored. -/
  | claimDetached (terms : GrantTerms D) (routine : RoutineExecution)
      (service : call.operation.service = .claimNextExecution)
      (detached : execution.routine = some routine) (unset : routine.currentAttempt = none) :
      Change env call db id execution
        (execution.write execution.attempts.nextNumber
          (((Attempt.fresh .running terms.generation).resumed terms).setLease
            (terms.acquire (terms.lease execution.profile (.routine routine.routineId))))
          .running
          (some { routine with
            status := .working
            generation := terms.generation
            currentAttempt := some execution.attempts.nextNumber }))
  /-- The bulk stop of a profile's ACTIVE leases. -/
  | stopLeases (profile : Uuid)
      (service : call.operation.service = .requestProfileCleanup ∨
        call.operation.service = .coordinateProfileDeletion) :
      Change env call db id execution (execution.stopLeases profile)

inductive Born (call : Call D) : Execution D → Prop
  | ordinary (execution : Execution D)
      (service : call.operation.service = .createExecution ∨
        call.operation.service = .createExecutionIntent)
      (unclaimed : ∀ number, execution.attempt? number = none)
      (noRoutine : execution.routine = none) (queued : execution.status = .queued) :
      Born call execution
  | routine (execution : Execution D) (routine : RoutineExecution) (generation : Nat)
      (service : call.operation.service = .acceptRoutineDispatch)
      (only : ∀ number, execution.attempt? number =
        if number = 1 then some (Attempt.fresh .queued generation) else none)
      (has : execution.routine = some routine) (current : routine.currentAttempt = some 1)
      (unstarted : routine.status = .queued) (noActions : routine.actions = [])
      (queued : execution.status = .queued) :
      Born call execution

end Moves

end Foundry
