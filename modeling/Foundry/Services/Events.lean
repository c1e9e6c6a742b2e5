import Foundry.Services.Approvals

/-!
# Event appends

`events.py`.  An append first decides, on the rows it locked, whether the event
is an exact replay of a stored one or a new event; only then are the tables
written.
-/

set_option autoImplicit false

namespace Foundry

open Raise

variable {D : Type}

def validateNonempty (value name : String) (maxLength : Nat) : Except RuntimeError Unit :=
  require (value ≠ "" ∧ value.length ≤ maxLength)
    (validationError s!"{name} must be a non-empty string of at most {maxLength} characters")

/-- `digest_lease_token` rejects the empty token. -/
def digestLeaseToken (env : Env D) (leaseToken : String) : Except RuntimeError D := do
  require (leaseToken ≠ "") (validationError "lease token must be a non-empty string")
  return env.digestLeaseToken leaseToken

/-- `_safe_code`: the pattern `[a-z][a-z0-9_-]{0,63}`. -/
def isSafeCode (code : String) : Bool :=
  match code.toList with
  | [] => false
  | first :: rest =>
    first.isLower && rest.length ≤ 63 &&
      rest.all fun letter => letter.isLower || letter.isDigit || letter = '_' || letter = '-'

def isLegacyActivity (body : Json) (completed : Bool) : Bool :=
  match body with
  | .obj [("activity_id", .str id), (name, .str value)] =>
    id ≠ "" ∧ id.length ≤ 128 ∧
      (name, value) = if completed then ("status", "completed") else ("kind", "tool")
  | _ => false

/-- `_runtime_event_payload`: what a runtime may append by itself. -/
def runtimeEventPayload (env : Env D) (now : Instant) :
    EventPayload → Except RuntimeError EventPayload
  | .dispatched => return .dispatched
  | .awaitingAction actionKind => do
      require (isSafeCode actionKind) (validationError "awaiting-action payload is invalid")
      return .awaitingAction actionKind
  | .awaitingApproval material => do
      checkApprovalMaterial now material
      return .awaitingApproval material
  | .approvalResolved request outcome => return .approvalResolved request outcome
  | .stopped reason => do
      require (isSafeCode reason) (validationError "stopped event payload is invalid")
      return .stopped reason
  | .messageDelta text => do
      require (text ≠ "") (validationError "message event payload is invalid")
      require (text.utf8ByteSize ≤ 16 * 1024)
        (validationError "message event payload is too large")
      return .messageDelta text
  | .activityStarted body => do
      if isLegacyActivity body false then return .activityStarted body
      let wire ← env.activityWirePayload body false
      return .activityStarted wire
  | .activityCompleted body => do
      if isLegacyActivity body true then return .activityCompleted body
      let wire ← env.activityWirePayload body true
      return .activityCompleted wire
  | .completed _ | .failed _ _ | .routineResult _ | .routineApprovalRequested _ =>
    throw (validationError "event type is not allowed for append")

/-! ## Authorization -/

section Authorization

variable [DecidableEq D]

/-- `_authorize_attempt_mutation` on the rows of the attempt. -/
def authorizeAttempt (now : Instant) (workspace : Workspace) (profile : RuntimeProfile D)
    (execution : Execution D) (attempt : Attempt D) (tokenDigest : D)
    (machineGeneration : Nat) : Except RuntimeError (Lease D) := do
  let lease ← orRaise attempt.lease
    (authorizationError "lease is not authorized for attempt")
  require (lease.profile = execution.profile ∧ profile.workspace = execution.workspace ∧
      lease.tokenDigest = tokenDigest ∧ lease.machineGeneration = machineGeneration ∧
      attempt.machineGeneration = machineGeneration ∧
      workspace.machineGeneration = machineGeneration ∧ lease.state = .active)
    (authorizationError "lease or machine generation is stale")
  require (profileAllowsRuntimeWrite profile)
    (authorizationError "profile lifecycle is not active")
  require (now < lease.expiresAt) (authorizationError "lease has expired")
  return lease

/-- Permit an exact event replay after terminal lease release only. -/
def authorizeReleasedEventReplay (workspace : Workspace) (attempt : Attempt D)
    (tokenDigest : D) (machineGeneration : Nat) : Except RuntimeError Unit :=
  require (attempt.lease.any fun lease =>
      lease.tokenDigest = tokenDigest ∧ lease.state = .released ∧
        lease.machineGeneration = machineGeneration ∧
        workspace.machineGeneration = machineGeneration)
    (authorizationError "lease no longer authorizes this event")

end Authorization

/-! ## The append decision -/

inductive Append (D : Type) where
  | replayed (existing : ExecutionEvent D)
  | appended (event : ExecutionEvent D)

def Append.event : Append D → ExecutionEvent D
  | .replayed existing => existing
  | .appended event => event

def Append.applyTo (attempt : Attempt D) : Append D → Attempt D
  | .replayed _ => attempt
  | .appended event => attempt.store event

/-- `_ensure_exact_replay`. -/
def ensureExactReplay [DecidableEq D] (existing : ExecutionEvent D) (sequence : Nat)
    (eventType : EventType) (payloadDigest : D) (streamId : String) :
    Except RuntimeError Unit :=
  require (existing.sequence = sequence ∧ existing.eventType = eventType ∧
      existing.streamId = streamId ∧ existing.payloadDigest = payloadDigest)
    (conflictError "event identifier already has different content")

structure EventRequest where
  eventId : Uuid
  streamId : String
  sequence : Nat
  payload : EventPayload
deriving DecidableEq, Repr

def EventRequest.toEvent (request : EventRequest) (env : Env D) (now : Instant) :
    ExecutionEvent D where
  eventId := request.eventId
  streamId := request.streamId
  sequence := request.sequence
  payload := request.payload
  payloadDigest := env.digestPayload (.event request.payload)
  createdAt := now

def maximumSequence (allowReservedTerminalSequence : Bool) (eventType : EventType) : Nat :=
  if allowReservedTerminalSequence && eventType.mayUseReservedSequence then
    maxTerminalSequence
  else maxRuntimeEventSequence

/-- `_append_event_once` up to its first write. -/
def appendEventOnce [DecidableEq D] (env : Env D) (now : Instant) (workspace : Workspace)
    (profile : RuntimeProfile D) (execution : Execution D) (attempt : Attempt D)
    (tokenDigest : D) (machineGeneration : Nat) (allowReservedTerminalSequence : Bool)
    (request : EventRequest) : Except RuntimeError (Append D) := do
  let maximum := maximumSequence allowReservedTerminalSequence request.payload.eventType
  require (0 < request.sequence ∧ request.sequence ≤ maximum)
    (validationError s!"sequence must be an integer from 1 to {maximum}")
  require (request.streamId.length ≤ 255)
    (validationError "stream_id must be a non-empty string of at most 255 characters")
  require (env.payloadSize request.payload ≤ 16 * 1024)
    (validationError "payload exceeds the 16384 byte limit")
  match attempt.findEvent request.eventId with
  | some existing =>
    match authorizeAttempt now workspace profile execution attempt tokenDigest
        machineGeneration with
    | .ok _ => pure ()
    | .error _ =>
      authorizeReleasedEventReplay workspace attempt tokenDigest machineGeneration
    ensureExactReplay existing request.sequence request.payload.eventType
      (env.digestPayload (.event request.payload)) request.streamId
    return .replayed existing
  | none =>
    let _ ← authorizeAttempt now workspace profile execution attempt tokenDigest
      machineGeneration
    require attempt.status.isOpen
      (conflictError "terminal attempt cannot append events")
    require (attempt.latestSequence < request.sequence)
      (conflictError "event sequence is not monotonic")
    return .appended (request.toEvent env now)

/-- `enqueue_event_delivery`: one outbox row for an event the contract publishes. -/
def enqueueEventDelivery (env : Env D) (id : AttemptId) (execution : Execution D)
    (attempt : Attempt D) (event : ExecutionEvent D)
    (deliveries : Table DeliveryId ExecutionEventDelivery) :
    Except RuntimeError (Table DeliveryId ExecutionEventDelivery) := do
  match ← env.buildEventEnvelope id execution attempt event with
  | none => return deliveries
  | some envelope =>
    match deliveries.lookup (id, event.eventId) with
    | some existing =>
      require (existing.fingerprint = envelope.fingerprint)
        (conflictError "event delivery identity conflicts with stored state")
      return deliveries
    | none =>
      return deliveries.insert (id, event.eventId) (.enqueued envelope event.createdAt)

def recordEventApprovals (now : Instant) (id : AttemptId) (execution : Execution D)
    (attempt : Attempt D) (workspace : Workspace) (outcome : Append D)
    (approvals : Table Uuid ApprovalRequest) :
    Except RuntimeError (Table Uuid ApprovalRequest) :=
  match outcome with
  | .replayed _ => return approvals
  | .appended event =>
    match event.payload with
    | .awaitingApproval material =>
      recordApprovalRequestFromEvent now id execution attempt workspace material approvals
    | .approvalResolved request resolution =>
      applyApprovalResolution now id request resolution approvals
    | _ => return approvals

/-! ## Operations -/

def appendRuntimeEvent [DecidableEq D] (env : Env D) (now : Instant) (context : RuntimeContext)
    (id : AttemptId) (leaseToken : String) (request : EventRequest) (db : Db D) :
    Except RuntimeError (ExecutionEvent D × Db D) := do
  let payload ← runtimeEventPayload env now request.payload
  let tokenDigest ← digestLeaseToken env leaseToken
  let workspace ← orRaise (db.workspaces.lookup context.workspace) (doesNotExist "Workspace")
  require (workspace.machineGeneration = context.machineGeneration)
    (fencedError "runtime generation is stale")
  let (execution, attempt) ← orRaise (db.attemptIn context.workspace id)
    (leaseConflictError "attempt is not in this workspace")
  let profile ← orRaise (db.profiles.lookup execution.profile) (doesNotExist "RuntimeProfile")
  require (attempt.lease.any fun lease => lease.tokenDigest = tokenDigest)
    (leaseConflictError "lease token does not authorize attempt")
  let outcome ← appendEventOnce env now workspace profile execution attempt tokenDigest
    context.machineGeneration false { request with payload := payload }
  let approvals ← recordEventApprovals now id execution attempt workspace outcome db.approvals
  let deliveries ← enqueueEventDelivery env id execution attempt outcome.event db.deliveries
  match outcome with
  | .replayed existing =>
    return (existing, { db with approvals := approvals, deliveries := deliveries })
  | .appended event =>
    let stored := db.putExecution id.execution
      (execution.setAttempt id.number (attempt.store event))
    return (event, { stored with approvals := approvals, deliveries := deliveries })

def leaseExpiryFailureCode : String := "lease_expired"

/-- `_append_lease_expired_failure` up to its first write: the fixed server-owned
failure for one stale lease. -/
def leaseExpiredFailure [DecidableEq D] (env : Env D) (now : Instant) (id : AttemptId)
    (attempt : Attempt D) : Except RuntimeError (Append D) := do
  let payload := EventPayload.failed leaseExpiryFailureCode false
  match attempt.findEvent (env.leaseExpiryEventId id) with
  | some existing =>
    ensureExactReplay existing existing.sequence .failed
      (env.digestPayload (.event payload)) (env.attemptStream id)
    return .replayed existing
  | none =>
    let sequence := attempt.latestSequence + 1
    require (sequence ≤ maxTerminalSequence)
      (conflictError "terminal event sequence budget is exhausted")
    return .appended
      { eventId := env.leaseExpiryEventId id
        streamId := env.attemptStream id
        sequence := sequence
        payload := payload
        payloadDigest := env.digestPayload (.event payload)
        createdAt := now }

end Foundry
