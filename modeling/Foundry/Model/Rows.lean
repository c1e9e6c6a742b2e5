import Foundry.Lib.Table
import Foundry.Model.Payloads

/-!
# Rows of the runtime database

The tables of `runtime/models.py`, restricted to the columns the modelled
services read or write.  Rows that live and die with one Execution are kept
inside it: its attempts by number, the one lease of each attempt with that
lease's acquisitions, the events of each attempt in the order they were stored,
and the routine with its approval actions.  A foreign key is then containment
and cannot dangle.

`D` is the type of SHA-256 digests.
-/

set_option autoImplicit false

namespace Foundry

structure ExecutionEvent (D : Type) where
  eventId : Uuid
  streamId : String
  sequence : Nat
  payload : EventPayload
  payloadDigest : D
  createdAt : Instant
deriving DecidableEq

def ExecutionEvent.eventType {D : Type} (event : ExecutionEvent D) : EventType :=
  event.payload.eventType

structure RoutineLeaseAcquisition (D : Type) where
  ordinal : Nat
  claimId : Uuid
  tokenDigest : D
  machineGeneration : Nat
  current : Bool
  retiredAt : Option Instant
  sessionRequestDigest : Option D
  stopRequestDigest : Option D
  terminalRequestDigest : Option D
  sessionReceipt : Option String
  stopReceipt : Option Json
  terminalReceipt : Option RoutineTerminalReceipt
deriving DecidableEq

structure Lease (D : Type) where
  profile : Uuid
  scopeKey : ScopeKey
  tokenDigest : D
  claimId : Option Uuid
  expiresAt : Instant
  machineGeneration : Nat
  state : LeaseState
  currentAcquisition : Option Nat
  acquisitions : List (RoutineLeaseAcquisition D)
deriving DecidableEq

/-- `session_receipt` is the session id it carries. -/
structure Attempt (D : Type) where
  status : AttemptStatus
  machineGeneration : Nat
  claimId : Option Uuid
  claimedAt : Option Instant
  terminalRequestDigest : Option D
  terminalLeaseDigest : Option D
  terminalReceipt : Option Json
  terminalReceiptId : Option Uuid
  stoppedRequestDigest : Option D
  stoppedLeaseDigest : Option D
  stoppedReceipt : Option StoppedReceipt
  sessionRequestDigest : Option D
  sessionLeaseDigest : Option D
  sessionReceipt : Option String
  lease : Option (Lease D)
  events : List (ExecutionEvent D)
deriving DecidableEq

def Attempt.fresh {D : Type} (status : AttemptStatus) (machineGeneration : Nat) : Attempt D where
  status := status
  machineGeneration := machineGeneration
  claimId := none
  claimedAt := none
  terminalRequestDigest := none
  terminalLeaseDigest := none
  terminalReceipt := none
  terminalReceiptId := none
  stoppedRequestDigest := none
  stoppedLeaseDigest := none
  stoppedReceipt := none
  sessionRequestDigest := none
  sessionLeaseDigest := none
  sessionReceipt := none
  lease := none
  events := []

structure RoutineApprovalAction where
  approvalRequestId : Uuid
  actionAttemptId : Uuid
  attempt : Nat
  generation : Nat
  status : RoutineApprovalStatus
  permissionConsumed : Bool
  actionDigest : String
  providerIdempotencyKey : String
  createdAt : Instant
  expiresAt : Instant
  actionState : Option RoutineActionState
  continuation : Json
  decision : Option String
  decisionDigest : Option String
  createdEventId : Option Uuid
  createdEventSequence : Option Nat
deriving DecidableEq

structure RoutineExecution where
  routineId : Uuid
  routineRevision : Nat
  occurrenceId : Uuid
  runId : Uuid
  delayed : Bool
  mainConversationId : Uuid
  runConversationId : Uuid
  hermesSessionId : Option String
  cloudBindingId : Uuid
  ownerUserId : Uuid
  allyId : Uuid
  titleSnapshot : String
  generation : Nat
  fence : Nat
  status : RoutineRunStatus
  currentAttempt : Option Nat
  dispatchFingerprint : String
  dispatchIssuedAt : Instant
  terminalReceipt : Option RoutineReceipt
  actions : List RoutineApprovalAction
deriving DecidableEq

structure Execution (D : Type) where
  workspace : Uuid
  profile : Uuid
  idempotencyKey : String
  inputPayload : Json
  payloadDigest : D
  commandId : Option Uuid
  commandFingerprint : String
  cloudWorkspaceId : Option Uuid
  cloudAllyId : Option Uuid
  cloudConversationId : Option Uuid
  cloudMessageId : Option Uuid
  cloudBindingId : Option Uuid
  conversationTurnOrdinal : Option Nat
  status : ExecutionStatus
  createdAt : Instant
  attempts : Table Nat (Attempt D)
  routine : Option RoutineExecution
deriving DecidableEq

/-- `source_kind == "routine_dispatch"`: only the dispatch writes that kind, and
it creates the routine in the same transaction. -/
def Execution.isRoutineDispatch {D : Type} (execution : Execution D) : Bool :=
  execution.routine.isSome

/-! ## Rows outside an Execution -/

abbrev Images := List (String × String)

/-- A pending release: the images it was pinned to, the generation they replace, and
the attempts made so far. -/
structure ReleasePin where
  images : Images
  sourceGeneration : Nat
  attempts : Nat
deriving DecidableEq, Repr

/-- `Workspace.release_target`: the pending release, if any, and the `enabled` flag
of the routine admission gate, if there is one. -/
structure ReleaseTarget where
  pin : Option ReleasePin
  routineAdmission : Option Bool
deriving DecidableEq, Repr

def ReleaseTarget.images (target : ReleaseTarget) : Option Images :=
  target.pin.map ReleasePin.images

structure Workspace where
  tenantRef : String
  flyAppRef : Option String
  volumeRef : Option String
  machineRef : Option String
  machineGeneration : Nat
  appliedImages : Images
  releaseTarget : ReleaseTarget
  runtimeOperationId : Option Uuid
  runtimeOperationState : RuntimeOperationState
  runtimeOperationTrigger : Option RuntimeOperationTrigger
  runtimeOperationRequestedAt : Option Instant
  runtimeOperationRetryCount : Nat
  runtimeStartEpoch : Nat
  activityRevision : Nat
  readyGeneration : Option Nat
  readyStartEpoch : Option Nat
  readyBootId : Option Uuid
  readyAt : Option Instant
  runtimeLastSeenAt : Option Instant
  speculativeKeepWarmUntil : Option Instant
  lastSpeculativeStartAt : Option Instant
  provisioningId : Option Uuid
  provisioningKind : Option WorkspaceProvisioningKind
  provisioningPhase : WorkspaceProvisioningPhase
  provisioningSourceGeneration : Option Nat
  provisioningTargetGeneration : Option Nat
  provisioningPreviousMachineRef : Option String
  provisioningClaimToken : Option Uuid
  provisioningClaimExpiresAt : Option Instant
  activationClaimToken : Option Uuid
  activationClaimExpiresAt : Option Instant
deriving DecidableEq, Repr

def Workspace.registered (tenantRef : String) : Workspace where
  tenantRef := tenantRef
  flyAppRef := none
  volumeRef := none
  machineRef := none
  machineGeneration := 0
  appliedImages := []
  releaseTarget := ⟨none, none⟩
  runtimeOperationId := none
  runtimeOperationState := .idle
  runtimeOperationTrigger := none
  runtimeOperationRequestedAt := none
  runtimeOperationRetryCount := 0
  runtimeStartEpoch := 0
  activityRevision := 0
  readyGeneration := none
  readyStartEpoch := none
  readyBootId := none
  readyAt := none
  runtimeLastSeenAt := none
  speculativeKeepWarmUntil := none
  lastSpeculativeStartAt := none
  provisioningId := none
  provisioningKind := none
  provisioningPhase := .idle
  provisioningSourceGeneration := none
  provisioningTargetGeneration := none
  provisioningPreviousMachineRef := none
  provisioningClaimToken := none
  provisioningClaimExpiresAt := none
  activationClaimToken := none
  activationClaimExpiresAt := none

structure RuntimeProfile (D : Type) where
  workspace : Uuid
  allyRef : String
  hermesProfileKey : String
  hermesProfileKeyVersion : Nat
  lifecycleState : RuntimeProfileLifecycleState
  lifecycleEpoch : Nat
  seedPayload : Option Json
  seedFingerprint : String
  materializedGeneration : Nat
  materializationOperationId : Option Uuid
  materializationRequestDigest : Option D
  materializationReceiptId : Option Uuid
  materializationResultCode : String
  cleanupOperationId : Option Uuid
  cleanupRequiresQuiescence : Bool
  cleanupAttemptId : Option Uuid
  cleanupPreviousAttemptId : Option Uuid
  cleanupContextDigest : String
  cleanupRequestDigest : Option D
  cleanupExpiresAt : Option Instant
  cleanupReceiptId : Option Uuid
  cleanupResultCode : String
  cleanupRetryAfter : Option Instant
  cleanupCompletedAt : Option Instant
deriving DecidableEq

def RuntimeProfile.pending {D : Type} (workspace : Uuid) (allyRef hermesProfileKey : String)
    (seedPayload : Option Json) (seedFingerprint : String) : RuntimeProfile D where
  workspace := workspace
  allyRef := allyRef
  hermesProfileKey := hermesProfileKey
  hermesProfileKeyVersion := 1
  lifecycleState := .pending
  lifecycleEpoch := 0
  seedPayload := seedPayload
  seedFingerprint := seedFingerprint
  materializedGeneration := 0
  materializationOperationId := none
  materializationRequestDigest := none
  materializationReceiptId := none
  materializationResultCode := ""
  cleanupOperationId := none
  cleanupRequiresQuiescence := false
  cleanupAttemptId := none
  cleanupPreviousAttemptId := none
  cleanupContextDigest := ""
  cleanupRequestDigest := none
  cleanupExpiresAt := none
  cleanupReceiptId := none
  cleanupResultCode := ""
  cleanupRetryAfter := none
  cleanupCompletedAt := none

structure ConversationBinding where
  cloudConversationRef : String
  hermesSessionId : Option String
deriving DecidableEq, Repr

/-- A live approval request; its identifier is the table key. -/
structure ApprovalRequest where
  workspace : Uuid
  profile : Uuid
  attempt : AttemptId
  generation : Nat
  material : ApprovalMaterial
  status : ApprovalRequestStatus
  decision : Option RoutineDecision
  decisionCommandId : Option Uuid
  decisionIdempotencyKey : Option Uuid
  decisionFingerprint : String
  decidedAt : Option Instant
  acknowledgementDeadlineAt : Option Instant
  outcome : Option ApprovalOutcome
  resolvedAt : Option Instant
deriving DecidableEq, Repr

/-- An event as it goes over the wire: its fingerprint, and its canonical bytes,
which are given as the JSON document they spell. -/
structure EventEnvelope where
  fingerprint : String
  bytes : Json
deriving DecidableEq, Repr

/-- A delivery belongs to one event of one attempt, and has its identifier. -/
abbrev DeliveryId := AttemptId × Uuid

/-- An outbox row.  `envelopeBytes` is `none` once the bytes are erased; the column
`byte_length` is their length and is zero exactly then. -/
structure ExecutionEventDelivery where
  envelopeBytes : Option Json
  fingerprint : String
  state : EventDeliveryState
  repairCycle : Nat
  deliveryAttempts : Nat
  leaseExpiresAt : Option Instant
  nextAttemptAt : Instant
  safeErrorCode : String
  deliveredAt : Option Instant
  sequenceGapSince : Option Instant
  createdAt : Instant
deriving DecidableEq, Repr

/-- The row `enqueue_event_delivery` creates, in the transaction that creates the
event. -/
def ExecutionEventDelivery.enqueued (envelope : EventEnvelope) (createdAt : Instant) :
    ExecutionEventDelivery where
  envelopeBytes := some envelope.bytes
  fingerprint := envelope.fingerprint
  state := .pending
  repairCycle := 0
  deliveryAttempts := 0
  leaseExpiresAt := none
  nextAttemptAt := createdAt
  safeErrorCode := ""
  deliveredAt := none
  sequenceGapSince := none
  createdAt := createdAt

inductive RoutineCommandKind where
  | dispatch
  | approvalDecision
  | cancelWait
deriving DecidableEq, Repr

inductive RoutineCommandResponse where
  | dispatched (occurrenceId runId : Uuid) (attempt : AttemptId) (generation : Nat)
      (allyId : Uuid) (issuedAt : Instant)
  | decided (resultCode : String) (requestStatus : RoutineApprovalStatus)
      (runStatus : RoutineRunStatus) (permissionConsumed : Bool)
      (actionState : RoutineActionState) (allyId : Uuid) (issuedAt : Instant)
  | cancelled (code : String) (routine : Uuid) (fence : Nat) (status : RoutineApprovalStatus)
deriving DecidableEq, Repr

structure RoutineCommandReceipt where
  commandId : Uuid
  kind : RoutineCommandKind
  fingerprint : String
  response : RoutineCommandResponse
deriving DecidableEq, Repr

end Foundry
