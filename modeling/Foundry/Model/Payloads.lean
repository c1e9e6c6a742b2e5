import Foundry.Model.Types

/-!
# Payloads

The JSON documents that requests carry and rows store.  Bodies whose shape the
services check field by field are given as the typed value the check accepts;
bodies they only bound and store are JSON values.
-/

set_option autoImplicit false

namespace Foundry

/-! ## JSON values -/

/-- A JSON value.  An object lists its members in key order, so two equal
dictionaries are the same value. -/
inductive Json where
  | null
  | bool (value : Bool)
  | int (value : Int)
  | float (literal : String)
  | str (value : String)
  | arr (items : List Json)
  | obj (members : List (String × Json))
deriving Repr

namespace Json

mutual

def beq : Json → Json → Bool
  | .null, .null => true
  | .bool left, .bool right => left == right
  | .int left, .int right => left == right
  | .float left, .float right => left == right
  | .str left, .str right => left == right
  | .arr left, .arr right => beqItems left right
  | .obj left, .obj right => beqMembers left right
  | _, _ => false

def beqItems : List Json → List Json → Bool
  | [], [] => true
  | left :: lefts, right :: rights => beq left right && beqItems lefts rights
  | _, _ => false

def beqMembers : List (String × Json) → List (String × Json) → Bool
  | [], [] => true
  | (name, left) :: lefts, (other, right) :: rights =>
    name == other && beq left right && beqMembers lefts rights
  | _, _ => false

end

mutual

theorem beq_iff : ∀ left right : Json, beq left right = true ↔ left = right
  | .null, right => by cases right <;> simp [beq]
  | .bool left, right => by cases right <;> simp [beq]
  | .int left, right => by cases right <;> simp [beq]
  | .float left, right => by cases right <;> simp [beq]
  | .str left, right => by cases right <;> simp [beq]
  | .arr left, right => by cases right <;> simp [beq, beqItems_iff left]
  | .obj left, right => by cases right <;> simp [beq, beqMembers_iff left]

theorem beqItems_iff : ∀ left right : List Json, beqItems left right = true ↔ left = right
  | [], right => by cases right <;> simp [beqItems]
  | left :: lefts, right => by
      cases right <;> simp [beqItems, beq_iff left, beqItems_iff lefts]

theorem beqMembers_iff :
    ∀ left right : List (String × Json), beqMembers left right = true ↔ left = right
  | [], right => by cases right <;> simp [beqMembers]
  | (name, left) :: lefts, right => by
      cases right with
      | nil => simp [beqMembers]
      | cons head =>
        obtain ⟨_, _⟩ := head
        simp [beqMembers, beq_iff left, beqMembers_iff lefts, and_assoc]

end

instance : DecidableEq Json :=
  fun left right => decidable_of_iff (beq left right = true) (beq_iff left right)

/-- `dict.get`: only objects have members. -/
def get? (name : String) : Json → Option Json
  | .obj members => (members.find? fun member => member.1 == name).map Prod.snd
  | _ => none

end Json

/-! ## Event payloads -/

inductive EventType where
  | dispatched
  | awaitingAction
  | approvalResolved
  | stopped
  | messageDelta
  | activityStarted
  | activityCompleted
  | completed
  | failed
  | routineResult
  | routineApprovalRequested
deriving DecidableEq, Repr

/-- `_TERMINAL_EVENT_TYPES` of `events.py`. -/
def EventType.mayUseReservedSequence : EventType → Bool
  | .completed | .failed | .stopped => true
  | _ => false

def EventType.isEnding : EventType → Bool
  | .completed | .failed => true
  | _ => false

structure RoutineResultPayload where
  routineId : Uuid
  occurrenceId : Uuid
  runId : Uuid
  routineRevision : Nat
  titleSnapshot : String
  attempt : AttemptId
  generation : Nat
  mainConversationId : Uuid
  runConversationId : Uuid
  outcome : RoutineOutcome
  text : String
  references : List Json
  delayed : Bool
deriving DecidableEq, Repr

structure RoutineApprovalPayload where
  approvalRequestId : Uuid
  actionAttemptId : Uuid
  runId : Uuid
  attempt : AttemptId
  generation : Nat
  createdAt : Instant
  expiresAt : Instant
  actionDigest : String
  providerIdempotencyKey : String
deriving DecidableEq, Repr

structure ApprovalMaterial where
  approvalRequestId : Uuid
  actionKind : String
  actionLabel : String
  actionPreview : String
  expiresAt : Instant
deriving DecidableEq, Repr

inductive EventPayload where
  | dispatched
  | awaitingAction (actionKind : String)
  | awaitingApproval (material : ApprovalMaterial)
  | approvalResolved (approvalRequestId : Uuid) (outcome : ApprovalOutcome)
  | stopped (reason : String)
  | messageDelta (text : String)
  | activityStarted (body : Json)
  | activityCompleted (body : Json)
  | completed (runId : String)
  | failed (code : String) (retryable : Bool)
  | routineResult (result : RoutineResultPayload)
  | routineApprovalRequested (request : RoutineApprovalPayload)
deriving DecidableEq, Repr

def EventPayload.eventType : EventPayload → EventType
  | .dispatched => .dispatched
  | .awaitingAction _ | .awaitingApproval _ => .awaitingAction
  | .approvalResolved _ _ => .approvalResolved
  | .stopped _ => .stopped
  | .messageDelta _ => .messageDelta
  | .activityStarted _ => .activityStarted
  | .activityCompleted _ => .activityCompleted
  | .completed _ => .completed
  | .failed _ _ => .failed
  | .routineResult _ => .routineResult
  | .routineApprovalRequested _ => .routineApprovalRequested

/-! ## Cloud commands -/

/-- A `datetime`: aware of its timezone or not. -/
structure Timestamp where
  instant : Instant
  aware : Bool
deriving DecidableEq, Repr

structure FirstTurnBootstrap where
  messageId : Uuid
  text : String
deriving DecidableEq, Repr

/-- `FileInputV1`. -/
structure FileInput where
  fileId : Uuid
  name : String
  mediaType : String
  size : Nat
  sha256 : String
deriving DecidableEq, Repr

/-- An execution command of Cloud.  `bootstrap := some none` is an explicit null, which
the contract rejects; an explicit null of `files` does not parse. -/
structure ExecutionCommand where
  commandId : Uuid
  idempotencyKey : Uuid
  cloudWorkspaceId : Uuid
  conversationTurnOrdinal : Nat
  cloudAllyId : Uuid
  cloudConversationId : Uuid
  cloudMessageId : Uuid
  cloudBindingId : Uuid
  text : String
  bootstrap : Option (Option FirstTurnBootstrap)
  files : Option (List FileInput)
  issuedAt : Timestamp
  deadlineAt : Timestamp
  fingerprint : String
deriving DecidableEq, Repr

/-! ## Requests of the runtime API -/

structure RuntimeContext where
  workspace : Uuid
  machineGeneration : Nat
deriving DecidableEq, Repr

structure TerminalEvent where
  eventId : Uuid
  streamId : String
  sequence : Nat
  payload : EventPayload
deriving DecidableEq, Repr

/-- The body of a routine result request, digested for replay. -/
structure RoutineResultRequest where
  eventId : Uuid
  sequence : Nat
  outcome : RoutineOutcome
  text : String
  references : List Json
  delayed : Option Bool
deriving DecidableEq, Repr

/-- The dictionaries the services pass to `digest_payload`. -/
inductive Document where
  | stopReason (reason : String)
  | terminal (value : Json) (event : Option TerminalEvent)
  | session (conversationRef : String) (expected : Option String) (effective : String)
  | routineSession (expected : Option String) (effective : String)
  | routineResult (request : RoutineResultRequest)
  | event (payload : EventPayload)
  | execution (payload : Json)
  | materialization (profile operation : Uuid) (lifecycleEpoch generation : Nat)
      (seedFingerprint resultCode : String)
  | cleanup (operation : Uuid) (contextDigest : String) (expiresAt : Instant)
  | deletionContext (workspace ally binding profile : Uuid)
  | deletion (contextDigest : String) (operation attempt : Uuid) (lifecycleEpoch : Nat)
      (expiresAt : Instant)
deriving DecidableEq, Repr

/-! ## Stored receipts -/

/-- `Attempt.stopped_receipt`. -/
structure StoppedReceipt where
  state : LeaseState
  requeued : Bool
  reason : String
deriving DecidableEq, Repr

/-- The response stored with a routine acquisition's terminal request. -/
structure RoutineTerminalReceipt where
  attempt : AttemptId
  status : AttemptStatus
  receiptId : Uuid
  requeued : Bool
  outcome : RoutineOutcome
  eventId : Uuid
deriving DecidableEq, Repr

/-- `RoutineExecution.terminal_receipt`: the result's entry, and what a specific
terminal transition adds to it. -/
structure RoutineReceipt where
  outcome : Option RoutineOutcome
  eventId : Option Uuid
  code : Option String
  fence : Option Nat
  replacingOccurrenceId : Option Uuid
  resultEventId : Option Uuid
deriving DecidableEq, Repr

def RoutineReceipt.empty : RoutineReceipt :=
  ⟨none, none, none, none, none, none⟩

end Foundry
