import Mathlib.Algebra.Ring.Nat
import Mathlib.Logic.Basic

/-!
# Identifiers, errors and enumerations of the Foundry runtime

The value types of `runtime/models.py` and `runtime/exceptions.py`.  A UUID is a
number; instants are microseconds.  An attempt is identified by its Execution
and its number, which the database keeps unique; a lease has the identifier of
its attempt, and a routine that of its Execution, as both are one to one.
-/

set_option autoImplicit false

namespace Foundry

abbrev Uuid := Nat

abbrev Instant := Nat

/-- A duration in the microseconds of `Instant`. -/
def seconds (count : Nat) : Instant := count * 1000000

structure AttemptId where
  execution : Uuid
  number : Nat
deriving DecidableEq, Repr

/-! ## Errors -/

/-- The exception classes of `runtime/exceptions.py`, with the two Django raises
by itself: a missing row of `.get()` and a violated constraint. -/
inductive ErrorKind where
  | validation
  | authorization
  | notFound
  | conflict
  | fenced
  | notReady
  | repairRequired
  | leaseConflict
  | idempotencyConflict
  | providerTerminal
  | doesNotExist
  | integrity
deriving DecidableEq, Repr

/-- `RuntimeConflictError` and its subclasses. -/
def ErrorKind.isConflict : ErrorKind → Bool
  | .conflict | .fenced | .notReady | .repairRequired | .leaseConflict
  | .idempotencyConflict => true
  | .validation | .authorization | .notFound | .providerTerminal | .doesNotExist
  | .integrity => false

structure RuntimeError where
  kind : ErrorKind
  message : String
deriving DecidableEq, Repr

def validationError (message : String) : RuntimeError := ⟨.validation, message⟩
def authorizationError (message : String) : RuntimeError := ⟨.authorization, message⟩
def notFoundError (message : String) : RuntimeError := ⟨.notFound, message⟩
def conflictError (message : String) : RuntimeError := ⟨.conflict, message⟩
def fencedError (message : String) : RuntimeError := ⟨.fenced, message⟩
def notReadyError (message : String) : RuntimeError := ⟨.notReady, message⟩
def repairRequiredError (message : String) : RuntimeError := ⟨.repairRequired, message⟩
def leaseConflictError (message : String) : RuntimeError := ⟨.leaseConflict, message⟩
def idempotencyConflictError (message : String) : RuntimeError := ⟨.idempotencyConflict, message⟩
def doesNotExist (model : String) : RuntimeError := ⟨.doesNotExist, model⟩
def integrityError (constraint : String) : RuntimeError := ⟨.integrity, constraint⟩

/-! ## Status columns -/

inductive ExecutionStatus where
  | queued
  | running
  | succeeded
  | failed
  | cancelled
  | unknown
deriving DecidableEq, Repr

/-- The statuses lease expiry leaves alone.  `UNKNOWN` is declared but no service
ever stores it. -/
def ExecutionStatus.isTerminal : ExecutionStatus → Bool
  | .succeeded | .failed | .cancelled => true
  | .queued | .running | .unknown => false

inductive AttemptStatus where
  | queued
  | leased
  | running
  | approvalWaiting
  | succeeded
  | failed
  | cancelled
  | unknown
deriving DecidableEq, Repr

/-- `_TERMINAL_ATTEMPT_STATUSES`. -/
def AttemptStatus.isTerminal : AttemptStatus → Bool
  | .succeeded | .failed | .cancelled | .unknown => true
  | .queued | .leased | .running | .approvalWaiting => false

/-- The statuses the retiring paths call unresolved, `_EVENT_WRITABLE_ATTEMPT_STATUSES`
and `_LIVE_ATTEMPT_STATUSES`. -/
def AttemptStatus.isOpen : AttemptStatus → Bool
  | .queued | .leased | .running => true
  | .approvalWaiting | .succeeded | .failed | .cancelled | .unknown => false

inductive LeaseState where
  | active
  | stopping
  | released
  | fenced
deriving DecidableEq, Repr

def LeaseState.isUnresolved : LeaseState → Bool
  | .active | .stopping => true
  | .released | .fenced => false

inductive ApprovalRequestStatus where
  | pending
  | decisionRecorded
  | applied
  | expired
  | cancelled
  | outcomeUnknown
deriving DecidableEq, Repr

inductive EventDeliveryState where
  | pending
  | delivering
  | delivered
  | exhausted
deriving DecidableEq, Repr

def EventDeliveryState.isTerminal : EventDeliveryState → Bool
  | .delivered | .exhausted => true
  | .pending | .delivering => false

inductive RuntimeProfileLifecycleState where
  | pending
  | active
  | cleanupPending
  | deprovisioned
  | repairRequired
deriving DecidableEq, Repr

inductive WorkspaceProvisioningKind where
  | ensure
  | replace
deriving DecidableEq, Repr

inductive WorkspaceProvisioningPhase where
  | idle
  | appReady
  | volumeReady
  | oldMachineStopped
  | oldMachineDestroyed
  | machineCreated
  | machineStarted
  | healthy
  | failed
deriving DecidableEq, Repr

/-- `IN_FLIGHT_PROVISIONING_PHASES`. -/
def WorkspaceProvisioningPhase.isInFlight : WorkspaceProvisioningPhase → Bool
  | .idle | .failed => false
  | .appReady | .volumeReady | .oldMachineStopped | .oldMachineDestroyed
  | .machineCreated | .machineStarted | .healthy => true

inductive RuntimeOperationState where
  | idle
  | requested
  | starting
  | awaitingReadiness
  | stopping
deriving DecidableEq, Repr

inductive RuntimeOperationTrigger where
  | speculative
  | execution
  | onboarding
deriving DecidableEq, Repr

inductive RoutineRunStatus where
  | queued
  | working
  | approvalWaiting
  | succeeded
  | failed
  | cancelled
  | expired
deriving DecidableEq, Repr

def RoutineRunStatus.isTerminal : RoutineRunStatus → Bool
  | .succeeded | .failed | .cancelled | .expired => true
  | .queued | .working | .approvalWaiting => false

inductive RoutineApprovalStatus where
  | pending
  | authorizing
  | rejected
  | expired
  | cancelled
deriving DecidableEq, Repr

inductive RoutineActionState where
  | preDispatch
  | dispatching
  | completed
  | unknown
  | manualReconciliation
deriving DecidableEq, Repr

inductive RoutineOutcome where
  | changed
  | unchanged
  | failed
deriving DecidableEq, Repr

def RoutineOutcome.text : RoutineOutcome → String
  | .changed => "changed"
  | .unchanged => "unchanged"
  | .failed => "failed"

inductive RoutineDecision where
  | approve
  | reject
deriving DecidableEq, Repr

/-- `APPROVAL_OUTCOMES` of the live approvals. -/
inductive ApprovalOutcome where
  | approved
  | rejected
  | expired
  | cancelled
deriving DecidableEq, Repr

/-- `Lease.scope_key`: `main`, or `routine:` and the routine's UUID. -/
inductive ScopeKey where
  | main
  | routine (routineId : Uuid)
deriving DecidableEq, Repr

/-! ## Limits -/

def maxRuntimeEventSequence : Nat := 100000
def maxTerminalSequence : Nat := 100001
def maxRoutineSequence : Nat := 100000
def maxRoutineTerminalSequence : Nat := 100001
def leaseSeconds : Nat := 60
def maxAvailableSlots : Nat := 8
def maxApprovalLifetimeSeconds : Nat := 300
def cleanupGraceSeconds : Nat := 60
def claimSeconds : Nat := 60
def deliveryLeaseSeconds : Nat := 60
def maxDeliveryAttempts : Nat := 8
def maxDeliveryBatch : Nat := 20
def maxDeliveryBackoffSeconds : Nat := 300
def repairDelaySeconds : Nat := 300
def maxAutomaticRepairCycles : Nat := 3
def sequenceGapRetrySeconds : Nat := 15
def sequenceGapPatienceSeconds : Nat := 30 * 60

end Foundry
