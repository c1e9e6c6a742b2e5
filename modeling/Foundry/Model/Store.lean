import Foundry.Lib.Raise
import Foundry.Model.Rows

/-!
# The database and its environment

`Db` is the committed state.  Identifiers the server draws with `uuid4` are
numbered by `supply`; identifiers a caller sends are arbitrary, so they may
clash with stored ones and take the branches the services have for that.

`Env` collects what the services take from outside: the hashes, the derived
identifiers, the deployment's settings, and the wire contract layer
(`contracts.py`), which either yields an envelope, declines to publish, or raises.
Every theorem holds whatever these functions are; `Foundry.Services.Contracts` gives
the contract layer itself.
-/

set_option autoImplicit false

namespace Foundry

structure Env (D : Type) where
  digestPayload : Document → D
  digestLeaseToken : String → D
  /-- The hexadecimal text of a digest. -/
  digestText : D → String
  /-- The HMAC of a claim id, an attempt and a generation. -/
  claimToken : Uuid → AttemptId → Nat → String
  /-- The `uuid5` of an attempt's lease-expiry failure event. -/
  leaseExpiryEventId : AttemptId → Uuid
  profileIdOf : Uuid → Uuid
  hermesProfileKey : Uuid → String
  seedFingerprint : Uuid → String → Json → String
  uuidText : Uuid → String
  attemptStream : AttemptId → String
  routineStream : Uuid → String
  jsonSize : Json → Nat
  payloadSize : EventPayload → Nat
  commandFingerprint : ExecutionCommand → Except RuntimeError String
  activityWirePayload : Json → Bool → Except RuntimeError Json
  buildEventEnvelope : AttemptId → Execution D → Attempt D → ExecutionEvent D →
    Except RuntimeError (Option EventEnvelope)
  /-- `_safe_error_code`: a lower-case letter, then alphanumerics, `_` and `-`, as
  Unicode has them; at most 64 characters. -/
  isSafeErrorCode : String → Bool
  routineResultIsValid : RoutineResultPayload → Uuid → Nat → Instant → Bool
  runtimeReleaseDigest : Images → Option String
  /-- `none` when the configured images are not immutable digests. -/
  desiredImages : Option Images
  readinessFreshness : Instant
  keepWarm : Instant

structure Db (D : Type) where
  supply : Nat
  workspaces : Table Uuid Workspace
  profiles : Table Uuid (RuntimeProfile D)
  /-- Deleted profile to its Workspace. -/
  deletedProfiles : Table Uuid Uuid
  /-- Conversation bindings by profile. -/
  bindings : Table Uuid ConversationBinding
  executions : Table Uuid (Execution D)
  approvals : Table Uuid ApprovalRequest
  deliveries : Table DeliveryId ExecutionEventDelivery
  /-- Command receipts by Workspace and idempotency key. -/
  commandReceipts : Table (Uuid × Uuid) RoutineCommandReceipt
deriving DecidableEq

def Db.empty {D : Type} : Db D where
  supply := 0
  workspaces := ∅
  profiles := ∅
  deletedProfiles := ∅
  bindings := ∅
  executions := ∅
  approvals := ∅
  deliveries := ∅
  commandReceipts := ∅

section Rows

variable {D : Type}

/-! ## Attempts -/

def Attempt.findEvent (attempt : Attempt D) (eventId : Uuid) : Option (ExecutionEvent D) :=
  attempt.events.find? fun event => event.eventId = eventId

def Attempt.latestSequence (attempt : Attempt D) : Nat :=
  (attempt.events.map ExecutionEvent.sequence).foldr max 0

def Attempt.hasDispatched (attempt : Attempt D) : Bool :=
  attempt.events.any fun event => event.eventType = .dispatched

def Attempt.store (attempt : Attempt D) (event : ExecutionEvent D) : Attempt D :=
  { attempt with events := attempt.events ++ [event] }

def Attempt.hasUnresolvedLease (attempt : Attempt D) : Bool :=
  attempt.lease.any fun lease => lease.state.isUnresolved

def Attempt.setLease (attempt : Attempt D) (lease : Lease D) : Attempt D :=
  { attempt with lease := some lease }

def Lease.acquisitionWith [DecidableEq D] (lease : Lease D) (tokenDigest : D) :
    Option (RoutineLeaseAcquisition D) :=
  lease.acquisitions.find? fun acquisition => acquisition.tokenDigest = tokenDigest

def Lease.retireCurrent (lease : Lease D) (now : Instant) : Lease D :=
  { lease with
    acquisitions := lease.acquisitions.map fun acquisition =>
      if acquisition.current then
        { acquisition with current := false, retiredAt := some now }
      else acquisition }

/-! ## Executions -/

def Execution.attempt? (execution : Execution D) (number : Nat) : Option (Attempt D) :=
  execution.attempts.lookup number

def Execution.setAttempt (execution : Execution D) (number : Nat) (attempt : Attempt D) :
    Execution D :=
  { execution with attempts := execution.attempts.insert number attempt }

def Execution.routineAt (execution : Execution D) (number : Nat) : Option RoutineExecution :=
  execution.routine.filter fun routine => routine.currentAttempt = some number

def Execution.hasUnresolvedLease (execution : Execution D) : Bool :=
  execution.attempts.rows.any fun row => row.2.hasUnresolvedLease

def RoutineExecution.hasAction (routine : RoutineExecution) (status : RoutineApprovalStatus) :
    Bool :=
  routine.actions.any fun action => action.status = status

/-! ## Queries -/

variable (db : Db D)

def Db.putWorkspace (id : Uuid) (workspace : Workspace) : Db D :=
  { db with workspaces := db.workspaces.insert id workspace }

def Db.putProfile (id : Uuid) (profile : RuntimeProfile D) : Db D :=
  { db with profiles := db.profiles.insert id profile }

def Db.putExecution (id : Uuid) (execution : Execution D) : Db D :=
  { db with executions := db.executions.insert id execution }

/-- One `uuid4` was drawn. -/
def Db.draw : Db D :=
  { db with supply := db.supply + 1 }

def Db.attempt? (id : AttemptId) : Option (Execution D × Attempt D) :=
  (db.executions.lookup id.execution).bind fun execution =>
    (execution.attempt? id.number).map fun attempt => (execution, attempt)

def Db.attemptIn (workspace : Uuid) (id : AttemptId) : Option (Execution D × Attempt D) :=
  (db.attempt? id).filter fun found => found.1.workspace = workspace

def Db.leases : List (AttemptId × Lease D) :=
  db.executions.rows.flatMap fun row =>
    row.2.attempts.rows.filterMap fun numbered =>
      numbered.2.lease.map fun lease => (⟨row.1, numbered.1⟩, lease)

def Db.hasUnresolvedLease (profile : Uuid) (scopeKey : ScopeKey) : Bool :=
  db.leases.any fun row =>
    row.2.profile = profile ∧ row.2.scopeKey = scopeKey ∧ row.2.state.isUnresolved

def Db.unresolvedLeaseCount (profile : Uuid) : Nat :=
  (db.leases.filter fun row => row.2.profile = profile ∧ row.2.state.isUnresolved).length

def Db.workspaceByTenant (tenantRef : String) : Option (Uuid × Workspace) :=
  db.workspaces.rows.find? fun row => row.2.tenantRef = tenantRef

end Rows

end Foundry
