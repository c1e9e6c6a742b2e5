import Foundry.Model.Store

/-!
# Tables and records of the power services

The rows that wakes, idle stops and release upgrades use beside the runtime
database: wake intents, and the ready-pool bundles assigned to Workspaces.  A
provider call answers with a `MachineRecord` or raises; what a worker does after an
exception depends only on the flags kept in `Raised`.
-/

set_option autoImplicit false

namespace Foundry

variable {D : Type}

inductive RuntimeIntentType where
  | composingStarted
  | allyCreationStarted
deriving DecidableEq, Repr

inductive RuntimeIntentOutcome where
  | alreadyReady
  | waking
  | ready
  | firstProvisionRequired
  | rateLimited
  | failed
deriving DecidableEq, Repr

/-- A wake intent; its Workspace and idempotency key are the table key. -/
structure RuntimeIntent where
  intentType : RuntimeIntentType
  receivedAt : Instant
  expiresAt : Instant
  deleteAfter : Instant
  outcome : RuntimeIntentOutcome
  coalescedOperationId : Option Uuid
deriving DecidableEq, Repr

/-- The settings of the deployment that the power services read. -/
structure PowerSettings where
  idleStopEnabled : Bool
  intentTtl : Instant
  intentRetention : Instant
  speculativeStartCooldown : Instant
  readinessTimeout : Instant
  imageUpdatesEnabled : Bool
  /-- `FOUNDRY_ORIGIN` is an origin without credentials, query or fragment. -/
  foundryOriginIsValid : Bool

/-- The database with the tables of the power services.  `bundles` gives the
`safe_error_code` of the ASSIGNED bundle of a Workspace. -/
structure PowerDb (D : Type) where
  db : Db D
  intents : Table (Uuid × Uuid) RuntimeIntent
  bundles : Table Uuid (Option String)

def PowerDb.empty : PowerDb D where
  db := Db.empty
  intents := ∅
  bundles := ∅

def PowerDb.putWorkspace (store : PowerDb D) (id : Uuid) (workspace : Workspace) : PowerDb D :=
  { store with db := store.db.putWorkspace id workspace }

def PowerDb.draw (store : PowerDb D) : PowerDb D :=
  { store with db := store.db.draw }

/-- The Workspace belongs to the ready pool and to no tenant. -/
def Workspace.isPooled (workspace : Workspace) : Bool :=
  "pool:".isPrefixOf workspace.tenantRef

def Db.hasExecution (db : Db D) (workspaceId : Uuid) (status : ExecutionStatus) : Bool :=
  db.executions.rows.any fun row => row.2.workspace = workspaceId ∧ row.2.status = status

/-- An Attempt of the Workspace in QUEUED, LEASED or RUNNING. -/
def Db.hasActiveAttempt (db : Db D) (workspaceId : Uuid) : Bool :=
  db.executions.rows.any fun row => row.2.workspace = workspaceId ∧
    row.2.attempts.rows.any fun numbered =>
      numbered.2.status = .queued ∨ numbered.2.status = .leased ∨ numbered.2.status = .running

/-- A Lease in ACTIVE or STOPPING of a profile of the Workspace. -/
def Db.hasLiveLease (db : Db D) (workspaceId : Uuid) : Bool :=
  db.leases.any fun row => row.2.state.isUnresolved ∧
    (db.profiles.lookup row.2.profile).any fun profile => profile.workspace = workspaceId

/-! ## Provider records -/

inductive MachineState where
  | created
  | started
  | stopped
  | destroyed
  | unknown
deriving DecidableEq, Repr

structure OwnershipMetadata where
  workspaceId : Uuid
  operationId : Uuid
  generation : Nat
deriving DecidableEq, Repr

structure MachineRecord where
  id : String
  name : String
  appName : String
  state : MachineState
  volumeId : Option String
  ownership : Option OwnershipMetadata
  images : Images
deriving DecidableEq, Repr

/-- An exception as the workers tell them apart: a `ProviderError` with its flags, a
`RuntimeConflictError`, or any other.  A provider 404 is not raised: an inspection
answers it with no Machine. -/
inductive Raised where
  | provider (retryable uncertain : Bool)
  | conflict
  | other
deriving DecidableEq, Repr

def Raised.isUncertain : Raised → Bool
  | .provider _ uncertain => uncertain
  | _ => false

/-- `exc.retryable or exc.uncertain`. -/
def Raised.isRetried : Raised → Bool
  | .provider retryable uncertain => retryable || uncertain
  | _ => false

/-- `ProviderTerminalError` and its subclasses. -/
def Raised.terminal : Raised := .provider false false

/-- `_OperationClaim`; the trigger of an idle stop is `none`. -/
structure OperationClaim where
  workspace : Uuid
  operationId : Uuid
  token : Uuid
  trigger : Option RuntimeOperationTrigger
deriving DecidableEq, Repr

end Foundry
