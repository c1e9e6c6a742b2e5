import Foundry.Model.JsonText
import Foundry.Services.Events

/-!
# Publication intents

`publications.py`: the intent of one file publication and its exchange with Cloud.  A
call to Cloud runs outside every transaction, so each operation that makes one is given
in two parts: what it checks and commits before the call, and what its answer does to the
stored intent.
-/

set_option autoImplicit false

namespace Foundry

open Raise

variable {D : Type}

/-! ## Rows -/

inductive PublicationIntentState where
  | preparing
  | frozen
  | registered
  | ready
  | failed
deriving DecidableEq, Repr

structure PublicationIntent (D : Type) where
  workspace : Uuid
  profile : Uuid
  execution : Uuid
  sourceAttempt : AttemptId
  cloudBindingId : Uuid
  cloudMessageId : Uuid
  toolCallDigest : D
  requestDigest : D
  manifestDigest : Option D
  state : PublicationIntentState
  nextDueAt : Instant
  attempts : Nat
  safeErrorCode : String
  cloudRevision : Option Nat
  cloudRetryRevision : Option Nat
deriving DecidableEq

def maxPublicationFiles : Nat := 10

def maxPublicationFileBytes : Nat := 25000000

def maxPublicationBytes : Nat := 50000000

def maxPublicationAttempts : Nat := 5

def maxRecoveryBatch : Nat := 20

/-- The largest value of a `PositiveBigIntegerField`. -/
def maxBigInteger : Nat := 9223372036854775807

/-- `runtime_publication_state_manifest_contract`. -/
def PublicationIntent.contract (intent : PublicationIntent D) : Bool :=
  (intent.state = .preparing) = intent.manifestDigest.isNone

/-- `save`, with the constraints of the table. -/
def PublicationIntent.saved (intent : PublicationIntent D) :
    Except RuntimeError (PublicationIntent D) := do
  require (intent.attempts ≤ maxPublicationAttempts)
    (validationError "publication attempts exceed the bounded budget")
  require (intent.contract = true)
    (integrityError "runtime_publication_state_manifest_contract")
  require (intent.cloudRevision.all (· ≤ maxBigInteger) = true)
    (integrityError "runtime_publication_cloud_revision")
  return intent

structure PublicationEnv (D : Type) where
  runtime : Env D
  digest : Json → D
  /-- `str(UUID(str(value)))`. -/
  canonicalUuid : Json → Option String
  /-- `UUID(str(value))`. -/
  uuid : Json → Option Uuid
  /-- The integer a floating-point literal equals, if any. -/
  floatInteger : String → Option Nat
  enabled : Bool
  cloudConfigured : Bool

/-! ## Descriptors -/

def descriptorName? (value : Json) : Option String :=
  match value.get? "name" with
  | some (.str name) =>
    if 1 ≤ name.length ∧ name.length ≤ 255 ∧ '\x00' ∉ name.toList then some name else none
  | _ => none

def descriptorSize? (value : Json) : Option Nat :=
  match value.get? "size" with
  | some (.int size) =>
    if 1 ≤ size ∧ size ≤ maxPublicationFileBytes then some size.toNat else none
  | _ => none

/-- `[0-9a-f]{64}`. -/
def isSha256 (text : String) : Bool :=
  text.length = 64 && text.toList.all fun letter =>
    letter.isDigit || letter ∈ ['a', 'b', 'c', 'd', 'e', 'f']

/-- The total of the `size` members of valid descriptors. -/
def descriptorTotal (descriptors : List Json) : Nat :=
  (descriptors.filterMap descriptorSize?).foldr (· + ·) 0

def preparedFile (item : Json) : Except RuntimeError Json := do
  require (item.hasExactly ["name", "size"] = true)
    (validationError "publication file descriptor is invalid")
  let name ← orRaise (descriptorName? item)
    (validationError "publication file descriptor is invalid")
  let size ← orRaise (descriptorSize? item)
    (validationError "publication file descriptor is invalid")
  return .obj [("name", .str name), ("size", .int size)]

/-- `_prepared_files`. -/
def preparedFiles (files : List Json) : Except RuntimeError (List Json) := do
  require (1 ≤ files.length ∧ files.length ≤ maxPublicationFiles)
    (validationError "publication must contain from 1 to 10 files")
  let output ← files.mapM preparedFile
  require (descriptorTotal output ≤ maxPublicationBytes)
    (validationError "publication file set exceeds 50 MB")
  return output

def frozenFile (env : PublicationEnv D) (item : Json) : Except RuntimeError Json := do
  require (item.hasExactly ["source_version_id", "name", "size", "sha256"] = true)
    (validationError "frozen publication file descriptor is invalid")
  let version ← orRaise ((item.get? "source_version_id").bind env.canonicalUuid)
    (validationError "publication source version is invalid")
  let name ← orRaise (descriptorName? item)
    (validationError "frozen publication file descriptor is invalid")
  let size ← orRaise (descriptorSize? item)
    (validationError "frozen publication file descriptor is invalid")
  match item.get? "sha256" with
  | some (.str digest) => do
      require (isSha256 digest = true)
        (validationError "frozen publication file descriptor is invalid")
      return .obj [("source_version_id", .str version), ("name", .str name),
        ("size", .int size), ("sha256", .str digest)]
  | _ => throw (validationError "frozen publication file descriptor is invalid")

/-- `_frozen_files`. -/
def frozenFiles (env : PublicationEnv D) (files : List Json) :
    Except RuntimeError (List Json) := do
  require (1 ≤ files.length ∧ files.length ≤ maxPublicationFiles)
    (validationError "publication must contain from 1 to 10 files")
  let output ← files.mapM (frozenFile env)
  require (descriptorTotal output ≤ maxPublicationBytes)
    (validationError "publication file set exceeds 50 MB")
  return output

/-- `_tool_call_id`. -/
def publicationToolCallId (value : String) : Except RuntimeError String := do
  require (1 ≤ value.utf8ByteSize ∧ value.utf8ByteSize ≤ 255 ∧
      value.toList.all (fun letter => letter ∉ ['\x00', '\r', '\n']) = true)
    (validationError "publication tool call identity is invalid")
  return value

def requirePublicationsEnabled (env : PublicationEnv D) : Except RuntimeError Unit :=
  require (env.enabled = true) (notReadyError "file publication is disabled")

/-! ## Scopes -/

section Scopes

variable [DecidableEq D]

/-- `_active_attempt`: the Execution of a live attempt, with its binding and message. -/
def activeAttempt (env : PublicationEnv D) (now : Instant) (context : RuntimeContext)
    (id : AttemptId) (leaseToken : String) (db : Db D) :
    Except RuntimeError (Execution D × Uuid × Uuid) := do
  let tokenDigest ← digestLeaseToken env.runtime leaseToken
  let (execution, attempt) ← orRaise (db.attemptIn context.workspace id)
    (leaseConflictError "attempt is not in this workspace")
  let workspace ← orRaise (db.workspaces.lookup execution.workspace) (doesNotExist "Workspace")
  let profile ← orRaise (db.profiles.lookup execution.profile) (doesNotExist "RuntimeProfile")
  require (workspace.machineGeneration = context.machineGeneration ∧
      attempt.machineGeneration = context.machineGeneration ∧
      (attempt.lease.any fun lease =>
        lease.profile = execution.profile ∧ lease.tokenDigest = tokenDigest ∧
          lease.machineGeneration = context.machineGeneration ∧ lease.state = .active ∧
          now < lease.expiresAt) = true)
    (leaseConflictError "lease does not authorize publication")
  require (profileAllowsRuntimeWrite profile)
    (leaseConflictError "profile lifecycle is not active")
  require (execution.isRoutineDispatch = false)
    (leaseConflictError "execution has no publication authority")
  let binding ← orRaise execution.cloudBindingId
    (leaseConflictError "execution has no publication authority")
  let message ← orRaise execution.cloudMessageId
    (leaseConflictError "execution has no publication authority")
  return (execution, binding, message)

omit [DecidableEq D] in
/-- `_current_profile`. -/
def currentProfile (context : RuntimeContext) (profileId : Uuid) (db : Db D) :
    Except RuntimeError Unit := do
  let workspace ← orRaise (db.workspaces.lookup context.workspace)
    (leaseConflictError "profile is not in this workspace")
  let profile ← orRaise
    ((db.profiles.lookup profileId).filter fun found => found.workspace = context.workspace)
    (leaseConflictError "profile is not in this workspace")
  require (workspace.machineGeneration = context.machineGeneration)
    (fencedError "runtime generation is stale")
  require (profileAllowsRuntimeWrite profile)
    (leaseConflictError "profile lifecycle is not active")

end Scopes

/-! ## What happens to one intent -/

namespace PublicationIntent

def isScoped (context : RuntimeContext) (profileId : Uuid) (intent : PublicationIntent D) : Bool :=
  intent.profile = profileId ∧ intent.workspace = context.workspace

/-- The transaction of `acknowledge_frozen_publication`. -/
def freeze [DecidableEq D] (now : Instant) (manifest : D) (intent : PublicationIntent D) :
    Except RuntimeError (PublicationIntent D) :=
  match intent.manifestDigest with
  | some stored => do
      require (stored = manifest) (idempotencyConflictError "publication manifest changed")
      return intent
  | none => do
      require (intent.state = .preparing)
        (leaseConflictError "publication intent cannot be frozen")
      return {
        intent with
        manifestDigest := some manifest
        state := .frozen
        nextDueAt := now
        safeErrorCode := "" }

/-- The registration is attempted right after the acknowledgement. -/
def shouldRegister (now : Instant) (intent : PublicationIntent D) : Bool :=
  intent.state = .frozen ∨
    (intent.state = .failed ∧ intent.attempts < maxPublicationAttempts ∧ intent.nextDueAt ≤ now)

/-- The states `register_publication` registers from. -/
def mayRegister (now : Instant) (intent : PublicationIntent D) : Except RuntimeError Unit := do
  require (¬ (intent.state = .failed ∧
      (maxPublicationAttempts ≤ intent.attempts ∨ now < intent.nextDueAt)))
    (leaseConflictError "publication retry is not due")
  require (intent.state ≠ .preparing) (leaseConflictError "publication intent is not frozen")

/-- A callback that finds no frozen manifest, or a published one, leaves the row. -/
def isSettled (intent : PublicationIntent D) : Bool :=
  intent.manifestDigest.isNone ∨ intent.state = .ready

end PublicationIntent

/-- `isinstance(value, int)`, no boolean, and positive. -/
def positiveInteger? : Option Json → Option Nat
  | some (.int value) => if 0 < value then some value.toNat else none
  | _ => none

namespace PublicationIntent

/-- `_set_registered`: the revision is taken as Cloud answers it. -/
def setRegistered (revision : Option Json) (intent : PublicationIntent D) :
    Except RuntimeError (PublicationIntent D) :=
  if intent.isSettled then return intent
  else
    PublicationIntent.saved {
      intent with
      cloudRevision := (positiveInteger? revision).or intent.cloudRevision
      state := .registered
      safeErrorCode := "" }

def backoffSeconds : List Nat := [5, 30, 120, 300]

/-- `_set_publication_failure`. -/
def setFailure (now : Instant) (errorCode : String) (revision : Option Nat)
    (intent : PublicationIntent D) : Except RuntimeError (PublicationIntent D) :=
  let code := if isSafeCode errorCode then errorCode else "publication_unavailable"
  if intent.isSettled then return intent
  else if revision.isSome ∧ intent.state = .failed ∧ intent.cloudRevision = revision then
    return intent
  else if maxPublicationAttempts ≤ intent.attempts then
    PublicationIntent.saved { intent with state := .failed, safeErrorCode := code }
  else
    PublicationIntent.saved {
      intent with
      attempts := intent.attempts + 1
      state := .failed
      safeErrorCode := code
      nextDueAt := now + seconds (backoffSeconds.getD (min intent.attempts 3) 300) }

/-- `payload.get("revision") == intent.cloud_revision`. -/
def hasRevision (floatInteger : String → Option Nat) (revision : Option Json)
    (intent : PublicationIntent D) : Bool :=
  match revision with
  | none | some .null => intent.cloudRevision = none
  | some (.int value) => intent.cloudRevision.any fun stored => value = stored
  | some (.bool value) => intent.cloudRevision = some (if value then 1 else 0)
  | some (.float literal) =>
    intent.cloudRevision.any fun stored => floatInteger literal = some stored
  | some _ => false

/-- The second transaction of `get_publication`. -/
def observe (env : PublicationEnv D) (payload : Json) (intent : PublicationIntent D) :
    Except RuntimeError (PublicationIntent D) :=
  if intent.hasRevision env.floatInteger (payload.get? "revision") = false then return intent
  else if payload.get? "state" = some (.str "ready") then
    PublicationIntent.saved { intent with state := .ready }
  else if intent.state ≠ .ready then
    PublicationIntent.saved
      { intent with state := .failed, attempts := maxPublicationAttempts }
  else return intent

/-- `_admit_cloud_retry` on a row of the profile: the row, and whether it is claimed. -/
def admitRetry (binding : Uuid) (revision : Nat) (intent : PublicationIntent D) :
    Except RuntimeError (Bool × PublicationIntent D) :=
  if intent.manifestDigest = none ∨ intent.cloudBindingId ≠ binding ∨
      intent.state = .preparing ∨ intent.state = .ready then return (false, intent)
  else if intent.cloudRevision.any (revision < ·) then return (false, intent)
  else if intent.cloudRevision = some revision ∧ intent.state = .registered then
    return (true, intent)
  else if intent.cloudRevision = some revision ∧ intent.cloudRetryRevision ≠ some revision then
    return (false, intent)
  else do
    let admitted ← PublicationIntent.saved {
      intent with
      state := .registered
      cloudRevision := some revision
      cloudRetryRevision := some revision
      safeErrorCode := "" }
    return (true, admitted)

end PublicationIntent

end Foundry
