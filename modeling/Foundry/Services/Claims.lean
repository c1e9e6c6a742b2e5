import Foundry.Services.Reconcile

/-!
# Claims

`claim_next_execution` of `claims.py`: the gates, the reconciliation of expired
leases, the replay of a known claim id, and the candidate loop.  All of it is one
transaction.
-/

set_option autoImplicit false

namespace Foundry

open Raise

variable {D : Type}

/-- The claim a worker receives.  The model selection of the profile is not
modelled. -/
structure Claim where
  attempt : AttemptId
  profile : Uuid
  hermesProfileKey : String
  conversationId : Option String
  sessionId : Option String
  streamId : String
  leaseToken : String
  expiresAt : Instant
  payload : Json
  routineApproval : Option (Uuid × String × Json)
  claimId : Uuid
  routineId : Option Uuid
  commandId : Option Uuid
deriving DecidableEq, Repr

/-- `_claim_from_records`; `claimId` is the acquisition's, the attempt's or the
lease's. -/
def claimFromRecords (env : Env D) (db : Db D) (id : AttemptId) (claimId : Uuid)
    (profile : RuntimeProfile D) (execution : Execution D) (lease : Lease D) : Claim where
  attempt := id
  profile := execution.profile
  hermesProfileKey := profile.hermesProfileKey
  conversationId :=
    match execution.routine with
    | some routine => some (env.uuidText routine.runConversationId)
    | none => (db.bindings.lookup execution.profile).map ConversationBinding.cloudConversationRef
  sessionId :=
    match execution.routine with
    | some routine => routine.hermesSessionId
    | none => (db.bindings.lookup execution.profile).bind ConversationBinding.hermesSessionId
  streamId := env.attemptStream id
  leaseToken := env.claimToken claimId id lease.machineGeneration
  expiresAt := lease.expiresAt
  payload := execution.inputPayload
  routineApproval := execution.routine.bind fun routine =>
    (routine.actions.reverse.find? fun action => action.status = .authorizing).map fun action =>
      (action.actionAttemptId, action.providerIdempotencyKey, action.continuation)
  claimId := claimId
  routineId := execution.routine.map RoutineExecution.routineId
  commandId := execution.commandId

/-! ## Replays of a claim id -/

def Db.attempts (db : Db D) : List (AttemptId × Execution D × Attempt D) :=
  db.executions.rows.flatMap fun row =>
    row.2.attempts.rows.map fun numbered => (⟨row.1, numbered.1⟩, row.2, numbered.2)

def Db.attemptByClaim (db : Db D) (claimId : Uuid) :
    Option (AttemptId × Execution D × Attempt D) :=
  db.attempts.find? fun row => row.2.2.claimId = some claimId

/-- The acquisition a claim id belongs to, with its attempt. -/
def Db.acquisitionByClaim (db : Db D) (claimId : Uuid) :
    Option (AttemptId × Execution D × Attempt D × Lease D × RoutineLeaseAcquisition D) :=
  db.attempts.findSome? fun row =>
    row.2.2.lease.bind fun lease =>
      (lease.acquisitions.find? fun acquisition => acquisition.claimId = claimId).map
        fun acquisition => (row.1, row.2.1, row.2.2, lease, acquisition)

def replayAttemptClaim (env : Env D) (now : Instant) (workspaceId : Uuid) (workspace : Workspace)
    (claimId : Uuid) (id : AttemptId) (execution : Execution D) (attempt : Attempt D)
    (db : Db D) : Except RuntimeError (Option Claim) := do
  require (execution.workspace = workspaceId)
    (idempotencyConflictError "claim_id already belongs to another workspace")
  let lease ← orRaise attempt.lease (conflictError "claim has no durable lease")
  require (attempt.machineGeneration = workspace.machineGeneration ∧
      lease.machineGeneration = workspace.machineGeneration)
    (idempotencyConflictError "claim_id belongs to a retired machine generation")
  let profile ← orRaise (db.profiles.lookup execution.profile) (doesNotExist "RuntimeProfile")
  require (profileIsClaimReady profile workspace.machineGeneration)
    (fencedError "profile lifecycle has fenced this claim")
  if execution.isRoutineDispatch then
    requireRoutineAdmission env now true workspace
  -- An expired token would be rejected by every mutation: drop the reservation.
  if lease.expiresAt ≤ now then return none
  return some (claimFromRecords env db id claimId profile execution lease)

def replayAcquisitionClaim (env : Env D) (now : Instant) (workspaceId : Uuid)
    (workspace : Workspace) (claimId : Uuid) (id : AttemptId) (execution : Execution D)
    (attempt : Attempt D) (lease : Lease D) (acquisition : RoutineLeaseAcquisition D)
    (db : Db D) : Except RuntimeError (Option Claim) := do
  require (execution.workspace = workspaceId)
    (idempotencyConflictError "claim_id already belongs to another workspace")
  require (attempt.machineGeneration = workspace.machineGeneration ∧
      lease.machineGeneration = workspace.machineGeneration ∧ acquisition.current = true)
    (idempotencyConflictError "claim_id belongs to a retired machine generation")
  requireRoutineAdmission env now true workspace
  if lease.expiresAt ≤ now then return none
  let profile ← orRaise (db.profiles.lookup execution.profile) (doesNotExist "RuntimeProfile")
  return some (claimFromRecords env db id claimId profile execution lease)

/-- The answer to a known claim id; `none` when the id is new. -/
def replayClaim (env : Env D) (now : Instant) (workspaceId : Uuid) (workspace : Workspace)
    (claimId : Uuid) (db : Db D) : Option (Except RuntimeError (Option Claim)) :=
  match db.attemptByClaim claimId with
  | some (id, execution, attempt) =>
    some (replayAttemptClaim env now workspaceId workspace claimId id execution attempt db)
  | none =>
    match db.acquisitionByClaim claimId with
    | some (id, execution, attempt, lease, acquisition) =>
      some (replayAcquisitionClaim env now workspaceId workspace claimId id execution attempt
        lease acquisition db)
    | none => none

/-! ## Candidates -/

def executionOrder (left right : Uuid × Execution D) : Prop :=
  left.2.createdAt < right.2.createdAt ∨
    left.2.createdAt = right.2.createdAt ∧ left.1 ≤ right.1

instance (left right : Uuid × Execution D) : Decidable (executionOrder left right) :=
  inferInstanceAs (Decidable (_ ∨ _ ∧ _))

/-- The candidate query: QUEUED work, and RUNNING routines, oldest first. -/
def Db.candidates (db : Db D) (workspaceId : Uuid) : List Uuid :=
  let listed := db.executions.rows.filter fun row =>
    row.2.workspace = workspaceId ∧
      (row.2.status = .queued ∨ row.2.status = .running ∧ row.2.isRoutineDispatch = true)
  (listed.insertionSort executionOrder).map Prod.fst

/-- The first test of a candidate: the statuses of the Execution and its routine. -/
def Execution.statusAllowsClaim (execution : Execution D) : Bool :=
  match execution.routine with
  | none => execution.status = .queued
  | some routine =>
    match routine.status with
    | .queued => execution.status = .queued
    | .working => execution.status = .running ∧ routine.hasAction .authorizing
    | _ => false

def Execution.scopeKey (execution : Execution D) : ScopeKey :=
  match execution.routine with
  | none => .main
  | some routine => .routine routine.routineId

/-- The last test of a candidate: a routine resumes only a QUEUED attempt. -/
def Execution.attemptAllowsClaim (execution : Execution D) : Bool :=
  match execution.routine.bind RoutineExecution.currentAttempt with
  | none => true
  | some number => (execution.attempt? number).any fun attempt => attempt.status = .queued

/-- Why the loop passes a candidate over, or that it takes it. -/
inductive Candidate where
  | passed
  | unreadyProfile
  | routineNotReady
  | routineFenced
  | taken
deriving DecidableEq, Repr

def candidate (env : Env D) (now : Instant) (workspace : Workspace)
    (profile : RuntimeProfile D) (execution : Execution D) (db : Db D) : Candidate :=
  if execution.statusAllowsClaim = false then .passed
  else if profileIsClaimReady profile workspace.machineGeneration = false then .unreadyProfile
  else
    let admission : Except RuntimeError Unit :=
      if execution.isRoutineDispatch then requireRoutineAdmission env now true workspace
      else .ok ()
    match admission with
    | .error error => if error.kind = .fenced then .routineFenced else .routineNotReady
    | .ok _ =>
      if db.hasUnresolvedLease execution.profile execution.scopeKey then .passed
      else if execution.attemptAllowsClaim = false then .passed
      else .taken

/-! ## The grant -/

structure GrantTerms (D : Type) where
  now : Instant
  claimId : Uuid
  generation : Nat
  tokenDigest : D

def GrantTerms.lease (terms : GrantTerms D) (profile : Uuid) (scopeKey : ScopeKey) : Lease D where
  profile := profile
  scopeKey := scopeKey
  tokenDigest := terms.tokenDigest
  claimId := some terms.claimId
  expiresAt := terms.now + seconds leaseSeconds
  machineGeneration := terms.generation
  state := .active
  currentAcquisition := none
  acquisitions := []

def GrantTerms.renewedLease (terms : GrantTerms D) (lease : Lease D) : Lease D :=
  { lease.retireCurrent terms.now with
    claimId := some terms.claimId
    tokenDigest := terms.tokenDigest
    expiresAt := terms.now + seconds leaseSeconds
    machineGeneration := terms.generation
    state := .active
    currentAcquisition := none }

/-- A routine's lease gets the acquisition that authorizes this leg. -/
def GrantTerms.acquire (terms : GrantTerms D) (lease : Lease D) : Lease D :=
  let ordinal := lease.acquisitions.length + 1
  { lease with
    acquisitions := lease.acquisitions ++
      [{ ordinal := ordinal
         claimId := terms.claimId
         tokenDigest := terms.tokenDigest
         machineGeneration := terms.generation
         current := true
         retiredAt := none
         sessionRequestDigest := none
         stopRequestDigest := none
         terminalRequestDigest := none
         sessionReceipt := none
         stopReceipt := none
         terminalReceipt := none }]
    currentAcquisition := some ordinal }

inductive Grant (D : Type) where
  /-- The attempt, Execution and routine are saved as running, but the lease of
  the attempt was not free. -/
  | abandoned (execution : Execution D)
  | granted (number : Nat) (lease : Lease D) (execution : Execution D)

def Attempt.claimed (terms : GrantTerms D) (profile : Uuid) : Attempt D :=
  { Attempt.fresh .running terms.generation with
    claimId := some terms.claimId
    claimedAt := some terms.now
    lease := some (terms.lease profile .main) }

def grantOrdinary (terms : GrantTerms D) (execution : Execution D) : Grant D :=
  let number := execution.attempts.nextNumber
  .granted number (terms.lease execution.profile .main)
    { execution.setAttempt number (Attempt.claimed terms execution.profile) with
      status := .running }

def Attempt.resumed (attempt : Attempt D) (terms : GrantTerms D) : Attempt D :=
  { attempt with
    status := .running
    machineGeneration := terms.generation
    claimedAt := some terms.now }

/-- A leg of a routine, on its current attempt or, without one, on a new attempt. -/
def grantRoutine (terms : GrantTerms D) (routine : RoutineExecution) (execution : Execution D) :
    Grant D :=
  let number := routine.currentAttempt.getD execution.attempts.nextNumber
  let attempt := (routine.currentAttempt.bind execution.attempt?).getD
    (Attempt.fresh .running terms.generation)
  let running := attempt.resumed terms
  let working : RoutineExecution :=
    { routine with
      status := .working
      generation := terms.generation
      currentAttempt := some number }
  let started : Execution D :=
    { execution.setAttempt number running with
      status := .running
      routine := some working }
  match attempt.lease with
  | none =>
    let lease := terms.acquire (terms.lease execution.profile (.routine routine.routineId))
    .granted number lease (started.setAttempt number (running.setLease lease))
  | some lease =>
    if lease.state.isUnresolved then .abandoned started
    else
      let renewed := terms.acquire (terms.renewedLease lease)
      .granted number renewed (started.setAttempt number (running.setLease renewed))

def grant (terms : GrantTerms D) (execution : Execution D) : Grant D :=
  match execution.routine with
  | none => grantOrdinary terms execution
  | some routine => grantRoutine terms routine execution

section Operations

variable [DecidableEq D]

/-- No other lease, and no acquisition, has this token digest. -/
def Db.tokenIsFree (db : Db D) (id : AttemptId) (tokenDigest : D) : Bool :=
  db.leases.all fun row =>
    (row.1 = id ∨ row.2.tokenDigest ≠ tokenDigest) ∧
      row.2.acquisitions.all fun acquisition => acquisition.tokenDigest ≠ tokenDigest

def Execution.claimNumber (execution : Execution D) : Nat :=
  (execution.routine.bind RoutineExecution.currentAttempt).getD execution.attempts.nextNumber

structure Passed where
  unreadyProfile : Bool
  routineFenced : Bool
  routineNotReady : Bool
deriving DecidableEq, Repr

def Passed.outcome (passed : Passed) : Except RuntimeError Unit := do
  require (passed.unreadyProfile = false)
    (notReadyError "profile is not ready for runtime claims")
  require (passed.routineFenced = false)
    (fencedError "routine admission release is stale")
  require (passed.routineNotReady = false)
    (notReadyError "routine admission is not ready")

def claimCandidates (env : Env D) (now : Instant) (workspaceId : Uuid) (workspace : Workspace)
    (claimId : Uuid) : List Uuid → Passed → Db D → Except RuntimeError (Option Claim × Db D)
  | [], passed, db => do
      passed.outcome
      return (none, db)
  | executionId :: rest, passed, db =>
    let proceed := claimCandidates env now workspaceId workspace claimId rest
    match (db.executions.lookup executionId).filter
        (fun execution => execution.workspace = workspaceId) with
    | none => proceed passed db
    | some execution =>
      match (db.profiles.lookup execution.profile).filter
          (fun profile => profile.workspace = workspaceId) with
      | none => proceed passed db
      | some profile =>
        match candidate env now workspace profile execution db with
        | .passed => proceed passed db
        | .unreadyProfile => proceed { passed with unreadyProfile := true } db
        | .routineNotReady => proceed { passed with routineNotReady := true } db
        | .routineFenced => proceed { passed with routineFenced := true } db
        | .taken =>
          let id : AttemptId := ⟨executionId, execution.claimNumber⟩
          let tokenDigest := env.digestLeaseToken
            (env.claimToken claimId id workspace.machineGeneration)
          match grant ⟨now, claimId, workspace.machineGeneration, tokenDigest⟩
              execution with
          | .abandoned started => proceed passed (db.putExecution executionId started)
          | .granted number lease granted => do
              require (db.tokenIsFree id tokenDigest) (integrityError "token_digest")
              let next := db.putExecution executionId granted
              return (some (claimFromRecords env next ⟨executionId, number⟩ claimId
                profile granted lease), next)

/-- The gates of a claim: a valid slot count, the current generation, a complete
Machine binding and a fresh readiness receipt. -/
def claimGates (env : Env D) (now : Instant) (context : RuntimeContext) (availableSlots : Nat)
    (db : Db D) : Except RuntimeError Workspace := do
  require (1 ≤ availableSlots ∧ availableSlots ≤ maxAvailableSlots)
    (validationError "available_slots must be an integer from 1 to 8")
  let workspace ← orRaise (db.workspaces.lookup context.workspace)
    (leaseConflictError "runtime workspace does not exist")
  require (workspace.machineGeneration = context.machineGeneration)
    (fencedError "runtime credential belongs to a retired generation")
  require workspace.isServing (notReadyError "workspace is not ready for claims")
  requireCurrentRuntimeReadyLocked env now context.workspace workspace context
  return workspace

def claimNextExecution (env : Env D) (now : Instant) (context : RuntimeContext) (claimId : Uuid)
    (availableSlots : Nat) (db : Db D) : Except RuntimeError (Option Claim × Db D) := do
  let workspace ← claimGates env now context availableSlots db
  let reconciled ← reconcileExpiredLeases env now context.workspace workspace db
  match replayClaim env now context.workspace workspace claimId reconciled with
  | some replay =>
    let claim ← replay
    return (claim, reconciled)
  | none =>
    claimCandidates env now context.workspace workspace claimId
      (reconciled.candidates context.workspace) ⟨false, false, false⟩ reconciled

end Operations

end Foundry
