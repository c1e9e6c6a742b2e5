import Mathlib.Logic.Relation
import Foundry.Evolution.RowSteps

/-!
# The writes of a call

Every call is a sequence of writes of single rows, and a few bulk updates.  `Write`
lists them for the whole database, with the checks that were made before each;
`Evolution` is any number of them.

`start` is the database the call began with: a query made there may decide a write
that comes later.
-/

set_option autoImplicit false

namespace Foundry

open Relation (ReflTransGen)

variable {D : Type}

/-! ## Claims and leases -/

def Attempt.acquisitionClaims (attempt : Attempt D) : List Uuid :=
  (attempt.lease.map fun lease => lease.acquisitions.map RoutineLeaseAcquisition.claimId).getD []

/-- The attempt belongs to the same claims, and no lease became unresolved. -/
structure Attempt.KeepsClaim (former attempt : Attempt D) : Prop where
  claim : attempt.claimId = former.claimId
  acquisitions : attempt.acquisitionClaims = former.acquisitionClaims
  lease : ∀ lease, attempt.lease = some lease → lease.state.isUnresolved = true →
    ∃ before, former.lease = some before ∧ before.state.isUnresolved = true ∧
      lease.profile = before.profile ∧ lease.scopeKey = before.scopeKey

/-- No attempt and no acquisition was made under the claim id. -/
def Db.ClaimUnused (db : Db D) (claimId : Uuid) : Prop :=
  ∀ id execution number attempt, db.executions.lookup id = some execution →
    execution.attempt? number = some attempt →
    attempt.claimId ≠ some claimId ∧ claimId ∉ attempt.acquisitionClaims

/-! ## Commands -/

structure Execution.CreatedFrom (env : Env D) (execution : Execution D)
    (command : ExecutionCommand) : Prop where
  valid : validateCommand env command = .ok ()
  key : execution.idempotencyKey = env.uuidText command.idempotencyKey
  profile : execution.profile = env.profileIdOf command.cloudBindingId
  same : execution.repeats command execution.profile = true
  payload : execution.inputPayload = command.inputPayload env

def Execution.Commanded (env : Env D) (execution : Execution D) : Prop :=
  (execution.commandId = none ∧ execution.commandFingerprint = "") ∨
    ∃ command, execution.CreatedFrom env command

/-- The routine and its Execution were made from this dispatch. -/
structure Execution.DispatchedBy (env : Env D) (execution : Execution D)
    (routine : RoutineExecution) (command : RoutineDispatch) : Prop where
  profile : execution.profile = env.profileIdOf command.scope.cloudBindingId
  binding : routine.cloudBindingId = command.scope.cloudBindingId
  ally : routine.allyId = command.scope.allyId
  fingerprint : routine.dispatchFingerprint = command.fingerprint

def Operation.routineCommand : Operation D → Option RoutineCommand
  | .acceptRoutineDispatch command => some (.dispatch command)
  | .decideRoutineApproval command => some (.decision command)
  | .cancelRoutineWait command => some (.cancel command)
  | _ => none

/-- A response of the command: it names the command's Ally, the Ally of an earlier dispatch
of the occurrence, or a routine of the command's binding. -/
def RoutineCommand.Answers (command : RoutineCommand) (db : Db D) : RoutineCommandResponse → Prop
  | .dispatched _ _ _ _ allyId _ =>
    allyId = command.scope.allyId ∨
      ∃ dispatch id execution routine, command = .dispatch dispatch ∧
        db.executions.lookup id = some execution ∧ execution.routine = some routine ∧
        routine.allyId = allyId ∧ routine.dispatchFingerprint = dispatch.fingerprint
  | .decided _ _ _ _ _ allyId _ => allyId = command.scope.allyId
  | .cancelled _ id _ _ =>
    ∃ execution routine, db.executions.lookup id = some execution ∧
      execution.routine = some routine ∧
      routine.cloudBindingId = command.scope.cloudBindingId

/-- The conversation an Execution's input names is the one its profile is bound to. -/
def Db.BindsInput (db : Db D) (execution : Execution D) : Prop :=
  ∀ reference, execution.routine = none →
    execution.inputPayload.get? "cloud_conversation_ref" = some (.str reference) →
    ∃ binding, db.bindings.lookup execution.profile = some binding ∧
      binding.cloudConversationRef = reference

/-! ## Approvals -/

def ApprovalRequestStatus.isLive : ApprovalRequestStatus → Bool
  | .pending | .decisionRecorded => true
  | _ => false

def Db.ApprovalsSettled (db : Db D) (id : AttemptId) : Prop :=
  ∀ request approval, db.approvals.lookup request = some approval → approval.attempt = id →
    approval.status.isLive = false

def Operation.routineTarget : Operation D → Option Uuid
  | .requestRoutineApproval execution _ => some execution
  | .recordRoutineResult execution _ _ => some execution
  | .appendRuntimeRoutineResult _ attempt _ _ => some attempt.execution
  | .failAttempt _ attempt _ _ _ => some attempt.execution
  | .decideRoutineApproval command => some command.attempt.execution
  | .cancelRoutineWait command => some command.attempt.execution
  | .expireRoutineApproval execution _ => some execution
  | _ => none

/-! ## Deliveries -/

/-- What one call may make of one delivery row; `start` is where a rebuild reads. -/
inductive DeliveryStep (env : Env D) (call : Call D) (start : Db D) (id : DeliveryId)
    (row : ExecutionEventDelivery) : ExecutionEventDelivery → Prop
  /-- An expired claim without an attempt left. -/
  | expire (next : ExecutionEventDelivery)
      (service : call.operation.service = .claimEventDeliveries)
      (final : row.isExpiredFinal call.now = true)
      (repairs : transitionToRepair env call.now id row "delivery_lease_expired" start = .ok next)
      (saves : row.save next = .ok next) :
      DeliveryStep env call start id row next
  | claim (service : call.operation.service = .claimEventDeliveries)
      (due : row.isClaimable call.now = true)
      (saves : row.save (row.claimed call.now) = .ok (row.claimed call.now)) :
      DeliveryStep env call start id row (row.claimed call.now)
  /-- `mark_event_delivery`. -/
  | report (attempt repairCycle : Nat) (result : DeliveryResult) (next : ExecutionEventDelivery)
      (asked : call.operation = .markEventDelivery id attempt repairCycle result)
      (current : row.isClaimedBy attempt repairCycle = true)
      (reports : reportedDelivery env call.now id row result start = .ok next)
      (saves : row.save next = .ok next) :
      DeliveryStep env call start id row next
  /-- `_defer_for_sequence_gap`. -/
  | defer (claim : EventDeliveryClaim) (next : ExecutionEventDelivery)
      (asked : call.operation = .deferForSequenceGap claim) (named : claim.delivery = id)
      (current : row.isClaimedBy claim.attempt claim.repairCycle = true)
      (deferred : next = row.deferred call.now claim.attempt)
      (saves : row.save next = .ok next) :
      DeliveryStep env call start id row next
  /-- `_wake_attempt_successors`. -/
  | wake (service : call.operation.service = .wakeAttemptSuccessors) (pending : row.state = .pending) :
      DeliveryStep env call start id row { row with nextAttemptAt := call.now }
  /-- A confirmed redrive. -/
  | redrive (encoded : Json)
      (service : call.operation.service = .redriveEventDeliveries)
      (exhausted : row.state = .exhausted)
      (rebuilt : rebuildDeliveryEnvelope env id row start = .ok encoded)
      (saves : row.save (row.redriven encoded call.now) = .ok (row.redriven encoded call.now)) :
      DeliveryStep env call start id row (row.redriven encoded call.now)

/-! ## Writes -/

section Writes

variable [DecidableEq D]

inductive Write (env : Env D) (call : Call D) (start db : Db D) : Db D → Prop
  /-- A `uuid4`. -/
  | draw : Write env call start db db.draw
  | registerWorkspace (tenantRef : String) :
      Write env call start db
        (db.draw.putWorkspace db.supply (Workspace.registered tenantRef))
  | workspace (id : Uuid) (workspace later : Workspace)
      (stored : db.workspaces.lookup id = some workspace)
      (step : WorkspaceStep env call start db id workspace later) :
      Write env call start db (db.putWorkspace id later)
  | createProfile (id workspace : Uuid) (allyRef key : String) (seed : Option Json)
      (fingerprint : String)
      (unknown : db.profiles.lookup id = none)
      (undeleted : db.deletedProfiles.lookup id = none)
      (unique : ∀ other row, db.profiles.lookup other = some row → row.workspace = workspace →
        row.allyRef ≠ allyRef) :
      Write env call start db
        (db.putProfile id (.pending workspace allyRef key seed fingerprint))
  | profile (id : Uuid) (profile later : RuntimeProfile D)
      (stored : db.profiles.lookup id = some profile)
      (step : ProfileStep env call start db id profile later) :
      Write env call start db (db.putProfile id later)
  | forgetMaterializations (workspace : Uuid) :
      Write env call start db (db.forgetMaterializations workspace)
  /-- A conversation is reserved for a profile that has none. -/
  | reserveBinding (profileId : Uuid) (profile : RuntimeProfile D) (conversationRef : String)
      (stored : db.profiles.lookup profileId = some profile)
      (unknown : db.bindings.lookup profileId = none) :
      Write env call start db
        { db with bindings := db.bindings.insert profileId ⟨conversationRef, none⟩ }
  | bindSession (context : RuntimeContext) (id : AttemptId) (leaseToken : String)
      (request : SessionRequest) (execution : Execution D) (profile : RuntimeProfile D)
      (bindings : Table Uuid ConversationBinding)
      (asked : call.operation = .updateSessionBinding context id leaseToken request)
      (holder : start.executions.lookup id.execution = some execution)
      (stored : db.profiles.lookup execution.profile = some profile)
      (valid : request.effectiveSessionId ≠ "")
      (binds : bindSession execution.profile request db.bindings = .ok bindings) :
      Write env call start db { db with bindings := bindings }
  | compareAndSet (profileId : Uuid) (expected : Option String) (new : String)
      (conversationRef : Option String) (binding : ConversationBinding) (next : Db D)
      (asked : call.operation = .compareAndSetSession profileId expected new conversationRef)
      (sets : compareAndSetSession profileId expected new conversationRef db =
        .ok (binding, next)) :
      Write env call start db next
  /-- A new Execution, under the next identifier. -/
  | create (execution : Execution D) (profile : RuntimeProfile D) (birth : Born call execution)
      (stored : db.profiles.lookup execution.profile = some profile)
      (home : profile.workspace = execution.workspace)
      (fresh : ∀ id other, db.executions.lookup id = some other →
        other.workspace = execution.workspace →
        other.idempotencyKey ≠ execution.idempotencyKey)
      (uncommanded : execution.routine.isSome = true → execution.commandId = none)
      (commanded : execution.Commanded env) (bound : db.BindsInput execution)
      (digested : execution.routine = none →
        execution.payloadDigest = env.digestPayload (.execution execution.inputPayload))
      (dispatched : ∀ routine, execution.routine = some routine →
        ∃ command, call.operation = .acceptRoutineDispatch command ∧
          execution.DispatchedBy env routine command) :
      Write env call start db
        { db.draw with executions := db.executions.insert db.supply execution }
  /-- One attempt of one Execution moves. -/
  | move (id : AttemptId) (execution : Execution D) (attempt moved : Attempt D)
      (status : ExecutionStatus) (routine : Option RoutineExecution)
      (stored : db.executions.lookup id.execution = some execution)
      (found : execution.attempt? id.number = some attempt)
      (move : Move env call start id.execution execution id.number attempt moved status routine)
      (quiet : call.operation.service ≠ .claimNextExecution ∨ attempt.KeepsClaim moved)
      (settled : moved.hasUnresolvedLease = true ∨ db.ApprovalsSettled id ∨
        (call.operation.routineTarget = some id.execution ∧
          (execution.routineAt id.number).isSome = true)) :
      Write env call start db
        (db.putExecution id.execution (execution.write id.number moved status routine))
  /-- A candidate is granted to a claim id that was not used before. -/
  | grant (context : RuntimeContext) (slots : Nat) (terms : GrantTerms D) (id : Uuid)
      (execution next : Execution D) (number : Nat) (lease : Lease D)
      (asked : call.operation = .claimNextExecution context terms.claimId slots)
      (stored : db.executions.lookup id = some execution)
      (home : execution.workspace = context.workspace)
      (grants : grant terms execution = .granted number lease next)
      (change : Change env call start id execution next)
      (unused : db.ClaimUnused terms.claimId)
      (free : db.hasUnresolvedLease execution.profile execution.scopeKey = false)
      (token : db.tokenIsFree ⟨id, execution.claimNumber⟩ terms.tokenDigest = true)
      (owner : ∃ profile, db.profiles.lookup execution.profile = some profile ∧
        profile.lifecycleState = .active) :
      Write env call start db (db.putExecution id next)
  | stopLeases (profile : Uuid)
      (service : call.operation.service = .requestProfileCleanup ∨
        call.operation.service = .coordinateProfileDeletion) :
      Write env call start db (db.stopLeases profile)
  /-- An event opens an approval, under an ACTIVE lease. -/
  | openApproval (id : AttemptId) (execution : Execution D) (attempt : Attempt D)
      (lease : Lease D) (workspace : Workspace) (material : ApprovalMaterial)
      (approvals : Table Uuid ApprovalRequest)
      (service : call.operation.service = .appendRuntimeEvent)
      (stored : db.executions.lookup id.execution = some execution)
      (found : execution.attempt? id.number = some attempt)
      (held : attempt.lease = some lease) (active : lease.state = .active)
      (records : recordApprovalRequestFromEvent call.now id execution attempt workspace material
        db.approvals = .ok approvals) :
      Write env call start db { db with approvals := approvals }
  /-- An event resolves an approval. -/
  | resolveApproval (id : AttemptId) (request : Uuid) (outcome : ApprovalOutcome)
      (approvals : Table Uuid ApprovalRequest)
      (resolves : applyApprovalResolution call.now id request outcome db.approvals =
        .ok approvals) :
      Write env call start db { db with approvals := approvals }
  | decideApproval (command : ApprovalDecisionCommand) (receipt : ApprovalDecisionReceipt)
      (next : Db D) (asked : call.operation = .recordApprovalDecision command)
      (decides : recordApprovalDecision env call.now command db = .ok (receipt, next)) :
      Write env call start db next
  | readApproval (request : Uuid) (approval : ApprovalRequest)
      (stored : db.approvals.lookup request = some approval) :
      Write env call start db
        { db with approvals := db.approvals.insert request (reconcileApproval call.now approval) }
  /-- `cancel_live_approval_requests`. -/
  | settleApprovals (id : AttemptId) :
      Write env call start db
        { db with approvals := cancelLiveApprovalRequests call.now id db.approvals }
  /-- An outbox row of a stored event; the envelope was built on the rows before the
  moves of this call. -/
  | enqueue (id : AttemptId) (former later : Execution D) (attempt kept : Attempt D)
      (event : ExecutionEvent D) (envelope : EventEnvelope)
      (stored : db.executions.lookup id.execution = some later)
      (chain : ReflTransGen (Change env call start id.execution) former later)
      (found : former.attempt? id.number = some attempt)
      (held : later.attempt? id.number = some kept)
      (known : kept.findEvent event.eventId = some event)
      (built : env.buildEventEnvelope id former attempt event = .ok (some envelope))
      (fresh : db.deliveries.lookup (id, event.eventId) = none) :
      Write env call start db
        { db with
          deliveries := db.deliveries.insert (id, event.eventId)
            (.enqueued envelope event.createdAt) }
  | delivery (id : DeliveryId) (row next : ExecutionEventDelivery)
      (stored : db.deliveries.lookup id = some row)
      (step : DeliveryStep env call start id row next) :
      Write env call start db { db with deliveries := db.deliveries.insert id next }
  /-- A bulk update of outbox rows. -/
  | sweepDeliveries (rewrite : DeliveryId → ExecutionEventDelivery → ExecutionEventDelivery)
      (step : ∀ id row, rewrite id row = row ∨ DeliveryStep env call start id row (rewrite id row)) :
      Write env call start db { db with deliveries := db.deliveries.updateAll rewrite }
  | receipt (workspace : Uuid) (command : RoutineCommand) (profile : RuntimeProfile D)
      (response : RoutineCommandResponse)
      (asked : call.operation.routineCommand = some command)
      (stored : db.profiles.lookup (env.profileIdOf command.scope.cloudBindingId) = some profile)
      (home : profile.workspace = workspace)
      (ally : profile.allyRef = env.uuidText command.scope.allyId)
      (answers : command.Answers db response)
      (unknown : db.commandReceipts.lookup (workspace, command.idempotencyKey) = none) :
      Write env call start db
        (storeCommandReceipt workspace command.idempotencyKey command.commandId command.kind
          command.fingerprint response db)
  | purge (workspaceId profileId : Uuid) (workspace : Workspace) (profile : RuntimeProfile D)
      (next : Db D)
      (service : call.operation.service = .coordinateProfileDeletion)
      (known : db.workspaces.lookup workspaceId = some workspace)
      (stored : db.profiles.lookup profileId = some profile)
      (home : profile.workspace = workspaceId)
      (removed : profile.lifecycleState = .deprovisioned)
      (purges : purgeProfile env workspaceId profileId workspace profile db = .ok next) :
      Write env call start db next

def Evolution (env : Env D) (call : Call D) (start : Db D) : Db D → Db D → Prop :=
  ReflTransGen (Write env call start)

namespace Evolution

variable {env : Env D} {call : Call D} {start : Db D}

theorem refl (db : Db D) : Evolution env call start db db :=
  ReflTransGen.refl

theorem single {db next : Db D} (write : Write env call start db next) :
    Evolution env call start db next :=
  ReflTransGen.single write

theorem trans {first second third : Db D} (earlier : Evolution env call start first second)
    (later : Evolution env call start second third) :
    Evolution env call start first third :=
  ReflTransGen.trans earlier later

section

variable {db next : Db D} (Invariant : Db D → Prop)

theorem carries (Related : Db D → Db D → Prop) (reflexive : ∀ db, Related db db)
    (transitive : ∀ {first second third},
      Related first second → Related second third → Related first third)
    (evolution : Evolution env call start db next)
    (write : ∀ db next, Write env call start db next → Invariant db →
      Invariant next ∧ Related db next)
    (holds : Invariant db) : Invariant next ∧ Related db next := by
  induction evolution with
  | refl => exact ⟨holds, reflexive db⟩
  | tail _ last ih =>
    have written := write _ _ last ih.1
    exact ⟨written.1, transitive ih.2 written.2⟩

theorem keeps (evolution : Evolution env call start db next)
    (write : ∀ db next, Write env call start db next → Invariant db → Invariant next)
    (holds : Invariant db) : Invariant next :=
  (evolution.carries Invariant (fun _ _ => True) (fun _ => trivial) (fun _ _ => trivial)
    (fun db next last before => ⟨write db next last before, trivial⟩) holds).1

end

theorem relates {db next : Db D} (Related : Db D → Db D → Prop) (reflexive : ∀ db, Related db db)
    (transitive : ∀ {first second third},
      Related first second → Related second third → Related first third)
    (evolution : Evolution env call start db next)
    (write : ∀ db next, Write env call start db next → Related db next) :
    Related db next :=
  (evolution.carries (fun _ => True) Related reflexive transitive
    (fun db next last _ => ⟨trivial, write db next last⟩) trivial).2

end Evolution

end Writes

end Foundry
