import Foundry.Lib.Run
import Foundry.Services.Deliveries
import Foundry.Services.Executions

/-!
# The system

Every service call is one atomic operation on the database: it holds the
Workspace row lock to its end and either commits or is rolled back.  A run is any
sequence of calls, by any number of runtimes, Cloud commands and lifecycle
workers, from the empty database.  Each call carries the instant it observes;
clocks need not be monotone across calls.
-/

set_option autoImplicit false

namespace Foundry

variable {D : Type}

inductive Operation (D : Type) where
  -- Workspace lifecycle
  | registerWorkspace (tenantRef : String)
  | claimOrWait (workspace : Uuid) (request : LifecycleRequest) (proofHolds : Bool)
  | casPhase (workspace operation token : Uuid) (phase : WorkspaceProvisioningPhase)
      (updates : PhaseUpdates)
  | bindIdle (workspace operation token : Uuid) (machineRef : String) (images : Images)
  | handleFailure (workspace operation token : Uuid) (retryable : Bool)
  | maintainWorkspace (workspace : Uuid) (columns : MaintenanceColumns)
  | confirmMachineStoppedAndFence (workspace : Uuid) (source target : Nat)
      (machineRef : Option String)
  -- Profiles
  | ensureRuntimeProfile (workspace profile : Uuid) (allyRef : String) (seed : Json)
  | requestProfileCleanup (workspace profile operation : Uuid) (contextDigest : String)
      (expiresAt : Option Instant)
  | expireProfileCleanup (profile : Uuid)
  | coordinateProfileDeletion (workspaceRef ally binding operation : Uuid)
      (expectedAttempt : Option Uuid)
  -- Cloud commands
  | createExecution (workspace profile : Uuid) (idempotencyKey : String) (payload : Json)
  | createExecutionIntent (command : ExecutionCommand)
  | reconcileExecutionIntent (idempotencyKey : Uuid) (fingerprint : String)
  | acceptRoutineDispatch (command : RoutineDispatch)
  | decideRoutineApproval (command : RoutineApprovalDecision)
  | cancelRoutineWait (command : RoutineCancelWait)
  | expireRoutineApproval (execution request : Uuid)
  | requestRoutineApproval (execution : Uuid) (request : RoutineApprovalRequest)
  | recordRoutineResult (execution : Uuid) (eventId : Option Uuid) (args : RoutineResultArgs)
  | recordApprovalDecision (command : ApprovalDecisionCommand)
  -- The runtime API
  | acceptRuntimeReadiness (context : RuntimeContext) (bootId : Uuid)
      (generation startEpoch : Nat)
  | acceptMaterializationReceipt (context : RuntimeContext) (profile operation : Uuid)
      (lifecycleEpoch generation : Nat) (seedFingerprint resultCode : String)
  | acceptCleanupReceipt (context : RuntimeContext) (profile operation : Uuid)
      (lifecycleEpoch : Nat) (requestDigest : D) (result : CleanupResult)
      (activeLeaseCount : Nat) (proof : CleanupProof)
  | claimNextExecution (context : RuntimeContext) (claimId : Uuid) (availableSlots : Nat)
  | renewLease (context : RuntimeContext) (attempt : AttemptId) (leaseToken : String)
  | appendRuntimeEvent (context : RuntimeContext) (attempt : AttemptId) (leaseToken : String)
      (request : EventRequest)
  | updateSessionBinding (context : RuntimeContext) (attempt : AttemptId) (leaseToken : String)
      (request : SessionRequest)
  | bindRoutineSession (context : RuntimeContext) (attempt : AttemptId) (leaseToken : String)
      (expectedSessionId : Option String) (effectiveSessionId : String)
  | compareAndSetSession (profile : Uuid) (expectedSessionId : Option String)
      (newSessionId : String) (conversationRef : Option String)
  | acknowledgeStopped (context : RuntimeContext) (attempt : AttemptId)
      (leaseToken reason : String) (requestDigest : Option D)
  | completeAttempt (context : RuntimeContext) (attempt : AttemptId) (leaseToken : String)
      (receipt : Json) (terminalEvent : Option TerminalEvent)
  | failAttempt (context : RuntimeContext) (attempt : AttemptId) (leaseToken : String)
      (failure : Failure) (terminalEvent : Option TerminalEvent)
  | appendRuntimeRoutineResult (context : RuntimeContext) (attempt : AttemptId)
      (leaseToken : String) (request : RoutineResultRequest)
  | readRuntimeApproval (context : RuntimeContext) (attempt : AttemptId) (leaseToken : String)
      (request : Uuid)
  | authorizeAttemptMutation (attempt lease : AttemptId) (tokenDigest : D)
      (machineGeneration : Nat) (updates : AttemptUpdates)
  -- The delivery workers and the operator
  | claimEventDeliveries (limit : Nat)
  | markEventDelivery (delivery : DeliveryId) (attempt repairCycle : Nat)
      (result : DeliveryResult)
  | deferForSequenceGap (claim : EventDeliveryClaim)
  | wakeAttemptSuccessors (delivery : DeliveryId)
  | redriveEventDeliveries (deliveryIds : List DeliveryId) (eventIds : List Uuid)
      (confirm : Bool)
deriving DecidableEq

structure Call (D : Type) where
  now : Instant
  operation : Operation D

inductive Reply (D : Type) where
  | done
  | identifier (id : Uuid)
  | flag (value : Bool)
  | lifecycle (reply : LifecycleReply)
  | execution (receipt : ExecutionReceipt)
  | fence (receipt : FenceReceipt)
  | profile (receipt : Option ProfileReceipt)
  | deletion (state : DeletionState)
  | routineCommand (response : RoutineCommandResponse)
  | event (event : ExecutionEvent D)
  | decision (receipt : ApprovalDecisionReceipt)
  | claim (claim : Option Claim)
  | lease (receipt : LeaseReceipt)
  | binding (binding : ConversationBinding)
  | session (sessionId : String)
  | stop (receipt : StopReceipt)
  | terminal (receipt : TerminalReceipt)
  | routineTerminal (receipt : RoutineTerminalReceipt)
  | approval (approval : ApprovalRequest)
  | reconciliation (receipt : ReconciliationReceipt)
  | deliveryClaims (claims : List EventDeliveryClaim)
  | delivery (row : Option ExecutionEventDelivery)
  | redrive (report : RedriveReport)
deriving DecidableEq

def reply {α : Type} (wrap : α → Reply D) (result : Except RuntimeError (α × Db D)) :
    Except RuntimeError (Reply D × Db D) :=
  match result with
  | .ok (value, next) => .ok (wrap value, next)
  | .error error => .error error

theorem reply_eq_ok {α : Type} (wrap : α → Reply D) (result : Except RuntimeError (α × Db D))
    (answer : Reply D) (next : Db D) :
    reply wrap result = .ok (answer, next) ↔
      ∃ value, result = .ok (value, next) ∧ wrap value = answer := by
  cases result with
  | error => simp [reply]
  | ok pair =>
    obtain ⟨value, _⟩ := pair
    simp only [reply, Except.ok.injEq, Prod.mk.injEq]
    constructor
    · rintro ⟨wrapped, rfl⟩
      exact ⟨value, ⟨rfl, rfl⟩, wrapped⟩
    · rintro ⟨_, ⟨rfl, rfl⟩, wrapped⟩
      exact ⟨wrapped, rfl⟩

variable [DecidableEq D]

def apply (env : Env D) (call : Call D) (db : Db D) : Except RuntimeError (Reply D × Db D) :=
  let now := call.now
  match call.operation with
  | .registerWorkspace tenantRef => reply .identifier (registerWorkspace tenantRef db)
  | .claimOrWait workspace request proofHolds =>
    reply .lifecycle (claimOrWait now workspace request proofHolds db)
  | .casPhase workspace operation token phase updates =>
    reply (fun _ => .done) (casPhase workspace operation token phase updates db)
  | .bindIdle workspace operation token machineRef images =>
    reply (fun _ => .done) (bindIdle now workspace operation token machineRef images db)
  | .handleFailure workspace operation token retryable =>
    reply (fun _ => .done) (handleFailure workspace operation token retryable db)
  | .maintainWorkspace workspace columns =>
    reply (fun _ => .done) (maintainWorkspace workspace columns db)
  | .confirmMachineStoppedAndFence workspace source target machineRef =>
    reply .fence (confirmMachineStoppedAndFence now workspace source target machineRef db)
  | .ensureRuntimeProfile workspace profile allyRef seed =>
    reply (fun receipt => .profile (some receipt))
      (ensureRuntimeProfile env workspace profile allyRef seed db)
  | .requestProfileCleanup workspace profile operation contextDigest expiresAt =>
    reply (fun receipt => .profile (some receipt))
      (requestProfileCleanup env now workspace profile operation contextDigest expiresAt db)
  | .expireProfileCleanup profile => reply .profile (expireProfileCleanup env now profile db)
  | .coordinateProfileDeletion workspaceRef ally binding operation expectedAttempt =>
    reply .deletion (coordinateProfileDeletion env now workspaceRef ally binding operation
      expectedAttempt db)
  | .createExecution workspace profile idempotencyKey payload =>
    reply .identifier (createExecution env now workspace profile idempotencyKey payload db)
  | .createExecutionIntent command => reply .execution (createExecutionIntent env now command db)
  | .reconcileExecutionIntent idempotencyKey fingerprint =>
    reply .reconciliation (reconcileExecutionIntent env idempotencyKey fingerprint db)
  | .acceptRoutineDispatch command =>
    reply .routineCommand (acceptRoutineDispatch env now command db)
  | .decideRoutineApproval command =>
    reply .routineCommand (decideRoutineApproval env now command db)
  | .cancelRoutineWait command => reply .routineCommand (cancelRoutineWait env now command db)
  | .expireRoutineApproval execution request =>
    reply .flag (expireRoutineApproval env now execution request db)
  | .requestRoutineApproval execution request =>
    reply .event (requestRoutineApproval env now execution request db)
  | .recordRoutineResult execution eventId args =>
    reply .event (recordRoutineResult env now execution eventId args db)
  | .recordApprovalDecision command =>
    reply .decision (recordApprovalDecision env now command db)
  | .acceptRuntimeReadiness context bootId generation startEpoch =>
    reply (fun _ => .done) (acceptRuntimeReadiness now context bootId generation startEpoch db)
  | .acceptMaterializationReceipt context profile operation epoch generation fingerprint code =>
    reply (fun receipt => .profile (some receipt))
      (acceptMaterializationReceipt env context profile operation epoch generation fingerprint
        code db)
  | .acceptCleanupReceipt context profile operation epoch digest result active proof =>
    reply (fun receipt => .profile (some receipt))
      (acceptCleanupReceipt env now context profile operation epoch digest result active proof
        db)
  | .claimNextExecution context claimId availableSlots =>
    reply .claim (claimNextExecution env now context claimId availableSlots db)
  | .renewLease context attempt leaseToken =>
    reply .lease (renewLease env now context attempt leaseToken db)
  | .appendRuntimeEvent context attempt leaseToken request =>
    reply .event (appendRuntimeEvent env now context attempt leaseToken request db)
  | .updateSessionBinding context attempt leaseToken request =>
    reply .binding (updateSessionBinding env now context attempt leaseToken request db)
  | .bindRoutineSession context attempt leaseToken expected effective =>
    reply .session (bindRoutineSession env now context attempt leaseToken expected effective db)
  | .compareAndSetSession profile expected new conversationRef =>
    reply .binding (compareAndSetSession profile expected new conversationRef db)
  | .acknowledgeStopped context attempt leaseToken reason requestDigest =>
    reply .stop (acknowledgeStopped env now context attempt leaseToken reason requestDigest db)
  | .completeAttempt context attempt leaseToken receipt terminalEvent =>
    reply .terminal (completeAttempt env now context attempt leaseToken receipt terminalEvent
      db)
  | .failAttempt context attempt leaseToken failure terminalEvent =>
    reply .terminal (failAttempt env now context attempt leaseToken failure terminalEvent db)
  | .appendRuntimeRoutineResult context attempt leaseToken request =>
    reply .routineTerminal (appendRuntimeRoutineResult env now context attempt leaseToken
      request db)
  | .readRuntimeApproval context attempt leaseToken request =>
    reply .approval (readRuntimeApproval env now context attempt leaseToken request db)
  | .authorizeAttemptMutation attempt lease tokenDigest machineGeneration updates =>
    reply (fun _ => .done) (authorizeAttemptMutation now attempt lease tokenDigest
      machineGeneration updates db)
  | .claimEventDeliveries limit =>
    reply .deliveryClaims (claimEventDeliveries env now limit db)
  | .markEventDelivery delivery attempt repairCycle result =>
    reply .delivery (markEventDelivery env now delivery attempt repairCycle result db)
  | .deferForSequenceGap claim => reply .flag (deferForSequenceGap now claim db)
  | .wakeAttemptSuccessors delivery =>
    reply (fun _ => .done) (wakeAttemptSuccessors now delivery db)
  | .redriveEventDeliveries deliveryIds eventIds confirm =>
    reply .redrive (redriveEventDeliveries env now deliveryIds eventIds confirm db)

/-- The state after a call; a call that raises changes nothing. -/
def step (env : Env D) (db : Db D) (call : Call D) : Db D :=
  Run.step (apply env) db call

def run (env : Env D) (db : Db D) (calls : List (Call D)) : Db D :=
  Run.run (apply env) db calls

def Reachable (env : Env D) (db : Db D) : Prop :=
  ∃ calls, run env Db.empty calls = db

/-! ## An environment to evaluate calls in -/

/-- Digests that keep what was digested, so that no two documents collide. -/
inductive PlainDigest where
  | document (document : Document)
  | token (text : String)
deriving DecidableEq

def plainFingerprint : String :=
  "canonical-json-sha256:v1:aaaaaaaaaaaaaaaaaaaaaaaaaaaaaaaaaaaaaaaaaaaaaaaaaaaaaaaaaaaaaaaa"

def Env.plain : Env PlainDigest where
  digestPayload := .document
  digestLeaseToken := .token
  digestText := fun _ => "digest"
  claimToken := fun claimId attempt generation =>
    s!"{claimId}.{attempt.execution}.{attempt.number}.{generation}"
  leaseExpiryEventId := fun attempt => 1000000 + 1000 * attempt.execution + attempt.number
  profileIdOf := fun binding => binding
  hermesProfileKey := fun profile => s!"profile-{profile}"
  seedFingerprint := fun _ _ _ => "seed"
  uuidText := fun id => toString id
  attemptStream := fun attempt => s!"attempt-{attempt.execution}-{attempt.number}"
  routineStream := fun runId => s!"routine-{runId}"
  jsonSize := fun _ => 64
  payloadSize := fun _ => 64
  commandFingerprint := fun _ => .ok plainFingerprint
  activityWirePayload := fun body _ => .ok body
  buildEventEnvelope := fun _ _ _ _ => .ok none
  isSafeErrorCode := isSafeCode
  routineResultIsValid := fun _ _ _ _ => true
  runtimeReleaseDigest := fun images => if images = [] then none else some "release"
  desiredImages := some [("runtime", "sha256")]
  readinessFreshness := seconds 90
  keepWarm := seconds 300

/-- The calls that bring up Workspace 0 at generation 1 with profile 50. -/
def bringUp : List (Call PlainDigest) :=
  [⟨0, .registerWorkspace "tenant"⟩,
    ⟨0, .claimOrWait 0 .ensure true⟩,
    ⟨0, .casPhase 0 1 2 .healthy ⟨some "app", some "volume", some "machine"⟩⟩,
    ⟨0, .claimOrWait 0 .ensure true⟩,
    ⟨0, .bindIdle 0 1 4 "machine" [("runtime", "sha256")]⟩,
    ⟨0, .acceptRuntimeReadiness ⟨0, 1⟩ 7 1 1⟩,
    ⟨0, .ensureRuntimeProfile 0 50 "20" (.obj [])⟩,
    ⟨0, .acceptMaterializationReceipt ⟨0, 1⟩ 50 51 0 1 "seed" "ok"⟩]

/-- The start of a replacement of that Machine: the generation is 2 from here on. -/
def replaceMachine : Call PlainDigest := ⟨0, .claimOrWait 0 (.replace 1) true⟩

/-- That replacement, and the fence after the old Machine stopped. -/
def fenceMachine : List (Call PlainDigest) :=
  [replaceMachine, ⟨0, .confirmMachineStoppedAndFence 0 1 2 (some "machine")⟩]

/-- Ordinary work on that Workspace: attempt 1 of Execution 7, leased under
`leaseToken`. -/
def ordinaryWork : List (Call PlainDigest) :=
  [⟨0, .createExecution 0 50 "key" (.obj [])⟩, ⟨0, .claimNextExecution ⟨0, 1⟩ 60 1⟩]

def routineDispatch : RoutineDispatch where
  scope := ⟨0, 10, 20, 50⟩
  commandId := 81
  idempotencyKey := 80
  routineId := 30
  routineRevision := 1
  occurrenceId := 31
  runId := 32
  schedule := .null
  delayed := false
  occurrenceDisposition := "on_time"
  mainConversationId := 40
  runConversationId := 41
  executionPrompt := "prompt"
  titleSnapshot := "title"
  fingerprint := "fingerprint"

/-- Routine work on that Workspace: attempt 1 of Execution 7, leased under
`leaseToken`. -/
def routineWork : List (Call PlainDigest) :=
  [⟨0, .acceptRoutineDispatch routineDispatch⟩, ⟨0, .claimNextExecution ⟨0, 1⟩ 60 1⟩]

def leaseToken : String := "60.7.1.1"

/-- That routine after its runtime reported the dispatch, with sequence 5. -/
def startedRoutine : List (Call PlainDigest) :=
  bringUp ++ routineWork ++
    [⟨0, .appendRuntimeEvent ⟨0, 1⟩ ⟨7, 1⟩ leaseToken ⟨70, "stream", 5, .dispatched⟩⟩]

def waitingRoutine : List (Call PlainDigest) :=
  startedRoutine ++ [⟨0, .requestRoutineApproval 7
    { actionAttemptId := 90
      approvalRequestId := 91
      actionDigest := "aaaaaaaaaaaaaaaaaaaaaaaaaaaaaaaaaaaaaaaaaaaaaaaaaaaaaaaaaaaaaaaa"
      providerIdempotencyKey := "provider"
      continuation := .null
      eventId := 92
      eventSequence := none
      expiresAt := 1000 }⟩]

end Foundry
