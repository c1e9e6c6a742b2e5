import Foundry.Evolution.Runtime

/-!
# Routine commands

Dispatch creates an Execution with its routine; every other command moves the
routine's current attempt, or answers from a stored receipt.
-/

set_option autoImplicit false

namespace Foundry

open Raise

variable {D : Type} [DecidableEq D]

section

variable (env : Env D) (call : Call D) (db next : Db D)

/-! ## Dispatch -/

omit [DecidableEq D] in
theorem resolveScope_workspace
    {scope : RoutineScope} {workspaceId profileId : Uuid} {workspace : Workspace}
    {profile : RuntimeProfile D}
    (success : resolveScope env scope db = .ok ((workspaceId, workspace), (profileId, profile))) :
    db.workspaces.lookup workspaceId = some workspace := by
  simp only [resolveScope, bind_eq_ok, orRaise_eq_ok, return_eq_ok] at success
  obtain ⟨_, resolved, _, _, _, _, isWorkspace, _⟩ := success
  subst isWorkspace
  rw [Option.orElse_eq_some] at resolved
  rcases resolved with byId | ⟨_, byTenant⟩
  · simp only [Option.map_eq_some_iff, Prod.mk.injEq] at byId
    obtain ⟨_, stored, rfl, rfl⟩ := byId
    exact stored
  · simp only [Db.workspaceByTenant] at byTenant
    exact (Table.mem_rows _ _ _).mp (List.mem_of_find?_eq_some byTenant)

omit [DecidableEq D] in
theorem resolveScope_profile
    {scope : RoutineScope} {workspaceId profileId : Uuid} {workspace : Workspace}
    {profile : RuntimeProfile D}
    (success : resolveScope env scope db = .ok ((workspaceId, workspace), (profileId, profile))) :
    db.profiles.lookup profileId = some profile ∧ profile.workspace = workspaceId ∧
      profile.allyRef = env.uuidText scope.allyId ∧
      profileId = env.profileIdOf scope.cloudBindingId := by
  simp only [resolveScope, bind_eq_ok, orRaise_eq_ok, return_eq_ok,
    Option.filter_eq_some_iff, decide_eq_true_eq] at success
  obtain ⟨_, _, _, ⟨stored, home, ally⟩, _, _, rfl, rfl, rfl⟩ := success
  exact ⟨stored, home, ally, rfl⟩

omit [DecidableEq D] in
theorem replayedCommand_unknown
    (workspace key : Uuid) (kind : RoutineCommandKind) (fingerprint : String)
    (success : replayedCommand workspace key kind fingerprint db = .ok none) :
    db.commandReceipts.lookup (workspace, key) = none := by
  simp only [replayedCommand] at success
  split at success
  · next unknown => exact unknown
  · simp at success

omit [DecidableEq D] in
theorem answers_dispatched (command : RoutineCommand) (occurrenceId runId : Uuid)
    (attempt : AttemptId) (generation : Nat) (now : Instant) :
    command.Answers db
      (.dispatched occurrenceId runId attempt generation command.scope.allyId now) :=
  .inl rfl

omit [DecidableEq D] in
theorem answers_decided (command : RoutineCommand) (code : String)
    (requestStatus : RoutineApprovalStatus) (runStatus : RoutineRunStatus) (consumed : Bool)
    (state : RoutineActionState) (now : Instant) :
    command.Answers db
      (.decided code requestStatus runStatus consumed state command.scope.allyId now) :=
  rfl

omit [DecidableEq D] in
theorem answers_cancelled (command : RoutineCommand) (code : String) (id : Uuid) (fence : Nat)
    (status : RoutineApprovalStatus) (execution : Execution D) (routine : RoutineExecution)
    (stored : db.executions.lookup id = some execution) (has : execution.routine = some routine)
    (bound : routine.cloudBindingId = command.scope.cloudBindingId) :
    command.Answers db (.cancelled code id fence status) :=
  ⟨execution, routine, stored, has, bound⟩

theorem storeCommandReceipt_evolution
    (start : Db D) (command : RoutineCommand) (workspaceId profileId : Uuid)
    (workspace : Workspace) (profile : RuntimeProfile D) (response : RoutineCommandResponse)
    (asked : call.operation.routineCommand = some command)
    (resolved : resolveScope env command.scope db = .ok ((workspaceId, workspace),
      (profileId, profile)))
    (replays : replayedCommand workspaceId command.idempotencyKey command.kind
      command.fingerprint db = .ok none)
    (answers : command.Answers db response) :
    Evolution env call start db
      (storeCommandReceipt workspaceId command.idempotencyKey command.commandId command.kind
        command.fingerprint response db) := by
  obtain ⟨stored, home, ally, rfl⟩ := resolveScope_profile env db resolved
  exact .single (.receipt workspaceId command profile response asked stored home ally answers
    (replayedCommand_unknown db workspaceId _ _ _ replays))

theorem ensureMainBinding_evolution
    (start : Db D) {profileId : Uuid} {profile : RuntimeProfile D} {conversationRef : String}
    {bindings : Table Uuid ConversationBinding}
    (stored : db.profiles.lookup profileId = some profile)
    (success : ensureMainBinding profileId conversationRef db.bindings = .ok bindings) :
    Evolution env call start db { db with bindings := bindings } := by
  simp only [ensureMainBinding] at success
  split at success
  · simp only [bind_eq_ok, pure_eq_ok] at success
    obtain ⟨_, _, rfl⟩ := success
    exact .refl db
  · next unknown =>
    simp only [bind_eq_ok, pure_eq_ok] at success
    obtain ⟨_, _, rfl⟩ := success
    exact .single (.reserveBinding profileId profile conversationRef stored unknown)

omit [DecidableEq D] in
theorem dispatchIdentityConflicts_fresh (workspaceId profileId : Uuid) (command : RoutineDispatch)
    (fresh : dispatchIdentityConflicts env workspaceId profileId command db = false)
    (id : Uuid) (other : Execution D) (stored : db.executions.lookup id = some other)
    (home : other.workspace = workspaceId) :
    other.idempotencyKey ≠ env.uuidText command.idempotencyKey := by
  intro same
  simp only [dispatchIdentityConflicts, List.any_eq_false] at fresh
  have apart := fresh (id, other) ((Table.mem_rows _ _ _).mpr stored)
  simp [home, same] at apart

omit [DecidableEq D] in
theorem dispatchedExecution_born
    (now : Instant) (workspaceId profileId : Uuid) (workspace : Workspace)
    (command : RoutineDispatch) (service : call.operation.service = .acceptRoutineDispatch) :
    Born call (dispatchedExecution env now workspaceId profileId workspace command) := by
  refine .routine _ _ workspace.machineGeneration service ?_ rfl rfl rfl rfl rfl
  intro number
  exact Table.lookup_insert_eq _ _ _ _

theorem acceptRoutineDispatch_evolution
    (command : RoutineDispatch) (response : RoutineCommandResponse)
    (asked : call.operation = .acceptRoutineDispatch command)
    (success : acceptRoutineDispatch env call.now command db = .ok (response, next)) :
    Evolution env call db db next := by
  simp only [acceptRoutineDispatch, bind_eq_ok] at success
  obtain ⟨⟨⟨workspaceId, workspace⟩, ⟨profileId, profile⟩⟩, resolved, success⟩ := success
  have stored := resolveScope_workspace env db resolved
  obtain ⟨owned, home, _, isProfile⟩ := resolveScope_profile env db resolved
  dsimp only at success
  obtain ⟨_, _, bindings, reserves, _, _, _, replays, success⟩ := success
  split at success
  · cases success
    exact ensureMainBinding_evolution env call db db owned reserves
  · have store := storeCommandReceipt_evolution env call db db (.dispatch command) workspaceId
      profileId workspace profile
    simp only [bind_eq_ok] at success
    obtain ⟨_, _, success⟩ := success
    split at success
    · next executionId existing occurs =>
      simp only [bind_eq_ok, orRaise_eq_ok, require_eq_ok, return_eq_ok] at success
      obtain ⟨routine, has, _, same, responds, rfl⟩ := success
      have known := (Table.mem_rows _ _ _).mp (List.mem_of_find?_eq_some occurs)
      have answers : (RoutineCommand.dispatch command).Answers db response := by
        subst responds
        exact .inr ⟨command, executionId, existing, routine, rfl, known, has, rfl, same⟩
      subst responds
      have receipts := store _ (by rw [asked]; rfl) resolved replays answers
      exact receipts.trans (ensureMainBinding_evolution env call _ db
        owned reserves)
    · simp only [bind_eq_ok, require_eq_ok, return_eq_ok] at success
      obtain ⟨_, fresh, woken, wakes, rfl, rfl⟩ := success
      have receipts := store _ (by rw [asked]; rfl) resolved replays
        (answers_dispatched db (.dispatch command) command.occurrenceId command.runId
          ⟨db.supply, 1⟩ workspace.machineGeneration call.now)
      have reserved := receipts.trans (ensureMainBinding_evolution env call _ db owned reserves)
      have created := reserved.trans
        (.single (.create (dispatchedExecution env call.now workspaceId profileId workspace command)
          profile
          (dispatchedExecution_born env call call.now workspaceId profileId workspace command
            (by rw [asked]; rfl)) owned home
          (dispatchIdentityConflicts_fresh env db workspaceId profileId command fresh)
          (fun _ => rfl) (.inl ⟨rfl, rfl⟩) (fun _ ordinary => by cases ordinary)
          (fun ordinary => by cases ordinary)
          (fun routine has => by cases has; exact ⟨command, asked, isProfile, rfl, rfl, rfl⟩)))
      have drawn := created.trans (.draw _)
      exact drawn.trans (.wake workspaceId _ workspace woken db.drew_second stored wakes)

/-! ## Approval requests -/

theorem requestRoutineApproval_evolution
    (executionId : Uuid) (request : RoutineApprovalRequest) (answer : ExecutionEvent D)
    (asked : call.operation = .requestRoutineApproval executionId request)
    (success : requestRoutineApproval env call.now executionId request db = .ok (answer, next)) :
    Evolution env call db db next := by
  have service : call.operation.service = .requestRoutineApproval := by rw [asked]; rfl
  have target : call.operation.routineTarget = some executionId := by rw [asked]; rfl
  simp only [requestRoutineApproval, bind_eq_ok, orRaise_eq_ok, require_eq_ok] at success
  obtain ⟨_, _, _, _, _, _, _, _, _, _, execution, stored, routine, has, number, current, attempt,
    found, success⟩ := success
  have isCurrent : execution.routineAt number = some routine := by simp [has, current]
  split at success
  · simp only [bind_eq_ok, return_eq_ok] at success
    obtain ⟨_, _, _, _, _, _, _, rfl⟩ := success
    exact .refl db
  · simp only [bind_eq_ok, orRaise_eq_ok, require_eq_ok, return_eq_ok] at success
    obtain ⟨_, eligible, lease, kept, _, _, _, noPending, _, bounds, _, later, _, unknown,
      deliveries, publishes, _, rfl⟩ := success
    rw [Option.filter_eq_some_iff] at kept
    exact .append ⟨executionId, number⟩ execution attempt _ _ _ [_] deliveries stored found
      (.requestApproval routine lease _ _ service isCurrent eligible.1 eligible.2 kept.1 kept.2
        noPending rfl ⟨unknown, later⟩ bounds.2 rfl)
      (.inl (by simp [service])) (.inr (.inr ⟨target, by rw [isCurrent]; rfl⟩))
      (List.forall_mem_singleton.mpr (attempt.findEvent_store unknown))
      (by rw [publishEvents_single]; exact publishes)

/-! ## The end of a wait -/

omit [DecidableEq D] in
theorem closeAction_fields (routine : RoutineExecution) (request : Uuid) (waitEnd : WaitEnd) :
    (routine.closeAction request waitEnd).status = routine.status ∧
      (routine.closeAction request waitEnd).currentAttempt = routine.currentAttempt :=
  ⟨rfl, rfl⟩

theorem endWait_cases {now : Instant} {executionId eventId : Uuid} {number : Nat} {request : Uuid}
    {waitEnd : WaitEnd} {routine : RoutineExecution} {execution ended : Execution D}
    {attempt : Attempt D} {outcome : Append D} (current : execution.routineAt number = some routine)
    (found : execution.attempt? number = some attempt)
    (success : endWait env now executionId eventId number request waitEnd routine execution =
      .ok (outcome, ended)) :
    ∃ event, outcome = .appended event ∧ NextResult routine attempt event ∧
      ended = execution.write number (attempt.endWait now waitEnd event)
        waitEnd.executionStatus (some (routine.endWait request waitEnd event)) := by
  simp only [endWait, bind_eq_ok] at success
  obtain ⟨⟨_, failed⟩, recorded, success⟩ := success
  obtain ⟨_, _, same, event, isCurrent, isAttempt, rfl, result, rfl⟩ :=
    recordTerminalFailureResult_cases recorded
  rw [Execution.routineAt_eq_some] at current isCurrent
  obtain ⟨isClosed, isNumber⟩ := isCurrent
  simp only [Option.some.injEq] at isClosed
  subst isClosed
  have fields := closeAction_fields routine request waitEnd
  rw [fields.2, current.2, Option.some.injEq] at isNumber
  subst isNumber
  have isSame : execution.attempt? number = some same := isAttempt
  cases found.symm.trans isSame
  simp only [write_routine, orRaise_some, Except.ok.injEq, attempt?_write_same, return_eq_ok] at success
  obtain ⟨_, rfl, _, rfl, rfl, rfl⟩ := success
  refine ⟨event, rfl, ⟨⟨?_, result.unknown, result.free, result.bounded, result.kind⟩, result.next⟩,
    ?_⟩
  · rw [← fields.1]
    exact result.unfinished
  · exact write_write { execution with routine := some (routine.closeAction request waitEnd) }
      number _ _ _ _ _ _

omit [DecidableEq D] in
theorem findEvent_endWait (attempt : Attempt D) (now : Instant) (waitEnd : WaitEnd)
    (event : ExecutionEvent D) (unknown : attempt.findEvent event.eventId = none) :
    (attempt.endWait now waitEnd event).findEvent event.eventId = some event := by
  have stored := attempt.findEvent_store unknown
  simp only [Attempt.endWait]
  split <;> exact stored

theorem endWait_evolution
    (start : Db D) {id : AttemptId} {action : RoutineApprovalAction} {waitEnd : WaitEnd}
    {routine : RoutineExecution} {execution ended : Execution D} {attempt : Attempt D}
    {outcome : Append D} {eventId : Uuid} {deliveries : Table DeliveryId ExecutionEventDelivery}
    (target : call.operation.routineTarget = some id.execution)
    (service : call.operation.service = .decideRoutineApproval ∨
      call.operation.service = .cancelRoutineWait ∨
      call.operation.service = .expireRoutineApproval)
    (ending : (∃ digest, waitEnd = .rejected digest) ∨
      (∃ occurrence, waitEnd = .cancelled occurrence) ∨ waitEnd = .expired)
    (stored : db.executions.lookup id.execution = some execution)
    (found : execution.attempt? id.number = some attempt)
    (current : execution.routineAt id.number = some routine)
    (listed : action ∈ routine.actions) (pending : action.status = .pending)
    (success : endWait env call.now id.execution eventId id.number action.approvalRequestId
      waitEnd routine execution = .ok (outcome, ended))
    (publishes : enqueueAppended env id execution attempt outcome db.deliveries =
      .ok deliveries) :
    Evolution env call start db
      { db.draw.putExecution id.execution ended with deliveries := deliveries } := by
  obtain ⟨event, rfl, result, rfl⟩ := endWait_cases env current found success
  have notClaim : call.operation.service ≠ .claimNextExecution := by
    rcases service with service | service | service <;> simp [service]
  exact (Evolution.draw db).trans (.append id execution attempt _ _ _ [event] deliveries stored
    found (.endWait routine action waitEnd event service ending current listed pending result)
    (.inl notClaim) (.inr (.inr ⟨target, by rw [current]; rfl⟩))
    (List.forall_mem_singleton.mpr
      (findEvent_endWait attempt call.now waitEnd event result.unknown))
    (by rw [publishEvents_single]; exact publishes))

omit [DecidableEq D] in
theorem findRoutineRun_eq_some
    (workspaceId runId : Uuid) (id : AttemptId) (execution : Execution D) (attempt : Attempt D)
    (routine : RoutineExecution)
    (found : findRoutineRun workspaceId runId id db = some (execution, attempt, routine)) :
    db.executions.lookup id.execution = some execution ∧
      execution.attempt? id.number = some attempt ∧
      execution.routineAt id.number = some routine := by
  simp only [findRoutineRun, Option.bind_eq_some_iff, Option.map_eq_some_iff, Prod.mk.injEq,
    Option.filter_eq_some_iff] at found
  obtain ⟨⟨_, _⟩, isIn, _, ⟨current, _⟩, rfl, rfl, rfl⟩ := found
  obtain ⟨stored, held, _⟩ := (Db.attemptIn_eq_some _ _ _ _ _).mp isIn
  exact ⟨stored, held, current⟩

theorem decideRoutineApproval_evolution
    (command : RoutineApprovalDecision) (response : RoutineCommandResponse)
    (asked : call.operation = .decideRoutineApproval command)
    (success : decideRoutineApproval env call.now command db = .ok (response, next)) :
    Evolution env call db db next := by
  simp only [decideRoutineApproval, bind_eq_ok] at success
  obtain ⟨⟨⟨workspaceId, workspace⟩, ⟨profileId, profile⟩⟩, resolved, success⟩ := success
  have known := resolveScope_workspace env db resolved
  dsimp only at success
  obtain ⟨_, replays, success⟩ := success
  split at success
  · cases success
    exact .refl db
  · have store : ∀ code requestStatus runStatus consumed state, Evolution env call db db _ :=
      fun code requestStatus runStatus consumed state =>
        storeCommandReceipt_evolution env call db db (.decision command) workspaceId profileId
          workspace profile _ (by rw [asked]; rfl) resolved replays
          (answers_decided db (.decision command) code requestStatus runStatus consumed state
            call.now)
    simp only [bind_eq_ok, orRaise_eq_ok, require_eq_ok] at success
    obtain ⟨_, _, ⟨execution, attempt, routine⟩, found, success⟩ := success
    obtain ⟨stored, held, current⟩ := findRoutineRun_eq_some db _ _ _ _ _ _ found
    dsimp only at success
    obtain ⟨_, _, action, isAction, _, _, _, pending, success⟩ := success
    have listed := List.mem_of_find?_eq_some isAction
    have named : action.approvalRequestId = command.approvalRequestId ∧
        action.actionAttemptId = command.actionAttemptId := by
      simpa using List.find?_some isAction
    rw [← named.1] at success
    split at success
    · simp only [bind_eq_ok, return_eq_ok] at success
      obtain ⟨⟨outcome, ended⟩, ends, deliveries, publishes, _, rfl⟩ := success
      exact (store "APPROVAL_EXPIRED" .expired .expired false .preDispatch).trans
        (endWait_evolution env call _ db (by rw [asked]; rfl)
          (.inl (by rw [asked]; rfl)) (.inr (.inr rfl)) stored held current listed pending ends
          publishes)
    · next unexpired =>
      split at success
      · simp only [bind_eq_ok, return_eq_ok] at success
        obtain ⟨⟨outcome, ended⟩, ends, deliveries, publishes, _, rfl⟩ := success
        exact (store "APPROVAL_REJECTED" .rejected .cancelled true _).trans
          (endWait_evolution env call _ db (by rw [asked]; rfl) (.inl (by rw [asked]; rfl))
            (.inl ⟨_, rfl⟩) stored held current listed pending ends publishes)
      · next notRejected =>
        have granted : command.decision = .approve := by
          cases decision : command.decision with
          | approve => rfl
          | reject => exact absurd decision notRejected
        simp only [bind_eq_ok, return_eq_ok] at success
        obtain ⟨woken, wakes, _, rfl⟩ := success
        have receipts := store "APPROVAL_AUTHORIZED" .authorizing .working true .preDispatch
        have moves := (receipts.trans (.draw _)).trans
          (.single (.move command.attempt execution attempt _ _ _ stored held
            (.approve command routine action ((command.fingerprint.splitOn ":").getLastD "") asked
              rfl granted current listed pending (Nat.lt_of_not_le unexpired))
            (.inl (by simp [asked, Operation.service]))
            (.inr (.inr ⟨by rw [asked]; rfl, by rw [current]; rfl⟩))))
        exact moves.trans
          (.wake workspaceId _ workspace woken db.drew known wakes)

theorem cancelRoutineWait_evolution
    (command : RoutineCancelWait) (response : RoutineCommandResponse)
    (asked : call.operation = .cancelRoutineWait command)
    (success : cancelRoutineWait env call.now command db = .ok (response, next)) :
    Evolution env call db db next := by
  simp only [cancelRoutineWait, bind_eq_ok] at success
  obtain ⟨⟨⟨workspaceId, workspace⟩, ⟨profileId, profile⟩⟩, resolved, success⟩ := success
  dsimp only at success
  obtain ⟨_, replays, success⟩ := success
  split at success
  · cases success
    exact .refl db
  · simp only [bind_eq_ok, orRaise_eq_ok, require_eq_ok] at success
    obtain ⟨_, _, ⟨execution, attempt, routine⟩, found, success⟩ := success
    obtain ⟨stored, held, current⟩ := findRoutineRun_eq_some db _ _ _ _ _ _ found
    dsimp only at success
    obtain ⟨_, ⟨_, bound⟩, action, isAction, success⟩ := success
    have store : ∀ code fence status, Evolution env call db db _ :=
      fun code fence status =>
        storeCommandReceipt_evolution env call db db (.cancel command) workspaceId profileId
          workspace profile _ (by rw [asked]; rfl) resolved replays
          (answers_cancelled db (.cancel command) code command.attempt.execution fence status
            execution routine stored ((Execution.routineAt_eq_some _ _ _).mp current).1 bound)
    have listed := List.mem_of_find?_eq_some isAction
    have named : action.approvalRequestId = command.approvalRequestId := by
      simpa using List.find?_some isAction
    rw [← named] at success
    split at success
    · cases success
      exact store _ _ _
    · split at success
      · cases success
        exact store _ _ _
      · next notPending =>
        simp only [bind_eq_ok, return_eq_ok] at success
        obtain ⟨⟨outcome, ended⟩, ends, deliveries, publishes, _, rfl⟩ := success
        exact (store _ _ _).trans
          (endWait_evolution env call _ db (by rw [asked]; rfl)
            (.inr (.inl (by rw [asked]; rfl))) (.inr (.inl ⟨_, rfl⟩)) stored held current listed
            (by simpa using notPending) ends publishes)

theorem expireRoutineApproval_evolution (executionId request : Uuid) (expired : Bool)
    (asked : call.operation = .expireRoutineApproval executionId request)
    (success : expireRoutineApproval env call.now executionId request db = .ok (expired, next)) :
    Evolution env call db db next := by
  simp only [expireRoutineApproval] at success
  split at success
  · cases success
    exact .refl db
  · next isPending =>
    simp only [Option.bind_eq_some_iff, Option.map_eq_some_iff, Prod.mk.injEq] at isPending
    obtain ⟨execution, stored, routine, has, number, current, attempt, held, action, isAction,
      rfl, rfl, rfl, rfl⟩ := isPending
    have listed := List.mem_of_find?_eq_some isAction
    have matched : action.approvalRequestId = request ∧ action.status = .pending ∧
        action.expiresAt ≤ call.now := by
      simpa using List.find?_some isAction
    rw [← matched.1] at success
    simp only [bind_eq_ok, return_eq_ok] at success
    obtain ⟨⟨outcome, ended⟩, ends, deliveries, publishes, _, rfl⟩ := success
    exact endWait_evolution env call db db (by rw [asked]; rfl)
      (.inr (.inr (by rw [asked]; rfl))) (.inr (.inr rfl)) stored held (by simp [has, current])
      listed matched.2.1 ends publishes

/-! ## Results -/

theorem recordRoutineResult_evolution
    (executionId : Uuid) (eventId : Option Uuid) (args : RoutineResultArgs)
    (answer : ExecutionEvent D)
    (asked : call.operation = .recordRoutineResult executionId eventId args)
    (success : recordRoutineResult env call.now executionId eventId args db =
      .ok (answer, next)) :
    Evolution env call db db next := by
  simp only [recordRoutineResult, bind_eq_ok, orRaise_eq_ok] at success
  obtain ⟨execution, stored, ⟨outcome, finished⟩, recorded, success⟩ := success
  obtain ⟨routine, _, attempt, current, held, replay | fresh⟩ :=
    recordRoutineResultOnce_cases recorded
  · obtain ⟨_, rfl, _⟩ := replay
    cases success
    exact .refl db
  · obtain ⟨event, rfl, result, named, sequence, rfl⟩ := fresh
    simp only [bind_eq_ok, orRaise_eq_ok, return_eq_ok] at success
    obtain ⟨other, isCurrent, _, isHeld, deliveries, publishes, _, rfl⟩ := success
    have numbered : execution.routineAt other = some routine := by
      rw [Execution.routineAt_eq_some] at current ⊢
      rw [current.1] at isCurrent
      exact ⟨current.1, isCurrent⟩
    obtain ⟨rfl, _⟩ := execution.routineAt_unique current numbered
    cases held.symm.trans isHeld
    refine (Evolution.draw db).trans (.append ⟨executionId, other⟩ execution attempt _ _ _ [event]
      deliveries stored held
      (.record routine args.outcome event (by rw [asked]; rfl) ?_ current result ?_
        (by rw [asked]; rfl))
      (.inl (by simp [asked, Operation.service]))
      (.inr (.inr ⟨by rw [asked]; rfl, by rw [current]; rfl⟩))
      (List.forall_mem_singleton.mpr (attempt.findEvent_store result.unknown))
      (by rw [publishEvents_single]; exact publishes))
    · intro sent carried
      rw [asked] at carried
      rw [named, show eventId = some sent from carried]
      rfl
    cases explicit : args.eventSequence with
    | none =>
      right
      rw [sequence, explicit]
      rfl
    | some =>
      left
      rw [asked, named, sequence]
      simp [Operation.explicitResult, explicit]

end

end Foundry
