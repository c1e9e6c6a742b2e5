import Foundry.Evolution.Basic

/-!
# Calls of the runtime API

Each operation of a runtime on one attempt makes one move of it, or none when it
answers from a stored receipt.
-/

set_option autoImplicit false

namespace Foundry

open Raise

variable {D : Type} [DecidableEq D]

section

variable (env : Env D) (call : Call D) (db next : Db D)

/-! ## Events -/

section

variable {now : Instant} {workspace : Workspace} {profile : RuntimeProfile D}
  {execution : Execution D} {attempt : Attempt D} {tokenDigest : D} {machineGeneration : Nat}

theorem authorizeAttempt_active {lease : Lease D}
    (success : authorizeAttempt now workspace profile execution attempt tokenDigest
      machineGeneration = .ok lease) :
    attempt.lease = some lease ∧ lease.state = .active := by
  simp only [authorizeAttempt, bind_eq_ok, orRaise_eq_ok, require_eq_ok, pure_eq_ok] at success
  obtain ⟨_, held, _, current, _, _, _, _, rfl⟩ := success
  exact ⟨held, current.2.2.2.2.2.2⟩

section

variable {reserved : Bool} {request : EventRequest} {outcome : Append D}
  (success : appendEventOnce env now workspace profile execution attempt tokenDigest machineGeneration reserved request = .ok outcome)

include reserved request success

theorem appendEventOnce_cases :
    (∃ existing, outcome = .replayed existing ∧
        attempt.findEvent request.eventId = some existing) ∨
      (outcome = .appended (request.toEvent env now) ∧
        NewEvent attempt (request.toEvent env now) ∧
        attempt.status.isOpen = true ∧
        request.sequence ≤ maximumSequence reserved request.payload.eventType ∧
        ∃ lease, attempt.lease = some lease ∧ lease.state = .active) := by
  simp only [appendEventOnce, bind_eq_ok, require_eq_ok] at success
  obtain ⟨_, bounds, _, _, _, _, success⟩ := success
  split at success
  · next existing known =>
    refine .inl ⟨existing, ?_, known⟩
    split at success
    · simp only [bind_eq_ok, pure_eq_ok] at success
      obtain ⟨_, _, same⟩ := success
      exact same.symm
    · simp only [bind_eq_ok, pure_eq_ok] at success
      obtain ⟨_, _, _, _, same⟩ := success
      exact same.symm
  · next unknown =>
    simp only [bind_eq_ok, require_eq_ok, pure_eq_ok] at success
    obtain ⟨lease, authorized, _, isOpen, _, later, rfl⟩ := success
    have held := authorizeAttempt_active authorized
    exact .inr ⟨rfl, ⟨unknown, later⟩, isOpen, bounds.2, lease, held⟩

theorem appendEventOnce_known :
    (outcome.applyTo attempt).findEvent outcome.event.eventId = some outcome.event := by
  rcases appendEventOnce_cases env success with
    ⟨existing, rfl, known⟩ | ⟨rfl, fresh, _⟩
  · have named := (attempt.findEvent_eq_some known).2
    simp only [Append.applyTo, Append.event]
    rw [named]
    exact known
  · exact attempt.findEvent_store fresh.unknown

end

end

omit [DecidableEq D] in
theorem runtimeEventPayload_isReported {now : Instant} {given payload : EventPayload}
    (success : runtimeEventPayload env now given = .ok payload) :
    payload.eventType.isReported = true := by
  cases given <;> simp only [runtimeEventPayload, bind_eq_ok, pure_eq_ok, throw_eq_ok] at success
  case activityStarted _ | activityCompleted _ =>
    split at success
    · cases success
      rfl
    · simp only [bind_eq_ok, pure_eq_ok] at success
      obtain ⟨_, _, rfl⟩ := success
      rfl
  case messageDelta text =>
    obtain ⟨_, _, _, _, rfl⟩ := success
    rfl
  case dispatched | approvalResolved _ _ =>
    subst success
    rfl
  all_goals
    obtain ⟨_, _, rfl⟩ := success
    rfl

theorem maximumSequence_unreserved (eventType : EventType) :
    maximumSequence false eventType = maxRuntimeEventSequence := rfl

theorem recordEventApprovals_evolution
    (start : Db D) {id : AttemptId} {execution : Execution D} {attempt : Attempt D}
    {lease : Lease D} {workspace : Workspace} {outcome : Append D}
    {approvals : Table Uuid ApprovalRequest}
    (service : call.operation.service = .appendRuntimeEvent)
    (stored : db.executions.lookup id.execution = some execution)
    (found : execution.attempt? id.number = some attempt)
    (held : attempt.lease = some lease) (active : lease.state = .active)
    (success : recordEventApprovals call.now id execution attempt workspace outcome
      db.approvals = .ok approvals) :
    Evolution env call start db { db with approvals := approvals } := by
  cases outcome with
  | replayed =>
    simp only [recordEventApprovals, pure_eq_ok] at success
    subst success
    exact .refl db
  | appended =>
    simp only [recordEventApprovals] at success
    split at success
    · next material _ =>
      exact .single (.openApproval id execution attempt lease workspace material approvals
        service stored found held active success)
    · next request resolution _ =>
      exact .single (.resolveApproval id request resolution approvals success)
    · cases success
      exact .refl db

section

variable (context : RuntimeContext) (id : AttemptId) (leaseToken : String)

theorem appendRuntimeEvent_evolution {request : EventRequest} {answer : ExecutionEvent D}
    (asked : call.operation = .appendRuntimeEvent context id leaseToken request)
    (success : appendRuntimeEvent env call.now context id leaseToken request db =
      .ok (answer, next)) :
    Evolution env call db db next := by
  simp only [appendRuntimeEvent, bind_eq_ok, orRaise_eq_ok, require_eq_ok] at success
  obtain ⟨payload, allowed, _, _, workspace, _, _, _, ⟨execution, attempt⟩, found, success⟩ :=
    success
  obtain ⟨stored, held, _⟩ := (Db.attemptIn_eq_some _ _ _ _ _).mp found
  dsimp only at success
  obtain ⟨profile, _, _, _, outcome, appended, approvals, approves, deliveries, publishes,
    success⟩ := success
  rcases appendEventOnce_cases env appended with
    ⟨existing, rfl, known⟩ | ⟨rfl, fresh, isOpen, bounded, lease, kept, active⟩
  · simp only [recordEventApprovals, pure_eq_ok] at approves
    subst approves
    simp only [return_eq_ok] at success
    obtain ⟨_, rfl⟩ := success
    have named := (attempt.findEvent_eq_some known).2
    exact .enqueue id execution execution attempt attempt existing deliveries stored .refl held held
      (by rw [named]; exact known) publishes
  · cases success
    have opens := recordEventApprovals_evolution env call db db (by rw [asked]; rfl) stored held kept active approves
    exact opens.trans (.append id execution attempt _ _ _ [_] deliveries stored held
      (.append _ lease (by rw [asked]; rfl) (by rw [asked]; rfl) kept active isOpen fresh bounded
        (runtimeEventPayload_isReported env allowed))
      (.inl (by simp [asked, Operation.service]))
      (.inl (by simp [Attempt.hasUnresolvedLease, Attempt.store, kept, active,
        LeaseState.isUnresolved]))
      (List.forall_mem_singleton.mpr (attempt.findEvent_store fresh.unknown))
      (by rw [publishEvents_single]; exact publishes))

theorem readRuntimeApproval_evolution {request : Uuid} {approval : ApprovalRequest}
    (success : readRuntimeApproval env call.now context id leaseToken request db =
      .ok (approval, next)) :
    Evolution env call db db next := by
  simp only [readRuntimeApproval, bind_eq_ok, orRaise_eq_ok, return_eq_ok] at success
  obtain ⟨_, _, _, _, _, _, _, _, _, _, stored, found, _, rfl⟩ := success
  rw [Option.filter_eq_some_iff] at found
  exact .single (.readApproval request stored found.1)

end

/-! ## Leases -/

theorem renewLease_evolution
    (context : RuntimeContext) (id : AttemptId) (leaseToken : String) (receipt : LeaseReceipt)
    (service : call.operation.service = .renewLease)
    (success : renewLease env call.now context id leaseToken db = .ok (receipt, next)) :
    Evolution env call db db next := by
  simp only [renewLease, bind_eq_ok, orRaise_eq_ok, require_eq_ok] at success
  obtain ⟨_, _, _, _, _, _, ⟨execution, attempt⟩, found, success⟩ := success
  obtain ⟨stored, held, _⟩ := (Db.attemptIn_eq_some _ _ _ _ _).mp found
  simp only [return_eq_ok] at success
  obtain ⟨_, _, _, _, lease, kept, _, _, _, active, _, _, _, rfl⟩ := success
  rw [Option.filter_eq_some_iff] at kept
  exact .single (.move id execution attempt _ _ _ stored held
    (.renew lease _ service kept.1 active) (.inl (by simp [service]))
    (.inl (by simp [Attempt.hasUnresolvedLease, Attempt.setLease, active,
      LeaseState.isUnresolved])))

theorem authorizeAttemptMutation_evolution
    (id leaseId : AttemptId) (tokenDigest : D) (machineGeneration : Nat)
    (updates : AttemptUpdates) (answer : Unit) (asked : call.operation =
      .authorizeAttemptMutation id leaseId tokenDigest machineGeneration updates)
    (success : authorizeAttemptMutation call.now id leaseId tokenDigest machineGeneration updates
      db = .ok (answer, next)) :
    Evolution env call db db next := by
  simp only [authorizeAttemptMutation, bind_eq_ok, orRaise_eq_ok, require_eq_ok] at success
  obtain ⟨_, _, ⟨execution, attempt⟩, found, success⟩ := success
  obtain ⟨stored, held⟩ := (Db.attempt?_eq_some _ _ _ _).mp found
  simp only [return_eq_ok] at success
  obtain ⟨_, _, workspace, _, profile, _, lease, authorized, _, valid, _, rfl⟩ := success
  have kept := authorizeAttempt_active authorized
  simp only [validateAttemptMutation, bind_eq_ok, require_eq_ok] at valid
  obtain ⟨_, allowed, _⟩ := valid
  exact .single (.move id execution attempt _ _ _ stored held
    (.mutate lease updates leaseId tokenDigest machineGeneration asked kept.1 kept.2 allowed)
    (.inl (by simp [asked, Operation.service]))
    (.inl (by simp [Attempt.hasUnresolvedLease, Attempt.mutate, kept, LeaseState.isUnresolved])))

/-! ## Sessions -/

section

variable (context : RuntimeContext) (id : AttemptId) (leaseToken : String)

theorem updateSessionBinding_evolution {request : SessionRequest} {binding : ConversationBinding}
    (asked : call.operation = .updateSessionBinding context id leaseToken request)
    (success : updateSessionBinding env call.now context id leaseToken request db =
      .ok (binding, next)) :
    Evolution env call db db next := by
  simp only [updateSessionBinding, bind_eq_ok, orRaise_eq_ok, require_eq_ok] at success
  obtain ⟨_, _, _, valid, _, _, _, _, _, _, ⟨execution, attempt⟩, found, success⟩ := success
  have named : request.effectiveSessionId ≠ "" := by
    simp only [validateSessionId, bind_eq_ok, validateNonempty, require_eq_ok] at valid
    obtain ⟨_, bounds, _⟩ := valid
    exact bounds.1
  rw [Option.filter_eq_some_iff] at found
  obtain ⟨found, ordinary⟩ := found
  obtain ⟨stored, held, _⟩ := (Db.attemptIn_eq_some _ _ _ _ _).mp found
  dsimp only at success
  obtain ⟨profile, owned, _, _, lease, kept, success⟩ := success
  rw [Option.filter_eq_some_iff] at kept
  split at success
  · simp only [bind_eq_ok, return_eq_ok] at success
    obtain ⟨_, _, _, _, _, _, _, rfl⟩ := success
    exact .refl db
  · next first =>
    simp only [bind_eq_ok, require_eq_ok, return_eq_ok] at success
    obtain ⟨_, _, _, active, _, _, bindings, binds, _, rfl⟩ := success
    have plain : execution.routine = none := by
      simpa [Execution.isRoutineDispatch] using ordinary
    have service : call.operation.service = .updateSessionBinding := by rw [asked]; rfl
    have bound : Evolution env call db db { db with bindings := bindings } :=
      .single (.bindSession context id leaseToken request execution profile bindings asked
        stored owned named binds)
    exact bound.trans (.single (.move id execution attempt _ _ _ stored held
      (.bindSession lease _ _ _ service plain kept.1 active first) (.inl (by simp [service]))
      (.inl (by simp [Attempt.hasUnresolvedLease, Attempt.storeSessionReceipt, kept.1, active,
        LeaseState.isUnresolved]))))

theorem bindRoutineSession_evolution {expected : Option String} {effective session : String}
    (service : call.operation.service = .bindRoutineSession)
    (success : bindRoutineSession env call.now context id leaseToken expected effective db =
      .ok (session, next)) :
    Evolution env call db db next := by
  simp only [bindRoutineSession, bind_eq_ok, orRaise_eq_ok, require_eq_ok] at success
  obtain ⟨_, _, tokenDigest, _, _, _, _, _, ⟨execution, attempt⟩, found, success⟩ :=
    success
  obtain ⟨stored, held, _⟩ := (Db.attemptIn_eq_some _ _ _ _ _).mp found
  dsimp only at success
  obtain ⟨routine, current, lease, kept, _, _, _, live, acquisition, bound, success⟩ := success
  rw [Option.filter_eq_some_iff] at kept
  split at success
  · simp only [bind_eq_ok, return_eq_ok] at success
    obtain ⟨_, _, _, rfl⟩ := success
    exact .refl db
  · next first =>
    have written : next = db.putExecution id.execution
        (applyRoutineSession id.number tokenDigest
          (env.digestPayload (.routineSession expected effective)) effective routine attempt lease
          execution) ∧
        ∀ session, routine.hermesSessionId = some session → session = effective := by
      split at success
      · next bound =>
        simp only [bind_eq_ok, require_eq_ok, return_eq_ok] at success
        obtain ⟨_, _, _, kept, _, same⟩ := success
        refine ⟨same.symm, fun session isBound => ?_⟩
        rw [bound, Option.some.injEq] at isBound
        exact isBound ▸ kept
      · next unbound =>
        simp only [bind_eq_ok, return_eq_ok] at success
        obtain ⟨_, _, _, same⟩ := success
        refine ⟨same.symm, fun session isBound => ?_⟩
        rw [unbound] at isBound
        cases isBound
    obtain ⟨rfl, immutable⟩ := written
    exact .single (.move id execution attempt _ _ _ stored held
      (.bindRoutineSession routine lease _ _ _ service current kept.1 live.1 acquisition bound first
        immutable)
      (.inl (by simp [service]))
      (.inl (by simp [Attempt.hasUnresolvedLease, Attempt.setLease, Lease.bindSession, live.1,
        LeaseState.isUnresolved])))

end

/-! ## Stops -/

omit [DecidableEq D] in
theorem applyStop_write (number : Nat) (requestDigest tokenDigest : D) (receipt : StoppedReceipt)
    (status : AttemptStatus) (ended attempt : Attempt D) (execution : Execution D)
    (given : ExecutionStatus) (routine : Option RoutineExecution) :
    applyStop number requestDigest tokenDigest receipt status ended
        (execution.write number attempt given routine) =
      execution.write number (ended.stopped requestDigest tokenDigest receipt status)
        (if receipt.requeued then .queued else .failed) routine :=
  write_write execution number attempt given routine _ _ _

theorem acknowledgeStopped_evolution
    (context : RuntimeContext) (id : AttemptId) (leaseToken reason : String)
    (supplied : Option D) (receipt : StopReceipt)
    (asked : call.operation = .acknowledgeStopped context id leaseToken reason supplied)
    (success : acknowledgeStopped env call.now context id leaseToken reason supplied db =
      .ok (receipt, next)) :
    Evolution env call db db next := by
  simp only [acknowledgeStopped, bind_eq_ok, orRaise_eq_ok, require_eq_ok] at success
  obtain ⟨_, _, _, _, _, _, _, _, ⟨execution, attempt⟩, found, success⟩ :=
    success
  obtain ⟨stored, held, _⟩ := (Db.attemptIn_eq_some _ _ _ _ _).mp found
  dsimp only at success
  obtain ⟨_, _, success⟩ := success
  split at success
  · simp only [bind_eq_ok, return_eq_ok] at success
    obtain ⟨_, _, _, rfl⟩ := success
    exact .refl db
  · next first =>
    simp only [bind_eq_ok, orRaise_eq_ok, require_eq_ok] at success
    obtain ⟨_, _, lease, kept, _, _, _, unresolved, success⟩ := success
    rw [Option.filter_eq_some_iff] at kept
    split at success
    · next ordinary =>
      cases success
      refine .settledAppend id execution attempt _ _ _ [] db.deliveries stored held
        (.stop context leaseToken reason supplied lease _ _ _ asked ordinary kept.1
          unresolved first ?_) (.inl (by simp [asked, Operation.service])) (by simp) rfl
      intro requeued
      simp only [Bool.and_eq_true, Bool.not_eq_true'] at requeued
      exact requeued.2
    · next current =>
      simp only [bind_eq_ok] at success
      obtain ⟨⟨outcome, finished⟩, recorded, success⟩ := success
      obtain ⟨routine, _, _, event, isCurrent, isAttempt, rfl, result, rfl⟩ :=
        recordTerminalFailureResult_cases recorded
      obtain ⟨rfl, rfl⟩ := execution.routineAt_unique current isCurrent
      cases held.symm.trans isAttempt
      simp only [attempt?_write_same, orRaise_some, Except.ok.injEq, return_eq_ok] at success
      obtain ⟨_, rfl, deliveries, publishes, _, rfl⟩ := success
      rw [applyStop_write]
      exact (Evolution.draw db).trans (.settledAppend id execution attempt _ _ _ [event]
        deliveries stored held
        (.stopRoutine context leaseToken reason supplied routine lease event _ _ _ asked
          current kept.1 unresolved first result)
        (.inl (by simp [asked, Operation.service]))
        (List.forall_mem_singleton.mpr (attempt.findEvent_store result.unknown))
        (by rw [publishEvents_single]; exact publishes))

/-! ## Terminal requests -/

omit [DecidableEq D] in
theorem checkTerminalEvent_type {ends : EventType} {event : TerminalEvent} {answer : Unit}
    (success : checkTerminalEvent env ends event = .ok answer) :
    event.payload.eventType = ends := by
  simp only [checkTerminalEvent, bind_eq_ok, require_eq_ok] at success
  obtain ⟨_, _, _, _, _, _, _, typed, _⟩ := success
  exact typed

omit [DecidableEq D] in
theorem validateBoundedReceipt_eq {receipt canonical : Json}
    (valid : validateBoundedReceipt env receipt = .ok canonical) : canonical = receipt := by
  simp only [validateBoundedReceipt] at valid
  split at valid
  · simp only [bind_eq_ok, require_eq_ok] at valid
    obtain ⟨_, _, valid⟩ := valid
    split at valid
    · simp only [bind_eq_ok] at valid
      obtain ⟨_, _, valid⟩ := valid
      split at valid <;> simp_all
    · simp at valid
  · simp at valid

theorem appendTerminalEvent_cases
    (workspace : Workspace) (profile : RuntimeProfile D) (execution : Execution D)
    (attempt : Attempt D) (leaseDigest : D) (machineGeneration : Nat)
    (terminalEvent : Option TerminalEvent) (outcome : Option (Append D))
    (typed : ∀ event, terminalEvent = some event → event.payload.eventType.isEnding = true ∧
      call.operation.carriedEvent = some event.eventId)
    (success : appendTerminalEvent env call.now workspace profile execution attempt leaseDigest
      machineGeneration terminalEvent = .ok outcome)
    (event : ExecutionEvent D) (appended : outcome = some (.appended event)) :
    NewEvent attempt event ∧ attempt.status.isOpen = true ∧
      event.sequence ≤ maxTerminalSequence ∧ event.eventType.isEnding = true ∧
      call.operation.carriedEvent = some event.eventId := by
  cases terminalEvent with
  | none =>
    simp only [appendTerminalEvent, pure_eq_ok] at success
    subst success
    cases appended
  | some terminal =>
    simp only [appendTerminalEvent, bind_eq_ok, pure_eq_ok] at success
    obtain ⟨_, success, rfl⟩ := success
    cases appended
    rcases appendEventOnce_cases env success with
      ⟨_, impossible, _⟩ | ⟨isEvent, fresh, isOpen, bounded, _⟩
    · cases impossible
    · cases isEvent
      have ending := typed terminal rfl
      have bound : maximumSequence true terminal.payload.eventType ≤ maxTerminalSequence := by
        simp only [maximumSequence]
        split <;> decide
      exact ⟨fresh, isOpen, Nat.le_trans bounded bound, ending⟩

omit [DecidableEq D] in
theorem enqueueTerminalEvent_eq (id : AttemptId) (execution : Execution D) (attempt : Attempt D)
    (outcome : Option (Append D)) (deliveries : Table DeliveryId ExecutionEventDelivery) :
    enqueueTerminalEvent env id execution attempt outcome deliveries =
      publishEvents env id execution attempt (outcome.map Append.event).toList deliveries := by
  cases outcome with
  | none => rfl
  | some =>
    rw [Option.map_some, Option.toList_some, publishEvents_single]
    rfl

theorem appendTerminalEvent_known
    {workspace : Workspace} {profile : RuntimeProfile D} {execution : Execution D}
    {attempt : Attempt D} {leaseDigest : D} {machineGeneration : Nat}
    {terminalEvent : Option TerminalEvent} {outcome : Option (Append D)}
    (success : appendTerminalEvent env call.now workspace profile execution attempt leaseDigest
      machineGeneration terminalEvent = .ok outcome) :
    ∀ event ∈ (outcome.map Append.event).toList,
      (Append.applyOption attempt outcome).findEvent event.eventId = some event := by
  cases terminalEvent with
  | none =>
    simp only [appendTerminalEvent, pure_eq_ok] at success
    subst success
    simp
  | some =>
    simp only [appendTerminalEvent, bind_eq_ok, pure_eq_ok] at success
    obtain ⟨decided, success, rfl⟩ := success
    exact List.forall_mem_singleton.mpr (appendEventOnce_known env success)

theorem finishAttempt_evolution
    (context : RuntimeContext) (id : AttemptId) (leaseToken : String) (args : TerminalArgs)
    (receipt : TerminalReceipt) (service : call.operation.service = .completeAttempt ∨
      call.operation.service = .failAttempt)
    (ends : args.terminalStatus = .succeeded ∨ args.terminalStatus = .failed)
    (requeues : args.retryable = true → ∃ context leaseToken failure,
      call.operation = .failAttempt context id leaseToken failure none)
    (typed : ∀ event, args.terminalEvent = some event →
      event.payload.eventType.isEnding = true ∧
        call.operation.carriedEvent = some event.eventId)
    (success : finishAttempt env call.now context id leaseToken args db = .ok (receipt, next)) :
    Evolution env call db db next := by
  simp only [finishAttempt, bind_eq_ok, orRaise_eq_ok, require_eq_ok] at success
  obtain ⟨leaseDigest, _, workspace, _, _, _, ⟨execution, attempt⟩, found, success⟩ := success
  rw [Option.filter_eq_some_iff] at found
  obtain ⟨found, ordinary⟩ := found
  obtain ⟨stored, held, _⟩ := (Db.attemptIn_eq_some _ _ _ _ _).mp found
  dsimp only at success
  obtain ⟨profile, _, _, _, success⟩ := success
  split at success
  · simp only [bind_eq_ok, return_eq_ok] at success
    obtain ⟨_, _, _, _, _, rfl⟩ := success
    exact .refl db
  · next first =>
    simp only [bind_eq_ok, orRaise_eq_ok, require_eq_ok, return_eq_ok] at success
    obtain ⟨lease, kept, _, _, _, active, _, _, _, _, _, unfinished, outcome, appended,
      deliveries, publishes, _, rfl⟩ := success
    rw [Option.filter_eq_some_iff] at kept
    have plain : execution.routine = none := by
      simpa [Execution.isRoutineDispatch] using ordinary
    rw [enqueueTerminalEvent_eq] at publishes
    exact (Evolution.draw db).trans (.settledAppend id execution attempt _ _ _ _ deliveries stored
      held
      (.finish lease args _ _ _ outcome service plain kept.1 active first unfinished ends requeues
        (appendTerminalEvent_cases env call workspace profile execution attempt leaseDigest _
          args.terminalEvent outcome typed appended))
      (.inl (by rcases service with service | service <;> simp [service]))
      (appendTerminalEvent_known env call appended)
      publishes)

structure CompletionIsWellFormed (receipt : Json) (terminalEvent : Option TerminalEvent) :
    Prop where
  event : ∀ event, terminalEvent = some event → checkTerminalEvent env .completed event = .ok ()
  bounded : validateBoundedReceipt env receipt = .ok receipt

theorem completeAttempt_cases
    (now : Instant) (context : RuntimeContext) (id : AttemptId) (leaseToken : String)
    (receipt : Json) (terminalEvent : Option TerminalEvent) (answer : TerminalReceipt)
    (success : completeAttempt env now context id leaseToken receipt terminalEvent db =
      .ok (answer, next)) :
    CompletionIsWellFormed env receipt terminalEvent ∧
      finishAttempt env now context id leaseToken
        { canonical := receipt
          retryable := false
          terminalStatus := .succeeded
          terminalEvent := terminalEvent } db = .ok (answer, next) := by
  cases terminalEvent with
  | none =>
    simp only [completeAttempt, bind_eq_ok] at success
    obtain ⟨canonical, valid, success⟩ := success
    obtain rfl := validateBoundedReceipt_eq env valid
    exact ⟨⟨by simp, valid⟩, success⟩
  | some =>
    simp only [completeAttempt, bind_eq_ok] at success
    obtain ⟨_, isChecked, canonical, valid, success⟩ := success
    obtain rfl := validateBoundedReceipt_eq env valid
    refine ⟨⟨?_, valid⟩, success⟩
    rintro _ ⟨⟩
    exact isChecked

theorem completeAttempt_evolution
    (context : RuntimeContext) (id : AttemptId) (leaseToken : String) (receipt : Json)
    (terminalEvent : Option TerminalEvent) (answer : TerminalReceipt) (asked : call.operation =
      .completeAttempt context id leaseToken receipt terminalEvent)
    (success : completeAttempt env call.now context id leaseToken receipt terminalEvent db =
      .ok (answer, next)) :
    Evolution env call db db next := by
  obtain ⟨checked, finishes⟩ := completeAttempt_cases env db next call.now context id leaseToken
    receipt terminalEvent answer success
  refine finishAttempt_evolution env call db next context id leaseToken _ answer
    (.inl (by rw [asked]; rfl)) (.inl rfl) (by simp) ?_ finishes
  intro event carried
  have sent : terminalEvent = some event := carried
  rw [checkTerminalEvent_type env (checked.event event sent), asked, sent]
  exact ⟨rfl, rfl⟩

/-! ## Routine results of a runtime -/

omit [DecidableEq D] in
theorem setAttempt_write_same (number : Nat) (ended attempt : Attempt D) (execution : Execution D)
    (status : ExecutionStatus) (routine : Option RoutineExecution) :
    (execution.write number attempt status routine).setAttempt number ended =
      execution.write number ended status routine :=
  write_write execution number attempt status routine _ _ _

theorem appendRuntimeRoutineResult_evolution
    {start : Db D} {context : RuntimeContext} {id : AttemptId} {leaseToken : String}
    {request : RoutineResultRequest} {receipt : RoutineTerminalReceipt}
    (asked : call.operation.resultTarget = some id.execution)
    (target : call.operation.routineTarget = some id.execution)
    (notClaim : call.operation.service ≠ .claimNextExecution)
    (explicit : call.operation.explicitResult start.supply =
      some (id.execution, request.eventId, request.sequence))
    (success : appendRuntimeRoutineResult env call.now context id leaseToken request db =
      .ok (receipt, next)) :
    Evolution env call start db next := by
  simp only [appendRuntimeRoutineResult, bind_eq_ok, orRaise_eq_ok, require_eq_ok] at success
  obtain ⟨tokenDigest, _, _, _, _, _, ⟨execution, attempt⟩, found, success⟩ := success
  obtain ⟨stored, held, _⟩ := (Db.attemptIn_eq_some _ _ _ _ _).mp found
  dsimp only at success
  obtain ⟨_, current, lease, kept, _, _, acquisition, authority, _, live, success⟩ := success
  rw [Option.filter_eq_some_iff, decide_eq_true_eq] at kept
  split at success
  · simp only [bind_eq_ok, return_eq_ok] at success
    obtain ⟨_, _, _, rfl⟩ := success
    exact .refl db
  · next unsealed =>
    simp only [bind_eq_ok] at success
    obtain ⟨⟨outcome, finished⟩, recorded, success⟩ := success
    obtain ⟨same, _, _, isCurrent, isHeld, replay | fresh⟩ :=
      recordRoutineResultOnce_cases
        recorded
    all_goals
      obtain ⟨rfl, rfl⟩ := execution.routineAt_unique current isCurrent
      cases held.symm.trans isHeld
    · obtain ⟨existing, rfl, _, known, kind, _⟩ := replay
      subst finished
      simp only [held, orRaise_some, Except.ok.injEq, return_eq_ok] at success
      obtain ⟨_, unpublished, _, rfl, _, rfl⟩ := success
      simp only [enqueueAppended, pure_eq_ok] at unpublished
      subst unpublished
      have listed := (attempt.findEvent_eq_some known).1
      have open_or_unsealed : lease.state = .active ∨ acquisition.terminalReceipt = none := by
        rcases live with released | live
        · rw [if_pos released] at unsealed
          exact .inr unsealed
        · exact .inl live.1
      exact (Evolution.draw db).trans (.single (.move id execution attempt _ _ _ stored held
        (.sealReplay same lease acquisition tokenDigest _ _ existing asked current kept.1
          kept.2 authority listed kind open_or_unsealed)
        (.inl notClaim) (.inr (.inr ⟨target, by rw [current]; rfl⟩))))
    · obtain ⟨event, rfl, result, named, sequence, rfl⟩ := fresh
      simp only [attempt?_write_same, orRaise_some, Except.ok.injEq, return_eq_ok] at success
      obtain ⟨deliveries, publishes, _, rfl, _, rfl⟩ := success
      have active : lease.state = .active := by
        rcases live with released | live
        · have unknown := result.unknown
          rw [named] at unknown
          rw [unknown] at released
          cases released.2
        · exact live.1
      have carries : call.operation.explicitResult start.supply =
          some (id.execution, event.eventId, event.sequence) := by
        rw [explicit, named, sequence]
        rfl
      rw [setAttempt_write_same]
      exact (Evolution.draw db).trans (.append id execution attempt _ _ _ [event] deliveries
        stored held
        (.recordSealed same lease request.outcome event tokenDigest _ _ asked current kept.1
          active result carries)
        (.inl notClaim) (.inr (.inr ⟨target, by rw [current]; rfl⟩))
        (List.forall_mem_singleton.mpr (attempt.findEvent_store result.unknown))
        (by rw [publishEvents_single]; exact publishes))

structure FailureIsWellFormed (failure : Failure) (terminalEvent : Option TerminalEvent) :
    Prop where
  event : ∀ event, terminalEvent = some event → checkTerminalEvent env .failed event = .ok ()
  final : failure.retryable = true → terminalEvent = none
  bounded : failure.retryable = false →
    validateBoundedReceipt env (failure.canonical failure.reported) =
      .ok (failure.canonical failure.reported)

theorem failAttempt_cases
    (now : Instant) (context : RuntimeContext) (id : AttemptId) (leaseToken : String)
    (failure : Failure) (terminalEvent : Option TerminalEvent) (answer : TerminalReceipt)
    (success : failAttempt env now context id leaseToken failure terminalEvent db =
      .ok (answer, next)) :
    (failure.code ≠ "" ∧ validateBoundedReceipt env failure.reported = .ok failure.reported) ∧
    ((∃ routine result,
        (db.attempt? id).bind (fun found => found.1.routineAt id.number) = some routine ∧
        appendRuntimeRoutineResult env now context id leaseToken
          (routineFailure db.supply terminalEvent)
          (if terminalEvent.isSome then db else db.draw) = .ok (result, next) ∧
        answer = routineFailureReceipt env result) ∨
      ((db.attempt? id).bind (fun found => found.1.routineAt id.number) = none ∧
        FailureIsWellFormed env failure terminalEvent ∧
        finishAttempt env now context id leaseToken
          { canonical := failure.canonical failure.reported
            retryable := failure.retryable
            terminalStatus := .failed
            terminalEvent := terminalEvent } db = .ok (answer, next))) := by
  simp only [failAttempt, bind_eq_ok, require_eq_ok] at success
  obtain ⟨_, coded, receipt, valid, success⟩ := success
  obtain rfl := validateBoundedReceipt_eq env valid
  refine ⟨⟨coded, valid⟩, ?_⟩
  split at success
  · next routine current =>
    simp only [bind_eq_ok, return_eq_ok] at success
    obtain ⟨⟨result, _⟩, recorded, rfl, rfl⟩ := success
    exact .inl ⟨routine, result, current, recorded, rfl⟩
  · next ordinary =>
    refine .inr ⟨ordinary, ?_⟩
    -- The event is checked first, if there is one.
    obtain ⟨checked, final, success⟩ : (∀ event, terminalEvent = some event →
        checkTerminalEvent env .failed event = .ok ()) ∧
        (failure.retryable = true → terminalEvent = none) ∧
        (if failure.retryable = false then do
            let _ ← validateBoundedReceipt env (failure.canonical failure.reported)
            finishAttempt env now context id leaseToken
              ⟨failure.canonical failure.reported, false, .failed, terminalEvent⟩ db
          else finishAttempt env now context id leaseToken
            ⟨failure.canonical failure.reported, true, .failed, none⟩ db) =
          .ok (answer, next) := by
      cases terminalEvent with
      | none =>
        simp only [bind_eq_ok, require_eq_ok] at success
        obtain ⟨_, _, success⟩ := success
        exact ⟨by simp, fun _ => rfl, success⟩
      | some =>
        simp only [bind_eq_ok, require_eq_ok] at success
        obtain ⟨_, isChecked, _, final, success⟩ := success
        refine ⟨?_, final, success⟩
        rintro _ ⟨⟩
        exact isChecked
    split at success
    · next notRetryable =>
      simp only [bind_eq_ok] at success
      obtain ⟨canonical, bounded, success⟩ := success
      obtain rfl := validateBoundedReceipt_eq env bounded
      refine ⟨⟨checked, final, fun _ => bounded⟩, ?_⟩
      rw [notRetryable]
      exact success
    · next retryable =>
      rw [Bool.not_eq_false] at retryable
      refine ⟨⟨checked, final, fun other => ?_⟩, ?_⟩
      · rw [retryable] at other
        cases other
      · rw [retryable, final retryable]
        exact success

theorem failAttempt_evolution
    (context : RuntimeContext) (id : AttemptId) (leaseToken : String) (failure : Failure)
    (terminalEvent : Option TerminalEvent) (answer : TerminalReceipt)
    (asked : call.operation = .failAttempt context id leaseToken failure terminalEvent)
    (success : failAttempt env call.now context id leaseToken failure terminalEvent db =
      .ok (answer, next)) :
    Evolution env call db db next := by
  rcases failAttempt_cases env db next call.now context id leaseToken failure terminalEvent answer
      success with
    ⟨_, ⟨_, result, _, recorded, _⟩ | ⟨_, checked, finishes⟩⟩
  · have drawn : Evolution env call db db (if terminalEvent.isSome then db else db.draw) := by
      split
      · exact .refl db
      · exact .draw db
    exact drawn.trans (appendRuntimeRoutineResult_evolution env call _ _ (by rw [asked]; rfl) (by rw [asked]; rfl) (by simp [asked, Operation.service])
      (by rw [asked]; rfl) recorded)
  · refine finishAttempt_evolution env call db next context id leaseToken _ answer
      (.inr (by rw [asked]; rfl)) (.inr rfl) ?_ ?_ finishes
    · intro retryable
      have absent := checked.final retryable
      subst absent
      exact ⟨context, leaseToken, failure, asked⟩
    · intro event carried
      have sent : terminalEvent = some event := carried
      rw [checkTerminalEvent_type env (checked.event event sent), asked, sent]
      exact ⟨rfl, rfl⟩

end

end Foundry
