import Foundry.Evolution.Requests
import Foundry.Properties.Fencing

/-!
# Repeated requests

A completion, a failure or a stop that was accepted is answered from what it stored
when it is sent again, and a different request finds what it stored in its way.
-/

set_option autoImplicit false

namespace Foundry

open Raise

variable {D : Type}

/-- What a request of a runtime finds: its own generation, and the rows of its
attempt. -/
structure Served (context : RuntimeContext) (id : AttemptId) (db : Db D)
    (execution : Execution D) (profile : RuntimeProfile D) : Prop where
  current : context.IsCurrent db
  stored : db.executions.lookup id.execution = some execution
  isIn : execution.workspace = context.workspace
  isProfile : db.profiles.lookup execution.profile = some profile

variable {attempt : Attempt D} {execution : Execution D} {profile : RuntimeProfile D}

theorem Served.attemptIn {context : RuntimeContext} {id : AttemptId} {db : Db D}
    (served : Served context id db execution profile)
    (found : execution.attempt? id.number = some attempt) :
    db.attemptIn context.workspace id = some (execution, attempt) :=
  (Db.attemptIn_eq_some _ _ _ _ _).mpr ⟨served.stored, found, served.isIn⟩

def Conflicts {α : Type} (result : Except RuntimeError α) : Prop :=
  ∃ error, result = .error error ∧ error.kind.isConflict = true

variable {α : Type} {error : RuntimeError}

theorem Conflicts.of_require {condition : Prop} [Decidable condition] {rest : Unit → Except RuntimeError α}
    (conflict : error.kind.isConflict = true) (holds : condition → Conflicts (rest ())) :
    Conflicts (require condition error >>= rest) := by
  by_cases passes : condition
  · rw [require_of condition error passes]
    exact holds passes
  · rw [require_of_not condition error passes]
    exact ⟨error, rfl, conflict⟩

theorem Conflicts.of_orRaise {β : Type} {found : Option β} {rest : β → Except RuntimeError α}
    (conflict : error.kind.isConflict = true)
    (holds : ∀ value, found = some value → Conflicts (rest value)) :
    Conflicts (orRaise found error >>= rest) := by
  cases found with
  | none => exact ⟨error, rfl, conflict⟩
  | some value => exact holds value rfl

theorem Conflicts.bind {β : Type} {body : Except RuntimeError α}
    (conflicts : Conflicts body) (rest : α → Except RuntimeError β) :
    Conflicts (body >>= rest) := by
  obtain ⟨error, raised, conflict⟩ := conflicts
  exact ⟨error, by rw [raised]; rfl, conflict⟩

theorem Conflicts.reply {result : Except RuntimeError (α × Db D)}
    (conflicts : Conflicts result) (wrap : α → Reply D) : Conflicts (reply wrap result) := by
  obtain ⟨error, raised, conflict⟩ := conflicts
  exact ⟨error, by rw [raised]; rfl, conflict⟩

section

variable [DecidableEq D] (env : Env D) (db next : Db D) (now : Instant)
  (context : RuntimeContext) (id : AttemptId) (leaseToken : String)

omit [DecidableEq D] in
theorem digestLeaseToken_eq_ok (digest : D) :
    digestLeaseToken env leaseToken = .ok digest ↔
      leaseToken ≠ "" ∧ digest = env.digestLeaseToken leaseToken := by
  simp only [digestLeaseToken, bind_eq_ok, require_eq_ok, pure_eq_ok]
  constructor
  · rintro ⟨_, named, same⟩
    exact ⟨named, same.symm⟩
  · rintro ⟨named, same⟩
    exact ⟨(), named, same.symm⟩

/-! ## Terminal requests of ordinary work -/

structure Attempt.Finished (attempt : Attempt D) (requestDigest leaseDigest : D) : Prop where
  request : attempt.terminalRequestDigest = some requestDigest
  lease : attempt.terminalLeaseDigest = some leaseDigest

theorem finishAttempt_stores
    (args : TerminalArgs) (receipt : TerminalReceipt)
    (holds : ∀ execution, db.executions.lookup id.execution = some execution →
      execution.FinishedIsResolved)
    (success : finishAttempt env now context id leaseToken args db = .ok (receipt, next)) :
    leaseToken ≠ "" ∧ ∃ execution attempt,
      next.executions.lookup id.execution = some execution ∧
      execution.workspace = context.workspace ∧ execution.routine = none ∧
      execution.Settled id.number attempt ∧
      attempt.Finished (env.digestPayload (.terminal args.canonical args.terminalEvent))
        (env.digestLeaseToken leaseToken) ∧
      (args.retryable = decide (args.canonical.get? "retryable" = some (.bool true)) →
        terminalFromAttempt id attempt = .ok receipt) := by
  simp only [finishAttempt, bind_eq_ok, orRaise_eq_ok, require_eq_ok,
    digestLeaseToken_eq_ok] at success
  obtain ⟨leaseDigest, ⟨named, rfl⟩, workspace, _, _, _, ⟨execution, attempt⟩, found, success⟩ :=
    success
  rw [Option.filter_eq_some_iff] at found
  obtain ⟨found, plain⟩ := found
  obtain ⟨stored, held, isIn⟩ := (Db.attemptIn_eq_some _ _ _ _ _).mp found
  have ordinary : execution.routine = none := by
    simpa [Execution.isRoutineDispatch] using plain
  dsimp only at success
  obtain ⟨profile, _, _, _, success⟩ := success
  refine ⟨named, ?_⟩
  have settles : ∀ {execution : Execution D} {attempt : Attempt D}, execution.routine = none →
      execution.attempt? id.number = some attempt → attempt.hasUnresolvedLease = false →
      execution.Settled id.number attempt := by
    intro execution attempt ordinary found free
    refine ⟨found, free, ?_, fun ofRoutine => absurd ordinary ofRoutine⟩
    intro routine has
    rw [ordinary] at has
    cases has
  split at success
  · next finished =>
    simp only [bind_eq_ok, require_eq_ok, return_eq_ok] at success
    obtain ⟨_, ⟨rfl, sameLease⟩, answer, answered, rfl, rfl⟩ := success
    have free := holds execution stored ordinary id.number attempt held
      (by rw [finished]; exact Option.some_ne_none _)
    exact ⟨execution, attempt, stored, isIn, ordinary, settles ordinary held free,
      ⟨finished, sameLease⟩, fun _ => answered⟩
  · simp only [bind_eq_ok, orRaise_eq_ok, require_eq_ok, return_eq_ok] at success
    obtain ⟨lease, _, _, _, _, _, _, _, _, _, _, _, outcome, _, _, _, rfl, rfl⟩ := success
    refine ⟨_, _, AList.lookup_insert .., isIn, ordinary,
      settles ordinary (attempt?_setAttempt_same ..) rfl, ⟨rfl, rfl⟩, ?_⟩
    intro marked
    simp [terminalFromAttempt, Attempt.finished, marked]

section

variable {execution : Execution D} {profile : RuntimeProfile D} {attempt : Attempt D}
  (args : TerminalArgs)

theorem finishAttempt_replays (receipt : TerminalReceipt) (named : leaseToken ≠ "")
    (served : Served context id db execution profile) (ordinary : execution.routine = none)
    (found : execution.attempt? id.number = some attempt)
    (serving : profileAllowsRuntimeWrite profile = true)
    (finished : attempt.Finished
      (env.digestPayload (.terminal args.canonical args.terminalEvent))
      (env.digestLeaseToken leaseToken))
    (answered : terminalFromAttempt id attempt = .ok receipt) :
    finishAttempt env now context id leaseToken args db = .ok (receipt, db) := by
  obtain ⟨workspace, isWorkspace, current⟩ := served.current
  simp [finishAttempt, digestLeaseToken, require, named, isWorkspace, current,
    served.attemptIn found, Execution.isRoutineDispatch, ordinary, served.isProfile, serving,
    finished.request, finished.lease, answered, pure, Except.pure]

theorem finishAttempt_conflicts (requestDigest leaseDigest : D) (named : leaseToken ≠ "")
    (served : Served context id db execution profile)
    (found : execution.attempt? id.number = some attempt)
    (finished : execution.routine = none → attempt.Finished requestDigest leaseDigest ∧
      (requestDigest, leaseDigest) ≠
        (env.digestPayload (.terminal args.canonical args.terminalEvent),
          env.digestLeaseToken leaseToken)) :
    Conflicts (finishAttempt env now context id leaseToken args db) := by
  obtain ⟨workspace, isWorkspace, current⟩ := served.current
  simp only [finishAttempt, digestLeaseToken, require_of _ _ named, isWorkspace, orRaise_some,
    ok_bind, require_of _ _ current, served.attemptIn found]
  refine .of_orRaise rfl ?_
  intro pair isPair
  rw [Option.filter_eq_some_iff] at isPair
  obtain ⟨isPair, plain⟩ := isPair
  obtain rfl := Option.some.inj isPair
  have ordinary : execution.routine = none := by
    simpa [Execution.isRoutineDispatch] using plain
  obtain ⟨finished, differs⟩ := finished ordinary
  simp only [served.isProfile, orRaise_some, ok_bind, finished.request, finished.lease]
  refine .of_require rfl fun _ => .of_require rfl ?_
  rintro ⟨sameRequest, sameLease⟩
  rw [sameRequest, Option.some.inj sameLease] at differs
  exact absurd rfl differs

end

/-! ## Stops -/

structure Attempt.StoppedBy (attempt : Attempt D) (id : AttemptId) (requestDigest tokenDigest : D)
    (receipt : StopReceipt) : Prop where
  request : attempt.stoppedRequestDigest = some requestDigest
  lease : attempt.stoppedLeaseDigest = some tokenDigest
  answer : receipt = ⟨id, (attempt.stoppedReceipt.map StoppedReceipt.state).getD .released,
    (attempt.stoppedReceipt.map StoppedReceipt.requeued).getD false⟩

variable {requestDigest : D}

omit [DecidableEq D] in
theorem Attempt.StoppedBy.kept {later : Attempt D} {id : AttemptId}
    {tokenDigest : D} {receipt : StopReceipt}
    (stopped : attempt.StoppedBy id requestDigest tokenDigest receipt)
    (keeps : attempt.KeepsRequests later) :
    later.StoppedBy id requestDigest tokenDigest receipt := by
  obtain ⟨request, lease, answer⟩ := keeps.stopped
    (by rw [stopped.request]; exact Option.some_ne_none _)
  exact ⟨request.trans stopped.request, lease.trans stopped.lease, by rw [answer]; exact stopped.answer⟩

def stopDigest (reason : String) (supplied : Option D) : D :=
  supplied.getD (env.digestPayload (.stopReason reason))

theorem acknowledgeStopped_stores
    (reason : String) (supplied : Option D) (receipt : StopReceipt)
    (success : acknowledgeStopped env now context id leaseToken reason supplied db =
      .ok (receipt, next)) :
    (leaseToken ≠ "" ∧ validateNonempty reason "reason" 255 = .ok ()) ∧ ∃ execution attempt,
      next.executions.lookup id.execution = some execution ∧
      execution.attempt? id.number = some attempt ∧
      execution.workspace = context.workspace ∧
      attempt.StoppedBy id (stopDigest env reason supplied) (env.digestLeaseToken leaseToken)
        receipt := by
  simp only [acknowledgeStopped, bind_eq_ok, orRaise_eq_ok, require_eq_ok,
    digestLeaseToken_eq_ok] at success
  obtain ⟨_, reasoned, tokenDigest, ⟨named, rfl⟩, workspace, _, _, _, ⟨execution, attempt⟩, found,
    success⟩ := success
  obtain ⟨stored, held, isIn⟩ := (Db.attemptIn_eq_some _ _ _ _ _).mp found
  dsimp only at success
  obtain ⟨profile, _, success⟩ := success
  refine ⟨⟨named, reasoned⟩, ?_⟩
  split at success
  · next stopped =>
    simp only [bind_eq_ok, require_eq_ok, return_eq_ok] at success
    obtain ⟨_, ⟨rfl, sameLease⟩, answer, rfl⟩ := success
    exact ⟨execution, attempt, stored, held, isIn, stopped, sameLease, answer.symm⟩
  · simp only [bind_eq_ok, orRaise_eq_ok, require_eq_ok] at success
    obtain ⟨_, _, lease, _, _, _, _, _, success⟩ := success
    split at success
    · cases success
      exact ⟨_, _, AList.lookup_insert .., attempt?_setAttempt_same .., isIn, rfl, rfl, rfl⟩
    · simp only [bind_eq_ok, orRaise_eq_ok] at success
      obtain ⟨⟨outcome, finished⟩, recorded, ended, _, deliveries, _, success⟩ := success
      obtain ⟨_, _, _, _, _, _, _, _, written⟩ := recordTerminalFailureResult_cases recorded
      cases success
      refine ⟨_, _, AList.lookup_insert .., attempt?_setAttempt_same .., ?_, rfl, rfl, rfl⟩
      rw [applyStop, written]
      exact isIn

section

variable {execution : Execution D} {profile : RuntimeProfile D} {attempt : Attempt D}
  {reason : String} {supplied : Option D}

theorem acknowledgeStopped_replays {receipt : StopReceipt} (named : leaseToken ≠ "")
    (reasoned : validateNonempty reason "reason" 255 = .ok ())
    (served : Served context id db execution profile)
    (found : execution.attempt? id.number = some attempt)
    (stopped : attempt.StoppedBy id (stopDigest env reason supplied)
      (env.digestLeaseToken leaseToken) receipt) :
    acknowledgeStopped env now context id leaseToken reason supplied db = .ok (receipt, db) := by
  obtain ⟨workspace, isWorkspace, current⟩ := served.current
  have request := stopped.request
  rw [stopDigest] at request
  simp [acknowledgeStopped, digestLeaseToken, require, named, reasoned, isWorkspace, current,
    served.attemptIn found, served.isProfile, request, stopped.lease, stopped.answer, pure,
    Except.pure]

theorem acknowledgeStopped_conflicts {requestDigest tokenDigest : D}
    {receipt : StopReceipt} (named : leaseToken ≠ "")
    (reasoned : validateNonempty reason "reason" 255 = .ok ())
    (served : Served context id db execution profile)
    (found : execution.attempt? id.number = some attempt)
    (stopped : attempt.StoppedBy id requestDigest tokenDigest receipt)
    (differs : (requestDigest, tokenDigest) ≠
      (stopDigest env reason supplied, env.digestLeaseToken leaseToken)) :
    Conflicts (acknowledgeStopped env now context id leaseToken reason supplied db) := by
  obtain ⟨workspace, isWorkspace, current⟩ := served.current
  simp only [acknowledgeStopped, digestLeaseToken, reasoned, require_of _ _ named, isWorkspace,
    orRaise_some, ok_bind, require_of _ _ current, served.attemptIn found, served.isProfile,
    stopped.request, stopped.lease]
  refine .of_require rfl ?_
  rintro ⟨sameRequest, sameLease⟩
  rw [sameRequest, Option.some.inj sameLease] at differs
  exact absurd rfl differs

end

/-! ## Failures of a routine -/

/-- What a routine's result leaves on the lease it was sent under. -/
structure Attempt.RecordedBy (attempt : Attempt D) (routineId : Uuid)
    (requestDigest tokenDigest : D) (eventId : Uuid) (receipt : RoutineTerminalReceipt)
    (lease : Lease D) (acquisition : RoutineLeaseAcquisition D) : Prop where
  held : attempt.lease = some lease
  token : lease.tokenDigest = tokenDigest
  scope : lease.scopeKey = .routine routineId
  released : lease.state = .released
  authority : lease.acquisitionWith tokenDigest = some acquisition
  request : acquisition.terminalRequestDigest = some requestDigest
  receipt : acquisition.terminalReceipt = some receipt
  event : (attempt.findEvent eventId).isSome = true

variable {acquisition : RoutineLeaseAcquisition D} {routine : RoutineExecution} {lease : Lease D}

theorem Attempt.RecordedBy.settled {routineId : Uuid}
    {tokenDigest : D} {eventId : Uuid} {receipt : RoutineTerminalReceipt}
    {number : Nat}
    (recorded : attempt.RecordedBy routineId requestDigest tokenDigest eventId receipt lease
      acquisition)
    (found : execution.attempt? number = some attempt)
    (isCurrent : execution.routineAt number = some routine)
    (terminal : routine.status.isTerminal = true) : execution.Settled number attempt := by
  obtain ⟨has, current⟩ := (Execution.routineAt_eq_some _ _ _).mp isCurrent
  refine ⟨found, ?_, ?_, ?_⟩
  · rw [Attempt.hasUnresolvedLease, recorded.held, Option.any_some, recorded.released]
    rfl
  · intro other isOther
    obtain rfl : routine = other := Option.some.inj (has.symm.trans isOther)
    exact ⟨current, terminal⟩
  · intro _ held authority isHeld isAuthority
    rw [recorded.held, Option.some.injEq] at isHeld
    subst isHeld
    rw [recorded.token, recorded.authority, Option.some.injEq] at isAuthority
    subst isAuthority
    rw [recorded.receipt]
    exact Option.some_ne_none _

theorem acquisitionWith_of_map {lease changed : Lease D}
    {change : RoutineLeaseAcquisition D → RoutineLeaseAcquisition D}
    (same : changed.acquisitions = lease.acquisitions.map change)
    (keeps : ∀ acquisition, (change acquisition).tokenDigest = acquisition.tokenDigest)
    (tokenDigest : D) :
    changed.acquisitionWith tokenDigest = (lease.acquisitionWith tokenDigest).map change := by
  rw [Lease.acquisitionWith, same, List.find?_map]
  simp [Function.comp_def, keeps, Lease.acquisitionWith]

theorem acquisitionWith_close (lease : Lease D) (state : LeaseState) (tokenDigest : D)
    (acquisition : RoutineLeaseAcquisition D)
    (authority : lease.acquisitionWith tokenDigest = some acquisition) :
    ∃ retired, (lease.close now state).acquisitionWith tokenDigest = some retired := by
  rw [acquisitionWith_of_map rfl
    (fun acquisition => by split <;> rfl), authority]
  exact ⟨_, rfl⟩

omit [DecidableEq D] in
theorem endWithResult_routineId (routine : RoutineExecution) (outcome : RoutineOutcome)
    (event : ExecutionEvent D) :
    (routine.endWithResult outcome event).routineId = routine.routineId := by
  cases outcome <;> rfl

theorem sealAcquisition_recorded {attempt : Attempt D} {lease : Lease D} {routineId : Uuid}
    {acquisition : RoutineLeaseAcquisition D} (requestDigest tokenDigest : D) {eventId : Uuid}
    (receipt : RoutineTerminalReceipt)
    (held : attempt.lease = some lease) (token : lease.tokenDigest = tokenDigest)
    (scope : lease.scopeKey = .routine routineId) (released : lease.state = .released)
    (authority : lease.acquisitionWith tokenDigest = some acquisition)
    (event : (attempt.findEvent eventId).isSome = true) :
    ∃ lease acquisition, (attempt.sealAcquisition tokenDigest requestDigest receipt).RecordedBy
      routineId requestDigest tokenDigest eventId receipt lease acquisition := by
  have named : acquisition.tokenDigest = tokenDigest := by
    simpa using List.find?_some authority
  refine ⟨{ lease with
      acquisitions := lease.acquisitions.map fun other =>
        if other.tokenDigest = tokenDigest then
          { other with
            terminalRequestDigest := some requestDigest
            terminalReceipt := some receipt }
        else other },
    { acquisition with
      terminalRequestDigest := some requestDigest
      terminalReceipt := some receipt }, ?_, token, scope, released, ?_, rfl, rfl, event⟩
  · rw [Attempt.sealAcquisition, held]
    rfl
  · rw [acquisitionWith_of_map rfl (fun other => by split <;> rfl), authority,
      Option.map_some, if_pos named]

theorem appendRuntimeRoutineResult_stores
    (request : RoutineResultRequest) (receipt : RoutineTerminalReceipt)
    (holds : ∀ execution, db.executions.lookup id.execution = some execution →
      execution.RoutineHolds RoutineRests)
    (success : appendRuntimeRoutineResult env now context id leaseToken request db =
      .ok (receipt, next)) :
    leaseToken ≠ "" ∧ ∃ execution attempt routine lease acquisition,
      next.executions.lookup id.execution = some execution ∧
      execution.workspace = context.workspace ∧
      execution.routineAt id.number = some routine ∧
      execution.Settled id.number attempt ∧
      attempt.RecordedBy routine.routineId (env.digestPayload (.routineResult request))
        (env.digestLeaseToken leaseToken) request.eventId receipt lease acquisition := by
  simp only [appendRuntimeRoutineResult, bind_eq_ok, orRaise_eq_ok, require_eq_ok,
    digestLeaseToken_eq_ok] at success
  obtain ⟨tokenDigest, ⟨named, rfl⟩, workspace, _, _, _, ⟨execution, attempt⟩, found, success⟩ :=
    success
  obtain ⟨stored, held, isIn⟩ := (Db.attemptIn_eq_some _ _ _ _ _).mp found
  dsimp only at success
  obtain ⟨routine, current, lease, kept, _, scope, acquisition, authority, _, live, success⟩ :=
    success
  rw [Option.filter_eq_some_iff, decide_eq_true_eq] at kept
  obtain ⟨isLease, token⟩ := kept
  obtain ⟨same, rows, rests⟩ := (holds execution stored).of_move (routine_ne_none current) held
  obtain rfl := rows.same routine current
  refine ⟨named, ?_⟩
  split at success
  · next isReceipt =>
    simp only [bind_eq_ok, require_eq_ok, return_eq_ok] at success
    obtain ⟨_, sameRequest, rfl, rfl⟩ := success
    split at isReceipt
    · next replay =>
      have recorded : attempt.RecordedBy routine.routineId _ _ request.eventId _ lease
          acquisition :=
        ⟨isLease, token, scope, replay.1, authority, sameRequest, isReceipt, replay.2⟩
      have isSealed : attempt.isSealed = true := by
        rw [isSealed_of_held isLease, Lease.isSealed, List.any_eq_true]
        exact ⟨acquisition, List.mem_of_find?_eq_some authority, by rw [isReceipt]; rfl⟩
      exact ⟨execution, attempt, routine, lease, acquisition, stored, isIn, current,
        recorded.settled held current (rests.seals isSealed), recorded⟩
    · cases isReceipt
  · simp only [bind_eq_ok] at success
    obtain ⟨⟨outcome, finished⟩, recorded, success⟩ := success
    obtain ⟨other, number, unit, isCurrent, isUnit, replay | fresh⟩ :=
      recordRoutineResultOnce_cases recorded
    all_goals
      obtain ⟨rfl, rfl⟩ := execution.routineAt_unique current isCurrent
      obtain rfl : attempt = unit := Option.some.inj (held.symm.trans isUnit)
    · obtain ⟨existing, rfl, rfl, known, kind, _⟩ := replay
      simp only [held, orRaise_some, Except.ok.injEq, return_eq_ok] at success
      obtain ⟨_, _, _, rfl, rfl, rfl⟩ := success
      have listed := (attempt.findEvent_eq_some known).1
      have terminal := rests.results existing listed kind
      have released : lease.state = .released := by
        rcases live with replay | ⟨active, _⟩
        · exact replay.1
        · have free := rests.ends terminal
          rw [hasUnresolvedLease_of_active isLease active] at free
          cases free
      obtain ⟨last, authorized, recorded⟩ := sealAcquisition_recorded (env.digestPayload (.routineResult request))
        (env.digestLeaseToken leaseToken) _ isLease token scope released authority
        (by rw [known]; rfl)
      exact ⟨_, _, other, last, authorized, AList.lookup_insert .., isIn, current,
        recorded.settled (attempt?_setAttempt_same ..) current terminal, recorded⟩
    · obtain ⟨event, rfl, result, isNamed, _, rfl⟩ := fresh
      simp only [attempt?_write_same, orRaise_some, Except.ok.injEq, return_eq_ok] at success
      obtain ⟨_, _, _, rfl, rfl, rfl⟩ := success
      have active : lease.state = .active := by
        rcases live with released | live
        · have unknown := result.unknown
          rw [isNamed] at unknown
          rw [unknown] at released
          cases released.2
        · exact live.1
      have closed : (attempt.endWithResult now request.outcome event).lease =
          some (lease.close now .released) := by
        simp [Attempt.endWithResult, Attempt.releaseUnresolved, Attempt.store, isLease, active,
          LeaseState.isUnresolved]
      obtain ⟨retired, isRetired⟩ := acquisitionWith_close now lease .released _ _ authority
      have known : ((attempt.endWithResult now request.outcome event).findEvent
          request.eventId).isSome = true := by
        rw [Attempt.findEvent, List.find?_isSome]
        exact ⟨event, List.mem_append_right _ (List.mem_singleton_self _), by simp [isNamed]⟩
      obtain ⟨last, authorized, recorded⟩ := sealAcquisition_recorded (env.digestPayload (.routineResult request))
        (env.digestLeaseToken leaseToken) _ closed token scope rfl isRetired known
      have moved : (execution.write id.number attempt request.outcome.executionStatus
          (some (other.endWithResult request.outcome event))).routineAt id.number =
            some (other.endWithResult request.outcome event) := by
        rw [Execution.routineAt_eq_some, endWithResult_currentAttempt]
        exact ⟨rfl, rows.current⟩
      refine ⟨_, _, other.endWithResult request.outcome event, last, authorized,
        AList.lookup_insert .., isIn, moved,
        recorded.settled (attempt?_setAttempt_same ..) moved ?_, ?_⟩
      · rw [endWithResult_status]
        exact request.outcome.runStatus_isTerminal
      · rw [endWithResult_routineId]
        exact recorded

section

variable {execution : Execution D} {profile : RuntimeProfile D} {attempt : Attempt D}
  {routine : RoutineExecution} {lease : Lease D} {acquisition : RoutineLeaseAcquisition D}
  {request : RoutineResultRequest}

theorem appendRuntimeRoutineResult_replays {receipt : RoutineTerminalReceipt} (named : leaseToken ≠ "")
    (served : Served context id db execution profile)
    (found : execution.attempt? id.number = some attempt)
    (isCurrent : execution.routineAt id.number = some routine)
    (recorded : attempt.RecordedBy routine.routineId (env.digestPayload (.routineResult request))
      (env.digestLeaseToken leaseToken) request.eventId receipt lease acquisition) :
    appendRuntimeRoutineResult env now context id leaseToken request db = .ok (receipt, db) := by
  obtain ⟨workspace, isWorkspace, current⟩ := served.current
  have authority := recorded.authority
  simp [appendRuntimeRoutineResult, digestLeaseToken, require, named, isWorkspace, current,
    served.attemptIn found, isCurrent, recorded.held, recorded.token, recorded.scope, authority,
    recorded.released, recorded.event, recorded.receipt, recorded.request, pure, Except.pure,
    Option.filter]

theorem appendRuntimeRoutineResult_conflicts {requestDigest tokenDigest : D} {eventId : Uuid}
    {receipt : RoutineTerminalReceipt} (named : leaseToken ≠ "")
    (served : Served context id db execution profile)
    (found : execution.attempt? id.number = some attempt)
    (isCurrent : execution.routineAt id.number = some routine)
    (recorded : attempt.RecordedBy routine.routineId requestDigest tokenDigest eventId receipt
      lease acquisition)
    (differs : (requestDigest, tokenDigest) ≠
      (env.digestPayload (.routineResult request), env.digestLeaseToken leaseToken)) :
    Conflicts (appendRuntimeRoutineResult env now context id leaseToken request db) := by
  obtain ⟨workspace, isWorkspace, current⟩ := served.current
  simp only [appendRuntimeRoutineResult, digestLeaseToken, require_of _ _ named, isWorkspace,
    orRaise_some, ok_bind, require_of _ _ current, served.attemptIn found, isCurrent]
  refine .of_orRaise rfl ?_
  intro other isLease
  rw [recorded.held, Option.filter_eq_some_iff, decide_eq_true_eq] at isLease
  obtain ⟨⟨⟩, sameToken⟩ := isLease
  rw [recorded.token] at sameToken
  subst sameToken
  refine .of_require rfl fun _ => ?_
  simp only [recorded.authority, orRaise_some, ok_bind]
  refine .of_require rfl ?_
  intro live
  have known : lease.state = .released ∧ (attempt.findEvent request.eventId).isSome = true := by
    rcases live with known | ⟨active, _⟩
    · exact known
    · rw [recorded.released] at active
      cases active
  simp only [if_pos known, recorded.receipt, recorded.request]
  refine .of_require rfl ?_
  intro sameRequest
  rw [Option.some.inj sameRequest] at differs
  exact absurd rfl differs

end

/-! ## Requests -/

/-- The runtime and the attempt of a completion, a failure or a stop. -/
def Operation.endingRequest : Operation D → Option (RuntimeContext × AttemptId)
  | .completeAttempt context id _ _ _ => some (context, id)
  | .failAttempt context id _ _ _ => some (context, id)
  | .acknowledgeStopped context id _ _ _ => some (context, id)
  | _ => none

/-- A failure without its terminal event: a routine draws an identifier for it. -/
def Operation.isBareFailure : Operation D → Bool
  | .failAttempt _ _ _ _ terminalEvent => terminalEvent.isNone
  | _ => false

/-- A completion whose receipt reads like that of a retryable failure. -/
def Operation.marksRetryable : Operation D → Bool
  | .completeAttempt _ _ _ receipt _ => receipt.get? "retryable" = some (.bool true)
  | _ => false

def Operation.IsWellFormed : Operation D → Prop
  | .completeAttempt _ _ leaseToken receipt terminalEvent =>
    leaseToken ≠ "" ∧ CompletionIsWellFormed env receipt terminalEvent
  | .failAttempt _ _ leaseToken failure terminalEvent =>
    leaseToken ≠ "" ∧ failure.code ≠ "" ∧
      validateBoundedReceipt env failure.reported = .ok failure.reported ∧
      FailureIsWellFormed env failure terminalEvent
  | .acknowledgeStopped _ _ leaseToken reason _ =>
    leaseToken ≠ "" ∧ validateNonempty reason "reason" 255 = .ok ()
  | _ => False

/-- The digests a request is known by; a routine's failure is known by its event. -/
def Operation.requestDigests (isRoutine : Bool) (drawn : Uuid) : Operation D → Option (D × D)
  | .completeAttempt _ _ leaseToken receipt terminalEvent =>
    some (env.digestPayload (.terminal receipt terminalEvent), env.digestLeaseToken leaseToken)
  | .failAttempt _ _ leaseToken failure terminalEvent =>
    some (env.digestPayload
        (if isRoutine then .routineResult (routineFailure drawn terminalEvent)
        else .terminal (failure.canonical failure.reported) terminalEvent),
      env.digestLeaseToken leaseToken)
  | .acknowledgeStopped _ _ leaseToken reason supplied =>
    some (stopDigest env reason supplied, env.digestLeaseToken leaseToken)
  | _ => none

theorem completeAttempt_eq (receipt : Json) (terminalEvent : Option TerminalEvent)
    (checked : CompletionIsWellFormed env receipt terminalEvent) :
    completeAttempt env now context id leaseToken receipt terminalEvent db =
      finishAttempt env now context id leaseToken
        ⟨receipt, false, .succeeded, terminalEvent⟩ db := by
  cases terminalEvent with
  | none => simp [completeAttempt, checked.bounded]
  | some event => simp [completeAttempt, checked.bounded, checked.event event rfl]

section

variable {failure : Failure} (terminalEvent : Option TerminalEvent) (coded : failure.code ≠ "")
  (reported : validateBoundedReceipt env failure.reported = .ok failure.reported)

include coded reported

theorem failAttempt_eq_finish
    (checked : FailureIsWellFormed env failure terminalEvent)
    (ordinary : (db.attempt? id).bind (fun found => found.1.routineAt id.number) = none) :
    failAttempt env now context id leaseToken failure terminalEvent db =
      finishAttempt env now context id leaseToken
        ⟨failure.canonical failure.reported, failure.retryable, .failed, terminalEvent⟩ db := by
  cases retryable : failure.retryable with
  | true =>
    obtain rfl := checked.final retryable
    simp [failAttempt, coded, reported, ordinary, retryable, require]
  | false =>
    have bounded := checked.bounded retryable
    cases terminalEvent with
    | none =>
      simp [failAttempt, coded, reported, ordinary, retryable, require, bounded]
    | some event =>
      simp [failAttempt, coded, reported, ordinary, retryable, require, bounded,
        checked.event event rfl]

theorem failAttempt_eq_result
    {routine : RoutineExecution}
    (current : (db.attempt? id).bind (fun found => found.1.routineAt id.number) = some routine) :
    failAttempt env now context id leaseToken failure terminalEvent db =
      (appendRuntimeRoutineResult env now context id leaseToken
          (routineFailure db.supply terminalEvent)
          (if terminalEvent.isSome then db else db.draw)) >>= fun pair =>
        pure (routineFailureReceipt env pair.1, pair.2) := by
  simp only [failAttempt, require_of _ _ coded, reported, ok_bind, current]

end

omit [DecidableEq D] in
theorem Served.routineOf (served : Served context id db execution profile)
    (found : execution.attempt? id.number = some attempt) :
    (db.attempt? id).bind (fun found => found.1.routineAt id.number) =
      execution.routineAt id.number := by
  simp [Db.attempt?, served.stored, found]

omit [DecidableEq D] in
theorem Served.noRoutine
    (served : Served context id db execution profile) (ordinary : execution.routine = none) :
    (db.attempt? id).bind (fun found => found.1.routineAt id.number) = none := by
  rw [Option.bind_eq_none_iff]
  intro found isFound
  simp only [Db.attempt?, served.stored, Option.bind_some, Option.map_eq_some_iff] at isFound
  obtain ⟨attempt, _, rfl⟩ := isFound
  exact Execution.routineAt_of_none _ _ ordinary

section

variable {execution : Execution D} {profile : RuntimeProfile D}

omit [DecidableEq D] in
theorem Served.draw
    (served : Served context id db execution profile) :
    Served context id db.draw execution profile :=
  ⟨served.current, served.stored, served.isIn, served.isProfile⟩

theorem finished_conflicts
    (requestDigest leaseDigest : D) (other : Operation D)
    (served : Served context id db execution profile) (ordinary : execution.routine = none)
    (found : execution.attempt? id.number = some attempt)
    (finished : attempt.Finished requestDigest leaseDigest)
    (asked : other.endingRequest = some (context, id)) (wellFormed : other.IsWellFormed env)
    (terminal : other.service ≠ .acknowledgeStopped)
    (differs : other.requestDigests env false db.supply ≠ some (requestDigest, leaseDigest)) :
    Conflicts (apply env ⟨now, other⟩ db) := by
  cases other <;> simp only [Operation.endingRequest, Option.some.injEq, Prod.mk.injEq,
    reduceCtorEq] at asked <;> obtain ⟨rfl, rfl⟩ := asked
  case completeAttempt leaseToken receipt terminalEvent =>
    obtain ⟨named, checked⟩ := wellFormed
    simp only [apply]
    rw [completeAttempt_eq env db now _ _ leaseToken receipt terminalEvent checked]
    exact (finishAttempt_conflicts env db now _ _ leaseToken _ requestDigest leaseDigest named
      served found fun _ => ⟨finished, fun same => differs (congrArg some same.symm)⟩).reply _
  case failAttempt leaseToken failure terminalEvent =>
    obtain ⟨named, coded, reported, checked⟩ := wellFormed
    have noRoutine := served.noRoutine db _ _ ordinary
    simp only [apply]
    rw [failAttempt_eq_finish env db now _ _ leaseToken terminalEvent coded reported
      checked noRoutine]
    have different : (requestDigest, leaseDigest) ≠
        (env.digestPayload (.terminal (failure.canonical failure.reported) terminalEvent),
          env.digestLeaseToken leaseToken) :=
      fun same => differs (congrArg some same.symm)
    exact (finishAttempt_conflicts env db now _ _ leaseToken _ requestDigest leaseDigest named
      served found fun _ => ⟨finished, different⟩).reply _
  case acknowledgeStopped => exact absurd rfl terminal

theorem recorded_conflicts
    {requestDigest tokenDigest : D} {eventId : Uuid} {receipt : RoutineTerminalReceipt}
    {other : Operation D} (served : Served context id db execution profile)
    (found : execution.attempt? id.number = some attempt)
    (isCurrent : execution.routineAt id.number = some routine)
    (recorded : attempt.RecordedBy routine.routineId requestDigest tokenDigest eventId receipt
      lease acquisition)
    (asked : other.endingRequest = some (context, id)) (wellFormed : other.IsWellFormed env)
    (terminal : other.service ≠ .acknowledgeStopped)
    (differs : other.requestDigests env true db.supply ≠ some (requestDigest, tokenDigest)) :
    Conflicts (apply env ⟨now, other⟩ db) := by
  cases other <;> simp only [Operation.endingRequest, Option.some.injEq, Prod.mk.injEq,
    reduceCtorEq] at asked <;> obtain ⟨rfl, rfl⟩ := asked
  case completeAttempt leaseToken receipt terminalEvent =>
    obtain ⟨named, checked⟩ := wellFormed
    simp only [apply]
    rw [completeAttempt_eq env db now _ _ leaseToken receipt terminalEvent checked]
    exact (finishAttempt_conflicts env db now _ _ leaseToken _ requestDigest tokenDigest named
      served found fun ordinary => absurd ordinary (routine_ne_none isCurrent)).reply _
  case failAttempt leaseToken failure terminalEvent =>
    obtain ⟨named, coded, reported, _⟩ := wellFormed
    have current := (served.routineOf db _ _ found).trans isCurrent
    simp only [apply]
    rw [failAttempt_eq_result env db now _ _ leaseToken terminalEvent coded reported current]
    have different : (requestDigest, tokenDigest) ≠
        (env.digestPayload (.routineResult (routineFailure db.supply terminalEvent)),
          env.digestLeaseToken leaseToken) :=
      fun same => differs (congrArg some same.symm)
    refine Conflicts.reply (Conflicts.bind ?_ _) _
    split
    · exact appendRuntimeRoutineResult_conflicts env db now _ _ leaseToken named served found isCurrent recorded different
    · exact appendRuntimeRoutineResult_conflicts env db.draw now _ _ leaseToken named (served.draw db) found isCurrent recorded different
  case acknowledgeStopped => exact absurd rfl terminal

theorem stopped_conflicts
    (requestDigest tokenDigest : D) (receipt : StopReceipt) (other : Operation D)
    (served : Served context id db execution profile)
    (found : execution.attempt? id.number = some attempt)
    (stopped : attempt.StoppedBy id requestDigest tokenDigest receipt)
    (asked : other.endingRequest = some (context, id)) (wellFormed : other.IsWellFormed env)
    (stops : other.service = .acknowledgeStopped)
    (isRoutine : Bool)
    (differs : other.requestDigests env isRoutine db.supply ≠ some (requestDigest, tokenDigest)) :
    Conflicts (apply env ⟨now, other⟩ db) := by
  cases other <;> simp only [Operation.service, reduceCtorEq] at stops
  case acknowledgeStopped leaseToken reason supplied =>
    simp only [Operation.endingRequest, Option.some.injEq, Prod.mk.injEq] at asked
    obtain ⟨rfl, rfl⟩ := asked
    obtain ⟨named, reasoned⟩ := wellFormed
    exact (acknowledgeStopped_conflicts env db now _ _ leaseToken named reasoned served found stopped
      fun same => differs (congrArg some same.symm)).reply _

end

/-! ## Accepted requests -/

/-- Every request of the same kind that is known by other digests conflicts. -/
def Operation.Excludes (operation : Operation D) (execution : Execution D) : Prop :=
  ∀ again other, other.endingRequest = some (context, id) → other.IsWellFormed env →
    (other.service = .acknowledgeStopped ↔ operation.service = .acknowledgeStopped) →
    other.requestDigests env execution.isRoutineDispatch db.supply ≠
      operation.requestDigests env execution.isRoutineDispatch db.supply →
    Conflicts (apply env ⟨again, other⟩ db)

/-- The request is answered from what it stored: a stop and a routine's failure
always, another request while its profile may be written to. -/
def Operation.MayRepeat (operation : Operation D) (execution : Execution D)
    (profile : RuntimeProfile D) : Prop :=
  operation.service = .acknowledgeStopped ∨ execution.routine ≠ none ∨
    profileAllowsRuntimeWrite profile = true ∧ operation.marksRetryable = false

variable (later : Db D) {execution : Execution D} {profile : RuntimeProfile D}

theorem finish_is_idempotent
    (args : TerminalArgs) (receipt : TerminalReceipt) (operation : Operation D)
    (holds : ∀ execution, db.executions.lookup id.execution = some execution →
      execution.FinishedIsResolved)
    (success : finishAttempt env now context id leaseToken args db = .ok (receipt, next))
    (served : Served context id later execution profile)
    (kept : ∀ former, next.executions.lookup id.execution = some former →
      former.KeepsRequests execution)
    (terminal : operation.service ≠ .acknowledgeStopped)
    (digests : operation.requestDigests env false later.supply =
      some (env.digestPayload (.terminal args.canonical args.terminalEvent),
        env.digestLeaseToken leaseToken)) :
    execution.routine = none ∧ operation.Excludes env later context id execution ∧
      (args.retryable = decide (args.canonical.get? "retryable" = some (.bool true)) →
        profileAllowsRuntimeWrite profile = true →
        ∀ again, finishAttempt env again context id leaseToken args later = .ok (receipt, later)) := by
  obtain ⟨named, former, attempt, stored, _, ordinary, settled, finished, answered⟩ :=
    finishAttempt_stores env db next now context id leaseToken args receipt holds success
  have keeps := kept former stored
  have stays := (keeps.settled id.number attempt settled).1
  have plain := keeps.kind.mpr ordinary
  refine ⟨plain, ?_, fun marked serving again => ?_⟩
  · intro again other asked wellFormed same differs
    have isPlain : execution.isRoutineDispatch = false := by
      rw [Execution.isRoutineDispatch, plain]
      rfl
    rw [isPlain, digests] at differs
    exact finished_conflicts env later again context id _ _ other served plain stays.found
      finished asked wellFormed (fun stops => terminal (same.mp stops)) differs
  · exact finishAttempt_replays env later again context id leaseToken args receipt named served
      plain stays.found serving finished (answered marked)

theorem stop_is_idempotent
    (reason : String) (supplied : Option D) (receipt : StopReceipt)
    (success : acknowledgeStopped env now context id leaseToken reason supplied db =
      .ok (receipt, next))
    (served : Served context id later execution profile)
    (kept : ∀ former, next.executions.lookup id.execution = some former →
      former.KeepsRequests execution) :
    (Operation.acknowledgeStopped context id leaseToken reason supplied).Excludes env later context
        id execution ∧
      ∀ again, acknowledgeStopped env again context id leaseToken reason supplied later =
        .ok (receipt, later) := by
  obtain ⟨⟨named, reasoned⟩, former, attempt, stored, found, _, stopped⟩ :=
    acknowledgeStopped_stores env db next now context id leaseToken reason supplied receipt success
  obtain ⟨last, isLast, keeps⟩ := (kept former stored).requests id.number attempt found
  have still := stopped.kept keeps
  refine ⟨?_, fun again => ?_⟩
  · intro again other asked wellFormed same differs
    exact stopped_conflicts env later again context id _ _ receipt other served isLast still asked
      wellFormed (same.mpr rfl) _ differs
  · exact acknowledgeStopped_replays env later again context id leaseToken
      named reasoned served isLast still

theorem routine_failure_is_idempotent
    (request : RoutineResultRequest) (receipt : RoutineTerminalReceipt) (operation : Operation D)
    (holds : ∀ execution, db.executions.lookup id.execution = some execution →
      execution.RoutineHolds RoutineRests)
    (success : appendRuntimeRoutineResult env now context id leaseToken request db =
      .ok (receipt, next))
    (served : Served context id later execution profile)
    (kept : ∀ former, next.executions.lookup id.execution = some former →
      former.KeepsRequests execution)
    (terminal : operation.service ≠ .acknowledgeStopped)
    (digests : operation.requestDigests env true later.supply =
      some (env.digestPayload (.routineResult request), env.digestLeaseToken leaseToken)) :
    operation.Excludes env later context id execution ∧
      (∃ routine, (later.attempt? id).bind (fun found => found.1.routineAt id.number) =
        some routine) ∧
      ∀ again, appendRuntimeRoutineResult env again context id leaseToken request later =
        .ok (receipt, later) := by
  obtain ⟨named, former, attempt, routine, lease, acquisition, stored, _, current, settled,
    recorded⟩ := appendRuntimeRoutineResult_stores env db next now context id leaseToken request
      receipt holds success
  have keeps := kept former stored
  obtain ⟨stays, same⟩ := keeps.settled id.number attempt settled
  have stillCurrent := same.trans current
  refine ⟨?_, ⟨routine, (served.routineOf later context id stays.found).trans stillCurrent⟩,
    fun again => ?_⟩
  · intro again other asked wellFormed sameKind differs
    have isRoutine : execution.isRoutineDispatch = true := by
      rw [Execution.isRoutineDispatch, ((Execution.routineAt_eq_some _ _ _).mp stillCurrent).1]
      rfl
    rw [isRoutine, digests] at differs
    exact recorded_conflicts env later again context id served
      stays.found stillCurrent recorded asked wellFormed
      (fun stops => terminal (sameKind.mp stops)) differs
  · exact appendRuntimeRoutineResult_replays env later again context id leaseToken
      named served stays.found stillCurrent recorded

end

section

variable [DecidableEq D]

theorem accepted_kept (env : Env D) (first rest : List (Call D)) (call : Call D)
    (answer : Reply D) (next : Db D)
    (meets : RunMeets env NoLateApproval Db.empty (first ++ call :: rest))
    (accepted : apply env call (run env Db.empty first) = .ok (answer, next))
    (id : Uuid) (former execution : Execution D)
    (stored : next.executions.lookup id = some former)
    (present : (run env Db.empty (first ++ call :: rest)).executions.lookup id = some execution) :
    former.KeepsRequests execution := by
  have split : first ++ call :: rest = (first ++ [call]) ++ rest := by simp
  rw [split] at meets present
  refine (requestRule env).relates (first ++ [call]) rest meets id former execution ?_ present
  have reached : run env Db.empty (first ++ [call]) = next :=
    (Run.run_append Db.empty first [call]).trans (Run.step_of_ok _ next call answer accepted)
  rw [reached]
  exact stored

theorem ending_requests_are_idempotent
    (env : Env D) (first rest : List (Call D)) (call : Call D)
    (meets : RunMeets env NoLateApproval Db.empty (first ++ call :: rest)) :
    (∀ id number execution later attempt digest,
        (run env Db.empty first).executions.lookup id = some execution →
        (run env Db.empty (first ++ call :: rest)).executions.lookup id = some later →
        execution.attempt? number = some attempt →
        attempt.terminalRequestDigest = some digest →
        ∃ last, later.attempt? number = some last ∧
          last.terminalRequestDigest = some digest) ∧
      ∀ context id answer next execution profile,
        call.operation.endingRequest = some (context, id) →
        call.operation.isBareFailure = false →
        apply env call (run env Db.empty first) = .ok (answer, next) →
        Served context id (run env Db.empty (first ++ call :: rest)) execution profile →
        (call.operation.MayRepeat execution profile →
          ∀ again, apply env ⟨again, call.operation⟩ (run env Db.empty (first ++ call :: rest)) =
            .ok (answer, run env Db.empty (first ++ call :: rest))) ∧
        ∀ again other, other.endingRequest = some (context, id) → other.IsWellFormed env →
          (other.service = .acknowledgeStopped ↔
            call.operation.service = .acknowledgeStopped) →
          other.requestDigests env execution.isRoutineDispatch
              (run env Db.empty (first ++ call :: rest)).supply ≠
            call.operation.requestDigests env execution.isRoutineDispatch
              (run env Db.empty (first ++ call :: rest)).supply →
          Conflicts (apply env ⟨again, other⟩ (run env Db.empty (first ++ call :: rest))) ∧
            step env (run env Db.empty (first ++ call :: rest)) ⟨again, other⟩ =
              run env Db.empty (first ++ call :: rest) := by
  constructor
  · intro id number execution later attempt digest stored present found finished
    obtain ⟨last, isLast, keeps⟩ := ((requestRule env).relates first (call :: rest) meets id
      execution later stored present).requests number attempt found
    refine ⟨last, isLast, ?_⟩
    rw [keeps.terminal (by rw [finished]; exact Option.some_ne_none _), finished]
  · intro context id answer next execution profile asked withEvent accepted served
    have kept := fun former stored => accepted_kept env first rest call answer next meets accepted
      id.execution former execution stored served.stored
    have holds := fun execution stored => (requestRule env).holds first meets.append_left
      id.execution execution stored
    generalize run env Db.empty (first ++ call :: rest) = later at served kept ⊢
    -- An excluded request raises, so it changes nothing.
    have unchanged : call.operation.Excludes env later context id execution →
        ∀ again other, other.endingRequest = some (context, id) → other.IsWellFormed env →
          (other.service = .acknowledgeStopped ↔
            call.operation.service = .acknowledgeStopped) →
          other.requestDigests env execution.isRoutineDispatch later.supply ≠
            call.operation.requestDigests env execution.isRoutineDispatch later.supply →
          Conflicts (apply env ⟨again, other⟩ later) ∧ step env later ⟨again, other⟩ = later := by
      intro excludes again other isRequest wellFormed same differs
      obtain ⟨error, raised, conflict⟩ := excludes again other isRequest wellFormed same differs
      exact ⟨⟨error, raised, conflict⟩, Run.step_of_error later _ error raised⟩
    obtain ⟨now, operation⟩ := call
    cases operation <;> simp only [Operation.endingRequest, Option.some.injEq, Prod.mk.injEq,
      reduceCtorEq] at asked <;> obtain ⟨rfl, rfl⟩ := asked <;> simp only [apply] at accepted <;>
      obtain ⟨value, success, rfl⟩ := (reply_eq_ok _ _ _ _).mp accepted
    case completeAttempt leaseToken receipt terminalEvent =>
      obtain ⟨checked, finishes⟩ := completeAttempt_cases env _ next now _ _ leaseToken receipt
        terminalEvent value success
      obtain ⟨plain, excludes, repeats⟩ := finish_is_idempotent env _ next now _ _ leaseToken later
        _ value (.completeAttempt _ _ leaseToken receipt terminalEvent)
        (fun execution stored => (holds execution stored).2) finishes served kept
        (fun same => by cases same) rfl
      refine ⟨fun may again => ?_, unchanged excludes⟩
      rcases may with stops | ofRoutine | ⟨serving, unmarked⟩
      · cases stops
      · exact absurd plain ofRoutine
      · simp only [apply]
        rw [completeAttempt_eq env later again _ _ leaseToken receipt terminalEvent checked,
          repeats unmarked.symm serving again]
        rfl
    case failAttempt leaseToken failure terminalEvent =>
      obtain ⟨⟨coded, reported⟩, ⟨routine, result, _, recorded, rfl⟩ | ⟨_, checked, finishes⟩⟩ :=
        failAttempt_cases env _ next now _ _ leaseToken failure terminalEvent value success
      · obtain ⟨event, rfl⟩ : ∃ event, terminalEvent = some event := by
          cases terminalEvent with
          | none => cases withEvent
          | some event => exact ⟨event, rfl⟩
        obtain ⟨excludes, ⟨current, isCurrent⟩, repeats⟩ := routine_failure_is_idempotent env _ next
          now _ _ leaseToken later _ result (.failAttempt _ _ leaseToken failure (some event))
          (fun execution stored => (holds execution stored).1) recorded served kept
          (fun same => by cases same) rfl
        refine ⟨fun _ again => ?_, unchanged excludes⟩
        simp only [apply]
        rw [failAttempt_eq_result env later again _ _ leaseToken (some event) coded reported isCurrent]
        have same : appendRuntimeRoutineResult env again _ _ leaseToken
            (routineFailure later.supply (some event)) later = .ok (result, later) := repeats again
        simp only [Option.isSome_some, if_true, same]
        rfl
      · obtain ⟨plain, excludes, repeats⟩ := finish_is_idempotent env _ next now _ _ leaseToken
          later _ value (.failAttempt _ _ leaseToken failure terminalEvent)
          (fun execution stored => (holds execution stored).2) finishes served kept
          (fun same => by cases same) rfl
        refine ⟨fun may again => ?_, unchanged excludes⟩
        rcases may with stops | ofRoutine | ⟨serving, _⟩
        · cases stops
        · exact absurd plain ofRoutine
        · have marked : failure.retryable = decide
              ((failure.canonical failure.reported).get? "retryable" = some (.bool true)) := by
            cases retryable : failure.retryable <;>
              simp [Failure.canonical, Json.get?, retryable]
          simp only [apply]
          rw [failAttempt_eq_finish env later again _ _ leaseToken terminalEvent coded
            reported checked (served.noRoutine later _ _ plain), repeats marked serving again]
          rfl
    case acknowledgeStopped leaseToken reason supplied =>
      obtain ⟨excludes, repeats⟩ := stop_is_idempotent env _ next now _ _ leaseToken later reason
        supplied value success served kept
      refine ⟨fun _ again => ?_, unchanged excludes⟩
      simp only [apply]
      rw [repeats again]
      rfl

end

def completeWork : Call PlainDigest :=
  ⟨0, .completeAttempt ⟨0, 1⟩ ⟨7, 1⟩ leaseToken (.obj [("code", .str "done")]) none⟩

def cleanUp : Call PlainDigest := ⟨0, .requestProfileCleanup 0 50 90 "context" none⟩

theorem completion_is_answered_again :
    ∃ answer next,
      apply Env.plain completeWork (run Env.plain Db.empty (bringUp ++ ordinaryWork)) =
        .ok (answer, next) ∧
      apply Env.plain completeWork
          (run Env.plain Db.empty ((bringUp ++ ordinaryWork) ++ completeWork :: [])) =
        .ok (answer, run Env.plain Db.empty ((bringUp ++ ordinaryWork) ++ completeWork :: [])) := by
  have accepted : (apply Env.plain completeWork
      (run Env.plain Db.empty (bringUp ++ ordinaryWork))).isOk = true := by decide
  have rows : ((run Env.plain Db.empty ((bringUp ++ ordinaryWork) ++ completeWork :: [])).workspaces.lookup
        0).any (fun workspace => decide (workspace.machineGeneration = 1)) = true ∧
      ((run Env.plain Db.empty ((bringUp ++ ordinaryWork) ++ completeWork :: [])).executions.lookup
        7).any (fun execution => decide (execution.workspace = 0 ∧ execution.profile = 50)) = true ∧
      ((run Env.plain Db.empty ((bringUp ++ ordinaryWork) ++ completeWork :: [])).profiles.lookup
        50).any (fun profile => profileAllowsRuntimeWrite profile) = true := by decide
  obtain ⟨isWorkspace, isExecution, isProfile⟩ := rows
  obtain ⟨workspace, foundWorkspace, generation⟩ := (Option.any_eq_true _ _).mp isWorkspace
  obtain ⟨execution, stored, belongs⟩ := (Option.any_eq_true _ _).mp isExecution
  obtain ⟨profile, foundProfile, serving⟩ := (Option.any_eq_true _ _).mp isProfile
  obtain ⟨inWorkspace, ofProfile⟩ := of_decide_eq_true belongs
  have served : Served ⟨0, 1⟩ ⟨7, 1⟩
      (run Env.plain Db.empty ((bringUp ++ ordinaryWork) ++ completeWork :: [])) execution profile :=
    ⟨⟨workspace, foundWorkspace, of_decide_eq_true generation⟩, stored, inWorkspace,
      by rw [ofProfile]; exact foundProfile⟩
  have quiet : ((bringUp ++ ordinaryWork) ++ completeWork :: []).all
      (fun call => call.operation.service ≠ .decideRoutineApproval) = true := by decide
  have meets : RunMeets Env.plain NoLateApproval Db.empty
      ((bringUp ++ ordinaryWork) ++ completeWork :: []) :=
    runMeets_of_mem Env.plain NoLateApproval Db.empty _ fun call member db id execution =>
      .of_service (of_decide_eq_true (List.all_eq_true.mp quiet call member))
  cases result : apply Env.plain completeWork (run Env.plain Db.empty (bringUp ++ ordinaryWork)) with
  | error =>
    rw [result] at accepted
    cases accepted
  | ok pair =>
    obtain ⟨answer, next⟩ := pair
    have repeats := ((ending_requests_are_idempotent Env.plain (bringUp ++ ordinaryWork) []
      completeWork meets).2 ⟨0, 1⟩ ⟨7, 1⟩ answer next execution profile rfl rfl result served).1
      (.inr (.inr ⟨serving, by decide⟩)) 0
    exact ⟨answer, next, rfl, repeats⟩

/-- Once the profile is being cleaned up, the completion that was accepted is refused. -/
theorem completion_is_refused_after_cleanup :
    (apply Env.plain completeWork (run Env.plain Db.empty (bringUp ++ ordinaryWork))).isOk = true ∧
      (∃ workspace, (run Env.plain Db.empty (bringUp ++ ordinaryWork ++
          [completeWork, cleanUp])).workspaces.lookup 0 = some workspace ∧
        workspace.machineGeneration = 1) ∧
      ∃ error, apply Env.plain completeWork
        (run Env.plain Db.empty (bringUp ++ ordinaryWork ++ [completeWork, cleanUp])) =
          .error error := by
  have current : ((run Env.plain Db.empty (bringUp ++ ordinaryWork ++
      [completeWork, cleanUp])).workspaces.lookup 0).any
      (fun workspace => decide (workspace.machineGeneration = 1)) = true := by decide
  have refused : (apply Env.plain completeWork
      (run Env.plain Db.empty (bringUp ++ ordinaryWork ++ [completeWork, cleanUp]))).isOk = false := by
    decide
  obtain ⟨workspace, stored, generation⟩ := (Option.any_eq_true _ _).mp current
  refine ⟨by decide, ⟨workspace, stored, of_decide_eq_true generation⟩, ?_⟩
  cases result : apply Env.plain completeWork
      (run Env.plain Db.empty (bringUp ++ ordinaryWork ++ [completeWork, cleanUp])) with
  | error error => exact ⟨error, rfl⟩
  | ok pair =>
    rw [result] at refused
    cases refused

end Foundry
