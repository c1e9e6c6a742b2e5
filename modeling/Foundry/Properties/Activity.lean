import Foundry.Evolution.Origins
import Foundry.Properties.Fencing

/-!
# Activity revisions

A runtime waits on the activity revision of its Workspace.  The two services that create
ordinary work advance it; a routine dispatch, and every return of work to the queue,
leave it where it is.
-/

set_option autoImplicit false

namespace Foundry

open Raise

variable {D : Type}

/-- The tests the claim loop makes on the rows of an Execution. -/
def Execution.isClaimable (execution : Execution D) : Bool :=
  execution.statusAllowsClaim && execution.attemptAllowsClaim

structure MadeClaimable (db next : Db D) (id : Uuid) (later : Execution D) : Prop where
  present : next.executions.lookup id = some later
  claimable : later.isClaimable = true
  before : ∀ execution, db.executions.lookup id = some execution →
    execution.isClaimable = false

def Service.setsRevision (service : Service) : Bool :=
  service.advancesActivity || service = .maintainWorkspace

def Service.createsOrdinary (service : Service) : Prop :=
  service = .createExecution ∨ service = .createExecutionIntent

theorem Operation.service_of_result (operation : Operation D) (id : Uuid)
    (records : operation.resultTarget = some id) : operation.service.setsRevision = false := by
  cases operation <;> first | rfl | cases records

/-! ## What becomes claimable -/

section Changes

variable [DecidableEq D] {env : Env D} {call : Call D} {db : Db D} {id : Uuid}
  {execution later : Execution D} {number : Nat} {attempt moved : Attempt D}
  {status : ExecutionStatus} {written : Option RoutineExecution}

theorem Move.keeps_queue (move : Move env call db id execution number attempt moved status written)
    (sets : call.operation.service.setsRevision = true) :
    status = .failed ∨ (status = execution.status ∧ written = execution.routine ∧
      (moved.status = .queued → attempt.status = .queued)) := by
  cases move with
  | cleanup =>
    split
    · exact .inl rfl
    · refine .inr ⟨rfl, rfl, ?_⟩
      intro queued
      dsimp only at queued
      split at queued
      · cases queued
      · exact queued
  | cleanupRoutine => exact .inl rfl
  | record _ _ _ asked | recordSealed _ _ _ _ _ _ _ asked | sealReplay _ _ _ _ _ _ _ asked =>
    rw [call.operation.service_of_result id asked] at sets
    cases sets
  | finish _ _ _ _ _ _ service =>
    rcases service with service | service <;> rw [service] at sets <;> cases sets
  | endWait _ _ _ _ service =>
    rcases service with service | service | service <;> rw [service] at sets <;> cases sets
  | mutate _ _ _ _ _ asked | stop _ _ _ _ _ _ _ _ asked | stopRoutine _ _ _ _ _ _ _ _ _ _ asked
  | approve _ _ _ _ asked | fence _ _ _ _ _ asked =>
    rw [asked] at sets
    cases sets
  | append _ _ service | renew _ _ service | bindSession _ _ _ _ service
  | bindRoutineSession _ _ _ _ _ service | requestApproval _ _ _ _ service | requeue _ service
  | requeueRoutine _ _ service | close _ _ _ service | retire _ _ _ _ service
  | retireRoutine _ _ _ _ _ service | resume _ _ _ service | abandon _ _ _ service =>
    rw [service] at sets; cases sets

omit [DecidableEq D] in
theorem statusAllowsClaim_of_failed (failed : execution.status = .failed) :
    execution.statusAllowsClaim = false := by
  simp only [Execution.statusAllowsClaim, failed]
  split
  · rfl
  · split <;> rfl

theorem Change.keeps_queue (change : Change env call db id execution later)
    (sets : call.operation.service.setsRevision = true) (claimable : later.isClaimable = true) :
    execution.isClaimable = true := by
  simp only [Execution.isClaimable, Bool.and_eq_true] at claimable ⊢
  cases change with
  | move number attempt _ _ _ found move =>
    rcases move.keeps_queue sets with failed | ⟨rfl, rfl, queued⟩
    · rw [statusAllowsClaim_of_failed failed] at claimable
      cases claimable.1
    · refine ⟨claimable.1, ?_⟩
      have allows := claimable.2
      simp only [Execution.attemptAllowsClaim, write_routine] at allows ⊢
      cases current : execution.routine.bind RoutineExecution.currentAttempt with
      | none => rfl
      | some other =>
        simp only [current, attempt?_write] at allows ⊢
        by_cases same : other = number
        · subst same
          rw [if_pos rfl] at allows
          simpa [found] using queued (by simpa using allows)
        · rw [if_neg same] at allows
          exact allows
  | claim _ service | claimDetached _ _ service => rw [service] at sets; cases sets
  | stopLeases =>
    refine ⟨claimable.1, ?_⟩
    have allows := claimable.2
    simp only [Execution.attemptAllowsClaim, Execution.stopLeases] at allows ⊢
    cases current : execution.routine.bind RoutineExecution.currentAttempt with
    | none => rfl
    | some =>
      simp only [current, Execution.attempt?, Table.lookup_updateAll, Option.any_map] at allows ⊢
      exact allows

end Changes

section Calls

variable [DecidableEq D] {env : Env D} {call : Call D} {db next : Db D}

variable {start : Db D}

theorem Evolution.keeps_queue (evolution : Evolution env call start db next)
    (sets : call.operation.service.setsRevision = true)
    (ordinary : ¬ call.operation.service.createsOrdinary) (id : Uuid) (later : Execution D)
    (present : next.executions.lookup id = some later) (claimable : later.isClaimable = true) :
    ∃ execution, db.executions.lookup id = some execution ∧ execution.isClaimable = true := by
  refine evolution.keeps (fun next => ∀ id later, next.executions.lookup id = some later →
    later.isClaimable = true → ∃ execution, db.executions.lookup id = some execution ∧
      execution.isClaimable = true) ?_ (fun _ later stored claimable => ⟨later, stored, claimable⟩)
    id later present claimable
  intro middle next write holds id later present claimable
  rcases write.source id later present with ⟨execution, stored, rfl | change⟩ | created
  · exact holds id later stored claimable
  · exact holds id execution stored (change.keeps_queue sets claimable)
  · cases created.birth with
    | ordinary service => exact absurd service ordinary
    | routine _ _ service =>
      rw [service] at sets
      cases sets

omit [DecidableEq D] in
theorem WorkspaceStep.revision {id : Uuid} {workspace later : Workspace}
    (step : WorkspaceStep env call start db id workspace later)
    (keeps : call.operation.service.setsRevision = false) :
    later.activityRevision = workspace.activityRevision := by
  cases step with
  | activity advances => simp [Service.setsRevision, advances] at keeps
  | wake _ _ _ wakes =>
    exact requestExecutionWakeLocked_activity env call.now _ _ later wakes
  | opens _ _ _ _ _ _ _ _ _ written =>
    simp only [openOperation, bind_eq_ok, advanceRuntimeStartEpochLocked, pure_eq_ok] at written
    obtain ⟨_, ⟨_, _, rfl⟩, written⟩ := written
    split at written <;> simp only [pure_eq_ok] at written <;> subst written <;> rfl
  | ready =>
    simp only [Workspace.readied]
    split <;> rfl
  | maintain _ _ asked =>
    rw [asked] at keeps
    cases keeps
  | _ => rfl

omit [DecidableEq D] in
theorem createExecution_advances (now : Instant) (operationId workspaceId : Uuid)
    (before after woken : Workspace) (bindings : Table Uuid ConversationBinding)
    (execution : Execution D) (home : execution.workspace = workspaceId) (id : Uuid)
    (later : Execution D) (stored : db.workspaces.lookup workspaceId = some before)
    (wakes : requestExecutionWakeLocked env now operationId (advanceWorkspaceActivity before) =
      .ok woken)
    (made : MadeClaimable db (db.createExecution workspaceId woken bindings execution) id later)
    (present : (db.createExecution workspaceId woken bindings execution).workspaces.lookup
      later.workspace = some after) :
    ∃ row, db.workspaces.lookup later.workspace = some row ∧
      row.activityRevision < after.activityRevision := by
  have isLater := made.present
  simp only [Db.createExecution, Table.lookup_insert_eq] at isLater present
  split at isLater
  · obtain rfl := Option.some.inj isLater
    rw [if_pos home, Option.some.injEq] at present
    subst present
    refine ⟨before, by rw [home]; exact stored, ?_⟩
    rw [requestExecutionWakeLocked_activity env now _ _ woken wakes]
    exact Nat.lt_succ_self _
  · have claimable := made.claimable
    rw [made.before later isLater] at claimable
    cases claimable

theorem apply_creates (answer : Reply D) (id : Uuid) (later : Execution D) (after : Workspace)
    (creates : call.operation.service.createsOrdinary)
    (success : apply env call db = .ok (answer, next)) (made : MadeClaimable db next id later)
    (present : next.workspaces.lookup later.workspace = some after) :
    ∃ row, db.workspaces.lookup later.workspace = some row ∧
      row.activityRevision < after.activityRevision := by
  have unclaimed : next.executions ≠ db.executions := by
    intro same
    have stored := made.present
    rw [same] at stored
    have claimable := made.claimable
    rw [made.before later stored] at claimable
    cases claimable
  have retried : ∀ workspaceId workspace bindings existing,
      retriedExecution env call.now workspaceId workspace bindings existing db ≠ .ok next := by
    intro workspaceId workspace bindings existing retries
    simp only [retriedExecution] at retries
    split at retries
    · simp only [bind_eq_ok, pure_eq_ok] at retries
      obtain ⟨_, _, rfl⟩ := retries
      exact unclaimed rfl
    · cases retries
      exact unclaimed rfl
  obtain ⟨now, operation⟩ := call
  rcases creates with isCreate | isIntent
  · cases operation with
    | createExecution workspaceId =>
      simp only [apply, reply_eq_ok, createExecution, bind_eq_ok, orRaise_eq_ok] at success
      obtain ⟨_, ⟨_, _, _, _, _, _, _, _, before, stored, _, _, bindings, _, success⟩, _⟩ :=
        success
      split at success
      · simp only [bind_eq_ok, return_eq_ok] at success
        obtain ⟨_, _, _, retries, _, rfl⟩ := success
        exact absurd retries (retried _ _ _ _)
      · simp only [bind_eq_ok, return_eq_ok] at success
        obtain ⟨woken, wakes, _, rfl⟩ := success
        exact createExecution_advances now _ workspaceId before after woken bindings _ rfl id
          later stored wakes made present
    | _ => cases isCreate
  · cases operation with
    | createExecutionIntent command =>
      simp only [apply, reply_eq_ok, createExecutionIntent, bind_eq_ok] at success
      obtain ⟨_, ⟨target, resolved, success⟩, _⟩ := success
      have stored := (resolveCommand_cases env db resolved).2.1
      split at success
      · simp only [bind_eq_ok, return_eq_ok] at success
        obtain ⟨_, _, _, retries, _, rfl⟩ := success
        exact absurd retries (retried _ _ _ _)
      · simp only [bind_eq_ok, return_eq_ok] at success
        obtain ⟨_, _, _, _, woken, wakes, _, rfl⟩ := success
        exact createExecution_advances now _ target.workspaceId target.workspace after woken
          target.bindings _ rfl id later stored wakes made present
    | _ => cases isIntent

end Calls

/-- Work that becomes claimable advances the activity of its Workspace when it was created
by `create_execution` or `create_execution_intent`, and at no other time. -/
theorem claimable_work_advances_activity_iff [DecidableEq D] (env : Env D) (calls : List (Call D))
    (call : Call D) (answer : Reply D) (next : Db D)
    (success : apply env call (run env Db.empty calls) = .ok (answer, next))
    (id : Uuid) (later : Execution D) (made : MadeClaimable (run env Db.empty calls) next id later)
    (before after : Workspace)
    (stored : (run env Db.empty calls).workspaces.lookup later.workspace = some before)
    (present : next.workspaces.lookup later.workspace = some after) :
    before.activityRevision < after.activityRevision ↔
      call.operation.service = .createExecution ∨
        call.operation.service = .createExecutionIntent := by
  have numbered := (run_generations env Db.empty calls empty_workspacesNumbered).1
  generalize run env Db.empty calls = db at success made stored numbered
  have evolution := apply_evolution env call db next answer success
  constructor
  · intro advanced
    by_contra ordinary
    cases sets : call.operation.service.setsRevision with
    | true =>
      obtain ⟨execution, found, claimable⟩ := evolution.keeps_queue sets ordinary id later
        made.present made.claimable
      rw [made.before execution found] at claimable
      cases claimable
    | false =>
      have same := (evolution.workspacesContinue
        (fun workspace later => later.activityRevision = workspace.activityRevision)
        (fun _ => rfl) (fun first second => second.trans first)
        (fun _ _ _ _ step => step.revision sets) numbered).2 later.workspace before stored
      obtain ⟨_, found, _⟩ := same
      cases present.symm.trans found
      omega
  · intro creates
    obtain ⟨_, found, advanced⟩ := apply_creates answer id later after creates success made
      present
    cases stored.symm.trans found
    exact advanced

theorem madeClaimable_of_rows {db next : Db D} (id : Uuid)
    (created : (next.executions.lookup id).any (fun execution =>
      execution.isClaimable && execution.workspace = 0) = true)
    (unknown : (db.executions.lookup id).isNone = true) :
    ∃ later, MadeClaimable db next id later ∧ later.workspace = 0 := by
  obtain ⟨later, present, holds⟩ := (Option.any_eq_true _ _).mp created
  simp only [Bool.and_eq_true, decide_eq_true_eq] at holds
  refine ⟨later, ⟨present, holds.1, ?_⟩, holds.2⟩
  intro execution stored
  rw [stored] at unknown
  cases unknown

theorem claimable_work_advances_activity_created :
    ∃ answer next later before after,
      apply Env.plain ⟨0, .createExecution 0 50 "key" (.obj [])⟩
          (run Env.plain Db.empty bringUp) = .ok (answer, next) ∧
      MadeClaimable (run Env.plain Db.empty bringUp) next 7 later ∧
      (run Env.plain Db.empty bringUp).workspaces.lookup later.workspace = some before ∧
      next.workspaces.lookup later.workspace = some after ∧
      before.activityRevision < after.activityRevision := by
  have accepted : (apply Env.plain ⟨0, .createExecution 0 50 "key" (.obj [])⟩
      (run Env.plain Db.empty bringUp)).isOk = true := by decide +kernel
  have created : ((run Env.plain Db.empty (bringUp ++
      [⟨0, .createExecution 0 50 "key" (.obj [])⟩])).executions.lookup 7).any (fun execution =>
        execution.isClaimable && execution.workspace = 0) = true := by decide +kernel
  have unknown : ((run Env.plain Db.empty bringUp).executions.lookup 7).isNone = true := by
    decide +kernel
  have known : ((run Env.plain Db.empty bringUp).workspaces.lookup 0).isSome = true := by
    decide +kernel
  have kept : ((run Env.plain Db.empty (bringUp ++
      [⟨0, .createExecution 0 50 "key" (.obj [])⟩])).workspaces.lookup 0).isSome = true := by
    decide +kernel
  obtain ⟨before, stored⟩ := Option.isSome_iff_exists.mp known
  obtain ⟨after, present⟩ := Option.isSome_iff_exists.mp kept
  cases result : apply Env.plain ⟨0, .createExecution 0 50 "key" (.obj [])⟩
      (run Env.plain Db.empty bringUp) with
  | error error =>
    rw [result] at accepted
    cases accepted
  | ok pair =>
    obtain ⟨answer, next⟩ := pair
    have reached : run Env.plain Db.empty (bringUp ++
        [⟨0, .createExecution 0 50 "key" (.obj [])⟩]) = next :=
      Run.run_snoc_of_ok _ _ _ _ _ result
    rw [reached] at created present
    obtain ⟨later, made, home⟩ := madeClaimable_of_rows 7 created unknown
    rw [← home] at stored present
    exact ⟨answer, next, later, before, after, rfl, made, stored, present,
      (claimable_work_advances_activity_iff Env.plain bringUp _ answer next result 7 later made
        before after stored present).mpr (.inl rfl)⟩

/-- The dispatch of a routine makes it claimable, and the revision stays. -/
theorem dispatched_routine_keeps_revision :
    ∃ answer next later before after,
      apply Env.plain ⟨0, .acceptRoutineDispatch routineDispatch⟩
          (run Env.plain Db.empty bringUp) = .ok (answer, next) ∧
      MadeClaimable (run Env.plain Db.empty bringUp) next 7 later ∧
      (run Env.plain Db.empty bringUp).workspaces.lookup later.workspace = some before ∧
      next.workspaces.lookup later.workspace = some after ∧
      after.activityRevision = before.activityRevision := by
  have accepted : (apply Env.plain ⟨0, .acceptRoutineDispatch routineDispatch⟩
      (run Env.plain Db.empty bringUp)).isOk = true := by decide +kernel
  have created : ((run Env.plain Db.empty (bringUp ++
      [⟨0, .acceptRoutineDispatch routineDispatch⟩])).executions.lookup 7).any (fun execution =>
        execution.isClaimable && execution.workspace = 0) = true := by decide +kernel
  have unknown : ((run Env.plain Db.empty bringUp).executions.lookup 7).isNone = true := by
    decide +kernel
  have known : ((run Env.plain Db.empty bringUp).workspaces.lookup 0).any
      (fun workspace => decide (workspace.activityRevision = 1)) = true := by decide +kernel
  have kept : ((run Env.plain Db.empty (bringUp ++
      [⟨0, .acceptRoutineDispatch routineDispatch⟩])).workspaces.lookup 0).any
      (fun workspace => decide (workspace.activityRevision = 1)) = true := by decide +kernel
  obtain ⟨before, stored, revision⟩ := (Option.any_eq_true _ _).mp known
  obtain ⟨after, present, unchanged⟩ := (Option.any_eq_true _ _).mp kept
  cases result : apply Env.plain ⟨0, .acceptRoutineDispatch routineDispatch⟩
      (run Env.plain Db.empty bringUp) with
  | error error =>
    rw [result] at accepted
    cases accepted
  | ok pair =>
    obtain ⟨answer, next⟩ := pair
    have reached : run Env.plain Db.empty (bringUp ++
        [⟨0, .acceptRoutineDispatch routineDispatch⟩]) = next :=
      Run.run_snoc_of_ok _ _ _ _ _ result
    rw [reached] at created present
    obtain ⟨later, made, home⟩ := madeClaimable_of_rows 7 created unknown
    rw [← home] at stored present
    exact ⟨answer, next, later, before, after, rfl, made, stored, present,
      (of_decide_eq_true unchanged).trans (of_decide_eq_true revision).symm⟩

end Foundry
