import Foundry.Evolution.Attempts

/-!
# The rows of a routine

A routine shares one attempt with its Execution for its whole life, and at most one
of its approval actions is pending.  Whatever more is said of the three rows is
proved for single moves and carried to changes here.
-/

set_option autoImplicit false

namespace Foundry

variable {D : Type}

/-! ## Approval actions -/

def RoutineExecution.OnePending (routine : RoutineExecution) : Prop :=
  ∀ left ∈ routine.actions, ∀ right ∈ routine.actions,
    left.status = .pending → right.status = .pending →
    left.approvalRequestId = right.approvalRequestId

def RoutineExecution.PendingKept (routine next : RoutineExecution) : Prop :=
  ∀ action ∈ next.actions, action.status = .pending → action ∈ routine.actions

section

variable (routine : RoutineExecution) (status : RoutineApprovalStatus)

theorem hasAction_eq_true :
    routine.hasAction status = true ↔ ∃ action ∈ routine.actions, action.status = status := by
  simp [RoutineExecution.hasAction]

theorem hasAction_eq_false :
    routine.hasAction status = false ↔ ∀ action ∈ routine.actions, action.status ≠ status := by
  simp [RoutineExecution.hasAction]

end

namespace RoutineExecution.PendingKept

variable {routine next third : RoutineExecution}

theorem of_eq (same : next.actions = routine.actions) : routine.PendingKept next :=
  fun _ member _ => same ▸ member

theorem trans (earlier : routine.PendingKept next) (later : next.PendingKept third) :
    routine.PendingKept third :=
  fun action member pending => earlier action (later action member pending) pending

theorem onePending (kept : routine.PendingKept next) (one : routine.OnePending) :
    next.OnePending :=
  fun left isLeft right isRight leftPending rightPending =>
    one left (kept left isLeft leftPending) right (kept right isRight rightPending) leftPending
      rightPending

theorem settled (kept : routine.PendingKept next) (none : routine.hasAction .pending = false) :
    next.hasAction .pending = false := by
  rw [hasAction_eq_false] at none ⊢
  intro action member pending
  exact none action (kept action member pending) pending

theorem of_map (change : RoutineApprovalAction → RoutineApprovalAction)
    (same : next.actions = routine.actions.map change)
    (closes : ∀ action, (change action).status = .pending → change action = action) :
    routine.PendingKept next := by
  intro action member pending
  rw [same, List.mem_map] at member
  obtain ⟨former, isFormer, rfl⟩ := member
  rw [closes former pending]
  exact isFormer

end RoutineExecution.PendingKept

section

variable (routine : RoutineExecution)

theorem endWithResult_pendingKept (outcome : RoutineOutcome)
    (event : ExecutionEvent D) : routine.PendingKept (routine.endWithResult outcome event) := by
  simp only [RoutineExecution.endWithResult]
  split
  · refine .of_map _ rfl ?_
    intro action pending
    split at pending
    · cases pending
    · next other => rw [if_neg other]
  · exact .of_eq rfl

theorem authorize_pendingKept (request : Uuid)
    (decisionDigest : String) : routine.PendingKept (routine.authorize request decisionDigest) := by
  refine .of_map _ rfl ?_
  intro action pending
  split at pending
  · cases pending
  · next other => rw [if_neg other]

theorem closeAction_pendingKept (request : Uuid) (waitEnd : WaitEnd)
    (closes : waitEnd.actionStatus ≠ .pending) :
    routine.PendingKept (routine.closeAction request waitEnd) := by
  refine .of_map _ rfl ?_
  intro action pending
  split at pending
  · exact absurd pending closes
  · next other => rw [if_neg other]

end

theorem ends_of_waitEnd {waitEnd : WaitEnd} (ending : (∃ digest, waitEnd = .rejected digest) ∨
      (∃ occurrence, waitEnd = .cancelled occurrence) ∨ waitEnd = .expired) :
    waitEnd.actionStatus ≠ .pending ∧ waitEnd.runStatus.isTerminal = true ∧
      waitEnd.executionStatus.isTerminal = true ∧ waitEnd.attemptStatus.isTerminal = true := by
  rcases ending with ⟨_, rfl⟩ | ⟨_, rfl⟩ | rfl <;>
    exact ⟨RoutineApprovalStatus.noConfusion, rfl, rfl, rfl⟩

section

variable {routine : RoutineExecution} (one : routine.OnePending) (action : RoutineApprovalAction)
  (listed : action ∈ routine.actions) (pending : action.status = .pending)

include one listed pending

theorem updateAction_settles (change : RoutineApprovalAction → RoutineApprovalAction)
    (closes : ∀ former, (change former).status ≠ .pending) :
    (routine.updateAction action.approvalRequestId change).hasAction .pending = false := by
  rw [hasAction_eq_false]
  intro other member stillPending
  simp only [RoutineExecution.updateAction, List.mem_map] at member
  obtain ⟨former, isFormer, rfl⟩ := member
  split at stillPending
  · exact closes former stillPending
  · next different =>
    exact different (one former isFormer action listed stillPending pending)

theorem authorize_settles (decisionDigest : String) :
    (routine.authorize action.approvalRequestId decisionDigest).hasAction .pending = false ∧
      (routine.authorize action.approvalRequestId decisionDigest).hasAction .authorizing = true := by
  constructor
  · exact updateAction_settles one action listed pending _ fun _ => RoutineApprovalStatus.noConfusion
  · rw [hasAction_eq_true]
    refine ⟨_, List.mem_map.mpr ⟨action, listed, rfl⟩, ?_⟩
    rw [if_pos rfl]

theorem endWait_settles (waitEnd : WaitEnd)
    (closes : waitEnd.actionStatus ≠ .pending) (event : ExecutionEvent D) :
    (routine.endWait action.approvalRequestId waitEnd event).hasAction .pending = false := by
  have closed := updateAction_settles one action listed pending
    (fun former => { former with
      status := waitEnd.actionStatus
      permissionConsumed := waitEnd.permissionConsumed
      decision := waitEnd.decision <|> former.decision
      decisionDigest := waitEnd.decisionDigest <|> former.decisionDigest
      actionState := waitEnd.actionState <|> former.actionState }) fun _ => closes
  exact (endWithResult_pendingKept _ .failed event).settled closed

end

/-! ## One run -/

/-- Two states of one run: what the dispatch fixed is the same, and a bound session
stays bound. -/
structure RoutineExecution.SameRun (routine next : RoutineExecution) : Prop where
  dispatched : next = { routine with
    hermesSessionId := next.hermesSessionId
    generation := next.generation
    fence := next.fence
    status := next.status
    currentAttempt := next.currentAttempt
    terminalReceipt := next.terminalReceipt
    actions := next.actions }
  session : routine.hermesSessionId ≠ none → next.hermesSessionId = routine.hermesSessionId

namespace RoutineExecution.SameRun

variable {routine next third : RoutineExecution}

theorem refl (routine : RoutineExecution) : routine.SameRun routine :=
  ⟨rfl, fun _ => rfl⟩

theorem trans (earlier : routine.SameRun next) (later : next.SameRun third) :
    routine.SameRun third where
  dispatched := by
    rw [later.dispatched, earlier.dispatched]
  session := by
    intro bound
    have same := earlier.session bound
    exact (later.session (by rw [same]; exact bound)).trans same

end RoutineExecution.SameRun

theorem endWithResult_sameRun (routine : RoutineExecution) (outcome : RoutineOutcome)
    (event : ExecutionEvent D) : routine.SameRun (routine.endWithResult outcome event) := by
  simp only [RoutineExecution.endWithResult]
  split <;> exact ⟨rfl, fun _ => rfl⟩

theorem endWait_sameRun (routine : RoutineExecution) (request : Uuid) (waitEnd : WaitEnd)
    (event : ExecutionEvent D) : routine.SameRun (routine.endWait request waitEnd event) := by
  have closed : routine.SameRun (routine.closeAction request waitEnd) := ⟨rfl, fun _ => rfl⟩
  exact (closed.trans (endWithResult_sameRun _ .failed event)).trans ⟨rfl, fun _ => rfl⟩

section

variable [DecidableEq D] {env : Env D} {call : Call D} {db : Db D} {id : Uuid}

variable {routine : RoutineExecution} {execution : Execution D}

theorem Move.sameRun {number : Nat} {attempt later : Attempt D}
    {status : ExecutionStatus} {written : Option RoutineExecution}
    (move : Move env call db id execution number attempt later status written)
    (has : execution.routine = some routine) :
    ∃ next, written = some next ∧ routine.SameRun next := by
  have found : ∀ other, execution.routineAt number = some other → other = routine := by
    intro other current
    have isOther := ((Execution.routineAt_eq_some _ _ _).mp current).1
    exact Option.some.inj (isOther.symm.trans has)
  cases move with
  | append | renew | mutate | bindSession | stop | finish | sealReplay | fence | requeue | close
  | retire | cleanup => exact ⟨routine, has, .refl routine⟩
  | bindRoutineSession other _ _ _ _ _ current _ _ _ _ _ immutable =>
    obtain rfl := found other current
    refine ⟨_, rfl, rfl, ?_⟩
    intro isBound
    obtain ⟨session, isSession⟩ := Option.ne_none_iff_exists'.mp isBound
    rw [isSession, immutable session isSession]
  | stopRoutine _ _ _ _ other _ _ _ _ _ _ current | record other _ _ _ _ current
  | recordSealed other _ _ _ _ _ _ _ current =>
    obtain rfl := found other current
    exact ⟨_, rfl, endWithResult_sameRun _ _ _⟩
  | requestApproval other _ _ _ _ current | approve _ other _ _ _ _ _ current
  | requeueRoutine other _ _ current | resume _ other _ _ current | abandon _ other _ _ current =>
    obtain rfl := found other current
    exact ⟨_, rfl, rfl, fun _ => rfl⟩
  | endWait other _ _ _ _ _ current =>
    obtain rfl := found other current
    exact ⟨_, rfl, endWait_sameRun _ _ _ _⟩
  | retireRoutine other _ _ _ event _ current | cleanupRoutine _ other _ event _ _ current =>
    obtain rfl := found other current
    exact ⟨_, rfl, (endWithResult_sameRun _ .failed event).trans ⟨rfl, fun _ => rfl⟩⟩

theorem Change.sameRun {next : Execution D}
    (change : Change env call db id execution next) (has : execution.routine = some routine) :
    ∃ later, next.routine = some later ∧ routine.SameRun later := by
  cases change with
  | move _ _ _ _ _ _ move => exact move.sameRun has
  | claim _ _ ordinary =>
    rw [ordinary] at has
    cases has
  | claimDetached _ _ _ detached =>
    cases detached.symm.trans has
    exact ⟨_, rfl, rfl, fun _ => rfl⟩
  | stopLeases => exact ⟨routine, has, .refl routine⟩

end

/-! ## The attempt of a routine -/

/-- An Execution with its routine and the one attempt they share. -/
structure RoutineOf (execution : Execution D) (routine : RoutineExecution) (number : Nat)
    (attempt : Attempt D) : Prop where
  has : execution.routine = some routine
  current : routine.currentAttempt = some number
  found : execution.attempt? number = some attempt
  only : ∀ other, execution.attempt? other ≠ none → other = number
  onePending : routine.OnePending

namespace RoutineOf

variable {execution : Execution D} {routine : RoutineExecution} {number : Nat}
  {attempt : Attempt D}

section

variable (rows : RoutineOf execution routine number attempt)

include rows

theorem ne_none : execution.routine ≠ none := by
  rw [rows.has]
  exact Option.some_ne_none _

theorem isCurrent :
    execution.routineAt number = some routine :=
  (Execution.routineAt_eq_some _ _ _).mpr ⟨rows.has, rows.current⟩

theorem same (other : RoutineExecution)
    (isCurrent : execution.routineAt number = some other) : other = routine :=
  Option.some.inj (isCurrent.symm.trans rows.isCurrent)

end

end RoutineOf

section

variable [DecidableEq D] {env : Env D} {call : Call D} {db : Db D} {id : Uuid}
  {execution next : Execution D} {number : Nat} {attempt later : Attempt D}
  {status : ExecutionStatus} {routine : RoutineExecution} {written : Option RoutineExecution}

theorem Move.routineOf (move : Move env call db id execution number attempt later status written)
    (rows : RoutineOf execution routine number attempt) :
    ∃ next, written = some next ∧ next.currentAttempt = some number ∧
      (routine.PendingKept next ∨ call.operation.service = .requestRoutineApproval ∧
        routine.hasAction .pending = false ∧
        ∃ action, next.actions = routine.actions ++ [action]) := by
  have kept : ∃ next, execution.routine = some next ∧ next.currentAttempt = some number ∧
      (routine.PendingKept next ∨ call.operation.service = .requestRoutineApproval ∧
        routine.hasAction .pending = false ∧
        ∃ action, next.actions = routine.actions ++ [action]) :=
    ⟨routine, rows.has, rows.current, .inl (.of_eq rfl)⟩
  cases move with
  | append | renew | mutate | sealReplay | fence | close | retire | cleanup => exact kept
  | bindRoutineSession other _ _ _ _ _ current | requeueRoutine other _ _ current =>
    obtain rfl := rows.same other current
    exact ⟨_, rfl, rows.current, .inl (.of_eq rfl)⟩
  | stopRoutine _ _ _ _ other _ _ _ _ _ _ current | record other _ _ _ _ current
  | recordSealed other _ _ _ _ _ _ _ current =>
    obtain rfl := rows.same other current
    exact ⟨_, rfl, (endWithResult_currentAttempt _ _ _).trans rows.current,
      .inl (endWithResult_pendingKept _ _ _)⟩
  | requestApproval other _ action _ service current _ _ _ _ noPending =>
    obtain rfl := rows.same other current
    exact ⟨_, rfl, rows.current, .inr ⟨service, noPending, action, rfl⟩⟩
  | approve _ other _ _ _ _ _ current =>
    obtain rfl := rows.same other current
    exact ⟨_, rfl, rows.current, .inl (authorize_pendingKept _ _ _)⟩
  | endWait other action waitEnd _ _ ending current =>
    obtain rfl := rows.same other current
    refine ⟨_, rfl, (endWithResult_currentAttempt _ _ _).trans rows.current, .inl ?_⟩
    exact (closeAction_pendingKept other action.approvalRequestId waitEnd
      (ends_of_waitEnd ending).1).trans (endWithResult_pendingKept _ _ _)
  | retireRoutine other _ _ _ _ _ current | cleanupRoutine _ other _ _ _ _ current =>
    obtain rfl := rows.same other current
    exact ⟨_, rfl, (endWithResult_currentAttempt _ _ _).trans rows.current,
      .inl ((endWithResult_pendingKept _ _ _).trans (.of_eq rfl))⟩
  | resume _ other _ _ current | abandon _ other _ _ current =>
    obtain rfl := rows.same other current
    exact ⟨_, rfl, rfl, .inl (.of_eq rfl)⟩
  | bindSession _ _ _ _ _ ordinary | finish _ _ _ _ _ _ _ ordinary =>
    exact absurd ordinary rows.ne_none
  | stop _ _ _ _ _ _ _ _ _ ordinary | requeue _ _ ordinary =>
    rw [rows.isCurrent] at ordinary
    cases ordinary

omit [DecidableEq D] in
theorem RoutineExecution.OnePending.snoc {next : RoutineExecution}
    {action : RoutineApprovalAction} (none : routine.hasAction .pending = false)
    (grown : next.actions = routine.actions ++ [action]) : next.OnePending := by
  rw [hasAction_eq_false] at none
  have isNew : ∀ other ∈ next.actions, other.status = .pending → other = action := by
    intro other member pending
    rw [grown] at member
    rcases List.mem_append.mp member with old | new
    · exact absurd pending (none other old)
    · exact List.mem_singleton.mp new
  intro left isLeft right isRight leftPending rightPending
  rw [isNew left isLeft leftPending, isNew right isRight rightPending]

/-- What holds of every routine with its attempt and the status of its Execution. -/
def Execution.RoutineHolds (Holds : ExecutionStatus → RoutineExecution → Attempt D → Prop)
    (execution : Execution D) : Prop :=
  ∀ routine, execution.routine = some routine → ∃ number attempt,
    RoutineOf execution routine number attempt ∧ Holds execution.status routine attempt

omit [DecidableEq D] in
theorem Born.routineHolds (Holds : ExecutionStatus → RoutineExecution → Attempt D → Prop)
    (created : ∀ routine generation, routine.status = .queued → routine.actions = [] →
      Holds .queued routine (Attempt.fresh .queued generation))
    (born : Born call execution) : execution.RoutineHolds Holds := by
  intro routine has
  cases born with
  | ordinary _ _ noRoutine =>
    rw [noRoutine] at has
    cases has
  | routine started generation _ only isStarted current unstarted noActions queued =>
    obtain rfl : started = routine := Option.some.inj (isStarted.symm.trans has)
    refine ⟨1, Attempt.fresh .queued generation, ⟨has, current, ?_, ?_, ?_⟩, ?_⟩
    · rw [only 1]
      rfl
    · intro other present
      by_contra different
      rw [only other, if_neg different] at present
      exact present rfl
    · intro left member
      rw [noActions] at member
      cases member
    · rw [queued]
      exact created started generation unstarted noActions

omit [DecidableEq D] in
theorem Execution.RoutineHolds.of_move
    {Holds : ExecutionStatus → RoutineExecution → Attempt D → Prop}
    (holds : execution.RoutineHolds Holds) (ofRoutine : execution.routine ≠ none)
    (found : execution.attempt? number = some attempt) :
    ∃ routine, RoutineOf execution routine number attempt ∧
      Holds execution.status routine attempt := by
  obtain ⟨routine, has⟩ := Option.ne_none_iff_exists'.mp ofRoutine
  obtain ⟨_, present, rows, inside⟩ := holds routine has
  obtain rfl := rows.only number (by rw [found]; exact Option.some_ne_none _)
  obtain rfl : attempt = present := Option.some.inj (found.symm.trans rows.found)
  exact ⟨routine, rows, inside⟩

theorem Change.routineHolds (Holds : ExecutionStatus → RoutineExecution → Attempt D → Prop)
    (change : Change env call db id execution next)
    (stopped : ∀ status routine attempt profile, Holds status routine attempt →
      Holds status routine (attempt.stopLease profile))
    (moved : ∀ number attempt later status routine next,
      RoutineOf execution routine number attempt → Holds execution.status routine attempt →
      Move env call db id execution number attempt later status (some next) →
      Holds status next later)
    (holds : execution.RoutineHolds Holds) : next.RoutineHolds Holds := by
  intro routine has
  cases change with
  | move number attempt later status _ found move =>
    have ofRoutine : execution.routine ≠ none := by
      intro ordinary
      rw [write_routine, move.routine_eq_none_iff.mpr ordinary] at has
      cases has
    obtain ⟨former, rows, inside⟩ := holds.of_move ofRoutine found
    obtain ⟨next, rfl, current, pending⟩ := move.routineOf rows
    obtain rfl : next = routine := Option.some.inj has
    refine ⟨number, later, ⟨has, current, attempt?_write_same .., ?_, ?_⟩,
      moved number attempt later status former next rows inside move⟩
    · intro other isOther
      by_contra different
      rw [attempt?_write_ne _ _ _ _ _ _ different] at isOther
      exact different (rows.only other isOther)
    · rcases pending with kept | ⟨_, settled, _, grown⟩
      · exact kept.onePending rows.onePending
      · exact .snoc settled grown
  | claim =>
    cases has
  | claimDetached _ former _ isFormer unset =>
    obtain ⟨_, _, rows, _⟩ := holds former isFormer
    have impossible := unset.symm.trans rows.current
    cases impossible
  | stopLeases profile =>
    obtain ⟨number, attempt, rows, inside⟩ := holds routine has
    refine ⟨number, attempt.stopLease profile, ⟨has, rows.current, ?_, ?_, rows.onePending⟩,
      stopped _ routine attempt profile inside⟩
    · rw [Execution.attempt?_stopLeases, rows.found]
      rfl
    · intro other present
      refine rows.only other fun absent => present ?_
      rw [Execution.attempt?_stopLeases, absent]
      rfl

end

end Foundry
