import Foundry.Evolution.Waits

/-!
# Routine approval actions

A routine that waits for an approval waits with all its rows: the action is PENDING,
the routine and its attempt are APPROVAL_WAITING, and the lease is resolved.
`record_routine_result` is the one operation that ends such a routine without its
action; the approval that may still follow takes the ended routine back to work.
Where no result is recorded over a wait, each action is answered once and a routine
that has ended stays ended.
-/

set_option autoImplicit false

namespace Foundry

variable {D : Type}

/-- No result is recorded for a routine while one of its actions is PENDING. -/
def NoResultOverWait (call : Call D) (_db : Db D) (id : Uuid) (execution : Execution D) : Prop :=
  call.operation.service = .recordRoutineResult → call.operation.resultTarget = some id →
    ∀ routine, execution.routine = some routine → routine.status.isTerminal = false →
      routine.hasAction .pending = false

/-! ## Actions over time -/

/-- The same action at a later moment: it is PENDING only if it was before. -/
structure RoutineApprovalAction.Continues (action next : RoutineApprovalAction) : Prop where
  request : next.approvalRequestId = action.approvalRequestId
  actionAttempt : next.actionAttemptId = action.actionAttemptId
  answered : action.status ≠ .pending → next.status ≠ .pending

def RoutineExecution.ActionsContinue (routine next : RoutineExecution) : Prop :=
  ∀ (index : Nat) (action : RoutineApprovalAction), routine.actions[index]? = some action →
    ∃ later, next.actions[index]? = some later ∧ action.Continues later

namespace RoutineApprovalAction.Continues

variable {action next third : RoutineApprovalAction}

theorem refl (action : RoutineApprovalAction) : action.Continues action :=
  ⟨rfl, rfl, id⟩

theorem trans (earlier : action.Continues next) (later : next.Continues third) :
    action.Continues third :=
  ⟨later.request.trans earlier.request, later.actionAttempt.trans earlier.actionAttempt,
    fun answered => later.answered (earlier.answered answered)⟩

end RoutineApprovalAction.Continues

namespace RoutineExecution.ActionsContinue

variable {routine next third : RoutineExecution}

theorem of_eq (same : next.actions = routine.actions) : routine.ActionsContinue next := by
  intro index action found
  exact ⟨action, by rw [same]; exact found, .refl action⟩

theorem trans (earlier : routine.ActionsContinue next) (later : next.ActionsContinue third) :
    routine.ActionsContinue third := by
  intro index action found
  obtain ⟨middle, isMiddle, first⟩ := earlier index action found
  obtain ⟨last, isLast, second⟩ := later index middle isMiddle
  exact ⟨last, isLast, first.trans second⟩

theorem of_map (change : RoutineApprovalAction → RoutineApprovalAction)
    (same : next.actions = routine.actions.map change)
    (continues : ∀ action : RoutineApprovalAction, action.Continues (change action)) :
    routine.ActionsContinue next := by
  intro index action found
  refine ⟨change action, ?_, continues action⟩
  rw [same, List.getElem?_map, found]
  rfl

theorem of_snoc (action : RoutineApprovalAction)
    (same : next.actions = routine.actions ++ [action]) : routine.ActionsContinue next := by
  intro index former found
  have listed : index < routine.actions.length := (List.getElem?_eq_some_iff.mp found).1
  refine ⟨former, ?_, .refl former⟩
  rw [same, List.getElem?_append_left listed]
  exact found

theorem of_update (request : Uuid) (change : RoutineApprovalAction → RoutineApprovalAction)
    (same : next.actions = (routine.updateAction request change).actions)
    (continues : ∀ action : RoutineApprovalAction, action.Continues (change action)) :
    routine.ActionsContinue next := by
  refine .of_map _ same fun action => ?_
  split
  · exact continues action
  · exact .refl action

theorem of_endWithResult (outcome : RoutineOutcome) (event : ExecutionEvent D)
    (routine : RoutineExecution) :
    routine.ActionsContinue (routine.endWithResult outcome event) := by
  simp only [RoutineExecution.endWithResult]
  split
  · refine .of_map _ rfl fun action => ?_
    split
    · exact ⟨rfl, rfl, fun _ => RoutineApprovalStatus.noConfusion⟩
    · exact .refl action
  · exact .of_eq rfl

end RoutineExecution.ActionsContinue

structure RoutineExecution.Continues (routine next : RoutineExecution) : Prop where
  actions : routine.ActionsContinue next
  ended : routine.status.isTerminal = true → next.status = routine.status

namespace RoutineExecution.Continues

variable {routine next third : RoutineExecution}

theorem refl (routine : RoutineExecution) : routine.Continues routine :=
  ⟨.of_eq rfl, fun _ => rfl⟩

theorem trans (earlier : routine.Continues next) (later : next.Continues third) :
    routine.Continues third := by
  refine ⟨earlier.actions.trans later.actions, fun ended => ?_⟩
  have same := earlier.ended ended
  exact (later.ended (by rw [same]; exact ended)).trans same

theorem of_unfinished (unfinished : routine.status.isTerminal = false)
    (actions : routine.ActionsContinue next) : routine.Continues next := by
  refine ⟨actions, fun ended => ?_⟩
  rw [unfinished] at ended
  cases ended

end RoutineExecution.Continues

/-! ## The invariant -/

/-- A PENDING action finds its routine and its attempt waiting. -/
structure RoutineWaits (status : ExecutionStatus) (routine : RoutineExecution)
    (attempt : Attempt D) : Prop extends RoutineRests status routine attempt where
  waiting : routine.hasAction .pending = true → routine.status = .approvalWaiting

namespace RoutineWaits

variable {status : ExecutionStatus} {routine : RoutineExecution} {attempt : Attempt D}

theorem unfinished (waits : RoutineWaits status routine attempt)
    (pending : routine.hasAction .pending = true) : routine.status.isTerminal = false := by
  rw [waits.waiting pending]
  rfl

theorem attempt_waits (waits : RoutineWaits status routine attempt)
    (pending : routine.hasAction .pending = true) :
    attempt.status = .approvalWaiting ∧ attempt.hasUnresolvedLease = false := by
  obtain ⟨free, waiting⟩ := waits.waits pending
  exact ⟨waiting (waits.unfinished pending), free⟩

end RoutineWaits

section

variable [DecidableEq D] {env : Env D} {call : Call D} {db : Db D} {id : Uuid}
  {execution next : Execution D} {number : Nat} {attempt later : Attempt D}
  {status : ExecutionStatus} {routine : RoutineExecution}

variable {written : RoutineExecution}

theorem Move.continues
    (move : Move env call db id execution number attempt later status (some written))
    (rows : RoutineOf execution routine number attempt)
    (waits : RoutineWaits execution.status routine attempt) : routine.Continues written := by
  have leased : attempt.hasUnresolvedLease = true → routine.status.isTerminal = false :=
    fun unresolved => (waits.of_leased unresolved).1
  have same : execution.routine = some written → routine.Continues written := by
    intro has
    obtain rfl : written = routine := Option.some.inj (has.symm.trans rows.has)
    exact .refl written
  generalize isWritten : some written = routine' at move
  cases move with
  | append | renew | mutate | sealReplay | fence | close | retire | cleanup =>
    exact same isWritten.symm
  | bindRoutineSession other _ _ _ _ _ current =>
    obtain rfl := rows.same other current
    cases isWritten
    exact ⟨.of_eq rfl, fun _ => rfl⟩
  | stopRoutine _ _ _ _ other _ _ _ _ _ _ current _ _ _ result
  | record other _ _ _ _ current result | recordSealed other _ _ _ _ _ _ _ current _ _ result =>
    obtain rfl := rows.same other current
    cases isWritten
    exact .of_unfinished result.unfinished (.of_endWithResult _ _ _)
  | requestApproval other _ action _ _ current working =>
    obtain rfl := rows.same other current
    cases isWritten
    exact .of_unfinished (by rw [working]; rfl) (.of_snoc action rfl)
  | approve _ other action _ _ _ _ current listed pending =>
    obtain rfl := rows.same other current
    cases isWritten
    refine .of_unfinished (waits.unfinished ?_) (.of_update _ _ rfl fun former => ?_)
    · exact (hasAction_eq_true _ _).mpr ⟨action, listed, pending⟩
    · exact ⟨rfl, rfl, fun _ => RoutineApprovalStatus.noConfusion⟩
  | endWait other action waitEnd event _ ending current _ _ result =>
    obtain rfl := rows.same other current
    cases isWritten
    refine .of_unfinished result.unfinished ?_
    have closed : other.ActionsContinue (other.closeAction action.approvalRequestId waitEnd) :=
      .of_update _ _ rfl fun former => ⟨rfl, rfl, fun _ => (ends_of_waitEnd ending).1⟩
    exact closed.trans (.of_endWithResult .failed event _)
  | requeueRoutine other _ _ current held unresolved =>
    obtain rfl := rows.same other current
    cases isWritten
    exact .of_unfinished (leased (hasUnresolvedLease_of_held held unresolved)) (.of_eq rfl)
  | retireRoutine other _ _ _ event _ current _ _ _ _ _ result
  | cleanupRoutine _ other _ event _ _ current _ _ result =>
    obtain rfl := rows.same other current
    cases isWritten
    exact .of_unfinished result.unfinished
      (.trans (.of_endWithResult .failed event other) (.of_eq rfl))
  | resume _ other _ _ current eligible | abandon _ other _ _ current eligible =>
    obtain rfl := rows.same other current
    cases isWritten
    exact .of_unfinished (unfinished_of_statusAllowsClaim rows.has eligible) (.of_eq rfl)
  | bindSession _ _ _ _ _ ordinary | finish _ _ _ _ _ _ _ ordinary =>
    exact absurd ordinary rows.ne_none
  | stop _ _ _ _ _ _ _ _ _ ordinary | requeue _ _ ordinary =>
    rw [rows.isCurrent] at ordinary
    cases ordinary

theorem Move.waits (move : Move env call db id execution number attempt later status (some written))
    (rows : RoutineOf execution routine number attempt)
    (waits : RoutineWaits execution.status routine attempt)
    (quiet : NoResultOverWait call db id execution) : RoutineWaits status written later := by
  have timely : NoLateApproval call db id execution := by
    intro command other former action asked target granted current listed pending unexpired
    have has := ((Execution.routineAt_eq_some _ _ _).mp current).1
    obtain rfl : former = routine := Option.some.inj (has.symm.trans rows.has)
    exact waits.unfinished ((hasAction_eq_true _ _).mpr ⟨action, listed, pending⟩)
  refine ⟨move.rests rows waits.toRoutineRests timely, fun pending => ?_⟩
  have leased : attempt.hasUnresolvedLease = true → routine.hasAction .pending = false :=
    fun unresolved => (waits.of_leased unresolved).2
  -- Where nothing was pending and nothing is asked, nothing is pending.
  have settled : routine.PendingKept written → routine.hasAction .pending = false →
      written.status = .approvalWaiting := by
    intro kept none
    rw [kept.settled none] at pending
    cases pending
  have same : execution.routine = some written → written.status = .approvalWaiting := by
    intro has
    obtain rfl : written = routine := Option.some.inj (has.symm.trans rows.has)
    exact waits.waiting pending
  generalize isWritten : some written = routine' at move
  cases move with
  | append | renew | mutate | sealReplay | fence | close | retire | cleanup =>
    exact same isWritten.symm
  | requestApproval =>
    cases isWritten
    rfl
  | record other _ _ asked _ current result _ service =>
    obtain rfl := rows.same other current
    cases isWritten
    exact settled (endWithResult_pendingKept _ _ _)
      (quiet service asked other rows.has result.unfinished)
  | approve _ other action decisionDigest _ _ _ current listed isPending =>
    obtain rfl := rows.same other current
    cases isWritten
    rw [(authorize_settles rows.onePending action listed isPending decisionDigest).1] at pending
    cases pending
  | endWait other action waitEnd event _ ending current listed isPending =>
    obtain rfl := rows.same other current
    cases isWritten
    rw [endWait_settles rows.onePending action listed isPending waitEnd
      (ends_of_waitEnd ending).1 event] at pending
    cases pending
  | bindRoutineSession other _ _ _ _ _ current held active =>
    obtain rfl := rows.same other current
    cases isWritten
    exact settled (.of_eq rfl) (leased (hasUnresolvedLease_of_active held active))
  | stopRoutine _ _ _ _ other _ _ _ _ _ _ current held unresolved =>
    obtain rfl := rows.same other current
    cases isWritten
    exact settled (endWithResult_pendingKept _ _ _)
      (leased (hasUnresolvedLease_of_held held unresolved))
  | recordSealed other _ _ _ _ _ _ _ current held active =>
    obtain rfl := rows.same other current
    cases isWritten
    exact settled (endWithResult_pendingKept _ _ _)
      (leased (hasUnresolvedLease_of_active held active))
  | requeueRoutine other _ _ current held unresolved
  | abandon _ other _ _ current _ _ held unresolved =>
    obtain rfl := rows.same other current
    cases isWritten
    exact settled (.of_eq rfl) (leased (hasUnresolvedLease_of_held held unresolved))
  | retireRoutine other _ _ _ _ _ current held unresolved
  | cleanupRoutine _ other _ _ _ _ current held unresolved =>
    obtain rfl := rows.same other current
    cases isWritten
    exact settled ((endWithResult_pendingKept _ _ _).trans (.of_eq rfl))
      (leased (hasUnresolvedLease_of_held held unresolved))
  | resume _ other _ _ current _ queued =>
    obtain rfl := rows.same other current
    cases isWritten
    refine settled (.of_eq rfl) ?_
    rw [← Bool.not_eq_true]
    intro wasPending
    have waiting := (waits.attempt_waits wasPending).1
    rw [queued] at waiting
    cases waiting
  | bindSession _ _ _ _ _ ordinary | finish _ _ _ _ _ _ _ ordinary =>
    exact absurd ordinary rows.ne_none
  | stop _ _ _ _ _ _ _ _ _ ordinary | requeue _ _ ordinary =>
    rw [rows.isCurrent] at ordinary
    cases ordinary

def Execution.RoutineContinues (execution later : Execution D) : Prop :=
  ∀ routine, execution.routine = some routine →
    ∃ next, later.routine = some next ∧ routine.Continues next

theorem Change.routineContinues (change : Change env call db id execution next)
    (holds : execution.RoutineHolds RoutineWaits) : execution.RoutineContinues next := by
  intro routine has
  cases change with
  | move _ _ _ _ _ found move =>
    obtain ⟨former, rows, waits⟩ := holds.of_move (by rw [has]; exact Option.some_ne_none _) found
    obtain rfl : former = routine := Option.some.inj (rows.has.symm.trans has)
    obtain ⟨next, rfl, _⟩ := move.routineOf rows
    exact ⟨next, rfl, move.continues rows waits⟩
  | claim _ _ ordinary =>
    rw [ordinary] at has
    cases has
  | claimDetached _ former _ isFormer unset =>
    obtain ⟨_, _, rows, _⟩ := holds former isFormer
    have impossible := unset.symm.trans rows.current
    cases impossible
  | stopLeases => exact ⟨routine, has, .refl routine⟩

theorem Change.noResultOverWait (change : Change env call db id execution next)
    (holds : execution.RoutineHolds RoutineWaits) (quiet : NoResultOverWait call db id execution) :
    NoResultOverWait call db id next := by
  intro service asked later has unfinished
  cases change with
  | move _ _ _ _ _ found move =>
    have ofRoutine : execution.routine ≠ none := by
      intro ordinary
      rw [write_routine, move.routine_eq_none_iff.mpr ordinary] at has
      cases has
    obtain ⟨routine, rows, waits⟩ := holds.of_move ofRoutine found
    obtain ⟨next, rfl, _, kept | ⟨other, _⟩⟩ := move.routineOf rows
    · obtain rfl : next = later := Option.some.inj has
      have wasUnfinished : routine.status.isTerminal = false := by
        rw [← Bool.not_eq_true]
        intro ended
        rw [(move.continues rows waits).ended ended, ended] at unfinished
        cases unfinished
      exact kept.settled (quiet service asked routine rows.has wasUnfinished)
    · rw [service] at other
      cases other
  | claim _ claims | claimDetached _ _ claims =>
    rw [service] at claims
    cases claims
  | stopLeases _ cleans =>
    rw [service] at cleans
    rcases cleans with other | other <;> cases other

omit [DecidableEq D] in
theorem Born.waits (born : Born call execution) :
    execution.RoutineHolds RoutineWaits ∧ NoResultOverWait call db id execution := by
  constructor
  · refine born.routineHolds RoutineWaits ?_
    intro routine generation unstarted noActions
    have settled : routine.hasAction .pending = false := by
      rw [RoutineExecution.hasAction, noActions]
      rfl
    refine ⟨.of_live (by rw [unstarted]; rfl) settled ?_ rfl, fun pending => ?_⟩
    · intro event member
      cases member
    · rw [settled] at pending
      cases pending
  · intro service
    cases born with
    | ordinary creates => rw [service] at creates; rcases creates with other | other <;> cases other
    | routine _ _ dispatches => rw [service] at dispatches; cases dispatches

variable (env) in
def waitRule : UnitRule env where
  Condition := NoResultOverWait
  Holds := fun _ execution => execution.RoutineHolds RoutineWaits
  Related := Execution.RoutineContinues
  reflexive := fun _ routine has => ⟨routine, has, .refl routine⟩
  transitive := by
    intro first second third earlier later routine has
    obtain ⟨middle, isMiddle, before⟩ := earlier routine has
    obtain ⟨last, isLast, after⟩ := later middle isMiddle
    exact ⟨last, isLast, before.trans after⟩
  birth := fun _ _ _ _ born => born.waits
  change := by
    intro call db id execution next holds quiet change
    refine ⟨⟨?_, change.noResultOverWait holds quiet⟩, change.routineContinues holds⟩
    refine change.routineHolds RoutineWaits ?_ ?_ holds
    · intro status routine attempt profile waits
      exact ⟨waits.toRoutineRests.stopLease profile, waits.waiting⟩
    · intro number attempt later status routine written rows waits move
      exact move.waits rows waits quiet

/-- In every run that records no result over a wait: a PENDING action finds its
routine and its attempt waiting and no lease unresolved, an answered action is never
PENDING again, and a routine that has ended keeps its status. -/
theorem routine_approvals_are_answered_once (env : Env D) (first rest : List (Call D))
    (quiet : RunMeets env NoResultOverWait Db.empty (first ++ rest))
    (id : Uuid) (execution : Execution D) (routine : RoutineExecution)
    (stored : (run env Db.empty first).executions.lookup id = some execution)
    (has : execution.routine = some routine) :
    (∀ action ∈ routine.actions, action.status = .pending →
      routine.status = .approvalWaiting ∧
      (∃ number attempt, routine.currentAttempt = some number ∧
        execution.attempt? number = some attempt ∧ attempt.status = .approvalWaiting) ∧
      ∀ number attempt, execution.attempt? number = some attempt →
        attempt.hasUnresolvedLease = false) ∧
    ∀ later, (run env Db.empty (first ++ rest)).executions.lookup id = some later →
      ∃ next, later.routine = some next ∧ routine.ActionsContinue next ∧
        (routine.status.isTerminal = true → next.status = routine.status) := by
  constructor
  · intro action listed pending
    obtain ⟨number, attempt, rows, waits⟩ :=
      (waitRule env).holds first quiet.append_left id execution stored routine has
    have isPending := (hasAction_eq_true _ _).mpr ⟨action, listed, pending⟩
    obtain ⟨waiting, free⟩ := waits.attempt_waits isPending
    refine ⟨waits.waiting isPending, ⟨number, attempt, rows.current, rows.found, waiting⟩, ?_⟩
    intro other present found
    obtain rfl := rows.only other (by rw [found]; exact Option.some_ne_none _)
    obtain rfl : present = attempt := Option.some.inj (found.symm.trans rows.found)
    exact free
  · intro later present
    obtain ⟨next, isNext, continues⟩ :=
      (waitRule env).relates first rest quiet id execution later stored present routine has
    exact ⟨next, isNext, continues.actions, continues.ended⟩

end

def grantApproval : Call PlainDigest :=
  ⟨1, .decideRoutineApproval
    { scope := ⟨0, 10, 20, 50⟩
      commandId := 93
      idempotencyKey := 94
      approvalRequestId := 91
      actionAttemptId := 90
      runId := 32
      attempt := ⟨7, 1⟩
      generation := 1
      decision := .approve
      fingerprint := "decision" }⟩

theorem granted_approval_is_answered :
    ∃ execution routine action later next answered,
      (run Env.plain Db.empty waitingRoutine).executions.lookup 7 = some execution ∧
      execution.routine = some routine ∧ routine.actions[0]? = some action ∧
      action.status = .pending ∧ routine.status = .approvalWaiting ∧
      (run Env.plain Db.empty (waitingRoutine ++ [grantApproval])).executions.lookup 7 =
        some later ∧
      later.routine = some next ∧ next.actions[0]? = some answered ∧
      action.Continues answered := by
  have before : ((run Env.plain Db.empty waitingRoutine).executions.lookup 7).any
      (fun execution => execution.routine.any fun routine =>
        routine.actions[0]?.any fun action => decide (action.status = .pending)) = true := by decide
  have after : ((run Env.plain Db.empty
      (waitingRoutine ++ [grantApproval])).executions.lookup 7).isSome = true := by decide
  obtain ⟨execution, stored, holds⟩ := (Option.any_eq_true _ _).mp before
  obtain ⟨routine, has, holds⟩ := (Option.any_eq_true _ _).mp holds
  obtain ⟨action, isAction, pending⟩ := (Option.any_eq_true _ _).mp holds
  obtain ⟨later, present⟩ := Option.isSome_iff_exists.mp after
  have noResult : (waitingRoutine ++ [grantApproval]).all
      (fun call => call.operation.service ≠ .recordRoutineResult) = true := by decide
  have quiet : RunMeets Env.plain NoResultOverWait Db.empty (waitingRoutine ++ [grantApproval]) :=
    runMeets_of_mem Env.plain _ Db.empty _ fun call member _ _ _ records =>
      absurd records (of_decide_eq_true (List.all_eq_true.mp noResult call member))
  obtain ⟨waits, continues⟩ := routine_approvals_are_answered_once Env.plain waitingRoutine
    [grantApproval] quiet 7 execution routine stored has
  obtain ⟨next, isNext, actions, _⟩ := continues later present
  obtain ⟨answered, isAnswered, same⟩ := actions 0 action isAction
  have isPending := of_decide_eq_true pending
  exact ⟨execution, routine, action, later, next, answered, stored, has, isAction, isPending,
    (waits action (List.mem_of_getElem? isAction) isPending).1, present, isNext, isAnswered, same⟩

def resultOverWait : Call PlainDigest :=
  ⟨0, .recordRoutineResult 7 (some 95)
    { eventId := 95
      eventSequence := none
      outcome := .changed
      text := "done"
      references := []
      delayed := none }⟩

/-- The result leaves the action PENDING on a routine that has succeeded, and the
approval then takes that routine back to work. -/
theorem ended_routine_is_resumed :
    ∃ execution routine action later next,
      (run Env.plain Db.empty (waitingRoutine ++ [resultOverWait])).executions.lookup 7 =
        some execution ∧
      execution.routine = some routine ∧ action ∈ routine.actions ∧ action.status = .pending ∧
      routine.status = .succeeded ∧
      (run Env.plain Db.empty
        (waitingRoutine ++ [resultOverWait] ++ [grantApproval])).executions.lookup 7 =
        some later ∧
      later.routine = some next ∧ next.status = .working := by
  have before : ((run Env.plain Db.empty (waitingRoutine ++ [resultOverWait])).executions.lookup
      7).any (fun execution => execution.routine.any fun routine =>
        decide (routine.status = .succeeded) &&
          routine.actions[0]?.any fun action => decide (action.status = .pending)) = true := by
    decide
  have after : ((run Env.plain Db.empty
      (waitingRoutine ++ [resultOverWait] ++ [grantApproval])).executions.lookup 7).any
      (fun execution => execution.routine.any fun routine =>
        decide (routine.status = .working)) = true := by decide
  obtain ⟨execution, stored, holds⟩ := (Option.any_eq_true _ _).mp before
  obtain ⟨routine, has, holds⟩ := (Option.any_eq_true _ _).mp holds
  rw [Bool.and_eq_true] at holds
  obtain ⟨ended, holds⟩ := holds
  obtain ⟨action, isAction, pending⟩ := (Option.any_eq_true _ _).mp holds
  obtain ⟨later, present, holds⟩ := (Option.any_eq_true _ _).mp after
  obtain ⟨next, isNext, working⟩ := (Option.any_eq_true _ _).mp holds
  exact ⟨execution, routine, action, later, next, stored, has, List.mem_of_getElem? isAction,
    of_decide_eq_true pending, of_decide_eq_true ended, present, isNext,
    of_decide_eq_true working⟩

end Foundry
