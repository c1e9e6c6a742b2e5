import Foundry.Evolution.RoutineRows

/-!
# Statuses

A routine, its Execution and its attempt each have a status column, and about ten
operations write two or three of them.  `RoutinePhase` lists the combinations the
services agree on; every move leads from one phase to another, except the Machine
fence and a terminal status stored by `authorize_attempt_mutation`, which know
nothing of routines.
-/

set_option autoImplicit false

namespace Foundry

variable {D : Type}

/-! ## Phases of a routine -/

/-- The statuses of an Execution, its routine and the routine's attempt that go
together, with the state of the attempt's lease. -/
inductive RoutinePhase (status : ExecutionStatus) (routine : RoutineExecution)
    (attempt : Attempt D) : Prop
  | queued (ofRoutine : routine.status = .queued) (ofExecution : status = .queued)
      (ofAttempt : attempt.status = .queued) (free : attempt.hasUnresolvedLease = false)
      (settled : routine.hasAction .pending = false)
  | live (ofRoutine : routine.status = .working) (ofExecution : status = .running)
      (ofAttempt : attempt.status = .running) (leased : attempt.hasUnresolvedLease = true)
      (settled : routine.hasAction .pending = false)
  | resumable (ofRoutine : routine.status = .working) (ofExecution : status = .running)
      (ofAttempt : attempt.status = .queued) (free : attempt.hasUnresolvedLease = false)
      (settled : routine.hasAction .pending = false)
      (granted : routine.hasAction .authorizing = true)
  | waiting (ofRoutine : routine.status = .approvalWaiting) (ofExecution : status = .running)
      (ofAttempt : attempt.status = .approvalWaiting) (free : attempt.hasUnresolvedLease = false)
      (asked : routine.hasAction .pending = true)
  | ended (ofRoutine : routine.status.isTerminal = true) (ofExecution : status.isTerminal = true)
      (ofAttempt : attempt.status.isTerminal = true) (free : attempt.hasUnresolvedLease = false)

namespace RoutinePhase

variable {status : ExecutionStatus} {routine : RoutineExecution} {attempt : Attempt D}

section

variable (phase : RoutinePhase status routine attempt)

include phase

theorem of_leased (leased : attempt.hasUnresolvedLease = true) :
    routine.status = .working ∧ status = .running ∧ attempt.status = .running ∧
      routine.hasAction .pending = false := by
  cases phase with
  | live ofRoutine ofExecution ofAttempt _ settled =>
    exact ⟨ofRoutine, ofExecution, ofAttempt, settled⟩
  | queued _ _ _ free | resumable _ _ _ free | waiting _ _ _ free | ended _ _ _ free =>
    rw [free] at leased
    cases leased

theorem of_pending
    (pending : routine.hasAction .pending = true) : attempt.hasUnresolvedLease = false := by
  cases phase with
  | waiting _ _ _ free | ended _ _ _ free => exact free
  | queued _ _ _ _ settled | live _ _ _ _ settled | resumable _ _ _ _ settled =>
    rw [settled] at pending
    cases pending

theorem of_queued (queued : attempt.status = .queued) :
    attempt.hasUnresolvedLease = false ∧ routine.hasAction .pending = false := by
  cases phase with
  | queued _ _ _ free settled | resumable _ _ _ free settled => exact ⟨free, settled⟩
  | live _ _ other | waiting _ _ other | ended _ _ other =>
    rw [queued] at other
    cases other

end

theorem transfer {next : RoutineExecution} {later : Attempt D}
    (phase : RoutinePhase status routine attempt) (sameRoutine : next.status = routine.status)
    (sameActions : next.actions = routine.actions) (sameAttempt : later.status = attempt.status)
    (sameLease : later.hasUnresolvedLease = attempt.hasUnresolvedLease) :
    RoutinePhase status next later := by
  have same : ∀ action, next.hasAction action = routine.hasAction action := by
    intro action
    rw [RoutineExecution.hasAction, sameActions]
    rfl
  cases phase with
  | queued ofRoutine ofExecution ofAttempt free settled =>
    exact .queued (sameRoutine.trans ofRoutine) ofExecution (sameAttempt.trans ofAttempt)
      (sameLease.trans free) ((same _).trans settled)
  | live ofRoutine ofExecution ofAttempt leased settled =>
    exact .live (sameRoutine.trans ofRoutine) ofExecution (sameAttempt.trans ofAttempt)
      (sameLease.trans leased) ((same _).trans settled)
  | resumable ofRoutine ofExecution ofAttempt free settled granted =>
    exact .resumable (sameRoutine.trans ofRoutine) ofExecution (sameAttempt.trans ofAttempt)
      (sameLease.trans free) ((same _).trans settled) ((same _).trans granted)
  | waiting ofRoutine ofExecution ofAttempt free asked =>
    exact .waiting (sameRoutine.trans ofRoutine) ofExecution (sameAttempt.trans ofAttempt)
      (sameLease.trans free) ((same _).trans asked)
  | ended ofRoutine ofExecution ofAttempt free =>
    exact .ended (by rw [sameRoutine]; exact ofRoutine) ofExecution
      (by rw [sameAttempt]; exact ofAttempt) (sameLease.trans free)

end RoutinePhase

/-- The two operations that write the statuses of a routine's attempt without its
routine leave this Execution alone. -/
structure RoutineUndisturbed (call : Call D) (db : Db D) (id : Uuid) (execution : Execution D) :
    Prop where
  fence : ∀ workspace source target machineRef,
    call.operation = .confirmMachineStoppedAndFence workspace source target machineRef →
    fenceGates workspace source target machineRef db = .ok () → execution.routine ≠ none →
    ∀ number, ⟨id, number⟩ ∉ db.staleGenerationLeases workspace source
  mutation : ∀ number lease tokenDigest generation updates,
    call.operation = .authorizeAttemptMutation ⟨id, number⟩ lease tokenDigest generation updates →
    execution.routine ≠ none →
    ∀ status, updates.status = some status → status.isTerminal = false

/-- No fence reaches a routine, and `authorize_attempt_mutation` ends no attempt. -/
structure Undisturbed (call : Call D) (db : Db D) (id : Uuid) (execution : Execution D) : Prop where
  fence : ∀ workspace source target machineRef,
    call.operation = .confirmMachineStoppedAndFence workspace source target machineRef →
    fenceGates workspace source target machineRef db = .ok () → execution.routine ≠ none →
    ∀ number, ⟨id, number⟩ ∉ db.staleGenerationLeases workspace source
  mutation : ∀ number lease tokenDigest generation updates,
    call.operation = .authorizeAttemptMutation ⟨id, number⟩ lease tokenDigest generation updates →
    ∀ status, updates.status = some status → status.isTerminal = false

section

variable {call : Call D} {db : Db D} {id : Uuid} {execution : Execution D}

theorem Undisturbed.toRoutine (undisturbed : Undisturbed call db id execution) :
    RoutineUndisturbed call db id execution :=
  ⟨undisturbed.fence, fun number lease tokenDigest generation updates asked _ =>
    undisturbed.mutation number lease tokenDigest generation updates asked⟩

theorem Undisturbed.of_service (noFence : call.operation.service ≠ .confirmMachineStoppedAndFence)
    (noMutation : call.operation.service ≠ .authorizeAttemptMutation) :
    Undisturbed call db id execution := by
  constructor
  · intro workspace source target machineRef asked
    rw [asked] at noFence
    exact absurd rfl noFence
  · intro number lease tokenDigest generation updates asked
    rw [asked] at noMutation
    exact absurd rfl noMutation

end

section

variable [DecidableEq D] {env : Env D} {call : Call D} {db : Db D} {id : Uuid}
  {execution next : Execution D} {number : Nat} {attempt later : Attempt D}
  {status : ExecutionStatus} {routine : RoutineExecution}

theorem Move.phase {next : RoutineExecution}
    (move : Move env call db id execution number attempt later status (some next))
    (rows : RoutineOf execution routine number attempt)
    (phase : RoutinePhase execution.status routine attempt)
    (undisturbed : RoutineUndisturbed call db id execution) :
    RoutinePhase status next later := by
  have leased := phase.of_leased
  -- A move that leaves the routine alone is read on the same rows.
  have kept : ∀ {later : Attempt D}, execution.routine = some next →
      later.status = attempt.status → later.hasUnresolvedLease = attempt.hasUnresolvedLease →
      RoutinePhase execution.status next later := by
    intro later has sameStatus sameLease
    obtain rfl : next = routine := Option.some.inj (has.symm.trans rows.has)
    exact phase.transfer rfl rfl sameStatus sameLease
  generalize written : some next = routine' at move
  cases move with
  | append => exact kept written.symm rfl rfl
  | renew _ _ _ held active =>
    refine kept written.symm rfl ?_
    rw [hasUnresolvedLease_of_active held active, setLease_hasUnresolvedLease, active]
    rfl
  | mutate _ updates leaseId tokenDigest generation asked held active allowed =>
    have live := leased (hasUnresolvedLease_of_active held active)
    have quiet := undisturbed.mutation number leaseId tokenDigest generation updates asked
      rows.ne_none
    refine kept written.symm ?_ rfl
    rw [live.2.2.1] at allowed ⊢
    cases given : updates.status with
    | none => simp [Attempt.mutate, given, live.2.2.1]
    | some wanted =>
      have unfinished := quiet wanted given
      rw [given] at allowed
      simp only [Option.getD_some, AttemptStatus.mayBecome, unfinished, decide_eq_true_eq,
        Bool.false_eq_true, or_false] at allowed
      simp [Attempt.mutate, given, allowed]
  | bindRoutineSession other _ _ _ _ _ current held active =>
    obtain rfl := rows.same other current
    cases written
    refine phase.transfer rfl rfl rfl ?_
    rw [hasUnresolvedLease_of_active held active, setLease_hasUnresolvedLease]
    simp [Lease.bindSession, active, LeaseState.isUnresolved]
  | stopRoutine =>
    cases written
    exact .ended (by rw [endWithResult_status]; rfl) rfl rfl (by simp)
  | record _ outcome | recordSealed _ _ outcome =>
    cases written
    exact .ended (by rw [endWithResult_status]; exact outcome.runStatus_isTerminal)
      outcome.executionStatus_isTerminal outcome.attemptStatus_isTerminal (by simp)
  | sealReplay => exact kept written.symm rfl (by simp)
  | requestApproval _ _ action _ _ _ _ _ held unresolved _ pending =>
    cases written
    have live := leased (hasUnresolvedLease_of_held held unresolved)
    refine .waiting rfl live.2.1 rfl rfl ((hasAction_eq_true _ _).mpr ?_)
    exact ⟨action, List.mem_append_right _ (List.mem_singleton_self _), pending⟩
  | approve _ other action decisionDigest _ _ _ current listed pending =>
    obtain rfl := rows.same other current
    cases written
    have free := phase.of_pending ((hasAction_eq_true _ _).mpr ⟨action, listed, pending⟩)
    obtain ⟨settled, authorizes⟩ :=
      authorize_settles rows.onePending action listed pending decisionDigest
    exact .resumable rfl rfl rfl free settled authorizes
  | endWait _ _ _ _ _ ending =>
    cases written
    obtain ⟨_, ofRoutine, ofExecution, ofAttempt⟩ := ends_of_waitEnd ending
    refine .ended ofRoutine ofExecution ?_ (by simp)
    simp only [Attempt.endWait]
    split <;> exact ofAttempt
  | fence workspace source target machineRef _ asked gates listed =>
    exact absurd listed
      (undisturbed.fence workspace source target machineRef asked gates rows.ne_none number)
  | requeueRoutine other _ _ current held unresolved =>
    obtain rfl := rows.same other current
    cases written
    have live := leased (hasUnresolvedLease_of_held held unresolved)
    refine .queued rfl rfl rfl ?_ live.2.2.2
    simp [Attempt.hasUnresolvedLease, Attempt.setLease, LeaseState.isUnresolved]
  | close _ _ _ _ held unresolved notOpen =>
    have live := leased (hasUnresolvedLease_of_held held unresolved)
    rw [live.2.2.1] at notOpen
    cases notOpen
  | retire _ _ _ _ _ ordinary held unresolved | cleanup _ _ _ _ _ ordinary held unresolved =>
    have live := leased (hasUnresolvedLease_of_held held unresolved)
    rw [rows.isCurrent, Option.all_some, live.1] at ordinary
    cases ordinary
  | retireRoutine _ _ _ _ _ _ _ _ _ _ resolved =>
    cases written
    exact .ended rfl rfl rfl (expireLease_hasUnresolvedLease _ _ _ _ resolved)
  | cleanupRoutine =>
    cases written
    exact .ended rfl rfl rfl (expireLease_hasUnresolvedLease _ _ _ _ rfl)
  | resume _ other _ _ current _ queued source =>
    obtain rfl := rows.same other current
    cases written
    refine .live rfl rfl rfl ?_ (phase.of_queued queued).2
    rw [setLease_hasUnresolvedLease]
    rcases source with ⟨_, rfl⟩ | ⟨former, _, _, rfl⟩ <;> rfl
  | abandon _ _ _ _ _ _ queued held unresolved =>
    have free := (phase.of_queued queued).1
    rw [hasUnresolvedLease_of_held held unresolved] at free
    cases free
  | bindSession _ _ _ _ _ ordinary | finish _ _ _ _ _ _ _ ordinary =>
    exact absurd ordinary rows.ne_none
  | stop _ _ _ _ _ _ _ _ _ ordinary | requeue _ _ ordinary =>
    rw [rows.isCurrent] at ordinary
    cases ordinary

theorem RoutineUndisturbed.change (undisturbed : RoutineUndisturbed call db id execution)
    (change : Change env call db id execution next) : RoutineUndisturbed call db id next := by
  have kind := not_congr change.routine_eq_none_iff
  exact ⟨fun workspace source target machineRef asked gates ofRoutine =>
      undisturbed.fence workspace source target machineRef asked gates (kind.mp ofRoutine),
    fun number lease tokenDigest generation updates asked ofRoutine =>
      undisturbed.mutation number lease tokenDigest generation updates asked
        (kind.mp ofRoutine)⟩

omit [DecidableEq D] in
theorem Born.service_ne (born : Born call execution) :
    call.operation.service ≠ .confirmMachineStoppedAndFence ∧
      call.operation.service ≠ .authorizeAttemptMutation := by
  cases born with
  | ordinary service => rcases service with same | same <;> rw [same] <;> decide
  | routine _ _ service => rw [service]; decide

def routineRule (env : Env D) : UnitRule env where
  Condition := RoutineUndisturbed
  Holds := fun _ execution => execution.RoutineHolds RoutinePhase
  Related := fun _ _ => True
  reflexive := fun _ => trivial
  transitive := fun _ _ => trivial
  birth := by
    intro call db id execution born
    refine ⟨born.routineHolds _ ?_,
      (Undisturbed.of_service born.service_ne.1 born.service_ne.2).toRoutine⟩
    intro routine generation unstarted noActions
    refine .queued unstarted rfl rfl rfl ?_
    rw [RoutineExecution.hasAction, noActions]
    rfl
  change := by
    intro call db id execution next inPhase undisturbed change
    refine ⟨⟨change.routineHolds _ ?_ ?_ inPhase, undisturbed.change change⟩, trivial⟩
    · intro status routine attempt profile phase
      exact phase.transfer rfl rfl rfl (by simp)
    · intro number attempt later status routine next rows phase move
      exact move.phase rows phase undisturbed

/-! ## Agreement of the three statuses -/

/-- The attempt runs under an unresolved lease, or waits to be claimed again. -/
def Attempt.isLiveOrResumable (attempt : Attempt D) : Bool :=
  (attempt.status.isOpen && attempt.hasUnresolvedLease) || attempt.status = .queued

/-- The statuses of a routine, its Execution and its attempt agree. -/
structure StatusesAgree (execution : Execution D) (routine : RoutineExecution) : Prop where
  terminal : routine.status.isTerminal = true ↔ execution.status.isTerminal = true
  working : routine.status = .working →
    (execution.status = .running ∨ execution.status = .queued) ∧
      ∃ number attempt, routine.currentAttempt = some number ∧
        execution.attempt? number = some attempt ∧ attempt.isLiveOrResumable = true
  waiting : routine.status = .approvalWaiting →
    ∃ number attempt, routine.currentAttempt = some number ∧
      execution.attempt? number = some attempt ∧ attempt.status = .approvalWaiting

omit [DecidableEq D] in
theorem RoutinePhase.agree (rows : RoutineOf execution routine number attempt)
    (phase : RoutinePhase execution.status routine attempt) :
    StatusesAgree execution routine := by
  refine ⟨?_, ?_, ?_⟩
  · cases phase with
    | queued ofRoutine ofExecution | live ofRoutine ofExecution
    | resumable ofRoutine ofExecution | waiting ofRoutine ofExecution =>
      rw [ofRoutine, ofExecution]
      exact iff_of_false Bool.false_ne_true Bool.false_ne_true
    | ended ofRoutine ofExecution => exact iff_of_true ofRoutine ofExecution
  · intro working
    cases phase with
    | live _ ofExecution ofAttempt leased =>
      refine ⟨.inl ofExecution, number, attempt, rows.current, rows.found, ?_⟩
      rw [Attempt.isLiveOrResumable, ofAttempt, leased]
      rfl
    | resumable _ ofExecution ofAttempt =>
      refine ⟨.inl ofExecution, number, attempt, rows.current, rows.found, ?_⟩
      simp [Attempt.isLiveOrResumable, ofAttempt]
    | queued ofRoutine | waiting ofRoutine | ended ofRoutine =>
      rw [working] at ofRoutine
      cases ofRoutine
  · intro waiting
    cases phase with
    | waiting _ _ ofAttempt =>
      exact ⟨number, attempt, rows.current, rows.found, ofAttempt⟩
    | queued ofRoutine | live ofRoutine | resumable ofRoutine | ended ofRoutine =>
      rw [waiting] at ofRoutine
      cases ofRoutine

theorem undisturbed_statuses_agree
    (env : Env D) (calls : List (Call D)) (meets : RunMeets env RoutineUndisturbed Db.empty calls)
    (id : Uuid) (execution : Execution D) (routine : RoutineExecution)
    (stored : (run env Db.empty calls).executions.lookup id = some execution)
    (has : execution.routine = some routine) :
    StatusesAgree execution routine := by
  obtain ⟨_, _, rows, phase⟩ := (routineRule env).holds calls meets id execution stored
    routine has
  exact phase.agree rows

end

theorem fenced_routine_stays_working :
    ∃ execution routine,
      (run Env.plain Db.empty (startedRoutine ++ fenceMachine)).executions.lookup 7 =
        some execution ∧
      execution.routine = some routine ∧ ¬ StatusesAgree execution routine := by
  have fenced : ((run Env.plain Db.empty (startedRoutine ++ fenceMachine)).executions.lookup
      7).any (fun execution => execution.routine.any fun routine =>
        decide (execution.status.isTerminal = true ∧ routine.status.isTerminal = false)) = true :=
    by decide
  obtain ⟨execution, stored, holds⟩ := (Option.any_eq_true _ _).mp fenced
  obtain ⟨routine, has, holds⟩ := (Option.any_eq_true _ _).mp holds
  obtain ⟨ended, working⟩ := of_decide_eq_true holds
  refine ⟨execution, routine, stored, has, ?_⟩
  intro agree
  rw [agree.terminal.mpr ended] at working
  cases working

/-- The calls of these services leave every routine undisturbed. -/
def Call.leavesRoutines (call : Call D) : Bool :=
  call.operation.service ≠ .confirmMachineStoppedAndFence ∧
    call.operation.service ≠ .authorizeAttemptMutation

theorem undisturbed_of_quiet (calls : List (Call PlainDigest))
    (quiet : calls.all Call.leavesRoutines = true) :
    RunMeets Env.plain Undisturbed Db.empty calls := by
  refine runMeets_of_mem Env.plain _ Db.empty calls ?_
  intro call member db id execution
  obtain ⟨noFence, noMutation⟩ := of_decide_eq_true (List.all_eq_true.mp quiet call member)
  exact .of_service noFence noMutation

theorem waiting_statuses_agree :
    ∃ execution routine,
      (run Env.plain Db.empty waitingRoutine).executions.lookup 7 = some execution ∧
      execution.routine = some routine ∧ routine.status = .approvalWaiting ∧
      StatusesAgree execution routine := by
  have waits : ((run Env.plain Db.empty waitingRoutine).executions.lookup 7).any
      (fun execution => execution.routine.any fun routine =>
        decide (routine.status = .approvalWaiting)) = true := by decide
  obtain ⟨execution, stored, holds⟩ := (Option.any_eq_true _ _).mp waits
  obtain ⟨routine, has, waiting⟩ := (Option.any_eq_true _ _).mp holds
  have quiet : waitingRoutine.all Call.leavesRoutines = true := by decide
  have meets : RunMeets Env.plain RoutineUndisturbed Db.empty waitingRoutine :=
    (undisturbed_of_quiet waitingRoutine quiet).imp Env.plain fun _ _ _ _ => Undisturbed.toRoutine
  exact ⟨execution, routine, stored, has, of_decide_eq_true waiting,
    undisturbed_statuses_agree Env.plain waitingRoutine meets 7 execution routine stored has⟩

/-! ## Ordinary work -/

/-- Ordinary work runs under a lease, and an attempt with a lease is open. -/
structure Execution.RunsLeased (execution : Execution D) : Prop where
  leased : execution.status = .running → ∃ number attempt,
    execution.attempt? number = some attempt ∧ attempt.hasUnresolvedLease = true
  opened : ∀ number attempt, execution.attempt? number = some attempt →
    attempt.hasUnresolvedLease = true → attempt.status.isOpen = true

theorem AttemptStatus.mayBecome_isOpen (current wanted : AttemptStatus)
    (isOpen : current.isOpen = true) (allowed : current.mayBecome wanted = true)
    (unfinished : wanted.isTerminal = false) : wanted.isOpen = true := by
  revert isOpen allowed unfinished
  cases current <;> cases wanted <;> decide

section

variable [DecidableEq D] {env : Env D} {call : Call D} {db : Db D} {id : Uuid}
  {execution next : Execution D} {number : Nat} {attempt later : Attempt D}
  {status : ExecutionStatus} {written : Option RoutineExecution}

theorem Move.runsLeased (move : Move env call db id execution number attempt later status written)
    (ordinary : execution.routine = none) (isOpen : attempt.status.isOpen = true)
    (undisturbed : Undisturbed call db id execution) :
    (status = .running → later.hasUnresolvedLease = true) ∧
      (later.hasUnresolvedLease = true → later.status.isOpen = true) := by
  have leased := move.holds_lease ordinary
  cases move with
  | append | bindSession => exact ⟨fun _ => leased, fun _ => isOpen⟩
  | renew _ _ _ _ active =>
    refine ⟨fun _ => ?_, fun _ => isOpen⟩
    rw [setLease_hasUnresolvedLease, active]
    rfl
  | mutate _ updates leaseId tokenDigest generation asked _ _ allowed =>
    refine ⟨fun _ => leased, fun _ => ?_⟩
    cases given : updates.status with
    | none => simpa [Attempt.mutate, given] using isOpen
    | some wanted =>
      have unfinished := undisturbed.mutation number leaseId tokenDigest generation updates
        asked wanted given
      rw [given] at allowed
      simpa [Attempt.mutate, given] using
        attempt.status.mayBecome_isOpen wanted isOpen allowed unfinished
  | stop =>
    refine ⟨fun running => ?_, fun held => ?_⟩
    · split at running <;> cases running
    · rw [stopped_hasUnresolvedLease] at held
      cases held
  | finish =>
    refine ⟨fun running => ?_, fun held => ?_⟩
    · rw [TerminalArgs.executionStatus] at running
      split at running
      · cases running
      · split at running <;> cases running
    · cases held
  | fence =>
    refine ⟨fun running => ?_, fun held => by cases held⟩
    rw [Execution.statusAfterFence] at running
    split at running
    · split at running <;> cases running
    · next stays => exact absurd ⟨isOpen, running⟩ stays
  | requeue => exact ⟨fun running => (by cases running), fun held => by cases held⟩
  | close _ _ _ _ _ _ notOpen =>
    rw [isOpen] at notOpen
    cases notOpen
  | retire _ isRoutine state failure _ _ held _ _ resolved =>
    refine ⟨fun running => ?_, fun held => ?_⟩
    · split at running
      · next ended => rw [running] at ended; cases ended
      · cases running
    · have free := expireLease_hasUnresolvedLease (Append.applyOption attempt failure) call.now
        isRoutine state resolved
      have impossible : true = false := held.symm.trans free
      cases impossible
  | cleanup _ _ isRoutine =>
    refine ⟨fun running => ?_, fun held => ?_⟩
    · split at running
      · cases running
      · next other => exact absurd running other
    · have free := expireLease_hasUnresolvedLease attempt call.now isRoutine .fenced rfl
      have impossible : true = false := held.symm.trans free
      cases impossible
  | _ => exact absurd ordinary (routine_ne_none ‹execution.routineAt number = some _›)

theorem Execution.RunsLeased.change (runs : execution.RunsLeased)
    (ordinary : execution.routine = none) (undisturbed : Undisturbed call db id execution)
    (change : Change env call db id execution next) : next.RunsLeased := by
  cases change with
  | move number attempt later _ _ found move =>
    have isOpen := runs.opened number attempt found (move.holds_lease ordinary)
    obtain ⟨stays, opens⟩ := move.runsLeased ordinary isOpen undisturbed
    refine ⟨fun running => ⟨number, later, attempt?_write_same .., stays running⟩, ?_⟩
    intro other unit isUnit held
    rcases attempt?_write_cases isUnit with ⟨rfl, rfl⟩ | ⟨_, isUnit⟩
    · exact opens held
    · exact runs.opened other unit isUnit held
  | claim =>
    refine ⟨fun _ => ⟨_, _, attempt?_write_same .., rfl⟩, ?_⟩
    intro other unit isUnit held
    rcases attempt?_write_cases isUnit with ⟨rfl, rfl⟩ | ⟨_, isUnit⟩
    · rfl
    · exact runs.opened other unit isUnit held
  | claimDetached _ _ _ detached =>
    rw [ordinary] at detached
    cases detached
  | stopLeases profile =>
    constructor
    · intro running
      obtain ⟨number, attempt, found, leased⟩ := runs.leased running
      refine ⟨number, attempt.stopLease profile, ?_, by simpa using leased⟩
      rw [Execution.attempt?_stopLeases, found]
      rfl
    · intro number unit isUnit held
      rw [Execution.attempt?_stopLeases, Option.map_eq_some_iff] at isUnit
      obtain ⟨former, isFormer, rfl⟩ := isUnit
      exact runs.opened number former isFormer (by simpa using held)

def leaseRule (env : Env D) : UnitRule env where
  Condition := Undisturbed
  Holds := fun _ execution => execution.routine = none → execution.RunsLeased
  Related := fun _ _ => True
  reflexive := fun _ => trivial
  transitive := fun _ _ => trivial
  birth := by
    intro call db id execution born
    obtain ⟨noFence, noMutation⟩ := born.service_ne
    refine ⟨fun ordinary => ?_, .of_service noFence noMutation⟩
    cases born with
    | ordinary _ unclaimed _ queued =>
      refine ⟨fun running => ?_, fun number attempt found => ?_⟩
      · rw [queued] at running
        cases running
      · rw [unclaimed] at found
        cases found
    | routine _ _ _ _ has =>
      rw [ordinary] at has
      cases has
  change := by
    intro call db id execution next runs undisturbed change
    refine ⟨⟨?_, ?_⟩, trivial⟩
    · intro ordinary
      have before := change.routine_eq_none_iff.mp ordinary
      exact (runs before).change before undisturbed change
    · refine ⟨?_, undisturbed.mutation⟩
      intro workspace source target machineRef asked gates ofRoutine
      exact undisturbed.fence workspace source target machineRef asked gates
        fun ordinary => ofRoutine (change.routine_eq_none_iff.mpr ordinary)

/-! ## No stuck work -/

omit [DecidableEq D] in
theorem Execution.hasUnresolvedLease_of_attempt (found : execution.attempt? number = some attempt)
    (leased : attempt.hasUnresolvedLease = true) : execution.hasUnresolvedLease = true := by
  rw [Execution.hasUnresolvedLease, List.any_eq_true]
  exact ⟨(number, attempt), (Table.mem_rows _ _ _).mpr found, leased⟩

omit [DecidableEq D] in
theorem candidate_eq_taken (now : Instant) (workspace : Workspace) (profile : RuntimeProfile D)
    (statuses : execution.statusAllowsClaim = true) (resumes : execution.attemptAllowsClaim = true)
    (ready : profileIsClaimReady profile workspace.machineGeneration = true)
    (admitted : execution.isRoutineDispatch = true →
      requireRoutineAdmission env now true workspace = .ok ())
    (free : db.hasUnresolvedLease execution.profile execution.scopeKey = false) :
    candidate env now workspace profile execution db = .taken := by
  cases kind : execution.isRoutineDispatch with
  | false => simp [candidate, statuses, resumes, ready, free, kind]
  | true => simp [candidate, statuses, resumes, ready, free, kind, admitted kind]

theorem no_execution_is_stuck
    (env : Env D) (calls : List (Call D)) (meets : RunMeets env Undisturbed Db.empty calls)
    (id : Uuid) (execution : Execution D)
    (stored : (run env Db.empty calls).executions.lookup id = some execution)
    (unfinished : execution.status = .queued ∨ execution.status = .running) :
    execution.hasUnresolvedLease = true ∨
      (∃ routine, execution.routine = some routine ∧ routine.hasAction .pending = true) ∨
      ∀ now workspace profile, profileIsClaimReady profile workspace.machineGeneration = true →
        (execution.isRoutineDispatch = true →
          requireRoutineAdmission env now true workspace = .ok ()) →
        (run env Db.empty calls).hasUnresolvedLease execution.profile execution.scopeKey = false →
        candidate env now workspace profile execution (run env Db.empty calls) = .taken := by
  cases has : execution.routine with
  | none =>
    have runs := (leaseRule env).holds calls meets id execution stored has
    rcases unfinished with queued | running
    · right; right
      intro now workspace profile
      refine candidate_eq_taken now workspace profile ?_ ?_
      · simp [Execution.statusAllowsClaim, has, queued]
      · simp [Execution.attemptAllowsClaim, has]
    · obtain ⟨_, _, found, leased⟩ := runs.leased running
      exact .inl (Execution.hasUnresolvedLease_of_attempt found leased)
  | some routine =>
    obtain ⟨_, attempt, rows, phase⟩ := (routineRule env).holds calls
      (meets.imp env fun _ _ _ _ => Undisturbed.toRoutine) id execution stored routine has
    have resumes : attempt.status = .queued → execution.attemptAllowsClaim = true := by
      intro queued
      simp [Execution.attemptAllowsClaim, has, rows.current, rows.found, queued]
    cases phase with
    | queued ofRoutine ofExecution ofAttempt =>
      right; right
      intro now workspace profile
      refine candidate_eq_taken now workspace profile ?_ (resumes ofAttempt)
      simp [Execution.statusAllowsClaim, has, ofRoutine, ofExecution]
    | live _ _ _ leased =>
      exact .inl (Execution.hasUnresolvedLease_of_attempt rows.found leased)
    | resumable ofRoutine ofExecution ofAttempt _ _ granted =>
      right; right
      intro now workspace profile
      refine candidate_eq_taken now workspace profile ?_ (resumes ofAttempt)
      simp [Execution.statusAllowsClaim, has, ofRoutine, ofExecution, granted]
    | waiting _ _ _ _ asked =>
      exact .inr (.inl ⟨routine, rfl, asked⟩)
    | ended _ ofExecution =>
      rcases unfinished with same | same <;> rw [same] at ofExecution <;> cases ofExecution

end

/-- Work queued for a profile that its runtime has not materialized. -/
def unmaterializedWork : List (Call PlainDigest) :=
  bringUp.dropLast ++ [⟨0, .createExecution 0 50 "key" (.obj [])⟩]

theorem unmaterialized_work_waits :
    ∃ workspace profile execution,
      (run Env.plain Db.empty unmaterializedWork).workspaces.lookup 0 = some workspace ∧
      (run Env.plain Db.empty unmaterializedWork).profiles.lookup 50 = some profile ∧
      (run Env.plain Db.empty unmaterializedWork).executions.lookup 6 = some execution ∧
      execution.status = .queued ∧ execution.profile = 50 ∧
      execution.hasUnresolvedLease = false ∧ execution.routine = none ∧
      (run Env.plain Db.empty unmaterializedWork).leases = [] ∧
      candidate Env.plain 0 workspace profile execution
        (run Env.plain Db.empty unmaterializedWork) = .unreadyProfile := by
  have holds : ((run Env.plain Db.empty unmaterializedWork).workspaces.lookup 0).any
      (fun workspace => ((run Env.plain Db.empty unmaterializedWork).profiles.lookup 50).any
        fun profile => ((run Env.plain Db.empty unmaterializedWork).executions.lookup 6).any
          fun execution => decide (execution.status = .queued ∧ execution.profile = 50 ∧
            execution.hasUnresolvedLease = false ∧ execution.routine = none ∧
            (run Env.plain Db.empty unmaterializedWork).leases = [] ∧
            candidate Env.plain 0 workspace profile execution
              (run Env.plain Db.empty unmaterializedWork) = .unreadyProfile)) = true := by decide
  obtain ⟨workspace, isWorkspace, holds⟩ := (Option.any_eq_true _ _).mp holds
  obtain ⟨profile, isProfile, holds⟩ := (Option.any_eq_true _ _).mp holds
  obtain ⟨execution, stored, holds⟩ := (Option.any_eq_true _ _).mp holds
  exact ⟨workspace, profile, execution, isWorkspace, isProfile, stored, of_decide_eq_true holds⟩

theorem waiting_routine_is_not_stuck :
    ∃ execution,
      (run Env.plain Db.empty waitingRoutine).executions.lookup 7 = some execution ∧
      execution.status = .running ∧
      (execution.hasUnresolvedLease = true ∨
        (∃ routine, execution.routine = some routine ∧ routine.hasAction .pending = true) ∨
        ∀ now workspace profile, profileIsClaimReady profile workspace.machineGeneration = true →
          (execution.isRoutineDispatch = true →
            requireRoutineAdmission Env.plain now true workspace = .ok ()) →
          (run Env.plain Db.empty waitingRoutine).hasUnresolvedLease execution.profile
            execution.scopeKey = false →
          candidate Env.plain now workspace profile execution
            (run Env.plain Db.empty waitingRoutine) = .taken) := by
  have runs : ((run Env.plain Db.empty waitingRoutine).executions.lookup 7).any
      (fun execution => decide (execution.status = .running)) = true := by decide
  obtain ⟨execution, stored, running⟩ := (Option.any_eq_true _ _).mp runs
  have quiet : waitingRoutine.all Call.leavesRoutines = true := by decide
  have meets := undisturbed_of_quiet waitingRoutine quiet
  exact ⟨execution, stored, of_decide_eq_true running,
    no_execution_is_stuck Env.plain waitingRoutine meets 7 execution stored
      (.inr (of_decide_eq_true running))⟩

end Foundry
