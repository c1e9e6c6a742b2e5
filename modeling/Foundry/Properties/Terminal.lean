import Foundry.Evolution.Waits

/-!
# Terminal attempts

Every operation writes the status of an attempt itself, and most take an unresolved
lease, or a routine that has not ended, as evidence that the attempt is not terminal
yet.  `authorize_attempt_mutation` and the Machine fence leave terminal attempts for
which that evidence is wrong; the calls that then overwrite them are named by
`TerminalRespected`, and without those calls a terminal attempt never changes again.
-/

set_option autoImplicit false

namespace Foundry

variable {D : Type}

/-- The call takes no terminal attempt of this Execution for an open one. -/
structure TerminalRespected (call : Call D) (db : Db D) (id : Uuid) (execution : Execution D) :
    Prop where
  stop : ∀ context number leaseToken reason supplied attempt,
    call.operation = .acknowledgeStopped context ⟨id, number⟩ leaseToken reason supplied →
    execution.attempt? number = some attempt → attempt.status.isTerminal = true →
    attempt.hasUnresolvedLease = false
  result : ∀ number attempt routine, call.operation.resultTarget = some id →
    execution.attempt? number = some attempt → attempt.status.isTerminal = true →
    call.operation.service = .recordRoutineResult ∨ attempt.hasUnresolvedLease = true →
    execution.routineAt number = some routine → routine.status.isTerminal = true
  cleanup : ∀ profile number attempt routine, call.operation.cleanupProfile = some profile →
    ⟨id, number⟩ ∈ db.unresolvedLeasesOf profile →
    execution.attempt? number = some attempt → attempt.status.isTerminal = true →
    execution.routineAt number = some routine → routine.status.isTerminal = true
  approval : NoLateApproval call db id execution

def Attempt.KeepsTerminal (attempt later : Attempt D) : Prop :=
  attempt.status.isTerminal = true →
    later.status = attempt.status ∧ later.terminalReceipt = attempt.terminalReceipt

theorem Attempt.KeepsTerminal.trans {first second third : Attempt D}
    (earlier : first.KeepsTerminal second) (later : second.KeepsTerminal third) :
    first.KeepsTerminal third := by
  intro terminal
  obtain ⟨sameStatus, sameReceipt⟩ := earlier terminal
  obtain ⟨nextStatus, nextReceipt⟩ := later (by rw [sameStatus]; exact terminal)
  exact ⟨nextStatus.trans sameStatus, nextReceipt.trans sameReceipt⟩

theorem Attempt.KeepsTerminal.of_not_terminal {attempt later : Attempt D}
    (unfinished : attempt.status.isTerminal = false) : attempt.KeepsTerminal later := by
  intro terminal
  rw [unfinished] at terminal
  cases terminal

theorem AttemptStatus.isOpen_not_terminal (status : AttemptStatus)
    (isOpen : status.isOpen = true) : status.isTerminal = false := by
  cases status <;> first | rfl | cases isOpen

theorem AttemptStatus.mayBecome_terminal (current wanted : AttemptStatus)
    (terminal : current.isTerminal = true) (allowed : current.mayBecome wanted = true) :
    wanted = current := by
  cases current <;> first | exact of_decide_eq_true allowed | cases terminal

section

variable (operation : Operation D) (profile : Uuid)
  (cleans : operation.cleanupProfile = some profile)

include profile cleans

theorem Operation.service_of_cleanup :
    operation.service = .acceptCleanupReceipt ∨ operation.service = .expireProfileCleanup := by
  cases operation <;> first | exact .inl rfl | exact .inr rfl | cases cleans

theorem Operation.resultTarget_of_cleanup : operation.resultTarget = none := by
  cases operation <;> first | rfl | cases cleans

end

section

variable [DecidableEq D] {env : Env D} {call : Call D} {db : Db D} {id : Uuid}
  {execution next : Execution D} {number : Nat} {attempt later : Attempt D}
  {status : ExecutionStatus} {written : Option RoutineExecution}

omit [DecidableEq D] in
theorem Execution.RoutineHolds.waiting (holds : execution.RoutineHolds RoutineRests)
    {routine : RoutineExecution} {action : RoutineApprovalAction}
    (found : execution.attempt? number = some attempt)
    (current : execution.routineAt number = some routine) (listed : action ∈ routine.actions)
    (pending : action.status = .pending) (unfinished : routine.status.isTerminal = false) :
    attempt.status = .approvalWaiting := by
  obtain ⟨_, rows, rests⟩ := holds.of_move (routine_ne_none current) found
  obtain rfl := rows.same routine current
  exact (rests.waits ((hasAction_eq_true _ _).mpr ⟨action, listed, pending⟩)).2 unfinished

theorem Move.keepsTerminal
    (move : Move env call db id execution number attempt later status written)
    (found : execution.attempt? number = some attempt) (holds : execution.RoutineHolds RoutineRests)
    (respected : TerminalRespected call db id execution) : attempt.KeepsTerminal later := by
  have ofOpen := attempt.status.isOpen_not_terminal
  -- A result for an unfinished routine finds its attempt not terminal.
  have unended : ∀ {routine : RoutineExecution}, call.operation.resultTarget = some id →
      execution.routineAt number = some routine → routine.status.isTerminal = false →
      call.operation.service = .recordRoutineResult ∨ attempt.hasUnresolvedLease = true →
      attempt.status.isTerminal = false := by
    intro routine asked current unfinished permitted
    rw [← Bool.not_eq_true]
    intro terminal
    have ended := respected.result number attempt routine asked found terminal permitted current
    rw [unfinished] at ended
    cases ended
  cases move with
  | append | renew | bindSession | bindRoutineSession | sealReplay | close =>
    exact fun _ => ⟨rfl, rfl⟩
  | mutate _ _ _ _ _ _ _ _ allowed =>
    intro terminal
    exact ⟨attempt.status.mayBecome_terminal _ terminal allowed, rfl⟩
  | stop context leaseToken reason supplied _ _ _ _ asked _ held unresolved
  | stopRoutine context leaseToken reason supplied _ _ _ _ _ _ asked _ held unresolved =>
    intro terminal
    have free := respected.stop context number leaseToken reason supplied attempt asked found
      terminal
    rw [hasUnresolvedLease_of_held held unresolved] at free
    cases free
  | finish _ _ _ _ _ _ _ _ _ _ _ unfinished => exact .of_not_terminal unfinished
  | record _ _ _ asked _ current result _ service =>
    exact .of_not_terminal (unended asked current result.unfinished (.inl service))
  | recordSealed _ _ _ _ _ _ _ asked current held active result =>
    exact .of_not_terminal (unended asked current result.unfinished
      (.inr (hasUnresolvedLease_of_active held active)))
  | requestApproval _ _ _ _ _ _ _ leased =>
    refine .of_not_terminal ?_
    rcases leased with same | same <;> rw [same] <;> rfl
  | approve command routine action _ asked target granted current listed pending unexpired =>
    have unfinished := respected.approval command number routine action asked target granted
      current listed pending unexpired
    refine .of_not_terminal ?_
    rw [holds.waiting found current listed pending unfinished]
    rfl
  | endWait _ _ _ _ _ _ current listed pending result =>
    refine .of_not_terminal ?_
    rw [holds.waiting found current listed pending result.unfinished]
    rfl
  | fence =>
    intro terminal
    refine ⟨?_, rfl⟩
    simp only [Attempt.fence]
    split
    · next isOpen => rw [ofOpen isOpen] at terminal; cases terminal
    · rfl
  | requeue _ _ _ _ _ isOpen => exact .of_not_terminal (ofOpen isOpen)
  | requeueRoutine _ _ _ _ _ _ isOpen | retire _ _ _ _ _ _ _ _ isOpen
  | retireRoutine _ _ _ _ _ _ _ _ _ isOpen =>
    exact .of_not_terminal (ofOpen isOpen)
  | cleanup =>
    intro terminal
    refine ⟨?_, rfl⟩
    dsimp only
    split
    · next isOpen => rw [ofOpen isOpen] at terminal; cases terminal
    · rfl
  | cleanupRoutine profile routine _ _ asked listed current _ _ result =>
    refine .of_not_terminal ?_
    rw [← Bool.not_eq_true]
    intro terminal
    have ended := respected.cleanup profile number attempt routine asked listed found terminal
      current
    rw [result.unfinished] at ended
    cases ended
  | resume _ _ _ _ _ _ queued | abandon _ _ _ _ _ _ queued =>
    exact .of_not_terminal (by rw [queued]; rfl)

/-! ## The condition within one call -/

theorem Move.of_stop (context : RuntimeContext) (target : AttemptId) (leaseToken reason : String)
    (supplied : Option D)
    (asked : call.operation = .acknowledgeStopped context target leaseToken reason supplied)
    (move : Move env call db id execution number attempt later status written) :
    later.hasUnresolvedLease = false := by
  have served : call.operation.service = .acknowledgeStopped := by
    rw [asked]
    rfl
  cases move with
  | stop | stopRoutine => exact stopped_hasUnresolvedLease ..
  | append _ _ service | renew _ _ service | bindSession _ _ _ _ service
  | bindRoutineSession _ _ _ _ _ service | requestApproval _ _ _ _ service | requeue _ service
  | requeueRoutine _ _ service | close _ _ _ service | retire _ _ _ _ service
  | retireRoutine _ _ _ _ _ service | resume _ _ _ service | abandon _ _ _ service =>
    rw [served] at service
    cases service
  | finish _ _ _ _ _ _ service =>
    rw [served] at service
    rcases service with other | other <;> cases other
  | endWait _ _ _ _ service =>
    rw [served] at service
    rcases service with other | other | other <;> cases other
  | mutate _ _ _ _ _ other | approve _ _ _ _ other | record _ _ _ other
  | recordSealed _ _ _ _ _ _ _ other | sealReplay _ _ _ _ _ _ _ other | fence _ _ _ _ _ other
  | cleanup _ _ _ other | cleanupRoutine _ _ _ _ other =>
    rw [asked] at other
    cases other

theorem Move.of_cleanup (profile : Uuid) (routine : RoutineExecution)
    (asked : call.operation.cleanupProfile = some profile)
    (move : Move env call db id execution number attempt later status (some routine))
    (current : routine.currentAttempt = some number) : routine.status.isTerminal = true := by
  have other : ∀ {service}, call.operation.service = service →
      service = .acceptCleanupReceipt ∨ service = .expireProfileCleanup := by
    rintro _ rfl
    exact call.operation.service_of_cleanup profile asked
  generalize written : some routine = routine' at move
  cases move with
  | cleanup _ _ _ _ _ ordinary =>
    have isCurrent : execution.routineAt number = some routine :=
      (Execution.routineAt_eq_some _ _ _).mpr ⟨written.symm, current⟩
    rw [isCurrent] at ordinary
    exact ordinary
  | cleanupRoutine => cases written; rfl
  | append _ _ service | renew _ _ service | bindSession _ _ _ _ service
  | bindRoutineSession _ _ _ _ _ service | requestApproval _ _ _ _ service | requeue _ service
  | requeueRoutine _ _ service | close _ _ _ service | retire _ _ _ _ service
  | retireRoutine _ _ _ _ _ service | resume _ _ _ service | abandon _ _ _ service
  | record _ _ _ _ _ _ _ _ service =>
    rcases other service with impossible | impossible <;> cases impossible
  | finish _ _ _ _ _ _ service =>
    rcases service with same | same <;>
      rcases other same with impossible | impossible <;> cases impossible
  | endWait _ _ _ _ service =>
    rcases service with same | same | same <;>
      rcases other same with impossible | impossible <;> cases impossible
  | mutate _ _ _ _ _ same | approve _ _ _ _ same | stop _ _ _ _ _ _ _ _ same
  | stopRoutine _ _ _ _ _ _ _ _ _ _ same | fence _ _ _ _ _ same =>
    rw [same] at asked
    cases asked
  | recordSealed _ _ _ _ _ _ _ same | sealReplay _ _ _ _ _ _ _ same =>
    rw [call.operation.resultTarget_of_cleanup profile asked] at same
    cases same

theorem TerminalRespected.change (respected : TerminalRespected call db id execution)
    (holds : execution.RoutineHolds RoutineRests)
    (change : Change env call db id execution next) : TerminalRespected call db id next := by
  refine ⟨?_, ?_, ?_, change.noLateApproval holds⟩
  · intro context target leaseToken reason supplied unit asked isUnit terminal
    cases change with
    | move _ attempt _ _ _ _ move =>
      rcases attempt?_write_cases isUnit with ⟨rfl, rfl⟩ | ⟨_, isUnit⟩
      · exact move.of_stop context _ leaseToken reason supplied asked
      · exact respected.stop context target leaseToken reason supplied unit asked isUnit terminal
    | claim _ service | claimDetached _ _ service =>
      rw [asked] at service
      cases service
    | stopLeases _ service =>
      rw [asked] at service
      rcases service with same | same <;> cases same
  · intro target unit routine asked isUnit terminal permitted current
    have records := call.operation.recordsResult_of_target id asked
    cases change with
    | move _ attempt _ _ _ found move =>
      obtain ⟨has, isCurrent⟩ := (Execution.routineAt_eq_some _ _ _).mp current
      rcases move.records records with ended | ⟨rfl, _, sameStatus, sameLease⟩
      · exact ended routine has
      · have before : execution.routineAt target = some routine :=
          (Execution.routineAt_eq_some _ _ _).mpr ⟨has, isCurrent⟩
        rcases attempt?_write_cases isUnit with ⟨rfl, rfl⟩ | ⟨_, isUnit⟩
        · rw [sameStatus] at terminal
          rw [sameLease] at permitted
          exact respected.result _ attempt routine asked found terminal permitted before
        · exact respected.result target unit routine asked isUnit terminal permitted before
    | claim _ service | claimDetached _ _ service =>
      rw [service] at records
      cases records
    | stopLeases _ service =>
      rcases service with same | same <;> rw [same] at records <;> cases records
  · intro profile target unit routine asked listed isUnit terminal current
    cases change with
    | move _ _ _ _ written found move =>
      obtain ⟨has, _⟩ := (Execution.routineAt_eq_some _ _ _).mp current
      obtain rfl : written = some routine := has
      obtain ⟨_, rows, _⟩ := holds.of_move
        (fun ordinary => Option.some_ne_none _ (move.routine_eq_none_iff.mpr ordinary)) found
      obtain ⟨_, ⟨⟩, moved, _⟩ := move.routineOf rows
      exact move.of_cleanup profile routine asked moved
    | claim _ service | claimDetached _ _ service =>
      rcases call.operation.service_of_cleanup profile asked with same | same <;>
        rw [same] at service <;> cases service
    | stopLeases _ service =>
      rcases call.operation.service_of_cleanup _ asked with same | same <;>
        rw [same] at service <;> rcases service with other | other <;> cases other

def terminalRule (env : Env D) : UnitRule env where
  Condition := TerminalRespected
  Holds := fun _ execution => execution.RoutineHolds RoutineRests
  Related := Execution.AttemptsContinue Attempt.KeepsTerminal
  reflexive := .refl fun _ _ => ⟨rfl, rfl⟩
  transitive := .trans (@Attempt.KeepsTerminal.trans D)
  birth := by
    intro call db id execution born
    have fresh : ∀ number attempt, execution.attempt? number = some attempt →
        attempt.status.isTerminal = true → False := by
      intro number attempt found terminal
      have isNew : attempt.status.isTerminal = false := born.allAttempts
        (fun attempt => attempt.status.isTerminal = false)
        (fun attempt new => by rcases new.status with same | same <;> rw [same] <;> rfl)
        number attempt found
      rw [terminal] at isNew
      cases isNew
    exact ⟨born.rests,
      fun _ number _ _ _ attempt _ found terminal => (fresh number attempt found terminal).elim,
      fun number attempt _ _ found terminal => (fresh number attempt found terminal).elim,
      fun _ number attempt _ _ _ found terminal => (fresh number attempt found terminal).elim,
      born.noLateApproval⟩
  change := by
    intro call db id execution next holds respected change
    refine ⟨⟨holds.rests respected.approval change, respected.change holds change⟩, ?_⟩
    refine change.attemptsContinue _ (fun _ _ => ⟨rfl, rfl⟩) (fun _ _ _ => ⟨rfl, rfl⟩) ?_
    intro number attempt later status routine found move
    exact move.keepsTerminal found holds respected

theorem terminal_attempts_are_immutable (env : Env D) (first rest : List (Call D))
    (meets : RunMeets env TerminalRespected Db.empty (first ++ rest))
    (id : Uuid) (number : Nat) (execution later : Execution D) (attempt : Attempt D)
    (stored : (run env Db.empty first).executions.lookup id = some execution)
    (found : execution.attempt? number = some attempt) (terminal : attempt.status.isTerminal = true)
    (present : (run env Db.empty (first ++ rest)).executions.lookup id = some later) :
    ∃ same, later.attempt? number = some same ∧ same.status = attempt.status ∧
      same.terminalReceipt = attempt.terminalReceipt := by
  obtain ⟨same, isSame, keeps⟩ :=
    (terminalRule env).relates first rest meets id execution later stored present number attempt
      found
  exact ⟨same, isSame, keeps terminal⟩

end

/-- The services that may overwrite the status of an attempt without reading it. -/
def Service.mayOverwrite : Service → Bool
  | .acknowledgeStopped | .decideRoutineApproval | .acceptCleanupReceipt | .expireProfileCleanup
  | .recordRoutineResult | .appendRuntimeRoutineResult | .failAttempt => true
  | _ => false

theorem TerminalRespected.of_service {call : Call D} {db : Db D} {id : Uuid}
    {execution : Execution D} (quiet : call.operation.service.mayOverwrite = false) :
    TerminalRespected call db id execution := by
  refine ⟨?_, ?_, ?_, .of_service ?_⟩
  · intro context number leaseToken reason supplied attempt asked
    rw [asked] at quiet
    cases quiet
  · intro number attempt routine asked
    generalize call.operation = operation at asked quiet
    cases operation <;> first | (cases quiet; done) | cases asked
  · intro profile number attempt routine asked
    rcases call.operation.service_of_cleanup profile asked with same | same <;>
      rw [same] at quiet <;> cases quiet
  · intro same
    rw [same] at quiet
    cases quiet

/-- Work whose attempt was declared a success while it still holds its lease. -/
def declaredWork : List (Call PlainDigest) :=
  bringUp ++ ordinaryWork ++
    [⟨0, .authorizeAttemptMutation ⟨7, 1⟩ ⟨7, 1⟩ (.token leaseToken) 1 ⟨some .succeeded, none⟩⟩]

def nextClaim : Call PlainDigest := ⟨seconds 61, .claimNextExecution ⟨0, 1⟩ 61 1⟩

theorem declared_success_keeps :
    ∃ execution attempt later same,
      (run Env.plain Db.empty declaredWork).executions.lookup 7 = some execution ∧
      execution.attempt? 1 = some attempt ∧ attempt.status = .succeeded ∧
      (run Env.plain Db.empty (declaredWork ++ [nextClaim])).executions.lookup 7 = some later ∧
      later.attempt? 1 = some same ∧ same.status = .succeeded ∧
      same.hasUnresolvedLease = false := by
  have before : ((run Env.plain Db.empty declaredWork).executions.lookup 7).any
      (fun execution => (execution.attempt? 1).any fun attempt =>
        decide (attempt.status = .succeeded)) = true := by decide
  obtain ⟨execution, stored, holds⟩ := (Option.any_eq_true _ _).mp before
  obtain ⟨attempt, found, succeeded⟩ := (Option.any_eq_true _ _).mp holds
  have after : ((run Env.plain Db.empty (declaredWork ++ [nextClaim])).executions.lookup 7).any
      (fun execution => (execution.attempt? 1).any fun attempt =>
        decide (attempt.hasUnresolvedLease = false)) = true := by decide
  obtain ⟨later, present, holds⟩ := (Option.any_eq_true _ _).mp after
  obtain ⟨last, isLast, free⟩ := (Option.any_eq_true _ _).mp holds
  have quiet : (declaredWork ++ [nextClaim]).all
      (fun call => !call.operation.service.mayOverwrite) = true := by decide
  have meets : RunMeets Env.plain TerminalRespected Db.empty
      (declaredWork ++ [nextClaim]) :=
    runMeets_of_mem Env.plain TerminalRespected Db.empty _ fun call member db id execution =>
      .of_service (by simpa using List.all_eq_true.mp quiet call member)
  have isTerminal : attempt.status.isTerminal = true := by
    rw [of_decide_eq_true succeeded]
    rfl
  obtain ⟨same, isSame, sameStatus, _⟩ := terminal_attempts_are_immutable Env.plain declaredWork
    [nextClaim] meets 7 1 execution later attempt stored found
    isTerminal present
  obtain rfl : last = same := Option.some.inj (isLast.symm.trans isSame)
  exact ⟨execution, attempt, later, last, stored, found, of_decide_eq_true succeeded, present,
    isLast, sameStatus.trans (of_decide_eq_true succeeded), of_decide_eq_true free⟩

/-- A stop overwrites the declared success. -/
theorem declared_success_is_overwritten :
    ∃ execution attempt later same,
      (run Env.plain Db.empty declaredWork).executions.lookup 7 = some execution ∧
      execution.attempt? 1 = some attempt ∧ attempt.status = .succeeded ∧
      (run Env.plain Db.empty (declaredWork ++
          [⟨0, .acknowledgeStopped ⟨0, 1⟩ ⟨7, 1⟩ leaseToken "stopped" none⟩])).executions.lookup 7 =
        some later ∧
      later.attempt? 1 = some same ∧ same.status = .unknown := by
  have before : ((run Env.plain Db.empty declaredWork).executions.lookup 7).any
      (fun execution => (execution.attempt? 1).any fun attempt =>
        decide (attempt.status = .succeeded)) = true := by decide
  have after : ((run Env.plain Db.empty (declaredWork ++
      [⟨0, .acknowledgeStopped ⟨0, 1⟩ ⟨7, 1⟩ leaseToken "stopped" none⟩])).executions.lookup 7).any
      (fun execution => (execution.attempt? 1).any fun attempt =>
        decide (attempt.status = .unknown)) = true := by decide
  obtain ⟨execution, stored, holds⟩ := (Option.any_eq_true _ _).mp before
  obtain ⟨attempt, found, succeeded⟩ := (Option.any_eq_true _ _).mp holds
  obtain ⟨later, present, holds⟩ := (Option.any_eq_true _ _).mp after
  obtain ⟨same, isSame, overwritten⟩ := (Option.any_eq_true _ _).mp holds
  exact ⟨execution, attempt, later, same, stored, found, of_decide_eq_true succeeded, present,
    isSame, of_decide_eq_true overwritten⟩

end Foundry
