import Foundry.Evolution.Attempts

/-!
# Work that was started is not started again

The evidence of a started attempt, and where the three retiring paths read it.  Ordinary
work is never queued again once one of its attempts left such evidence.
-/

set_option autoImplicit false

namespace Foundry

variable {D : Type}

/-! ## Sessions -/

/-- A session receipt comes with the digest of its request, and the sessions of
routines are kept with their lease. -/
structure Execution.SessionOf (execution : Execution D) (attempt : Attempt D) : Prop where
  digested : attempt.sessionReceipt.isSome = true → attempt.sessionRequestDigest.isSome = true
  ofRoutine : execution.routine ≠ none → attempt.sessionRequestDigest = none

def Execution.SessionsKept (execution : Execution D) : Prop :=
  execution.AllAttempts execution.SessionOf

variable {attempt : Attempt D}

theorem Execution.SessionOf.of_none (execution : Execution D)
    (digest : attempt.sessionRequestDigest = none) (receipt : attempt.sessionReceipt = none) :
    execution.SessionOf attempt := by
  refine ⟨?_, fun _ => digest⟩
  rw [receipt]
  intro impossible
  cases impossible

variable {later : Attempt D} {execution : Execution D}

theorem Execution.SessionOf.transfer {next : Execution D} (session : execution.SessionOf attempt)
    (kind : next.routine = none ↔ execution.routine = none)
    (digest : later.sessionRequestDigest = attempt.sessionRequestDigest)
    (receipt : later.sessionReceipt = attempt.sessionReceipt) :
    next.SessionOf later := by
  refine ⟨?_, ?_⟩
  · rw [digest, receipt]
    exact session.digested
  · intro ofRoutine
    rw [digest]
    exact session.ofRoutine fun ordinary => ofRoutine (kind.mpr ordinary)

section

variable [DecidableEq D] {env : Env D} {call : Call D} {db : Db D} {id : Uuid}
  {execution next : Execution D}

omit [DecidableEq D] in
theorem endWait_session (attempt : Attempt D) (now : Instant) (waitEnd : WaitEnd)
    (event : ExecutionEvent D) :
    (attempt.endWait now waitEnd event).sessionRequestDigest = attempt.sessionRequestDigest ∧
      (attempt.endWait now waitEnd event).sessionReceipt = attempt.sessionReceipt := by
  simp only [Attempt.endWait]
  split <;> exact ⟨rfl, rfl⟩

omit [DecidableEq D] in
theorem applyOption_session (attempt : Attempt D) (outcome : Option (Append D)) :
    (Append.applyOption attempt outcome).sessionRequestDigest = attempt.sessionRequestDigest ∧
      (Append.applyOption attempt outcome).sessionReceipt = attempt.sessionReceipt := by
  rcases outcome with _ | _ | _ <;> exact ⟨rfl, rfl⟩

theorem Move.session {number : Nat} {status : ExecutionStatus} {routine : Option RoutineExecution}
    (move : Move env call db id execution number attempt later status routine) :
    (later.sessionRequestDigest = attempt.sessionRequestDigest ∧
        later.sessionReceipt = attempt.sessionReceipt) ∨
      (execution.routine = none ∧ later.sessionRequestDigest.isSome = true ∧
        later.sessionReceipt.isSome = true) := by
  cases move with
  | bindSession _ _ _ _ _ ordinary =>
    exact .inr ⟨ordinary, rfl, rfl⟩
  | endWait _ _ waitEnd event =>
    exact .inl (endWait_session attempt call.now waitEnd event)
  | finish _ _ _ _ _ outcome | retireRoutine _ _ _ outcome =>
    exact .inl (applyOption_session attempt outcome)
  | retire _ _ _ failure => exact .inl (applyOption_session attempt failure)
  | _ => exact .inl ⟨rfl, rfl⟩

theorem Change.sessionsKept (change : Change env call db id execution next)
    (kept : execution.SessionsKept) : next.SessionsKept := by
  have kind := change.routine_eq_none_iff
  refine change.allAttempts next.SessionOf
    (fun attempt new => .of_none next new.session.1 new.session.2)
    (fun attempt profile session => ⟨session.digested, session.ofRoutine⟩) ?_ ?_
  · intro number attempt later status routine found move session
    rcases move.session with ⟨digest, receipt⟩ | ⟨ordinary, digested, _⟩
    · exact session.transfer Iff.rfl digest receipt
    · exact ⟨fun _ => digested, fun ofRoutine => absurd (kind.mpr ordinary) ofRoutine⟩
  · intro number attempt found
    exact (kept number attempt found).transfer kind rfl rfl

omit [DecidableEq D] in
theorem Born.sessionsKept (born : Born call execution) : execution.SessionsKept :=
  born.allAttempts _ fun _ new => .of_none execution new.session.1 new.session.2

def sessionRule (env : Env D) : UnitRule env where
  Condition := fun _ _ _ _ => True
  Holds := fun _ execution => execution.SessionsKept
  Related := fun _ _ => True
  reflexive := fun _ => trivial
  transitive := fun _ _ => trivial
  birth := fun _ _ _ _ born => ⟨born.sessionsKept, trivial⟩
  change := fun _ _ _ _ _ kept _ change => ⟨⟨change.sessionsKept kept, trivial⟩, trivial⟩

/-! ## The tests of a started attempt -/

omit [DecidableEq D] in
theorem stopCheckpointed_eq (attempt : Attempt D) :
    attempt.stopCheckpointed = attempt.fenceCheckpointed :=
  Bool.or_comm _ _

omit [DecidableEq D] in
theorem hasReplayCheckpoint_of_ordinary
    (session : execution.SessionOf attempt) (ordinary : execution.routine = none) :
    hasReplayCheckpoint execution attempt = attempt.fenceCheckpointed := by
  have digested := session.digested
  have kind : execution.isRoutineDispatch = false := by
    rw [Execution.isRoutineDispatch, ordinary]
    rfl
  rw [hasReplayCheckpoint, kind, Bool.not_false, Bool.or_true, if_pos rfl,
    Attempt.hasAttemptCheckpoint, Attempt.fenceCheckpointed]
  revert digested
  cases attempt.hasDispatched <;> cases attempt.sessionReceipt <;>
    cases attempt.sessionRequestDigest <;> simp

omit [DecidableEq D] in
theorem hasReplayCheckpoint_of_routine
    (session : execution.SessionOf attempt) (ofRoutine : execution.isRoutineDispatch = true) :
    hasReplayCheckpoint execution attempt =
        (attempt.hasDispatched || attempt.acquisitionsHaveEvidence) ∧
      attempt.fenceCheckpointed = attempt.hasDispatched := by
  have digest : attempt.sessionRequestDigest = none := by
    apply session.ofRoutine
    intro ordinary
    rw [Execution.isRoutineDispatch, ordinary] at ofRoutine
    cases ofRoutine
  have receipt : attempt.sessionReceipt.isSome = false := by
    have digested := session.digested
    rw [digest] at digested
    simpa using digested
  rw [hasReplayCheckpoint, ofRoutine, Attempt.hasAttemptCheckpoint, Attempt.fenceCheckpointed,
    digest, receipt]
  cases attempt.hasDispatched <;> simp

theorem checkpoint_tests_agree_iff
    (env : Env D) (db : Db D) (reachable : Reachable env db) (id : AttemptId)
    (execution : Execution D) (attempt : Attempt D)
    (stored : db.attempt? id = some (execution, attempt)) :
    (attempt.fenceCheckpointed = hasReplayCheckpoint execution attempt ∧
      attempt.stopCheckpointed = hasReplayCheckpoint execution attempt) ↔
    ¬ (execution.isRoutineDispatch = true ∧ attempt.acquisitionsHaveEvidence = true ∧
      attempt.hasDispatched = false) := by
  obtain ⟨calls, rfl⟩ := reachable
  obtain ⟨present, found⟩ := (Db.attempt?_eq_some _ _ _ _).mp stored
  have session := (sessionRule env).holds calls (runMeets_of_forall env _
    (fun _ _ _ _ => trivial) _ _) id.execution execution present id.number attempt found
  rw [stopCheckpointed_eq, and_self]
  cases kind : execution.isRoutineDispatch with
  | false =>
    have ordinary : execution.routine = none := by
      simpa [Execution.isRoutineDispatch] using kind
    simp [hasReplayCheckpoint_of_ordinary session ordinary]
  | true =>
    obtain ⟨expiry, fence⟩ := hasReplayCheckpoint_of_routine session kind
    rw [expiry, fence]
    cases attempt.hasDispatched <;> cases attempt.acquisitionsHaveEvidence <;> simp

end

/-- A routine whose session is bound, but which has reported no dispatch. -/
def boundRoutine : List (Call PlainDigest) :=
  bringUp ++ routineWork ++
    [⟨0, .bindRoutineSession ⟨0, 1⟩ ⟨7, 1⟩ leaseToken none "session"⟩]

theorem bound_routine_is_requeued :
    ∃ db execution attempt fenced, Reachable Env.plain db ∧
      db.attempt? ⟨7, 1⟩ = some (execution, attempt) ∧
      hasReplayCheckpoint execution attempt = true ∧ attempt.fenceCheckpointed = false ∧
      attempt.stopCheckpointed = false ∧
      (run Env.plain db fenceMachine).executions.lookup 7 = some fenced ∧
      fenced.status = .queued := by
  have bound : ((run Env.plain Db.empty boundRoutine).attempt? ⟨7, 1⟩).any (fun found =>
      decide (hasReplayCheckpoint found.1 found.2 = true ∧ found.2.fenceCheckpointed = false ∧
        found.2.stopCheckpointed = false)) = true := by decide
  have requeued : ((run Env.plain (run Env.plain Db.empty boundRoutine)
      fenceMachine).executions.lookup 7).any (fun execution =>
        decide (execution.status = .queued)) = true := by decide
  obtain ⟨⟨execution, attempt⟩, stored, tests⟩ := (Option.any_eq_true _ _).mp bound
  obtain ⟨fenced, present, queued⟩ := (Option.any_eq_true _ _).mp requeued
  obtain ⟨expiry, fence, stop⟩ := of_decide_eq_true tests
  exact ⟨run Env.plain Db.empty boundRoutine, execution, attempt, fenced, ⟨boundRoutine, rfl⟩,
    stored, expiry, fence, stop, present, of_decide_eq_true queued⟩

theorem unbound_routine_tests_agree :
    ∃ execution attempt,
      (run Env.plain Db.empty (bringUp ++ routineWork)).attempt? ⟨7, 1⟩ =
        some (execution, attempt) ∧
      execution.isRoutineDispatch = true ∧
      attempt.fenceCheckpointed = hasReplayCheckpoint execution attempt ∧
      attempt.stopCheckpointed = hasReplayCheckpoint execution attempt := by
  have unbound : ((run Env.plain Db.empty (bringUp ++ routineWork)).attempt? ⟨7, 1⟩).any
      (fun found => decide (found.1.isRoutineDispatch = true ∧
        found.2.acquisitionsHaveEvidence = false)) = true := by decide
  obtain ⟨⟨execution, attempt⟩, stored, kind⟩ := (Option.any_eq_true _ _).mp unbound
  obtain ⟨ofRoutine, noEvidence⟩ := of_decide_eq_true kind
  have agree := (checkpoint_tests_agree_iff Env.plain _ ⟨bringUp ++ routineWork, rfl⟩ ⟨7, 1⟩
    execution attempt stored).mpr (by rw [noEvidence]; rintro ⟨_, impossible, _⟩; cases impossible)
  exact ⟨execution, attempt, stored, ofRoutine, agree⟩

/-! ## Ordinary work -/

/-- An `execution.dispatched` event or a session receipt is stored. -/
def Attempt.holdsCheckpoint (attempt : Attempt D) : Bool :=
  attempt.hasDispatched || attempt.sessionReceipt.isSome

/-- The attempt holds a checkpoint, or its runtime may still store one. -/
def Attempt.isLive (attempt : Attempt D) : Bool :=
  attempt.holdsCheckpoint || attempt.hasUnresolvedLease

/-- A failure carries its terminal event, as the runtime API requires. -/
def Operation.failsWithEvent : Operation D → Bool
  | .failAttempt _ _ _ _ none => false
  | _ => true

theorem Operation.failsWithEvent_of_service (operation : Operation D)
    (other : operation.service ≠ .failAttempt) : operation.failsWithEvent = true := by
  cases operation <;> first | rfl | exact absurd rfl other

/-- Ordinary work has one live attempt at most, and none while it is queued. -/
structure Execution.StartedOnce (execution : Execution D) : Prop where
  sessions : execution.SessionsKept
  single : ∀ number other attempt found, execution.attempt? number = some attempt →
    execution.attempt? other = some found → attempt.isLive = true → found.isLive = true →
    number = other
  queued : execution.status = .queued → ∀ number attempt,
    execution.attempt? number = some attempt → attempt.isLive = false

def Attempt.CheckpointKept (attempt later : Attempt D) : Prop :=
  attempt.holdsCheckpoint = true → later.holdsCheckpoint = true

theorem isLive_of_unresolved (held : attempt.hasUnresolvedLease = true) :
    attempt.isLive = true := by
  rw [Attempt.isLive, held, Bool.or_true]

theorem stopLease_isLive (attempt : Attempt D) (profile : Uuid) :
    (attempt.stopLease profile).isLive = attempt.isLive := by
  rw [Attempt.isLive, stopLease_hasUnresolvedLease]
  rfl

theorem not_live_of_unstarted
    (session : execution.SessionOf attempt) (unstarted : attempt.fenceCheckpointed = false)
    (events : later.events = attempt.events)
    (receipt : later.sessionReceipt = attempt.sessionReceipt)
    (resolved : later.hasUnresolvedLease = false) : later.isLive = false := by
  have digested := session.digested
  rw [Attempt.fenceCheckpointed, Bool.or_eq_false_iff] at unstarted
  rw [unstarted.2] at digested
  have same : later.hasDispatched = attempt.hasDispatched := by
    rw [Attempt.hasDispatched, events]
    rfl
  rw [Attempt.isLive, Attempt.holdsCheckpoint, same, receipt, resolved, unstarted.1]
  cases session : attempt.sessionReceipt <;> simp_all

section

variable [DecidableEq D] {env : Env D} {call : Call D} {db : Db D} {id : Uuid}
  {execution next : Execution D}

section

variable {number : Nat} {attempt later : Attempt D} {status : ExecutionStatus}
  {routine : Option RoutineExecution}

section

variable (move : Move env call db id execution number attempt later status routine)

include move

theorem Move.checkpointKept :
    attempt.CheckpointKept later := by
  intro checkpoint
  rw [Attempt.holdsCheckpoint, Bool.or_eq_true] at checkpoint ⊢
  rcases checkpoint with dispatched | bound
  · left
    rw [Attempt.hasDispatched, List.any_eq_true] at dispatched ⊢
    obtain ⟨event, member, kind⟩ := dispatched
    exact ⟨event, move.growth.keeps.subset member, kind⟩
  · right
    rcases move.session with ⟨_, receipt⟩ | ⟨_, _, receipt⟩
    · rw [receipt]
      exact bound
    · exact receipt

theorem Move.requeues (ordinary : execution.routine = none) (session : execution.SessionOf attempt)
    (carries : call.operation.failsWithEvent = true) (started : execution.status ≠ .queued)
    (queued : status = .queued) : later.isLive = false := by
  cases move with
  | append | renew | mutate | bindSession | close => exact absurd queued started
  | stop _ _ _ _ _ _ _ receipt _ _ held _ _ requeues =>
    have requeued : receipt.requeued = true := by
      by_contra kept
      simp [kept] at queued
    have unstarted := requeues requeued
    rw [stopCheckpointed_eq] at unstarted
    refine not_live_of_unstarted session unstarted rfl rfl ?_
    simp [Attempt.hasUnresolvedLease, Attempt.stopped, held, LeaseState.isUnresolved]
  | finish _ args _ _ _ _ _ _ _ _ _ _ _ requeues =>
    have retryable : args.retryable = true := by
      by_contra refused
      rw [TerminalArgs.executionStatus, if_neg refused] at queued
      split at queued <;> cases queued
    obtain ⟨_, _, _, asked⟩ := requeues retryable
    rw [asked] at carries
    cases carries
  | fence =>
    simp only [Execution.statusAfterFence] at queued
    split at queued
    · split at queued
      · cases queued
      · next unstarted =>
        exact not_live_of_unstarted session (by simpa using unstarted) rfl rfl rfl
    · exact absurd queued started
  | requeue _ _ _ _ _ _ unstarted =>
    rw [hasReplayCheckpoint_of_ordinary session ordinary] at unstarted
    exact not_live_of_unstarted session unstarted rfl rfl rfl
  | retire =>
    split at queued
    · exact absurd queued started
    · cases queued
  | cleanup =>
    split at queued
    · cases queued
    · exact absurd queued started
  | _ => exact absurd ordinary (routine_ne_none ‹execution.routineAt number = some _›)

end

theorem Execution.StartedOnce.move (once : execution.StartedOnce)
    (found : execution.attempt? number = some attempt)
    (move : Move env call db id execution number attempt later status routine)
    (ordinary : execution.routine = none) (carries : call.operation.failsWithEvent = true)
    (sessions : (execution.write number later status routine).SessionsKept) :
    (execution.write number later status routine).StartedOnce := by
  have live := isLive_of_unresolved (move.holds_lease ordinary)
  have started : execution.status ≠ .queued := by
    intro queued
    rw [once.queued queued number attempt found] at live
    cases live
  -- No other attempt is live, before or after.
  have others : ∀ other unit, other ≠ number → execution.attempt? other = some unit →
      unit.isLive = false := by
    intro other unit different isUnit
    by_contra isLive
    exact different (once.single other number unit attempt isUnit found (by simpa using isLive)
      live)
  refine ⟨sessions, ?_, ?_⟩
  · intro one two first second isFirst isSecond firstLive secondLive
    rcases attempt?_write_cases isFirst with ⟨rfl, rfl⟩ | ⟨different, isFirst⟩
    · rcases attempt?_write_cases isSecond with ⟨rfl, rfl⟩ | ⟨different, isSecond⟩
      · rfl
      · rw [others two second different isSecond] at secondLive
        cases secondLive
    · rw [others one first different isFirst] at firstLive
      cases firstLive
  · intro queued other unit isUnit
    rcases attempt?_write_cases isUnit with ⟨rfl, rfl⟩ | ⟨different, isUnit⟩
    · exact move.requeues ordinary (once.sessions _ attempt found) carries started queued
    · exact others other unit different isUnit

end

theorem Execution.StartedOnce.change (once : execution.StartedOnce)
    (change : Change env call db id execution next) (ordinary : execution.routine = none)
    (carries : call.operation.failsWithEvent = true) : next.StartedOnce := by
  have sessions := change.sessionsKept once.sessions
  cases change with
  | move _ _ _ _ _ found move =>
    exact once.move found move ordinary carries sessions
  | claim _ _ _ queued =>
    have dead := once.queued queued
    refine ⟨sessions, ?_, fun impossible => by cases impossible⟩
    intro one two first second isFirst isSecond firstLive secondLive
    rcases attempt?_write_cases isFirst with ⟨rfl, rfl⟩ | ⟨_, isFirst⟩
    · rcases attempt?_write_cases isSecond with ⟨rfl, rfl⟩ | ⟨_, isSecond⟩
      · rfl
      · rw [dead two second isSecond] at secondLive
        cases secondLive
    · rw [dead one first isFirst] at firstLive
      cases firstLive
  | claimDetached _ _ _ detached =>
    rw [ordinary] at detached
    cases detached
  | stopLeases profile =>
    have same : ∀ number unit, (execution.stopLeases profile).attempt? number = some unit →
        ∃ former, execution.attempt? number = some former ∧ unit.isLive = former.isLive := by
      intro number unit isUnit
      rw [Execution.attempt?_stopLeases, Option.map_eq_some_iff] at isUnit
      obtain ⟨former, isFormer, rfl⟩ := isUnit
      exact ⟨former, isFormer, stopLease_isLive former profile⟩
    refine ⟨sessions, ?_, ?_⟩
    · intro one two first second isFirst isSecond firstLive secondLive
      obtain ⟨former, isFormer, sameFirst⟩ := same one first isFirst
      obtain ⟨latter, isLatter, sameSecond⟩ := same two second isSecond
      exact once.single one two former latter isFormer isLatter (sameFirst ▸ firstLive)
        (sameSecond ▸ secondLive)
    · intro queued number unit isUnit
      obtain ⟨former, isFormer, same⟩ := same number unit isUnit
      rw [same]
      exact once.queued queued number former isFormer

omit [DecidableEq D] in
theorem Execution.StartedOnce.of_born (born : Born call execution)
    (ordinary : execution.routine = none) : execution.StartedOnce := by
  cases born with
  | ordinary _ unclaimed =>
    refine ⟨?_, ?_, ?_⟩
    · intro number attempt found
      simp [unclaimed] at found
    · intro number other attempt unit found
      simp [unclaimed] at found
    · intro _ number attempt found
      simp [unclaimed] at found
  | routine _ _ _ _ has =>
    rw [ordinary] at has
    cases has

/-- One start of ordinary work, for every run whose failures carry their event. -/
def startRule (env : Env D) : UnitRule env where
  Condition := fun call _ _ _ => call.operation.failsWithEvent = true
  Holds := fun _ execution => execution.routine = none → execution.StartedOnce
  Related := fun execution next => execution.routine = none →
    next.routine = none ∧ execution.AttemptsContinue Attempt.CheckpointKept next
  reflexive := fun execution ordinary => ⟨ordinary, .refl (fun _ checkpoint => checkpoint) execution⟩
  transitive := by
    intro first second third earlier later ordinary
    obtain ⟨middle, before⟩ := earlier ordinary
    obtain ⟨last, after⟩ := later middle
    exact ⟨last, before.trans (fun one two checkpoint => two (one checkpoint)) after⟩
  birth := by
    refine fun call _ _ _ born => ⟨.of_born born, ?_⟩
    cases born with
    | ordinary service =>
      apply Operation.failsWithEvent_of_service
      rcases service with same | same <;> rw [same] <;> decide
    | routine _ _ service =>
      apply Operation.failsWithEvent_of_service
      rw [service]
      decide
  change := by
    intro call db id execution next once carries change
    refine ⟨⟨?_, carries⟩, ?_⟩
    · intro ordinary
      have before := change.routine_eq_none_iff.mp ordinary
      exact (once before).change change before carries
    · intro ordinary
      refine ⟨change.routine_eq_none_iff.mpr ordinary, ?_⟩
      exact change.attemptsContinue _ (fun _ checkpoint => checkpoint)
        (fun _ _ checkpoint => checkpoint)
        fun number attempt later status routine found move => move.checkpointKept

theorem dispatched_work_is_not_replayed (env : Env D) (first rest : List (Call D))
    (carries : ∀ call ∈ first ++ rest, call.operation.failsWithEvent = true)
    (id : Uuid) (execution later : Execution D)
    (stored : (run env Db.empty first).executions.lookup id = some execution)
    (present : (run env Db.empty (first ++ rest)).executions.lookup id = some later)
    (ordinary : execution.routine = none) (number : Nat) (attempt : Attempt D)
    (found : execution.attempt? number = some attempt)
    (checkpoint : attempt.holdsCheckpoint = true) :
    later.status ≠ .queued ∧
      ∀ other after, later.attempt? other = some after → after.holdsCheckpoint = true →
        other = number := by
  have meets : RunMeets env (startRule env).Condition Db.empty (first ++ rest) :=
    runMeets_of_mem env _ Db.empty _ fun call member _ _ _ => carries call member
  obtain ⟨still, continues⟩ :=
    (startRule env).relates first rest meets id execution later stored present ordinary
  have once := (startRule env).holds (first ++ rest) meets id later present still
  obtain ⟨after, isAfter, kept⟩ := continues number attempt found
  have isLive : ∀ unit : Attempt D, unit.holdsCheckpoint = true → unit.isLive = true := by
    intro unit holds
    rw [Attempt.isLive, holds, Bool.true_or]
  have live := isLive after (kept checkpoint)
  constructor
  · intro queued
    rw [once.queued queued number after isAfter] at live
    cases live
  · intro other unit isUnit holds
    exact once.single other number unit after isUnit isAfter (isLive unit holds) live

end

def dispatchedWork : List (Call PlainDigest) :=
  bringUp ++ ordinaryWork ++
    [⟨0, .appendRuntimeEvent ⟨0, 1⟩ ⟨7, 1⟩ leaseToken ⟨70, "stream", 1, .dispatched⟩⟩]

theorem dispatched_work_fails_at_fence :
    ∃ execution later attempt,
      (run Env.plain Db.empty dispatchedWork).executions.lookup 7 = some execution ∧
      (run Env.plain Db.empty (dispatchedWork ++ fenceMachine)).executions.lookup 7 = some later ∧
      execution.attempt? 1 = some attempt ∧ attempt.holdsCheckpoint = true ∧
      later.status ≠ .queued ∧
      ∀ other after, later.attempt? other = some after → after.holdsCheckpoint = true →
        other = 1 := by
  have before : ((run Env.plain Db.empty dispatchedWork).executions.lookup 7).any (fun execution =>
      (execution.attempt? 1).any fun attempt => decide (execution.routine = none ∧
        attempt.holdsCheckpoint = true)) = true := by decide
  have remains : ((run Env.plain Db.empty
      (dispatchedWork ++ fenceMachine)).executions.lookup 7).isSome = true := by decide
  obtain ⟨execution, stored, holds⟩ := (Option.any_eq_true _ _).mp before
  obtain ⟨attempt, found, holds⟩ := (Option.any_eq_true _ _).mp holds
  obtain ⟨ordinary, checkpoint⟩ := of_decide_eq_true holds
  obtain ⟨later, present⟩ := Option.isSome_iff_exists.mp remains
  have carries : (dispatchedWork ++ fenceMachine).all
      (fun call => call.operation.failsWithEvent) = true := by decide
  have once := dispatched_work_is_not_replayed Env.plain dispatchedWork fenceMachine
    (List.all_eq_true.mp carries) 7 execution later stored present ordinary 1 attempt found
    checkpoint
  exact ⟨execution, later, attempt, stored, present, found, checkpoint, once⟩

end Foundry
