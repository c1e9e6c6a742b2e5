import Foundry.Evolution.Simulation

/-!
# Attempts along a run

A move rewrites one attempt of one Execution.  The first part says, for one aspect
of an attempt at a time, what a move can do to it; the second carries facts about
single attempts to Executions.
-/

set_option autoImplicit false

namespace Foundry

variable {D : Type}

/-! ## Events -/

variable {attempt : Attempt D} {routine : Option RoutineExecution} {status : ExecutionStatus}

section Events

variable (call : Call D) (db : Db D) (id : Uuid) (execution : Execution D) (number : Nat)

/-- An event stored by a call that carries an event identifier has that identifier. -/
def Call.Names (event : ExecutionEvent D) : Prop :=
  ∀ sent, call.operation.carriedEvent = some sent → event.eventId = sent

inductive Growth (attempt next : Attempt D) : Prop
  | still (same : next.events = attempt.events)
  | plain (event : ExecutionEvent D) (grown : next.events = attempt.events ++ [event])
      (named : call.Names event)
      (isOpen : attempt.status.isOpen = true) (fresh : NewEvent attempt event)
      (bounded : event.sequence ≤ maxRuntimeEventSequence)
      (kind : event.eventType.isEnding = false) (noResult : event.eventType ≠ .routineResult)
  | ending (event : ExecutionEvent D) (grown : next.events = attempt.events ++ [event])
      (named : call.Names event)
      (isOpen : attempt.status.isOpen = true) (fresh : NewEvent attempt event)
      (kind : event.eventType.isEnding = true) (closed : next.status.isOpen = false)
  | result (event : ExecutionEvent D) (grown : next.events = attempt.events ++ [event])
      (named : call.Names event) (routine : RoutineExecution)
      (current : execution.routineAt number = some routine)
      (unfinished : routine.status.isTerminal = false)
      (unknown : attempt.findEvent event.eventId = none)
      (free : ∀ stored ∈ attempt.events, stored.sequence ≠ event.sequence)
      (sequence : call.operation.explicitResult db.supply =
          some (id, event.eventId, event.sequence) ∨
        attempt.latestSequence < event.sequence)
  | expired (failure event : ExecutionEvent D)
      (grown : next.events = attempt.events ++ [failure, event])
      (silent : call.operation.carriedEvent = none)
      (routine : RoutineExecution) (current : execution.routineAt number = some routine) (first : NewEvent attempt failure)
      (second : NewEvent (attempt.store failure) event)

variable {call db id execution number}

variable {event : ExecutionEvent D}

theorem Call.Names.of_none (silent : call.operation.carriedEvent = none) : call.Names event := by
  intro sent carried
  rw [silent] at carried
  cases carried

/-- The services whose callers send the identifier of an event. -/
def Service.carriesEvent : Service → Bool
  | .appendRuntimeEvent | .completeAttempt | .failAttempt | .appendRuntimeRoutineResult
  | .recordRoutineResult => true
  | _ => false

section

variable (operation : Operation D)

theorem Operation.carriedEvent_eq_none
    (other : operation.service.carriesEvent = false) : operation.carriedEvent = none := by
  cases operation <;> first | rfl | cases other

theorem Operation.carriedEvent_of_cleanup (profile : Uuid)
    (cleans : operation.cleanupProfile = some profile) : operation.carriedEvent = none := by
  cases operation <;> first | rfl | cases cleans

theorem Operation.explicitResult_carried {supply : Nat} {id eventId sent : Uuid} {sequence : Nat}
    (explicit : operation.explicitResult supply = some (id, eventId, sequence))
    (carried : operation.carriedEvent = some sent) : eventId = sent := by
  cases operation <;> simp only [Operation.carriedEvent, reduceCtorEq] at carried <;>
    simp only [Operation.explicitResult, Option.map_eq_some_iff, Option.some.injEq,
      Prod.mk.injEq, reduceCtorEq] at explicit
  case recordRoutineResult =>
    obtain ⟨_, _, _, rfl, _⟩ := explicit
    rw [carried]
    rfl
  case failAttempt terminalEvent =>
    obtain ⟨_, rfl, _⟩ := explicit
    rw [carried]
    rfl
  case appendRuntimeRoutineResult =>
    obtain ⟨_, rfl, _⟩ := explicit
    exact Option.some.inj carried

end

theorem kinds_of_isReported {eventType : EventType} :
    eventType.isReported = true → eventType.isEnding = false ∧ eventType ≠ .routineResult := by
  cases eventType <;> decide

theorem ExpiryEvent.toNewEvent (expiry : ExpiryEvent attempt event) : NewEvent attempt event :=
  ⟨expiry.unknown, by rw [expiry.next]; exact Nat.lt_succ_self _⟩

theorem NextResult.later {routine : RoutineExecution} (result : NextResult routine attempt event) :
    attempt.latestSequence < event.sequence := by
  rw [result.next]
  exact Nat.lt_succ_self _

theorem routine_ne_none {routine : RoutineExecution}
    (current : execution.routineAt number = some routine) : execution.routine ≠ none := by
  rw [Execution.routineAt_eq_some] at current
  rw [current.1]
  exact Option.some_ne_none _

section Results

variable (routine : RoutineExecution) (outcome : RoutineOutcome) (event : ExecutionEvent D)

theorem endWithResult_status :
    (routine.endWithResult outcome event).status = outcome.runStatus := by
  cases outcome <;> rfl

theorem endWithResult_currentAttempt :
    (routine.endWithResult outcome event).currentAttempt = routine.currentAttempt := by
  cases outcome <;> rfl

theorem RoutineOutcome.runStatus_isTerminal : outcome.runStatus.isTerminal = true := by
  cases outcome <;> rfl

theorem RoutineOutcome.executionStatus_isTerminal :
    outcome.executionStatus.isTerminal = true := by
  cases outcome <;> rfl

theorem RoutineOutcome.attemptStatus_isTerminal : outcome.attemptStatus.isTerminal = true := by
  cases outcome <;> rfl

end Results

theorem endWait_events (attempt : Attempt D) (now : Instant) (waitEnd : WaitEnd)
    (event : ExecutionEvent D) :
    (attempt.endWait now waitEnd event).events = attempt.events ++ [event] := by
  simp only [Attempt.endWait]
  split <;> rfl

theorem Move.growth [DecidableEq D] {env : Env D} {next : Attempt D}
    (move : Move env call db id execution number attempt next status routine) :
    Growth call db id execution number attempt next := by
  cases move with
  | append event _ _ carried _ _ isOpen fresh bounded kind =>
    obtain ⟨notEnding, noResult⟩ := kinds_of_isReported kind
    refine .plain event rfl ?_ isOpen fresh bounded notEnding noResult
    intro sent same
    exact Option.some.inj (carried.symm.trans same)
  | requestApproval _ _ _ event service _ _ leased _ _ _ _ fresh bounded kind =>
    have isOpen : attempt.status.isOpen = true := by
      rcases leased with same | same <;> rw [same] <;> rfl
    exact .plain event rfl (.of_none (call.operation.carriedEvent_eq_none (by rw [service]; rfl)))
      isOpen fresh bounded (by rw [kind]; rfl) (by rw [kind]; decide)
  | finish _ _ _ _ _ outcome _ _ _ _ _ _ ends _ appends =>
    rcases outcome with _ | _ | event
    · exact .still rfl
    · exact .still rfl
    · obtain ⟨fresh, isOpen, _, kind, carried⟩ := appends event rfl
      refine .ending event rfl ?_ isOpen fresh kind ?_
      · intro sent same
        exact Option.some.inj (carried.symm.trans same)
      · rcases ends with same | same <;> simp only [Attempt.finished, same] <;> rfl
  | retire _ _ _ failure service _ _ _ isOpen _ appends =>
    rcases failure with _ | _ | event
    · exact .still rfl
    · exact .still rfl
    · have expiry := appends event rfl
      exact .ending event rfl
        (.of_none (call.operation.carriedEvent_eq_none (by rw [service]; rfl)))
        isOpen expiry.toNewEvent (by rw [expiry.kind]; rfl) rfl
  | retireRoutine routine _ _ failure event service current _ _ _ _ appends result =>
    have silent := call.operation.carriedEvent_eq_none (by rw [service]; rfl)
    rcases failure with _ | _ | failed
    · exact .result event rfl (.of_none silent) routine current result.unfinished result.unknown
        result.free (.inr result.later)
    · exact .result event rfl (.of_none silent) routine current result.unfinished result.unknown
        result.free (.inr result.later)
    · refine .expired failed event ?_ silent routine current (appends failed rfl).toNewEvent
        ⟨result.unknown, result.later⟩
      exact List.append_assoc attempt.events [failed] [event]
  | stopRoutine _ _ _ _ routine _ event _ _ _ asked current _ _ _ result =>
    exact .result event rfl (.of_none (by rw [asked]; rfl)) routine current result.unfinished
      result.unknown result.free (.inr result.later)
  | record routine _ event _ carried current result sequence =>
    refine .result event rfl carried routine current result.unfinished result.unknown result.free ?_
    exact sequence.imp_right fun next => by omega
  | recordSealed routine _ _ event _ _ _ _ current _ _ result sequence =>
    refine .result event rfl ?_ routine current result.unfinished result.unknown result.free
      (.inl sequence)
    intro sent carried
    exact call.operation.explicitResult_carried
      sequence carried
  | endWait routine _ waitEnd event service _ current _ _ result =>
    have silent : call.operation.carriedEvent = none := by
      apply Operation.carriedEvent_eq_none
      rcases service with same | same | same <;> rw [same] <;> rfl
    exact .result event (endWait_events attempt call.now waitEnd event) (.of_none silent)
      routine current result.unfinished result.unknown result.free (.inr result.later)
  | cleanupRoutine profile routine _ event asked _ current _ _ result =>
    exact .result event rfl (.of_none (call.operation.carriedEvent_of_cleanup profile asked))
      routine current result.unfinished result.unknown result.free (.inr result.later)
  | renew | mutate | bindSession | bindRoutineSession | stop | sealReplay | approve | fence
  | requeue | requeueRoutine | close | cleanup | resume | abandon => exact .still rfl

theorem Growth.keeps {next : Attempt D} (growth : Growth call db id execution number attempt next) :
    attempt.events <+: next.events := by
  cases growth with
  | still same => exact same ▸ List.prefix_rfl
  | plain _ grown | ending _ grown | result _ grown | expired _ _ grown =>
    rw [grown]
    exact List.prefix_append _ _

end Events

/-! ## Lease states -/

section Leases

variable (attempt : Attempt D) (now : Instant)

@[simp] theorem setLease_hasUnresolvedLease (lease : Lease D) :
    (attempt.setLease lease).hasUnresolvedLease = lease.state.isUnresolved := rfl

theorem expireLease_hasUnresolvedLease (isRoutine : Bool) (state : LeaseState)
    (resolved : state.isUnresolved = false) :
    (attempt.expireLease now isRoutine state).hasUnresolvedLease = false := by
  rw [Attempt.hasUnresolvedLease, Attempt.expireLease]
  cases attempt.lease with
  | none => rfl
  | some => simp [resolved]

@[simp] theorem endWithResult_hasUnresolvedLease (outcome : RoutineOutcome)
    (event : ExecutionEvent D) :
    (attempt.endWithResult now outcome event).hasUnresolvedLease = false := by
  simp only [Attempt.hasUnresolvedLease, Attempt.endWithResult, Attempt.releaseUnresolved,
    Attempt.store]
  cases attempt.lease with
  | none => rfl
  | some =>
    rw [Option.map_some, Option.any_some]
    split
    · rfl
    · next resolved => simpa using resolved

@[simp] theorem endWait_hasUnresolvedLease (waitEnd : WaitEnd) (event : ExecutionEvent D) :
    (attempt.endWait now waitEnd event).hasUnresolvedLease = false := by
  have ended := endWithResult_hasUnresolvedLease attempt now .failed event
  simp only [Attempt.endWait]
  split
  · -- The wait's own fence finds the lease resolved by the result.
    simp only [Attempt.hasUnresolvedLease, Attempt.fenceUnresolved] at ended ⊢
    cases held : (attempt.endWithResult now .failed event).lease with
    | none => simp
    | some =>
      rw [held, Option.any_some] at ended
      simp [ended]
  · exact ended

@[simp] theorem stopped_hasUnresolvedLease (requestDigest tokenDigest : D)
    (receipt : StoppedReceipt) (status : AttemptStatus) :
    (attempt.stopped requestDigest tokenDigest receipt status).hasUnresolvedLease = false := by
  simp only [Attempt.hasUnresolvedLease, Attempt.stopped]
  cases attempt.lease <;> rfl

@[simp] theorem sealAcquisition_hasUnresolvedLease [DecidableEq D] (tokenDigest requestDigest : D)
    (receipt : RoutineTerminalReceipt) :
    (attempt.sealAcquisition tokenDigest requestDigest receipt).hasUnresolvedLease =
      attempt.hasUnresolvedLease := by
  simp only [Attempt.hasUnresolvedLease, Attempt.sealAcquisition]
  cases attempt.lease <;> rfl

end Leases

/-! ## Results -/

def Service.recordsResult : Service → Bool
  | .recordRoutineResult | .appendRuntimeRoutineResult | .failAttempt => true
  | _ => false

section

variable (operation : Operation D)

theorem Operation.recordsResult_of_explicit (supply : Nat)
    (result : Uuid × Uuid × Nat) (explicit : operation.explicitResult supply = some result) :
    operation.service.recordsResult = true := by
  cases operation <;> first | rfl | cases explicit

theorem Operation.recordsResult_of_target (id : Uuid)
    (asked : operation.resultTarget = some id) : operation.service.recordsResult = true := by
  cases operation <;> first | rfl | cases asked

theorem Operation.cleanup_recordsResult (profile : Uuid)
    (cleans : operation.cleanupProfile = some profile) :
    operation.service.recordsResult = false := by
  cases operation <;> first | rfl | cases cleans

end

section Recording

variable [DecidableEq D] {env : Env D} {call : Call D} {db : Db D} {id : Uuid}
  {execution : Execution D} {number : Nat} {attempt later : Attempt D}
  {status : ExecutionStatus} {routine : Option RoutineExecution}

theorem Move.records (move : Move env call db id execution number attempt later status routine)
    (records : call.operation.service.recordsResult = true) :
    (∀ ended, routine = some ended → ended.status.isTerminal = true) ∨
      (routine = execution.routine ∧ later.events = attempt.events ∧
        later.status = attempt.status ∧
        later.hasUnresolvedLease = attempt.hasUnresolvedLease) := by
  cases move with
  | record _ outcome | recordSealed _ _ outcome =>
    left
    rintro _ ⟨⟩
    rw [endWithResult_status, outcome.runStatus_isTerminal]
  | finish _ _ _ _ _ _ _ ordinary =>
    left
    intro ended same
    rw [ordinary] at same
    cases same
  | sealReplay => exact .inr ⟨rfl, rfl, rfl, sealAcquisition_hasUnresolvedLease ..⟩
  | endWait _ _ _ _ service =>
    rcases service with same | same | same <;> rw [same] at records <;> cases records
  | mutate _ _ _ _ _ asked | stop _ _ _ _ _ _ _ _ asked | stopRoutine _ _ _ _ _ _ _ _ _ _ asked
  | approve _ _ _ _ asked | fence _ _ _ _ _ asked =>
    rw [asked] at records
    cases records
  | cleanup profile _ _ asked | cleanupRoutine profile _ _ _ asked =>
    rw [call.operation.cleanup_recordsResult profile asked] at records
    cases records
  | append _ _ service | renew _ _ service | bindSession _ _ _ _ service
  | bindRoutineSession _ _ _ _ _ service | requestApproval _ _ _ _ service
  | requeue _ service | requeueRoutine _ _ service | close _ _ _ service
  | retire _ _ _ _ service | retireRoutine _ _ _ _ _ service | resume _ _ _ service
  | abandon _ _ _ service =>
    rw [service] at records
    cases records

end Recording

/-! ## Ordinary work -/

section Ordinary

variable [DecidableEq D] {env : Env D} {call : Call D} {db : Db D} {id : Uuid}
  {execution next : Execution D} {number : Nat} {attempt later : Attempt D}
  {status : ExecutionStatus} {routine : Option RoutineExecution}

theorem Move.routine_eq_none_iff
    (move : Move env call db id execution number attempt later status routine) :
    routine = none ↔ execution.routine = none := by
  cases move <;> first
    | exact Iff.rfl
    | exact iff_of_false (Option.some_ne_none _)
        (routine_ne_none ‹execution.routineAt number = some _›)

variable {lease : Lease D}

omit [DecidableEq D] in
theorem hasUnresolvedLease_of_held (held : attempt.lease = some lease)
    (unresolved : lease.state.isUnresolved = true) : attempt.hasUnresolvedLease = true := by
  rw [Attempt.hasUnresolvedLease, held]
  exact unresolved

omit [DecidableEq D] in
theorem hasUnresolvedLease_of_active (held : attempt.lease = some lease)
    (active : lease.state = .active) : attempt.hasUnresolvedLease = true :=
  hasUnresolvedLease_of_held held (by rw [active]; rfl)

section

variable (move : Move env call db id execution number attempt later status routine)
  (ordinary : execution.routine = none)

include move ordinary

theorem Move.holds_lease : attempt.hasUnresolvedLease = true := by
  cases move with
  | append _ lease _ _ held active | renew lease _ _ held active
  | mutate lease _ _ _ _ _ held active | bindSession lease _ _ _ _ _ held active
  | finish lease _ _ _ _ _ _ _ held active =>
    exact hasUnresolvedLease_of_active held active
  | stop _ _ _ _ lease _ _ _ _ _ held unresolved | fence _ _ _ _ lease _ _ _ held unresolved
  | requeue lease _ _ held unresolved | close lease _ _ _ held unresolved
  | retire lease _ _ _ _ _ held unresolved | cleanup _ lease _ _ _ _ held unresolved =>
    exact hasUnresolvedLease_of_held held unresolved
  | _ => exact absurd ordinary (routine_ne_none ‹execution.routineAt number = some _›)

theorem Move.stays_not_open (notOpen : attempt.status.isOpen = false) :
    later.status.isOpen = false := by
  cases move with
  | append _ _ _ _ _ _ isOpen => rw [isOpen] at notOpen; cases notOpen
  | mutate =>
    cases current : attempt.status <;>
      simp_all [AttemptStatus.mayBecome, AttemptStatus.isOpen, Attempt.mutate]
  | finish _ _ _ _ _ _ _ _ _ _ _ _ ends =>
    rcases ends with same | same <;> simp only [Attempt.finished, same] <;> rfl
  | stop | requeue | retire => rfl
  | fence =>
    simp only [Attempt.fence, notOpen, Bool.false_eq_true, if_false]
  | cleanup =>
    simp only [notOpen, Bool.false_eq_true, if_false]
  | renew | bindSession | sealReplay | close => exact notOpen
  | _ => exact absurd ordinary (routine_ne_none ‹execution.routineAt number = some _›)

end

theorem Change.routine_eq_none_iff (change : Change env call db id execution next) :
    next.routine = none ↔ execution.routine = none := by
  cases change with
  | move _ _ _ _ _ _ move => exact move.routine_eq_none_iff
  | claim _ _ ordinary => exact iff_of_true rfl ordinary
  | claimDetached _ _ _ detached =>
    refine iff_of_false (Option.some_ne_none _) ?_
    rw [detached]
    exact Option.some_ne_none _
  | stopLeases => exact Iff.rfl

end Ordinary

/-! ## From attempts to Executions -/

section Lifting

def Execution.AllAttempts (Holds : Attempt D → Prop) (execution : Execution D) : Prop :=
  ∀ number attempt, execution.attempt? number = some attempt → Holds attempt

def Execution.AttemptsContinue (Related : Attempt D → Attempt D → Prop)
    (execution next : Execution D) : Prop :=
  ∀ number attempt, execution.attempt? number = some attempt →
    ∃ later, next.attempt? number = some later ∧ Related attempt later

section

variable {Related : Attempt D → Attempt D → Prop}

theorem Execution.AttemptsContinue.refl
    (reflexive : ∀ attempt, Related attempt attempt) (execution : Execution D) :
    execution.AttemptsContinue Related execution :=
  fun _ attempt found => ⟨attempt, found, reflexive attempt⟩

theorem Execution.AttemptsContinue.trans (transitive : ∀ {first second third},
      Related first second → Related second third → Related first third)
    {first second third : Execution D} (earlier : first.AttemptsContinue Related second)
    (later : second.AttemptsContinue Related third) :
    first.AttemptsContinue Related third := by
  intro number attempt found
  obtain ⟨middle, isMiddle, before⟩ := earlier number attempt found
  obtain ⟨last, isLast, after⟩ := later number middle isMiddle
  exact ⟨last, isLast, transitive before after⟩

end

structure Attempt.IsNew (attempt : Attempt D) : Prop where
  status : attempt.status = .queued ∨ attempt.status = .running
  events : attempt.events = []
  terminal : attempt.terminalRequestDigest = none ∧ attempt.terminalReceipt = none
  stopped : attempt.stoppedRequestDigest = none
  session : attempt.sessionRequestDigest = none ∧ attempt.sessionReceipt = none
  leased : attempt.lease = none ∨ ∃ (terms : GrantTerms D) (profile : Uuid) (scope : ScopeKey),
    attempt.lease = some (terms.lease profile scope) ∨
      attempt.lease = some (terms.acquire (terms.lease profile scope))

theorem fresh_isNew (generation : Nat) :
    (Attempt.fresh .queued generation : Attempt D).IsNew :=
  ⟨.inl rfl, rfl, ⟨rfl, rfl⟩, rfl, ⟨rfl, rfl⟩, .inl rfl⟩

theorem Execution.attempt?_stopLeases (execution : Execution D) (profile : Uuid) (number : Nat) :
    (execution.stopLeases profile).attempt? number =
      (execution.attempt? number).map fun attempt => attempt.stopLease profile :=
  Table.lookup_updateAll _ _ _

@[simp] theorem stopLease_hasUnresolvedLease (attempt : Attempt D) (profile : Uuid) :
    (attempt.stopLease profile).hasUnresolvedLease = attempt.hasUnresolvedLease := by
  cases held : attempt.lease with
  | none => simp [Attempt.stopLease, Attempt.hasUnresolvedLease, held]
  | some =>
    simp only [Attempt.stopLease, Attempt.hasUnresolvedLease, held, Option.map_some,
      Option.any_some]
    split
    · next stops => rw [stops.2]; rfl
    · rfl

theorem Execution.attempt?_nextNumber (execution : Execution D) :
    execution.attempt? execution.attempts.nextNumber = none :=
  Table.lookup_nextNumber _

variable {execution : Execution D}

theorem Born.allAttempts {call : Call D} (Holds : Attempt D → Prop)
    (created : ∀ attempt, attempt.IsNew → Holds attempt) (born : Born call execution) :
    execution.AllAttempts Holds := by
  intro number attempt found
  cases born with
  | ordinary _ unclaimed => simp [unclaimed] at found
  | routine _ generation _ only =>
    rw [only number] at found
    split at found
    · cases found
      exact created _ (fresh_isNew generation)
    · cases found

theorem attempt?_write_cases {number other : Nat} {found : Attempt D}
    (isFound : (execution.write number attempt status routine).attempt? other = some found) :
    (other = number ∧ found = attempt) ∨
      (other ≠ number ∧ execution.attempt? other = some found) := by
  rw [attempt?_write] at isFound
  split at isFound
  · next same =>
    cases isFound
    exact .inl ⟨same, rfl⟩
  · next different => exact .inr ⟨different, isFound⟩

variable [DecidableEq D] {env : Env D} {call : Call D} {db : Db D} {id : Uuid}
  {execution next : Execution D}

theorem Change.allAttempts (Holds : Attempt D → Prop)
    (change : Change env call db id execution next)
    (created : ∀ attempt, attempt.IsNew → Holds attempt)
    (stopped : ∀ attempt profile, Holds attempt → Holds (attempt.stopLease profile))
    (moved : ∀ number attempt later status routine, execution.attempt? number = some attempt →
      Move env call db id execution number attempt later status routine →
      Holds attempt → Holds later)
    (all : execution.AllAttempts Holds) :
    next.AllAttempts Holds := by
  intro number attempt found
  cases change with
  | move _ former _ status routine isFormer move =>
    rcases attempt?_write_cases found with ⟨rfl, rfl⟩ | ⟨_, same⟩
    · exact moved _ former _ status routine isFormer move (all _ former isFormer)
    · exact all number attempt same
  | claim terms =>
    rcases attempt?_write_cases found with ⟨rfl, rfl⟩ | ⟨_, same⟩
    · exact created _ ⟨.inr rfl, rfl, ⟨rfl, rfl⟩, rfl, ⟨rfl, rfl⟩,
        .inr ⟨terms, execution.profile, .main, .inl rfl⟩⟩
    · exact all number attempt same
  | claimDetached terms routine =>
    rcases attempt?_write_cases found with ⟨rfl, rfl⟩ | ⟨_, same⟩
    · exact created _ ⟨.inr rfl, rfl, ⟨rfl, rfl⟩, rfl, ⟨rfl, rfl⟩,
        .inr ⟨terms, execution.profile, .routine routine.routineId, .inr rfl⟩⟩
    · exact all number attempt same
  | stopLeases profile =>
    rw [Execution.attempt?_stopLeases, Option.map_eq_some_iff] at found
    obtain ⟨former, isFormer, rfl⟩ := found
    exact stopped former profile (all number former isFormer)

theorem Change.attemptsContinue (Related : Attempt D → Attempt D → Prop)
    (reflexive : ∀ attempt, Related attempt attempt) (change : Change env call db id execution next)
    (stopped : ∀ attempt profile, Related attempt (attempt.stopLease profile))
    (moved : ∀ number attempt later status routine, execution.attempt? number = some attempt →
      Move env call db id execution number attempt later status routine →
      Related attempt later) :
    execution.AttemptsContinue Related next := by
  intro number attempt found
  cases change with
  | move other _ later status routine isFormer move =>
    by_cases same : number = other
    · subst same
      cases found.symm.trans isFormer
      exact ⟨later, by simp, moved number attempt later status routine found move⟩
    · exact ⟨attempt, by rw [attempt?_write_ne _ _ _ _ _ _ same]; exact found,
        reflexive attempt⟩
  | claim | claimDetached =>
    have different : number ≠ execution.attempts.nextNumber := by
      rintro rfl
      rw [execution.attempt?_nextNumber] at found
      cases found
    exact ⟨attempt, by rw [attempt?_write_ne _ _ _ _ _ _ different]; exact found,
      reflexive attempt⟩
  | stopLeases profile =>
    refine ⟨attempt.stopLease profile, ?_, stopped attempt profile⟩
    rw [Execution.attempt?_stopLeases, found]
    rfl

end Lifting

end Foundry
