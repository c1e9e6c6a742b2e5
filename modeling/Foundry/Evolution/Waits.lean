import Foundry.Evolution.RoutineRows

/-!
# Waits and ends of a routine

While a routine waits for an approval its lease is resolved, and so it is after the
routine has ended; a stored result or a sealed acquisition belongs to a routine that
has ended.  One operation breaks this: an approval granted after the routine's end,
of an action its result left pending, puts the routine back to work.
-/

set_option autoImplicit false

namespace Foundry

variable {D : Type}

/-! ## Sealed acquisitions -/

def Lease.isSealed (lease : Lease D) : Bool :=
  lease.acquisitions.any fun acquisition => acquisition.terminalReceipt.isSome

def Attempt.isSealed (attempt : Attempt D) : Bool :=
  attempt.lease.any Lease.isSealed

section Sealed

variable (lease : Lease D) (attempt : Attempt D) (now : Instant)

theorem isSealed_of_map (next : Lease D)
    (change : RoutineLeaseAcquisition D → RoutineLeaseAcquisition D)
    (same : next.acquisitions = lease.acquisitions.map change)
    (keeps : ∀ acquisition, (change acquisition).terminalReceipt = acquisition.terminalReceipt) :
    next.isSealed = lease.isSealed := by
  rw [Lease.isSealed, same, List.any_map]
  simp [Lease.isSealed, Function.comp_def, keeps]

@[simp] theorem retireCurrent_isSealed : (lease.retireCurrent now).isSealed = lease.isSealed := by
  refine isSealed_of_map lease _ _ rfl fun acquisition => ?_
  split <;> rfl

@[simp] theorem close_isSealed (state : LeaseState) :
    (lease.close now state).isSealed = lease.isSealed :=
  retireCurrent_isSealed lease now

@[simp] theorem expire_isSealed (isRoutine : Bool) (state : LeaseState) :
    (lease.expire now isRoutine state).isSealed = lease.isSealed := by
  cases isRoutine
  · rfl
  · exact close_isSealed lease now state

@[simp] theorem bindSession_isSealed [DecidableEq D] (tokenDigest requestDigest : D)
    (sessionId : String) :
    (lease.bindSession tokenDigest requestDigest sessionId).isSealed = lease.isSealed := by
  refine isSealed_of_map lease _ _ rfl fun acquisition => ?_
  split <;> rfl

@[simp] theorem acquire_isSealed (terms : GrantTerms D) :
    (terms.acquire lease).isSealed = lease.isSealed := by
  simp [Lease.isSealed, GrantTerms.acquire]

@[simp] theorem renewedLease_isSealed (terms : GrantTerms D) :
    (terms.renewedLease lease).isSealed = lease.isSealed :=
  retireCurrent_isSealed lease terms.now

@[simp] theorem setLease_isSealed : (attempt.setLease lease).isSealed = lease.isSealed := rfl

theorem isSealed_of_held {lease : Lease D} {attempt : Attempt D}
    (held : attempt.lease = some lease) : attempt.isSealed = lease.isSealed := by
  rw [Attempt.isSealed, held]
  rfl

@[simp] theorem expireLease_isSealed (isRoutine : Bool) (state : LeaseState) :
    (attempt.expireLease now isRoutine state).isSealed = attempt.isSealed := by
  simp only [Attempt.isSealed, Attempt.expireLease]
  cases attempt.lease <;> simp

@[simp] theorem stopLease_isSealed (profile : Uuid) :
    (attempt.stopLease profile).isSealed = attempt.isSealed := by
  cases held : attempt.lease with
  | none => simp [Attempt.isSealed, Attempt.stopLease, held]
  | some =>
    simp only [Attempt.isSealed, Attempt.stopLease, held, Option.map_some, Option.any_some]
    split <;> rfl

end Sealed

/-! ## Late approvals -/

/-- No approval is granted for an action of a routine that has ended. -/
def NoLateApproval (call : Call D) (_db : Db D) (id : Uuid) (execution : Execution D) : Prop :=
  ∀ command number routine action, call.operation = .decideRoutineApproval command →
    command.attempt = ⟨id, number⟩ → command.decision = .approve →
    execution.routineAt number = some routine → action ∈ routine.actions →
    action.status = .pending → call.now < action.expiresAt → routine.status.isTerminal = false

theorem NoLateApproval.of_service {call : Call D} {db : Db D} {id : Uuid}
    {execution : Execution D} (other : call.operation.service ≠ .decideRoutineApproval) :
    NoLateApproval call db id execution := by
  intro command number routine action asked
  rw [asked] at other
  exact absurd rfl other

/-! ## The invariant -/

structure RoutineRests (_status : ExecutionStatus) (routine : RoutineExecution)
    (attempt : Attempt D) : Prop where
  waits : routine.hasAction .pending = true → attempt.hasUnresolvedLease = false ∧
    (routine.status.isTerminal = false → attempt.status = .approvalWaiting)
  ends : routine.status.isTerminal = true → attempt.hasUnresolvedLease = false
  results : ∀ event ∈ attempt.events, event.eventType = .routineResult →
    routine.status.isTerminal = true
  seals : attempt.isSealed = true → routine.status.isTerminal = true

def Attempt.NoResult (attempt : Attempt D) : Prop :=
  ∀ event ∈ attempt.events, event.eventType ≠ .routineResult

theorem Attempt.NoResult.store {attempt : Attempt D} (none : attempt.NoResult)
    {event : ExecutionEvent D} (other : event.eventType ≠ .routineResult) :
    (attempt.store event).NoResult := by
  intro stored member
  rcases List.mem_append.mp member with old | new
  · exact none stored old
  · rw [List.mem_singleton.mp new]
    exact other

namespace RoutineRests

variable {status : ExecutionStatus} {routine : RoutineExecution} {attempt : Attempt D}

theorem of_ended (ended : routine.status.isTerminal = true)
    (free : attempt.hasUnresolvedLease = false) : RoutineRests status routine attempt where
  waits := fun _ => ⟨free, fun unfinished => absurd ended (by rw [unfinished]; decide)⟩
  ends := fun _ => free
  results := fun _ _ _ => ended
  seals := fun _ => ended

theorem of_live (unfinished : routine.status.isTerminal = false)
    (settled : routine.hasAction .pending = false) (noResult : attempt.NoResult)
    (unsealed : attempt.isSealed = false) : RoutineRests status routine attempt where
  waits := fun pending => absurd pending (by rw [settled]; decide)
  ends := fun ended => absurd ended (by rw [unfinished]; decide)
  results := fun event member kind => absurd kind (noResult event member)
  seals := fun isSealed => absurd isSealed (by rw [unsealed]; decide)

section

variable (rests : RoutineRests status routine attempt)

include rests

theorem unsealed (unfinished : routine.status.isTerminal = false) :
    attempt.NoResult ∧ attempt.isSealed = false := by
  constructor
  · intro event member kind
    have ended := rests.results event member kind
    rw [unfinished] at ended
    cases ended
  · rw [← Bool.not_eq_true]
    intro isSealed
    have ended := rests.seals isSealed
    rw [unfinished] at ended
    cases ended

theorem of_leased (leased : attempt.hasUnresolvedLease = true) :
    routine.status.isTerminal = false ∧ routine.hasAction .pending = false := by
  constructor <;> rw [← Bool.not_eq_true]
  · intro ended
    rw [rests.ends ended] at leased
    cases leased
  · intro pending
    rw [(rests.waits pending).1] at leased
    cases leased

theorem stopLease (profile : Uuid) :
    RoutineRests status routine (attempt.stopLease profile) := by
  refine ⟨fun pending => ?_, fun ended => ?_, rests.results, fun isSealed => ?_⟩
  · obtain ⟨free, waiting⟩ := rests.waits pending
    exact ⟨by simpa using free, waiting⟩
  · simpa using rests.ends ended
  · exact rests.seals (by simpa using isSealed)

end

end RoutineRests

section

variable [DecidableEq D] {env : Env D} {call : Call D} {db : Db D} {id : Uuid}
  {execution next : Execution D} {number : Nat} {attempt later : Attempt D}
  {status : ExecutionStatus} {routine : RoutineExecution}

omit [DecidableEq D] in
theorem unfinished_of_statusAllowsClaim (has : execution.routine = some routine)
    (eligible : execution.statusAllowsClaim = true) : routine.status.isTerminal = false := by
  rw [Execution.statusAllowsClaim, has] at eligible
  cases current : routine.status <;> simp_all [RoutineRunStatus.isTerminal]

theorem Move.rests {next : RoutineExecution}
    (move : Move env call db id execution number attempt later status (some next))
    (rows : RoutineOf execution routine number attempt)
    (rests : RoutineRests execution.status routine attempt)
    (timely : NoLateApproval call db id execution) :
    RoutineRests status next later := by
  -- Under an unresolved lease the routine is at work, and stays so unless it ends.
  have live : attempt.hasUnresolvedLease = true → routine.status.isTerminal = false ∧
      routine.hasAction .pending = false ∧ attempt.NoResult ∧ attempt.isSealed = false := by
    intro leased
    obtain ⟨unfinished, settled⟩ := rests.of_leased leased
    exact ⟨unfinished, settled, rests.unsealed unfinished⟩
  have same : execution.routine = some next → next = routine :=
    fun has => Option.some.inj (has.symm.trans rows.has)
  generalize written : some next = routine' at move
  cases move with
  | append _ _ _ _ held active _ _ _ kind =>
    obtain rfl := same written.symm
    obtain ⟨unfinished, settled, noResult, unsealed⟩ :=
      live (hasUnresolvedLease_of_active held active)
    exact .of_live unfinished settled (noResult.store (kinds_of_isReported kind).2) unsealed
  | renew _ _ _ held active =>
    obtain rfl := same written.symm
    obtain ⟨unfinished, settled, noResult, unsealed⟩ :=
      live (hasUnresolvedLease_of_active held active)
    exact .of_live unfinished settled noResult ((isSealed_of_held held).symm.trans unsealed)
  | mutate _ _ _ _ _ _ held active =>
    obtain rfl := same written.symm
    obtain ⟨unfinished, settled, noResult, unsealed⟩ :=
      live (hasUnresolvedLease_of_active held active)
    exact .of_live unfinished settled noResult unsealed
  | bindRoutineSession other _ _ _ _ _ current held active =>
    obtain rfl := rows.same other current
    cases written
    obtain ⟨unfinished, settled, noResult, unsealed⟩ :=
      live (hasUnresolvedLease_of_active held active)
    rw [isSealed_of_held held] at unsealed
    exact .of_live unfinished settled noResult (by simpa using unsealed)
  | stopRoutine =>
    cases written
    exact .of_ended (by rw [endWithResult_status]; rfl) (by simp)
  | record _ outcome | recordSealed _ _ outcome =>
    cases written
    exact .of_ended (by rw [endWithResult_status]; exact outcome.runStatus_isTerminal) (by simp)
  | sealReplay _ _ _ _ _ _ known _ _ _ _ _ stored kind =>
    obtain rfl := same written.symm
    have ended := rests.results known stored kind
    exact .of_ended ended (by simpa using rests.ends ended)
  | requestApproval other lease _ event _ _ _ _ held unresolved _ _ _ _ kind =>
    cases written
    obtain ⟨_, _, noResult, unsealed⟩ :=
      live (hasUnresolvedLease_of_held held unresolved)
    have other : event.eventType ≠ .routineResult := by rw [kind]; decide
    have stillNone := noResult.store other
    rw [isSealed_of_held held] at unsealed
    refine ⟨fun _ => ⟨rfl, fun _ => rfl⟩, fun ended => (by cases ended), ?_, ?_⟩
    · intro known member result
      exact absurd result (stillNone known member)
    · intro isSealed
      have kept : (lease.close call.now .released).isSealed = true := isSealed
      rw [close_isSealed, unsealed] at kept
      cases kept
  | approve command other action decisionDigest asked target granted current listed pending
      unexpired =>
    have unfinished := timely command number other action asked target granted current listed
      pending unexpired
    obtain rfl := rows.same other current
    cases written
    obtain ⟨noResult, unsealed⟩ := rests.unsealed unfinished
    exact .of_live rfl (authorize_settles rows.onePending action listed pending decisionDigest).1
      noResult unsealed
  | endWait _ _ _ _ _ ending =>
    cases written
    exact .of_ended (ends_of_waitEnd ending).2.1 (by simp)
  | fence _ _ _ _ _ _ _ _ held unresolved =>
    obtain rfl := same written.symm
    obtain ⟨unfinished, settled, noResult, unsealed⟩ :=
      live (hasUnresolvedLease_of_held held unresolved)
    exact .of_live unfinished settled noResult ((isSealed_of_held held).symm.trans unsealed)
  | requeueRoutine other lease _ current held unresolved =>
    obtain rfl := rows.same other current
    cases written
    obtain ⟨_, settled, noResult, unsealed⟩ :=
      live (hasUnresolvedLease_of_held held unresolved)
    rw [isSealed_of_held held] at unsealed
    refine .of_live rfl settled noResult ?_
    exact (close_isSealed lease call.now .released).trans unsealed
  | close _ _ _ _ held unresolved =>
    obtain rfl := same written.symm
    obtain ⟨unfinished, settled, noResult, unsealed⟩ :=
      live (hasUnresolvedLease_of_held held unresolved)
    exact .of_live unfinished settled noResult (by simpa using unsealed)
  | retire _ _ _ _ _ ordinary held unresolved | cleanup _ _ _ _ _ ordinary held unresolved =>
    have unfinished := (live (hasUnresolvedLease_of_held held unresolved)).1
    rw [rows.isCurrent, Option.all_some, unfinished] at ordinary
    cases ordinary
  | retireRoutine _ _ _ _ _ _ _ _ _ _ resolved =>
    cases written
    exact .of_ended rfl (expireLease_hasUnresolvedLease _ _ _ _ resolved)
  | cleanupRoutine =>
    cases written
    exact .of_ended rfl (expireLease_hasUnresolvedLease _ _ _ _ rfl)
  | resume _ other _ _ current eligible queued source =>
    obtain rfl := rows.same other current
    cases written
    have unfinished := unfinished_of_statusAllowsClaim rows.has eligible
    obtain ⟨noResult, unsealed⟩ := rests.unsealed unfinished
    refine .of_live rfl ?_ noResult ?_
    · rw [← Bool.not_eq_true]
      intro pending
      have waiting := (rests.waits pending).2 unfinished
      rw [queued] at waiting
      cases waiting
    · rcases source with ⟨_, rfl⟩ | ⟨_, held, _, rfl⟩
      · rw [setLease_isSealed, acquire_isSealed]
        rfl
      · rw [isSealed_of_held held] at unsealed
        simpa using unsealed
  | abandon _ other _ _ current _ _ held unresolved =>
    obtain rfl := rows.same other current
    cases written
    obtain ⟨_, settled, noResult, unsealed⟩ :=
      live (hasUnresolvedLease_of_held held unresolved)
    exact .of_live rfl settled noResult unsealed
  | bindSession _ _ _ _ _ ordinary | finish _ _ _ _ _ _ _ ordinary =>
    exact absurd ordinary rows.ne_none
  | stop _ _ _ _ _ _ _ _ _ ordinary | requeue _ _ ordinary =>
    rw [rows.isCurrent] at ordinary
    cases ordinary

theorem Move.of_decision {written : Option RoutineExecution} (command : RoutineApprovalDecision)
    (asked : call.operation = .decideRoutineApproval command)
    (move : Move env call db id execution number attempt later status written)
    (rows : RoutineOf execution routine number attempt) :
    ∃ next, written = some next ∧
      (next.status.isTerminal = false ∨ next.hasAction .pending = false) := by
  have served : call.operation.service = .decideRoutineApproval := by
    rw [asked]
    rfl
  cases move with
  | approve =>
    exact ⟨_, rfl, .inl rfl⟩
  | endWait other action waitEnd event _ ending current listed pending =>
    obtain rfl := rows.same other current
    exact ⟨_, rfl, .inr (endWait_settles rows.onePending action listed pending waitEnd
      (ends_of_waitEnd ending).1 event)⟩
  | append _ _ service | renew _ _ service | bindSession _ _ _ _ service
  | bindRoutineSession _ _ _ _ _ service | requestApproval _ _ _ _ service | requeue _ service
  | requeueRoutine _ _ service | close _ _ _ service | retire _ _ _ _ service
  | retireRoutine _ _ _ _ _ service | resume _ _ _ service | abandon _ _ _ service =>
    rw [served] at service
    cases service
  | finish _ _ _ _ _ _ service =>
    rw [served] at service
    rcases service with other | other <;> cases other
  | mutate _ _ _ _ _ other | stop _ _ _ _ _ _ _ _ other
  | stopRoutine _ _ _ _ _ _ _ _ _ _ other | record _ _ _ other
  | recordSealed _ _ _ _ _ _ _ other | sealReplay _ _ _ _ _ _ _ other | fence _ _ _ _ _ other
  | cleanup _ _ _ other | cleanupRoutine _ _ _ _ other =>
    rw [asked] at other
    cases other

theorem Change.noLateApproval (change : Change env call db id execution next)
    {Holds : ExecutionStatus → RoutineExecution → Attempt D → Prop}
    (holds : execution.RoutineHolds Holds) : NoLateApproval call db id next := by
  intro command number routine action asked target granted current listed pending unexpired
  cases change with
  | move _ _ _ _ _ found move =>
    have has := ((Execution.routineAt_eq_some _ _ _).mp current).1
    have ofRoutine : execution.routine ≠ none := by
      intro ordinary
      rw [write_routine, move.routine_eq_none_iff.mpr ordinary] at has
      cases has
    obtain ⟨_, rows, _⟩ := holds.of_move ofRoutine found
    obtain ⟨next, rfl, unfinished | settled⟩ := move.of_decision command asked rows
    · obtain rfl : next = routine := Option.some.inj has
      exact unfinished
    · obtain rfl : next = routine := Option.some.inj has
      rw [hasAction_eq_false] at settled
      exact absurd pending (settled action listed)
  | claim _ service | claimDetached _ _ service =>
    rw [asked] at service
    cases service
  | stopLeases _ service =>
    rw [asked] at service
    rcases service with other | other <;> cases other

theorem Execution.RoutineHolds.rests (holds : execution.RoutineHolds RoutineRests)
    (timely : NoLateApproval call db id execution)
    (change : Change env call db id execution next) : next.RoutineHolds RoutineRests := by
  refine change.routineHolds RoutineRests ?_ ?_ holds
  · exact fun status routine attempt profile rests => rests.stopLease profile
  · intro number attempt later status routine next rows rests move
    exact move.rests rows rests timely

omit [DecidableEq D] in
theorem Born.rests (born : Born call execution) : execution.RoutineHolds RoutineRests := by
  refine born.routineHolds RoutineRests ?_
  intro routine generation unstarted noActions
  refine .of_live (by rw [unstarted]; rfl) ?_ ?_ rfl
  · rw [RoutineExecution.hasAction, noActions]
    rfl
  · intro event member
    cases member

omit [DecidableEq D] in
theorem Born.noLateApproval (born : Born call execution) : NoLateApproval call db id execution := by
  refine .of_service ?_
  cases born with
  | ordinary service => rcases service with same | same <;> rw [same] <;> decide
  | routine _ _ service => rw [service]; decide

end

end Foundry
