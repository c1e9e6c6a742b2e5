import Foundry.Evolution.Routines

/-!
# Retiring leases

The three loops that retire leases without the runtime: the reconciliation of
expired leases inside a claim, the fence after a Machine stop, and the fence of a
profile's cleanup.
-/

set_option autoImplicit false

namespace Foundry

open Raise

variable {D : Type} [DecidableEq D]

section

variable (env : Env D) (call : Call D) (start db next : Db D)

/-! ## Expired leases -/

omit [DecidableEq D] in
omit [DecidableEq D] in
@[simp] theorem applyOption_lease (attempt : Attempt D) (outcome : Option (Append D)) :
    (Append.applyOption attempt outcome).lease = attempt.lease := by
  rcases outcome with _ | _ | _ <;> rfl

def Attempt.StoresAll (attempt : Attempt D) (outcomes : List (Append D)) : Prop :=
  ∀ event ∈ outcomes.map Append.event, attempt.findEvent event.eventId = some event

theorem expiryFailure_cases {id : AttemptId} {cleanupPending : Bool} {attempt failed : Attempt D}
    {failures : List (Append D)}
    (success : expiryFailure env call.now id cleanupPending attempt = .ok (failures, failed)) :
    ∃ failure, failed = Append.applyOption attempt failure ∧ failed.StoresAll failures ∧
      ∀ event, failure = some (.appended event) → ExpiryEvent attempt event := by
  simp only [expiryFailure] at success
  split at success
  · cases success
    exact ⟨none, rfl, by simp [Attempt.StoresAll], by simp⟩
  · simp only [bind_eq_ok, return_eq_ok] at success
    obtain ⟨_, decided, rfl, rfl⟩ := success
    simp only [leaseExpiredFailure] at decided
    split at decided
    · next existing known =>
      simp only [bind_eq_ok, pure_eq_ok] at decided
      obtain ⟨_, _, rfl⟩ := decided
      have named := (attempt.findEvent_eq_some known).2
      rw [← named] at known
      exact ⟨some (.replayed existing), rfl, List.forall_mem_singleton.mpr known, by simp⟩
    · next unknown =>
      simp only [bind_eq_ok, require_eq_ok, pure_eq_ok] at decided
      obtain ⟨_, bounded, rfl⟩ := decided
      refine ⟨some (.appended _), rfl,
        List.forall_mem_singleton.mpr (attempt.findEvent_store unknown), ?_⟩
      rintro _ ⟨⟩
      exact ⟨unknown, rfl, bounded, rfl⟩

section Claims

variable (attempt : Attempt D) (lease : Lease D) (now : Instant) (isRoutine : Bool)
  (state : LeaseState)

omit [DecidableEq D] in
theorem retireCurrent_claims :
    (lease.retireCurrent now).acquisitions.map RoutineLeaseAcquisition.claimId =
      lease.acquisitions.map RoutineLeaseAcquisition.claimId := by
  simp only [Lease.retireCurrent, List.map_map]
  refine List.map_congr_left fun acquisition _ => ?_
  simp only [Function.comp_apply]
  split <;> rfl

omit [DecidableEq D] in
theorem expire_claims :
    (lease.expire now isRoutine state).acquisitions.map RoutineLeaseAcquisition.claimId =
      lease.acquisitions.map RoutineLeaseAcquisition.claimId := by
  cases isRoutine with
  | false => rfl
  | true => exact retireCurrent_claims lease now

omit [DecidableEq D] in
@[simp] theorem expire_state : (lease.expire now isRoutine state).state = state := by
  cases isRoutine <;> rfl

omit [DecidableEq D] in
theorem acquisitionClaims_expireLease :
    (attempt.expireLease now isRoutine state).acquisitionClaims = attempt.acquisitionClaims := by
  cases held : attempt.lease with
  | none => simp [Attempt.acquisitionClaims, Attempt.expireLease, held]
  | some lease =>
    simp only [Attempt.acquisitionClaims, Attempt.expireLease, held, Option.map_some,
      Option.getD_some]
    exact expire_claims lease now isRoutine state

omit [DecidableEq D] in
theorem acquisitionClaims_releaseUnresolved :
    (attempt.releaseUnresolved now).acquisitionClaims = attempt.acquisitionClaims := by
  cases held : attempt.lease with
  | none => simp [Attempt.acquisitionClaims, Attempt.releaseUnresolved, held]
  | some lease =>
    simp only [Attempt.acquisitionClaims, Attempt.releaseUnresolved, held, Option.map_some,
      Option.getD_some]
    split
    · exact retireCurrent_claims lease now
    · rfl

omit [DecidableEq D] in
theorem expiresAt_expire :
    (lease.expire now isRoutine state).expiresAt = lease.expiresAt := by
  cases isRoutine <;> rfl

omit [DecidableEq D] in
theorem expiresAt_releaseUnresolved :
    (attempt.releaseUnresolved now).lease.map Lease.expiresAt =
      attempt.lease.map Lease.expiresAt := by
  cases held : attempt.lease with
  | none => simp [Attempt.releaseUnresolved, held]
  | some =>
    simp only [Attempt.releaseUnresolved, held, Option.map_some, Option.some.injEq]
    split <;> rfl

/-- What expiry makes of an attempt: it keeps its claims, and its lease is resolved. -/
structure Attempt.Expires (attempt moved : Attempt D) : Prop where
  keeps : attempt.KeepsClaim moved
  generation : moved.machineGeneration = attempt.machineGeneration
  settles : ∀ lease, attempt.lease = some lease → ∃ later, moved.lease = some later ∧
    later.state.isUnresolved = false ∧ later.expiresAt = lease.expiresAt

omit [DecidableEq D] in
theorem expires_of_expireLease {moved : Attempt D} {before : Option (Lease D)}
    (claim : moved.claimId = attempt.claimId)
    (generation : moved.machineGeneration = attempt.machineGeneration)
    (claims : moved.acquisitionClaims = attempt.acquisitionClaims)
    (expired : moved.lease = before.map fun lease => lease.expire now isRoutine state)
    (same : before.map Lease.expiresAt = attempt.lease.map Lease.expiresAt)
    (resolved : state.isUnresolved = false) : attempt.Expires moved := by
  refine ⟨⟨claim, claims, ?_⟩, generation, ?_⟩
  · intro final held unresolved
    rw [expired, Option.map_eq_some_iff] at held
    obtain ⟨_, _, rfl⟩ := held
    rw [expire_state, resolved] at unresolved
    cases unresolved
  · intro lease held
    rw [held, Option.map_some, Option.map_eq_some_iff] at same
    obtain ⟨former, isFormer, expiry⟩ := same
    exact ⟨_, expired.trans (by rw [isFormer]; rfl), (congrArg _ (expire_state ..)).trans resolved,
      (expiresAt_expire former now isRoutine state).trans expiry⟩

omit [DecidableEq D] in
theorem acquisitionClaims_applyOption (outcome : Option (Append D)) :
    (Append.applyOption attempt outcome).acquisitionClaims = attempt.acquisitionClaims := by
  simp [Attempt.acquisitionClaims]

omit [DecidableEq D] in
theorem claimId_applyOption (outcome : Option (Append D)) :
    (Append.applyOption attempt outcome).claimId = attempt.claimId := by
  rcases outcome with _ | _ | _ <;> rfl

omit [DecidableEq D] in
theorem generation_applyOption (outcome : Option (Append D)) :
    (Append.applyOption attempt outcome).machineGeneration = attempt.machineGeneration := by
  rcases outcome with _ | _ | _ <;> rfl

end Claims

theorem retireExpired_move
    {id : AttemptId} {drawn : Uuid} {cleanupPending : Bool} {state : LeaseState}
    {execution : Execution D} {attempt : Attempt D} {lease : Lease D} {reconciled : Reconciled D}
    (service : call.operation.service = .claimNextExecution)
    (held : attempt.lease = some lease) (unresolved : lease.state.isUnresolved = true)
    (resolved : state.isUnresolved = false)
    (success : retireExpired env call.now id drawn cleanupPending state attempt execution =
      .ok reconciled) :
    ∃ moved status routine,
      Move env call start id.execution execution id.number attempt moved status routine ∧
      reconciled.execution = execution.write id.number moved status routine ∧
      attempt.Expires moved ∧ moved.StoresAll reconciled.events := by
  simp only [retireExpired] at success
  split at success
  · next isOpen =>
    simp only [bind_eq_ok] at success
    obtain ⟨⟨failures, failed⟩, decided, ⟨result, _⟩, ended, success⟩ := success
    obtain ⟨failure, rfl, stores, appends⟩ :=
      expiryFailure_cases env call decided
    simp only [expiryResult] at ended
    split at ended
    · next terminal =>
      cases ended
      simp only [attempt?_setAttempt_same, orRaise_some, Except.ok.injEq] at success
      obtain ⟨_, rfl, success⟩ := success
      split at success
      · next impossible => cases impossible
      · cases success
        refine ⟨_, _, _, .retire lease (execution.routineAt id.number).isSome state failure
          service terminal held unresolved isOpen resolved appends,
          write_write execution id.number _ _ _ _ _ _, ?_, stores⟩
        exact expires_of_expireLease attempt call.now _ state
          (claimId_applyOption attempt failure) (generation_applyOption attempt failure)
          ((acquisitionClaims_expireLease _ call.now _ state).trans
            (acquisitionClaims_applyOption attempt failure)) rfl (by simp) resolved
    · next unfinished =>
      simp only [bind_eq_ok, return_eq_ok] at ended
      obtain ⟨⟨_, _⟩, ended, rfl, rfl⟩ := ended
      obtain ⟨routine, number, _, event, isCurrent, isAttempt, rfl, result, rfl⟩ :=
        recordTerminalFailureResult_cases ended
      have current : execution.routineAt number = some routine := isCurrent
      cases before : execution.routineAt id.number with
      | none => simp [before] at unfinished
      | some =>
        obtain ⟨rfl, rfl⟩ := execution.routineAt_unique before current
        rw [attempt?_setAttempt_same, Option.some.injEq] at isAttempt
        subst isAttempt
        simp only [before, attempt?_write_same, orRaise_some, Except.ok.injEq,
          pure_eq_ok] at success
        obtain ⟨_, rfl, success⟩ := success
        subst success
        refine ⟨_, _, _, .retireRoutine routine lease state failure event service before held
          unresolved isOpen resolved appends result, ?_, ?_, ?_⟩
        · simp only [setAttempt_write, write_status, ite_self]
          exact write_write execution id.number _ _ _ _ _ _
        · refine expires_of_expireLease attempt call.now _ state
            (claimId_applyOption attempt failure) (generation_applyOption attempt failure) ?_
            rfl
            ((expiresAt_releaseUnresolved _ call.now).trans
              (congrArg (Option.map Lease.expiresAt) (applyOption_lease attempt failure)))
            resolved
          calc _ = ((Append.applyOption attempt failure).endWithResult call.now .failed
                    event).acquisitionClaims :=
                  acquisitionClaims_expireLease _ call.now _ state
            _ = (Append.applyOption attempt failure).acquisitionClaims :=
                  acquisitionClaims_releaseUnresolved _ call.now
            _ = attempt.acquisitionClaims := acquisitionClaims_applyOption attempt failure
        · intro known listed
          rw [List.map_append, List.mem_append] at listed
          rcases listed with earlier | last
          · exact Attempt.findEvent_store_of_some _ event known known.eventId
              (stores known earlier)
          · rw [List.mem_singleton.mp last]
            exact Attempt.findEvent_store _ result.unknown
  · next notOpen =>
    cases success
    refine ⟨_, _, _, .close lease (execution.routineAt id.number).isSome state service held
      unresolved (by simpa using notOpen) resolved, rfl, ?_, by simp [Attempt.StoresAll]⟩
    exact expires_of_expireLease attempt call.now _ state rfl rfl
      (acquisitionClaims_expireLease attempt call.now _ state) rfl rfl resolved

omit [DecidableEq D] in
theorem expiryVerdict_replayable
    {workspace : Workspace} {profile : RuntimeProfile D} {number : Nat} {execution : Execution D}
    {attempt : Attempt D} {lease : Lease D} (replayable :
      (expiryVerdict env call.now workspace profile number execution attempt lease).replayable =
        true) :
    attempt.status.isOpen = true ∧ hasReplayCheckpoint execution attempt = false := by
  simp only [expiryVerdict] at replayable
  split at replayable
  · cases replayable
  · simp only [decide_eq_true_eq] at replayable
    exact ⟨replayable.1, replayable.2.2.2.2.2⟩

omit [DecidableEq D] in
theorem replayExpired_move
    (id : AttemptId) {execution : Execution D} {attempt : Attempt D} {lease : Lease D}
    [DecidableEq D] (service : call.operation.service = .claimNextExecution)
    (held : attempt.lease = some lease) (unresolved : lease.state.isUnresolved = true)
    (isOpen : attempt.status.isOpen = true)
    (unstarted : hasReplayCheckpoint execution attempt = false) :
    ∃ moved status routine,
      Move env call start id.execution execution id.number attempt moved status routine ∧
      replayExpired call.now id.number attempt lease execution =
        execution.write id.number moved status routine ∧
      attempt.Expires moved := by
  have claims : ∀ isRoutine, (attempt.setLease (lease.expire call.now isRoutine
      .released)).acquisitionClaims = attempt.acquisitionClaims := by
    intro isRoutine
    have expired := acquisitionClaims_expireLease attempt call.now isRoutine .released
    simpa [Attempt.acquisitionClaims, Attempt.expireLease, Attempt.setLease, held] using expired
  simp only [replayExpired]
  split
  · next ordinary =>
    exact ⟨_, _, _, .requeue lease service ordinary held unresolved isOpen unstarted, rfl,
      expires_of_expireLease attempt call.now false .released rfl rfl
        (claims false) rfl (by rw [held]) rfl⟩
  · next routine current =>
    exact ⟨_, _, _, .requeueRoutine routine lease service current held unresolved isOpen
      unstarted, rfl, expires_of_expireLease attempt call.now true .released rfl
        rfl (claims true) rfl (by rw [held]) rfl⟩

theorem reconcileExpiredLease_move
    {workspace : Workspace} {profile : RuntimeProfile D} {id : AttemptId} {drawn : Uuid}
    {execution : Execution D} {attempt : Attempt D} {lease : Lease D} {reconciled : Reconciled D}
    (service : call.operation.service = .claimNextExecution)
    (held : attempt.lease = some lease) (unresolved : lease.state.isUnresolved = true)
    (success : reconcileExpiredLease env call.now workspace profile id drawn attempt lease
      execution = .ok reconciled) :
    ∃ moved status routine,
      Move env call start id.execution execution id.number attempt moved status routine ∧
      reconciled.execution = execution.write id.number moved status routine ∧
      attempt.Expires moved ∧ moved.StoresAll reconciled.events := by
  simp only [reconcileExpiredLease] at success
  split at success
  · next replayable =>
    obtain ⟨isOpen, unstarted⟩ := expiryVerdict_replayable env call replayable
    cases success
    obtain ⟨moved, status, routine, move, same, expires⟩ := replayExpired_move env call start id service held unresolved isOpen unstarted
    exact ⟨moved, status, routine, move, same, expires, by simp [Attempt.StoresAll]⟩
  · refine retireExpired_move env call start
      service held unresolved ?_ success
    split <;> rfl

section

variable {workspaceId : Uuid} {workspace : Workspace}

theorem reconcileOne_evolution {id : AttemptId}
    (service : call.operation.service = .claimNextExecution)
    (success : reconcileOne env call.now workspaceId workspace db id = .ok next) :
    Evolution env call start db next := by
  simp only [reconcileOne] at success
  split at success
  · simp only [pure_eq_ok] at success
    exact success ▸ .refl db
  · next execution attempt found =>
    obtain ⟨stored, isAttempt, _⟩ := (Db.attemptIn_eq_some _ _ _ _ _).mp found
    split at success
    · next profile lease _ isStale =>
      rw [Option.filter_eq_some_iff] at isStale
      have unresolved : lease.state.isUnresolved = true := by
        have stale := isStale.2
        simp only [Lease.isStale, decide_eq_true_eq] at stale
        exact stale.1
      simp only [bind_eq_ok, pure_eq_ok] at success
      obtain ⟨reconciled, success, deliveries, publishes, rfl⟩ := success
      obtain ⟨moved, status, routine, move, same, expires, stores⟩ :=
        reconcileExpiredLease_move env call start service isStale.1 unresolved success
      rw [same]
      exact (Evolution.draw db).trans (.settledAppend id execution attempt moved status routine
        (reconciled.events.map Append.event) deliveries stored isAttempt move (.inr expires.keeps)
        stores (by rw [publishEvents, List.foldlM_map]; exact publishes))
    · simp only [pure_eq_ok] at success
      exact success ▸ .refl db

theorem reconcileExpiredLeases_evolution (service : call.operation.service = .claimNextExecution)
    (success : reconcileExpiredLeases env call.now workspaceId workspace db = .ok next) :
    Evolution env call start db next :=
  foldlM_relates (Evolution env call start) .refl .trans _ _ db next
    (fun id _ state after pass => reconcileOne_evolution env call start state after service pass)
    success

end

/-! ## The fence after a Machine stop -/

omit [DecidableEq D] in
theorem fenceLease_eq_write
    (number : Nat) (attempt : Attempt D) (lease : Lease D) (execution : Execution D) :
    fenceLease number attempt lease execution =
      execution.write number (attempt.fence lease) (execution.statusAfterFence attempt)
        execution.routine := by
  by_cases isOpen : attempt.status.isOpen = true
  · simp only [fenceLease, Execution.statusAfterFence, Attempt.fence, isOpen, if_true, true_and]
    rfl
  · simp only [fenceLease, Execution.statusAfterFence, Attempt.fence, isOpen]
    rfl

section

variable (workspaceId : Uuid) (source target : Nat) (machineRef : Option String)

theorem fenceOne_evolution {fenced requeued fenced' requeued' : Nat} {id : AttemptId}
    (asked : call.operation =
      .confirmMachineStoppedAndFence workspaceId source target machineRef)
    (gates : fenceGates workspaceId source target machineRef start = .ok ())
    (listed : id ∈ start.staleGenerationLeases workspaceId source)
    (success : fenceOne call.now (db, fenced, requeued) id = .ok (next, fenced', requeued')) :
    Evolution env call start db next := by
  simp only [fenceOne] at success
  split at success
  · simp at success
  · next execution attempt found =>
    obtain ⟨stored, isAttempt⟩ := (Db.attempt?_eq_some _ _ _ _).mp found
    split at success
    · simp at success
    · next lease held =>
      split at success
      · next unresolved =>
        cases success
        rw [fenceLease_eq_write]
        exact .settledAppend id execution attempt _ _ _ [] db.deliveries stored isAttempt
          (.fence workspaceId source target machineRef lease asked gates listed held
            unresolved)
          (.inl (by simp [asked, Operation.service])) (by simp) rfl
      · simp only [return_eq_ok] at success
        exact success.1 ▸ .refl db

theorem confirmMachineStoppedAndFence_evolution (receipt : FenceReceipt) (asked : call.operation =
      .confirmMachineStoppedAndFence workspaceId source target machineRef)
    (success : confirmMachineStoppedAndFence call.now workspaceId source target machineRef db =
      .ok (receipt, next)) :
    Evolution env call db db next := by
  simp only [confirmMachineStoppedAndFence, bind_eq_ok, return_eq_ok] at success
  obtain ⟨_, gates, ⟨_, _⟩, loop, _, rfl⟩ := success
  exact foldlM_relates
    (fun first second : Db D × Nat × Nat => Evolution env call db first.1 second.1)
    (fun state => .refl state.1) (fun earlier later => earlier.trans later) _ _ _ _
    (fun id listed state after pass => fenceOne_evolution env call db state.1 after.1 workspaceId
      source target machineRef asked gates listed pass)
    loop

end

/-! ## The fence of a cleanup -/

theorem fenceProfileLease_move
    {id : AttemptId} {drawn profileId : Uuid} {execution fenced : Execution D}
    {attempt : Attempt D} {lease : Lease D} {result : Option (Append D)}
    (asked : call.operation.cleanupProfile = some profileId)
    (listed : id ∈ start.unresolvedLeasesOf profileId)
    (found : execution.attempt? id.number = some attempt)
    (held : attempt.lease = some lease) (unresolved : lease.state.isUnresolved = true)
    (success : fenceProfileLease env call.now id drawn execution = .ok (result, fenced)) :
    ∃ moved status routine,
      Move env call start id.execution execution id.number attempt moved status routine ∧
      fenced = execution.write id.number moved status routine ∧
      moved.StoresAll result.toList ∧ ∀ outcome ∈ result, ∃ event, outcome = .appended event := by
  simp only [fenceProfileLease, bind_eq_ok] at success
  obtain ⟨⟨_, _⟩, ended, success⟩ := success
  simp only [profileFenceResult] at ended
  split at ended
  · next terminal =>
    cases ended
    simp only [found, orRaise_some, Except.ok.injEq] at success
    obtain ⟨_, rfl, success⟩ := success
    split at success
    · next impossible => cases impossible
    · cases success
      refine ⟨_, _, _, .cleanup profileId lease (execution.routineAt id.number).isSome asked
        listed terminal held unresolved, ?_, by simp [Attempt.StoresAll], by simp⟩
      simp only [Option.isSome_none, Bool.or_false]
      rfl
  · next unfinished =>
    simp only [bind_eq_ok, return_eq_ok] at ended
    obtain ⟨⟨_, _⟩, ended, rfl, rfl⟩ := ended
    obtain ⟨routine, _, _, event, current, isAttempt, rfl, isResult, rfl⟩ :=
      recordTerminalFailureResult_cases ended
    cases before : execution.routineAt id.number with
    | none => simp [before] at unfinished
    | some =>
      obtain ⟨rfl, rfl⟩ := execution.routineAt_unique before current
      cases found.symm.trans isAttempt
      simp only [before, attempt?_write_same, orRaise_some, Except.ok.injEq, return_eq_ok] at success
      obtain ⟨_, rfl, rfl, rfl⟩ := success
      refine ⟨_, _, _, .cleanupRoutine profileId routine lease event asked listed before held
        unresolved isResult, ?_,
        List.forall_mem_singleton.mpr (attempt.findEvent_store isResult.unknown),
        by simp⟩
      simp only [Option.isSome_some, Bool.or_true, if_true]
      exact write_write execution id.number _ _ _ _ _ _

/-- The attempt of this identifier holds an unresolved lease. -/
def Db.HoldsUnresolved (db : Db D) (id : AttemptId) : Prop :=
  ∃ execution attempt lease, db.executions.lookup id.execution = some execution ∧
    execution.attempt? id.number = some attempt ∧ attempt.lease = some lease ∧
    lease.state.isUnresolved = true

omit [DecidableEq D] in
theorem Db.HoldsUnresolved.of_write (id other : AttemptId) (execution : Execution D)
    (moved : Attempt D) (status : ExecutionStatus) (routine : Option RoutineExecution)
    (stored : db.executions.lookup id.execution = some execution) (executions : next.executions =
      db.executions.insert id.execution (execution.write id.number moved status routine))
    (different : other ≠ id) (holds : db.HoldsUnresolved other) :
    next.HoldsUnresolved other := by
  obtain ⟨theirs, attempt, lease, found, isAttempt, held, unresolved⟩ := holds
  by_cases same : other.execution = id.execution
  · have otherNumber : other.number ≠ id.number := by
      intro sameNumber
      apply different
      cases other
      cases id
      simp_all
    rw [same, stored, Option.some.injEq] at found
    subst found
    refine ⟨_, attempt, lease, by rw [executions, same, AList.lookup_insert], ?_, held, unresolved⟩
    rw [attempt?_write_ne _ _ _ _ _ _ otherNumber]
    exact isAttempt
  · refine ⟨theirs, attempt, lease, ?_, isAttempt, held, unresolved⟩
    rw [executions, AList.lookup_insert_ne same]
    exact found

omit [DecidableEq D] in
theorem enqueueFenceResult_eq (id : AttemptId) (execution : Execution D) (attempt : Attempt D)
    (result : Option (Append D)) (deliveries : Table DeliveryId ExecutionEventDelivery)
    (appended : ∀ outcome ∈ result, ∃ event, outcome = .appended event) :
    enqueueFenceResult env id execution attempt result deliveries =
      publishEvents env id execution attempt (result.toList.map Append.event) deliveries := by
  cases result with
  | none => rfl
  | some outcome =>
    obtain ⟨_, rfl⟩ := appended outcome rfl
    simp [publishEvents, enqueueFenceResult, enqueueAppended, Append.event]

omit [DecidableEq D] in
theorem cleanup_notClaim (profileId : Uuid)
    (asked : call.operation.cleanupProfile = some profileId) :
    call.operation.service ≠ .claimNextExecution := by
  intro claims
  cases operation : call.operation <;> rw [operation] at asked claims <;>
    simp [Operation.cleanupProfile, Operation.service] at asked claims

theorem fenceProfileOne_evolution (profileId : Uuid) (id : AttemptId)
    (asked : call.operation.cleanupProfile = some profileId)
    (listed : id ∈ start.unresolvedLeasesOf profileId) (waiting : db.HoldsUnresolved id)
    (success : fenceProfileOne env call.now profileId db id = .ok next) :
    Evolution env call start db next ∧
      ∀ other, other ≠ id → db.HoldsUnresolved other → next.HoldsUnresolved other := by
  simp only [fenceProfileOne] at success
  split at success
  · cases success
    exact ⟨.refl db, fun _ _ holds => holds⟩
  · next execution attempt found =>
    rw [Option.filter_eq_some_iff] at found
    obtain ⟨stored, isAttempt⟩ := (Db.attempt?_eq_some _ _ _ _).mp found.1
    obtain ⟨_, _, lease, isStored, isSame, held, unresolved⟩ := waiting
    cases stored.symm.trans isStored
    cases isAttempt.symm.trans isSame
    simp only [bind_eq_ok, pure_eq_ok] at success
    obtain ⟨⟨result, retired⟩, fences, deliveries, publishes, rfl⟩ := success
    obtain ⟨moved, status, routine, move, rfl, stores, appended⟩ := fenceProfileLease_move env
      call start asked listed isAttempt held
      unresolved fences
    rw [enqueueFenceResult_eq env id execution attempt result _ appended] at publishes
    refine ⟨(Evolution.draw db).trans (.settledAppend id execution attempt moved status routine
      (result.toList.map Append.event) deliveries stored isAttempt move
      (.inl (cleanup_notClaim call profileId asked)) stores publishes), ?_⟩
    intro other different holds
    exact holds.of_write db _ id other execution moved status routine stored rfl different

omit [DecidableEq D] in
theorem Db.mem_unresolvedLeasesOf (profileId : Uuid) (id : AttemptId) :
    id ∈ db.unresolvedLeasesOf profileId ↔
      ∃ execution attempt lease, db.executions.lookup id.execution = some execution ∧
        execution.attempt? id.number = some attempt ∧ attempt.lease = some lease ∧
        lease.profile = profileId ∧ lease.state.isUnresolved = true := by
  simp only [Db.unresolvedLeasesOf, List.mem_map, List.mem_filter, decide_eq_true_eq]
  constructor
  · rintro ⟨⟨_, lease⟩, ⟨member, ofProfile, unresolved⟩, rfl⟩
    obtain ⟨execution, attempt, stored, found, held⟩ := (db.mem_leases _ _).mp member
    exact ⟨execution, attempt, lease, stored, found, held, ofProfile, unresolved⟩
  · rintro ⟨execution, attempt, lease, stored, found, held, ofProfile, unresolved⟩
    exact ⟨(id, lease), ⟨(db.mem_leases _ _).mpr ⟨execution, attempt, stored, found, held⟩,
      ofProfile, unresolved⟩, rfl⟩

theorem fenceProfileLeases_evolution (profileId : Uuid)
    (asked : call.operation.cleanupProfile = some profileId)
    (same : db.executions = start.executions)
    (success : fenceProfileLeases env call.now profileId db = .ok next) :
    Evolution env call start db next := by
  have lists : db.unresolvedLeasesOf profileId = start.unresolvedLeasesOf profileId := by
    simp only [Db.unresolvedLeasesOf, Db.leases, same]
  have distinct : (db.unresolvedLeasesOf profileId).Nodup :=
    db.nodup_leases.sublist (List.filter_sublist.map Prod.fst)
  refine foldlM_relates_waiting (Evolution env call start) (fun id db => db.HoldsUnresolved id)
    .refl .trans _ _ distinct db next ?_ ?_ success
  · intro id listed
    obtain ⟨execution, attempt, lease, stored, found, held, _, unresolved⟩ :=
      (db.mem_unresolvedLeasesOf profileId id).mp listed
    exact ⟨execution, attempt, lease, stored, found, held, unresolved⟩
  · intro id listed state after waiting pass
    exact fenceProfileOne_evolution env call start state after profileId id asked (lists ▸ listed)
      waiting pass

end

end Foundry
