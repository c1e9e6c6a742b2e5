import Foundry.Evolution.Retirement

/-!
# Claims

A claim first reconciles expired leases, then grants at most one candidate.
-/

set_option autoImplicit false

namespace Foundry

open Population Raise

variable {D : Type} [DecidableEq D]

section

variable (env : Env D) (call : Call D) (start db next : Db D)

omit [DecidableEq D] in
theorem candidate_taken (now : Instant) (workspace : Workspace) (profile : RuntimeProfile D)
    (execution : Execution D) (taken : candidate env now workspace profile execution db = .taken) :
    execution.statusAllowsClaim = true ∧ execution.attemptAllowsClaim = true ∧
      db.hasUnresolvedLease execution.profile execution.scopeKey = false ∧
      profile.lifecycleState = .active := by
  simp only [candidate] at taken
  split at taken
  · cases taken
  · next eligible =>
    split at taken
    · cases taken
    · next ready =>
      simp only [profileIsClaimReady, decide_eq_false_iff_not, not_not] at ready
      split at taken
      · split at taken <;> cases taken
      · split at taken
        · cases taken
        · next free =>
          split at taken
          · cases taken
          · next queued =>
            exact ⟨by simpa using eligible, by simpa using queued, by simpa using free,
              ready.1⟩

/-- The Execution after a grant, whether or not the lease was free. -/
def Grant.execution : Grant D → Execution D
  | .abandoned execution => execution
  | .granted _ _ execution => execution

omit [DecidableEq D] in
theorem move_eq [DecidableEq D] {id : Uuid} {execution after same : Execution D}
    (change : Change env call start id execution after) (equal : after = same) :
    Change env call start id execution same :=
  equal ▸ change

section

variable (terms : GrantTerms D) (id : Uuid) {execution : Execution D}

theorem grantRoutine_change {routine : RoutineExecution}
    (service : call.operation.service = .claimNextExecution)
    (has : execution.routine = some routine) (eligible : execution.statusAllowsClaim = true)
    (resumable : execution.attemptAllowsClaim = true) :
    Change env call start id execution (grantRoutine terms routine execution).execution := by
  cases current : routine.currentAttempt with
  | none =>
    have same : (grantRoutine terms routine execution).execution =
        execution.write execution.attempts.nextNumber
          (((Attempt.fresh .running terms.generation).resumed terms).setLease
            (terms.acquire (terms.lease execution.profile (.routine routine.routineId))))
          .running
          (some { routine with
            status := .working
            generation := terms.generation
            currentAttempt := some execution.attempts.nextNumber }) := by
      simp only [grantRoutine, current]
      exact write_write execution _ _ _ _ _ _ _
    rw [same]
    exact .claimDetached terms routine service has current
  | some number =>
    have isCurrent : execution.routineAt number = some routine := by simp [has, current]
    simp only [Execution.attemptAllowsClaim, has, Option.bind_some, current,
      Option.any_eq_true, decide_eq_true_eq] at resumable
    obtain ⟨attempt, found, queued⟩ := resumable
    simp only [grantRoutine, current, Option.getD_some, Option.bind_some, found]
    cases held : attempt.lease with
    | none =>
      refine move_eq env call start (.move number attempt _ _ _ found (.resume terms routine _ service isCurrent
        eligible queued (.inl ⟨held, rfl⟩))) ?_
      exact (write_write execution _ _ _ _ _ _ _).symm
    | some lease =>
      dsimp only
      split
      · next unresolved =>
        exact .move number attempt _ _ _ found (.abandon terms routine lease service isCurrent
          eligible queued held unresolved)
      · next resolved =>
        refine move_eq env call start (.move number attempt _ _ _ found (.resume terms routine _ service isCurrent
          eligible queued (.inr ⟨lease, held, by simpa using resolved, rfl⟩))) ?_
        exact (write_write execution _ _ _ _ _ _ _).symm

theorem grant_change {result : Grant D} (service : call.operation.service = .claimNextExecution)
    (eligible : execution.statusAllowsClaim = true)
    (resumable : execution.attemptAllowsClaim = true) (grants : grant terms execution = result) :
    Change env call start id execution result.execution := by
  subst grants
  cases has : execution.routine with
  | some routine =>
    simp only [grant, has]
    exact grantRoutine_change env call start terms id service has eligible
      resumable
  | none =>
    have queued : execution.status = .queued := by
      simpa [Execution.statusAllowsClaim, has] using eligible
    have same : (grant terms execution).execution =
        execution.write execution.attempts.nextNumber
          (Attempt.claimed terms execution.profile) .running none := by
      simp only [grant, has]
      rw [← has]
      rfl
    rw [same]
    exact .claim terms service has queued

end

structure Granted (terms : GrantTerms D) (execution : Execution D) (number : Nat)
    (lease : Lease D) (attempt : Attempt D) : Prop where
  numbered : number = execution.claimNumber
  held : attempt.lease = some lease
  running : attempt.status = .running
  generation : attempt.machineGeneration = terms.generation
  active : lease.state = .active
  expiry : lease.expiresAt = terms.now + seconds leaseSeconds
  leaseGeneration : lease.machineGeneration = terms.generation
  claimed : lease.claimId = some terms.claimId
  /-- A new attempt of ordinary work, a routine's attempt without a lease, or the next
  leg of a routine. -/
  source :
    (execution.routine = none ∧ execution.attempt? number = none ∧
        attempt = .claimed terms execution.profile) ∨
    (∃ routine former, execution.routine = some routine ∧
        (execution.attempt? number = some former ∨
          execution.attempt? number = none ∧ former = .fresh .running terms.generation) ∧
        attempt = (former.resumed terms).setLease lease ∧
        (former.lease = none ∧
            lease = terms.acquire (terms.lease execution.profile (.routine routine.routineId)) ∨
          ∃ before, former.lease = some before ∧ before.state.isUnresolved = false ∧
            lease = terms.acquire (terms.renewedLease before)))

omit [DecidableEq D] in
theorem grant_granted (terms : GrantTerms D) (execution after : Execution D) (number : Nat)
    (lease : Lease D) (grants : grant terms execution = .granted number lease after) :
    ∃ attempt, Granted terms execution number lease attempt ∧
      after.status = .running ∧
      after.attempt? number = some attempt ∧
      ∀ other, other ≠ number → after.attempt? other = execution.attempt? other := by
  simp only [grant] at grants
  split at grants
  · next ordinary =>
    simp only [grantOrdinary, Grant.granted.injEq] at grants
    obtain ⟨rfl, rfl, rfl⟩ := grants
    refine ⟨Attempt.claimed terms execution.profile, ?_, rfl, ?_, ?_⟩
    · have number : execution.attempts.nextNumber = execution.claimNumber := by
        simp [Execution.claimNumber, ordinary]
      exact ⟨number, rfl, rfl, rfl, rfl, rfl, rfl, rfl,
        .inl ⟨ordinary, Table.lookup_nextNumber _, rfl⟩⟩
    · exact AList.lookup_insert _
    · intro other different
      exact AList.lookup_insert_ne different
  · next routine has =>
    have numbered : routine.currentAttempt.getD execution.attempts.nextNumber =
        execution.claimNumber := by
      simp [Execution.claimNumber, has]
    have source : execution.attempt? execution.claimNumber =
          some ((routine.currentAttempt.bind execution.attempt?).getD
            (.fresh .running terms.generation)) ∨
        execution.attempt? execution.claimNumber = none ∧
          (routine.currentAttempt.bind execution.attempt?).getD
            (.fresh .running terms.generation) = .fresh .running terms.generation := by
      rw [← numbered]
      cases current : routine.currentAttempt with
      | none => exact .inr ⟨Table.lookup_nextNumber _, rfl⟩
      | some number =>
        simp only [Option.getD_some, Option.bind_some]
        cases execution.attempt? number with
        | none => exact .inr ⟨rfl, rfl⟩
        | some => exact .inl rfl
    simp only [grantRoutine, numbered] at grants
    generalize (routine.currentAttempt.bind execution.attempt?).getD
      (.fresh .running terms.generation) = former at grants source
    split at grants
    · next unleased =>
      simp only [Grant.granted.injEq] at grants
      obtain ⟨rfl, rfl, rfl⟩ := grants
      refine ⟨_, ⟨rfl, rfl, rfl, rfl, rfl, rfl, rfl, rfl,
        .inr ⟨routine, former, has, source, rfl, .inl ⟨unleased, rfl⟩⟩⟩, rfl,
        AList.lookup_insert _, ?_⟩
      intro other different
      exact (AList.lookup_insert_ne different).trans (AList.lookup_insert_ne different)
    · next before leased =>
      split at grants
      · cases grants
      · next resolved =>
        simp only [Grant.granted.injEq] at grants
        obtain ⟨rfl, rfl, rfl⟩ := grants
        refine ⟨_, ⟨rfl, rfl, rfl, rfl, rfl, rfl, rfl, rfl,
          .inr ⟨routine, former, has, source, rfl,
            .inr ⟨before, leased, by simpa using resolved, rfl⟩⟩⟩, rfl,
          AList.lookup_insert _, ?_⟩
        intro other different
        exact (AList.lookup_insert_ne different).trans (AList.lookup_insert_ne different)

omit [DecidableEq D] in
theorem Db.mem_attempts (id : AttemptId) (execution : Execution D) (attempt : Attempt D) :
    (id, execution, attempt) ∈ db.attempts ↔
      db.executions.lookup id.execution = some execution ∧
        execution.attempt? id.number = some attempt := by
  simp only [Db.attempts, List.mem_flatMap, List.mem_map, Prod.mk.injEq]
  constructor
  · rintro ⟨⟨_, _⟩, stored, ⟨_, _⟩, found, rfl, rfl, rfl⟩
    exact ⟨(Table.mem_rows _ _ _).mp stored, (Table.mem_rows _ _ _).mp found⟩
  · rintro ⟨stored, found⟩
    exact ⟨(id.execution, execution), (Table.mem_rows _ _ _).mpr stored, (id.number, attempt),
      (Table.mem_rows _ _ _).mpr found, rfl, rfl, rfl⟩

omit [DecidableEq D] in
theorem replayClaim_unused
    {now : Instant} {workspaceId : Uuid} {workspace : Workspace} {claimId : Uuid}
    (unknown : replayClaim env now workspaceId workspace claimId db = none) :
    db.ClaimUnused claimId := by
  simp only [replayClaim] at unknown
  split at unknown
  · cases unknown
  · next noAttempt =>
    split at unknown
    · cases unknown
    · next noAcquisition =>
      intro id execution number attempt stored found
      have listed := (db.mem_attempts ⟨id, number⟩ execution attempt).mpr ⟨stored, found⟩
      simp only [Db.attemptByClaim, List.find?_eq_none, decide_eq_true_eq] at noAttempt
      simp only [Db.acquisitionByClaim, List.findSome?_eq_none_iff, Option.bind_eq_none_iff,
        Option.map_eq_none_iff, List.find?_eq_none, decide_eq_true_eq] at noAcquisition
      refine ⟨noAttempt _ listed, ?_⟩
      cases held : attempt.lease with
      | none => simp [Attempt.acquisitionClaims, held]
      | some lease =>
        simp only [Attempt.acquisitionClaims, held, Option.map_some, Option.getD_some,
          List.mem_map, not_exists, not_and]
        exact noAcquisition _ listed lease held

theorem abandoned_move {terms : GrantTerms D} (id : Uuid) {execution started : Execution D}
    (service : call.operation.service = .claimNextExecution)
    (eligible : execution.statusAllowsClaim = true)
    (resumable : execution.attemptAllowsClaim = true)
    (abandons : grant terms execution = .abandoned started) :
    ∃ number attempt status routine,
      execution.attempt? number = some attempt ∧
      Move env call start id execution number attempt (attempt.resumed terms) status routine ∧
      attempt.hasUnresolvedLease = true ∧
      started = execution.write number (attempt.resumed terms) status routine := by
  simp only [grant] at abandons
  split at abandons
  · cases abandons
  · next routine has =>
    simp only [grantRoutine] at abandons
    split at abandons
    · cases abandons
    · next lease held =>
      split at abandons
      · next unresolved =>
        cases current : routine.currentAttempt with
        | none => simp [current, Attempt.fresh] at held
        | some number =>
          have isCurrent : execution.routineAt number = some routine := by
            simp [has, current]
          simp only [Execution.attemptAllowsClaim, has, Option.bind_some, current,
            Option.any_eq_true, decide_eq_true_eq] at resumable
          obtain ⟨attempt, found, queued⟩ := resumable
          simp only [current, Option.bind_some, found, Option.getD_some] at held
          simp only [current, Option.bind_some, found, Option.getD_some,
            Grant.abandoned.injEq] at abandons
          refine ⟨number, attempt, _, _, found, .abandon terms routine lease service
            isCurrent eligible queued held unresolved, ?_, abandons.symm⟩
          simp [Attempt.hasUnresolvedLease, held, unresolved]
      · cases abandons

omit [DecidableEq D] in
theorem Attempt.keepsClaim_resumed (terms : GrantTerms D) (attempt : Attempt D) :
    attempt.KeepsClaim (attempt.resumed terms) :=
  ⟨rfl, rfl, fun lease held unresolved => ⟨lease, held, unresolved, rfl, rfl⟩⟩

omit [DecidableEq D] in
theorem Db.ClaimUnused.of_write (claimId : Uuid) (id : AttemptId) (execution : Execution D)
    (attempt moved : Attempt D) (status : ExecutionStatus) (routine : Option RoutineExecution)
    (unused : db.ClaimUnused claimId) (stored : db.executions.lookup id.execution = some execution)
    (found : execution.attempt? id.number = some attempt) (keeps : attempt.KeepsClaim moved) :
    (db.putExecution id.execution
      (execution.write id.number moved status routine)).ClaimUnused claimId := by
  intro other theirs number row listed isRow
  obtain ⟨_, rfl⟩ | ⟨_, listed⟩ := Table.cases_insert listed
  · rw [attempt?_write] at isRow
    split at isRow
    · cases isRow
      rw [keeps.claim, keeps.acquisitions]
      exact unused id.execution execution id.number attempt stored found
    · exact unused id.execution execution number row stored isRow
  · exact unused other theirs number row listed isRow

theorem claimCandidates_evolution
    (context : RuntimeContext) (workspace : Workspace) (claimId : Uuid) (slots : Nat)
    (candidates : List Uuid) (passed : Passed) (claim : Option Claim)
    (asked : call.operation = .claimNextExecution context claimId slots)
    (unused : db.ClaimUnused claimId)
    (success : claimCandidates env call.now context.workspace workspace claimId candidates passed
      db = .ok (claim, next)) :
    Evolution env call start db next := by
  have service : call.operation.service = .claimNextExecution := by rw [asked]; rfl
  induction candidates generalizing passed db with
  | nil =>
    simp only [claimCandidates, bind_eq_ok, return_eq_ok] at success
    obtain ⟨_, _, _, rfl⟩ := success
    exact .refl db
  | cons executionId _ ih =>
    simp only [claimCandidates] at success
    split at success
    · exact ih db passed unused success
    · next execution found =>
      rw [Option.filter_eq_some_iff] at found
      split at success
      · exact ih db passed unused success
      · next profile owns =>
        rw [Option.filter_eq_some_iff] at owns
        split at success
        · exact ih db _ unused success
        · exact ih db _ unused success
        · exact ih db _ unused success
        · exact ih db _ unused success
        · next taken =>
          obtain ⟨eligible, resumable, free, active⟩ := candidate_taken env db call.now
            workspace profile execution taken
          split at success
          · next abandons =>
            obtain ⟨number, attempt, status, routine, isAttempt, move, unresolved, rfl⟩ :=
              abandoned_move env call start executionId service eligible
                resumable abandons
            have keeps := fun terms => Attempt.keepsClaim_resumed terms attempt
            have first : Evolution env call start db _ :=
              .single (.move ⟨executionId, number⟩ execution attempt _ status routine
                found.1 isAttempt move (.inr (keeps _)) (.inl unresolved))
            exact first.trans (ih _ passed
              (unused.of_write db claimId ⟨executionId, number⟩ execution attempt _ status
                routine found.1 isAttempt (keeps _)) success)
          · next grants =>
            have changed := grant_change env call start _ executionId
              service eligible resumable grants
            simp only [bind_eq_ok, require_eq_ok, return_eq_ok] at success
            obtain ⟨_, token, _, rfl⟩ := success
            exact .single (.grant context slots _ executionId execution _ _ _ asked
              found.1 (by simpa using found.2) grants changed unused free token
              ⟨profile, owns.1, active⟩)

theorem claimNextExecution_evolution
    (context : RuntimeContext) (claimId : Uuid) (availableSlots : Nat) (claim : Option Claim)
    (asked : call.operation = .claimNextExecution context claimId availableSlots)
    (success : claimNextExecution env call.now context claimId availableSlots db =
      .ok (claim, next)) :
    Evolution env call db db next := by
  simp only [claimNextExecution, bind_eq_ok] at success
  obtain ⟨workspace, _, reconciled, reconciles, success⟩ := success
  have first := reconcileExpiredLeases_evolution env call db db reconciled (by rw [asked]; rfl) reconciles
  split at success
  · simp only [bind_eq_ok, return_eq_ok] at success
    obtain ⟨_, _, _, rfl⟩ := success
    exact first
  · next unknown =>
    exact first.trans (claimCandidates_evolution env call db reconciled next context workspace
      claimId availableSlots _ _ claim asked
      (replayClaim_unused env reconciled unknown)
      success)

end

end Foundry
