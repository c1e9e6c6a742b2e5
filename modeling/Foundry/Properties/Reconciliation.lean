import Foundry.Evolution.Expiry

/-!
# The durability of lease expiry

A claim reconciles the expired leases of its Workspace first, in the transaction that
then answers the claim.  What it reconciled is committed exactly when the answer does not
raise.
-/

set_option autoImplicit false

namespace Foundry

open Raise

variable {D : Type}

/-! ## The candidates of a claim -/

section Verdicts

variable (env : Env D) (now : Instant) (workspaceId : Uuid) (workspace : Workspace) (db : Db D)

def Db.verdict (executionId : Uuid) : Candidate :=
  match (db.executions.lookup executionId).filter fun execution =>
      execution.workspace = workspaceId with
  | none => .passed
  | some execution =>
    match (db.profiles.lookup execution.profile).filter fun profile =>
        profile.workspace = workspaceId with
    | none => .passed
    | some profile => candidate env now workspace profile execution db

def Db.taken (candidates : List Uuid) : Option Uuid :=
  candidates.find? fun id => db.verdict env now workspaceId workspace id = .taken

def Db.tokenUnused [DecidableEq D] (claimId executionId : Uuid) : Prop :=
  ∀ execution, db.executions.lookup executionId = some execution →
    db.tokenIsFree ⟨executionId, execution.claimNumber⟩ (env.digestLeaseToken
      (env.claimToken claimId ⟨executionId, execution.claimNumber⟩ workspace.machineGeneration)) =
      true

end Verdicts

def Passed.isClear (passed : Passed) : Prop :=
  passed.unreadyProfile = false ∧ passed.routineFenced = false ∧ passed.routineNotReady = false

theorem Passed.outcome_eq_ok (passed : Passed) : passed.outcome = .ok () ↔ passed.isClear := by
  simp [Passed.outcome, Passed.isClear]

section Candidates

variable [DecidableEq D] {env : Env D} {now : Instant} {workspaceId : Uuid}
  {workspace : Workspace} {db : Db D}

theorem grant_of_taken (held : db.ClaimsHeld) (terms : GrantTerms D) (executionId : Uuid)
    (execution : Execution D) (profile : RuntimeProfile D)
    (stored : db.executions.lookup executionId = some execution)
    (taken : candidate env now workspace profile execution db = .taken) :
    ∃ number lease granted, grant terms execution = .granted number lease granted := by
  obtain ⟨eligible, resumable, free, _⟩ := candidate_taken env db now workspace profile execution
    taken
  cases grants : grant terms execution with
  | granted number lease granted => exact ⟨number, lease, granted, rfl⟩
  | abandoned started =>
    obtain ⟨number, attempt, _, _, found, _, unresolved, _⟩ := abandoned_move env
      ⟨now, .claimNextExecution ⟨0, 0⟩ terms.claimId 1⟩ db executionId rfl eligible resumable grants
    obtain ⟨lease, isLease, pending⟩ := (Option.any_eq_true _ _).mp unresolved
    obtain ⟨owner, scope⟩ := (held.rows executionId execution stored).owned number attempt lease
      found isLease
    have present : db.attempt? ⟨executionId, number⟩ = some (execution, attempt) :=
      (Db.attempt?_eq_some _ _ _ _).mpr ⟨stored, found⟩
    have blocked := Db.hasUnresolvedLease_of_attempt present isLease pending
    rw [owner, scope, free] at blocked
    cases blocked

variable (env now workspaceId workspace db) in
def Db.LoopEnds (claimId : Uuid) (candidates : List Uuid) (passed : Passed) : Prop :=
  match db.taken env now workspaceId workspace candidates with
  | some id => db.tokenUnused env workspace claimId id
  | none => passed.isClear ∧ ∀ id ∈ candidates,
      db.verdict env now workspaceId workspace id = .passed

variable {executionId : Uuid}

omit [DecidableEq D] in
theorem Db.taken_cons (rest : List Uuid)
    (notTaken : db.verdict env now workspaceId workspace executionId ≠ .taken) :
    db.taken env now workspaceId workspace (executionId :: rest) =
      db.taken env now workspaceId workspace rest := by
  simp [Db.taken, notTaken]

theorem Db.loopEnds_cons (claimId executionId : Uuid) (rest : List Uuid) (passed after : Passed)
    (notTaken : db.verdict env now workspaceId workspace executionId ≠ .taken)
    (same : db.verdict env now workspaceId workspace executionId = .passed → after = passed)
    (unready : db.verdict env now workspaceId workspace executionId ≠ .passed → ¬ after.isClear) :
    db.LoopEnds env now workspaceId workspace claimId (executionId :: rest) passed ↔
      db.LoopEnds env now workspaceId workspace claimId rest after := by
  simp only [Db.LoopEnds, Db.taken_cons rest notTaken]
  cases db.taken env now workspaceId workspace rest with
  | some => exact Iff.rfl
  | none =>
    by_cases isPassed : db.verdict env now workspaceId workspace executionId = .passed
    · rw [same isPassed]
      simp [isPassed]
    · refine iff_of_false ?_ ?_
      · rintro ⟨_, all⟩
        exact isPassed (all executionId (List.mem_cons_self ..))
      · rintro ⟨isClear, _⟩
        exact unready isPassed isClear

theorem claimCandidates_succeeds_iff (held : db.ClaimsHeld) (claimId : Uuid)
    (candidates : List Uuid) (passed : Passed) :
    Succeeds (claimCandidates env now workspaceId workspace claimId candidates passed db) ↔
      db.LoopEnds env now workspaceId workspace claimId candidates passed := by
  induction candidates generalizing passed with
  | nil =>
    simp only [Succeeds, claimCandidates, bind_eq_ok, pure_eq_ok, Db.LoopEnds,
      Db.taken, List.find?_nil, List.not_mem_nil, false_implies, implies_true, and_true]
    constructor
    · rintro ⟨_, _, ends, _⟩
      exact passed.outcome_eq_ok.mp ends
    · exact fun isClear => ⟨_, (), passed.outcome_eq_ok.mpr isClear, rfl⟩
  | cons executionId rest ih =>
    simp only [claimCandidates]
    split
    · next absent =>
      have isPassed : db.verdict env now workspaceId workspace executionId = .passed := by
        simp only [Db.verdict, absent]
      rw [ih, db.loopEnds_cons claimId executionId rest passed passed (by simp [isPassed])
        (fun _ => rfl) (fun unready => absurd isPassed unready)]
    · next execution found =>
      split
      · next absent =>
        have isPassed : db.verdict env now workspaceId workspace executionId = .passed := by
          simp only [Db.verdict, found, absent]
        rw [ih, db.loopEnds_cons claimId executionId rest passed passed (by simp [isPassed])
          (fun _ => rfl) (fun unready => absurd isPassed unready)]
      · next profile owned =>
        have verdict : db.verdict env now workspaceId workspace executionId =
            candidate env now workspace profile execution db := by
          simp only [Db.verdict, found, owned]
        split
        · next decided =>
          rw [decided] at verdict
          rw [ih, db.loopEnds_cons claimId executionId rest passed passed
            (by simp [verdict]) (fun _ => rfl) (fun unready => absurd verdict unready)]
        · next decided =>
          rw [decided] at verdict
          rw [ih, db.loopEnds_cons claimId executionId rest passed
            { passed with unreadyProfile := true } (by simp [verdict]) (by simp [verdict])
            (by simp [Passed.isClear])]
        · next decided =>
          rw [decided] at verdict
          rw [ih, db.loopEnds_cons claimId executionId rest passed
            { passed with routineNotReady := true } (by simp [verdict]) (by simp [verdict])
            (by simp [Passed.isClear])]
        · next decided =>
          rw [decided] at verdict
          rw [ih, db.loopEnds_cons claimId executionId rest passed
            { passed with routineFenced := true } (by simp [verdict]) (by simp [verdict])
            (by simp [Passed.isClear])]
        · next taken =>
          rw [taken] at verdict
          rw [Option.filter_eq_some_iff] at found
          obtain ⟨_, _, _, grants⟩ := grant_of_taken held
            ⟨now, claimId, workspace.machineGeneration, env.digestLeaseToken
              (env.claimToken claimId ⟨executionId, execution.claimNumber⟩
                workspace.machineGeneration)⟩ executionId execution profile found.1 taken
          have first : db.taken env now workspaceId workspace (executionId :: rest) =
              some executionId := by
            simp [Db.taken, verdict]
          simp only [grants, Succeeds, bind_eq_ok, require_eq_ok, pure_eq_ok, Db.LoopEnds,
            first, Db.tokenUnused]
          constructor
          · rintro ⟨_, _, free, _⟩ _ isOther
            rw [found.1, Option.some.injEq] at isOther
            exact isOther ▸ free
          · intro unused
            exact ⟨_, (), unused execution found.1, rfl⟩

omit [DecidableEq D] in
theorem Db.candidate_of_verdict {execution : Execution D}
    (stored : db.executions.lookup executionId = some execution)
    (taken : db.verdict env now workspaceId workspace executionId = .taken) :
    ∃ profile, candidate env now workspace profile execution db = .taken := by
  simp only [Db.verdict, stored] at taken
  split at taken
  · cases taken
  · next found =>
    rw [Option.filter_eq_some_iff, Option.some.injEq] at found
    obtain ⟨rfl, _⟩ := found
    split at taken
    · cases taken
    · next profile _ => exact ⟨profile, taken⟩

section

variable (held : db.ClaimsHeld) (claimId : Uuid) (candidates : List Uuid) (passed : Passed)
  (answer : Option Claim) (next : Db D)
  (success : claimCandidates env now workspaceId workspace claimId candidates passed db = .ok (answer, next))

include held candidates passed answer success

/-- The loop leaves the rows alone, or ends with the first candidate it takes. -/
theorem claimCandidates_grants :
    (answer = none ∧ next = db) ∨
    ∃ claim executionId execution granted number lease, answer = some claim ∧
      db.taken env now workspaceId workspace candidates = some executionId ∧
      db.executions.lookup executionId = some execution ∧
      grant ⟨now, claimId, workspace.machineGeneration, env.digestLeaseToken
        (env.claimToken claimId ⟨executionId, execution.claimNumber⟩
          workspace.machineGeneration)⟩ execution = .granted number lease granted ∧
      claim.attempt = ⟨executionId, number⟩ ∧ next = db.putExecution executionId granted := by
  induction candidates generalizing passed with
  | nil =>
    simp only [claimCandidates, bind_eq_ok, return_eq_ok] at success
    obtain ⟨_, _, rfl, rfl⟩ := success
    exact .inl ⟨rfl, rfl⟩
  | cons executionId rest ih =>
    simp only [claimCandidates] at success
    split at success
    · next absent =>
      rw [Db.taken_cons rest (by simp [Db.verdict, absent])]
      exact ih _ success
    · next execution found =>
      split at success
      · next absent =>
        rw [Db.taken_cons rest (by simp [Db.verdict, found, absent])]
        exact ih _ success
      · next profile owned =>
        have verdict : db.verdict env now workspaceId workspace executionId =
            candidate env now workspace profile execution db := by
          simp only [Db.verdict, found, owned]
        split at success
        · next decided =>
          rw [Db.taken_cons rest (by simp [verdict, decided])]
          exact ih _ success
        · next decided =>
          rw [Db.taken_cons rest (by simp [verdict, decided])]
          exact ih _ success
        · next decided =>
          rw [Db.taken_cons rest (by simp [verdict, decided])]
          exact ih _ success
        · next decided =>
          rw [Db.taken_cons rest (by simp [verdict, decided])]
          exact ih _ success
        · next taken =>
          rw [Option.filter_eq_some_iff] at found
          obtain ⟨number, lease, granted, grants⟩ := grant_of_taken held
            ⟨now, claimId, workspace.machineGeneration, env.digestLeaseToken
              (env.claimToken claimId ⟨executionId, execution.claimNumber⟩
                workspace.machineGeneration)⟩ executionId execution profile found.1 taken
          simp only [grants, bind_eq_ok, return_eq_ok] at success
          obtain ⟨_, _, rfl, rfl⟩ := success
          refine .inr ⟨_, executionId, execution, granted, number, lease, rfl, ?_, found.1, grants,
            rfl, rfl⟩
          rw [Db.taken, List.find?_cons_of_pos (by simpa using verdict.trans taken)]

theorem claimCandidates_cases (id : AttemptId) (execution : Execution D) (attempt : Attempt D)
    (present : db.attempt? id = some (execution, attempt)) :
    ∃ later row, next.attempt? id = some (later, row) ∧
      (row = attempt ∨ ∃ lease, row.lease = some lease ∧ lease.claimId = some claimId ∧
        now < lease.expiresAt) := by
  rcases claimCandidates_grants held claimId candidates passed answer next success with
    ⟨_, rfl⟩ | ⟨_, executionId, owner, granted, number, lease, _, _, found, grants, _, rfl⟩
  · exact ⟨execution, attempt, present, .inl rfl⟩
  · obtain ⟨row, isGranted, _, isRow, others⟩ := grant_granted _ owner granted number lease grants
    rw [Db.attempt?_eq_some] at present
    by_cases sameExecution : id.execution = executionId
    · subst sameExecution
      rw [found, Option.some.injEq] at present
      obtain ⟨rfl, isAttempt⟩ := present
      by_cases sameNumber : id.number = number
      · subst sameNumber
        refine ⟨granted, row, ?_, .inr ⟨lease, isGranted.held, isGranted.claimed, ?_⟩⟩
        · rw [Db.attempt?_eq_some]
          exact ⟨AList.lookup_insert _, isRow⟩
        · rw [isGranted.expiry]
          exact Nat.lt_add_of_pos_right (by decide)
      · refine ⟨granted, attempt, ?_, .inl rfl⟩
        rw [Db.attempt?_eq_some]
        exact ⟨AList.lookup_insert _, (others _ sameNumber).trans isAttempt⟩
    · refine ⟨execution, attempt, ?_, .inl rfl⟩
      rw [Db.attempt?_eq_some]
      exact ⟨(AList.lookup_insert_ne sameExecution).trans present.1, present.2⟩

end

end Candidates

/-! ## Calls -/

section Calls

variable [DecidableEq D]

/-- The claim id can be answered on these rows: its replay is not refused, or it is new
and a candidate can be taken, or no candidate waits for readiness. -/
def Db.ClaimAnswered (env : Env D) (now : Instant) (workspaceId : Uuid) (workspace : Workspace)
    (claimId : Uuid) (db : Db D) : Prop :=
  match replayClaim env now workspaceId workspace claimId db with
  | some answer => Succeeds answer
  | none => db.LoopEnds env now workspaceId workspace claimId (db.candidates workspaceId)
      ⟨false, false, false⟩

/-- The lease of the attempt is resolved, or this claim has it now. -/
def Db.LeaseSettled (db : Db D) (now : Instant) (claimId : Uuid) (id : AttemptId) : Prop :=
  ∃ execution attempt, db.attempt? id = some (execution, attempt) ∧
    (attempt.hasUnresolvedLease = false ∨ ∃ lease, attempt.lease = some lease ∧
      lease.claimId = some claimId ∧ now < lease.expiresAt)

variable {env : Env D} {now : Instant} {context : RuntimeContext} {claimId : Uuid} {slots : Nat}
  {workspace : Workspace} {db : Db D}

theorem reconciled_claimsHeld (call : Call D) (workspaceId : Uuid) (reconciled : Db D)
    (service : call.operation.service = .claimNextExecution) (held : db.ClaimsHeld)
    (reconciles : reconcileExpiredLeases env call.now workspaceId workspace db = .ok reconciled) :
    reconciled.ClaimsHeld :=
  (reconcileExpiredLeases_evolution env call db db reconciled service
    reconciles).keeps Db.ClaimsHeld (fun _ _ write => write.claimsHeld) held

theorem claimNextExecution_succeeds_iff (held : db.ClaimsHeld)
    (passes : claimGates env now context slots db = .ok workspace) :
    Succeeds (claimNextExecution env now context claimId slots db) ↔
      ∃ reconciled,
        reconcileExpiredLeases env now context.workspace workspace db = .ok reconciled ∧
        reconciled.ClaimAnswered env now context.workspace workspace claimId := by
  simp only [claimNextExecution, passes, ok_bind]
  cases reconciles : reconcileExpiredLeases env now context.workspace workspace db with
  | error => simp [Succeeds]
  | ok reconciled =>
    have heldAfter : reconciled.ClaimsHeld :=
      reconciled_claimsHeld ⟨now, .claimNextExecution context claimId slots⟩ context.workspace
        reconciled rfl held reconciles
    simp only [ok_bind, Except.ok.injEq, exists_eq_left', Db.ClaimAnswered]
    cases known : replayClaim env now context.workspace workspace claimId reconciled with
    | some answer => cases answer <;> simp [Succeeds]
    | none => exact claimCandidates_succeeds_iff heldAfter claimId _ _

omit [DecidableEq D] in
theorem Db.not_settled_of_stale {id : AttemptId}
    (listed : id ∈ db.staleLeases context.workspace now) : ¬ db.LeaseSettled now claimId id := by
  obtain ⟨_, _, _, _, present, held, stale, _⟩ := Db.of_mem_staleLeases listed
  simp only [Lease.isStale, decide_eq_true_eq] at stale
  rintro ⟨_, _, isPresent, settled⟩
  rw [present, Option.some.injEq, Prod.mk.injEq] at isPresent
  obtain ⟨rfl, rfl⟩ := isPresent
  rcases settled with resolved | ⟨_, isLater, _, unexpired⟩
  · rw [hasUnresolvedLease_of_held held stale.1] at resolved
    cases resolved
  · cases held.symm.trans isLater
    exact absurd stale.2 (Nat.not_le_of_lt unexpired)

theorem claimNextExecution_settles (intact : db.Intact) (held : db.ClaimsHeld)
    (answer : Option Claim) (next : Db D) (id : AttemptId)
    (listed : id ∈ db.staleLeases context.workspace now)
    (success : claimNextExecution env now context claimId slots db = .ok (answer, next)) :
    next.LeaseSettled now claimId id := by
  simp only [claimNextExecution, bind_eq_ok] at success
  obtain ⟨workspace, _, reconciled, reconciles, success⟩ := success
  obtain ⟨_, _, lease, later, moved, _, isLease, _, isMoved, expires, _⟩ :=
    reconcileExpiredLeases_settles env ⟨now, .claimNextExecution context claimId slots⟩
      context.workspace workspace rfl intact held reconciles id listed
  have resolved : moved.hasUnresolvedLease = false := by
    obtain ⟨_, isLast, settled, _⟩ := expires.settles lease isLease
    rw [Attempt.hasUnresolvedLease, isLast]
    exact settled
  split at success
  · simp only [bind_eq_ok, return_eq_ok] at success
    obtain ⟨_, _, _, rfl⟩ := success
    exact ⟨later, moved, isMoved, .inl resolved⟩
  · obtain ⟨final, row, isRow, rfl | granted⟩ := claimCandidates_cases
      (reconciled_claimsHeld ⟨now, .claimNextExecution context claimId slots⟩ context.workspace
        reconciled rfl held reconciles) claimId _ _ answer next success id later moved isMoved
    · exact ⟨final, row, isRow, .inl resolved⟩
    · exact ⟨final, row, isRow, .inr granted⟩

/-- The oldest expired leases of the Workspace are settled after a call past the gates
exactly when there are none, or neither their reconciliation nor the answer raises. -/
theorem expiry_is_durable_iff (env : Env D) (calls : List (Call D)) (now : Instant)
    (context : RuntimeContext) (claimId : Uuid) (slots : Nat) (workspace : Workspace)
    (passes : claimGates env now context slots (run env Db.empty calls) = .ok workspace) :
    (∀ id ∈ (run env Db.empty calls).staleLeases context.workspace now,
      (step env (run env Db.empty calls)
        ⟨now, .claimNextExecution context claimId slots⟩).LeaseSettled now claimId id) ↔
    (run env Db.empty calls).staleLeases context.workspace now = [] ∨
      ∃ reconciled, reconcileExpiredLeases env now context.workspace workspace
          (run env Db.empty calls) = .ok reconciled ∧
        reconciled.ClaimAnswered env now context.workspace workspace claimId := by
  have held := run_claimsHeld env calls
  have intact := run_intact env calls Db.intact_empty
  generalize run env Db.empty calls = db at passes held intact
  rw [← claimNextExecution_succeeds_iff held passes]
  constructor
  · intro settled
    cases listed : db.staleLeases context.workspace now with
    | nil => exact .inl rfl
    | cons id =>
      have member : id ∈ db.staleLeases context.workspace now := by
        rw [listed]
        exact List.mem_cons_self ..
      refine .inr ?_
      cases result : claimNextExecution env now context claimId slots db with
      | ok answer => exact ⟨answer, rfl⟩
      | error raised =>
        have unchanged : step env db ⟨now, .claimNextExecution context claimId slots⟩ = db := by
          refine Run.step_of_error _ _ raised ?_
          simp [apply, reply, result]
        have isSettled := settled id member
        rw [unchanged] at isSettled
        exact absurd isSettled (Db.not_settled_of_stale member)
  · rintro (none | ⟨⟨answer, next⟩, success⟩) id listed
    · rw [none] at listed
      cases listed
    · have changed : step env db ⟨now, .claimNextExecution context claimId slots⟩ = next := by
        refine Run.step_of_ok _ next _ (.claim answer) ?_
        simp [apply, reply, success]
      rw [changed]
      exact claimNextExecution_settles intact held answer next id listed success

end Calls

theorem succeeds_of_isSome {α ε : Type} (body : Except ε α) (some : body.toOption.isSome = true) :
    Succeeds body := by
  cases body with
  | error => cases some
  | ok value => exact ⟨value, rfl⟩

def reportedWork : List (Call PlainDigest) :=
  bringUp ++ ordinaryWork ++
    [⟨0, .appendRuntimeEvent ⟨0, 1⟩ ⟨7, 1⟩ leaseToken ⟨70, "stream", 1, .dispatched⟩⟩]

/-- Beside it, work for a profile that was never materialized. -/
def blockedWork : List (Call PlainDigest) :=
  reportedWork ++
    [⟨0, .ensureRuntimeProfile 0 52 "21" (.obj [])⟩,
      ⟨0, .createExecution 0 52 "other" (.obj [])⟩]

/-- The claim raises because of the unready profile, and the lease stays stale. -/
theorem unready_work_undoes_expiry :
    Succeeds (claimGates Env.plain (seconds 61) ⟨0, 1⟩ 1 (run Env.plain Db.empty blockedWork)) ∧
      (run Env.plain Db.empty blockedWork).staleLeases 0 (seconds 61) = [⟨7, 1⟩] ∧
      ¬ (step Env.plain (run Env.plain Db.empty blockedWork)
        ⟨seconds 61, .claimNextExecution ⟨0, 1⟩ 61 1⟩).LeaseSettled (seconds 61) 61 ⟨7, 1⟩ := by
  refine ⟨succeeds_of_isSome _ (by decide +kernel), by decide +kernel, ?_⟩
  have listed : ⟨7, 1⟩ ∈ (run Env.plain Db.empty blockedWork).staleLeases
      (⟨0, 1⟩ : RuntimeContext).workspace (seconds 61) := by decide +kernel
  have raises : (claimNextExecution Env.plain (seconds 61) ⟨0, 1⟩ 61 1
      (run Env.plain Db.empty blockedWork)).toOption.isNone = true := by decide +kernel
  cases result : claimNextExecution Env.plain (seconds 61) ⟨0, 1⟩ 61 1
      (run Env.plain Db.empty blockedWork) with
  | ok answer =>
    rw [result] at raises
    cases raises
  | error raised =>
    have unchanged : step Env.plain (run Env.plain Db.empty blockedWork)
        ⟨seconds 61, .claimNextExecution ⟨0, 1⟩ 61 1⟩ = run Env.plain Db.empty blockedWork := by
      refine Run.step_of_error _ _ raised ?_
      simp [apply, reply, result]
    rw [unchanged]
    exact Db.not_settled_of_stale listed

/-- Without it, the claim settles the lease. -/
theorem expiry_of_dispatched_work_is_durable :
    (run Env.plain Db.empty reportedWork).staleLeases 0 (seconds 61) = [⟨7, 1⟩] ∧
      (step Env.plain (run Env.plain Db.empty reportedWork)
        ⟨seconds 61, .claimNextExecution ⟨0, 1⟩ 61 1⟩).LeaseSettled (seconds 61) 61 ⟨7, 1⟩ := by
  obtain ⟨workspace, passes⟩ := succeeds_of_isSome
    (claimGates Env.plain (seconds 61) ⟨0, 1⟩ 1 (run Env.plain Db.empty reportedWork))
    (by decide +kernel)
  have answers := (claimNextExecution_succeeds_iff (run_claimsHeld Env.plain reportedWork)
    passes).mp (succeeds_of_isSome (claimNextExecution Env.plain (seconds 61) ⟨0, 1⟩ 61 1
      (run Env.plain Db.empty reportedWork)) (by decide +kernel))
  exact ⟨by decide +kernel, (expiry_is_durable_iff Env.plain reportedWork (seconds 61) ⟨0, 1⟩ 61 1
    workspace passes).mpr (.inr answers) ⟨7, 1⟩ (by decide +kernel)⟩

end Foundry
