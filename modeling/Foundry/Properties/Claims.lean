import Foundry.Evolution.Expiry

/-!
# Claims

A claim id belongs to one attempt, or to one acquisition of a routine's lease, and every
claim returned under it names that attempt with one token.  The claim is live when the
lease the id already has is ACTIVE: a replay looks at the expiry of the lease, not at its
state.
-/

set_option autoImplicit false

namespace Foundry

open Raise

variable {D : Type}

/-! ## The rows behind a claim -/

/-- The claim id is the attempt's, or its current acquisition's. -/
def Attempt.BoundBy (attempt : Attempt D) (lease : Lease D) (claimId : Uuid) : Prop :=
  attempt.claimId = some claimId ∨
    ∃ acquisition ∈ lease.acquisitions, acquisition.claimId = claimId ∧ acquisition.current = true

structure ClaimRecords (workspaceId claimId : Uuid) (generation : Nat) (db : Db D)
    (id : AttemptId) (execution : Execution D) (attempt : Attempt D) (lease : Lease D) :
    Prop where
  present : db.attempt? id = some (execution, attempt)
  held : attempt.lease = some lease
  home : execution.workspace = workspaceId
  bound : attempt.BoundBy lease claimId
  attemptGeneration : attempt.machineGeneration = generation
  leaseGeneration : lease.machineGeneration = generation

structure Claim.Names (claim : Claim) (env : Env D) (now : Instant) (claimId : Uuid)
    (id : AttemptId) (lease : Lease D) : Prop where
  attempt : claim.attempt = id
  token : claim.leaseToken = env.claimToken claimId id lease.machineGeneration
  unexpired : now < lease.expiresAt

variable {attempt : Attempt D} {lease : Lease D} {claimId : Uuid}

theorem Attempt.BoundBy.mem
    (held : attempt.lease = some lease) (bound : attempt.BoundBy lease claimId) :
    claimId ∈ attempt.claims := by
  rw [Attempt.claims, List.mem_append]
  rcases bound with same | ⟨acquisition, listed, same, _⟩
  · exact .inl (by simp [same])
  · refine .inr ?_
    rw [Attempt.acquisitionClaims, held, Option.map_some, Option.getD_some, List.mem_map]
    exact ⟨acquisition, listed, same⟩

variable {execution : Execution D}

theorem Granted.bound {terms : GrantTerms D} {number : Nat}
    (granted : Granted terms execution number lease attempt) :
    attempt.BoundBy lease terms.claimId := by
  have acquired : ∀ former : Lease D, ∃ acquisition ∈ (terms.acquire former).acquisitions,
      acquisition.claimId = terms.claimId ∧ acquisition.current = true := by
    intro former
    simp [GrantTerms.acquire]
  rcases granted.source with ⟨_, _, rfl⟩ | ⟨_, _, _, _, _, ⟨_, rfl⟩ | ⟨_, _, _, rfl⟩⟩
  · exact .inl rfl
  · exact .inr (acquired _)
  · exact .inr (acquired _)

section Fresh

variable [DecidableEq D] (env : Env D) (call : Call D)

theorem claimCandidates_granted (start db next : Db D) (workspaceId : Uuid)
    (workspace : Workspace) (claimId : Uuid) (candidates : List Uuid) (passed : Passed)
    (claim : Claim) (service : call.operation.service = .claimNextExecution)
    (success : claimCandidates env call.now workspaceId workspace claimId candidates passed db =
      .ok (some claim, next)) :
    next.workspaces = db.workspaces ∧ ∃ id execution attempt lease,
      ClaimRecords workspaceId claimId workspace.machineGeneration next id execution attempt lease ∧
        claim.Names env call.now claimId id lease ∧ lease.state = .active ∧
        execution.status = .running := by
  induction candidates generalizing passed db with
  | nil =>
    simp only [claimCandidates, bind_eq_ok, return_eq_ok] at success
    obtain ⟨_, _, impossible, _⟩ := success
    cases impossible
  | cons executionId _ ih =>
    simp only [claimCandidates] at success
    split at success
    · exact ih db passed success
    · next execution found =>
      rw [Option.filter_eq_some_iff, decide_eq_true_eq] at found
      split at success
      · exact ih db passed success
      · next profile _ =>
        split at success
        · exact ih db _ success
        · exact ih db _ success
        · exact ih db _ success
        · exact ih db _ success
        · next taken =>
          obtain ⟨eligible, resumable, _⟩ := candidate_taken env db call.now workspace
            profile execution taken
          split at success
          · next started _ =>
            exact ih (db.putExecution executionId started) passed success
          · next number lease granted grants =>
            have change := grant_change env call start _ executionId service
              eligible resumable grants
            obtain ⟨attempt, isGranted, running, isAttempt, _⟩ :=
              grant_granted _ execution granted number lease grants
            simp only [bind_eq_ok, require_eq_ok, return_eq_ok, Option.some.injEq] at success
            obtain ⟨_, _, rfl, rfl⟩ := success
            refine ⟨rfl, ⟨executionId, number⟩, granted, attempt, lease, ?_, ?_,
              isGranted.active, running⟩
            · refine ⟨?_, isGranted.held, change.sameWork.workspace.trans found.2,
                isGranted.bound, isGranted.generation, isGranted.leaseGeneration⟩
              rw [Db.attempt?_eq_some]
              exact ⟨AList.lookup_insert _, isAttempt⟩
            · refine ⟨rfl, rfl, ?_⟩
              rw [isGranted.expiry]
              exact Nat.lt_add_of_pos_right (by decide)

end Fresh

/-! ## Replays -/

section Replays

variable [DecidableEq D] (env : Env D)

omit [DecidableEq D] in
theorem replayAttemptClaim_records (now : Instant) (workspaceId : Uuid) (workspace : Workspace)
    (claimId : Uuid) (id : AttemptId) (execution : Execution D) (attempt : Attempt D) (db : Db D)
    (answer : Option Claim) (present : db.attempt? id = some (execution, attempt))
    (bound : attempt.claimId = some claimId)
    (success : replayAttemptClaim env now workspaceId workspace claimId id execution attempt db =
      .ok answer) :
    ∃ lease, ClaimRecords workspaceId claimId workspace.machineGeneration db id execution attempt
      lease ∧ ∀ claim, answer = some claim → claim.Names env now claimId id lease := by
  simp only [replayAttemptClaim, bind_eq_ok, require_eq_ok, orRaise_eq_ok] at success
  obtain ⟨_, home, lease, held, _, ⟨generation, leaseGeneration⟩, profile, _, _, _, success⟩ :=
    success
  have returned : (if lease.expiresAt ≤ now then (pure none : Except RuntimeError (Option Claim))
      else pure (some (claimFromRecords env db id claimId profile execution lease))) =
      .ok answer := by
    split at success
    · simp only [bind_eq_ok] at success
      obtain ⟨_, _, success⟩ := success
      exact success
    · exact success
  refine ⟨lease, ⟨present, held, home, .inl bound, generation, leaseGeneration⟩, ?_⟩
  rintro _ rfl
  split at returned
  · cases returned
  · next unexpired =>
    simp only [pure_eq_ok, Option.some.injEq] at returned
    subst returned
    exact ⟨rfl, rfl, Nat.lt_of_not_le unexpired⟩

omit [DecidableEq D] in
theorem replayAcquisitionClaim_records (now : Instant) (workspaceId : Uuid)
    (workspace : Workspace) (claimId : Uuid) (id : AttemptId) (execution : Execution D)
    (attempt : Attempt D) (lease : Lease D) (acquisition : RoutineLeaseAcquisition D) (db : Db D)
    (answer : Option Claim) (present : db.attempt? id = some (execution, attempt))
    (held : attempt.lease = some lease) (listed : acquisition ∈ lease.acquisitions)
    (bound : acquisition.claimId = claimId)
    (success : replayAcquisitionClaim env now workspaceId workspace claimId id execution attempt
      lease acquisition db = .ok answer) :
    ClaimRecords workspaceId claimId workspace.machineGeneration db id execution attempt lease ∧
      ∀ claim, answer = some claim → claim.Names env now claimId id lease := by
  simp only [replayAcquisitionClaim, bind_eq_ok, require_eq_ok] at success
  obtain ⟨_, home, _, ⟨generation, leaseGeneration, current⟩, _, _, success⟩ := success
  refine ⟨⟨present, held, home, .inr ⟨acquisition, listed, bound, current⟩, generation,
    leaseGeneration⟩, ?_⟩
  rintro _ rfl
  split at success
  · cases success
  · next unexpired =>
    simp only [bind_eq_ok, orRaise_eq_ok, pure_eq_ok, Option.some.injEq] at success
    obtain ⟨_, _, rfl⟩ := success
    exact ⟨rfl, rfl, Nat.lt_of_not_le unexpired⟩

omit [DecidableEq D] in
theorem replayClaim_records (now : Instant) (workspaceId : Uuid) (workspace : Workspace)
    (claimId : Uuid) (db : Db D) (answer : Option Claim)
    (success : replayClaim env now workspaceId workspace claimId db = some (.ok answer)) :
    ∃ id execution attempt lease,
      ClaimRecords workspaceId claimId workspace.machineGeneration db id execution attempt lease ∧
        ∀ claim, answer = some claim → claim.Names env now claimId id lease := by
  simp only [replayClaim] at success
  split at success
  · next id execution attempt found =>
    have listed := List.mem_of_find?_eq_some found
    have bound := List.find?_some found
    rw [decide_eq_true_eq] at bound
    have present := (Db.attempt?_eq_some _ _ _ _).mpr ((db.mem_attempts _ _ _).mp listed)
    rw [Option.some.injEq] at success
    obtain ⟨lease, records⟩ := replayAttemptClaim_records env now workspaceId workspace claimId id
      execution attempt db answer present bound success
    exact ⟨id, execution, attempt, lease, records⟩
  · split at success
    · next found =>
      simp only [Db.acquisitionByClaim] at found
      obtain ⟨⟨_, _⟩, listed, found⟩ := List.exists_of_findSome?_eq_some found
      simp only [Option.bind_eq_some_iff, Option.map_eq_some_iff, Prod.mk.injEq] at found
      obtain ⟨_, held, _, isAcquisition, rfl, rfl, rfl, rfl, rfl⟩ := found
      have present := (Db.attempt?_eq_some _ _ _ _).mpr ((db.mem_attempts _ _ _).mp listed)
      have bound := List.find?_some isAcquisition
      rw [decide_eq_true_eq] at bound
      rw [Option.some.injEq] at success
      exact ⟨_, _, _, _, replayAcquisitionClaim_records env now workspaceId workspace claimId _ _ _
        _ _ db answer present held (List.mem_of_find?_eq_some isAcquisition) bound success⟩
    · cases success

end Replays

/-! ## Calls -/

section Calls

variable [DecidableEq D] {env : Env D} {call : Call D} {db next : Db D}
  {context : RuntimeContext} {claimId : Uuid} {slots : Nat} {claim : Claim}

omit [DecidableEq D] in
theorem claimGates_workspace (now : Instant) (workspace : Workspace)
    (passes : claimGates env now context slots db = .ok workspace) :
    db.workspaces.lookup context.workspace = some workspace := by
  simp only [claimGates, bind_eq_ok, orRaise_eq_ok, pure_eq_ok] at passes
  obtain ⟨_, _, _, stored, _, _, _, _, _, _, rfl⟩ := passes
  exact stored

theorem claimNextExecution_records (service : call.operation.service = .claimNextExecution)
    (success : claimNextExecution env call.now context claimId slots db = .ok (some claim, next)) :
    ∃ workspace, next.workspaces.lookup context.workspace = some workspace ∧
      ∃ execution attempt lease,
        ClaimRecords context.workspace claimId workspace.machineGeneration next claim.attempt
          execution attempt lease ∧ claim.Names env call.now claimId claim.attempt lease ∧
        ((lease.state = .active ∧ execution.status = .running ∧ ∃ reconciled,
            reconcileExpiredLeases env call.now context.workspace workspace db = .ok reconciled ∧
            reconciled.ClaimUnused claimId) ∨
          reconcileExpiredLeases env call.now context.workspace workspace db = .ok next) := by
  simp only [claimNextExecution, bind_eq_ok] at success
  obtain ⟨workspace, passes, reconciled, reconciles, success⟩ := success
  have stored := claimGates_workspace call.now workspace passes
  rw [← reconcileExpiredLeases_workspaces env call context.workspace workspace service reconciles]
    at stored
  refine ⟨workspace, ?_⟩
  split at success
  · next known =>
    simp only [bind_eq_ok, return_eq_ok] at success
    obtain ⟨_, replayed, rfl, rfl⟩ := success
    rw [replayed] at known
    obtain ⟨_, execution, attempt, lease, records, names⟩ := replayClaim_records env call.now
      context.workspace workspace claimId reconciled (some claim) known
    obtain rfl := (names claim rfl).attempt
    exact ⟨stored, execution, attempt, lease, records, names claim rfl, .inr reconciles⟩
  · next unknown =>
    obtain ⟨same, _, execution, attempt, lease, records, names, active, running⟩ :=
      claimCandidates_granted env call db reconciled next context.workspace workspace claimId _ _
        claim service success
    rw [← same] at stored
    obtain rfl := names.attempt
    exact ⟨stored, execution, attempt, lease, records, names, .inl ⟨active, running, reconciled, reconciles,
      replayClaim_unused env reconciled unknown⟩⟩

theorem run_claimNextExecution (env : Env D) (now : Instant) (calls : List (Call D))
    (success : claimNextExecution env now context claimId slots (run env Db.empty calls) =
      .ok (some claim, next)) :
    run env Db.empty (calls ++ [⟨now, .claimNextExecution context claimId slots⟩]) = next := by
  refine Run.run_snoc_of_ok _ _ _ _ (.claim (some claim)) ?_
  exact (reply_eq_ok _ _ _ _).mpr ⟨some claim, success, rfl⟩

end Calls

/-! ## Live claims -/

/-- The claim is work: its lease is ACTIVE, not expired and of the current generation,
and its Execution runs. -/
def Claim.Live (claim : Claim) (now : Instant) (db : Db D) : Prop :=
  ∃ execution attempt lease workspace, db.attempt? claim.attempt = some (execution, attempt) ∧
    attempt.lease = some lease ∧ lease.state = .active ∧ now < lease.expiresAt ∧
    db.workspaces.lookup execution.workspace = some workspace ∧
    attempt.machineGeneration = workspace.machineGeneration ∧
    lease.machineGeneration = workspace.machineGeneration ∧ execution.status = .running

def Db.ClaimActive (db : Db D) (claimId : Uuid) : Prop :=
  ∀ id execution attempt lease, db.attempt? id = some (execution, attempt) →
    claimId ∈ attempt.claims → attempt.lease = some lease → lease.state = .active

section Live

variable [DecidableEq D]

/-- Exactly the claims whose id has no other lease than an ACTIVE one are live. -/
theorem returned_claim_is_live_iff (env : Env D) (calls : List (Call D)) (now : Instant)
    (context : RuntimeContext) (claimId : Uuid) (slots : Nat) (claim : Claim) (next : Db D)
    (success : claimNextExecution env now context claimId slots (run env Db.empty calls) =
      .ok (some claim, next)) :
    claim.Live now next ↔ (run env Db.empty calls).ClaimActive claimId := by
  have heldAfter : next.ClaimsHeld :=
    run_claimNextExecution env now calls success ▸ run_claimsHeld env _
  have held := run_claimsHeld env calls
  have intact := run_intact env calls Db.intact_empty
  generalize run env Db.empty calls = db at success held intact
  obtain ⟨workspace, stored, execution, attempt, lease, records, names, origin⟩ :=
    claimNextExecution_records
      (show (⟨now, .claimNextExecution context claimId slots⟩ : Call D).operation.service =
        .claimNextExecution from rfl) success
  have live : lease.state = .active → execution.status = .running → claim.Live now next :=
    fun active running => ⟨execution, attempt, lease, workspace, records.present, records.held, active,
      names.unexpired, records.home ▸ stored, records.attemptGeneration, records.leaseGeneration,
      running⟩
  rcases origin with ⟨active, running, _, reconciles, unused⟩ | reconciles
  · refine iff_of_true (live active running) ?_
    intro id owner row taken present member
    obtain ⟨_, _, isKept, claims, _⟩ := reconcileExpiredLeases_attempt env _
      context.workspace workspace rfl intact held reconciles id owner row present
    rw [← claims] at member
    exact absurd member (unused.not_mem isKept)
  · -- The replayed lease has not expired, so the loop has left its attempt alone.
    have unmoved : ∀ owner row, db.attempt? claim.attempt = some (owner, row) →
        row = attempt := by
      intro owner row present
      obtain ⟨_, _, isKept, _, _, same | ⟨expires, _, former, isFormer, stale⟩⟩ :=
        reconcileExpiredLeases_attempt env _ context.workspace workspace rfl intact held reconciles
          claim.attempt owner row present
      · rw [records.present, Option.some.injEq, Prod.mk.injEq] at isKept
        exact (isKept.2.trans same).symm
      · rw [records.present, Option.some.injEq, Prod.mk.injEq] at isKept
        obtain ⟨rfl, rfl⟩ := isKept
        obtain ⟨_, isLast, _, expiry⟩ := expires.settles former isFormer
        rw [records.held, Option.some.injEq] at isLast
        subst isLast
        simp only [Lease.isStale, decide_eq_true_eq] at stale
        have unexpired := names.unexpired
        rw [expiry] at unexpired
        exact absurd stale.2 (Nat.not_le_of_lt unexpired)
    obtain ⟨execution', attempt', present⟩ := reconcileExpiredLeases_source env _
      context.workspace workspace rfl reconciles claim.attempt execution attempt records.present
    obtain rfl := unmoved execution' attempt' present
    constructor
    · rintro ⟨owner, row, _, _, isRow, isTaken, active, _⟩
      rw [records.present, Option.some.injEq, Prod.mk.injEq] at isRow
      obtain ⟨rfl, rfl⟩ := isRow
      intro id owner row other isOwner member isOther
      obtain ⟨later, kept, isKept, claims, _⟩ := reconcileExpiredLeases_attempt env _
        context.workspace workspace rfl intact held reconciles id owner row isOwner
      rw [← claims] at member
      obtain rfl := heldAfter.unique claim.attempt id execution later attempt' kept claimId
        records.present isKept (records.bound.mem records.held) member
      obtain rfl := unmoved owner row isOwner
      rw [isTaken, Option.some.injEq] at isOther
      exact isOther ▸ active
    · intro condition
      have active := condition claim.attempt execution' attempt' lease present
        (records.bound.mem records.held) records.held
      obtain ⟨isStored, found⟩ := (Db.attempt?_eq_some _ _ _ _).mp records.present
      exact live active ((heldAfter.rows _ execution isStored).running _ attempt' found
        (hasUnresolvedLease_of_active records.held active))

end Live

def succeededWork : List (Call PlainDigest) :=
  bringUp ++ ordinaryWork ++
    [⟨seconds 1, .completeAttempt ⟨0, 1⟩ ⟨7, 1⟩ leaseToken (.obj [("code", .str "ok")]) none⟩]

def claimAgain (calls : List (Call PlainDigest)) :
    Except RuntimeError (Option Claim × Db PlainDigest) :=
  claimNextExecution Env.plain (seconds 2) ⟨0, 1⟩ 60 1 (run Env.plain Db.empty calls)

theorem claimAgain_answer (calls : List (Call PlainDigest))
    (answered : ((claimAgain calls).toOption.any fun answer => answer.1.isSome) = true) :
    ∃ claim next, claimAgain calls = .ok (some claim, next) := by
  cases success : claimAgain calls with
  | error =>
    rw [success] at answered
    cases answered
  | ok answer =>
    obtain ⟨_, next⟩ := answer
    rw [success] at answered
    obtain ⟨claim, rfl⟩ := Option.isSome_iff_exists.mp answered
    exact ⟨claim, next, rfl⟩

/-- The status of the claimed attempt's lease and of its Execution after the call. -/
def Claim.statuses (claim : Claim) (db : Db PlainDigest) : Option (LeaseState × ExecutionStatus) :=
  (db.attempt? claim.attempt).bind fun found =>
    found.2.lease.map fun lease => (lease.state, found.1.status)

theorem Claim.Live.statuses {claim : Claim} {now : Instant} {db : Db PlainDigest}
    (live : claim.Live now db) : claim.statuses db = some (.active, .running) := by
  obtain ⟨_, _, _, _, present, held, active, _, _, _, _, running⟩ := live
  simp [Claim.statuses, present, held, active, running]

/-- The claim is handed back after its attempt succeeded. -/
theorem completed_claim_is_returned :
    ∃ claim next, claimNextExecution Env.plain (seconds 2) ⟨0, 1⟩ 60 1
        (run Env.plain Db.empty succeededWork) = .ok (some claim, next) ∧
      claim.attempt = ⟨7, 1⟩ ∧ claim.statuses next = some (.released, .succeeded) ∧
      ¬ claim.Live (seconds 2) next := by
  obtain ⟨claim, next, success⟩ := claimAgain_answer succeededWork (by decide +kernel)
  have statuses : ((claimAgain succeededWork).toOption.all fun answer => answer.1.all fun claim =>
      claim.attempt = ⟨7, 1⟩ ∧ claim.statuses answer.2 = some (.released, .succeeded)) = true := by
    decide +kernel
  rw [success] at statuses
  have holds := of_decide_eq_true statuses
  refine ⟨claim, next, success, holds.1, holds.2, ?_⟩
  intro live
  have active := live.statuses
  rw [holds.2] at active
  cases active

/-- Asked for again while its attempt runs, the claim is live. -/
theorem running_claim_is_live :
    ∃ claim next, claimNextExecution Env.plain (seconds 2) ⟨0, 1⟩ 60 1
        (run Env.plain Db.empty (bringUp ++ ordinaryWork)) = .ok (some claim, next) ∧
      claim.Live (seconds 2) next := by
  obtain ⟨claim, next, success⟩ := claimAgain_answer (bringUp ++ ordinaryWork) (by decide +kernel)
  refine ⟨claim, next, success, (returned_claim_is_live_iff Env.plain _ (seconds 2) ⟨0, 1⟩ 60 1 claim
    next success).mpr ?_⟩
  have active : ((run Env.plain Db.empty (bringUp ++ ordinaryWork)).attempts.all fun row =>
      row.2.2.lease.all fun lease => decide (lease.state = .active)) = true := by decide +kernel
  intro id execution attempt lease present _ held
  have listed := (Db.mem_attempts _ _ _ _).mpr ((Db.attempt?_eq_some _ _ _ _).mp present)
  have holds := List.all_eq_true.mp active _ listed
  rw [held] at holds
  exact of_decide_eq_true holds

/-! ## Replayed claims -/

section Bound

variable {db : Db D} {attempt : Attempt D} {lease : Lease D} {claimId : Uuid}

theorem mem_acquisitionClaims (held : attempt.lease = some lease)
    (acquisition : RoutineLeaseAcquisition D) (listed : acquisition ∈ lease.acquisitions) :
    acquisition.claimId ∈ attempt.acquisitionClaims := by
  rw [Attempt.acquisitionClaims, held, Option.map_some, Option.getD_some]
  exact List.mem_map_of_mem listed

theorem claimId_not_acquired (distinct : attempt.claims.Nodup)
    (own : attempt.claimId = some claimId) : claimId ∉ attempt.acquisitionClaims := by
  rw [Attempt.claims, own, Option.toList_some, List.singleton_append, List.nodup_cons] at distinct
  exact distinct.1

theorem acquisition_unique (distinct : attempt.claims.Nodup) (held : attempt.lease = some lease)
    (acquisition other : RoutineLeaseAcquisition D) (listed : acquisition ∈ lease.acquisitions)
    (isOther : other ∈ lease.acquisitions) (same : other.claimId = acquisition.claimId) :
    other = acquisition := by
  rw [Attempt.claims, List.nodup_append] at distinct
  have claims := distinct.2.1
  rw [Attempt.acquisitionClaims, held, Option.map_some, Option.getD_some] at claims
  exact List.inj_on_of_nodup_map claims isOther listed same

end Bound

def claimIdRule [DecidableEq D] (env : Env D) : UnitRule env where
  Condition := fun _ _ _ _ => True
  Holds := fun _ _ => True
  Related := Execution.AttemptsContinue fun attempt later => later.claimId = attempt.claimId
  reflexive := .refl fun _ => rfl
  transitive := .trans fun earlier later => later.trans earlier
  birth := fun _ _ _ _ _ => ⟨trivial, trivial⟩
  change := fun _ _ _ _ _ _ _ change => ⟨⟨trivial, trivial⟩,
    change.attemptsContinue _ (fun _ => rfl) (fun _ _ => rfl) fun _ _ _ _ _ _ move => move.claimId⟩

section Replayed

variable [DecidableEq D] (env : Env D)

theorem bound_generation (first rest : List (Call D)) (workspaceId other claimId : Uuid)
    (generation later : Nat) (id target : AttemptId) (execution execution' : Execution D)
    (attempt attempt' : Attempt D) (lease lease' : Lease D)
    (records : ClaimRecords workspaceId claimId generation (run env Db.empty first) id execution
      attempt lease)
    (final : ClaimRecords other claimId later (run env Db.empty (first ++ rest)) target execution'
      attempt' lease')
    (stored : (run env Db.empty (first ++ rest)).executions.lookup id.execution ≠ none) :
    target = id ∧ lease'.machineGeneration = lease.machineGeneration := by
  have held := run_claimsHeld env first
  have heldAfter := run_claimsHeld env (first ++ rest)
  obtain ⟨owner, isOwner⟩ := Option.ne_none_iff_exists'.mp stored
  obtain ⟨isExecution, found⟩ := (Db.attempt?_eq_some _ _ _ _).mp records.present
  have always : RunMeets env (fun _ _ _ _ => True) Db.empty (first ++ rest) :=
    runMeets_of_forall env _ (fun _ _ _ _ => trivial) _ _
  obtain ⟨kept, isKept, sameClaim⟩ := (claimIdRule env).relates first rest always id.execution
    execution owner isExecution isOwner id.number attempt found
  have leases := (leaseRowsRule env).relates first rest always id.execution execution owner
    isExecution isOwner
  have present := (Db.attempt?_eq_some _ id owner kept).mpr ⟨isOwner, isKept⟩
  have rows := held.rows _ execution isExecution
  -- Both claims are bound to rows of one attempt, by the uniqueness of claim ids.
  have same : claimId ∈ kept.claims → target = id ∧ kept = attempt' := by
    intro member
    obtain rfl := heldAfter.unique id target owner execution' kept attempt' claimId present
      final.present member (final.bound.mem final.held)
    have rows := present.symm.trans final.present
    rw [Option.some.injEq, Prod.mk.injEq] at rows
    exact ⟨rfl, rows.2⟩
  rcases records.bound with own | ⟨acquisition, listed, isClaim, current⟩
  · have ordinary : execution.routine = none := by
      by_contra routine
      rw [rows.acquired routine _ attempt found] at own
      cases own
    obtain ⟨row, isRow, leaseKept⟩ := leases.ordinary ordinary id.number attempt found
    obtain rfl : kept = row := Option.some.inj (isKept.symm.trans isRow)
    obtain ⟨_, isNext, keeps⟩ := leaseKept.held records.held
    have member : claimId ∈ kept.claims := by
      rw [Attempt.claims, sameClaim, own]
      exact List.mem_append_left _ (by simp)
    obtain ⟨isTarget, rfl⟩ := same member
    rw [final.held, Option.some.injEq] at isNext
    exact ⟨isTarget, isNext ▸ keeps.generation⟩
  · obtain ⟨row, isRow, leaseContinues⟩ := leases.attempts id.number attempt found
    obtain rfl : kept = row := Option.some.inj (isKept.symm.trans isRow)
    obtain ⟨_, isNext, continues⟩ := leaseContinues lease records.held
    obtain ⟨place, isPlace⟩ := List.getElem?_of_mem listed
    obtain ⟨amended, isAmended, amends⟩ := continues.acquisitions place acquisition isPlace
    have isListed := List.mem_of_getElem? isAmended
    have acquired := mem_acquisitionClaims isNext amended isListed
    rw [amends.claim, isClaim] at acquired
    obtain ⟨isTarget, rfl⟩ := same (List.mem_append_right _ acquired)
    refine ⟨isTarget, ?_⟩
    rw [final.held, Option.some.injEq] at isNext
    subst isNext
    have distinct := heldAfter.distinct target execution' kept final.present
    obtain ⟨isFinal, isAttempt⟩ := (Db.attempt?_eq_some _ _ _ _).mp final.present
    rcases final.bound with own | ⟨last, isLast, lastClaim, lastCurrent⟩
    · exact absurd acquired (claimId_not_acquired distinct own)
    · obtain rfl := acquisition_unique distinct final.held amended last isListed isLast
        (by rw [lastClaim, amends.claim, isClaim])
      have mine := ((rows.formed _ attempt found lease records.held).own acquisition listed
        current).2.2
      have theirs := (((heldAfter.rows _ execution' isFinal).formed _ kept isAttempt lease'
        final.held).own last isLast lastCurrent).2.2
      rw [← theirs, amends.generation, mine]

theorem replayed_claim_is_same (first rest : List (Call D)) (now now' : Instant)
    (context context' : RuntimeContext) (claimId : Uuid) (slots slots' : Nat)
    (claim claim' : Claim) (next next' : Db D)
    (granted : claimNextExecution env now context claimId slots (run env Db.empty first) =
      .ok (some claim, next))
    (replayed : claimNextExecution env now' context' claimId slots' (run env next rest) =
      .ok (some claim', next'))
    (stored : next'.executions.lookup claim.attempt.execution ≠ none) :
    claim'.attempt = claim.attempt ∧ claim'.leaseToken = claim.leaseToken := by
  have isNext := run_claimNextExecution env now first granted
  have split : run env next rest = run env Db.empty
      (first ++ [⟨now, .claimNextExecution context claimId slots⟩] ++ rest) := by
    rw [← isNext]
    exact (Run.run_append _ _ _).symm
  rw [split] at replayed
  have isNext' := run_claimNextExecution env now' _ replayed
  obtain ⟨_, _, execution, attempt, lease, records, names, _⟩ :=
    claimNextExecution_records
      (show (⟨now, .claimNextExecution context claimId slots⟩ : Call D).operation.service =
        .claimNextExecution from rfl) granted
  obtain ⟨_, _, execution', attempt', lease', records', names', _⟩ :=
    claimNextExecution_records
      (show (⟨now', .claimNextExecution context' claimId slots'⟩ : Call D).operation.service =
        .claimNextExecution from rfl) replayed
  rw [← isNext] at records
  rw [← isNext', List.append_assoc] at records' stored
  obtain ⟨same, generation⟩ := bound_generation env _ _ _ _ claimId _ _ _ _ execution execution'
    attempt attempt' lease lease' records records' stored
  rw [names.token, names'.token, generation, same]
  exact ⟨rfl, rfl⟩

end Replayed

/-! ## Refused claim ids -/

/-- The id belongs to another Workspace, to a retired generation, or to an acquisition
that is no longer current. -/
def Db.ClaimRetired (db : Db D) (context : RuntimeContext) (claimId : Uuid) : Prop :=
  ∃ id execution attempt, db.attempt? id = some (execution, attempt) ∧ claimId ∈ attempt.claims ∧
    (execution.workspace ≠ context.workspace ∨
      attempt.machineGeneration ≠ context.machineGeneration ∨
      ∃ lease, attempt.lease = some lease ∧
        (lease.machineGeneration ≠ context.machineGeneration ∨
          ∃ acquisition ∈ lease.acquisitions, acquisition.claimId = claimId ∧
            acquisition.current = false))

theorem ClaimRecords.not_retired {db : Db D} {context : RuntimeContext} {id : AttemptId}
    (held : db.ClaimsHeld)
    (records : ClaimRecords context.workspace claimId context.machineGeneration db id execution
      attempt lease) : ¬ db.ClaimRetired context claimId := by
  rintro ⟨other, owner, row, present, member, refused⟩
  obtain rfl := held.unique id other execution owner attempt row claimId records.present present
    (records.bound.mem records.held) member
  have rows := records.present.symm.trans present
  rw [Option.some.injEq, Prod.mk.injEq] at rows
  obtain ⟨rfl, rfl⟩ := rows
  rcases refused with foreign | stale | ⟨_, isSame, stale | ⟨retired, listed, isClaim, notCurrent⟩⟩
  · exact foreign records.home
  · exact stale records.attemptGeneration
  · rw [records.held, Option.some.injEq] at isSame
    subst isSame
    exact stale records.leaseGeneration
  · rw [records.held, Option.some.injEq] at isSame
    subst isSame
    have distinct := held.distinct other execution attempt records.present
    rcases records.bound with own | ⟨current, isCurrent, isOwn, holds⟩
    · have acquired := mem_acquisitionClaims records.held retired listed
      rw [isClaim] at acquired
      exact claimId_not_acquired distinct own acquired
    · obtain rfl := acquisition_unique distinct records.held retired current listed isCurrent
        (isOwn.trans isClaim.symm)
      rw [notCurrent] at holds
      cases holds

section Refused

variable [DecidableEq D] {env : Env D} {db reconciled : Db D} {context : RuntimeContext}
  {claimId : Uuid}

theorem Db.ClaimRetired.of_reconcile (call : Call D) (workspaceId : Uuid) (workspace : Workspace)
    (service : call.operation.service = .claimNextExecution) (intact : db.Intact)
    (held : db.ClaimsHeld)
    (success : reconcileExpiredLeases env call.now workspaceId workspace db = .ok reconciled)
    (retired : db.ClaimRetired context claimId) : reconciled.ClaimRetired context claimId := by
  obtain ⟨id, execution, attempt, present, member, refused⟩ := retired
  obtain ⟨later, row, isRow, claims, work, same | ⟨expires, kept, _⟩⟩ :=
    reconcileExpiredLeases_attempt env call workspaceId workspace service intact held success id
      execution attempt present
  · subst same
    refine ⟨id, later, row, isRow, member, ?_⟩
    rw [work.workspace]
    exact refused
  · refine ⟨id, later, row, isRow, by rw [claims]; exact member, ?_⟩
    rw [work.workspace, expires.generation]
    rcases refused with foreign | stale | ⟨_, isLease, refused⟩
    · exact .inl foreign
    · exact .inr (.inl stale)
    · obtain ⟨next, isNext, keeps⟩ := kept.held isLease
      refine .inr (.inr ⟨next, isNext, ?_⟩)
      rw [keeps.generation]
      rcases refused with stale | ⟨acquisition, listed, isClaim, notCurrent⟩
      · exact .inl stale
      · obtain ⟨place, isPlace⟩ := List.getElem?_of_mem listed
        obtain ⟨amended, isAmended, amends⟩ := keeps.acquisitions place acquisition isPlace
        exact .inr ⟨amended, List.mem_of_getElem? isAmended, amends.claim.trans isClaim,
          amends.retired notCurrent⟩

theorem claimNextExecution_retired (env : Env D) (now : Instant) (slots : Nat) (intact : db.Intact)
    (held : db.ClaimsHeld) (retired : db.ClaimRetired context claimId) :
    ∃ error, claimNextExecution env now context claimId slots db = .error error := by
  cases success : claimNextExecution env now context claimId slots db with
  | error raised => exact ⟨raised, rfl⟩
  | ok =>
    exfalso
    simp only [claimNextExecution, bind_eq_ok] at success
    obtain ⟨workspace, passes, reconciled, reconciles, success⟩ := success
    have generation : workspace.machineGeneration = context.machineGeneration := by
      simp only [claimGates, bind_eq_ok, orRaise_eq_ok, require_eq_ok, pure_eq_ok] at passes
      obtain ⟨_, _, _, _, _, same, _, _, _, _, rfl⟩ := passes
      exact same
    have after := retired.of_reconcile
      ⟨now, .claimNextExecution context claimId slots⟩ context.workspace workspace rfl intact held
      reconciles
    have heldAfter : reconciled.ClaimsHeld :=
      (reconcileExpiredLeases_evolution env ⟨now, .claimNextExecution context claimId slots⟩ db db
        reconciled rfl reconciles).keeps Db.ClaimsHeld
        (fun _ _ write => write.claimsHeld) held
    split at success
    · next known =>
      simp only [bind_eq_ok] at success
      obtain ⟨claim, replayed, _⟩ := success
      rw [replayed] at known
      obtain ⟨_, _, _, _, records, _⟩ := replayClaim_records env now
        context.workspace workspace claimId reconciled claim known
      rw [generation] at records
      exact records.not_retired heldAfter after
    · next unknown =>
      obtain ⟨_, _, _, present, member, _⟩ := after
      exact (replayClaim_unused env reconciled
        unknown).not_mem present member

end Refused

/-! ## Idempotency of claims -/

/-- In one state: a claim id has one row, and no Execution and no scope of a profile has
two unresolved leases. -/
structure Db.ClaimsUnique (db : Db D) : Prop where
  attempt : ∀ id other execution twin attempt row claimId,
    db.attempt? id = some (execution, attempt) → db.attempt? other = some (twin, row) →
    claimId ∈ attempt.claims → claimId ∈ row.claims → other = id
  acquisition : ∀ id execution attempt, db.attempt? id = some (execution, attempt) →
    attempt.claims.Nodup
  execution : ∀ id number other execution attempt row,
    db.attempt? ⟨id, number⟩ = some (execution, attempt) →
    db.attempt? ⟨id, other⟩ = some (execution, row) → attempt.hasUnresolvedLease = true →
    row.hasUnresolvedLease = true → other = number
  scope : ∀ id other execution twin attempt row lease second,
    db.attempt? id = some (execution, attempt) → db.attempt? other = some (twin, row) →
    attempt.lease = some lease → row.lease = some second → lease.state.isUnresolved = true →
    second.state.isUnresolved = true → second.profile = lease.profile →
    second.scopeKey = lease.scopeKey → other = id

theorem Db.ClaimsHeld.claimsUnique {db : Db D} (held : db.ClaimsHeld) : db.ClaimsUnique where
  attempt := held.unique
  acquisition := held.distinct
  execution := by
    intro id number other execution attempt row present isRow unresolved pending
    obtain ⟨stored, found⟩ := (Db.attempt?_eq_some _ _ _ _).mp present
    obtain ⟨_, isFound⟩ := (Db.attempt?_eq_some _ _ _ _).mp isRow
    exact (held.rows id execution stored).one number other attempt row found isFound unresolved
      pending
  scope := held.leases

/-- Claims along a run: every state has the rows of a claim id once, two claims returned
under one id name one attempt and one token while the Execution of the first is stored,
and a retired or foreign id changes nothing. -/
theorem claims_are_idempotent [DecidableEq D] (env : Env D) (first rest : List (Call D)) :
    (run env Db.empty first).ClaimsUnique ∧
    (∀ now now' context context' claimId slots slots' claim claim' next next',
      claimNextExecution env now context claimId slots (run env Db.empty first) =
        .ok (some claim, next) →
      claimNextExecution env now' context' claimId slots' (run env next rest) =
        .ok (some claim', next') →
      next'.executions.lookup claim.attempt.execution ≠ none →
      claim'.attempt = claim.attempt ∧ claim'.leaseToken = claim.leaseToken) ∧
    (∀ now context claimId slots, (run env Db.empty first).ClaimRetired context claimId →
      (∃ error, claimNextExecution env now context claimId slots (run env Db.empty first) =
        .error error) ∧
      step env (run env Db.empty first) ⟨now, .claimNextExecution context claimId slots⟩ =
        run env Db.empty first) := by
  have held := run_claimsHeld env first
  refine ⟨held.claimsUnique, ?_, ?_⟩
  · intro now now' context context' claimId slots slots' claim claim' next next' granted replayed
      stored
    exact replayed_claim_is_same env first rest now now' context context' claimId slots slots' claim
      claim' next next' granted replayed stored
  · intro now context claimId slots retired
    obtain ⟨error, raised⟩ := claimNextExecution_retired env now slots
      (run_intact env first Db.intact_empty) held retired
    refine ⟨⟨error, raised⟩, Run.step_of_error _ _ error ?_⟩
    simp [apply, reply, raised]

/-- Work queued for profile 50 of the Workspace of tenant 10. -/
def queuedWork : List (Call PlainDigest) :=
  [⟨0, .registerWorkspace "10"⟩,
    ⟨0, .claimOrWait 0 .ensure true⟩,
    ⟨0, .casPhase 0 1 2 .healthy ⟨some "app", some "volume", some "machine"⟩⟩,
    ⟨0, .claimOrWait 0 .ensure true⟩,
    ⟨0, .bindIdle 0 1 4 "machine" [("runtime", "sha256")]⟩,
    ⟨0, .acceptRuntimeReadiness ⟨0, 1⟩ 7 1 1⟩,
    ⟨0, .ensureRuntimeProfile 0 50 "20" (.obj [])⟩,
    ⟨0, .acceptMaterializationReceipt ⟨0, 1⟩ 50 51 0 1 "seed" "ok"⟩,
    ⟨0, .createExecution 0 50 "key" (.obj [])⟩]

/-- The claimed work is done, its profile is deleted, and there is work for another one. -/
def replacedProfile : List (Call PlainDigest) :=
  [⟨0, .claimNextExecution ⟨0, 1⟩ 60 1⟩,
    ⟨0, .completeAttempt ⟨0, 1⟩ ⟨7, 1⟩ leaseToken (.obj [("code", .str "ok")]) none⟩,
    ⟨0, .coordinateProfileDeletion 10 20 50 95 none⟩,
    ⟨0, .acceptCleanupReceipt ⟨0, 1⟩ 50 95 1
      (.document (.deletion "digest" 95 10 1 (seconds (24 * 60 * 60)))) .deprovisioned 0
      ⟨some 10, some 1, some 1, some 7, some 8, true⟩⟩,
    ⟨0, .coordinateProfileDeletion 10 20 50 95 none⟩,
    ⟨0, .ensureRuntimeProfile 0 52 "21" (.obj [])⟩,
    ⟨0, .acceptMaterializationReceipt ⟨0, 1⟩ 52 53 0 1 "seed" "ok"⟩,
    ⟨0, .createExecution 0 52 "key" (.obj [])⟩]

def claimedAttempt (now : Instant) (calls : List (Call PlainDigest)) : Option AttemptId :=
  (claimNextExecution Env.plain now ⟨0, 1⟩ 60 1 (run Env.plain Db.empty calls)).toOption.bind
    fun answer => answer.1.map Claim.attempt

/-- After the deletion of the profile the id claims other work; ordinary work and a
routine of one profile run side by side; and an expired id is answered with no claim,
after its lease was reconciled. -/
theorem claim_ids_are_forgotten_and_scopes_are_separate :
    claimedAttempt 0 queuedWork = some ⟨7, 1⟩ ∧
    claimedAttempt 0 (queuedWork ++ replacedProfile) = some ⟨14, 1⟩ ∧
    (run Env.plain Db.empty (bringUp ++ ordinaryWork ++
      [⟨0, .acceptRoutineDispatch routineDispatch⟩,
        ⟨0, .claimNextExecution ⟨0, 1⟩ 61 1⟩])).unresolvedLeaseCount 50 = 2 ∧
    ((run Env.plain Db.empty (bringUp ++ ordinaryWork)).executions.lookup 7).map
      Execution.status = some .running ∧
    ((claimNextExecution Env.plain (seconds 61) ⟨0, 1⟩ 60 1
      (run Env.plain Db.empty (bringUp ++ ordinaryWork))).toOption.map fun answer =>
        (answer.1, (answer.2.executions.lookup 7).map Execution.status)) =
      some (none, some .queued) := by
  refine ⟨by decide +kernel, by decide +kernel, by decide +kernel, by decide +kernel, ?_⟩
  decide +kernel

end Foundry
