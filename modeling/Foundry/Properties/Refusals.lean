import Foundry.Properties.Reconciliation
import Foundry.Services.Intents
import Foundry.Worker.Errors

/-!
# Refusals of a claim and of a receipt

What a claim of the current generation and a readiness receipt raise, apart from the errors
that pass: a Workspace that is not ready, and a service that failed.
-/

set_option autoImplicit false

namespace Foundry

open Raise

variable {D : Type}

/-! ## Claims -/

def RuntimeError.WaitedOut (error : RuntimeError) : Prop := error.kind.isWaitedOut = true

section Replays

variable {env : Env D} {now : Instant} {workspaceId claimId : Uuid} {workspace : Workspace}
  {id : AttemptId} {execution : Execution D} {attempt : Attempt D} {lease : Lease D}
  {acquisition : RoutineLeaseAcquisition D} {db : Db D}

theorem requireRoutineAdmission_raisesOnly :
    RaisesOnly RuntimeError.WaitedOut (requireRoutineAdmission env now true workspace) ↔
      admissionIsFenced env now workspace = false := by
  rw [admissionIsFenced]
  cases admitted : requireRoutineAdmission env now true workspace with
  | ok => simp
  | error raised =>
    have kinds : raised.kind = .notReady ∨ raised.kind = .fenced := by
      have only : RaisesOnly (fun error : RuntimeError => error.kind = .notReady ∨
          error.kind = .fenced) (requireRoutineAdmission env now true workspace) := by
        simp [requireRoutineAdmission, desiredRoutineReleaseDigest, notReadyError, fencedError]
      exact only raised admitted
    rcases kinds with notReady | fenced
    · simp [RuntimeError.WaitedOut, notReady, ErrorKind.isWaitedOut]
    · simp [RuntimeError.WaitedOut, fenced, ErrorKind.isWaitedOut]

/-- The claim of an attempt that is made again is not refused. -/
structure Db.AttemptClaimGoesOn (env : Env D) (now : Instant) (workspaceId : Uuid)
    (workspace : Workspace) (execution : Execution D) (attempt : Attempt D) (db : Db D) :
    Prop where
  home : execution.workspace = workspaceId
  leased : ∃ lease, attempt.lease = some lease ∧
    attempt.machineGeneration = workspace.machineGeneration ∧
    lease.machineGeneration = workspace.machineGeneration
  ready : ∀ profile, db.profiles.lookup execution.profile = some profile →
    profileIsClaimReady profile workspace.machineGeneration = true ∧
      (execution.isRoutineDispatch = true → admissionIsFenced env now workspace = false)

theorem replayAttemptClaim_raisesOnly :
    RaisesOnly RuntimeError.WaitedOut
        (replayAttemptClaim env now workspaceId workspace claimId id execution attempt db) ↔
      db.AttemptClaimGoesOn env now workspaceId workspace execution attempt := by
  simp only [replayAttemptClaim, raisesOnly_bind, raisesOnly_require, raisesOnly_orRaise,
    require_eq_ok, orRaise_eq_ok, RuntimeError.WaitedOut, idempotencyConflictError, conflictError,
    doesNotExist, fencedError, ErrorKind.isWaitedOut]
  constructor
  · rintro ⟨home, leased⟩
    have isHome : execution.workspace = workspaceId := by simpa using home
    obtain ⟨present, held⟩ := leased () isHome
    cases isLease : attempt.lease with
    | none => simp [isLease] at present
    | some lease =>
      obtain ⟨generations, rest⟩ := held lease isLease
      have current : attempt.machineGeneration = workspace.machineGeneration ∧
          lease.machineGeneration = workspace.machineGeneration := by simpa using generations
      refine ⟨isHome, ⟨lease, isLease, current⟩, ?_⟩
      intro profile stored
      obtain ⟨ready, admitted⟩ := (rest () current).2 profile stored
      have isReady : profileIsClaimReady profile workspace.machineGeneration = true := by
        simpa using ready
      refine ⟨isReady, ?_⟩
      intro routine
      have answers := admitted () isReady
      rw [if_pos routine, raisesOnly_bind] at answers
      exact requireRoutineAdmission_raisesOnly.mp answers.1
  · rintro ⟨home, ⟨_, isLease, current⟩, ready⟩
    refine ⟨fun away => absurd home away, fun _ _ => ⟨fun unleased => ?_, fun held isHeld => ?_⟩⟩
    · rw [isLease] at unleased
      cases unleased
    · cases isLease.symm.trans isHeld
      refine ⟨fun retired => absurd current retired, fun _ _ => ⟨fun _ => trivial, ?_⟩⟩
      intro profile stored
      obtain ⟨isReady, admitted⟩ := ready profile stored
      refine ⟨fun unready => absurd isReady unready, fun _ _ => ?_⟩
      by_cases routine : execution.isRoutineDispatch = true
      · rw [if_pos routine, raisesOnly_bind]
        refine ⟨requireRoutineAdmission_raisesOnly.mpr (admitted routine), fun _ _ => ?_⟩
        split <;> simp
      · rw [if_neg routine]
        split <;> simp

/-- The claim of an acquisition that is made again is not refused. -/
structure AcquisitionClaimGoesOn (env : Env D) (now : Instant) (workspaceId : Uuid)
    (workspace : Workspace) (execution : Execution D) (attempt : Attempt D) (lease : Lease D)
    (acquisition : RoutineLeaseAcquisition D) : Prop where
  home : execution.workspace = workspaceId
  attempted : attempt.machineGeneration = workspace.machineGeneration
  leased : lease.machineGeneration = workspace.machineGeneration
  current : acquisition.current = true
  admitted : admissionIsFenced env now workspace = false

theorem replayAcquisitionClaim_raisesOnly :
    RaisesOnly RuntimeError.WaitedOut
        (replayAcquisitionClaim env now workspaceId workspace claimId id execution attempt lease
          acquisition db) ↔
      AcquisitionClaimGoesOn env now workspaceId workspace execution attempt lease
        acquisition := by
  simp only [replayAcquisitionClaim, raisesOnly_bind, raisesOnly_require, require_eq_ok,
    requireRoutineAdmission_raisesOnly, RuntimeError.WaitedOut, idempotencyConflictError,
    doesNotExist, ErrorKind.isWaitedOut]
  constructor
  · rintro ⟨home, rest⟩
    have isHome : execution.workspace = workspaceId := by simpa using home
    obtain ⟨generations, rest⟩ := rest () isHome
    have current : attempt.machineGeneration = workspace.machineGeneration ∧
        lease.machineGeneration = workspace.machineGeneration ∧ acquisition.current = true := by
      simpa using generations
    exact ⟨isHome, current.1, current.2.1, current.2.2, (rest () current).1⟩
  · rintro ⟨home, attempted, leased, current, admitted⟩
    refine ⟨fun away => absurd home away, fun _ _ =>
      ⟨fun retired => absurd ⟨attempted, leased, current⟩ retired, fun _ _ =>
        ⟨admitted, fun _ _ => ?_⟩⟩⟩
    split
    · simp
    · simp [RuntimeError.WaitedOut, ErrorKind.isWaitedOut]

end Replays

section Candidates

variable (env : Env D) (now : Instant) (workspaceId : Uuid) (workspace : Workspace) (db : Db D)

/-- A routine waits behind a stale release, and no other candidate is taken or has a profile
that is not ready. -/
structure Db.WaitsForRelease (candidates : List Uuid) (passed : Passed) : Prop where
  ready : passed.unreadyProfile = false
  others : ∀ id ∈ candidates, db.verdict env now workspaceId workspace id ≠ .taken ∧
    db.verdict env now workspaceId workspace id ≠ .unreadyProfile
  fenced : passed.routineFenced = true ∨
    ∃ id ∈ candidates, db.verdict env now workspaceId workspace id = .routineFenced

end Candidates

section Candidates

variable {env : Env D} {now : Instant} {workspaceId : Uuid} {workspace : Workspace} {db : Db D}

theorem Passed.outcome_raisesOnly (passed : Passed) :
    RaisesOnly RuntimeError.WaitedOut passed.outcome ↔
      ¬ (passed.unreadyProfile = false ∧ passed.routineFenced = true) := by
  obtain ⟨unreadyProfile, routineFenced, _⟩ := passed
  cases unreadyProfile <;> cases routineFenced <;>
    simp [Passed.outcome, RuntimeError.WaitedOut, notReadyError, fencedError,
      ErrorKind.isWaitedOut]

theorem Db.waitsForRelease_cons (executionId : Uuid) (rest : List Uuid) (passed after : Passed)
    (notTaken : db.verdict env now workspaceId workspace executionId ≠ .taken)
    (unready : after.unreadyProfile = false ↔ passed.unreadyProfile = false ∧
      db.verdict env now workspaceId workspace executionId ≠ .unreadyProfile)
    (fenced : after.routineFenced = true ↔ passed.routineFenced = true ∨
      db.verdict env now workspaceId workspace executionId = .routineFenced) :
    db.WaitsForRelease env now workspaceId workspace (executionId :: rest) passed ↔
      db.WaitsForRelease env now workspaceId workspace rest after := by
  constructor
  · rintro ⟨ready, others, waits⟩
    refine ⟨unready.mpr ⟨ready, (others executionId (List.mem_cons_self ..)).2⟩,
      fun id member => others id (List.mem_cons_of_mem _ member), ?_⟩
    rcases waits with before | ⟨id, member, isFenced⟩
    · exact .inl (fenced.mpr (.inl before))
    · rcases List.mem_cons.mp member with rfl | later
      · exact .inl (fenced.mpr (.inr isFenced))
      · exact .inr ⟨id, later, isFenced⟩
  · rintro ⟨ready, others, waits⟩
    obtain ⟨before, isReady⟩ := unready.mp ready
    refine ⟨before, ?_, ?_⟩
    · intro id member
      rcases List.mem_cons.mp member with rfl | later
      · exact ⟨notTaken, isReady⟩
      · exact others id later
    · rcases waits with now_fenced | ⟨id, member, isFenced⟩
      · rcases fenced.mp now_fenced with earlier | here
        · exact .inl earlier
        · exact .inr ⟨executionId, List.mem_cons_self .., here⟩
      · exact .inr ⟨id, List.mem_cons_of_mem _ member, isFenced⟩

variable [DecidableEq D]

theorem claimCandidates_raisesOnly (held : db.ClaimsHeld) (claimId : Uuid)
    (candidates : List Uuid) (passed : Passed) :
    RaisesOnly RuntimeError.WaitedOut
        (claimCandidates env now workspaceId workspace claimId candidates passed db) ↔
      ¬ db.WaitsForRelease env now workspaceId workspace candidates passed := by
  induction candidates generalizing passed with
  | nil =>
    simp only [claimCandidates, raisesOnly_bind, raisesOnly_pure, implies_true, and_true,
      passed.outcome_raisesOnly]
    refine not_congr ⟨?_, ?_⟩
    · rintro ⟨ready, fenced⟩
      exact ⟨ready, by simp, .inl fenced⟩
    · rintro ⟨ready, _, fenced | ⟨_, member, _⟩⟩
      · exact ⟨ready, fenced⟩
      · cases member
  | cons executionId rest ih =>
    simp only [claimCandidates]
    split
    · next absent =>
      have verdict : db.verdict env now workspaceId workspace executionId = .passed := by
        simp only [Db.verdict, absent]
      rw [ih, db.waitsForRelease_cons executionId rest passed passed] <;> simp [verdict]
    · next execution found =>
      split
      · next absent =>
        have verdict : db.verdict env now workspaceId workspace executionId = .passed := by
          simp only [Db.verdict, found, absent]
        rw [ih, db.waitsForRelease_cons executionId rest passed passed] <;> simp [verdict]
      · next profile owned =>
        have verdict : db.verdict env now workspaceId workspace executionId =
            candidate env now workspace profile execution db := by
          simp only [Db.verdict, found, owned]
        split
        · next decided =>
          rw [decided] at verdict
          rw [ih, db.waitsForRelease_cons executionId rest passed passed] <;> simp [verdict]
        · next decided =>
          rw [decided] at verdict
          rw [ih, db.waitsForRelease_cons executionId rest passed
            { passed with unreadyProfile := true }] <;> simp [verdict]
        · next decided =>
          rw [decided] at verdict
          rw [ih, db.waitsForRelease_cons executionId rest passed
            { passed with routineNotReady := true }] <;> simp [verdict]
        · next decided =>
          rw [decided] at verdict
          rw [ih, db.waitsForRelease_cons executionId rest passed
            { passed with routineFenced := true }] <;> simp [verdict]
        · next taken =>
          rw [taken] at verdict
          rw [Option.filter_eq_some_iff] at found
          obtain ⟨number, lease, granted, grants⟩ := grant_of_taken held
            ⟨now, claimId, workspace.machineGeneration, env.digestLeaseToken
              (env.claimToken claimId ⟨executionId, execution.claimNumber⟩
                workspace.machineGeneration)⟩ executionId execution profile found.1 taken
          have only : RaisesOnly RuntimeError.WaitedOut (do
              require (db.tokenIsFree ⟨executionId, execution.claimNumber⟩
                (env.digestLeaseToken (env.claimToken claimId
                  ⟨executionId, execution.claimNumber⟩ workspace.machineGeneration)))
                (integrityError "token_digest")
              return (some (claimFromRecords env (db.putExecution executionId granted)
                ⟨executionId, number⟩ claimId profile granted lease),
                db.putExecution executionId granted)) := by
            simp [RuntimeError.WaitedOut, integrityError, ErrorKind.isWaitedOut]
          simp only [grants]
          refine iff_of_true only ?_
          rintro ⟨_, others, _⟩
          exact (others executionId (List.mem_cons_self ..)).1 verdict

end Candidates

section Calls

variable [DecidableEq D] (env : Env D) (now : Instant) (workspaceId : Uuid)
  (workspace : Workspace) (claimId : Uuid) (db : Db D)

/-- The claim id is not refused for good.  The rows are those the call answers on, after
the expired leases of the Workspace. -/
structure Db.ClaimGoesOn : Prop where
  expires : RaisesOnly RuntimeError.WaitedOut
    (reconcileExpiredLeases env now workspaceId workspace db)
  attempt : ∀ rows id execution attempt,
    reconcileExpiredLeases env now workspaceId workspace db = .ok rows →
    rows.attemptByClaim claimId = some (id, execution, attempt) →
    rows.AttemptClaimGoesOn env now workspaceId workspace execution attempt
  acquisition : ∀ rows id execution attempt lease acquisition,
    reconcileExpiredLeases env now workspaceId workspace db = .ok rows →
    rows.attemptByClaim claimId = none →
    rows.acquisitionByClaim claimId = some (id, execution, attempt, lease, acquisition) →
    AcquisitionClaimGoesOn env now workspaceId workspace execution attempt lease acquisition
  fresh : ∀ rows, reconcileExpiredLeases env now workspaceId workspace db = .ok rows →
    rows.attemptByClaim claimId = none → rows.acquisitionByClaim claimId = none →
    ¬ rows.WaitsForRelease env now workspaceId workspace (rows.candidates workspaceId)
      ⟨false, false, false⟩

end Calls

section Calls

variable [DecidableEq D] {env : Env D} {now : Instant} {context : RuntimeContext}
  {claimId : Uuid} {slots : Nat} {workspace : Workspace} {db : Db D}

omit [DecidableEq D] in
theorem claimGates_cases (stored : db.workspaces.lookup context.workspace = some workspace)
    (current : workspace.machineGeneration = context.machineGeneration)
    (counted : 1 ≤ slots ∧ slots ≤ maxAvailableSlots) :
    (isRuntimeReady env now workspace = true ∧
        claimGates env now context slots db = .ok workspace) ∨
      isRuntimeReady env now workspace = false ∧
        ∃ error, claimGates env now context slots db = .error error ∧ error.WaitedOut := by
  have starts : claimGates env now context slots db = (do
      require workspace.isServing (notReadyError "workspace is not ready for claims")
      require (isRuntimeReady env now workspace)
        (notReadyError "workspace readiness receipt is missing or stale")
      return workspace) := by
    simp only [claimGates, requireCurrentRuntimeReadyLocked, require_of _ _ counted, ok_bind,
      stored, orRaise_some, require_of _ _ current, require_of _ _ trivial]
  rw [starts]
  by_cases ready : isRuntimeReady env now workspace = true
  · have serving : workspace.isServing = true := by
      simp only [isRuntimeReady, decide_eq_true_eq] at ready
      exact ready.1
    left
    refine ⟨ready, ?_⟩
    rw [require_of _ _ serving, ok_bind, require_of _ _ ready]
    rfl
  · right
    refine ⟨by simpa using ready, ?_⟩
    by_cases serving : workspace.isServing = true
    · refine ⟨notReadyError "workspace readiness receipt is missing or stale", ?_, rfl⟩
      rw [require_of _ _ serving, ok_bind, require_of_not _ _ ready]
      rfl
    · refine ⟨notReadyError "workspace is not ready for claims", ?_, rfl⟩
      rw [require_of_not _ _ serving]
      rfl

theorem claimNextExecution_raisesOnly (held : db.ClaimsHeld)
    (stored : db.workspaces.lookup context.workspace = some workspace)
    (current : workspace.machineGeneration = context.machineGeneration)
    (counted : 1 ≤ slots ∧ slots ≤ maxAvailableSlots) :
    RaisesOnly RuntimeError.WaitedOut
        (claimNextExecution env now context claimId slots db) ↔
      (isRuntimeReady env now workspace = true →
        db.ClaimGoesOn env now context.workspace workspace claimId) := by
  rcases @claimGates_cases D env now _ _ _ _ stored current counted with
    ⟨ready, passes⟩ | ⟨unready, _, refused, waited⟩
  · simp only [claimNextExecution, passes, ok_bind, raisesOnly_bind, ready, forall_const]
    constructor
    · rintro ⟨expires, answers⟩
      refine ⟨expires, ?_, ?_, ?_⟩
      · intro rows id execution attempt reconciles known
        have answer := answers rows reconciles
        simp only [replayClaim, known, raisesOnly_bind] at answer
        exact replayAttemptClaim_raisesOnly.mp answer.1
      · intro rows id execution attempt lease acquisition reconciles unknown known
        have answer := answers rows reconciles
        simp only [replayClaim, unknown, known, raisesOnly_bind] at answer
        exact replayAcquisitionClaim_raisesOnly.mp answer.1
      · intro rows reconciles unknown new
        have answer := answers rows reconciles
        simp only [replayClaim, unknown, new] at answer
        exact (claimCandidates_raisesOnly (reconciled_claimsHeld
          ⟨now, .claimNextExecution context claimId slots⟩ context.workspace rows rfl held
          reconciles) claimId _ _).mp answer
    · rintro ⟨expires, attempt, acquisition, fresh⟩
      refine ⟨expires, ?_⟩
      intro rows reconciles
      cases known : rows.attemptByClaim claimId with
      | some found =>
        obtain ⟨id, execution, row⟩ := found
        simp only [replayClaim, known, raisesOnly_bind, raisesOnly_pure, implies_true, and_true]
        exact replayAttemptClaim_raisesOnly.mpr (attempt rows id execution row reconciles known)
      | none =>
        cases acquired : rows.acquisitionByClaim claimId with
        | some found =>
          obtain ⟨id, execution, row, lease, leg⟩ := found
          simp only [replayClaim, known, acquired, raisesOnly_bind, raisesOnly_pure,
            implies_true, and_true]
          exact replayAcquisitionClaim_raisesOnly.mpr
            (acquisition rows id execution row lease leg reconciles known acquired)
        | none =>
          simp only [replayClaim, known, acquired]
          exact (claimCandidates_raisesOnly (reconciled_claimsHeld
            ⟨now, .claimNextExecution context claimId slots⟩ context.workspace rows rfl held
            reconciles) claimId _ _).mpr (fresh rows reconciles known acquired)
  · simp only [claimNextExecution, refused, error_bind, raisesOnly_error, unready,
      Bool.false_eq_true, false_implies, iff_true]
    exact waited

end Calls

/-! ## Receipts -/

/-- The loop waits the error of a receipt out: a fence sends it back to the profiles. -/
def RuntimeError.ReceiptWaitedOut (error : RuntimeError) : Prop :=
  error.kind = .fenced ∨ error.WaitedOut

structure Workspace.ReplacesBoot (workspace : Workspace) (bootId : Uuid)
    (generation startEpoch : Nat) : Prop where
  generation : generation = workspace.machineGeneration
  epoch : startEpoch = workspace.runtimeStartEpoch
  serving : workspace.isServing = true
  awaited : workspace.runtimeOperationState = .awaitingReadiness
  boot : ∃ ready, workspace.readyBootId = some ready ∧ ready ≠ bootId

variable {workspace : Workspace}

theorem acceptRuntimeReadiness_raisesOnly {db : Db D}
    (now : Instant) (context : RuntimeContext) (bootId : Uuid) (generation startEpoch : Nat)
    (stored : db.workspaces.lookup context.workspace = some workspace)
    (current : workspace.machineGeneration = context.machineGeneration)
    (positive : 0 < generation) :
    RaisesOnly RuntimeError.ReceiptWaitedOut
        (acceptRuntimeReadiness now context bootId generation startEpoch db) ↔
      ¬ workspace.ReplacesBoot bootId generation startEpoch := by
  have notReady : ∀ message, (notReadyError message).ReceiptWaitedOut := fun _ => .inr rfl
  have fenced : ∀ message, (fencedError message).ReceiptWaitedOut := fun _ => .inl rfl
  constructor
  · rintro only ⟨isGeneration, epoch, serving, awaited, _, recorded, other⟩
    have refused : acceptRuntimeReadiness now context bootId generation startEpoch db =
        .error (conflictError "runtime boot was replaced") := by
      simp only [acceptRuntimeReadiness, require_of _ _ positive, require_of _ _ current,
        require_of _ _ isGeneration, require_of _ _ epoch, require_of _ _ serving, stored,
        orRaise_some, ok_bind]
      simp [require, awaited, recorded, other]
    rcases only _ refused with isFence | waited
    · cases isFence
    · cases waited
  · intro kept
    rw [acceptRuntimeReadiness]
    refine (raisesOnly_bind _ _).mpr ⟨(raisesOnly_require _ _).mpr fun absent =>
      absurd positive absent, fun _ _ => ?_⟩
    rw [stored, orRaise_some, ok_bind]
    refine (raisesOnly_bind _ _).mpr ⟨(raisesOnly_require _ _).mpr fun _ => fenced _, fun _ _ => ?_⟩
    refine (raisesOnly_bind _ _).mpr ⟨(raisesOnly_require _ _).mpr fun _ => fenced _,
      fun _ isGeneration => ?_⟩
    refine (raisesOnly_bind _ _).mpr ⟨(raisesOnly_require _ _).mpr fun _ => fenced _,
      fun _ epoch => ?_⟩
    refine (raisesOnly_bind _ _).mpr ⟨(raisesOnly_require _ _).mpr fun _ => notReady _,
      fun _ serving => ?_⟩
    refine (raisesOnly_bind _ _).mpr ⟨(raisesOnly_require _ _).mpr fun _ => notReady _,
      fun _ _ => ?_⟩
    refine (raisesOnly_bind _ _).mpr ⟨(raisesOnly_require _ _).mpr fun replaced => ?_,
      fun _ _ => raisesOnly_pure _⟩
    rw [require_eq_ok] at isGeneration epoch serving
    simp only [not_or, decide_eq_false_iff_not, not_not, Bool.not_eq_false, Option.any_eq_true,
      decide_eq_true_eq] at replaced
    exact absurd ⟨isGeneration, epoch, serving, replaced.1, replaced.2⟩ kept

theorem settleRuntimeReadiness_raisesOnly {store : PowerDb D}
    (now : Instant) (context : RuntimeContext) (bootId : Uuid) (generation startEpoch : Nat)
    (stored : store.db.workspaces.lookup context.workspace = some workspace)
    (current : workspace.machineGeneration = context.machineGeneration)
    (positive : 0 < generation) :
    RaisesOnly RuntimeError.ReceiptWaitedOut
        (settleRuntimeReadiness now context bootId generation startEpoch store) ↔
      ¬ workspace.ReplacesBoot bootId generation startEpoch := by
  rw [← acceptRuntimeReadiness_raisesOnly now context bootId generation startEpoch stored current
    positive, settleRuntimeReadiness, raisesOnly_bind]
  simp [stored]

end Foundry
