import Foundry.Properties.Claims
import Foundry.Properties.Reconciliation

/-!
# The candidate loop grants whole claims

The loop passes a candidate over without a trace, or grants it and ends.  The branch that
leaves an attempt running on a lease that is not free needs a lease of the attempt in
another scope than its routine's, which no state has.
-/

set_option autoImplicit false

namespace Foundry

open Raise

variable {D : Type}

/-- The candidate runs on an ACTIVE lease of the claim, and no other row has changed. -/
def Db.GrantsWhole (terms : GrantTerms D) (id : AttemptId) (db next : Db D) : Prop :=
  ∃ execution granted lease attempt, db.executions.lookup id.execution = some execution ∧
    Granted terms execution id.number lease attempt ∧
    granted.attempt? id.number = some attempt ∧ granted.status = .running ∧
    granted.routine = execution.routine.map (fun routine => { routine with
      status := .working, generation := terms.generation, currentAttempt := some id.number }) ∧
    (∀ other, other ≠ id.number → granted.attempt? other = execution.attempt? other) ∧
    next = db.putExecution id.execution granted

theorem grant_routine (terms : GrantTerms D) (execution granted : Execution D) (number : Nat)
    (lease : Lease D) (grants : grant terms execution = .granted number lease granted) :
    granted.routine = execution.routine.map fun routine => { routine with
      status := .working, generation := terms.generation, currentAttempt := some number } := by
  simp only [grant] at grants
  split at grants
  · next ordinary =>
    cases grants
    rw [ordinary]
    exact ordinary
  · next has =>
    simp only [grantRoutine] at grants
    rw [has]
    split at grants
    · cases grants
      rfl
    · split at grants <;> cases grants
      rfl

variable [DecidableEq D]

/-- In every state that a claim reconciles, no candidate is given up half granted; and the
call leaves that state alone, or one candidate is granted whole. -/
theorem claim_loop_never_abandons (env : Env D) (calls : List (Call D)) (now : Instant)
    (context : RuntimeContext) (claimId : Uuid) (slots : Nat) (workspace : Workspace)
    (reconciled : Db D)
    (passes : claimGates env now context slots (run env Db.empty calls) = .ok workspace)
    (reconciles : reconcileExpiredLeases env now context.workspace workspace
      (run env Db.empty calls) = .ok reconciled) :
    (∀ executionId execution, reconciled.executions.lookup executionId = some execution →
      reconciled.verdict env now context.workspace workspace executionId = .taken →
      ∀ terms started, grant terms execution ≠ .abandoned started) ∧
    ∀ answer next, claimNextExecution env now context claimId slots (run env Db.empty calls) =
        .ok (answer, next) →
      next.ClaimsUnique ∧
      (next = reconciled ∨ ∃ claim tokenDigest, answer = some claim ∧
        reconciled.taken env now context.workspace workspace
          (reconciled.candidates context.workspace) = some claim.attempt.execution ∧
        reconciled.GrantsWhole ⟨now, claimId, workspace.machineGeneration, tokenDigest⟩
          claim.attempt next) := by
  have held : reconciled.ClaimsHeld :=
    reconciled_claimsHeld ⟨now, .claimNextExecution context claimId slots⟩ context.workspace
      reconciled rfl (run_claimsHeld env calls) reconciles
  constructor
  · intro executionId execution stored taken terms started abandons
    obtain ⟨profile, decided⟩ := reconciled.candidate_of_verdict stored taken
    obtain ⟨_, _, _, grants⟩ := grant_of_taken held terms executionId execution
      profile stored decided
    rw [grants] at abandons
    cases abandons
  · intro answer next success
    refine ⟨((claimNextExecution_evolution env ⟨now, .claimNextExecution context claimId slots⟩
      _ next context claimId slots answer rfl success).keeps Db.ClaimsHeld
        (fun _ _ write => write.claimsHeld) (run_claimsHeld env calls)).claimsUnique, ?_⟩
    simp only [claimNextExecution, passes, reconciles, ok_bind] at success
    split at success
    · simp only [bind_eq_ok, return_eq_ok] at success
      obtain ⟨_, _, _, rfl⟩ := success
      exact .inl rfl
    · rcases claimCandidates_grants held claimId _ _ answer next success with
        ⟨_, same⟩ | ⟨claim, executionId, execution, granted, number, lease, isClaim, taken, stored,
          grants, isAttempt, same⟩
      · exact .inl same
      · obtain ⟨attempt, isGranted, running, found, others⟩ := grant_granted _ execution granted
          number lease grants
        have whole : reconciled.GrantsWhole _ ⟨executionId, number⟩ next :=
          ⟨execution, granted, lease, attempt, stored, isGranted, found, running,
            grant_routine _ _ _ _ _ grants, others, same⟩
        rw [← isAttempt] at whole
        exact .inr ⟨claim, _, isClaim, isAttempt ▸ taken, whole⟩

def unclaimedWork : List (Call PlainDigest) :=
  bringUp ++ [⟨0, .createExecution 0 50 "key" (.obj [])⟩]

def firstClaim : Except RuntimeError (Option Claim × Db PlainDigest) :=
  claimNextExecution Env.plain 0 ⟨0, 1⟩ 60 1 (run Env.plain Db.empty unclaimedWork)

/-- The first claim of queued work grants it. -/
theorem first_claim_is_granted_whole :
    ∃ workspace reconciled claim terms next,
      claimGates Env.plain 0 ⟨0, 1⟩ 1 (run Env.plain Db.empty unclaimedWork) = .ok workspace ∧
      reconcileExpiredLeases Env.plain 0 0 workspace (run Env.plain Db.empty unclaimedWork) =
        .ok reconciled ∧
      firstClaim = .ok (some claim, next) ∧ reconciled.GrantsWhole terms claim.attempt next := by
  obtain ⟨reconciled, success⟩ := succeeds_of_isSome
    (claimGates Env.plain 0 ⟨0, 1⟩ 1 (run Env.plain Db.empty unclaimedWork) >>= fun workspace =>
      reconcileExpiredLeases Env.plain 0 0 workspace (run Env.plain Db.empty unclaimedWork))
    (by decide +kernel)
  have unclaimed : ((claimGates Env.plain 0 ⟨0, 1⟩ 1 (run Env.plain Db.empty unclaimedWork) >>=
      fun workspace => reconcileExpiredLeases Env.plain 0 0 workspace
        (run Env.plain Db.empty unclaimedWork)).toOption.all fun db => db.attempts.isEmpty) =
      true := by decide +kernel
  rw [success] at unclaimed
  obtain ⟨workspace, passes, reconciles⟩ := (bind_eq_ok _ _ _).mp success
  obtain ⟨⟨answer, next⟩, claims⟩ := succeeds_of_isSome firstClaim (by decide +kernel)
  have claimed : (firstClaim.toOption.all fun answer => answer.2.attempts.isEmpty) = false := by
    decide +kernel
  rw [claims] at claimed
  obtain ⟨_, same | ⟨claim, _, rfl, _, whole⟩⟩ := (claim_loop_never_abandons Env.plain
    unclaimedWork 0 ⟨0, 1⟩ 60 1 workspace reconciled passes reconciles).2 answer next claims
  · rw [same] at claimed
    cases unclaimed.symm.trans claimed
  · exact ⟨workspace, reconciled, claim, _, next, passes, reconciles, claims, whole⟩

end Foundry
