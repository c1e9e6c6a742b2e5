import Foundry.Evolution.Changes

/-!
# Steps of Workspace and profile rows

A call rewrites a Workspace row or a profile row in one of the ways listed here,
with the checks it made before.  What every step keeps is kept by every call.
-/

set_option autoImplicit false

namespace Foundry

open Raise

variable {D : Type}

def Db.Drew (start db : Db D) (id : Uuid) : Prop :=
  start.supply ≤ id ∧ id < db.supply

section

variable (db : Db D)

theorem Db.drew : db.Drew db.draw db.supply :=
  ⟨Nat.le_refl _, Nat.lt_succ_self _⟩

theorem Db.drew_first : db.Drew db.draw.draw db.supply :=
  ⟨Nat.le_refl _, Nat.lt_succ_of_lt (Nat.lt_succ_self _)⟩

theorem Db.drew_second : db.Drew db.draw.draw (db.supply + 1) :=
  ⟨Nat.le_succ _, Nat.lt_succ_self _⟩

theorem Db.putWorkspace_again (id : Uuid) (workspace later : Workspace) :
    (db.putWorkspace id workspace).putWorkspace id later = db.putWorkspace id later := by
  simp only [Db.putWorkspace, AList.insert_insert]

theorem Db.putProfile_again (id : Uuid) (profile later : RuntimeProfile D) :
    (db.putProfile id profile).putProfile id later = db.putProfile id later := by
  simp only [Db.putProfile, AList.insert_insert]

end

/-! ## Workspaces -/

/-- The services that advance the activity revision of a Workspace. -/
def Service.advancesActivity : Service → Bool
  | .ensureRuntimeProfile | .requestProfileCleanup | .acceptCleanupReceipt
  | .expireProfileCleanup | .coordinateProfileDeletion | .createExecution
  | .createExecutionIntent => true
  | _ => false

/-- The row after `bind_idle`; `drawn` becomes the operation of an idle Workspace. -/
def Workspace.boundIdle (now : Instant) (drawn : Uuid) (machineRef : String) (images : Images)
    (workspace : Workspace) : Workspace :=
  { workspace with
    machineRef := some machineRef
    appliedImages := images
    releaseTarget := { workspace.releaseTarget with pin := none }
    activationClaimToken :=
      if workspace.releaseTarget.pin.isSome then none else workspace.activationClaimToken
    activationClaimExpiresAt :=
      if workspace.releaseTarget.pin.isSome then none else workspace.activationClaimExpiresAt
    provisioningPhase := .idle
    provisioningClaimToken := none
    provisioningClaimExpiresAt := none
    runtimeOperationId := some (workspace.runtimeOperationId.getD drawn)
    runtimeOperationState := .awaitingReadiness
    runtimeOperationTrigger := none
    runtimeOperationRequestedAt := some now }

def Workspace.readied (now : Instant) (bootId : Uuid) (workspace : Workspace) : Workspace :=
  let acceptingStart : Bool := workspace.runtimeOperationState = .awaitingReadiness
  let bootReplaced := workspace.readyBootId.any fun ready => ready ≠ bootId
  let ready := { workspace with
    readyGeneration := some workspace.machineGeneration
    readyStartEpoch := some workspace.runtimeStartEpoch
    readyBootId := some bootId
    readyAt :=
      if workspace.readyAt = none ∨ acceptingStart = true ∨ bootReplaced = true then some now
      else workspace.readyAt
    runtimeLastSeenAt := some now }
  if acceptingStart then
    { ready with
      runtimeOperationId := none
      runtimeOperationState := .idle
      runtimeOperationTrigger := none
      runtimeOperationRequestedAt := none
      runtimeOperationRetryCount := 0 }
  else ready

structure Workspace.AcceptsReadiness (workspace : Workspace) (context : RuntimeContext)
    (bootId : Uuid) (generation startEpoch : Nat) : Prop where
  positive : 0 < generation
  credential : workspace.machineGeneration = context.machineGeneration
  generation : generation = workspace.machineGeneration
  epoch : startEpoch = workspace.runtimeStartEpoch
  serving : workspace.isServing = true
  awaited : workspace.runtimeOperationState = .awaitingReadiness ∨
    workspace.runtimeOperationState = .idle
  boot : workspace.runtimeOperationState = .awaitingReadiness →
    ∀ ready, workspace.readyBootId = some ready → ready = bootId

theorem acceptRuntimeReadiness_iff
    (now : Instant) (context : RuntimeContext) (bootId : Uuid) (generation startEpoch : Nat)
    (db next : Db D) (answer : Unit) :
    acceptRuntimeReadiness now context bootId generation startEpoch db = .ok (answer, next) ↔
      ∃ workspace, db.workspaces.lookup context.workspace = some workspace ∧
        workspace.AcceptsReadiness context bootId generation startEpoch ∧
        next = db.putWorkspace context.workspace (workspace.readied now bootId) := by
  constructor
  · intro success
    simp only [acceptRuntimeReadiness, bind_eq_ok, orRaise_eq_ok, require_eq_ok, return_eq_ok] at success
    obtain ⟨_, positive, workspace, stored, _, credential, _, isGeneration, _, epoch, _, serving, _,
      awaited, _, boot, _, written⟩ := success
    refine ⟨workspace, stored, ⟨positive, credential, isGeneration, epoch, serving, ?_, ?_⟩, ?_⟩
    · simpa using awaited
    · intro awaiting ready isReady
      simpa [awaiting, isReady] using boot
    · subst isGeneration epoch
      exact written.symm
  · rintro ⟨workspace, stored, accepts, rfl⟩
    have boot := accepts.boot
    simp only [acceptRuntimeReadiness, bind_eq_ok, orRaise_eq_ok, require_eq_ok, return_eq_ok]
    refine ⟨(), accepts.positive, workspace, stored, (), accepts.credential, (), accepts.generation,
      (), accepts.epoch, (), accepts.serving, (), ?_, (), ?_, trivial, ?_⟩
    · simpa using accepts.awaited
    · by_cases awaiting : workspace.runtimeOperationState = .awaitingReadiness
      · right
        cases isReady : workspace.readyBootId with
        | none => rfl
        | some ready => simp [boot awaiting ready isReady]
      · left
        simpa using awaiting
    · obtain ⟨_, _, rfl, rfl, _⟩ := accepts
      rfl

inductive WorkspaceStep (env : Env D) (call : Call D) (start db : Db D) (id : Uuid)
    (workspace : Workspace) : Workspace → Prop
  | activity (advances : call.operation.service.advancesActivity = true) :
      WorkspaceStep env call start db id workspace (advanceWorkspaceActivity workspace)
  | wake (operationId : Uuid) (woken : Workspace) (drawn : start.Drew db operationId)
      (wakes : requestExecutionWakeLocked env call.now operationId workspace = .ok woken) :
      WorkspaceStep env call start db id workspace woken
  /-- A lifecycle worker joins the operation in flight. -/
  | joins (request : LifecycleRequest) (proofHolds : Bool) (token : Uuid)
      (asked : call.operation = .claimOrWait id request proofHolds)
      (drawn : start.Drew db token)
      (kind : workspace.provisioningKind = some request.kind)
      (free : ¬ (workspace.provisioningClaimToken.isSome ∧
        workspace.provisioningClaimExpiresAt.any (fun expiry => call.now < expiry))) :
      WorkspaceStep env call start db id workspace
        { workspace with
          provisioningClaimToken := some token
          provisioningClaimExpiresAt := some (call.now + seconds claimSeconds) }
  /-- A lifecycle worker opens an operation, and with it the next generation. -/
  | opens (request : LifecycleRequest) (proofHolds : Bool) (operationId : Uuid)
      (phase : WorkspaceProvisioningPhase) (opened : Workspace)
      (asked : call.operation = .claimOrWait id request proofHolds)
      (drawn : start.Drew db operationId)
      (idle : workspace.provisioningPhase = .idle)
      (source : (request = .ensure ∧ workspace.machineGeneration = 0 ∧ phase = .appReady) ∨
        (request = .replace workspace.machineGeneration ∧ phase = .oldMachineStopped))
      (written : openOperation request operationId (workspace.machineGeneration + 1) phase
        workspace = .ok opened) :
      WorkspaceStep env call start db id workspace opened
  | phase (operation token : Uuid) (phase : WorkspaceProvisioningPhase) (updates : PhaseUpdates)
      (asked : call.operation = .casPhase id operation token phase updates)
      (operates : workspace.provisioningId = some operation)
      (claimed : workspace.provisioningClaimToken = some token) :
      WorkspaceStep env call start db id workspace
        { workspace with
          flyAppRef := updates.flyAppRef <|> workspace.flyAppRef
          volumeRef := updates.volumeRef <|> workspace.volumeRef
          machineRef := updates.machineRef <|> workspace.machineRef
          provisioningPhase := phase
          provisioningClaimToken := none
          provisioningClaimExpiresAt := none }
  | binds (operation token drawnId : Uuid) (machineRef : String) (images : Images)
      (asked : call.operation = .bindIdle id operation token machineRef images)
      (drawn : start.Drew db drawnId)
      (operates : workspace.provisioningId = some operation)
      (claimed : workspace.provisioningClaimToken = some token) :
      WorkspaceStep env call start db id workspace
        (workspace.boundIdle call.now drawnId machineRef images)
  | gaveUp (operation token : Uuid) (retryable : Bool)
      (asked : call.operation = .handleFailure id operation token retryable)
      (operates : workspace.provisioningId = some operation)
      (claimed : workspace.provisioningClaimToken = some token) :
      WorkspaceStep env call start db id workspace
        { workspace with
          provisioningPhase := if retryable then workspace.provisioningPhase else .failed
          provisioningClaimToken := none
          provisioningClaimExpiresAt := none }
  | ready (context : RuntimeContext) (bootId : Uuid) (generation startEpoch : Nat)
      (asked : call.operation = .acceptRuntimeReadiness context bootId generation startEpoch)
      (named : context.workspace = id)
      (accepts : workspace.AcceptsReadiness context bootId generation startEpoch) :
      WorkspaceStep env call start db id workspace (workspace.readied call.now bootId)
  /-- Anything, in the columns of the maintenance workers. -/
  | maintain (columns : MaintenanceColumns) (later : Workspace)
      (asked : call.operation = .maintainWorkspace id columns)
      (same : later.machineGeneration = workspace.machineGeneration) :
      WorkspaceStep env call start db id workspace later

section Steps

variable {env : Env D} {call : Call D} {start db : Db D} {id : Uuid} {workspace later : Workspace}

theorem openOperation_generation (request : LifecycleRequest) (operationId : Uuid) (target : Nat)
    (phase : WorkspaceProvisioningPhase) (workspace opened : Workspace)
    (success : openOperation request operationId target phase workspace = .ok opened) :
    opened.machineGeneration = target := by
  simp only [openOperation, bind_eq_ok] at success
  obtain ⟨advanced, advances, success⟩ := success
  have same := advanceRuntimeStartEpochLocked_generation advances
  split at success
  all_goals
    cases success
    exact same

theorem WorkspaceStep.grows (step : WorkspaceStep env call start db id workspace later) :
    workspace.machineGeneration ≤ later.machineGeneration := by
  cases step with
  | wake _ _ _ wakes =>
    exact Nat.le_of_eq (requestExecutionWakeLocked_generation env call.now _ _ later wakes).symm
  | opens _ _ _ _ _ _ _ _ _ written =>
    have generation := openOperation_generation _ _ _ _ _ later written
    omega
  | ready =>
    simp only [Workspace.readied]
    split <;> exact Nat.le_refl _
  | maintain _ _ _ same => exact Nat.le_of_eq same.symm
  | _ => exact Nat.le_refl _

end Steps

/-! ## Profiles -/

section Profiles

inductive ProfileStep (env : Env D) (call : Call D) (start db : Db D) (id : Uuid)
    (profile : RuntimeProfile D) : RuntimeProfile D → Prop
  /-- `ensure_runtime_profile` on a row without a seed. -/
  | seed (seed : Json) (fingerprint : String)
      (service : call.operation.service = .ensureRuntimeProfile) :
      ProfileStep env call start db id profile
        { profile with seedPayload := some seed, seedFingerprint := fingerprint }
  | materialize (context : RuntimeContext) (operation : Uuid) (epoch generation : Nat)
      (fingerprint code : String) (workspace : Workspace) (digest : D) (receiptId : Uuid)
      (asked : call.operation = .acceptMaterializationReceipt context id operation epoch generation
        fingerprint code)
      (unfenced : profile.lifecycleState = .pending ∨ profile.lifecycleState = .active)
      (current : profile.lifecycleEpoch = epoch)
      (stored : start.workspaces.lookup context.workspace = some workspace)
      (home : profile.workspace = context.workspace)
      (served : generation = workspace.machineGeneration) :
      ProfileStep env call start db id profile
        { profile with
          lifecycleState := .active
          materializedGeneration := generation
          materializationOperationId := some operation
          materializationRequestDigest := some digest
          materializationReceiptId := some receiptId
          materializationResultCode := code }
  | requestCleanup (workspace operation : Uuid) (contextDigest : String)
      (supplied : Option Instant) (digest : D) (expiresAt : Instant)
      (asked : call.operation = .requestProfileCleanup workspace id operation contextDigest
        supplied)
      (first : profile.cleanupOperationId = none)
      (kept : profile.lifecycleState ≠ .deprovisioned) :
      ProfileStep env call start db id profile
        { profile with
          lifecycleEpoch := profile.lifecycleEpoch + 1
          lifecycleState := .cleanupPending
          cleanupOperationId := some operation
          cleanupContextDigest := contextDigest
          cleanupRequestDigest := some digest
          cleanupExpiresAt := some expiresAt
          cleanupRetryAfter := some (min expiresAt (call.now + seconds cleanupGraceSeconds))
          cleanupResultCode := "cleanup_pending" }
  /-- A runtime reports that the files are gone. -/
  | deprovision (context : RuntimeContext) (operation : Uuid) (epoch : Nat) (digest : D)
      (proof : CleanupProof) (workspace : Workspace) (receiptId : Uuid)
      (asked : call.operation = .acceptCleanupReceipt context id operation epoch digest
        .deprovisioned 0 proof)
      (stored : start.workspaces.lookup context.workspace = some workspace)
      (home : profile.workspace = context.workspace)
      (operates : profile.cleanupOperationId = some operation)
      (requested : profile.cleanupRequestDigest = some digest)
      (current : profile.lifecycleEpoch = epoch)
      (proven : checkCleanupProof call.now workspace profile epoch true proof = .ok ())
      (resolved : start.unresolvedLeaseCount id = 0) :
      ProfileStep env call start db id profile
        { profile with
          lifecycleState := .deprovisioned
          materializedGeneration := 0
          cleanupCompletedAt := some call.now
          cleanupReceiptId := some receiptId
          cleanupResultCode := CleanupResult.deprovisioned.code
          cleanupRetryAfter := none }
  | repair (receiptId : Uuid) (asked : call.operation.cleanupProfile = some id)
      (begun : profile.cleanupOperationId ≠ none ∨ profile.lifecycleState = .cleanupPending) :
      ProfileStep env call start db id profile (profile.requireRepair call.now receiptId)
  /-- A cleanup that is not done yet. -/
  | retry (retryAfter : Option Instant) (code : String)
      (service : call.operation.service = .acceptCleanupReceipt) :
      ProfileStep env call start db id profile
        { profile with cleanupRetryAfter := retryAfter, cleanupResultCode := code }
  | observe (service : call.operation.service = .coordinateProfileDeletion)
      (quiescing : profile.cleanupRequiresQuiescence = true)
      (kept : profile.lifecycleState ≠ .deprovisioned) :
      ProfileStep env call start db id profile (observeDeadline call.now profile)
  /-- `begin_deletion`: a new attempt of a deletion. -/
  | delete (attemptId operation : Uuid) (contextDigest : String) (digest : D)
      (expiresAt : Instant) (service : call.operation.service = .coordinateProfileDeletion)
      (drawn : start.Drew db attemptId)
      (allowed : profile.cleanupOperationId = none ∨ profile.cleanupOperationId = some operation)
      (kept : profile.cleanupRequiresQuiescence = true → profile.lifecycleState ≠ .deprovisioned) :
      ProfileStep env call start db id profile
        { profile with
          cleanupPreviousAttemptId := profile.cleanupAttemptId
          cleanupAttemptId := some attemptId
          cleanupOperationId := some operation
          cleanupRequiresQuiescence := true
          lifecycleEpoch := profile.lifecycleEpoch + 1
          lifecycleState := .cleanupPending
          cleanupExpiresAt := some expiresAt
          cleanupContextDigest := contextDigest
          cleanupRequestDigest := some digest
          cleanupReceiptId := none
          cleanupCompletedAt := none
          cleanupResultCode := "cleanup_pending"
          cleanupRetryAfter := some call.now }

variable {env : Env D} {call : Call D} {start db : Db D} {id : Uuid}
  {profile later : RuntimeProfile D}

theorem ProfileStep.same (step : ProfileStep env call start db id profile later) :
    later.workspace = profile.workspace ∧ later.allyRef = profile.allyRef := by
  cases step with
  | observe =>
    simp only [observeDeadline]
    split <;> exact ⟨rfl, rfl⟩
  | _ => exact ⟨rfl, rfl⟩

theorem ProfileStep.of_supply {other : Db D} (step : ProfileStep env call start db id profile later)
    (same : other.supply = db.supply) : ProfileStep env call start other id profile later := by
  cases step with
  | seed seed fingerprint service => exact .seed seed fingerprint service
  | materialize context operation epoch generation fingerprint code workspace digest receiptId asked
      unfenced current stored home served =>
    exact .materialize context operation epoch generation fingerprint code workspace digest
      receiptId asked unfenced current stored home served
  | requestCleanup workspace operation contextDigest supplied digest expiresAt asked first kept =>
    exact .requestCleanup workspace operation contextDigest supplied digest expiresAt asked first
      kept
  | deprovision context operation epoch digest proof workspace receiptId asked stored home operates
      requested current proven resolved =>
    exact .deprovision context operation epoch digest proof workspace receiptId asked stored home
      operates requested current proven resolved
  | repair receiptId asked begun => exact .repair receiptId asked begun
  | retry retryAfter code service => exact .retry retryAfter code service
  | observe service quiescing kept => exact .observe service quiescing kept
  | delete attemptId operation contextDigest digest expiresAt service drawn allowed kept =>
    exact .delete attemptId operation contextDigest digest expiresAt service
      ⟨drawn.1, by rw [same]; exact drawn.2⟩ allowed kept

end Profiles

end Foundry
