import Foundry.Evolution.Claims

/-!
# Workspaces, profiles and new Executions

The lifecycle operations write Workspace and profile rows.  They touch Executions
in four ways only: a cleanup stops or fences the profile's leases, a finished
deletion removes them, and a command creates one.
-/

set_option autoImplicit false

namespace Foundry

open Population Raise

variable {D : Type} [DecidableEq D]

section

variable (env : Env D) (call : Call D) (start db next : Db D)

/-! ## Workspaces -/

omit [DecidableEq D] in
theorem workspaceByTenant_lookup {tenantRef : String} {id : Uuid} {workspace : Workspace}
    (found : db.workspaceByTenant tenantRef = some (id, workspace)) :
    db.workspaces.lookup id = some workspace :=
  (Table.mem_rows _ _ _).mp (List.mem_of_find?_eq_some found)

theorem joinOperation_evolution
    (workspaceId token : Uuid) (request : LifecycleRequest) (proofHolds : Bool)
    (workspace : Workspace) (reply : LifecycleReply)
    (asked : call.operation = .claimOrWait workspaceId request proofHolds)
    (drawn : start.Drew db token) (stored : db.workspaces.lookup workspaceId = some workspace)
    (success : joinOperation call.now workspaceId token request workspace db =
      .ok (reply, next)) :
    Evolution env call start db next := by
  simp only [joinOperation] at success
  split at success
  · simp only [return_eq_ok] at success
    exact success.2 ▸ .refl db
  · next sameKind =>
    have kind : workspace.provisioningKind = some request.kind := not_not.mp sameKind
    split at success
    · split at success
      · simp only [return_eq_ok] at success
        exact success.2 ▸ .refl db
      · next free =>
        simp only [bind_eq_ok, return_eq_ok] at success
        obtain ⟨_, _, _, rfl⟩ := success
        exact .workspace workspaceId workspace _ stored
          (.joins _ proofHolds token asked drawn kind free)
    · simp only [bind_eq_ok] at success
      obtain ⟨_, _, success⟩ := success
      split at success
      · simp only [return_eq_ok] at success
        exact success.2 ▸ .refl db
      · next free =>
        simp only [bind_eq_ok, return_eq_ok] at success
        obtain ⟨_, _, _, rfl⟩ := success
        exact .workspace workspaceId workspace _ stored
          (.joins _ proofHolds token asked drawn kind free)

section

variable (workspaceId : Uuid) (request : LifecycleRequest) (proofHolds : Bool)

theorem openAndJoin_evolution
    (phase : WorkspaceProvisioningPhase) (workspace opened : Workspace) (reply : LifecycleReply)
    (asked : call.operation = .claimOrWait workspaceId request proofHolds)
    (stored : db.workspaces.lookup workspaceId = some workspace)
    (idle : workspace.provisioningPhase = .idle)
    (source : (request = .ensure ∧ workspace.machineGeneration = 0 ∧ phase = .appReady) ∨
      (request = .replace workspace.machineGeneration ∧ phase = .oldMachineStopped))
    (written : openOperation request db.supply (workspace.machineGeneration + 1) phase workspace =
      .ok opened)
    (success : joinOperation call.now workspaceId (db.supply + 1) request opened
      ((db.draw.draw.forgetMaterializations workspaceId).putWorkspace workspaceId opened) =
      .ok (reply, next)) :
    Evolution env call db db next := by
  have drawn : Evolution env call db db db.draw.draw := (Evolution.draw db).trans (.draw _)
  have forgets : Evolution env call db db (db.draw.draw.forgetMaterializations workspaceId) :=
    drawn.trans (.single (.forgetMaterializations workspaceId))
  have opens : Evolution env call db db
      ((db.draw.draw.forgetMaterializations workspaceId).putWorkspace workspaceId opened) :=
    forgets.trans (.workspace workspaceId workspace opened stored
      (.opens request proofHolds db.supply phase opened asked db.drew_first idle source written))
  refine opens.trans (joinOperation_evolution env call db _ next workspaceId _ request proofHolds
    opened reply asked db.drew_second ?_ success)
  simp [Db.putWorkspace]

theorem claimOrWait_evolution (reply : LifecycleReply)
    (asked : call.operation = .claimOrWait workspaceId request proofHolds)
    (success : claimOrWait call.now workspaceId request proofHolds db = .ok (reply, next)) :
    Evolution env call db db next := by
  simp only [claimOrWait, bind_eq_ok, orRaise_eq_ok, require_eq_ok] at success
  obtain ⟨workspace, stored, _, _, success⟩ := success
  split at success
  · have drawn : Evolution env call db db db.draw.draw := (Evolution.draw db).trans (.draw _)
    exact drawn.trans (joinOperation_evolution env call db _ next workspaceId _ request proofHolds
      workspace reply asked db.drew_second stored success)
  · next isIdle =>
    have idle : workspace.provisioningPhase = .idle := not_not.mp isIdle
    split at success
    · split at success
      · simp only [return_eq_ok] at success
        exact success.2 ▸ .refl db
      · simp only [bind_eq_ok] at success
        obtain ⟨opened, opens, success⟩ := success
        have none : workspace.machineGeneration = 0 := by omega
        exact openAndJoin_evolution env call db next workspaceId .ensure proofHolds .appReady
          workspace opened reply asked stored idle (.inl ⟨rfl, none, rfl⟩) (by rw [none]; exact opens)
          success
    · split at success
      · simp only [bind_eq_ok, return_eq_ok] at success
        obtain ⟨_, _, _, rfl⟩ := success
        exact .refl db
      · next expected isSource =>
        obtain rfl : workspace.machineGeneration = expected := not_not.mp isSource
        simp only [bind_eq_ok] at success
        obtain ⟨_, _, opened, opens, success⟩ := success
        exact openAndJoin_evolution env call db next workspaceId (.replace _) proofHolds
          .oldMachineStopped workspace opened reply asked stored idle (.inr ⟨rfl, rfl⟩) opens success

end

theorem registerWorkspace_evolution (tenantRef : String) (id : Uuid)
    (success : registerWorkspace tenantRef db = .ok (id, next)) :
    Evolution env call start db next := by
  simp only [registerWorkspace, bind_eq_ok] at success
  obtain ⟨_, _, success⟩ := success
  split at success
  · simp only [return_eq_ok] at success
    exact success.2 ▸ .refl db
  · cases success
    exact .single (.registerWorkspace tenantRef)

section

variable {workspaceId operationId token : Uuid}

omit [DecidableEq D] in
theorem claimedWorkspace_lookup {workspace : Workspace}
    (success : claimedWorkspace workspaceId operationId token db = .ok workspace) :
    db.workspaces.lookup workspaceId = some workspace ∧
      workspace.provisioningId = some operationId ∧
      workspace.provisioningClaimToken = some token := by
  simp only [claimedWorkspace, bind_eq_ok, orRaise_eq_ok, require_eq_ok, pure_eq_ok] at success
  obtain ⟨_, stored, _, ⟨operates, claimed⟩, rfl⟩ := success
  exact ⟨stored, operates, claimed⟩

theorem casPhase_evolution {phase : WorkspaceProvisioningPhase}
    {updates : PhaseUpdates} {answer : Unit}
    (asked : call.operation = .casPhase workspaceId operationId token phase updates)
    (success : casPhase workspaceId operationId token phase updates db = .ok (answer, next)) :
    Evolution env call start db next := by
  simp only [casPhase, bind_eq_ok, return_eq_ok] at success
  obtain ⟨workspace, claimed, _, rfl⟩ := success
  obtain ⟨stored, operates, claimed⟩ :=
    claimedWorkspace_lookup db claimed
  exact .workspace workspaceId workspace _ stored
    (.phase operationId token phase updates asked operates claimed)

theorem bindIdle_evolution {machineRef : String} {images : Images} {answer : Unit}
    (asked : call.operation = .bindIdle workspaceId operationId token machineRef images)
    (success : bindIdle call.now workspaceId operationId token machineRef images db =
      .ok (answer, next)) :
    Evolution env call db db next := by
  simp only [bindIdle, bind_eq_ok, return_eq_ok] at success
  obtain ⟨workspace, claimed, _, _, _, rfl⟩ := success
  obtain ⟨stored, operates, claimed⟩ :=
    claimedWorkspace_lookup db claimed
  exact (Evolution.draw db).trans (.workspace workspaceId workspace _ stored
    (.binds operationId token db.supply machineRef images asked db.drew operates claimed))

theorem handleFailure_evolution {retryable : Bool} {answer : Unit}
    (asked : call.operation = .handleFailure workspaceId operationId token retryable)
    (success : handleFailure workspaceId operationId token retryable db = .ok (answer, next)) :
    Evolution env call start db next := by
  simp only [handleFailure, bind_eq_ok, orRaise_eq_ok] at success
  obtain ⟨workspace, stored, success⟩ := success
  split at success
  · next owns =>
    cases success
    exact .workspace workspaceId workspace _ stored
      (.gaveUp operationId token retryable asked owns.1 owns.2)
  · simp only [return_eq_ok] at success
    exact success.2 ▸ .refl db

end

theorem acceptRuntimeReadiness_evolution
    (context : RuntimeContext) (bootId : Uuid) (generation startEpoch : Nat) (answer : Unit)
    (asked : call.operation = .acceptRuntimeReadiness context bootId generation startEpoch)
    (success : acceptRuntimeReadiness call.now context bootId generation startEpoch db =
      .ok (answer, next)) :
    Evolution env call start db next := by
  obtain ⟨workspace, stored, accepts, rfl⟩ :=
    (acceptRuntimeReadiness_iff call.now context bootId generation startEpoch db next answer).mp
      success
  exact .workspace context.workspace workspace _ stored
    (.ready context bootId generation startEpoch asked rfl accepts)

theorem maintainWorkspace_evolution
    (workspaceId : Uuid) (columns : MaintenanceColumns) (answer : Unit)
    (asked : call.operation = .maintainWorkspace workspaceId columns)
    (success : maintainWorkspace workspaceId columns db = .ok (answer, next)) :
    Evolution env call start db next := by
  simp only [maintainWorkspace, bind_eq_ok, orRaise_eq_ok, return_eq_ok] at success
  obtain ⟨workspace, stored, _, rfl⟩ := success
  exact .workspace workspaceId workspace _ stored (.maintain columns _ asked rfl)

/-! ## Profiles -/

theorem putProfileActive_evolution
    {id workspaceId : Uuid} {later : RuntimeProfile D} {workspace : Workspace}
    (advances : call.operation.service.advancesActivity = true)
    (written : Evolution env call start db (db.putProfile id later))
    (stored : db.workspaces.lookup workspaceId = some workspace) :
    Evolution env call start db
      ((db.putProfile id later).putWorkspace workspaceId (advanceWorkspaceActivity workspace)) :=
  written.trans (.activity workspaceId workspace advances stored)

omit [DecidableEq D] in
theorem allyRef_unique (workspaceId : Uuid) (allyRef : String)
    (unique : db.profiles.rows.all (fun row =>
      row.2.workspace ≠ workspaceId ∨ row.2.allyRef ≠ allyRef) = true)
    (other : Uuid) (row : RuntimeProfile D) (stored : db.profiles.lookup other = some row)
    (home : row.workspace = workspaceId) : row.allyRef ≠ allyRef := by
  rw [List.all_eq_true] at unique
  have apart := unique (other, row) ((Table.mem_rows _ _ _).mpr stored)
  simpa [home] using apart

theorem ensureRuntimeProfile_evolution
    (workspaceId profileId : Uuid) (allyRef : String) (seed : Json) (receipt : ProfileReceipt)
    (service : call.operation.service = .ensureRuntimeProfile)
    (success : ensureRuntimeProfile env workspaceId profileId allyRef seed db =
      .ok (receipt, next)) :
    Evolution env call start db next := by
  have advances : call.operation.service.advancesActivity = true := by rw [service]; rfl
  simp only [ensureRuntimeProfile, bind_eq_ok, orRaise_eq_ok, require_eq_ok] at success
  obtain ⟨_, _, workspace, stored, _, undeleted, success⟩ := success
  split at success
  · next profile found =>
    simp only [bind_eq_ok] at success
    obtain ⟨_, _, _, _, _, _, _, _, success⟩ := success
    split at success
    · simp only [return_eq_ok] at success
      exact success.2 ▸ .refl db
    · cases success
      exact putProfileActive_evolution env call start db advances
        (.single (.profile profileId profile _ found (.seed seed _ service))) stored
  · next unknown =>
    simp only [bind_eq_ok, require_eq_ok, return_eq_ok] at success
    obtain ⟨_, unique, _, _, _, rfl⟩ := success
    exact putProfileActive_evolution env call start db advances
      (.single (.createProfile profileId workspaceId allyRef _ _ _ unknown undeleted
        (allyRef_unique db workspaceId allyRef unique))) stored

theorem acceptMaterializationReceipt_evolution
    (context : RuntimeContext) (profileId operationId : Uuid)
    (lifecycleEpoch generation : Nat) (seedFingerprint resultCode : String)
    (receipt : ProfileReceipt)
    (asked : call.operation = .acceptMaterializationReceipt context profileId operationId
      lifecycleEpoch generation seedFingerprint resultCode)
    (success : acceptMaterializationReceipt env context profileId operationId lifecycleEpoch
      generation seedFingerprint resultCode db = .ok (receipt, next)) :
    Evolution env call db db next := by
  simp only [acceptMaterializationReceipt, bind_eq_ok, orRaise_eq_ok, require_eq_ok] at success
  obtain ⟨workspace, stored, _, _, _, _, profile, found, _, unfenced, _, _, _, current, success⟩ :=
    success
  rw [Option.filter_eq_some_iff, decide_eq_true_eq] at found
  split at success
  · simp only [bind_eq_ok, return_eq_ok] at success
    obtain ⟨_, _, _, rfl⟩ := success
    exact .refl db
  · simp only [bind_eq_ok, require_eq_ok, return_eq_ok] at success
    obtain ⟨_, _, _, served, _, rfl⟩ := success
    exact (Evolution.draw db).trans (.single (.profile profileId profile _ found.1
      (.materialize context operationId lifecycleEpoch generation seedFingerprint resultCode
        workspace _ _ asked unfenced current stored found.2 served)))

theorem stopLeases_evolution {profileId : Uuid} {profile : RuntimeProfile D} {last : Db D}
    (service : call.operation.service = .requestProfileCleanup ∨
      call.operation.service = .coordinateProfileDeletion)
    (written : Evolution env call start (db.stopLeases profileId)
      ((db.stopLeases profileId).putProfile profileId profile))
    (rest : Evolution env call start ((db.stopLeases profileId).putProfile profileId profile) last) :
    Evolution env call start db last := by
  have stops : Evolution env call start db (db.stopLeases profileId) :=
    .single (.stopLeases profileId service)
  exact (stops.trans written).trans rest

theorem requestProfileCleanup_evolution
    (workspaceId profileId operationId : Uuid) (contextDigest : String)
    (expiresAt : Option Instant) (receipt : ProfileReceipt)
    (asked : call.operation = .requestProfileCleanup workspaceId profileId operationId contextDigest
      expiresAt)
    (success : requestProfileCleanup env call.now workspaceId profileId operationId contextDigest
      expiresAt db = .ok (receipt, next)) :
    Evolution env call start db next := by
  have service : call.operation.service = .requestProfileCleanup := by rw [asked]; rfl
  simp only [requestProfileCleanup, bind_eq_ok, orRaise_eq_ok] at success
  obtain ⟨_, _, workspace, stored, profile, found, success⟩ := success
  rw [Option.filter_eq_some_iff] at found
  split at success
  · simp only [bind_eq_ok, return_eq_ok] at success
    obtain ⟨_, _, _, rfl⟩ := success
    exact .refl db
  · next first =>
    simp only [bind_eq_ok, require_eq_ok, return_eq_ok] at success
    obtain ⟨_, kept, _, rfl⟩ := success
    exact stopLeases_evolution env call start db (.inl service)
      (.single (.profile profileId profile _ found.1
        (.requestCleanup workspaceId operationId contextDigest expiresAt _ _ asked first kept)))
      (.activity workspaceId workspace (by rw [service]; rfl) stored)

theorem fenceProfileLeases_frame (now : Instant) (profileId : Uuid)
    (success : fenceProfileLeases env now profileId db = .ok next) :
    next.workspaces = db.workspaces ∧ next.profiles = db.profiles := by
  refine foldlM_relates (fun first second : Db D =>
      second.workspaces = first.workspaces ∧ second.profiles = first.profiles)
    (fun _ => ⟨rfl, rfl⟩)
    (fun earlier later => ⟨later.1.trans earlier.1, later.2.trans earlier.2⟩)
    _ _ db next ?_ success
  intro id _ state after pass
  simp only [fenceProfileOne] at pass
  split at pass
  · cases pass
    exact ⟨rfl, rfl⟩
  · simp only [bind_eq_ok, pure_eq_ok] at pass
    obtain ⟨_, _, _, _, rfl⟩ := pass
    exact ⟨rfl, rfl⟩

theorem repair_evolution (profileId workspaceId receiptId : Uuid) {profile : RuntimeProfile D}
    {workspace : Workspace} {fenced : Db D} (asked : call.operation.cleanupProfile = some profileId)
    (advances : call.operation.service.advancesActivity = true)
    (found : db.profiles.lookup profileId = some profile)
    (begun : profile.cleanupOperationId ≠ none ∨ profile.lifecycleState = .cleanupPending)
    (stored : db.workspaces.lookup workspaceId = some workspace)
    (fences : fenceProfileLeases env call.now profileId db.draw = .ok fenced) :
    Evolution env call db db
      ((fenced.putProfile profileId (profile.requireRepair call.now receiptId)).putWorkspace
        workspaceId (advanceWorkspaceActivity workspace)) := by
  have loop := (Evolution.draw db).trans
    (fenceProfileLeases_evolution env call db db.draw fenced profileId asked rfl fences)
  have kept := fenceProfileLeases_frame env db.draw fenced call.now profileId fences
  have stored' : fenced.workspaces.lookup workspaceId = some workspace := by
    rw [kept.1]
    exact stored
  have found' : fenced.profiles.lookup profileId = some profile := by
    rw [kept.2]
    exact found
  have repairs := loop.trans
    (.single (.profile profileId profile _ found' (.repair receiptId asked begun)))
  exact repairs.trans (.activity workspaceId workspace advances stored')

theorem acceptCleanupReceipt_evolution
    (context : RuntimeContext) (profileId operationId : Uuid) (lifecycleEpoch : Nat)
    (requestDigest : D) (result : CleanupResult) (activeLeaseCount : Nat) (proof : CleanupProof)
    (receipt : ProfileReceipt)
    (asked : call.operation = .acceptCleanupReceipt context profileId operationId lifecycleEpoch
      requestDigest result activeLeaseCount proof)
    (success : acceptCleanupReceipt env call.now context profileId operationId lifecycleEpoch
      requestDigest result activeLeaseCount proof db = .ok (receipt, next)) :
    Evolution env call db db next := by
  have service : call.operation.service = .acceptCleanupReceipt := by rw [asked]; rfl
  have advances : call.operation.service.advancesActivity = true := by rw [service]; rfl
  simp only [acceptCleanupReceipt, bind_eq_ok, orRaise_eq_ok, require_eq_ok] at success
  obtain ⟨workspace, stored, _, _, profile, found, _, operates, _, requested, _, proven, success⟩ :=
    success
  rw [Option.filter_eq_some_iff, decide_eq_true_eq] at found
  split at success
  · simp only [bind_eq_ok, return_eq_ok] at success
    obtain ⟨_, _, _, rfl⟩ := success
    exact .refl db
  · simp only [bind_eq_ok, require_eq_ok] at success
    obtain ⟨_, current, _, counted, _, resolved, success⟩ := success
    split at success
    · next deleted =>
      rw [decide_eq_true_eq] at deleted
      subst deleted
      obtain rfl : activeLeaseCount = 0 := resolved rfl
      cases success
      exact (Evolution.draw db).trans (putProfileActive_evolution env call db db.draw advances
        (.single (.profile profileId profile _ found.1
          (.deprovision context operationId lifecycleEpoch requestDigest proof workspace _ asked
            stored found.2 operates requested current proven counted))) stored)
    · split at success
      · simp only [bind_eq_ok, return_eq_ok] at success
        obtain ⟨fenced, fences, _, rfl⟩ := success
        exact repair_evolution env call db profileId context.workspace _
          (by rw [asked]; rfl) advances found.1 (.inl (by rw [operates]; rintro ⟨⟩)) stored fences
      · cases success
        exact .single (.profile profileId profile _ found.1 (.retry _ _ service))

theorem expireProfileCleanup_evolution (profileId : Uuid) (receipt : Option ProfileReceipt)
    (asked : call.operation = .expireProfileCleanup profileId)
    (success : expireProfileCleanup env call.now profileId db = .ok (receipt, next)) :
    Evolution env call db db next := by
  simp only [expireProfileCleanup] at success
  split at success
  · simp only [return_eq_ok] at success
    exact success.2 ▸ .refl db
  · next profile found =>
    rw [Option.filter_eq_some_iff, decide_eq_true_eq] at found
    simp only [bind_eq_ok, orRaise_eq_ok, return_eq_ok] at success
    obtain ⟨workspace, stored, fenced, fences, _, rfl⟩ := success
    exact repair_evolution env call db profileId _ _ (by rw [asked]; rfl)
      (by rw [asked]; rfl) found.1 (.inr found.2.1) stored fences

/-- The row may be rewritten by any step that starts from the given profile. -/
def MayRewrite (profileId : Uuid) (profile : RuntimeProfile D) : Prop :=
  ∀ (other : Db D) (later : RuntimeProfile D), other.profiles = db.profiles →
    other.deletedProfiles = db.deletedProfiles →
    ProfileStep env call db other profileId profile later →
    Evolution env call db other (other.putProfile profileId later)

section

variable (profileId : Uuid) (profile : RuntimeProfile D)

theorem mayRewrite_of_stored (owned : db.profiles.lookup profileId = some profile) :
    MayRewrite env call db profileId profile := by
  intro other later same _ step
  exact .single (.profile profileId profile later (by rw [same]; exact owned) step)

theorem mayRewrite_of_written (written : ∀ other : Db D, other.profiles = db.profiles →
      other.deletedProfiles = db.deletedProfiles →
      Evolution env call db other (other.putProfile profileId profile)) :
    MayRewrite env call db profileId profile := by
  intro other later same undeleted step
  have again := (written other same undeleted).trans
    (.single (.profile profileId profile later (AList.lookup_insert _) (step.of_supply rfl)))
  rwa [Db.putProfile_again] at again

end

theorem beginDeletion_evolution
    (workspaceRef workspaceId allyId bindingId operationId : Uuid) (workspace : Workspace)
    (profileId : Uuid) (profile : RuntimeProfile D) (state : DeletionState)
    (service : call.operation.service = .coordinateProfileDeletion)
    (stored : db.workspaces.lookup workspaceId = some workspace)
    (known : MayRewrite env call db profileId profile)
    (allowed : profile.cleanupOperationId = none ∨ profile.cleanupOperationId = some operationId)
    (kept : profile.cleanupRequiresQuiescence = true → profile.lifecycleState ≠ .deprovisioned)
    (success : beginDeletion env call.now workspaceRef workspaceId allyId bindingId operationId
      workspace profileId profile db = .ok (state, next)) :
    Evolution env call db db next := by
  simp only [beginDeletion, bind_eq_ok, return_eq_ok] at success
  obtain ⟨woken, wakes, _, rfl⟩ := success
  have drawn : Evolution env call db db db.draw.draw := (Evolution.draw db).trans (.draw _)
  have advances : call.operation.service.advancesActivity = true := by rw [service]; rfl
  refine drawn.trans (stopLeases_evolution env call db db.draw.draw (.inr service) ?_
    (.activeWake advances db.drew_second stored wakes))
  exact known _ _ rfl rfl
    (.delete db.supply operationId _ _ _ service db.drew_first allowed kept)

omit [DecidableEq D] in
theorem deletionProfile_cases {workspaceId profileId allyId : Uuid} {expectedAttempt : Option Uuid}
    {profile : RuntimeProfile D}
    (success : deletionProfile env workspaceId profileId allyId expectedAttempt db = .ok profile) :
    (db.profiles.lookup profileId = some profile ∧ profile.workspace = workspaceId) ∨
      (db.profiles.lookup profileId = none ∧
        profile = .pending workspaceId (env.uuidText allyId) (env.hermesProfileKey profileId)
          none "" ∧
        ∀ other row, db.profiles.lookup other = some row → row.workspace = workspaceId →
          row.allyRef ≠ env.uuidText allyId) := by
  simp only [deletionProfile] at success
  split at success
  · next found =>
    simp only [bind_eq_ok, require_eq_ok, pure_eq_ok] at success
    obtain ⟨_, same, rfl⟩ := success
    exact .inl ⟨found, same.1⟩
  · next unknown =>
    simp only [bind_eq_ok, require_eq_ok, pure_eq_ok] at success
    obtain ⟨_, _, _, unique, _, _, rfl⟩ := success
    exact .inr ⟨unknown, rfl, allyRef_unique db workspaceId _ unique⟩

theorem coordinateProfileDeletion_evolution
    (workspaceRef allyId bindingId operationId : Uuid) (expectedAttempt : Option Uuid)
    (state : DeletionState) (service : call.operation.service = .coordinateProfileDeletion)
    (success : coordinateProfileDeletion env call.now workspaceRef allyId bindingId operationId
      expectedAttempt db = .ok (state, next)) :
    Evolution env call db db next := by
  simp only [coordinateProfileDeletion, bind_eq_ok, orRaise_eq_ok] at success
  obtain ⟨⟨workspaceId, workspace⟩, found, success⟩ := success
  have stored := workspaceByTenant_lookup db found
  split at success
  · simp only [bind_eq_ok, return_eq_ok] at success
    obtain ⟨_, _, _, rfl⟩ := success
    exact .refl db
  · next undeleted =>
    simp only [bind_eq_ok, require_eq_ok] at success
    obtain ⟨profile, isProfile, _, operates, success⟩ := success
    have source := deletionProfile_cases env db
      isProfile
    split at success
    · next quiescing =>
      obtain ⟨owned, home⟩ : db.profiles.lookup (env.profileIdOf bindingId) = some profile ∧
          profile.workspace = workspaceId := by
        rcases source with owned | ⟨_, rfl, _⟩
        · exact owned
        · cases quiescing
      split at success
      · next removed =>
        simp only [bind_eq_ok, return_eq_ok] at success
        obtain ⟨purged, purges, _, rfl⟩ := success
        exact .single (.purge workspaceId _ workspace profile purged service stored owned home
          removed purges)
      · next kept =>
        have observed : ∀ other : Db D, other.profiles = db.profiles →
            other.deletedProfiles = db.deletedProfiles →
            Evolution env call db other
              (other.putProfile (env.profileIdOf bindingId) (observeDeadline call.now profile)) := by
          intro other same _
          exact .single (.profile _ profile _ (by rw [same]; exact owned)
            (.observe service quiescing kept))
        split at success
        · cases success
          exact observed db rfl rfl
        · split at success
          · cases success
            exact observed db rfl rfl
          · simp only [bind_eq_ok, require_eq_ok] at success
            obtain ⟨_, repairing, success⟩ := success
            refine beginDeletion_evolution env call db next workspaceRef workspaceId allyId bindingId
              operationId workspace _ _ state service stored
              (mayRewrite_of_written env call db _ _ observed) ?_ ?_ success
            · have same : (observeDeadline call.now profile).cleanupOperationId =
                  profile.cleanupOperationId := by
                simp only [observeDeadline]
                split <;> rfl
              rw [same]
              exact operates.imp_right And.right
            · intro _
              rw [repairing.2]
              rintro ⟨⟩
    · next calm =>
      simp only [bind_eq_ok] at success
      obtain ⟨_, _, success⟩ := success
      refine beginDeletion_evolution env call db next workspaceRef workspaceId allyId bindingId
        operationId workspace _ _ state service stored ?_ (operates.imp_right And.right)
        (fun quiescing => absurd quiescing calm) success
      rcases source with ⟨owned, _⟩ | ⟨unknown, rfl, unique⟩
      · exact mayRewrite_of_stored env call db _ profile owned
      · refine mayRewrite_of_written env call db _ _ ?_
        intro other same none
        exact .single (.createProfile _ workspaceId _ _ _ _ (by rw [same]; exact unknown)
          (by rw [none]; exact undeleted) (by rw [same]; exact unique))

/-! ## New Executions -/

theorem ensureConversationBinding_evolution
    {mismatch : String → RuntimeError} {profileId : Uuid} {profile : RuntimeProfile D}
    {conversationRef : String} {bindings : Table Uuid ConversationBinding}
    (owned : db.profiles.lookup profileId = some profile)
    (success : ensureConversationBinding mismatch profileId conversationRef db.bindings =
      .ok bindings) :
    Evolution env call start db { db with bindings := bindings } := by
  simp only [ensureConversationBinding, bind_eq_ok] at success
  obtain ⟨_, _, success⟩ := success
  split at success
  · simp only [bind_eq_ok, pure_eq_ok] at success
    obtain ⟨_, _, rfl⟩ := success
    exact .refl db
  · next unknown =>
    simp only [bind_eq_ok, pure_eq_ok] at success
    obtain ⟨_, _, rfl⟩ := success
    exact .single (.reserveBinding profileId profile conversationRef owned unknown)

omit [DecidableEq D] in
theorem ensureConversationBinding_bound
    {mismatch : String → RuntimeError} {profileId : Uuid} {conversationRef : String}
    {bindings next : Table Uuid ConversationBinding}
    (success : ensureConversationBinding mismatch profileId conversationRef bindings = .ok next) :
    ∃ binding, next.lookup profileId = some binding ∧
      binding.cloudConversationRef = conversationRef := by
  simp only [ensureConversationBinding, bind_eq_ok] at success
  obtain ⟨_, _, success⟩ := success
  split at success
  · next binding bound =>
    simp only [bind_eq_ok, require_eq_ok, pure_eq_ok] at success
    obtain ⟨_, same, rfl⟩ := success
    exact ⟨binding, bound, same⟩
  · simp only [bind_eq_ok, require_eq_ok, pure_eq_ok] at success
    obtain ⟨_, _, rfl⟩ := success
    exact ⟨_, AList.lookup_insert _, rfl⟩

theorem payloadBinding_evolution {profileId : Uuid} {profile : RuntimeProfile D} {payload : Json}
    {bindings : Table Uuid ConversationBinding}
    (owned : db.profiles.lookup profileId = some profile)
    (success : payloadBinding profileId payload db.bindings = .ok bindings) :
    Evolution env call start db { db with bindings := bindings } := by
  simp only [payloadBinding] at success
  split at success
  · cases success
    exact .refl db
  · cases success
    exact .refl db
  · exact ensureConversationBinding_evolution env call start db owned success
  · simp at success

theorem retriedExecution_evolution
    {workspaceId : Uuid} {workspace : Workspace} {bindings : Table Uuid ConversationBinding}
    {existing : Execution D} (reserves : Evolution env call db db { db with bindings := bindings })
    (stored : db.workspaces.lookup workspaceId = some workspace)
    (success : retriedExecution env call.now workspaceId workspace bindings existing db =
      .ok next) :
    Evolution env call db db next := by
  simp only [retriedExecution] at success
  split at success
  · simp only [bind_eq_ok, pure_eq_ok] at success
    obtain ⟨woken, wakes, rfl⟩ := success
    have drawn := reserves.trans (.draw _)
    exact drawn.trans (.wake workspaceId _ workspace woken db.drew stored wakes)
  · cases success
    exact reserves

theorem createdExecution_evolution
    {workspaceId : Uuid} {workspace woken : Workspace} {profile : RuntimeProfile D}
    {bindings : Table Uuid ConversationBinding} {execution : Execution D}
    (birth : Born call execution) (ordinary : execution.routine = none)
    (reserves : Evolution env call db db { db with bindings := bindings })
    (stored : db.workspaces.lookup workspaceId = some workspace)
    (owned : db.profiles.lookup execution.profile = some profile)
    (home : profile.workspace = workspaceId) (same : execution.workspace = workspaceId)
    (unknown : db.executionByKey workspaceId execution.idempotencyKey = none)
    (commanded : execution.Commanded env)
    (bound : Db.BindsInput { db with bindings := bindings } execution)
    (digested : execution.payloadDigest = env.digestPayload (.execution execution.inputPayload))
    (advances : call.operation.service.advancesActivity = true)
    (wakes : requestExecutionWakeLocked env call.now (db.supply + 1)
      (advanceWorkspaceActivity workspace) = .ok woken) :
    Evolution env call db db (db.createExecution workspaceId woken bindings execution) := by
  have fresh : ∀ id other, db.executions.lookup id = some other →
      other.workspace = execution.workspace →
      other.idempotencyKey ≠ execution.idempotencyKey := by
    intro id other isStored isHome key
    simp only [Db.executionByKey, List.find?_eq_none, decide_eq_true_eq] at unknown
    exact unknown (id, other) ((Table.mem_rows _ _ _).mpr isStored) ⟨isHome.trans same, key⟩
  have created : Evolution env call db { db with bindings := bindings } _ :=
    .single (.create execution profile birth owned (home.trans same.symm) fresh
      (fun routine => by rw [ordinary] at routine; cases routine) commanded bound
      (fun _ => digested) (fun routine has => by rw [ordinary] at has; cases has))
  have drawn := (reserves.trans created).trans (.draw _)
  exact drawn.trans (.activeWake advances db.drew_second stored wakes)

theorem createExecution_evolution
    (workspaceId profileId : Uuid) (idempotencyKey : String) (payload : Json) (id : Uuid)
    (service : call.operation.service = .createExecution)
    (success : createExecution env call.now workspaceId profileId idempotencyKey payload db =
      .ok (id, next)) :
    Evolution env call db db next := by
  simp only [createExecution, bind_eq_ok, orRaise_eq_ok, require_eq_ok] at success
  obtain ⟨_, _, _, _, profile, owned, _, home, workspace, stored, _, _, bindings, reserves,
    success⟩ := success
  have reserved := payloadBinding_evolution env call db db
    owned reserves
  split at success
  · simp only [bind_eq_ok, return_eq_ok] at success
    obtain ⟨_, _, _, retries, _, rfl⟩ := success
    exact retriedExecution_evolution env call db _ reserved
      stored retries
  · next unknown =>
    simp only [bind_eq_ok, return_eq_ok] at success
    obtain ⟨woken, wakes, _, rfl⟩ := success
    have bound : Db.BindsInput { db with bindings := bindings }
        (queuedExecution env call.now workspaceId profileId idempotencyKey payload) := by
      intro reference _ names
      simp only [queuedExecution] at names ⊢
      simp only [payloadBinding, names] at reserves
      exact ensureConversationBinding_bound
        reserves
    exact createdExecution_evolution env call db (.ordinary _ (.inl service) (fun _ => rfl) rfl rfl) rfl reserved stored owned home rfl
      unknown (.inl ⟨rfl, rfl⟩) bound rfl (by rw [service]; rfl) wakes

omit [DecidableEq D] in
theorem inputPayload_conversation (command : ExecutionCommand) :
    (command.inputPayload env).get? "cloud_conversation_ref" =
      some (.str (env.uuidText command.cloudConversationId)) := by
  rcases given : command.bootstrap with _ | _ | bootstrap <;>
    simp [ExecutionCommand.inputPayload, ExecutionCommand.bootstrapMember, Json.get?, given]

omit [DecidableEq D] in
theorem resolveCommand_cases {command : ExecutionCommand} {target : CommandTarget}
    (success : resolveCommand env command db = .ok target) :
    validateCommand env command = .ok () ∧
      db.workspaces.lookup target.workspaceId = some target.workspace ∧
      target.profileId = env.profileIdOf command.cloudBindingId ∧
      (∃ profile, db.profiles.lookup target.profileId = some profile ∧
        profile.workspace = target.workspaceId) ∧
      ensureConversationBinding notFoundError target.profileId
        (env.uuidText command.cloudConversationId) db.bindings = .ok target.bindings := by
  simp only [resolveCommand, bind_eq_ok, orRaise_eq_ok] at success
  obtain ⟨_, valid, ⟨workspaceId, workspace⟩, found, success⟩ := success
  have stored := workspaceByTenant_lookup db found
  dsimp only at success
  obtain ⟨profile, isProfile, _, _, _, reserves, success⟩ := success
  rw [Option.filter_eq_some_iff, decide_eq_true_eq] at isProfile
  obtain ⟨owned, home, _⟩ := isProfile
  cases success
  exact ⟨valid, stored, rfl, ⟨profile, owned, home⟩, reserves⟩

theorem createExecutionIntent_evolution (command : ExecutionCommand) (receipt : ExecutionReceipt)
    (service : call.operation.service = .createExecutionIntent)
    (success : createExecutionIntent env call.now command db = .ok (receipt, next)) :
    Evolution env call db db next := by
  simp only [createExecutionIntent, bind_eq_ok] at success
  obtain ⟨target, resolves, success⟩ := success
  obtain ⟨valid, stored, isProfile, ⟨profile, owned, home⟩, reserves⟩ :=
    resolveCommand_cases env db resolves
  have reserved := ensureConversationBinding_evolution env call db db owned reserves
  split at success
  · simp only [bind_eq_ok, return_eq_ok] at success
    obtain ⟨_, _, _, retries, _, rfl⟩ := success
    exact retriedExecution_evolution env call db _ reserved stored retries
  · next unknown =>
    simp only [bind_eq_ok, return_eq_ok] at success
    obtain ⟨_, _, _, _, woken, wakes, _, rfl⟩ := success
    have created : (commandedExecution env call.now target.workspaceId target.profileId
        command).CreatedFrom env command :=
      ⟨valid, rfl, isProfile, by simp [Execution.repeats, commandedExecution, queuedExecution], rfl⟩
    have bound : Db.BindsInput { db with bindings := target.bindings }
        (commandedExecution env call.now target.workspaceId target.profileId command) := by
      intro reference _ names
      have names : (command.inputPayload env).get? "cloud_conversation_ref" =
        some (.str reference) := names
      rw [inputPayload_conversation, Option.some.injEq, Json.str.injEq] at names
      subst names
      exact ensureConversationBinding_bound reserves
    exact createdExecution_evolution env call db (.ordinary _ (.inr service) (fun _ => rfl) rfl rfl) rfl reserved
      stored owned home rfl unknown (.inr ⟨command, created⟩) bound rfl (by rw [service]; rfl) wakes

theorem reconcileExecutionIntent_evolution
    (idempotencyKey : Uuid) (fingerprint : String) (receipt : ReconciliationReceipt)
    (success : reconcileExecutionIntent env idempotencyKey fingerprint db =
      .ok (receipt, next)) :
    Evolution env call start db next := by
  simp only [reconcileExecutionIntent, bind_eq_ok] at success
  obtain ⟨_, _, success⟩ := success
  split at success
  · simp only [return_eq_ok] at success
    exact success.2 ▸ .refl db
  · split at success
    all_goals
      simp only [return_eq_ok] at success
      exact success.2 ▸ .refl db
  · simp only [return_eq_ok] at success
    exact success.2 ▸ .refl db

end

end Foundry
