import Foundry.Fleet.Transitions

/-!
# Wakes

The services that ask for a Machine: intents, publications, assignments of the ready pool
and the recovery wakes of an activation.  Each is a `RowMove`, and stores an intent that
waits for the row it leaves or for nothing.
-/

set_option autoImplicit false

namespace Foundry

open Raise

variable {D : Type}

variable {actor : Actor D} {store next : PowerDb D}

theorem Workspace.Woken.tracks {supply limit : Nat} {workspace later : Workspace}
    (woken : workspace.Woken supply limit later) (intent : RuntimeIntent)
    (tracks : workspace.Tracks intent) : later.Tracks intent := by
  cases woken with
  | dressed dressing => exact tracks.dressed dressing
  | requested _ _ _ _ requestable =>
    have waking := tracks.waking
    rcases requestable.state with state | state <;> rw [state] at waking <;> cases waking

section

variable (numbered : store.db.WorkspacesNumbered)

include numbered

theorem PowerDb.Moves.of_woken (id : Uuid)
    (workspace later : Workspace) (stored : store.db.workspaces.lookup id = some workspace)
    (same : next.db = { store.db with
      workspaces := store.db.workspaces.insert id later, supply := next.db.supply })
    (supply : store.db.supply ≤ next.db.supply)
    (woken : workspace.Woken store.db.supply next.db.supply later) (intents : next.intents = store.intents) :
    store.Moves actor next :=
  .of_put numbered id workspace later stored same supply (.woken woken)
    (by rw [intents]; exact .kept woken.tracks)

section

variable (id key : Uuid) (intent : RuntimeIntent)

theorem createIntent_moves (middle : PowerDb D) (receipt : RuntimeIntentReceipt)
    (workspace later : Workspace) (stored : store.db.workspaces.lookup id = some workspace)
    (success : createIntent id key intent middle = .ok (receipt, next))
    (same : middle.db = { store.db with
      workspaces := store.db.workspaces.insert id later, supply := middle.db.supply })
    (supply : store.db.supply ≤ middle.db.supply) (intents : middle.intents = store.intents)
    (woken : workspace.Woken store.db.supply middle.db.supply later)
    (tracked : intent.outcome = .waking → later.Tracks intent) :
    store.Moves actor next := by
  simp only [createIntent, bind_eq_ok, require_eq_ok, return_eq_ok] at success
  obtain ⟨_, _, _, rfl⟩ := success
  refine .of_put numbered id workspace later stored same supply (.woken woken) ?_
  rw [intents]
  exact .inserted key intent (.kept woken.tracks) tracked

theorem createIntent_quiet (receipt : RuntimeIntentReceipt)
    (success : createIntent id key intent store = .ok (receipt, next))
    (settled : intent.outcome ≠ .waking) :
    store.Moves actor next := by
  simp only [createIntent, bind_eq_ok, require_eq_ok, return_eq_ok] at success
  obtain ⟨_, _, _, rfl⟩ := success
  refine .of_same numbered rfl (Nat.le_refl _) ?_
  intro other stored found waking
  rw [Table.lookup_insert_eq] at found
  split at found
  · rw [Option.some.injEq] at found
    exact absurd (found ▸ waking) settled
  · exact found

end

end

section

variable (env : Env D) (settings : PowerSettings) (now : Instant) (id key : Uuid)
  (intentType : RuntimeIntentType) (received : Instant) (workspace : Workspace)
  (receipt : RuntimeIntentReceipt) (numbered : store.db.WorkspacesNumbered)
  (stored : store.db.workspaces.lookup id = some workspace)

include numbered stored

theorem joinWake_moves (waking : workspace.runtimeOperationState.isWaking = true) (success : (do
      let operationId ← orRaise workspace.runtimeOperationId
        (conflictError "runtime operation state has no identity")
      createIntent id key
        (RuntimeIntent.decided settings intentType received .waking (some operationId))
        (store.putWorkspace id (extendKeepWarm env now workspace))) = .ok (receipt, next)) :
    store.Moves actor next := by
  simp only [bind_eq_ok, orRaise_eq_ok] at success
  obtain ⟨_, named, success⟩ := success
  refine createIntent_moves numbered id key _ _ receipt workspace _ stored success rfl
    (Nat.le_refl _) rfl (.dressed (extendKeepWarm_dresses env now workspace))
    (fun _ => ⟨?_, ?_, waking⟩)
  · exact named.symm
  · exact named ▸ rfl

theorem wakeForIntent_moves
    (success : wakeForIntent env settings now id key intentType received workspace store =
      .ok (receipt, next)) : store.Moves actor next := by
  have warm := extendKeepWarm_dresses env now workspace
  simp only [wakeForIntent] at success
  split at success
  · exact createIntent_moves numbered id key _ _ receipt workspace _ stored success rfl
      (Nat.le_refl _) rfl (.dressed warm) (by rintro ⟨⟩)
  · split at success
    · exact createIntent_quiet numbered id key _ receipt success (by rintro ⟨⟩)
    · split at success
      · exact createIntent_quiet numbered id key _ receipt success (by rintro ⟨⟩)
      · next unbound =>
        have binding : workspace.hasExistingBinding = true := by simpa using unbound
        have bound : 0 < workspace.machineGeneration := (of_decide_eq_true binding).1
        split at success
        · next stopping =>
          have woken := Workspace.Woken.of_warm now store.db.supply .speculative
            (Drawn.only _) ⟨.inr stopping, .inl bound⟩ warm
          have isStopping : (extendKeepWarm env now workspace).runtimeOperationState =
              .stopping := stopping
          rw [Workspace.requestedFrom, if_pos isStopping] at woken
          exact createIntent_moves numbered id key _ _ receipt workspace _ stored success
            rfl (Nat.le_succ _) rfl woken (fun _ => ⟨rfl, rfl, rfl⟩)
        · next waking =>
          exact joinWake_moves env settings now id key intentType received workspace receipt
            numbered stored (by rw [waking]; rfl) success
        · next waking =>
          exact joinWake_moves env settings now id key intentType received workspace receipt
            numbered stored (by rw [waking]; rfl) success
        · next waking =>
          exact joinWake_moves env settings now id key intentType received workspace receipt
            numbered stored (by rw [waking]; rfl) success
        · next idle =>
          split at success
          · exact createIntent_quiet numbered id key _ receipt success (by rintro ⟨⟩)
          · have woken := Workspace.Woken.of_warm now store.db.supply .speculative
              (Drawn.only _) ⟨.inl idle, .inl bound⟩ warm
            have notStopping : (extendKeepWarm env now workspace).runtimeOperationState ≠
                .stopping := by
              intro stopping
              rw [show (extendKeepWarm env now workspace).runtimeOperationState = .idle
                from idle] at stopping
              cases stopping
            rw [Workspace.requestedFrom, if_neg notStopping] at woken
            exact createIntent_moves numbered id key _ _ receipt workspace _ stored success
              rfl (Nat.le_succ _) rfl woken (fun _ => ⟨rfl, rfl, rfl⟩)

end

theorem requestRuntimeIntent_moves (env : Env D) (settings : PowerSettings) (now : Instant)
    (id key : Uuid) (intentType : RuntimeIntentType) (receivedAt : Instant)
    (receipt : RuntimeIntentReceipt) (numbered : store.db.WorkspacesNumbered)
    (success : requestRuntimeIntent env settings now id key intentType receivedAt store =
      .ok (receipt, next)) : store.Moves actor next := by
  simp only [requestRuntimeIntent, bind_eq_ok, orRaise_eq_ok] at success
  obtain ⟨workspace, stored, success⟩ := success
  split at success
  · simp only [bind_eq_ok, return_eq_ok] at success
    obtain ⟨_, _, _, rfl⟩ := success
    exact .refl numbered
  · split at success
    · exact createIntent_quiet numbered id key _ receipt success (by rintro ⟨⟩)
    · split at success
      · exact createIntent_quiet numbered id key _ receipt success (by rintro ⟨⟩)
      · split at success
        · exact createIntent_quiet numbered id key _ receipt success (by rintro ⟨⟩)
        · exact wakeForIntent_moves env settings now id key intentType receivedAt workspace receipt
            numbered stored success

theorem cleanupRuntimeIntents_moves (now : Instant) (limit : Nat)
    (numbered : store.db.WorkspacesNumbered) :
    store.Moves actor (cleanupRuntimeIntents now limit store) := by
  refine .of_same numbered rfl (Nat.le_refl _) ?_
  intro key intent stored _
  exact ((Table.lookup_keep_eq_some _ _ _ _).mp stored).1

section

variable (env : Env D) (now : Instant)

theorem wakePublicationWorkspace_moves (id : Uuid) (numbered : store.db.WorkspacesNumbered)
    (success : wakePublicationWorkspace env now id store = .ok next) : store.Moves actor next := by
  simp only [wakePublicationWorkspace, bind_eq_ok, orRaise_eq_ok, pure_eq_ok] at success
  obtain ⟨workspace, stored, woken, wakes, rfl⟩ := success
  exact .of_woken numbered id workspace woken stored rfl (Nat.le_succ _)
    (requestExecutionWakeLocked_woken env now store.db.supply _ store.db.supply workspace woken
      (Drawn.only _) wakes) rfl

theorem requestOnboardingWakeLocked_woken (id : Uuid)
    (operationId supply limit : Uuid) (workspace : Workspace)
    (fresh : Drawn supply limit operationId) (bound : 0 < workspace.machineGeneration ∨
      (workspace.provisioningPhase = .idle ∧ isPresent workspace.volumeRef = true)) :
    workspace.Woken supply limit
      (requestOnboardingWakeLocked env now id operationId workspace store) := by
  have dressedWake : ∀ row : Workspace, row.Dresses (extendKeepWarm env now row.forgetReadiness) :=
    fun row => row.forgetReadiness_dresses.trans (extendKeepWarm_dresses env now _)
  simp only [requestOnboardingWakeLocked]
  split
  · exact .dressed (.refl workspace)
  · split
    · next idle =>
      refine .requested now operationId .onboarding fresh
        ⟨.inl idle, bound.imp_right .inr⟩ ?_
      rw [Workspace.requestedFrom, if_neg (by rw [idle]; decide)]
      exact dressedWake _
    · next stopping =>
      refine .requested now operationId .onboarding fresh
        ⟨.inr stopping, .inr (.inl stopping)⟩ ?_
      rw [Workspace.requestedFrom, if_pos stopping]
      exact dressedWake _
    all_goals
      split
      · exact .dressed (dressedWake workspace)
      · exact .dressed (.refl workspace)

theorem assignReadyWorkspace_moves (id : Uuid) (tenantRef : String)
    (sleeping bundleIsEligible : Bool) (numbered : store.db.WorkspacesNumbered)
    (success : assignReadyWorkspace env now id tenantRef sleeping bundleIsEligible store =
      .ok next) : store.Moves actor next := by
  simp only [assignReadyWorkspace, bind_eq_ok, orRaise_eq_ok, require_eq_ok] at success
  obtain ⟨workspace, stored, _, ⟨_, _, _, volume, _, idle, _⟩, success⟩ := success
  have assigned : workspace.Dresses { workspace with tenantRef := tenantRef } :=
    ⟨rfl, rfl, Nat.le_refl _, fun known => known, rfl, rfl, rfl, rfl, rfl, rfl, .inl, rfl, rfl, rfl,
      rfl, .inl rfl⟩
  split at success
  · cases success
    refine .of_woken numbered id workspace _ stored rfl (Nat.le_succ _)
      (Workspace.Woken.trans (.dressed assigned) ?_) rfl
    exact requestOnboardingWakeLocked_woken env now id store.db.supply store.db.supply _ _
      (Drawn.only _) (.inr ⟨idle, volume⟩)
  · cases success
    exact .of_woken numbered id workspace _ stored rfl (Nat.le_refl _) (.dressed assigned) rfl

theorem requestActivationRecoveryWake_moves (id token : Uuid)
    (observed : ObservedBinding) (operationId : Option Uuid)
    (numbered : store.db.WorkspacesNumbered)
    (success : requestActivationRecoveryWake env now id token observed store =
      .ok (operationId, next)) : store.Moves actor next := by
  simp only [requestActivationRecoveryWake, bind_eq_ok, orRaise_eq_ok, require_eq_ok] at success
  obtain ⟨_, _, _, ⟨positive, _⟩, workspace, stored, _, _, _, _, _, _, _, observes, success⟩ :=
    success
  have bound : 0 < workspace.machineGeneration := by
    have generation := (of_decide_eq_true observes).1
    rw [generation]
    exact positive
  have forgotten := workspace.forgetReadiness_dresses
  split at success
  · cases success
    refine .of_woken numbered id workspace _ stored rfl (Nat.le_succ _)
      (Workspace.Woken.trans (.dressed forgotten) ?_) rfl
    exact requestOnboardingWakeLocked_woken env now id store.db.supply store.db.supply _ _
      (Drawn.only _) (.inl bound)
  · simp only [bind_eq_ok, return_eq_ok] at success
    obtain ⟨woken, wakes, _, rfl⟩ := success
    refine .of_woken numbered id workspace woken stored rfl (Nat.le_succ _)
      (Workspace.Woken.trans (.dressed forgotten) ?_) rfl
    exact requestExecutionWakeLocked_woken env now store.db.supply _ store.db.supply _ woken
      (Drawn.only _) wakes

end

theorem settleRuntimeReadiness_moves (now : Instant) (context : RuntimeContext) (bootId : Uuid)
    (generation startEpoch : Nat) (numbered : store.db.WorkspacesNumbered)
    (success : settleRuntimeReadiness now context bootId generation startEpoch store =
      .ok next) : store.Moves (.runtime context bootId generation startEpoch) next := by
  simp only [settleRuntimeReadiness, bind_eq_ok, orRaise_eq_ok, pure_eq_ok] at success
  obtain ⟨⟨answer, _⟩, accepted, workspace, stored, rfl⟩ := success
  obtain ⟨_, present, accepts, rfl⟩ :=
    (acceptRuntimeReadiness_iff now context bootId generation startEpoch _ _ answer).mp accepted
  cases stored.symm.trans present
  refine .of_put numbered context.workspace workspace _ stored rfl (Nat.le_refl _)
    (.ready now context bootId generation startEpoch rfl rfl accepts rfl) ?_
  dsimp only
  split
  · exact .settled .ready (by decide)
  · next notAwaiting =>
    have idle := accepts.awaited.resolve_left notAwaiting
    exact .asleep (by rw [idle]; rfl)

theorem routineAdmission_dresses (workspace : Workspace) (enabled : Option Bool) :
    workspace.Dresses { workspace with
      releaseTarget := { workspace.releaseTarget with routineAdmission := enabled } } :=
  ⟨rfl, rfl, Nat.le_refl _, fun known => known, rfl, rfl, rfl, rfl, rfl, rfl, .inl, rfl, rfl, rfl,
    rfl, .inl rfl⟩

theorem enableRoutineAdmission_moves (env : Env D) (now : Instant) (id : Uuid)
    (releaseDigest : String) (generation startEpoch : Nat) (numbered : store.db.WorkspacesNumbered)
    (success : enableRoutineAdmission env now id releaseDigest generation startEpoch store =
      .ok next) : store.Moves actor next := by
  simp only [enableRoutineAdmission, bind_eq_ok, orRaise_eq_ok, pure_eq_ok] at success
  obtain ⟨_, _, _, _, workspace, stored, _, _, _, _, _, _, _, _, _, _, _, _, rfl⟩ := success
  exact .of_woken numbered id workspace _ stored rfl (Nat.le_refl _)
    (.dressed (routineAdmission_dresses workspace _)) rfl

theorem disableRoutineAdmission_moves (id : Uuid) (numbered : store.db.WorkspacesNumbered)
    (success : disableRoutineAdmission id store = .ok next) : store.Moves actor next := by
  simp only [disableRoutineAdmission, bind_eq_ok, orRaise_eq_ok, pure_eq_ok] at success
  obtain ⟨workspace, stored, rfl⟩ := success
  exact .of_woken numbered id workspace _ stored rfl (Nat.le_refl _)
    (.dressed (routineAdmission_dresses workspace _)) rfl

end Foundry
