import Foundry.Fleet.Invariants

/-!
# Wake intents and the operation they wait for

An intent that was answered WAKING waits for the operation its Workspace had at that
moment.  Whatever the power workers, the lifecycle workers and the runtimes do, it still
names the current operation, or it was settled; so the wakes never meet an operation
without identity.
-/

set_option autoImplicit false

namespace Foundry

open Raise

variable {D : Type}

structure Fleet.TracksIntents (env : Env D) (settings : PowerSettings) (fleet : Fleet D) :
    Prop where
  waking : ∀ id key intent, fleet.store.intents.lookup (id, key) = some intent →
    intent.outcome = .waking →
    ∃ workspace, fleet.store.db.workspaces.lookup id = some workspace ∧
      workspace.runtimeOperationId.isSome = true ∧
      intent.coalescedOperationId = workspace.runtimeOperationId ∧
      (workspace.runtimeOperationState = .requested ∨
        workspace.runtimeOperationState = .starting ∨
        workspace.runtimeOperationState = .awaitingReadiness)
  named : ∀ id workspace, fleet.store.db.workspaces.lookup id = some workspace →
    workspace.runtimeOperationState ≠ .idle → workspace.runtimeOperationId.isSome = true
  retries : ∀ id workspace, fleet.store.db.workspaces.lookup id = some workspace →
    workspace.runtimeOperationRetryCount ≤ executionWakeMaxRetries
  intent : ∀ now id key intentType receivedAt,
    requestRuntimeIntent env settings now id key intentType receivedAt fleet.store ≠
      .error (conflictError "runtime operation state has no identity")
  prompt : ∀ id workspace, fleet.store.db.workspaces.lookup id = some workspace →
    ∀ now operationId, ∃ woken,
      requestExecutionWakeLocked env now operationId workspace = .ok woken

/-! ## The invariant -/

def PowerDb.IntentsTracked (store : PowerDb D) : Prop :=
  ∀ key intent, store.intents.lookup key = some intent → intent.outcome = .waking →
    ∃ workspace, store.db.workspaces.lookup key.1 = some workspace ∧ workspace.Tracks intent

theorem PowerDb.IntentsTracked.moves {actor : Actor D} {store next : PowerDb D}
    (tracked : store.IntentsTracked) (moves : store.Moves actor next) : next.IntentsTracked := by
  intro key intent stored waking
  rcases moves.intent key intent stored waking with ⟨known, follows⟩ | tracks
  · obtain ⟨workspace, found, tracks⟩ := tracked key intent known waking
    exact follows workspace found tracks
  · exact tracks

theorem RuntimeOperationState.isWaking_eq_true (state : RuntimeOperationState) :
    state.isWaking = true ↔
      state = .requested ∨ state = .starting ∨ state = .awaitingReadiness := by
  cases state <;> decide

theorem runFleet_intentsTracked [DecidableEq D] (env : Env D) (settings : PowerSettings)
    (events : List (FleetEvent D)) :
    (runFleet env settings Fleet.empty events).store.IntentsTracked := by
  refine runFleet_invariant (fun _ _ => True) (fun fleet => fleet.store.IntentsTracked) ?_ ?_
    events (Run.meets_of_forall _ (fun _ _ => trivial) _ _)
  · intro key intent stored
    have none : (Fleet.empty : Fleet D).store.intents.lookup key = none := AList.lookup_empty key
    rw [none] at stored
    cases stored
  · intro event fleet next reply _ _ tracked _ steps
    exact tracked.moves steps.moves

/-! ## The error branches -/

section Errors

variable (env : Env D) (settings : PowerSettings) (now : Instant) (id key : Uuid)
variable (intentType : RuntimeIntentType) (receivedAt : Instant) (workspace : Workspace)
variable (store : PowerDb D)

theorem createIntent_error (intent : RuntimeIntent) (error : RuntimeError)
    (raised : createIntent id key intent store = .error error) :
    error = conflictError "runtime intent identity conflicts" := by
  unfold createIntent at raised
  simp only [require] at raised
  split at raised
  · cases raised
  · cases raised
    rfl

theorem createIntent_ne_identity (intent : RuntimeIntent) :
    createIntent id key intent store ≠
      .error (conflictError "runtime operation state has no identity") := by
  intro raised
  have error := createIntent_error id key store intent _ raised
  simp [conflictError] at error

theorem wakeForIntent_ne_identity
    (named : workspace.runtimeOperationState ≠ .idle → workspace.runtimeOperationId.isSome = true) :
    wakeForIntent env settings now id key intentType receivedAt workspace store ≠
      .error (conflictError "runtime operation state has no identity") := by
  have joins : workspace.runtimeOperationState ≠ .idle → ∀ answer : Uuid → PowerDb D →
      Except RuntimeError (RuntimeIntentReceipt × PowerDb D),
      (∀ operationId after, answer operationId after ≠
        .error (conflictError "runtime operation state has no identity")) →
      (do
        let operationId ← orRaise workspace.runtimeOperationId
          (conflictError "runtime operation state has no identity")
        answer operationId store) ≠
        .error (conflictError "runtime operation state has no identity") := by
    intro active answer clean
    obtain ⟨operationId, known⟩ := Option.isSome_iff_exists.mp (named active)
    rw [known]
    exact clean operationId store
  have wakes (active : workspace.runtimeOperationState ≠ .idle) :=
    joins active (fun operationId after => createIntent id key
      (.decided settings intentType receivedAt .waking (some operationId))
      (after.putWorkspace id (extendKeepWarm env now workspace)))
      fun _ _ => createIntent_ne_identity _ _ _ _
  unfold wakeForIntent
  dsimp only
  split
  · exact createIntent_ne_identity _ _ _ _
  · split
    · exact createIntent_ne_identity _ _ _ _
    · split
      · exact createIntent_ne_identity _ _ _ _
      · split
        · exact createIntent_ne_identity _ _ _ _
        · next state => exact wakes (by rw [state]; decide)
        · next state => exact wakes (by rw [state]; decide)
        · next state => exact wakes (by rw [state]; decide)
        · split
          · exact createIntent_ne_identity _ _ _ _
          · exact createIntent_ne_identity _ _ _ _

theorem requestRuntimeIntent_ne_identity
    (named : ∀ workspace, store.db.workspaces.lookup id = some workspace →
      workspace.runtimeOperationState ≠ .idle → workspace.runtimeOperationId.isSome = true) :
    requestRuntimeIntent env settings now id key intentType receivedAt store ≠
      .error (conflictError "runtime operation state has no identity") := by
  unfold requestRuntimeIntent
  cases stored : store.db.workspaces.lookup id with
  | none =>
    intro raised
    simp [orRaise, bind, Except.bind, notFoundError, conflictError] at raised
  | some workspace =>
    simp only [orRaise, bind, Except.bind]
    split
    · next existing _ =>
      by_cases same : existing.intentType = intentType
      · rw [require, if_pos same]
        rintro ⟨⟩
      · rw [require, if_neg same]
        intro raised
        simp [idempotencyConflictError, conflictError] at raised
    · split
      · exact createIntent_ne_identity _ _ _ _
      · split
        · exact createIntent_ne_identity _ _ _ _
        · split
          · exact createIntent_ne_identity _ _ _ _
          · exact wakeForIntent_ne_identity env settings now id key intentType receivedAt workspace
              store (named workspace stored)

theorem requestExecutionWakeLocked_ok (operationId : Uuid)
    (named : workspace.runtimeOperationState ≠ .idle → workspace.runtimeOperationId.isSome = true) :
    ∃ woken, requestExecutionWakeLocked env now operationId workspace = .ok woken := by
  have identified : workspace.runtimeOperationState ≠ .idle →
      (extendKeepWarm env now workspace).runtimeOperationId.isSome = true := named
  unfold requestExecutionWakeLocked
  dsimp only
  split
  · exact ⟨_, rfl⟩
  · split
    · exact ⟨_, rfl⟩
    · exact ⟨_, rfl⟩
    all_goals
      next state =>
        have isActive : workspace.runtimeOperationState ≠ .idle := by
          intro idle
          have same : (extendKeepWarm env now workspace).runtimeOperationState = .idle := idle
          rw [state] at same
          cases same
        rw [require, if_pos (identified isActive)]
        split <;> exact ⟨_, rfl⟩

end Errors

/-- In every reachable fleet the WAKING intents name the current operation of their Workspace,
which is a start; so no wake is refused for an operation without identity. -/
theorem runFleet_tracksIntents [DecidableEq D] (env : Env D) (settings : PowerSettings)
    (events : List (FleetEvent D)) :
    (runFleet env settings Fleet.empty events).TracksIntents env settings := by
  have sound := runFleet_sound env settings Fleet.empty events .empty
  have tracked := runFleet_intentsTracked env settings events
  have named : ∀ id workspace,
      (runFleet env settings Fleet.empty events).store.db.workspaces.lookup id = some workspace →
      workspace.runtimeOperationState ≠ .idle → workspace.runtimeOperationId.isSome = true :=
    fun id workspace stored => (sound.row id workspace stored).named.mpr
  refine ⟨?_, named, ?_, ?_, ?_⟩
  · intro id key intent stored waking
    obtain ⟨workspace, found, operation, isNamed, state⟩ :=
      tracked (id, key) intent stored waking
    exact ⟨workspace, found, isNamed, operation,
      (RuntimeOperationState.isWaking_eq_true _).mp state⟩
  · exact fun id workspace stored => (sound.row id workspace stored).retries
  · intro now id key intentType receivedAt
    exact requestRuntimeIntent_ne_identity env settings now id key intentType receivedAt _
      (named id)
  · intro id workspace stored now operationId
    exact requestExecutionWakeLocked_ok env now workspace operationId (named id workspace stored)

end Foundry
