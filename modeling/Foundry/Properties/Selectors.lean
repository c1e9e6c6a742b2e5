import Foundry.Fleet.Claims

/-!
# What the maintenance pass selects

A power operation that is not over waits for a worker.  The maintenance pass has four
selectors; together they reach every operation of a Workspace whose provisioning has not
failed, except a release that was attempted five times, which is parked for an operator.
-/

set_option autoImplicit false

namespace Foundry

open Raise

variable {D : Type}

/-- The selectors of the maintenance pass; an idle stop begins an operation, and the
others are run by an operator. -/
def Task.isMaintenance : Task → Bool
  | .requestedStart | .releaseResumption | .expiredClaim | .unacknowledgedReadiness => true
  | .idleStop | .operatorRelease | .activation => false

/-- From some instant on, the Workspace is selected as it stands. -/
def Fleet.IsSelected (settings : PowerSettings) (id : Uuid) (workspace : Workspace)
    (fleet : Fleet D) : Prop :=
  ∃ deadline, ∀ now, deadline ≤ now → ∃ task : Task, task.isMaintenance = true ∧
    task.selects settings now id workspace fleet.store.db = true

/-- A start or stop under a release that has no attempt left. -/
def Workspace.isParked (workspace : Workspace) : Bool :=
  workspace.runtimeOperationState.isClaimed &&
    workspace.releaseTarget.pin.any fun pin => releaseMaxAttempts ≤ pin.attempts

section Selectors

variable (settings : PowerSettings) (id : Uuid) (workspace : Workspace) (fleet : Fleet D)

theorem parked_not_selected (parked : workspace.isParked = true) (now : Instant) (task : Task)
    (maintenance : task.isMaintenance = true) :
    task.selects settings now id workspace fleet.store.db = false := by
  obtain ⟨claimed, exhausted⟩ := (Bool.and_eq_true _ _).mp parked
  obtain ⟨pin, pinned, attempts⟩ := (Option.any_eq_true _ _).mp exhausted
  have tried : releaseMaxAttempts ≤ pin.attempts := of_decide_eq_true attempts
  cases task with
  | requestedStart | unacknowledgedReadiness =>
    refine decide_eq_false fun selected => ?_
    rw [selected.1] at claimed
    cases claimed
  | releaseResumption =>
    refine decide_eq_false fun selected => ?_
    have left := selected.2.2
    rw [pinned] at left
    exact absurd (of_decide_eq_true left) (Nat.not_lt.mpr tried)
  | expiredClaim =>
    refine decide_eq_false fun selected => ?_
    rw [pinned] at selected
    cases selected.1
  | idleStop | operatorRelease | activation => cases maintenance

theorem requested_selected (state : workspace.runtimeOperationState = .requested)
    (requested : workspace.runtimeOperationRequestedAt.isSome = true) :
    fleet.IsSelected settings id workspace := by
  obtain ⟨instant, known⟩ := Option.isSome_iff_exists.mp requested
  refine ⟨instant, fun now due => ⟨.requestedStart, rfl, decide_eq_true ⟨state, ?_⟩⟩⟩
  rw [known]
  exact decide_eq_true due

theorem awaiting_selected (state : workspace.runtimeOperationState = .awaitingReadiness)
    (requested : workspace.runtimeOperationRequestedAt.isSome = true) :
    fleet.IsSelected settings id workspace := by
  obtain ⟨instant, known⟩ := Option.isSome_iff_exists.mp requested
  refine ⟨instant + settings.readinessTimeout, fun now due =>
    ⟨.unacknowledgedReadiness, rfl, decide_eq_true ⟨state, ?_⟩⟩⟩
  rw [known]
  exact decide_eq_true due

theorem claimed_selected (state : workspace.runtimeOperationState = .starting ∨
      workspace.runtimeOperationState = .stopping)
    (expires : workspace.ClaimExpires) (notFailed : workspace.provisioningPhase ≠ .failed)
    (notParked : workspace.isParked = false) : fleet.IsSelected settings id workspace := by
  have claimed : workspace.runtimeOperationState.isClaimed = true := by
    rcases state with state | state <;> rw [state] <;> rfl
  cases pinned : workspace.releaseTarget.pin with
  | none =>
    have expiry := (expires claimed).resolve_left (by rw [pinned]; nofun)
    obtain ⟨instant, known⟩ := Option.isSome_iff_exists.mp expiry
    refine ⟨instant, fun now due => ⟨.expiredClaim, rfl, decide_eq_true ⟨pinned, state, ?_⟩⟩⟩
    rw [known]
    exact decide_eq_true due
  | some pin =>
    have left : pin.attempts < releaseMaxAttempts := by
      refine Nat.lt_of_not_le fun exhausted => ?_
      simp [Workspace.isParked, claimed, pinned, exhausted] at notParked
    refine ⟨workspace.activationClaimExpiresAt.getD 0, fun now due =>
      ⟨.releaseResumption, rfl, decide_eq_true ⟨notFailed, ?_, ?_⟩⟩⟩
    · cases expiry : workspace.activationClaimExpiresAt with
      | none => rfl
      | some =>
        rw [expiry] at due
        exact decide_eq_true due
    · rw [pinned]
      exact decide_eq_true left

end Selectors

/-- In every reachable fleet, an operation of a Workspace whose provisioning has not failed is
selected sooner or later exactly if it is not a parked release. -/
theorem runFleet_selects_unless_parked [DecidableEq D] (env : Env D) (settings : PowerSettings)
    (events : List (FleetEvent D)) (id : Uuid) (workspace : Workspace)
    (stored : (runFleet env settings Fleet.empty events).store.db.workspaces.lookup id =
      some workspace)
    (active : workspace.runtimeOperationState ≠ .idle)
    (notFailed : workspace.provisioningPhase ≠ .failed) :
    (runFleet env settings Fleet.empty events).IsSelected settings id workspace ↔
      workspace.isParked = false := by
  have sound := (runFleet_sound env settings Fleet.empty events .empty).row id workspace stored
  have claims := (runFleet_claimsSound env settings events).row id workspace stored
  constructor
  · rintro ⟨deadline, selects⟩
    obtain ⟨task, maintenance, selected⟩ := selects deadline (Nat.le_refl _)
    refine Bool.eq_false_iff.mpr fun parked => ?_
    rw [parked_not_selected settings id workspace _ parked deadline task maintenance] at selected
    cases selected
  · intro notParked
    have requested := sound.requested active
    cases state : workspace.runtimeOperationState with
    | idle => exact absurd state active
    | requested => exact requested_selected settings id workspace _ state requested
    | awaitingReadiness => exact awaiting_selected settings id workspace _ state requested
    | starting =>
      exact claimed_selected settings id workspace _ (.inl state) claims notFailed notParked
    | stopping =>
      exact claimed_selected settings id workspace _ (.inr state) claims notFailed notParked

/-! ## A parked release -/

def Env.upgraded : Env PlainDigest :=
  { Env.plain with desiredImages := some [("runtime", "sha512")] }

def failedRelease : List (FleetEvent PlainDigest) :=
  [.work (seconds 400) 1 .go,
    .work (seconds 400) 1 (.called (.error (.provider true false))),
    .work (seconds 400) 1 .go]

def resumedRelease : List (FleetEvent PlainDigest) :=
  [.select (seconds 400) 1 .releaseResumption 0, .work (seconds 400) 1 .go] ++ failedRelease

/-- An upgrade that fails five times, and an intent after that. -/
def exhaustedRelease : List (FleetEvent PlainDigest) :=
  provisionedFleet ++
    [.select (seconds 400) 1 .operatorRelease 0,
      .work (seconds 400) 1 .go,
      .work (seconds 400) 1 (.inspected (.ok (some (plainMachine .stopped))))] ++ failedRelease ++
    resumedRelease ++ resumedRelease ++ resumedRelease ++ resumedRelease ++
    [.intent (seconds 400) 0 60 .composingStarted (seconds 400)]

/-- The five attempts are over: no selector picks the Workspace at any instant, and the intent
waits for it. -/
theorem exhaustedRelease_stranded :
    ∃ workspace intent,
      (runFleet Env.upgraded .plain Fleet.empty exhaustedRelease).store.db.workspaces.lookup 0 =
        some workspace ∧
      workspace.runtimeOperationState ≠ .idle ∧ workspace.provisioningPhase ≠ .failed ∧
      (∀ now (task : Task), task.isMaintenance = true → task.selects .plain now 0 workspace
        (runFleet Env.upgraded .plain Fleet.empty exhaustedRelease).store.db = false) ∧
      ¬ (runFleet Env.upgraded .plain Fleet.empty exhaustedRelease).IsSelected .plain 0 workspace ∧
      (runFleet Env.upgraded .plain Fleet.empty exhaustedRelease).store.intents.lookup (0, 60) =
        some intent ∧
      intent.outcome = .waking ∧
      intent.coalescedOperationId = workspace.runtimeOperationId := by
  have evaluated :
      ((runFleet Env.upgraded .plain Fleet.empty exhaustedRelease).store.db.workspaces.lookup
        0).any (fun workspace =>
          decide (workspace.runtimeOperationState ≠ .idle ∧ workspace.provisioningPhase ≠ .failed ∧
            workspace.isParked = true) &&
          ((runFleet Env.upgraded .plain Fleet.empty exhaustedRelease).store.intents.lookup
            (0, 60)).any fun intent => decide (intent.outcome = .waking ∧
              intent.coalescedOperationId = workspace.runtimeOperationId)) = true := by
    decide +kernel
  obtain ⟨workspace, stored, holds⟩ := (Option.any_eq_true _ _).mp evaluated
  obtain ⟨row, joined⟩ := (Bool.and_eq_true _ _).mp holds
  obtain ⟨active, notFailed, parked⟩ := of_decide_eq_true row
  obtain ⟨intent, known, waits⟩ := (Option.any_eq_true _ _).mp joined
  obtain ⟨waking, operation⟩ := of_decide_eq_true waits
  have never := parked_not_selected PowerSettings.plain 0 workspace
    (runFleet Env.upgraded .plain Fleet.empty exhaustedRelease) parked
  refine ⟨workspace, intent, stored, active, notFailed, never, ?_, known, waking, operation⟩
  rintro ⟨deadline, selects⟩
  obtain ⟨task, maintenance, selected⟩ := selects deadline (Nat.le_refl _)
  rw [never deadline task maintenance] at selected
  cases selected

/-- A Machine that was bound and has not reported yet is selected. -/
theorem runFleet_selects_awaiting :
    ∃ workspace,
      (runFleet Env.plain .plain Fleet.empty (provisionedFleet.take 11)).store.db.workspaces.lookup
        0 = some workspace ∧
      workspace.runtimeOperationState ≠ .idle ∧ workspace.provisioningPhase ≠ .failed ∧
      (runFleet Env.plain .plain Fleet.empty (provisionedFleet.take 11)).IsSelected .plain 0
        workspace := by
  have evaluated :
      ((runFleet Env.plain .plain Fleet.empty
        (provisionedFleet.take 11)).store.db.workspaces.lookup 0).any (fun workspace =>
          decide (workspace.runtimeOperationState ≠ .idle ∧ workspace.provisioningPhase ≠ .failed ∧
            workspace.isParked = false)) = true := by
    decide +kernel
  obtain ⟨workspace, stored, holds⟩ := (Option.any_eq_true _ _).mp evaluated
  obtain ⟨active, notFailed, notParked⟩ := of_decide_eq_true holds
  exact ⟨workspace, stored, active, notFailed,
    (runFleet_selects_unless_parked Env.plain .plain (provisionedFleet.take 11) 0 workspace stored
      active notFailed).mpr notParked⟩

end Foundry
