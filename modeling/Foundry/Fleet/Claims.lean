import Foundry.Fleet.Invariants

/-!
# Claims that workers hold

A release attempt and an activation hold a claim token while they run and give it back when
they end.  Neither takes the claim from under a start or a stop: the token of an activation
is on the row only while there is no start or stop, and the token of a release only while
the release is pinned.
-/

set_option autoImplicit false

namespace Foundry

open Raise

variable {D : Type}

/-- The Workspace and the token a worker clears when it is done. -/
def Point.heldClaim : Point → Option (Uuid × Uuid)
  | .replaceMachine id _ token | .releaseClaim id _ token _ | .activating id token =>
    some (id, token)
  | _ => none

def RuntimeOperationState.isClaimed : RuntimeOperationState → Bool
  | .starting | .stopping => true
  | .idle | .requested | .awaitingReadiness => false

def Workspace.IsParkable (workspace : Workspace) : Prop :=
  workspace.runtimeOperationState.isClaimed = true → workspace.releaseTarget.pin.isSome = true

/-- A start or stop in progress is pinned, or its claim expires. -/
def Workspace.ClaimExpires (workspace : Workspace) : Prop :=
  workspace.runtimeOperationState.isClaimed = true →
    workspace.releaseTarget.pin.isSome = true ∨ workspace.activationClaimExpiresAt.isSome = true

section Rows

variable {supply limit : Nat} {id token : Uuid} {actor : Actor D} {workspace later : Workspace}

theorem openOperation_power {request : LifecycleRequest} {operationId : Uuid} {target : Nat}
    {phase : WorkspaceProvisioningPhase} {opened : Workspace}
    (written : openOperation request operationId target phase workspace = .ok opened) :
    opened.runtimeOperationState = workspace.runtimeOperationState ∧
      opened.releaseTarget = workspace.releaseTarget ∧
      opened.activationClaimToken = workspace.activationClaimToken ∧
      opened.activationClaimExpiresAt = workspace.activationClaimExpiresAt := by
  simp only [openOperation, bind_eq_ok] at written
  obtain ⟨_, advances, written⟩ := written
  obtain ⟨_, rfl⟩ := advanceRuntimeStartEpochLocked_eq_ok.mp advances
  split at written <;> simp only [pure_eq_ok] at written <;> subst written <;>
    exact ⟨rfl, rfl, rfl, rfl⟩

theorem RowMove.token_cases (move : RowMove supply limit id actor workspace later)
    (held : later.activationClaimToken = some token) :
    supply ≤ token ∨ later.runtimeOperationState.isClaimed = false ∨
      (workspace.activationClaimToken = some token ∧
        later.runtimeOperationState = workspace.runtimeOperationState ∧
        later.releaseTarget.pin = workspace.releaseTarget.pin) := by
  have fresh : ∀ {drawn : Uuid}, Drawn supply limit drawn → some drawn = some token →
      supply ≤ token := by
    rintro _ isDrawn ⟨rfl⟩
    exact isDrawn.1
  cases move with
  | woken woken =>
    cases woken with
    | dressed dressing =>
      exact .inr (.inr ⟨dressing.token ▸ held, dressing.state, dressing.pin⟩)
    | requested _ _ _ _ _ dressing =>
      refine .inr (.inl ?_)
      rw [dressing.state, Workspace.Woken.requestedFrom_state]
      rfl
  | preparesStart _ _ _ _ _ _ advances dressing =>
    obtain ⟨_, rfl⟩ := advanceRuntimeStartEpochLocked_eq_ok.mp advances
    exact .inr (.inr ⟨dressing.token ▸ held, dressing.state, dressing.pin⟩)
  | preparesStop _ _ _ _ advances written =>
    obtain ⟨_, rfl⟩ := advanceRuntimeStartEpochLocked_eq_ok.mp advances
    subst written
    exact .inr (.inr ⟨held, rfl, rfl⟩)
  | opens _ _ _ _ _ _ _ written dressing =>
    obtain ⟨state, target, holds, _⟩ := openOperation_power written
    refine .inr (.inr ⟨?_, dressing.state.trans state, ?_⟩)
    · rw [← holds, ← dressing.token]
      exact held
    · rw [dressing.pin, target]
  | claimsStart _ _ drawn _ written | claimsStop _ _ _ _ drawn _ _ written
  | reclaimsStop _ _ _ _ drawn _ written | resumesRelease _ _ _ _ _ drawn _ written
  | pinsRelease _ _ _ _ _ _ drawn _ _ _ _ written | claimsActivation _ _ drawn _ written =>
    subst written
    exact .inl (fresh drawn held)
  | marksAwaiting _ _ _ _ _ written | recoversAwaiting _ _ _ _ _ written
  | recoversRequested _ written | stops _ written | finishesStop _ _ _ written
  | retries _ _ _ _ _ written | abandons _ written | clearsClaim _ _ _ written =>
    subst written
    cases held
  | movesPhase _ _ _ _ _ written | givesUp _ _ _ _ _ written =>
    subst written
    exact .inr (.inr ⟨held, rfl, rfl⟩)
  | binds _ _ _ _ _ _ _ _ written =>
    subst written
    exact .inr (.inl rfl)
  | ready _ _ _ _ _ _ _ _ written =>
    subst written
    simp only [Workspace.readied] at held ⊢
    split
    · exact .inr (.inl rfl)
    · next notAwaiting =>
      rw [if_neg notAwaiting] at held
      exact .inr (.inr ⟨held, rfl, rfl⟩)

theorem Workspace.IsParkable.move (parkable : workspace.activationClaimToken = some token →
    workspace.IsParkable) (drawn : token < supply)
    (move : RowMove supply limit id actor workspace later)
    (held : later.activationClaimToken = some token) : later.IsParkable := by
  intro claimed
  rcases move.token_cases held with new | unclaimed | ⟨before, state, pin⟩
  · exact absurd drawn (Nat.not_lt.mpr new)
  · rw [unclaimed] at claimed
    cases claimed
  · rw [state] at claimed
    rw [pin]
    exact parkable before claimed

theorem Workspace.ClaimExpires.move (expires : workspace.ClaimExpires)
    (owner : ∀ token, workspace.activationClaimToken = some token →
      (actor = .worker (.activating id token) ∨
        ∃ wake raised, actor = .worker (.releaseClaim id wake token raised)) →
      workspace.IsParkable)
    (move : RowMove supply limit id actor workspace later) : later.ClaimExpires := by
  intro claimed
  cases move with
  | woken woken =>
    cases woken with
    | dressed dressing =>
      rw [dressing.state] at claimed
      rw [dressing.pin, dressing.expiry]
      exact expires claimed
    | requested _ _ _ _ _ dressing =>
      rw [dressing.state, Workspace.Woken.requestedFrom_state] at claimed
      cases claimed
  | preparesStart _ _ _ _ _ _ advances dressing =>
    obtain ⟨_, rfl⟩ := advanceRuntimeStartEpochLocked_eq_ok.mp advances
    rw [dressing.state] at claimed
    rw [dressing.pin, dressing.expiry]
    exact expires claimed
  | preparesStop _ _ _ _ advances written =>
    obtain ⟨_, rfl⟩ := advanceRuntimeStartEpochLocked_eq_ok.mp advances
    subst written
    exact expires claimed
  | opens _ _ _ _ _ _ _ written dressing =>
    obtain ⟨state, target, _, expiry⟩ := openOperation_power written
    rw [dressing.state, state] at claimed
    rw [dressing.pin, dressing.expiry, target, expiry]
    exact expires claimed
  | claimsStart _ _ _ _ written | claimsStop _ _ _ _ _ _ _ written
  | reclaimsStop _ _ _ _ _ _ written | claimsActivation _ _ _ _ written =>
    subst written
    exact .inr rfl
  | resumesRelease _ _ _ _ _ _ _ written | pinsRelease _ _ _ _ _ _ _ _ _ _ _ written =>
    subst written
    exact .inl rfl
  | marksAwaiting _ _ _ _ _ written | recoversAwaiting _ _ _ _ _ written
  | recoversRequested _ written | stops _ written | finishesStop _ _ _ written
  | retries _ _ _ _ _ written | abandons _ written | binds _ _ _ _ _ _ _ _ written =>
    subst written
    cases claimed
  | clearsClaim token held acts written =>
    subst written
    exact .inl (owner token held acts claimed)
  | movesPhase _ _ _ _ _ written | givesUp _ _ _ _ _ written =>
    subst written
    exact expires claimed
  | ready _ _ _ _ _ _ _ _ written =>
    subst written
    simp only [Workspace.readied] at claimed ⊢
    split
    · next awaiting =>
      rw [if_pos awaiting] at claimed
      cases claimed
    · next notAwaiting =>
      rw [if_neg notAwaiting] at claimed
      exact expires claimed

end Rows

/-! ## The claims of workers -/

section Points

@[simp] theorem Point.heldClaim_afterPreparedStart (frame : WakeFrame) :
    (Point.afterPreparedStart frame).heldClaim = none := by
  unfold afterPreparedStart
  split <;> rfl

@[simp] theorem Point.heldClaim_afterInspectedStop (claim : OperationClaim) (workspace : Workspace)
    (machine : MachineRecord) : (Point.afterInspectedStop claim workspace machine).heldClaim = none := by
  unfold afterInspectedStop
  split <;> rfl

@[simp] theorem Point.heldClaim_afterInspectedExpired (claim : OperationClaim)
    (workspace : Workspace) (machine : MachineRecord) :
    (Point.afterInspectedExpired claim workspace machine).heldClaim = none := by
  unfold afterInspectedExpired
  split <;> rfl

@[simp] theorem Point.heldClaim_afterRelease (wake : Option WakeFrame) (isCurrent : Bool) :
    (Point.afterRelease wake isCurrent).bind Point.heldClaim = none := by
  cases wake <;> cases isCurrent <;> rfl

@[simp] theorem Point.heldClaim_afterReleaseRaised (wake : Option WakeFrame) (raised : Raised) :
    (Point.afterReleaseRaised wake raised).bind Point.heldClaim = none := by
  cases wake <;> rfl

@[simp] theorem Point.heldClaim_afterReleaseRead (env : Env D) (id : Uuid) (wake : Option WakeFrame)
    (workspace : Workspace) : (Point.afterReleaseRead env id wake workspace).bind Point.heldClaim = none := by
  unfold afterReleaseRead
  repeat' split
  all_goals first | exact heldClaim_afterReleaseRaised _ _ | rfl

theorem Point.heldClaim_afterWakeObserved (env : Env D) (settings : PowerSettings) (frame : WakeFrame) :
    (Point.afterWakeObserved env settings frame).1.heldClaim = none := by
  unfold afterWakeObserved
  repeat' split
  all_goals rfl

end Points

section Work

variable {store next : PowerDb D}

theorem claimRelease_held (settings : PowerSettings) (now : Instant) (id : Uuid)
    (machine : Option MachineRecord) (images : Images) (wakeClaim : Option OperationClaim)
    (token : Uuid) (success : claimRelease settings now id machine images wakeClaim store =
      .ok (some token, next)) :
    token < next.db.supply ∧
      ∃ row, next.db.workspaces.lookup id = some row ∧ row.releaseTarget.pin.isSome = true := by
  have written : ∀ row : Workspace, row.releaseTarget.pin.isSome = true →
      token = store.db.supply + 1 → next = store.draw.draw.putWorkspace id row →
      token < next.db.supply ∧
        ∃ row, next.db.workspaces.lookup id = some row ∧
          row.releaseTarget.pin.isSome = true := by
    rintro row pinned rfl rfl
    exact ⟨Nat.lt_succ_self _, row, AList.lookup_insert _, pinned⟩
  simp only [claimRelease, bind_eq_ok, orRaise_eq_ok, require_eq_ok] at success
  obtain ⟨_, _, _, _, _, _, success⟩ := success
  split at success
  · simp only [return_eq_ok] at success
    cases success.1
  · split at success
    · simp only [return_eq_ok, Option.some.injEq] at success
      exact written _ rfl success.1.symm success.2.symm
    · simp only [bind_eq_ok] at success
      obtain ⟨_, _, success⟩ := success
      split at success
      · simp only [return_eq_ok] at success
        cases success.1
      · simp only [return_eq_ok, Option.some.injEq] at success
        exact written _ rfl success.1.symm success.2.symm

theorem claimActivation_held (now : Instant) (id token : Uuid)
    (success : claimActivation now id store = .ok (some token, next)) :
    token < next.db.supply ∧
      ∃ row, next.db.workspaces.lookup id = some row ∧
        row.runtimeOperationState.isClaimed = false := by
  simp only [claimActivation, bind_eq_ok, orRaise_eq_ok, require_eq_ok] at success
  obtain ⟨workspace, _, _, _, success⟩ := success
  split at success
  · simp only [return_eq_ok] at success
    cases success.1
  · next free =>
    simp only [return_eq_ok, Option.some.injEq] at success
    obtain ⟨rfl, rfl⟩ := success
    refine ⟨Nat.lt_succ_self _, _, AList.lookup_insert _, ?_⟩
    have notStarting : workspace.runtimeOperationState ≠ .starting :=
      fun starting => free (.inl starting)
    have notStopping : workspace.runtimeOperationState ≠ .stopping :=
      fun stopping => free (.inr (.inl stopping))
    change workspace.runtimeOperationState.isClaimed = false
    revert notStarting notStopping
    cases workspace.runtimeOperationState <;> simp [RuntimeOperationState.isClaimed]

theorem advance_heldClaim (env : Env D) (settings : PowerSettings) (clock : Instant)
    (input : PowerInput) (worker : PowerWorker) (point : Option Point) (id token : Uuid)
    (success : worker.advance env settings clock input store = some (point, next))
    (held : point.bind Point.heldClaim = some (id, token)) :
    worker.point.heldClaim = some (id, token) ∨
      (token < next.db.supply ∧
        ∃ row, next.db.workspaces.lookup id = some row ∧ row.IsParkable) := by
  obtain ⟨_, at_⟩ := worker
  cases at_ <;> cases input <;> simp only [PowerWorker.advance] at success
  all_goals first | cases success; done | skip
  case claimRelease.go target wake machine images =>
    split at success
    · obtain ⟨rfl, rfl⟩ := Prod.mk.inj (Option.some.inj success)
      simp at held
    · obtain ⟨rfl, rfl⟩ := Prod.mk.inj (Option.some.inj success)
      simp at held
    · next drawn claimed claims =>
      obtain ⟨rfl, rfl⟩ := Prod.mk.inj (Option.some.inj success)
      cases held
      obtain ⟨below, row, stored, pinned⟩ := claimRelease_held settings clock id machine images _ _ claims
      exact .inr ⟨below, row, stored, fun _ => pinned⟩
  case claimActivation.go target =>
    split at success
    · obtain ⟨rfl, rfl⟩ := Prod.mk.inj (Option.some.inj success)
      cases held
    · next drawn claimed claims =>
      obtain ⟨rfl, rfl⟩ := Prod.mk.inj (Option.some.inj success)
      cases drawn with
      | none => cases held
      | some =>
        cases held
        obtain ⟨below, row, stored, free⟩ := claimActivation_held clock id _ claims
        refine .inr ⟨below, row, stored, ?_⟩
        intro claimed
        rw [free] at claimed
        cases claimed
  case releaseOnWake.go frame =>
    have none := Point.heldClaim_afterWakeObserved env settings frame
    split at success
    all_goals
      next observed =>
        obtain ⟨rfl, rfl⟩ := Prod.mk.inj (Option.some.inj success)
        rw [observed] at none
        simp [none] at held
  all_goals
    repeat' split at success
    all_goals
      obtain ⟨rfl, rfl⟩ := Prod.mk.inj (Option.some.inj success)
      first
        | exact .inl held
        | cases held
        | simp at held
        | simp [Option.bind_map, Function.comp_def, Point.heldClaim] at held

end Work

/-! ## Runs -/

structure Fleet.ClaimsSound (fleet : Fleet D) : Prop where
  row : ∀ id workspace, fleet.store.db.workspaces.lookup id = some workspace →
    workspace.ClaimExpires
  worker : ∀ number worker id token, fleet.workers.lookup number = some worker →
    worker.point.heldClaim = some (id, token) →
    token < fleet.store.db.supply ∧
      ∀ workspace, fleet.store.db.workspaces.lookup id = some workspace →
        workspace.activationClaimToken = some token → workspace.IsParkable

namespace Fleet.ClaimsSound

variable {env : Env D} {settings : PowerSettings} {event : FleetEvent D} {fleet next : Fleet D}

theorem empty : (Fleet.empty : Fleet D).ClaimsSound := by
  constructor
  · intro id workspace stored
    rw [Fleet.empty_workspaces] at stored
    cases stored
  · intro number worker id token known
    have none : (Fleet.empty : Fleet D).workers.lookup number = none := AList.lookup_empty number
    rw [none] at known
    cases known

theorem rowStep (sound : fleet.ClaimsSound) (steps : fleet.Steps env settings event next)
    (id : Uuid) (later : Workspace) (stored : next.store.db.workspaces.lookup id = some later) :
    later.ClaimExpires := by
  cases known : fleet.store.db.workspaces.lookup id with
  | none =>
    obtain ⟨_, dressing⟩ := steps.moves.new id later stored known
    intro claimed
    rw [dressing.state] at claimed
    cases claimed
  | some workspace =>
    obtain ⟨_, found, move⟩ := steps.moves.row id workspace known
    cases stored.symm.trans found
    refine (sound.row id workspace known).move ?_ move
    -- Only the worker that holds a token clears it.
    intro token held acts
    have owner : ∃ point, event.actor fleet = .worker point ∧
        point.heldClaim = some (id, token) := by
      rcases acts with acts | ⟨_, _, acts⟩
      · exact ⟨_, acts, rfl⟩
      · exact ⟨_, acts, rfl⟩
    obtain ⟨_, acts, holds⟩ := owner
    obtain ⟨_, number, _, worker, _, working, rfl⟩ := FleetEvent.actor_eq_worker acts
    exact (sound.worker number worker id token working holds).2 workspace known held

theorem held (sound : fleet.ClaimsSound) (steps : fleet.Steps env settings event next)
    (number : Nat) (worker : PowerWorker) (id token : Uuid)
    (known : fleet.workers.lookup number = some worker)
    (holds : worker.point.heldClaim = some (id, token)) :
    token < next.store.db.supply ∧
      ∀ later, next.store.db.workspaces.lookup id = some later →
        later.activationClaimToken = some token → later.IsParkable := by
  obtain ⟨drawn, parkable⟩ := sound.worker number worker id token known holds
  refine ⟨Nat.lt_of_lt_of_le drawn steps.moves.supply, ?_⟩
  intro later stored isHeld
  cases known : fleet.store.db.workspaces.lookup id with
  | none =>
    obtain ⟨_, dressing⟩ := steps.moves.new id later stored known
    rw [dressing.token] at isHeld
    cases isHeld
  | some workspace =>
    obtain ⟨_, found, move⟩ := steps.moves.row id workspace known
    cases stored.symm.trans found
    exact Workspace.IsParkable.move (parkable workspace known) drawn move isHeld

theorem steps (sound : fleet.ClaimsSound) (steps : fleet.Steps env settings event next) :
    next.ClaimsSound := by
  refine ⟨sound.rowStep steps, ?_⟩
  intro number worker id token known holds
  cases steps.worker number worker known with
  | kept before => exact sound.held steps number worker id token before holds
  | selected _ task _ _ _ _ _ _ _ started =>
    subst started
    cases task <;> cases holds
  | advanced clock input current _ before advances =>
    rcases advance_heldClaim env settings clock input current (some worker.point) id token advances
        holds with former | ⟨below, _, stored, parkable⟩
    · exact sound.held steps number current id token before former
    · refine ⟨below, ?_⟩
      intro workspace found _
      cases stored.symm.trans found
      exact parkable

end Fleet.ClaimsSound

theorem runFleet_claimsSound [DecidableEq D] (env : Env D) (settings : PowerSettings)
    (events : List (FleetEvent D)) : (runFleet env settings Fleet.empty events).ClaimsSound :=
  runFleet_invariant (fun _ _ => True) Fleet.ClaimsSound .empty
    (fun _ _ _ _ _ _ sound _ steps => sound.steps steps) events
    (Run.meets_of_forall _ (fun _ _ => trivial) _ _)

end Foundry
