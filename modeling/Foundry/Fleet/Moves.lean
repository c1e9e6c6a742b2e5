import Foundry.Evolution.Simulation
import Foundry.Fleet.System

/-!
# What an event does to a Workspace row

`RowMove` lists the ways one event may rewrite one Workspace row: a core, which is the row
function of the transaction, and a dressing, which touches only columns that no
invariant of a power operation depends on.
-/

set_option autoImplicit false

namespace Foundry

open Raise

variable {D : Type}

/-! ## Dressings -/

structure Readiness where
  generation : Option Nat
  startEpoch : Option Nat
  bootId : Option Uuid
  readyAt : Option Instant
  lastSeenAt : Option Instant
deriving DecidableEq, Repr

def Workspace.readiness (workspace : Workspace) : Readiness where
  generation := workspace.readyGeneration
  startEpoch := workspace.readyStartEpoch
  bootId := workspace.readyBootId
  readyAt := workspace.readyAt
  lastSeenAt := workspace.runtimeLastSeenAt

def Readiness.none : Readiness := ⟨.none, .none, .none, .none, .none⟩

structure Workspace.Dresses (workspace later : Workspace) : Prop where
  operation : later.runtimeOperationId = workspace.runtimeOperationId
  state : later.runtimeOperationState = workspace.runtimeOperationState
  retries : later.runtimeOperationRetryCount ≤ workspace.runtimeOperationRetryCount
  requested : workspace.runtimeOperationRequestedAt.isSome = true →
    later.runtimeOperationRequestedAt.isSome = true
  epoch : later.runtimeStartEpoch = workspace.runtimeStartEpoch
  token : later.activationClaimToken = workspace.activationClaimToken
  expiry : later.activationClaimExpiresAt = workspace.activationClaimExpiresAt
  pin : later.releaseTarget.pin = workspace.releaseTarget.pin
  phase : later.provisioningPhase = workspace.provisioningPhase
  provisioning : later.provisioningId = workspace.provisioningId
  provisioningClaim : later.provisioningClaimToken.isSome = true →
    workspace.provisioningClaimToken.isSome = true ∨
      workspace.provisioningPhase.isInFlight = true
  generation : later.machineGeneration = workspace.machineGeneration
  app : later.flyAppRef = workspace.flyAppRef
  volume : later.volumeRef = workspace.volumeRef
  machine : later.machineRef = workspace.machineRef
  readiness : later.readiness = workspace.readiness ∨ later.readiness = .none

namespace Workspace.Dresses

variable {workspace later last : Workspace}

theorem refl (workspace : Workspace) : workspace.Dresses workspace :=
  ⟨rfl, rfl, Nat.le_refl _, id, rfl, rfl, rfl, rfl, rfl, rfl, .inl, rfl, rfl, rfl, rfl, .inl rfl⟩

theorem trans (first : workspace.Dresses later) (second : later.Dresses last) :
    workspace.Dresses last where
  operation := second.operation.trans first.operation
  state := second.state.trans first.state
  retries := Nat.le_trans second.retries first.retries
  requested := fun known => second.requested (first.requested known)
  epoch := second.epoch.trans first.epoch
  token := second.token.trans first.token
  expiry := second.expiry.trans first.expiry
  pin := second.pin.trans first.pin
  phase := second.phase.trans first.phase
  provisioning := second.provisioning.trans first.provisioning
  provisioningClaim := by
    intro claimed
    rcases second.provisioningClaim claimed with earlier | inFlight
    · exact first.provisioningClaim earlier
    · exact .inr (first.phase ▸ inFlight)
  generation := second.generation.trans first.generation
  app := second.app.trans first.app
  volume := second.volume.trans first.volume
  machine := second.machine.trans first.machine
  readiness := by
    rcases second.readiness with same | cleared
    · rcases first.readiness with before | before
      · exact .inl (same.trans before)
      · exact .inr (same.trans before)
    · exact .inr cleared

theorem unreported (dressing : workspace.Dresses later) (none : workspace.readiness = .none) :
    later.readiness = .none := by
  rcases dressing.readiness with same | cleared
  · exact same.trans none
  · exact cleared

end Workspace.Dresses

theorem extendKeepWarm_dresses (env : Env D) (now : Instant) (workspace : Workspace) :
    workspace.Dresses (extendKeepWarm env now workspace) :=
  ⟨rfl, rfl, Nat.le_refl _, id, rfl, rfl, rfl, rfl, rfl, rfl, .inl, rfl, rfl, rfl, rfl, .inl rfl⟩

theorem Workspace.forgetReadiness_dresses (workspace : Workspace) :
    workspace.Dresses workspace.forgetReadiness :=
  ⟨rfl, rfl, Nat.le_refl _, id, rfl, rfl, rfl, rfl, rfl, rfl, .inl, rfl, rfl, rfl, rfl, .inr rfl⟩

/-! ## Requests -/

/-- A start is requested on an idle or stopping row; a stop in progress loses its claim. -/
def Workspace.requestedFrom (now : Instant) (operationId : Uuid)
    (trigger : RuntimeOperationTrigger) (workspace : Workspace) : Workspace :=
  if workspace.runtimeOperationState = .stopping then
    (workspace.requested now operationId trigger).withoutActivationClaim
  else workspace.requested now operationId trigger

/-- Where a start may be requested: the Workspace has a Machine. -/
structure Workspace.Requestable (workspace : Workspace) : Prop where
  state : workspace.runtimeOperationState = .idle ∨ workspace.runtimeOperationState = .stopping
  bound : 0 < workspace.machineGeneration ∨ workspace.runtimeOperationState = .stopping ∨
    (workspace.provisioningPhase = .idle ∧ isPresent workspace.volumeRef = true)

theorem Workspace.Requestable.of_dressed {workspace later : Workspace}
    (dressing : workspace.Dresses later) (requestable : later.Requestable) :
    workspace.Requestable := by
  obtain ⟨state, bound⟩ := requestable
  rw [dressing.state] at state bound
  rw [dressing.generation, dressing.phase, dressing.volume] at bound
  exact ⟨state, bound⟩

/-- The identifier was drawn while the counter went from `supply` to `limit`. -/
def Drawn (supply limit id : Nat) : Prop :=
  supply ≤ id ∧ id < limit

theorem Drawn.only (supply : Nat) : Drawn supply (supply + 1) supply :=
  ⟨Nat.le_refl _, Nat.lt_succ_self _⟩

theorem Drawn.first (supply : Nat) : Drawn supply (supply + 1 + 1) supply :=
  ⟨Nat.le_refl _, by omega⟩

theorem Drawn.second (supply : Nat) : Drawn supply (supply + 1 + 1) (supply + 1) :=
  ⟨Nat.le_succ _, Nat.lt_succ_self _⟩

/-- The row was dressed, perhaps after a start was requested on it under a new identifier. -/
inductive Workspace.Woken (supply limit : Nat) (workspace later : Workspace) : Prop
  | dressed (dressing : workspace.Dresses later)
  | requested (now : Instant) (operationId : Uuid) (trigger : RuntimeOperationTrigger)
      (fresh : Drawn supply limit operationId) (requestable : workspace.Requestable)
      (dressing : (workspace.requestedFrom now operationId trigger).Dresses later)

namespace Workspace.Woken

variable {supply limit : Nat} {workspace later last : Workspace}

section

variable (now : Instant) (operationId : Uuid) (trigger : RuntimeOperationTrigger)

theorem requestedFrom_dresses (dressing : workspace.Dresses later) :
    (workspace.requestedFrom now operationId trigger).Dresses
      (later.requestedFrom now operationId trigger) := by
  unfold requestedFrom
  rw [dressing.state]
  split
  · exact ⟨rfl, rfl, Nat.le_refl _, id, dressing.epoch, rfl, rfl, dressing.pin, dressing.phase,
      dressing.provisioning, dressing.provisioningClaim, dressing.generation, dressing.app,
      dressing.volume, dressing.machine, dressing.readiness⟩
  · exact ⟨rfl, rfl, Nat.le_refl _, id, dressing.epoch, dressing.token, dressing.expiry,
      dressing.pin, dressing.phase, dressing.provisioning, dressing.provisioningClaim,
      dressing.generation, dressing.app, dressing.volume, dressing.machine, dressing.readiness⟩

theorem of_warm (fresh : Drawn supply limit operationId) (requestable : workspace.Requestable)
    (dressing : workspace.Dresses later) :
    workspace.Woken supply limit (later.requestedFrom now operationId trigger) :=
  .requested now operationId trigger fresh requestable
    (requestedFrom_dresses now operationId trigger dressing)

theorem requestedFrom_state :
    (workspace.requestedFrom now operationId trigger).runtimeOperationState = .requested := by
  unfold requestedFrom
  split <;> rfl

end

theorem mono {more : Nat} (grows : limit ≤ more) (woken : workspace.Woken supply limit later) :
    workspace.Woken supply more later := by
  cases woken with
  | dressed dressing => exact .dressed dressing
  | requested now operationId trigger fresh requestable dressing =>
    exact .requested now operationId trigger ⟨fresh.1, Nat.lt_of_lt_of_le fresh.2 grows⟩
      requestable dressing

theorem trans (first : workspace.Woken supply limit later)
    (second : later.Woken supply limit last) : workspace.Woken supply limit last := by
  cases first with
  | dressed dressing =>
    cases second with
    | dressed later => exact .dressed (dressing.trans later)
    | requested now operationId trigger fresh requestable rest =>
      exact .requested now operationId trigger fresh (.of_dressed dressing requestable)
        ((requestedFrom_dresses now operationId trigger dressing).trans rest)
  | requested now operationId trigger fresh requestable dressing =>
    cases second with
    | dressed rest =>
      exact .requested now operationId trigger fresh requestable (dressing.trans rest)
    | requested _ _ _ _ requestable =>
      have state := requestable.state
      rw [dressing.state, requestedFrom_state] at state
      rcases state with state | state <;> cases state

end Workspace.Woken

theorem requestExecutionWakeLocked_woken (env : Env D) (now : Instant)
    (supply limit operationId : Uuid) (workspace woken : Workspace)
    (fresh : Drawn supply limit operationId)
    (success : requestExecutionWakeLocked env now operationId workspace = .ok woken) :
    workspace.Woken supply limit woken := by
  simp only [requestExecutionWakeLocked] at success
  split at success
  · cases success
    exact .dressed (extendKeepWarm_dresses env now workspace)
  · split at success
    · next idle =>
      simp only [pure_eq_ok] at success
      split at success
      · next binding =>
        subst success
        have isIdle : workspace.runtimeOperationState = .idle := idle
        have bound : 0 < workspace.machineGeneration := by
          have holds := of_decide_eq_true binding
          exact holds.1
        refine .requested now operationId .execution fresh ⟨.inl isIdle, .inl bound⟩ ?_
        rw [Workspace.requestedFrom, if_neg (by rw [isIdle]; decide)]
        exact ⟨rfl, rfl, Nat.le_refl _, id, rfl, rfl, rfl, rfl, rfl, rfl, .inl, rfl, rfl, rfl,
          rfl, .inl rfl⟩
      · subst success
        exact .dressed (extendKeepWarm_dresses env now workspace)
    · next stopping =>
      cases success
      have isStopping : workspace.runtimeOperationState = .stopping := stopping
      refine .requested now operationId .execution fresh
        ⟨.inr isStopping, .inr (.inl isStopping)⟩ ?_
      rw [Workspace.requestedFrom, if_pos isStopping]
      exact ⟨rfl, rfl, Nat.le_refl _, id, rfl, rfl, rfl, rfl, rfl, rfl, .inl, rfl, rfl, rfl, rfl,
        .inl rfl⟩
    all_goals
      simp only [bind_eq_ok] at success
      obtain ⟨_, _, success⟩ := success
      split at success <;> simp only [pure_eq_ok] at success <;> subst success
      · exact .dressed (extendKeepWarm_dresses env now workspace)
      · exact .dressed ⟨rfl, rfl, Nat.zero_le _, fun _ => rfl, rfl, rfl, rfl, rfl, rfl, rfl, .inl,
          rfl, rfl, rfl, rfl, .inl rfl⟩

/-! ## Moves -/

/-- Who an event is an action of: a worker at a point of its program, the caller of a service,
or a runtime with a readiness receipt. -/
inductive Actor (D : Type) where
  | worker (point : Point)
  | caller (operation : Operation D)
  | runtime (context : RuntimeContext) (bootId : Uuid) (generation startEpoch : Nat)
  | other

/-- What one event may make of the row of Workspace `id`; identifiers are drawn from
`supply` to `limit`. -/
inductive RowMove (supply limit : Nat) (id : Uuid) (actor : Actor D)
    (workspace later : Workspace) : Prop
  | woken (woken : workspace.Woken supply limit later)
  | claimsStart (now : Instant) (token : Uuid) (fresh : Drawn supply limit token)
      (claimable : workspace.isClaimableStart = true)
      (written : later = workspace.claimedStart now token)
  | preparesStart (frame : WakeFrame) (advanced : Workspace)
      (acts : actor = .worker (.prepareStart frame)) (named : frame.claim.workspace = id)
      (current : frame.claim.isCurrent workspace = true)
      (state : workspace.runtimeOperationState = .starting)
      (advances : advanceRuntimeStartEpochLocked workspace = .ok advanced)
      (dressing : advanced.Dresses later)
  | marksAwaiting (claim : OperationClaim) (acts : actor = .worker (.markAwaiting claim))
      (named : claim.workspace = id) (current : claim.isCurrent workspace = true)
      (state : workspace.runtimeOperationState = .starting)
      (written : later = workspace.awaiting)
  | recoversAwaiting (claim : OperationClaim)
      (acts : actor = .worker (.recoverStartAsAwaiting claim)) (named : claim.workspace = id)
      (current : claim.isCurrent workspace = true)
      (state : workspace.runtimeOperationState = .starting)
      (written : later = workspace.awaiting)
  | recoversRequested (state : workspace.runtimeOperationState = .starting)
      (written : later =
        { workspace.withoutActivationClaim with runtimeOperationState := .requested })
  | claimsStop (now : Instant) (operationId token : Uuid) (fresh : Drawn supply limit operationId)
      (freshToken : Drawn supply limit token) (state : workspace.runtimeOperationState = .idle)
      (bound : 0 < workspace.machineGeneration)
      (written : later = workspace.claimedStop now operationId token)
  | preparesStop (claim : OperationClaim) (advanced : Workspace)
      (current : claim.isCurrent workspace = true)
      (state : workspace.runtimeOperationState = .stopping)
      (advances : advanceRuntimeStartEpochLocked workspace = .ok advanced)
      (written : later = advanced)
  | reclaimsStop (now : Instant) (operationId token : Uuid) (fresh : Drawn supply limit operationId)
      (freshToken : Drawn supply limit token) (state : workspace.runtimeOperationState = .stopping)
      (written : later = { workspace with
        runtimeOperationId := some operationId
        runtimeOperationState := .stopping
        runtimeOperationRequestedAt := some now
        activationClaimToken := some token
        activationClaimExpiresAt := some (now + seconds operationClaimSeconds) })
  | stops (state : workspace.runtimeOperationState = .stopping)
      (written : later = workspace.stoppedIdle)
  | finishesStop (advanced : Workspace) (state : workspace.runtimeOperationState = .stopping)
      (advances : advanceRuntimeStartEpochLocked workspace = .ok advanced)
      (written : later = advanced.stoppedIdle)
  | retries (now : Instant) (operationId : Uuid) (fresh : Drawn supply limit operationId)
      (active : workspace.runtimeOperationState ≠ .idle ∨
        workspace.runtimeOperationId.isSome = true)
      (below : workspace.runtimeOperationRetryCount < executionWakeMaxRetries)
      (written : later = workspace.retried now operationId)
  | abandons (clearKeepWarm : Bool) (written : later = workspace.abandoned clearKeepWarm)
  | resumesRelease (now : Instant) (operationId token : Uuid) (pin : ReleasePin)
      (fresh : Drawn supply limit operationId) (freshToken : Drawn supply limit token)
      (pinned : workspace.releaseTarget.pin = some pin)
      (written : later = workspace.claimedRelease now operationId token pin)
  | pinsRelease (now : Instant) (operationId token : Uuid) (pin : ReleasePin)
      (advanced : Workspace) (fresh : Drawn supply limit operationId) (freshToken : Drawn supply limit token)
      (unpinned : workspace.releaseTarget.pin = none)
      (idle : workspace.provisioningPhase = .idle)
      (bound : workspace.machineRef.isSome = true)
      (advances : advanceRuntimeStartEpochLocked workspace = .ok advanced)
      (written : later = advanced.claimedRelease now operationId token pin)
  | claimsActivation (now : Instant) (token : Uuid) (fresh : Drawn supply limit token)
      (state : workspace.runtimeOperationState ≠ .starting ∧
        workspace.runtimeOperationState ≠ .stopping)
      (written : later = { workspace with
        activationClaimToken := some token
        activationClaimExpiresAt := some (now + seconds activationClaimSeconds) })
  | clearsClaim (token : Uuid) (held : workspace.activationClaimToken = some token)
      (owner : actor = .worker (.activating id token) ∨
        ∃ wake raised, actor = .worker (.releaseClaim id wake token raised))
      (written : later = workspace.withoutActivationClaim)
  | opens (request : LifecycleRequest) (operationId : Uuid) (phase : WorkspaceProvisioningPhase)
      (opened : Workspace) (fresh : Drawn supply limit operationId)
      (idle : workspace.provisioningPhase = .idle) (inFlight : phase.isInFlight = true)
      (written : openOperation request operationId (workspace.machineGeneration + 1) phase
        workspace = .ok opened)
      (dressing : opened.Dresses later)
  | movesPhase (phase : WorkspaceProvisioningPhase) (updates : PhaseUpdates)
      (inFlight : phase.isInFlight = true) (nonempty : updates.areNonempty = true)
      (claimed : workspace.provisioningClaimToken.isSome = true)
      (written : later = { workspace with
        flyAppRef := updates.flyAppRef <|> workspace.flyAppRef
        volumeRef := updates.volumeRef <|> workspace.volumeRef
        machineRef := updates.machineRef <|> workspace.machineRef
        provisioningPhase := phase
        provisioningClaimToken := none
        provisioningClaimExpiresAt := none })
  | binds (now : Instant) (drawn : Uuid) (machineRef : String) (images : Images)
      (fresh : Drawn supply limit drawn) (nonempty : machineRef ≠ "")
      (claimed : workspace.provisioningClaimToken.isSome = true)
      (complete : 0 < workspace.machineGeneration ∧ workspace.flyAppRef.isSome = true ∧
        workspace.volumeRef.isSome = true)
      (written : later = workspace.boundIdle now drawn machineRef images)
  | givesUp (operationId token : Uuid) (retryable : Bool)
      (acts : actor = .caller (.handleFailure id operationId token retryable))
      (claimed : workspace.provisioningClaimToken.isSome = true)
      (written : later = { workspace with
        provisioningPhase := if retryable then workspace.provisioningPhase else .failed
        provisioningClaimToken := none
        provisioningClaimExpiresAt := none })
  | ready (now : Instant) (context : RuntimeContext) (bootId : Uuid) (generation startEpoch : Nat)
      (acts : actor = .runtime context bootId generation startEpoch)
      (named : context.workspace = id)
      (accepts : workspace.AcceptsReadiness context bootId generation startEpoch)
      (written : later = workspace.readied now bootId)

theorem RowMove.dressed {supply limit : Nat} {id : Uuid} {actor : Actor D}
    {workspace later : Workspace} (dressing : workspace.Dresses later) :
    RowMove supply limit id actor workspace later :=
  .woken (.dressed dressing)

theorem RowMove.refl (supply limit : Nat) (id : Uuid) (actor : Actor D) (workspace : Workspace) :
    RowMove supply limit id actor workspace workspace :=
  .dressed (.refl workspace)

end Foundry
