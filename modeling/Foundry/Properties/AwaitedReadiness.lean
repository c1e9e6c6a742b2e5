import Foundry.Fleet.Starts

/-!
# Awaited readiness

A Workspace in AWAITING_READINESS waits for the receipt of a start.  If every expired
claim that is recovered as AWAITING_READINESS belongs to a start that was prepared, the
receipt of that start is accepted from whatever boot, and no earlier one is.  A worker that
dies between its claim and the preparation leaves a start for which this fails.
-/

set_option autoImplicit false

namespace Foundry

open Raise

variable {D : Type}

/-- What a Workspace in AWAITING_READINESS promises: the epoch was advanced under the
current operation, nothing an earlier start reported is recorded, the receipt of the current
generation and epoch is accepted unless the Workspace is being provisioned, and no receipt
of an epoch issued before the operation began is. -/
structure Fleet.AwaitsReceipt (fleet : Fleet D) (id : Uuid) (workspace : Workspace) : Prop where
  advanced : (fleet.history id).began < workspace.runtimeStartEpoch
  unreported : workspace.readiness = .none
  accepted : workspace.provisioningPhase.isInFlight = false →
    ∀ now (context : RuntimeContext) bootId, context.workspace = id →
      context.machineGeneration = workspace.machineGeneration →
      ∃ next, settleRuntimeReadiness now context bootId workspace.machineGeneration
        workspace.runtimeStartEpoch fleet.store = .ok next
  refused : ∀ now (context : RuntimeContext) bootId generation startEpoch,
    context.workspace = id → startEpoch ≤ (fleet.history id).began →
    ∀ next, settleRuntimeReadiness now context bootId generation startEpoch fleet.store ≠ .ok next

/-! ## Provisioning that has not failed -/

def AvoidsTerminalFailure (event : FleetEvent D) : Prop :=
  ∀ call id operationId token, event = .service call →
    call.operation ≠ .handleFailure id operationId token false

theorem RowMove.failed_cases {supply limit : Nat} {id : Uuid} {actor : Actor D}
    {workspace later : Workspace} (move : RowMove supply limit id actor workspace later)
    (failed : later.provisioningPhase = .failed) :
    workspace.provisioningPhase = .failed ∨
      ∃ operationId token, actor = .caller (.handleFailure id operationId token false) := by
  cases move with
  | woken woken =>
    cases woken with
    | dressed dressing => exact .inl (dressing.phase ▸ failed)
    | requested now operationId trigger _ _ dressing =>
      have phase := (workspace.requestedFrom_frame now operationId trigger).2.2.1
      exact .inl (phase.symm.trans (dressing.phase.symm.trans failed))
  | preparesStart _ _ _ _ _ _ advances dressing =>
    obtain ⟨_, rfl⟩ := advanceRuntimeStartEpochLocked_eq_ok.mp advances
    exact .inl (dressing.phase ▸ failed)
  | preparesStop _ advanced _ _ advances written | finishesStop advanced _ advances written
  | pinsRelease _ _ _ _ advanced _ _ _ _ _ advances written =>
    obtain ⟨_, rfl⟩ := advanceRuntimeStartEpochLocked_eq_ok.mp advances
    subst written
    exact .inl failed
  | opens request _ phase opened _ _ inFlight written dressing =>
    have atPhase := (openOperation_frame request _ _ phase workspace opened written).1
    rw [dressing.phase, atPhase] at failed
    rw [failed] at inFlight
    cases inFlight
  | movesPhase phase _ inFlight _ _ written =>
    subst written
    have isFailed : phase = .failed := failed
    rw [isFailed] at inFlight
    cases inFlight
  | binds _ _ _ _ _ _ _ _ written =>
    subst written
    cases failed
  | givesUp operationId token retryable acts _ written =>
    subst written
    cases retryable with
    | true => exact .inl failed
    | false => exact .inr ⟨operationId, token, acts⟩
  | ready _ _ _ _ _ _ _ _ written =>
    subst written
    simp only [Workspace.readied] at failed
    split at failed <;> exact .inl failed
  | claimsStart _ _ _ _ written | marksAwaiting _ _ _ _ _ written
  | recoversAwaiting _ _ _ _ _ written | recoversRequested _ written
  | claimsStop _ _ _ _ _ _ _ written | reclaimsStop _ _ _ _ _ _ written | stops _ written
  | retries _ _ _ _ _ written | abandons _ written | resumesRelease _ _ _ _ _ _ _ written
  | claimsActivation _ _ _ _ written | clearsClaim _ _ _ written =>
    subst written
    exact .inl failed

theorem runFleet_notFailed [DecidableEq D] (env : Env D) (settings : PowerSettings)
    (events : List (FleetEvent D))
    (meets : Run.Meets (applyEvent env settings) (fun _ event => AvoidsTerminalFailure event)
      Fleet.empty events) (id : Uuid) (workspace : Workspace)
    (stored : (runFleet env settings Fleet.empty events).store.db.workspaces.lookup id =
      some workspace) : workspace.provisioningPhase ≠ .failed := by
  refine runFleet_invariant (fun _ event => AvoidsTerminalFailure event)
    (fun fleet => ∀ id workspace, fleet.store.db.workspaces.lookup id = some workspace →
      workspace.provisioningPhase ≠ .failed) ?_ ?_ events meets id workspace stored
  · intro id workspace stored
    rw [Fleet.empty_workspaces] at stored
    cases stored
  · intro event fleet next reply avoids _ holds _ steps id later stored failed
    cases known : fleet.store.db.workspaces.lookup id with
    | none =>
      obtain ⟨_, dressing⟩ := steps.moves.new id later stored known
      rw [dressing.phase] at failed
      cases failed
    | some workspace =>
      obtain ⟨_, found, move⟩ := steps.moves.row id workspace known
      cases stored.symm.trans found
      rcases move.failed_cases failed with before | ⟨operationId, token, acts⟩
      · exact holds id workspace known before
      · obtain ⟨call, happens, asked⟩ := FleetEvent.actor_eq_caller acts
        exact avoids call id operationId token happens asked

/-! ## Receipts -/

section Receipts

variable {store : PowerDb D} {id : Uuid} {workspace : Workspace}

section

variable (now : Instant) (context : RuntimeContext) (bootId : Uuid)

theorem settleRuntimeReadiness_accepts
    (stored : store.db.workspaces.lookup id = some workspace) (named : context.workspace = id)
    (credential : context.machineGeneration = workspace.machineGeneration)
    (positive : 0 < workspace.machineGeneration) (serving : workspace.isServing = true)
    (awaiting : workspace.runtimeOperationState = .awaitingReadiness)
    (unreported : workspace.readiness = .none) :
    ∃ next, settleRuntimeReadiness now context bootId workspace.machineGeneration
      workspace.runtimeStartEpoch store = .ok next := by
  subst named
  have noBoot : workspace.readyBootId = none := congrArg Readiness.bootId unreported
  have accepts : workspace.AcceptsReadiness context bootId workspace.machineGeneration
      workspace.runtimeStartEpoch :=
    ⟨positive, credential.symm, rfl, rfl, serving, .inl awaiting, by
      intro _ ready isReady
      rw [noBoot] at isReady
      cases isReady⟩
  have accepted := (acceptRuntimeReadiness_iff now context bootId _ _ store.db _ ()).mpr
    ⟨workspace, stored, accepts, rfl⟩
  simp only [settleRuntimeReadiness, accepted, bind, Except.bind, stored, orRaise]
  exact ⟨_, rfl⟩

theorem settleRuntimeReadiness_epoch (generation startEpoch : Nat) (next : PowerDb D)
    (success : settleRuntimeReadiness now context bootId generation startEpoch store = .ok next)
    (stored : store.db.workspaces.lookup context.workspace = some workspace) :
    startEpoch = workspace.runtimeStartEpoch := by
  simp only [settleRuntimeReadiness, bind_eq_ok] at success
  obtain ⟨⟨answer, _⟩, accepted, _⟩ := success
  obtain ⟨_, present, accepts, _⟩ :=
    (acceptRuntimeReadiness_iff now context bootId generation startEpoch _ _ answer).mp accepted
  cases stored.symm.trans present
  exact accepts.epoch

end

end Receipts

/-- In every run that recovers only prepared starts as AWAITING_READINESS, and in which no
provisioning fails for good, every awaited start can be reported. -/
theorem runFleet_awaitsReceipt [DecidableEq D] (env : Env D) (settings : PowerSettings)
    (events : List (FleetEvent D)) (meets : Run.Meets (applyEvent env settings)
      (fun fleet event => RecoversPreparedStart fleet event ∧ AvoidsTerminalFailure event)
      Fleet.empty events)
    (id : Uuid) (workspace : Workspace)
    (stored : (runFleet env settings Fleet.empty events).store.db.workspaces.lookup id =
      some workspace)
    (awaiting : workspace.runtimeOperationState = .awaitingReadiness) :
    (runFleet env settings Fleet.empty events).AwaitsReceipt id workspace := by
  have sound := (runFleet_sound env settings Fleet.empty events .empty).row id workspace stored
  have started := (runFleet_startsSound env settings events
    (meets.imp fun _ _ holds => holds.1)).row id workspace stored
  have notFailed := runFleet_notFailed env settings events (meets.imp fun _ _ holds => holds.2)
    id workspace stored
  have active : workspace.runtimeOperationState ≠ .idle := by
    rw [awaiting]
    decide
  have advanced := started.awaiting awaiting
  have unreported := started.fresh active advanced
  refine ⟨advanced, unreported, ?_, ?_⟩
  · intro notInFlight now context bootId named credential
    have positive := sound.bound active
    have idle : workspace.provisioningPhase = .idle := by
      revert notInFlight notFailed
      cases workspace.provisioningPhase <;> simp [WorkspaceProvisioningPhase.isInFlight]
    have serving : workspace.isServing = true := by
      rw [Workspace.isServing, notInFlight, sound.binding idle positive]
      rfl
    exact settleRuntimeReadiness_accepts now context bootId stored named credential positive serving
      awaiting unreported
  · rintro now context bootId generation startEpoch rfl _ next accepted
    have epoch := settleRuntimeReadiness_epoch now context bootId generation startEpoch next accepted
      stored
    omega

/-- The calls of a lifecycle worker that recover no start and report no failure. -/
def FleetEvent.isProvisioning : FleetEvent D → Bool
  | .service call =>
    match call.operation with
    | .registerWorkspace _ | .claimOrWait _ _ _ | .casPhase _ _ _ _ _ | .bindIdle _ _ _ _ _ => true
    | _ => false
  | _ => false

theorem FleetEvent.isProvisioning_admitted (event : FleetEvent D)
    (provisioning : event.isProvisioning = true) (fleet : Fleet D) :
    RecoversPreparedStart fleet event ∧ AvoidsTerminalFailure event := by
  constructor
  · rintro _ _ _ _ _ _ rfl
    cases provisioning
  · rintro ⟨_, _⟩ _ _ _ rfl asked
    simp only at asked
    subst asked
    cases provisioning

/-- The Machine that provisioning bound is awaited. -/
theorem provisionedFleet_awaitsReceipt :
    ∃ workspace,
      (runFleet Env.plain .plain Fleet.empty (provisionedFleet.take 11)).store.db.workspaces.lookup
        0 = some workspace ∧
      workspace.runtimeOperationState = .awaitingReadiness ∧
      (runFleet Env.plain .plain Fleet.empty (provisionedFleet.take 11)).AwaitsReceipt 0
        workspace := by
  have evaluated :
      ((runFleet Env.plain .plain Fleet.empty
        (provisionedFleet.take 11)).store.db.workspaces.lookup 0).any (fun workspace =>
          decide (workspace.runtimeOperationState = .awaitingReadiness)) = true := by
    decide +kernel
  obtain ⟨workspace, stored, holds⟩ := (Option.any_eq_true _ _).mp evaluated
  have awaiting := of_decide_eq_true holds
  have admitted : (provisionedFleet.take 11).all FleetEvent.isProvisioning = true := by
    decide +kernel
  refine ⟨workspace, stored, awaiting,
    runFleet_awaitsReceipt Env.plain .plain (provisionedFleet.take 11) ?_ 0 workspace stored
      awaiting⟩
  exact Run.meets_of_mem _ _ fun event member fleet =>
    event.isProvisioning_admitted (List.all_eq_true.mp admitted event member) fleet

/-! ## A start that was claimed and never prepared -/

/-- A worker claims a start and dies; another finds the Machine running and takes the start
for done. -/
def unpreparedStart : List (FleetEvent PlainDigest) :=
  provisionedFleet ++
    [.intent (seconds 400) 0 60 .composingStarted (seconds 400),
      .select (seconds 400) 1 .requestedStart 0,
      .work (seconds 400) 1 .go,
      .select (seconds 500) 2 .expiredClaim 0,
      .work (seconds 500) 2 .go,
      .work (seconds 500) 2 (.inspected (.ok (some (plainMachine .started)))),
      .work (seconds 500) 2 .go]

/-- The epoch was not advanced, boot 7 of the earlier start is still recorded, and the receipt
of another boot is refused. -/
theorem unpreparedStart_refuses :
    ∃ workspace,
      (runFleet Env.plain .plain Fleet.empty unpreparedStart).store.db.workspaces.lookup 0 =
        some workspace ∧
      workspace.runtimeOperationState = .awaitingReadiness ∧
      workspace.provisioningPhase.isInFlight = false ∧
      workspace.runtimeStartEpoch =
        ((runFleet Env.plain .plain Fleet.empty unpreparedStart).history 0).began ∧
      workspace.readyBootId = some 7 ∧
      (settleRuntimeReadiness (seconds 501) ⟨0, workspace.machineGeneration⟩ 8
        workspace.machineGeneration workspace.runtimeStartEpoch
        (runFleet Env.plain .plain Fleet.empty unpreparedStart).store).isOk = false ∧
      ¬ (runFleet Env.plain .plain Fleet.empty unpreparedStart).AwaitsReceipt 0 workspace := by
  have evaluated :
      ((runFleet Env.plain .plain Fleet.empty unpreparedStart).store.db.workspaces.lookup
        0).any (fun workspace => decide (
          workspace.runtimeOperationState = .awaitingReadiness ∧
          workspace.provisioningPhase.isInFlight = false ∧
          workspace.runtimeStartEpoch =
            ((runFleet Env.plain .plain Fleet.empty unpreparedStart).history 0).began ∧
          workspace.readyBootId = some 7 ∧
          (settleRuntimeReadiness (seconds 501) ⟨0, workspace.machineGeneration⟩ 8
            workspace.machineGeneration workspace.runtimeStartEpoch
            (runFleet Env.plain .plain Fleet.empty unpreparedStart).store).isOk = false)) = true := by
    decide +kernel
  obtain ⟨workspace, stored, holds⟩ := (Option.any_eq_true _ _).mp evaluated
  obtain ⟨awaiting, notInFlight, epoch, boot, refused⟩ := of_decide_eq_true holds
  refine ⟨workspace, stored, awaiting, notInFlight, epoch, boot, refused, ?_⟩
  intro awaits
  have advanced := awaits.advanced
  omega

end Foundry
