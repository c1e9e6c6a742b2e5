import Foundry.Fleet.Invariants

/-!
# Starts and the epochs they are issued

What the history of a Workspace says of its start epoch: an operation that is awaited
advanced the epoch after it began, and whatever a runtime reported before that is
forgotten.  The one step that can break this is the recovery of a start whose claim expired
before the start was prepared.
-/

set_option autoImplicit false

namespace Foundry

open Raise

variable {D : Type}

/-! ## Rows and their history -/

structure Workspace.Started (history : History) (workspace : Workspace) : Prop where
  began : history.began ≤ workspace.runtimeStartEpoch
  opened : history.opened ≤ workspace.runtimeStartEpoch
  inFlight : workspace.provisioningPhase.isInFlight = true →
    history.opened < workspace.runtimeStartEpoch ∧ workspace.readiness = .none
  /-- Once the epoch was advanced under an operation, no readiness is recorded until it
  ends. -/
  fresh : workspace.runtimeOperationState ≠ .idle →
    history.began < workspace.runtimeStartEpoch → workspace.readiness = .none
  awaiting : workspace.runtimeOperationState = .awaitingReadiness →
    history.began < workspace.runtimeStartEpoch

/-- The start epoch stays, or it is advanced and what was reported is forgotten. -/
def Workspace.Advances (workspace later : Workspace) : Prop :=
  (later.runtimeStartEpoch = workspace.runtimeStartEpoch ∧
    (later.readiness = workspace.readiness ∨ later.readiness = .none)) ∨
  (later.runtimeStartEpoch = workspace.runtimeStartEpoch + 1 ∧ later.readiness = .none)

section Rows

variable {history : History} {supply limit : Nat} {id : Uuid} {actor : Actor D}
variable {workspace later advanced : Workspace}

theorem Workspace.Advances.of_dresses (dressing : workspace.Dresses later) :
    workspace.Advances later :=
  .inl ⟨dressing.epoch, dressing.readiness⟩

theorem Workspace.Advances.of_advanced
    (advances : advanceRuntimeStartEpochLocked workspace = .ok advanced) :
    advanced.runtimeStartEpoch = workspace.runtimeStartEpoch + 1 ∧ advanced.readiness = .none := by
  obtain ⟨_, rfl⟩ := advanceRuntimeStartEpochLocked_eq_ok.mp advances
  exact ⟨rfl, rfl⟩

theorem History.observe_cases (history : History)
    (phase : later.provisioningPhase = workspace.provisioningPhase)
    (provisioning : later.provisioningId = workspace.provisioningId) :
    (history.observe workspace later).opened = history.opened ∧
      ((later.runtimeOperationId = workspace.runtimeOperationId ∧
          (history.observe workspace later).began = history.began) ∨
        (later.runtimeOperationId ≠ workspace.runtimeOperationId ∧
          (history.observe workspace later).began = workspace.runtimeStartEpoch)) := by
  have notBound : ¬ (workspace.provisioningPhase.isInFlight = true ∧
      later.provisioningPhase = .idle) := by
    rintro ⟨inFlight, idle⟩
    rw [phase] at idle
    rw [idle] at inFlight
    cases inFlight
  refine ⟨by simp [History.observe, provisioning], ?_⟩
  simp only [History.observe, if_neg notBound]
  split
  · next changed => exact .inr ⟨changed, rfl⟩
  · next same => exact .inl ⟨not_not.mp same, rfl⟩

theorem Workspace.Started.operated (started : workspace.Started history)
    (sound : workspace.Sound supply) (soundLater : later.Sound limit)
    (phase : later.provisioningPhase = workspace.provisioningPhase)
    (provisioning : later.provisioningId = workspace.provisioningId)
    (advances : workspace.Advances later)
    (awaiting : later.runtimeOperationState = .awaitingReadiness →
      later.runtimeOperationId = workspace.runtimeOperationId ∧
        history.began < workspace.runtimeStartEpoch) :
    later.Started (history.observe workspace later) := by
  obtain ⟨_, began⟩ := history.observe_cases phase provisioning
  have grows : workspace.runtimeStartEpoch ≤ later.runtimeStartEpoch := by
    rcases advances with ⟨same, _⟩ | ⟨next, _⟩ <;> omega
  have cleared : workspace.readiness = .none → later.readiness = .none := by
    intro none
    rcases advances with ⟨_, same | forgotten⟩ | ⟨_, forgotten⟩
    · rw [same]
      exact none
    · exact forgotten
    · exact forgotten
  refine ⟨?_, ?_, ?_, ?_, ?_⟩
  · have before := started.began
    rcases began with ⟨_, same⟩ | ⟨_, same⟩ <;> omega
  · have before := started.opened
    omega
  · intro inFlight
    rw [phase] at inFlight
    obtain ⟨_, none⟩ := started.inFlight inFlight
    exact ⟨by omega, cleared none⟩
  · intro active below
    rcases advances with ⟨_, _⟩ | ⟨_, forgotten⟩
    · rcases began with ⟨operation, _⟩ | ⟨_, _⟩
      · have named := soundLater.named.mpr active
        rw [operation] at named
        refine cleared (started.fresh (sound.named.mp named) ?_)
        omega
      · omega
    · exact forgotten
  · intro isAwaiting
    obtain ⟨operation, _⟩ := awaiting isAwaiting
    rcases began with ⟨_, _⟩ | ⟨changed, _⟩
    · omega
    · exact absurd operation changed

def Actor.PreparedStart (history : History) (id : Uuid) (workspace : Workspace)
    (actor : Actor D) : Prop :=
  ∀ claim : OperationClaim, claim.workspace = id → claim.isCurrent workspace = true →
    workspace.runtimeOperationState = .starting →
    (actor = .worker (.markAwaiting claim) ∨ actor = .worker (.recoverStartAsAwaiting claim)) →
    history.began < workspace.runtimeStartEpoch

variable {operationId : Uuid} {phase : WorkspaceProvisioningPhase} {request : LifecycleRequest}
  {opened : Workspace}

theorem openOperation_epoch {target : Nat}
    (written : openOperation request operationId target phase workspace = .ok opened) :
    opened.runtimeStartEpoch = workspace.runtimeStartEpoch + 1 ∧ opened.readiness = .none ∧
      opened.provisioningId = some operationId := by
  simp only [openOperation, bind_eq_ok] at written
  obtain ⟨_, advances, written⟩ := written
  obtain ⟨_, rfl⟩ := advanceRuntimeStartEpochLocked_eq_ok.mp advances
  split at written <;> simp only [pure_eq_ok] at written <;> subst written <;>
    exact ⟨rfl, rfl, rfl⟩

theorem Workspace.requestedFrom_frame (workspace : Workspace) (now : Instant) (operationId : Uuid)
    (trigger : RuntimeOperationTrigger) :
    (workspace.requestedFrom now operationId trigger).runtimeStartEpoch =
        workspace.runtimeStartEpoch ∧
      (workspace.requestedFrom now operationId trigger).readiness = workspace.readiness ∧
      (workspace.requestedFrom now operationId trigger).provisioningPhase =
        workspace.provisioningPhase ∧
      (workspace.requestedFrom now operationId trigger).provisioningId =
        workspace.provisioningId := by
  unfold Workspace.requestedFrom
  split <;> exact ⟨rfl, rfl, rfl, rfl⟩

namespace Workspace.Started

section

variable (started : workspace.Started history) (sound : workspace.Sound supply)

include started sound

theorem woken
    (soundLater : later.Sound limit) (woken : workspace.Woken supply limit later) :
    later.Started (history.observe workspace later) := by
  cases woken with
  | dressed dressing =>
    refine started.operated sound soundLater dressing.phase dressing.provisioning
      (.of_dresses dressing) ?_
    intro isAwaiting
    rw [dressing.state] at isAwaiting
    exact ⟨dressing.operation, started.awaiting isAwaiting⟩
  | requested now operationId trigger _ _ dressing =>
    obtain ⟨epoch, readiness, phase, provisioning⟩ :=
      workspace.requestedFrom_frame now operationId trigger
    refine started.operated sound soundLater (dressing.phase.trans phase)
      (dressing.provisioning.trans provisioning)
      (.inl ⟨dressing.epoch.trans epoch, ?_⟩) ?_
    · rw [← readiness]
      exact dressing.readiness
    · intro isAwaiting
      rw [dressing.state, Workspace.Woken.requestedFrom_state] at isAwaiting
      cases isAwaiting

theorem takenUp
    (fresh : supply ≤ operationId) (inFlight : phase.isInFlight = true)
    (written : openOperation request operationId (workspace.machineGeneration + 1) phase
      workspace = .ok opened) (dressing : opened.Dresses later) :
    later.Started (history.observe workspace later) := by
  obtain ⟨epoch, readiness, provisioning⟩ := openOperation_epoch written
  obtain ⟨atPhase, operation, _⟩ := openOperation_frame request operationId _ phase workspace
    opened written
  have laterEpoch : later.runtimeStartEpoch = workspace.runtimeStartEpoch + 1 :=
    dressing.epoch.trans epoch
  have forgotten := dressing.unreported readiness
  have notIdle : later.provisioningPhase ≠ .idle := by
    rw [dressing.phase, atPhase]
    rintro rfl
    cases inFlight
  have changed : later.provisioningId ≠ workspace.provisioningId := by
    intro same
    rw [dressing.provisioning, provisioning] at same
    exact absurd (sound.provisioningDrawn operationId same.symm) (Nat.not_lt.mpr fresh)
  have sameOperation : later.runtimeOperationId = workspace.runtimeOperationId :=
    dressing.operation.trans operation
  have observed : history.observe workspace later =
      ⟨history.began, workspace.runtimeStartEpoch⟩ := by
    simp [History.observe, notIdle, changed, sameOperation]
  have began := started.began
  rw [observed]
  refine ⟨?_, ?_, fun _ => ⟨?_, forgotten⟩, fun _ _ => forgotten, fun _ => ?_⟩ <;>
    simp only [laterEpoch] <;> omega

end

section

variable (started : workspace.Started history)

include started

theorem bound (now : Instant) (drawn : Uuid) (machineRef : String) (images : Images)
    (inFlight : workspace.provisioningPhase.isInFlight = true) :
    (workspace.boundIdle now drawn machineRef images).Started
      (history.observe workspace (workspace.boundIdle now drawn machineRef images)) := by
  have observed : history.observe workspace (workspace.boundIdle now drawn machineRef images) =
      ⟨history.opened, history.opened⟩ := by
    simp [History.observe, Workspace.boundIdle, inFlight]
  obtain ⟨before, none⟩ := started.inFlight inFlight
  rw [observed]
  exact ⟨Nat.le_of_lt before, Nat.le_of_lt before, (by rintro ⟨⟩), fun _ _ => none,
    fun _ => before⟩

theorem phased (inFlight : workspace.provisioningPhase.isInFlight = true)
    (notIdle : later.provisioningPhase ≠ .idle)
    (same : later.runtimeOperationId = workspace.runtimeOperationId ∧
      later.runtimeOperationState = workspace.runtimeOperationState ∧
      later.runtimeStartEpoch = workspace.runtimeStartEpoch ∧
      later.readiness = workspace.readiness ∧
      later.provisioningId = workspace.provisioningId) :
    later.Started (history.observe workspace later) := by
  obtain ⟨operation, state, epoch, readiness, provisioning⟩ := same
  have observed : history.observe workspace later = history := by
    simp [History.observe, notIdle, operation, provisioning]
  rw [observed]
  refine ⟨?_, ?_, ?_, ?_, ?_⟩
  · rw [epoch]
    exact started.began
  · rw [epoch]
    exact started.opened
  · rw [epoch, readiness]
    exact fun _ => started.inFlight inFlight
  · rw [state, epoch, readiness]
    exact started.fresh
  · rw [state, epoch]
    exact started.awaiting

theorem readied (now : Instant) (bootId : Uuid) (serving : workspace.isServing = true)
    (awaited : workspace.runtimeOperationState = .awaitingReadiness ∨
      workspace.runtimeOperationState = .idle) :
    (workspace.readied now bootId).Started
      (history.observe workspace (workspace.readied now bootId)) := by
  have notInFlight : workspace.provisioningPhase.isInFlight = false := by
    have holds := ((Bool.and_eq_true _ _).mp serving).1
    simpa using holds
  have frame : (workspace.readied now bootId).runtimeStartEpoch = workspace.runtimeStartEpoch ∧
      (workspace.readied now bootId).provisioningPhase = workspace.provisioningPhase ∧
      (workspace.readied now bootId).provisioningId = workspace.provisioningId ∧
      (workspace.readied now bootId).runtimeOperationState = .idle := by
    simp only [Workspace.readied]
    split
    · exact ⟨rfl, rfl, rfl, rfl⟩
    · next notAwaiting =>
      refine ⟨rfl, rfl, rfl, awaited.resolve_left ?_⟩
      simpa using notAwaiting
  obtain ⟨_, phase, provisioning, state⟩ := frame
  obtain ⟨_, began⟩ := history.observe_cases phase provisioning
  have before := started.began
  have beforeOpened := started.opened
  refine ⟨?_, ?_, ?_, fun active => absurd state active, ?_⟩
  · rcases began with ⟨_, same⟩ | ⟨_, same⟩ <;> omega
  · omega
  · intro inFlight
    rw [phase, notInFlight] at inFlight
    cases inFlight
  · intro awaiting
    rw [state] at awaiting
    cases awaiting

theorem move (sound : workspace.Sound supply)
    (grows : supply ≤ limit) (prepared : actor.PreparedStart history id workspace)
    (move : RowMove supply limit id actor workspace later) :
    later.Started (history.observe workspace later) := by
  have soundLater := sound.move grows move
  cases move with
  | woken woken => exact started.woken sound soundLater woken
  | preparesStart _ _ _ _ _ state advances dressing =>
    obtain ⟨epoch, none⟩ := Workspace.Advances.of_advanced advances
    obtain ⟨_, rfl⟩ := advanceRuntimeStartEpochLocked_eq_ok.mp advances
    refine started.operated sound soundLater dressing.phase dressing.provisioning
      (.inr ⟨dressing.epoch.trans epoch, ?_⟩) ?_
    · exact dressing.unreported none
    · intro isAwaiting
      rw [dressing.state] at isAwaiting
      have contradiction : workspace.runtimeOperationState = .awaitingReadiness := isAwaiting
      rw [state] at contradiction
      cases contradiction
  | marksAwaiting claim acts named current state written =>
    subst written
    exact started.operated sound soundLater rfl rfl (.inl ⟨rfl, .inl rfl⟩)
      fun _ => ⟨rfl, prepared claim named current state (.inl acts)⟩
  | recoversAwaiting claim acts named current state written =>
    subst written
    exact started.operated sound soundLater rfl rfl (.inl ⟨rfl, .inl rfl⟩)
      fun _ => ⟨rfl, prepared claim named current state (.inr acts)⟩
  | preparesStop _ _ _ _ advances written =>
    obtain ⟨_, rfl⟩ := advanceRuntimeStartEpochLocked_eq_ok.mp advances
    subst written
    refine started.operated sound soundLater rfl rfl (.inr ⟨rfl, rfl⟩) ?_
    intro isAwaiting
    exact ⟨rfl, started.awaiting isAwaiting⟩
  | finishesStop _ _ advances written | pinsRelease _ _ _ _ _ _ _ _ _ _ advances written =>
    obtain ⟨_, rfl⟩ := advanceRuntimeStartEpochLocked_eq_ok.mp advances
    subst written
    exact started.operated sound soundLater rfl rfl (.inr ⟨rfl, rfl⟩) nofun
  | claimsStart _ _ _ _ written | recoversRequested _ written | claimsStop _ _ _ _ _ _ _ written
  | reclaimsStop _ _ _ _ _ _ written | stops _ written | retries _ _ _ _ _ written
  | abandons _ written | resumesRelease _ _ _ _ _ _ _ written =>
    subst written
    exact started.operated sound soundLater rfl rfl (.inl ⟨rfl, .inl rfl⟩) nofun
  | claimsActivation _ _ _ _ written | clearsClaim _ _ _ written =>
    subst written
    exact started.operated sound soundLater rfl rfl (.inl ⟨rfl, .inl rfl⟩)
      fun isAwaiting => ⟨rfl, started.awaiting isAwaiting⟩
  | opens _ _ _ _ fresh _ inFlight written dressing =>
    exact started.takenUp sound fresh.1 inFlight written dressing
  | movesPhase _ _ inFlight _ claimed written =>
    subst written
    refine started.phased (sound.provisioning claimed) ?_ ⟨rfl, rfl, rfl, rfl, rfl⟩
    rintro rfl
    cases inFlight
  | binds now drawn machineRef images _ _ claimed _ written =>
    subst written
    exact started.bound now drawn machineRef images (sound.provisioning claimed)
  | givesUp _ _ retryable _ claimed written =>
    subst written
    have inFlight := sound.provisioning claimed
    refine started.phased inFlight ?_ ⟨rfl, rfl, rfl, rfl, rfl⟩
    cases retryable with
    | true =>
      intro idle
      have same : workspace.provisioningPhase = .idle := idle
      rw [same] at inFlight
      cases inFlight
    | false => nofun
  | ready now _ bootId _ _ _ _ accepts written =>
    subst written
    exact started.readied now bootId accepts.serving accepts.awaited

end

end Workspace.Started

section

variable (move : RowMove supply limit id actor workspace later)

include move

theorem RowMove.epoch_le :
    workspace.runtimeStartEpoch ≤ later.runtimeStartEpoch := by
  cases move with
  | woken woken =>
    cases woken with
    | dressed dressing => exact Nat.le_of_eq dressing.epoch.symm
    | requested now operationId trigger _ _ dressing =>
      have frame := (workspace.requestedFrom_frame now operationId trigger).1
      exact Nat.le_of_eq (dressing.epoch.trans frame).symm
  | preparesStart _ _ _ _ _ _ advances dressing =>
    have epoch := (Workspace.Advances.of_advanced advances).1
    have same := dressing.epoch
    omega
  | preparesStop _ _ _ _ advances written =>
    have epoch := (Workspace.Advances.of_advanced advances).1
    subst written
    omega
  | finishesStop _ _ advances written | pinsRelease _ _ _ _ _ _ _ _ _ _ advances written =>
    obtain ⟨_, rfl⟩ := advanceRuntimeStartEpochLocked_eq_ok.mp advances
    subst written
    exact Nat.le_succ _
  | opens _ _ _ _ _ _ _ written dressing =>
    have epoch := (openOperation_epoch written).1
    have same := dressing.epoch
    omega
  | ready _ _ _ _ _ _ _ _ written =>
    subst written
    simp only [Workspace.readied]
    split <;> exact Nat.le_refl _
  | claimsStart _ _ _ _ written | marksAwaiting _ _ _ _ _ written
  | recoversAwaiting _ _ _ _ _ written | recoversRequested _ written
  | claimsStop _ _ _ _ _ _ _ written | reclaimsStop _ _ _ _ _ _ written | stops _ written
  | retries _ _ _ _ _ written | abandons _ written | resumesRelease _ _ _ _ _ _ _ written
  | claimsActivation _ _ _ _ written | clearsClaim _ _ _ written
  | movesPhase _ _ _ _ _ written | binds _ _ _ _ _ _ _ _ written
  | givesUp _ _ _ _ _ written =>
    subst written
    exact Nat.le_refl _

theorem RowMove.operation_cases
    (named : later.runtimeOperationId = some operationId) :
    supply ≤ operationId ∨ workspace.runtimeOperationId = some operationId := by
  have fresh : ∀ {drawn : Uuid}, Drawn supply limit drawn → some drawn = some operationId →
      supply ≤ operationId := by
    rintro _ isDrawn ⟨rfl⟩
    exact isDrawn.1
  have kept : ∀ {drawn : Uuid}, Drawn supply limit drawn →
      some (workspace.runtimeOperationId.getD drawn) = some operationId →
      supply ≤ operationId ∨ workspace.runtimeOperationId = some operationId := by
    intro drawn isDrawn same
    cases known : workspace.runtimeOperationId with
    | none =>
      rw [known] at same
      exact .inl (fresh isDrawn same)
    | some =>
      rw [known] at same
      exact .inr same
  cases move with
  | woken woken =>
    cases woken with
    | dressed dressing => exact .inr (dressing.operation ▸ named)
    | requested _ _ _ isDrawn _ dressing =>
      rw [dressing.operation] at named
      refine .inl (fresh isDrawn ?_)
      rw [← named]
      unfold Workspace.requestedFrom
      split <;> rfl
  | preparesStart _ _ _ _ _ _ advances dressing =>
    obtain ⟨_, rfl⟩ := advanceRuntimeStartEpochLocked_eq_ok.mp advances
    exact .inr (dressing.operation ▸ named)
  | preparesStop _ _ _ _ advances written =>
    obtain ⟨_, rfl⟩ := advanceRuntimeStartEpochLocked_eq_ok.mp advances
    subst written
    exact .inr named
  | pinsRelease _ _ _ _ _ drawn _ _ _ _ advances written =>
    obtain ⟨_, rfl⟩ := advanceRuntimeStartEpochLocked_eq_ok.mp advances
    subst written
    exact kept drawn named
  | opens request _ phase opened _ _ _ written dressing =>
    have same := (openOperation_frame request _ _ phase workspace opened written).2.1
    rw [dressing.operation, same] at named
    exact .inr named
  | ready _ _ _ _ _ _ _ _ written =>
    subst written
    simp only [Workspace.readied] at named
    split at named
    · cases named
    · exact .inr named
  | claimsStop _ _ _ drawn _ _ _ written | reclaimsStop _ _ _ drawn _ _ written
  | retries _ _ drawn _ _ written =>
    subst written
    exact .inl (fresh drawn named)
  | resumesRelease _ _ _ _ drawn _ _ written | binds _ _ _ _ drawn _ _ _ written =>
    subst written
    exact kept drawn named
  | stops _ written | finishesStop _ _ _ written | abandons _ written =>
    subst written
    cases named
  | claimsStart _ _ _ _ written | marksAwaiting _ _ _ _ _ written
  | recoversAwaiting _ _ _ _ _ written | recoversRequested _ written
  | claimsActivation _ _ _ _ written | clearsClaim _ _ _ written
  | movesPhase _ _ _ _ _ written | givesUp _ _ _ _ _ written =>
    subst written
    exact .inr named

end

theorem Workspace.Started.prepared_of_same (started : workspace.Started history)
    (same : later.runtimeOperationId = workspace.runtimeOperationId)
    (grows : workspace.runtimeStartEpoch ≤ later.runtimeStartEpoch)
    (before : history.began < workspace.runtimeStartEpoch) :
    (history.observe workspace later).began < later.runtimeStartEpoch := by
  simp only [History.observe]
  split
  · next bound =>
    have opened := (started.inFlight bound.1).1
    omega
  · rw [if_neg (not_not.mpr same)]
    omega

end Rows

/-! ## Workers past the preparation of a start -/

def Point.preparedClaim : Point → Option OperationClaim
  | .startMachine claim _ | .inspectStarted claim _ | .markAwaiting claim => some claim
  | _ => none

section Points

theorem Point.preparedClaim_afterPreparedStart (frame : WakeFrame) (claim : OperationClaim)
    (prepared : (Point.afterPreparedStart frame).preparedClaim = some claim) :
    frame.claim = claim := by
  unfold afterPreparedStart at prepared
  split at prepared <;> first | exact Option.some.inj prepared | cases prepared

@[simp] theorem Point.preparedClaim_afterInspectedStop (claim : OperationClaim)
    (workspace : Workspace) (machine : MachineRecord) :
    (Point.afterInspectedStop claim workspace machine).preparedClaim = none := by
  unfold afterInspectedStop
  split <;> rfl

@[simp] theorem Point.preparedClaim_afterInspectedExpired (claim : OperationClaim)
    (workspace : Workspace) (machine : MachineRecord) :
    (Point.afterInspectedExpired claim workspace machine).preparedClaim = none := by
  unfold afterInspectedExpired
  split <;> rfl

@[simp] theorem Point.preparedClaim_afterRelease (wake : Option WakeFrame) (isCurrent : Bool) :
    (Point.afterRelease wake isCurrent).bind Point.preparedClaim = none := by
  cases wake <;> cases isCurrent <;> rfl

@[simp] theorem Point.preparedClaim_afterReleaseRaised (wake : Option WakeFrame)
    (raised : Raised) : (Point.afterReleaseRaised wake raised).bind Point.preparedClaim = none := by
  cases wake <;> rfl

@[simp] theorem Point.preparedClaim_afterReleaseRead (env : Env D) (id : Uuid)
    (wake : Option WakeFrame) (workspace : Workspace) :
    (Point.afterReleaseRead env id wake workspace).bind Point.preparedClaim = none := by
  unfold afterReleaseRead
  repeat' split
  all_goals first | exact preparedClaim_afterReleaseRaised _ _ | rfl

theorem Point.preparedClaim_afterWakeObserved (env : Env D) (settings : PowerSettings)
    (frame : WakeFrame) :
    (Point.afterWakeObserved env settings frame).1.preparedClaim = none := by
  unfold afterWakeObserved
  repeat' split
  all_goals rfl

end Points

section Work

variable {store next : PowerDb D}

theorem advance_preparedClaim (env : Env D) (settings : PowerSettings) (clock : Instant)
    (input : PowerInput) (worker : PowerWorker) (point : Option Point) (claim : OperationClaim)
    (success : worker.advance env settings clock input store = some (point, next))
    (prepared : point.bind Point.preparedClaim = some claim) :
    (worker.point.preparedClaim = some claim ∧ next = store) ∨
      ∃ now, prepareStart now claim store = .ok next := by
  obtain ⟨now, at_⟩ := worker
  cases at_ <;> cases input <;> simp only [PowerWorker.advance] at success
  all_goals first | cases success; done | skip
  case prepareStart.go frame =>
    split at success
    · obtain ⟨rfl, rfl⟩ := Prod.mk.inj (Option.some.inj success)
      cases prepared
    · next prepares =>
      obtain ⟨rfl, rfl⟩ := Prod.mk.inj (Option.some.inj success)
      obtain rfl := Point.preparedClaim_afterPreparedStart frame claim prepared
      exact .inr ⟨now, prepares⟩
  case releaseOnWake.go frame =>
    have none := Point.preparedClaim_afterWakeObserved env settings frame
    split at success
    all_goals
      next observed =>
        obtain ⟨rfl, rfl⟩ := Prod.mk.inj (Option.some.inj success)
        rw [observed] at none
        simp [none] at prepared
  -- The other points stay where they are, or lead elsewhere.
  all_goals
    repeat' split at success
    all_goals
      obtain ⟨rfl, rfl⟩ := Prod.mk.inj (Option.some.inj success)
      first
        | exact .inl ⟨prepared, rfl⟩
        | cases prepared
        | simp at prepared
        | simp [Option.bind_map, Function.comp_def, Point.preparedClaim] at prepared

end Work

/-! ## Runs -/

/-- A start whose claim expired is taken for started only if it was prepared: the epoch was
advanced after its operation began. -/
def RecoversPreparedStart (fleet : Fleet D) (event : FleetEvent D) : Prop :=
  ∀ clock number input worker claim workspace, event = .work clock number input →
    fleet.workers.lookup number = some worker → worker.point = .recoverStartAsAwaiting claim →
    fleet.store.db.workspaces.lookup claim.workspace = some workspace →
    claim.isCurrent workspace = true → workspace.runtimeOperationState = .starting →
    (fleet.history claim.workspace).began < workspace.runtimeStartEpoch

structure Fleet.StartsSound (fleet : Fleet D) : Prop where
  row : ∀ id workspace, fleet.store.db.workspaces.lookup id = some workspace →
    workspace.Started (fleet.history id)
  new : ∀ id, fleet.store.db.workspaces.lookup id = none → fleet.history id = ⟨0, 0⟩
  worker : ∀ number worker claim, fleet.workers.lookup number = some worker →
    worker.point.preparedClaim = some claim →
    claim.operationId < fleet.store.db.supply ∧
      ∀ workspace, fleet.store.db.workspaces.lookup claim.workspace = some workspace →
        workspace.runtimeOperationId = some claim.operationId →
        (fleet.history claim.workspace).began < workspace.runtimeStartEpoch

namespace Fleet.StartsSound

variable {env : Env D} {settings : PowerSettings} {event : FleetEvent D} {fleet next : Fleet D}

theorem empty : (Fleet.empty : Fleet D).StartsSound := by
  refine ⟨?_, fun _ _ => rfl, ?_⟩
  · intro id workspace stored
    rw [Fleet.empty_workspaces] at stored
    cases stored
  · intro number worker claim known
    have none : (Fleet.empty : Fleet D).workers.lookup number = none := AList.lookup_empty number
    rw [none] at known
    cases known

section

variable (steps : fleet.Steps env settings event next) (id : Uuid)

include steps

theorem history_observe
    (workspace later : Workspace) (known : fleet.store.db.workspaces.lookup id = some workspace)
    (stored : next.store.db.workspaces.lookup id = some later) :
    next.history id = (fleet.history id).observe workspace later := by
  rw [steps.commits]
  simp only [Fleet.commit, known, stored]

theorem history_new
    (unknown : fleet.store.db.workspaces.lookup id = none) :
    next.history id = fleet.history id := by
  rw [steps.commits]
  simp only [Fleet.commit, unknown]

end

section

variable (sound : fleet.StartsSound)

include sound

theorem preparedStart (admitted : RecoversPreparedStart fleet event)
    (id : Uuid) (workspace : Workspace)
    (known : fleet.store.db.workspaces.lookup id = some workspace) :
    (event.actor fleet).PreparedStart (fleet.history id) id workspace := by
  rintro claim rfl current starting (acts | acts)
  · obtain ⟨_, number, _, worker, _, working, point⟩ := FleetEvent.actor_eq_worker acts
    have operation := (of_decide_eq_true current).1
    exact (sound.worker number worker claim working (by rw [point]; rfl)).2 workspace known operation
  · obtain ⟨clock, number, input, worker, happens, working, point⟩ :=
      FleetEvent.actor_eq_worker acts
    exact admitted clock number input worker claim workspace happens working point known current
      starting

theorem rowStep (fleetSound : fleet.Sound) (admitted : RecoversPreparedStart fleet event)
    (steps : fleet.Steps env settings event next) (id : Uuid) (later : Workspace)
    (stored : next.store.db.workspaces.lookup id = some later) :
    later.Started (next.history id) := by
  cases known : fleet.store.db.workspaces.lookup id with
  | none =>
    obtain ⟨_, dressing⟩ := steps.moves.new id later stored known
    rw [history_new steps id known, sound.new id known]
    refine ⟨Nat.zero_le _, Nat.zero_le _, ?_, ?_, ?_⟩
    · rw [dressing.phase]
      nofun
    · rw [dressing.state]
      exact fun active => absurd rfl active
    · rw [dressing.state]
      nofun
  | some workspace =>
    obtain ⟨_, found, move⟩ := steps.moves.row id workspace known
    cases stored.symm.trans found
    rw [history_observe steps id workspace later known stored]
    exact (sound.row id workspace known).move (fleetSound.row id workspace known)
      steps.moves.supply (sound.preparedStart admitted id workspace known) move

theorem held (steps : fleet.Steps env settings event next)
    (number : Nat) (worker : PowerWorker) (claim : OperationClaim)
    (known : fleet.workers.lookup number = some worker)
    (prepared : worker.point.preparedClaim = some claim) :
    claim.operationId < next.store.db.supply ∧
      ∀ later, next.store.db.workspaces.lookup claim.workspace = some later →
        later.runtimeOperationId = some claim.operationId →
        (next.history claim.workspace).began < later.runtimeStartEpoch := by
  obtain ⟨drawn, before⟩ := sound.worker number worker claim known prepared
  refine ⟨Nat.lt_of_lt_of_le drawn steps.moves.supply, ?_⟩
  intro later stored named
  cases known : fleet.store.db.workspaces.lookup claim.workspace with
  | none =>
    obtain ⟨_, dressing⟩ := steps.moves.new claim.workspace later stored known
    rw [dressing.operation] at named
    cases named
  | some workspace =>
    obtain ⟨_, found, move⟩ := steps.moves.row claim.workspace workspace known
    cases stored.symm.trans found
    rcases move.operation_cases named with new | same
    · exact absurd drawn (Nat.not_lt.mpr new)
    · rw [history_observe steps claim.workspace workspace later known stored]
      exact (sound.row claim.workspace workspace known).prepared_of_same (named.trans same.symm)
        move.epoch_le (before workspace known same)

theorem prepared (fleetSound : fleet.Sound)
    (steps : fleet.Steps env settings event next) (now : Instant) (claim : OperationClaim)
    (prepares : prepareStart now claim fleet.store = .ok next.store) :
    claim.operationId < next.store.db.supply ∧
      ∀ later, next.store.db.workspaces.lookup claim.workspace = some later →
        later.runtimeOperationId = some claim.operationId →
        (next.history claim.workspace).began < later.runtimeStartEpoch := by
  simp only [prepareStart, bind_eq_ok, ownedOperation_eq_ok, pure_eq_ok] at prepares
  obtain ⟨workspace, ⟨known, current, _⟩, _, advances, written⟩ := prepares
  have operation := (of_decide_eq_true current).1
  have row := fleetSound.row claim.workspace workspace known
  refine ⟨Nat.lt_of_lt_of_le (row.operationDrawn _ operation) steps.moves.supply, ?_⟩
  intro later stored named
  rw [history_observe steps claim.workspace workspace later known stored]
  have epoch : later.runtimeStartEpoch = workspace.runtimeStartEpoch + 1 := by
    rw [← written] at stored
    obtain ⟨_, rfl⟩ := advanceRuntimeStartEpochLocked_eq_ok.mp advances
    cases Option.some.inj ((AList.lookup_insert _).symm.trans stored)
    rfl
  have started := sound.row claim.workspace workspace known
  have began := started.began
  have opened := started.opened
  simp only [History.observe]
  repeat' split
  all_goals omega

theorem steps (fleetSound : fleet.Sound) (admitted : RecoversPreparedStart fleet event)
    (steps : fleet.Steps env settings event next) : next.StartsSound := by
  refine ⟨sound.rowStep fleetSound admitted steps, ?_, ?_⟩
  · intro id unknown
    cases known : fleet.store.db.workspaces.lookup id with
    | none =>
      rw [history_new steps id known]
      exact sound.new id known
    | some workspace =>
      obtain ⟨_, found, _⟩ := steps.moves.row id workspace known
      rw [unknown] at found
      cases found
  · intro number worker claim known prepared
    cases steps.worker number worker known with
    | kept before => exact sound.held steps number worker claim before prepared
    | selected _ task _ _ _ _ _ _ _ started =>
      subst started
      cases task <;> cases prepared
    | advanced clock input current _ before advances =>
      rcases advance_preparedClaim env settings clock input current (some worker.point) claim
          advances prepared with ⟨former, _⟩ | ⟨now, prepares⟩
      · exact sound.held steps number current claim before former
      · exact sound.prepared fleetSound steps now claim prepares

end

end Fleet.StartsSound

theorem runFleet_startsSound [DecidableEq D] (env : Env D) (settings : PowerSettings)
    (events : List (FleetEvent D))
    (meets : Run.Meets (applyEvent env settings) RecoversPreparedStart Fleet.empty events) :
    (runFleet env settings Fleet.empty events).StartsSound :=
  runFleet_invariant RecoversPreparedStart Fleet.StartsSound .empty
    (fun _ _ _ _ admitted fleetSound sound _ steps => sound.steps fleetSound admitted steps)
    events meets

end Foundry
