import Foundry.Fleet.Events

/-!
# Invariants of the fleet

`runFleet_invariant` is the rule for runs of the fleet: an invariant is proved for one
event from what `Fleet.Steps` says of it.  `Workspace.Sound` collects what holds of every
Workspace row, whatever the events.
-/

set_option autoImplicit false

namespace Foundry

open Raise

variable {D : Type}

/-! ## Sound rows -/

structure Workspace.Sound (supply : Nat) (workspace : Workspace) : Prop where
  /-- The row names an operation exactly while there is one. -/
  named : workspace.runtimeOperationId.isSome = true ↔ workspace.runtimeOperationState ≠ .idle
  requested : workspace.runtimeOperationState ≠ .idle →
    workspace.runtimeOperationRequestedAt.isSome = true
  retries : workspace.runtimeOperationRetryCount ≤ executionWakeMaxRetries
  /-- Only a Workspace that has a Machine, or had one, has operations. -/
  bound : workspace.runtimeOperationState ≠ .idle → 0 < workspace.machineGeneration
  /-- `runtime_workspace_idle_binding_contract`. -/
  binding : workspace.provisioningPhase = .idle → 0 < workspace.machineGeneration →
    workspace.hasExistingBinding = true
  unbound : workspace.machineGeneration = 0 →
    workspace.volumeRef = none ∧ workspace.machineRef = none ∧
      workspace.releaseTarget.pin = none
  generated : workspace.provisioningPhase ≠ .idle → 0 < workspace.machineGeneration
  references : workspace.flyAppRef ≠ some "" ∧ workspace.volumeRef ≠ some "" ∧
    workspace.machineRef ≠ some ""
  /-- A lifecycle worker has claims only on an operation in flight. -/
  provisioning : workspace.provisioningClaimToken.isSome = true →
    workspace.provisioningPhase.isInFlight = true
  operationDrawn : ∀ operationId, workspace.runtimeOperationId = some operationId →
    operationId < supply
  tokenDrawn : ∀ token, workspace.activationClaimToken = some token → token < supply
  provisioningDrawn : ∀ operationId, workspace.provisioningId = some operationId →
    operationId < supply

namespace Workspace.Sound

variable {supply limit : Nat} {workspace later : Workspace}

theorem registered (supply : Nat) (tenantRef : String) :
    (Workspace.registered tenantRef).Sound supply where
  named := by simp [Workspace.registered]
  requested := fun active => absurd rfl active
  retries := Nat.zero_le _
  bound := fun active => absurd rfl active
  binding := fun _ positive => absurd positive (Nat.lt_irrefl 0)
  unbound := fun _ => ⟨rfl, rfl, rfl⟩
  generated := fun active => absurd rfl active
  references := ⟨nofun, nofun, nofun⟩
  provisioning := nofun
  operationDrawn := nofun
  tokenDrawn := nofun
  provisioningDrawn := nofun

theorem mono (grows : supply ≤ limit) (sound : workspace.Sound supply) : workspace.Sound limit :=
  { sound with
    operationDrawn := fun id named => Nat.lt_of_lt_of_le (sound.operationDrawn id named) grows
    tokenDrawn := fun id named => Nat.lt_of_lt_of_le (sound.tokenDrawn id named) grows
    provisioningDrawn := fun id named =>
      Nat.lt_of_lt_of_le (sound.provisioningDrawn id named) grows }

theorem dressed (sound : workspace.Sound supply) (dressing : workspace.Dresses later) :
    later.Sound supply where
  named := by
    rw [dressing.operation, dressing.state]
    exact sound.named
  requested := by
    rw [dressing.state]
    exact fun active => dressing.requested (sound.requested active)
  retries := Nat.le_trans dressing.retries sound.retries
  bound := by
    rw [dressing.state, dressing.generation]
    exact sound.bound
  binding := by
    rw [Workspace.hasExistingBinding, dressing.phase, dressing.generation, dressing.app,
      dressing.volume, dressing.machine]
    exact sound.binding
  unbound := by
    rw [dressing.generation, dressing.volume, dressing.machine, dressing.pin]
    exact sound.unbound
  generated := by
    rw [dressing.phase, dressing.generation]
    exact sound.generated
  references := by
    rw [dressing.app, dressing.volume, dressing.machine]
    exact sound.references
  provisioning := by
    rw [dressing.phase]
    intro claimed
    exact (dressing.provisioningClaim claimed).elim sound.provisioning id
  operationDrawn := by
    rw [dressing.operation]
    exact sound.operationDrawn
  tokenDrawn := by
    rw [dressing.token]
    exact sound.tokenDrawn
  provisioningDrawn := by
    rw [dressing.provisioning]
    exact sound.provisioningDrawn

theorem requestable_bound (sound : workspace.Sound supply) (requestable : workspace.Requestable) :
    0 < workspace.machineGeneration := by
  rcases requestable.bound with positive | stopping | ⟨_, volume⟩
  · exact positive
  · exact sound.bound (by rw [stopping]; decide)
  · refine Nat.pos_of_ne_zero fun zero => ?_
    rw [(sound.unbound zero).1] at volume
    cases volume

theorem requestedFrom (sound : workspace.Sound limit) (now : Instant) (operationId : Uuid)
    (trigger : RuntimeOperationTrigger) (below : operationId < limit)
    (bound : 0 < workspace.machineGeneration) :
    (workspace.requestedFrom now operationId trigger).Sound limit := by
  have drawn : ∀ id, some operationId = some id → id < limit := by
    rintro _ ⟨rfl⟩
    exact below
  unfold Workspace.requestedFrom
  split
  · exact ⟨⟨fun _ => nofun, fun _ => rfl⟩, fun _ => rfl, Nat.zero_le _, fun _ => bound,
      sound.binding, sound.unbound, sound.generated, sound.references, sound.provisioning, drawn, nofun,
      sound.provisioningDrawn⟩
  · exact ⟨⟨fun _ => nofun, fun _ => rfl⟩, fun _ => rfl, Nat.zero_le _, fun _ => bound,
      sound.binding, sound.unbound, sound.generated, sound.references, sound.provisioning, drawn, sound.tokenDrawn,
      sound.provisioningDrawn⟩

theorem woken (sound : workspace.Sound supply) (grows : supply ≤ limit)
    (woken : workspace.Woken supply limit later) : later.Sound limit := by
  cases woken with
  | dressed dressing => exact (sound.mono grows).dressed dressing
  | requested now operationId trigger fresh requestable dressing =>
    exact ((sound.mono grows).requestedFrom now operationId trigger fresh.2
      (sound.requestable_bound requestable)).dressed dressing

theorem operated (sound : workspace.Sound limit)
    (named : later.runtimeOperationId.isSome = true ↔ later.runtimeOperationState ≠ .idle)
    (requested : later.runtimeOperationState ≠ .idle →
      later.runtimeOperationRequestedAt.isSome = true)
    (retries : later.runtimeOperationRetryCount ≤ executionWakeMaxRetries)
    (bound : later.runtimeOperationState ≠ .idle → 0 < workspace.machineGeneration)
    (operation : ∀ id, later.runtimeOperationId = some id → id < limit)
    (token : ∀ id, later.activationClaimToken = some id → id < limit)
    (rest : later.machineGeneration = workspace.machineGeneration ∧
      later.provisioningPhase = workspace.provisioningPhase ∧
      later.flyAppRef = workspace.flyAppRef ∧ later.volumeRef = workspace.volumeRef ∧
      later.machineRef = workspace.machineRef ∧
      later.provisioningClaimToken = workspace.provisioningClaimToken ∧
      later.provisioningId = workspace.provisioningId ∧
      (later.releaseTarget.pin = workspace.releaseTarget.pin ∨
        0 < workspace.machineGeneration)) : later.Sound limit := by
  obtain ⟨generation, phase, app, volume, machine, claim, provisioning, pin⟩ := rest
  refine ⟨named, requested, retries, by rw [generation]; exact bound, ?_, ?_, ?_, ?_, ?_, operation,
    token, ?_⟩
  · rw [Workspace.hasExistingBinding, phase, generation, app, volume, machine]
    exact sound.binding
  · rw [generation, volume, machine]
    intro zero
    obtain ⟨noVolume, noMachine, unpinned⟩ := sound.unbound zero
    refine ⟨noVolume, noMachine, ?_⟩
    rcases pin with same | positive
    · rw [same]
      exact unpinned
    · exact absurd zero (Nat.ne_of_gt positive)
  · rw [phase, generation]
    exact sound.generated
  · rw [app, volume, machine]
    exact sound.references
  · rw [claim, phase]
    exact sound.provisioning
  · rw [provisioning]
    exact sound.provisioningDrawn

theorem drawn_getD {first : Option Uuid} {drawn : Uuid}
    (known : ∀ id, first = some id → id < limit) (fresh : drawn < limit) (id : Uuid)
    (named : some (first.getD drawn) = some id) : id < limit := by
  rw [Option.some.injEq] at named
  cases first with
  | none => exact named ▸ fresh
  | some current => exact named ▸ known current rfl

theorem advanced {advanced : Workspace} (sound : workspace.Sound limit)
    (advances : advanceRuntimeStartEpochLocked workspace = .ok advanced) :
    advanced.Sound limit := by
  obtain ⟨_, rfl⟩ := advanceRuntimeStartEpochLocked_eq_ok.mp advances
  exact sound.operated sound.named sound.requested sound.retries sound.bound sound.operationDrawn
    sound.tokenDrawn ⟨rfl, rfl, rfl, rfl, rfl, rfl, rfl, .inl rfl⟩

theorem claimedRelease (sound : workspace.Sound limit) (now : Instant) (operationId token : Uuid)
    (pin : ReleasePin) (below : operationId < limit) (belowToken : token < limit)
    (bound : 0 < workspace.machineGeneration) :
    (workspace.claimedRelease now operationId token pin).Sound limit :=
  sound.operated ⟨fun _ => nofun, fun _ => rfl⟩ (fun _ => rfl) sound.retries (fun _ => bound)
    (drawn_getD sound.operationDrawn below) (by rintro id ⟨rfl⟩; exact belowToken)
    ⟨rfl, rfl, rfl, rfl, rfl, rfl, rfl, .inr bound⟩

theorem opened {request : LifecycleRequest} {operationId : Uuid}
    {phase : WorkspaceProvisioningPhase} {opened : Workspace} (sound : workspace.Sound limit)
    (below : operationId < limit) (inFlight : phase.isInFlight = true)
    (written : openOperation request operationId (workspace.machineGeneration + 1) phase
      workspace = .ok opened) : opened.Sound limit := by
  have notIdle : phase ≠ .idle := by
    rintro rfl
    cases inFlight
  have drawn : ∀ id, some operationId = some id → id < limit := by
    rintro _ ⟨rfl⟩
    exact below
  simp only [openOperation, bind_eq_ok] at written
  obtain ⟨_, advances, written⟩ := written
  obtain ⟨_, rfl⟩ := advanceRuntimeStartEpochLocked_eq_ok.mp advances
  split at written <;> simp only [pure_eq_ok] at written <;> subst written
  · exact ⟨sound.named, sound.requested, sound.retries, fun _ => Nat.succ_pos _,
      fun idle => absurd idle notIdle, fun zero => absurd zero (Nat.succ_ne_zero _),
      fun _ => Nat.succ_pos _, sound.references, fun _ => inFlight, sound.operationDrawn,
      sound.tokenDrawn, drawn⟩
  · exact ⟨sound.named, sound.requested, sound.retries, fun _ => Nat.succ_pos _,
      fun idle => absurd idle notIdle, fun zero => absurd zero (Nat.succ_ne_zero _),
      fun _ => Nat.succ_pos _, ⟨sound.references.1, sound.references.2.1, (by rintro ⟨⟩)⟩,
      fun _ => inFlight, sound.operationDrawn, sound.tokenDrawn, drawn⟩

theorem recorded_ne {reference known : Option String} (nonempty : reference ≠ some "")
    (sound : known ≠ some "") : (reference <|> known) ≠ some "" := by
  cases reference with
  | none => exact sound
  | some => exact nonempty

theorem claimed_inFlight (sound : workspace.Sound limit)
    (claimed : workspace.provisioningClaimToken.isSome = true) :
    0 < workspace.machineGeneration := by
  refine sound.generated fun idle => ?_
  have inFlight := sound.provisioning claimed
  rw [idle] at inFlight
  cases inFlight

theorem isPresent_of_ne {reference : Option String} (known : reference.isSome = true)
    (nonempty : reference ≠ some "") : isPresent reference = true := by
  obtain ⟨text, rfl⟩ := Option.isSome_iff_exists.mp known
  have different : text ≠ "" := fun empty => nonempty (by rw [empty])
  simpa [isPresent] using different

theorem readied (sound : workspace.Sound limit) (now : Instant) (bootId : Uuid) :
    (workspace.readied now bootId).Sound limit := by
  simp only [Workspace.readied]
  split
  · exact sound.operated ⟨(by rintro ⟨⟩), fun active => absurd rfl active⟩
      (fun active => absurd rfl active) (Nat.zero_le _) (fun active => absurd rfl active)
      (by rintro _ ⟨⟩) sound.tokenDrawn
      ⟨rfl, rfl, rfl, rfl, rfl, rfl, rfl, .inl rfl⟩
  · exact sound.operated sound.named sound.requested sound.retries sound.bound sound.operationDrawn
      sound.tokenDrawn ⟨rfl, rfl, rfl, rfl, rfl, rfl, rfl, .inl rfl⟩

theorem ended (sound : workspace.Sound limit) (operation : later.runtimeOperationId = none)
    (state : later.runtimeOperationState = .idle)
    (retries : later.runtimeOperationRetryCount ≤ executionWakeMaxRetries)
    (token : later.activationClaimToken = none)
    (rest : later.machineGeneration = workspace.machineGeneration ∧
      later.provisioningPhase = workspace.provisioningPhase ∧
      later.flyAppRef = workspace.flyAppRef ∧ later.volumeRef = workspace.volumeRef ∧
      later.machineRef = workspace.machineRef ∧
      later.provisioningClaimToken = workspace.provisioningClaimToken ∧
      later.provisioningId = workspace.provisioningId ∧
      (later.releaseTarget.pin = workspace.releaseTarget.pin ∨
        0 < workspace.machineGeneration)) : later.Sound limit := by
  refine sound.operated ?_ (fun active => absurd state active) retries
    (fun active => absurd state active) ?_ ?_ rest
  · rw [operation, state]
    exact ⟨nofun, fun active => absurd rfl active⟩
  · rw [operation]
    nofun
  · rw [token]
    nofun

theorem move {id : Uuid} {actor : Actor D} (before : workspace.Sound supply)
    (grows : supply ≤ limit) (move : RowMove supply limit id actor workspace later) :
    later.Sound limit := by
  have sound := before.mono grows
  have below : ∀ {drawn : Uuid}, Drawn supply limit drawn → ∀ id, some drawn = some id →
      id < limit := by
    rintro _ fresh _ ⟨rfl⟩
    exact fresh.2
  have active : ∀ state, workspace.runtimeOperationState = state → state ≠ .idle →
      workspace.runtimeOperationState ≠ .idle := by
    rintro _ rfl different
    exact different
  cases move with
  | woken woken => exact before.woken grows woken
  | claimsStart _ _ fresh claimable written =>
    subst written
    have holds := of_decide_eq_true claimable
    have bound := sound.bound (active .requested holds.1 (by decide))
    exact sound.operated ⟨fun _ => nofun, fun _ => holds.2.1⟩
      (fun _ => sound.requested (active .requested holds.1 (by decide))) sound.retries
      (fun _ => bound) sound.operationDrawn (below fresh) ⟨rfl, rfl, rfl, rfl, rfl, rfl, rfl, .inl rfl⟩
  | preparesStart _ _ _ _ _ _ advances dressing =>
    exact (sound.advanced advances).dressed dressing
  | marksAwaiting _ _ _ _ state written | recoversAwaiting _ _ _ _ state written
  | recoversRequested state written =>
    subst written
    have isActive := active .starting state (by decide)
    exact sound.operated ⟨fun _ => nofun, fun _ => sound.named.mpr isActive⟩
      (fun _ => sound.requested isActive) sound.retries (fun _ => sound.bound isActive)
      sound.operationDrawn nofun ⟨rfl, rfl, rfl, rfl, rfl, rfl, rfl, .inl rfl⟩
  | claimsStop _ _ _ fresh freshToken _ bound written =>
    subst written
    exact sound.operated ⟨fun _ => nofun, fun _ => rfl⟩ (fun _ => rfl) sound.retries
      (fun _ => bound) (below fresh) (below freshToken) ⟨rfl, rfl, rfl, rfl, rfl, rfl, rfl, .inl rfl⟩
  | preparesStop _ _ _ _ advances written =>
    subst written
    exact sound.advanced advances
  | reclaimsStop _ _ _ fresh freshToken state written =>
    subst written
    have bound := sound.bound (active .stopping state (by decide))
    exact sound.operated ⟨fun _ => nofun, fun _ => rfl⟩ (fun _ => rfl) sound.retries
      (fun _ => bound) (below fresh) (below freshToken) ⟨rfl, rfl, rfl, rfl, rfl, rfl, rfl, .inl rfl⟩
  | stops _ written =>
    subst written
    exact sound.ended rfl rfl sound.retries rfl ⟨rfl, rfl, rfl, rfl, rfl, rfl, rfl, .inl rfl⟩
  | finishesStop _ _ advances written =>
    subst written
    have soundAdvanced := sound.advanced advances
    exact soundAdvanced.ended rfl rfl soundAdvanced.retries rfl
      ⟨rfl, rfl, rfl, rfl, rfl, rfl, rfl, .inl rfl⟩
  | retries _ _ fresh isActive retries written =>
    subst written
    have bound := sound.bound (isActive.elim (fun state => state) sound.named.mp)
    exact sound.operated ⟨fun _ => nofun, fun _ => rfl⟩ (fun _ => rfl) retries (fun _ => bound)
      (below fresh) nofun ⟨rfl, rfl, rfl, rfl, rfl, rfl, rfl, .inl rfl⟩
  | abandons _ written =>
    subst written
    refine sound.ended rfl rfl ?_ rfl ⟨rfl, rfl, rfl, rfl, rfl, rfl, rfl, .inl rfl⟩
    simp only [Workspace.abandoned]
    split
    · exact sound.retries
    · exact Nat.zero_le _
  | resumesRelease now operationId token pin fresh freshToken pinned written =>
    subst written
    refine sound.claimedRelease now operationId token pin fresh.2 freshToken.2 ?_
    refine Nat.pos_of_ne_zero fun zero => ?_
    rw [(sound.unbound zero).2.2] at pinned
    cases pinned
  | pinsRelease now operationId token pin advanced fresh freshToken _ _ bound advances written =>
    subst written
    refine (sound.advanced advances).claimedRelease now operationId token pin fresh.2
      freshToken.2 ?_
    rw [advanceRuntimeStartEpochLocked_generation advances]
    refine Nat.pos_of_ne_zero fun zero => ?_
    rw [(sound.unbound zero).2.1] at bound
    cases bound
  | claimsActivation _ _ fresh _ written =>
    subst written
    exact sound.operated sound.named sound.requested sound.retries sound.bound
      sound.operationDrawn (below fresh) ⟨rfl, rfl, rfl, rfl, rfl, rfl, rfl, .inl rfl⟩
  | clearsClaim _ _ _ written =>
    subst written
    exact sound.operated sound.named sound.requested sound.retries sound.bound
      sound.operationDrawn nofun ⟨rfl, rfl, rfl, rfl, rfl, rfl, rfl, .inl rfl⟩
  | opens _ _ _ _ fresh _ inFlight written dressing =>
    exact (sound.opened fresh.2 inFlight written).dressed dressing
  | movesPhase phase _ inFlight nonempty claimed written =>
    subst written
    have positive := sound.claimed_inFlight claimed
    have notIdle : phase ≠ .idle := by
      rintro rfl
      cases inFlight
    obtain ⟨app, volume, machine⟩ := of_decide_eq_true nonempty
    exact ⟨sound.named, sound.requested, sound.retries, sound.bound,
      fun idle => absurd idle notIdle, fun zero => absurd zero (Nat.ne_of_gt positive),
      fun _ => positive, ⟨recorded_ne app sound.references.1, recorded_ne volume
        sound.references.2.1, recorded_ne machine sound.references.2.2⟩, nofun,
      sound.operationDrawn, sound.tokenDrawn, sound.provisioningDrawn⟩
  | binds _ _ machineRef _ fresh nonempty _ complete written =>
    subst written
    obtain ⟨positive, app, volume⟩ := complete
    have refs : some machineRef ≠ some "" := fun same => nonempty (Option.some.inj same)
    refine ⟨⟨fun _ => nofun, fun _ => rfl⟩, fun _ => rfl, sound.retries, fun _ => positive,
      fun _ _ => decide_eq_true ⟨positive, isPresent_of_ne app sound.references.1,
        isPresent_of_ne volume sound.references.2.1, isPresent_of_ne rfl refs⟩,
      fun zero => absurd zero (Nat.ne_of_gt positive), fun active => absurd rfl active,
      ⟨sound.references.1, sound.references.2.1, refs⟩, nofun, drawn_getD sound.operationDrawn fresh.2, ?_, sound.provisioningDrawn⟩
    intro token held
    simp only [Workspace.boundIdle] at held
    split at held
    · cases held
    · exact sound.tokenDrawn token held
  | givesUp _ _ retryable _ claimed written =>
    subst written
    have positive := sound.claimed_inFlight claimed
    have notIdle : workspace.provisioningPhase ≠ .idle := by
      intro idle
      have inFlight := sound.provisioning claimed
      rw [idle] at inFlight
      cases inFlight
    refine ⟨sound.named, sound.requested, sound.retries, sound.bound, ?_, sound.unbound,
      fun _ => positive, sound.references, nofun, sound.operationDrawn, sound.tokenDrawn,
      sound.provisioningDrawn⟩
    intro idle
    cases retryable with
    | true => exact absurd idle notIdle
    | false => cases idle
  | ready now _ bootId _ _ _ _ _ written =>
    subst written
    exact sound.readied now bootId

end Workspace.Sound

/-! ## Runs -/

section Runs

variable [DecidableEq D] (env : Env D) (settings : PowerSettings)

structure Fleet.Sound (fleet : Fleet D) : Prop where
  numbered : fleet.store.db.WorkspacesNumbered
  row : ∀ id workspace, fleet.store.db.workspaces.lookup id = some workspace →
    workspace.Sound fleet.store.db.supply

omit [DecidableEq D] in
theorem Fleet.empty_workspaces (id : Uuid) :
    (Fleet.empty : Fleet D).store.db.workspaces.lookup id = none :=
  AList.lookup_empty id

omit [DecidableEq D] in
theorem Fleet.Sound.empty : (Fleet.empty : Fleet D).Sound := by
  constructor
  · intro id workspace stored
    rw [Fleet.empty_workspaces] at stored
    cases stored
  · intro id workspace stored
    rw [Fleet.empty_workspaces] at stored
    cases stored

variable {env settings}

omit [DecidableEq D] in
theorem Fleet.Sound.steps {event : FleetEvent D} {fleet next : Fleet D} (sound : fleet.Sound)
    (steps : fleet.Steps env settings event next) : next.Sound := by
  refine ⟨steps.moves.numbered, ?_⟩
  intro id later stored
  cases known : fleet.store.db.workspaces.lookup id with
  | some workspace =>
    obtain ⟨_, found, move⟩ := steps.moves.row id workspace known
    cases stored.symm.trans found
    exact (sound.row id workspace known).move steps.moves.supply move
  | none =>
    obtain ⟨tenantRef, dressing⟩ := steps.moves.new id later stored known
    exact (Workspace.Sound.registered _ tenantRef).dressed dressing

section

variable (Condition : Fleet D → FleetEvent D → Prop) (Invariant : Fleet D → Prop)

theorem runFleet_relates (Related : Fleet D → Fleet D → Prop)
    (reflexive : ∀ fleet, Related fleet fleet) (transitive : ∀ {first second third},
      Related first second → Related second third → Related first third)
    (pass : ∀ event fleet next reply, Condition fleet event → fleet.Sound → Invariant fleet →
      applyEvent env settings event fleet = .ok (reply, next) →
      fleet.Steps env settings event next → Invariant next ∧ Related fleet next)
    (fleet : Fleet D) (events : List (FleetEvent D)) (sound : fleet.Sound) (start : Invariant fleet)
    (meets : Run.Meets (applyEvent env settings) Condition fleet events) :
    (runFleet env settings fleet events).Sound ∧ Invariant (runFleet env settings fleet events) ∧
      Related fleet (runFleet env settings fleet events) := by
  have rule := Run.relates_where Condition
    (fun fleet : Fleet D => fleet.Sound ∧ Invariant fleet) Related reflexive transitive
    (fun fleet event reply next admitted holds success => by
      have steps := applyEvent_steps env settings event fleet next reply holds.1.numbered success
      obtain ⟨invariant, related⟩ :=
        pass event fleet next reply admitted holds.1 holds.2 success steps
      exact ⟨⟨holds.1.steps steps, invariant⟩, related⟩)
    fleet events ⟨sound, start⟩ meets
  exact ⟨rule.1.1, rule.1.2, rule.2⟩

theorem runFleet_invariant (initial : Invariant Fleet.empty)
    (pass : ∀ event fleet next reply, Condition fleet event → fleet.Sound → Invariant fleet →
      applyEvent env settings event fleet = .ok (reply, next) →
      fleet.Steps env settings event next → Invariant next)
    (events : List (FleetEvent D))
    (meets : Run.Meets (applyEvent env settings) Condition Fleet.empty events) :
    Invariant (runFleet env settings Fleet.empty events) :=
  (runFleet_relates Condition Invariant (fun _ _ => True) (fun _ => trivial) (fun _ _ => trivial)
    (fun event fleet next reply admitted sound holds success steps =>
      ⟨pass event fleet next reply admitted sound holds success steps, trivial⟩)
    Fleet.empty events Fleet.Sound.empty initial meets).2.1

end

theorem runFleet_sound (env : Env D) (settings : PowerSettings) (fleet : Fleet D) (events : List (FleetEvent D)) (sound : fleet.Sound) :
    (runFleet env settings fleet events).Sound :=
  (runFleet_relates (fun _ _ => True) (fun _ => True) (fun _ _ => True) (fun _ => trivial)
    (fun _ _ => trivial) (fun _ _ _ _ _ _ _ _ _ => ⟨trivial, trivial⟩) fleet events sound trivial
    (Run.meets_of_forall _ (fun _ _ => trivial) fleet events)).1

end Runs

end Foundry
