import Foundry.Fleet.Leases
import Foundry.Fleet.Starts
import Mathlib.Data.List.Induction

/-!
# Epochs fence readiness

Preparing a start or a stop, and opening a generation, issue a new start epoch and forget
what was reported.  From then on the Workspace is ready, and serves claims, only after a
receipt that carries the current generation and an epoch issued by that change or a later
one.
-/

set_option autoImplicit false

namespace Foundry

open Raise

variable {D : Type}

inductive IssuesEpoch (settings : PowerSettings) (fleet : Fleet D) (event : FleetEvent D)
    (next : Fleet D) (id : Uuid) (before after : Workspace) : Prop
  | preparesStart (clock : Instant) (number : Nat) (input : PowerInput) (worker : PowerWorker)
      (frame : WakeFrame) (happens : event = .work clock number input)
      (known : fleet.workers.lookup number = some worker)
      (point : worker.point = .prepareStart frame) (named : frame.claim.workspace = id)
      (prepares : prepareStart worker.now frame.claim fleet.store = .ok next.store)
  | preparesStop (clock : Instant) (number : Nat) (input : PowerInput) (worker : PowerWorker)
      (claim : OperationClaim) (workspace : Workspace) (isStopped : Bool)
      (happens : event = .work clock number input)
      (known : fleet.workers.lookup number = some worker)
      (point : worker.point = .prepareStop claim workspace isStopped)
      (named : claim.workspace = id)
      (prepares : prepareStop settings worker.now claim fleet.store = .ok next.store)
  | generation (changed : after.machineGeneration ≠ before.machineGeneration)

/-- A receipt for the Workspace with this generation and epoch was accepted during the run. -/
def AcceptedReceipt [DecidableEq D] (env : Env D) (settings : PowerSettings) (fleet : Fleet D)
    (events : List (FleetEvent D)) (id : Uuid) (generation startEpoch : Nat) : Prop :=
  ∃ earlier now context bootId later reply next,
    events = earlier ++ .readiness now context bootId generation startEpoch :: later ∧
    context.workspace = id ∧
    applyEvent env settings (.readiness now context bootId generation startEpoch)
      (runFleet env settings fleet earlier) = .ok (reply, next)

/-! ## Rows -/

section Rows

variable {supply limit : Nat} {id : Uuid} {actor : Actor D} {workspace later : Workspace}

section

variable (move : RowMove supply limit id actor workspace later)

include move

theorem RowMove.readiness_cases :
    later.readiness = workspace.readiness ∨ later.readiness = .none ∨
      ∃ context bootId generation startEpoch,
        actor = .runtime context bootId generation startEpoch ∧ context.workspace = id ∧
          later.readyGeneration = some generation ∧ later.readyStartEpoch = some startEpoch := by
  cases move with
  | woken woken =>
    cases woken with
    | dressed dressing => exact dressing.readiness.imp_right .inl
    | requested now operationId trigger _ _ dressing =>
      have same := (workspace.requestedFrom_frame now operationId trigger).2.1
      rcases dressing.readiness with kept | none
      · exact .inl (kept.trans same)
      · exact .inr (.inl none)
  | preparesStart _ _ _ _ _ _ advances dressing =>
    have none := (Workspace.Advances.of_advanced advances).2
    exact .inr (.inl (dressing.unreported none))
  | preparesStop _ _ _ _ advances written =>
    subst written
    exact .inr (.inl (Workspace.Advances.of_advanced advances).2)
  | finishesStop _ _ advances written | pinsRelease _ _ _ _ _ _ _ _ _ _ advances written =>
    obtain ⟨_, rfl⟩ := advanceRuntimeStartEpochLocked_eq_ok.mp advances
    subst written
    exact .inr (.inl rfl)
  | opens _ _ _ _ _ _ _ written dressing =>
    have none := (openOperation_epoch written).2.1
    exact .inr (.inl (dressing.unreported none))
  | ready _ context bootId generation startEpoch acts named accepts written =>
    refine .inr (.inr ⟨context, bootId, generation, startEpoch, acts, named, ?_, ?_⟩) <;>
      subst written <;> simp only [Workspace.readied] <;> split <;>
      simp [accepts.generation, accepts.epoch]
  | claimsStart _ _ _ _ written | marksAwaiting _ _ _ _ _ written
  | recoversAwaiting _ _ _ _ _ written | recoversRequested _ written
  | claimsStop _ _ _ _ _ _ _ written | reclaimsStop _ _ _ _ _ _ written | stops _ written
  | retries _ _ _ _ _ written | abandons _ written | resumesRelease _ _ _ _ _ _ _ written
  | claimsActivation _ _ _ _ written | clearsClaim _ _ _ written
  | movesPhase _ _ _ _ _ written | binds _ _ _ _ _ _ _ _ written
  | givesUp _ _ _ _ _ written =>
    subst written
    exact .inl rfl

theorem RowMove.generation_cases :
    later.machineGeneration = workspace.machineGeneration ∨
      (later.runtimeStartEpoch = workspace.runtimeStartEpoch + 1 ∧ later.readiness = .none) := by
  cases move with
  | woken woken =>
    cases woken with
    | dressed dressing => exact .inl dressing.generation
    | requested _ _ _ _ _ dressing =>
      refine .inl (dressing.generation.trans ?_)
      unfold Workspace.requestedFrom
      split <;> rfl
  | preparesStart _ _ _ _ _ _ advances dressing =>
    obtain ⟨_, rfl⟩ := advanceRuntimeStartEpochLocked_eq_ok.mp advances
    exact .inl dressing.generation
  | preparesStop _ advanced _ _ advances written | finishesStop advanced _ advances written
  | pinsRelease _ _ _ _ advanced _ _ _ _ _ advances written =>
    obtain ⟨_, rfl⟩ := advanceRuntimeStartEpochLocked_eq_ok.mp advances
    subst written
    exact .inl rfl
  | opens _ _ _ _ _ _ _ written dressing =>
    obtain ⟨epoch, none, _⟩ := openOperation_epoch written
    exact .inr ⟨dressing.epoch.trans epoch,
      dressing.unreported none⟩
  | ready _ _ _ _ _ _ _ _ written =>
    subst written
    simp only [Workspace.readied]
    split <;> exact .inl rfl
  | claimsStart _ _ _ _ written | marksAwaiting _ _ _ _ _ written
  | recoversAwaiting _ _ _ _ _ written | recoversRequested _ written
  | claimsStop _ _ _ _ _ _ _ written | reclaimsStop _ _ _ _ _ _ written | stops _ written
  | retries _ _ _ _ _ written | abandons _ written | resumesRelease _ _ _ _ _ _ _ written
  | claimsActivation _ _ _ _ written | clearsClaim _ _ _ written
  | movesPhase _ _ _ _ _ written | binds _ _ _ _ _ _ _ _ written
  | givesUp _ _ _ _ _ written =>
    subst written
    exact .inl rfl

end

end Rows

/-! ## Runs -/

section Runs

variable [DecidableEq D] {env : Env D} {settings : PowerSettings}

variable {fleet : Fleet D} {id : Uuid} {event : FleetEvent D}

omit [DecidableEq D] in
theorem IssuesEpoch.advances {next : Fleet D}
    {before after : Workspace} (steps : fleet.Steps env settings event next)
    (issues : IssuesEpoch settings fleet event next id before after)
    (known : fleet.store.db.workspaces.lookup id = some before)
    (stored : next.store.db.workspaces.lookup id = some after) :
    after.runtimeStartEpoch = before.runtimeStartEpoch + 1 ∧ after.readiness = .none := by
  cases issues with
  | preparesStart _ _ _ _ _ _ _ _ named prepares =>
    subst named
    simp only [prepareStart, bind_eq_ok, ownedOperation_eq_ok, pure_eq_ok] at prepares
    obtain ⟨_, ⟨found, _⟩, _, advances, written⟩ := prepares
    cases known.symm.trans found
    obtain ⟨_, rfl⟩ := advanceRuntimeStartEpochLocked_eq_ok.mp advances
    rw [← written] at stored
    cases Option.some.inj ((AList.lookup_insert _).symm.trans stored)
    exact ⟨rfl, rfl⟩
  | preparesStop _ _ _ _ _ _ _ _ _ _ named prepares =>
    subst named
    simp only [prepareStop, bind_eq_ok, ownedOperation_eq_ok, pure_eq_ok] at prepares
    obtain ⟨_, ⟨found, _⟩, _, _, _, advances, written⟩ := prepares
    cases known.symm.trans found
    obtain ⟨_, rfl⟩ := advanceRuntimeStartEpochLocked_eq_ok.mp advances
    rw [← written] at stored
    cases Option.some.inj ((AList.lookup_insert _).symm.trans stored)
    exact ⟨rfl, rfl⟩
  | generation changed =>
    obtain ⟨_, found, move⟩ := steps.moves.row id before known
    cases stored.symm.trans found
    exact move.generation_cases.resolve_left changed

variable {events : List (FleetEvent D)}

theorem AcceptedReceipt.mono {generation startEpoch : Nat} (more : List (FleetEvent D))
    (receipt : AcceptedReceipt env settings fleet events id generation startEpoch) :
    AcceptedReceipt env settings fleet (events ++ more) id generation startEpoch := by
  obtain ⟨earlier, now, context, bootId, later, reply, next, rfl, named, accepted⟩ := receipt
  exact ⟨earlier, now, context, bootId, later ++ more, reply, next, by simp, named, accepted⟩

/-- What the rows of a run from `fleet` owe to receipts of the run. -/
def OwesReceipt (env : Env D) (settings : PowerSettings) (fleet : Fleet D) (id : Uuid)
    (issued : Nat) (events : List (FleetEvent D)) : Prop :=
  ∃ workspace, (runFleet env settings fleet events).store.db.workspaces.lookup id =
      some workspace ∧ issued ≤ workspace.runtimeStartEpoch ∧
    (workspace.readiness = .none ∨
      ∃ generation startEpoch, workspace.readyGeneration = some generation ∧
        workspace.readyStartEpoch = some startEpoch ∧
        AcceptedReceipt env settings fleet events id generation startEpoch)

omit [DecidableEq D] in
theorem FleetEvent.actor_eq_runtime
    {context : RuntimeContext} {bootId : Uuid} {generation startEpoch : Nat}
    (acts : event.actor fleet = .runtime context bootId generation startEpoch) :
    ∃ now, event = .readiness now context bootId generation startEpoch := by
  cases event with
  | readiness now =>
    cases acts
    exact ⟨now, rfl⟩
  | work =>
    simp only [FleetEvent.actor] at acts
    split at acts <;> cases acts
  | _ => cases acts

variable {issued : Nat}

theorem OwesReceipt.snoc (sound : fleet.Sound) (event : FleetEvent D)
    (owes : OwesReceipt env settings fleet id issued events) :
    OwesReceipt env settings fleet id issued (events ++ [event]) := by
  obtain ⟨workspace, stored, grows, owed⟩ := owes
  cases result : applyEvent env settings event (runFleet env settings fleet events) with
  | error raised =>
    have same : runFleet env settings fleet (events ++ [event]) =
        runFleet env settings fleet events := by
      rw [runFleet, Run.run_append]
      exact Run.step_of_error _ event raised result
    refine ⟨workspace, by rw [same]; exact stored, grows, owed.imp_right ?_⟩
    rintro ⟨generation, startEpoch, isGeneration, isEpoch, receipt⟩
    exact ⟨generation, startEpoch, isGeneration, isEpoch, receipt.mono [event]⟩
  | ok pair =>
    obtain ⟨reply, next⟩ := pair
    have same : runFleet env settings fleet (events ++ [event]) = next :=
      Run.run_snoc_of_ok fleet next events event reply result
    have numbered := (runFleet_sound env settings fleet events sound).numbered
    have steps := applyEvent_steps env settings event _ next reply numbered result
    obtain ⟨later, found, move⟩ := steps.moves.row id workspace stored
    refine ⟨later, by rw [same]; exact found, Nat.le_trans grows move.epoch_le, ?_⟩
    rcases move.readiness_cases with kept | none | ⟨context, bootId, generation, startEpoch, acts,
        named, isGeneration, isEpoch⟩
    · have generationKept : later.readyGeneration = workspace.readyGeneration :=
        congrArg Readiness.generation kept
      have epochKept : later.readyStartEpoch = workspace.readyStartEpoch :=
        congrArg Readiness.startEpoch kept
      rcases owed with none | ⟨generation, startEpoch, isGeneration, isEpoch, receipt⟩
      · exact .inl (kept.trans none)
      · exact .inr ⟨generation, startEpoch, generationKept.trans isGeneration,
          epochKept.trans isEpoch, receipt.mono [event]⟩
    · exact .inl none
    · obtain ⟨now, rfl⟩ := FleetEvent.actor_eq_runtime acts
      exact .inr ⟨generation, startEpoch, isGeneration, isEpoch, events, now, context, bootId, [],
        reply, next, rfl, named, result⟩

theorem OwesReceipt.run (env : Env D) (settings : PowerSettings)
    {after : Workspace} (sound : fleet.Sound)
    (stored : fleet.store.db.workspaces.lookup id = some after)
    (unreported : after.readiness = .none) (events : List (FleetEvent D)) :
    OwesReceipt env settings fleet id after.runtimeStartEpoch events := by
  induction events using List.reverseRecOn with
  | nil => exact ⟨after, stored, Nat.le_refl _, .inl unreported⟩
  | append_singleton _ event ih => exact ih.snoc sound event

theorem ready_receipt (owes : OwesReceipt env settings fleet id issued events) (now : Instant)
    (workspace : Workspace)
    (stored : (runFleet env settings fleet events).store.db.workspaces.lookup id =
      some workspace) (ready : isRuntimeReady env now workspace = true) :
    issued ≤ workspace.runtimeStartEpoch ∧
      AcceptedReceipt env settings fleet events id workspace.machineGeneration
        workspace.runtimeStartEpoch := by
  obtain ⟨_, found, grows, owed⟩ := owes
  cases stored.symm.trans found
  obtain ⟨_, generation, epoch, _⟩ := of_decide_eq_true ready
  refine ⟨grows, ?_⟩
  rcases owed with none | ⟨_, _, isGeneration, isEpoch, receipt⟩
  · have unreported : workspace.readyGeneration = .none := congrArg Readiness.generation none
    rw [unreported] at generation
    cases generation
  · rw [isGeneration, Option.some.injEq] at generation
    rw [isEpoch, Option.some.injEq] at epoch
    rw [← generation, ← epoch]
    exact receipt

/-- A prepared start, a prepared stop and a new generation advance the start epoch.  After any
of them, whatever happens, the Workspace is ready, and a claim is served, only if a receipt
was accepted since that carries the current generation and the current epoch, which that
change or a later one issued. -/
theorem runFleet_epoch_fences (env : Env D) (settings : PowerSettings)
    (first rest : List (FleetEvent D)) (event : FleetEvent D) (reply : FleetReply D)
    (next : Fleet D) (id : Uuid) (before after : Workspace)
    (success : applyEvent env settings event (runFleet env settings Fleet.empty first) =
      .ok (reply, next))
    (known : (runFleet env settings Fleet.empty first).store.db.workspaces.lookup id = some before)
    (stored : next.store.db.workspaces.lookup id = some after)
    (issues : IssuesEpoch settings (runFleet env settings Fleet.empty first) event next id before
      after) :
    before.runtimeStartEpoch < after.runtimeStartEpoch ∧
      (∀ now workspace,
        (runFleet env settings next rest).store.db.workspaces.lookup id = some workspace →
        isRuntimeReady env now workspace = true →
        after.runtimeStartEpoch ≤ workspace.runtimeStartEpoch ∧
          AcceptedReceipt env settings next rest id workspace.machineGeneration
            workspace.runtimeStartEpoch) ∧
      (∀ (call : Call D) (context : RuntimeContext) claimId slots answer last,
        call.operation = .claimNextExecution context claimId slots → context.workspace = id →
        applyEvent env settings (.service call) (runFleet env settings next rest) =
          .ok (answer, last) →
        ∃ workspace,
          (runFleet env settings next rest).store.db.workspaces.lookup id = some workspace ∧
          after.runtimeStartEpoch ≤ workspace.runtimeStartEpoch ∧
          AcceptedReceipt env settings next rest id workspace.machineGeneration
            workspace.runtimeStartEpoch) := by
  have sound := runFleet_sound env settings Fleet.empty first .empty
  have steps := applyEvent_steps env settings event _ next reply sound.numbered success
  obtain ⟨_, unreported⟩ := issues.advances steps known stored
  have owes := OwesReceipt.run env settings (sound.steps steps) stored unreported rest
  refine ⟨by omega, ?_, ?_⟩
  · intro now workspace found ready
    exact ready_receipt owes now workspace found ready
  · rintro call context claimId slots answer last asked rfl claims
    obtain ⟨workspace, found, ready⟩ := claimEvent_ready _ last call context claimId slots answer
      asked claims
    obtain ⟨grows, receipt⟩ := ready_receipt owes call.now workspace found ready
    exact ⟨workspace, found, grows, receipt⟩

end Runs

/-! ## A stop that fails -/

/-- A worker has claimed the idle Workspace 0 and inspected its Machine. -/
def claimedStop : List (FleetEvent PlainDigest) :=
  provisionedFleet ++
    [.intent 0 0 60 .composingStarted 0,
      .select (seconds 400) 1 .idleStop 0,
      .work (seconds 400) 1 .go,
      .work (seconds 400) 1 .go,
      .work (seconds 400) 1 (.inspected (.ok (some (plainMachine .started))))]

/-- The provider refuses the stop that was prepared; the runtime reads the new epoch and
reports it. -/
def refusedStop : List (FleetEvent PlainDigest) :=
  [.work (seconds 400) 1 (.called (.error .terminal)),
    .work (seconds 400) 1 .go,
    .readiness (seconds 410) ⟨0, 1⟩ 7 1 2,
    .service ⟨seconds 410, .createExecution 0 50 "key" (.obj [])⟩]

/-- The worker is about to prepare the stop of the Workspace, and will succeed. -/
def Fleet.preparesStop (settings : PowerSettings) (fleet : Fleet D) (number : Nat) (id : Uuid) :
    Bool :=
  (fleet.workers.lookup number).any fun worker =>
    match worker.point with
    | .prepareStop claim _ _ =>
      decide (claim.workspace = id) && (prepareStop settings worker.now claim fleet.store).isOk
    | _ => false

theorem Fleet.preparesStop_event [DecidableEq D] (env : Env D) (settings : PowerSettings)
    (clock : Instant) (fleet : Fleet D) (number : Nat) (id : Uuid)
    (prepares : fleet.preparesStop settings number id = true) :
    ∃ next before after,
      applyEvent env settings (.work clock number .go) fleet = .ok (.done, next) ∧
      fleet.store.db.workspaces.lookup id = some before ∧
      next.store.db.workspaces.lookup id = some after ∧
      IssuesEpoch settings fleet (.work clock number .go) next id before after := by
  obtain ⟨⟨now, point⟩, known, holds⟩ := (Option.any_eq_true _ _).mp prepares
  cases point with
  | prepareStop claim row isStopped =>
    obtain ⟨isNamed, succeeds⟩ := (Bool.and_eq_true _ _).mp holds
    obtain rfl := of_decide_eq_true isNamed
    dsimp only at succeeds
    cases result : prepareStop settings now claim fleet.store with
    | error =>
      rw [result] at succeeds
      cases succeeds
    | ok =>
      have written := result
      simp only [prepareStop, bind_eq_ok, ownedOperation_eq_ok, pure_eq_ok] at written
      obtain ⟨before, ⟨stored, _⟩, _, _, advanced, _, rfl⟩ := written
      refine ⟨fleet.commit (fleet.store.putWorkspace claim.workspace advanced)
        (fleet.workers.insert number ⟨now,
          if isStopped then .finalizeStop claim else .stopMachine claim row⟩),
        before, advanced, ?_, stored, AList.lookup_insert _,
        .preparesStop clock number .go _ claim row isStopped rfl known rfl rfl result⟩
      simp only [applyEvent, workStep, known, orRaise, PowerWorker.advance, result, bind,
        Except.bind]
      rfl
  | _ => cases holds

theorem claimedStop_prepared :
    ∃ next before after,
      applyEvent Env.plain .plain (.work (seconds 400) 1 .go)
        (runFleet Env.plain .plain Fleet.empty claimedStop) = .ok (.done, next) ∧
      (runFleet Env.plain .plain Fleet.empty claimedStop).store.db.workspaces.lookup 0 =
        some before ∧
      next.store.db.workspaces.lookup 0 = some after ∧ after.runtimeStartEpoch = 2 ∧
      IssuesEpoch .plain (runFleet Env.plain .plain Fleet.empty claimedStop)
        (.work (seconds 400) 1 .go) next 0 before after := by
  have prepares : (runFleet Env.plain .plain Fleet.empty claimedStop).preparesStop .plain 1 0 =
      true := by
    decide +kernel
  have epoch : ((runFleet Env.plain .plain Fleet.empty
      (claimedStop ++ [.work (seconds 400) 1 .go])).store.db.workspaces.lookup 0).any
      (fun after => decide (after.runtimeStartEpoch = 2)) = true := by
    decide +kernel
  obtain ⟨next, before, after, success, known, stored, issues⟩ :=
    Fleet.preparesStop_event Env.plain .plain (seconds 400) _ 1 0 prepares
  have same : runFleet Env.plain .plain Fleet.empty
      (claimedStop ++ [.work (seconds 400) 1 .go]) = next :=
    Run.run_snoc_of_ok _ next claimedStop _ _ success
  rw [same, stored] at epoch
  exact ⟨next, before, after, success, known, stored, of_decide_eq_true epoch, issues⟩

/-- The stop was prepared, no epoch was issued after it, so no later start was prepared; and
yet the claim is granted. -/
theorem refusedStop_serves_claim :
    ∃ next before after workspace answer last,
      applyEvent Env.plain .plain (.work (seconds 400) 1 .go)
        (runFleet Env.plain .plain Fleet.empty claimedStop) = .ok (.done, next) ∧
      IssuesEpoch .plain (runFleet Env.plain .plain Fleet.empty claimedStop)
        (.work (seconds 400) 1 .go) next 0 before after ∧
      applyEvent Env.plain .plain
        (.service ⟨seconds 410, .claimNextExecution ⟨0, 1⟩ 61 1⟩)
        (runFleet Env.plain .plain next refusedStop) = .ok (answer, last) ∧
      last.store.db.hasLiveLease 0 = true ∧
      last.store.db.workspaces.lookup 0 = some workspace ∧
      workspace.runtimeStartEpoch = after.runtimeStartEpoch := by
  obtain ⟨next, before, after, success, _, _, epoch, issues⟩ := claimedStop_prepared
  have same : runFleet Env.plain .plain next refusedStop =
      runFleet Env.plain .plain Fleet.empty
        (claimedStop ++ [.work (seconds 400) 1 .go] ++ refusedStop) := by
    have prepared : runFleet Env.plain .plain Fleet.empty
        (claimedStop ++ [.work (seconds 400) 1 .go]) = next :=
      Run.run_snoc_of_ok _ next claimedStop _ _ success
    rw [← prepared, runFleet, runFleet, runFleet, ← Run.run_append]
  have evaluated : (match applyEvent Env.plain .plain
      (.service ⟨seconds 410, .claimNextExecution ⟨0, 1⟩ 61 1⟩)
      (runFleet Env.plain .plain Fleet.empty
        (claimedStop ++ [.work (seconds 400) 1 .go] ++ refusedStop)) with
      | .ok (_, last) => last.store.db.hasLiveLease 0 &&
          (last.store.db.workspaces.lookup 0).any fun workspace =>
            decide (workspace.runtimeStartEpoch = 2)
      | .error _ => false) = true := by
    decide +kernel
  rw [← same] at evaluated
  split at evaluated
  · next answer last claims =>
    obtain ⟨live, row⟩ := (Bool.and_eq_true _ _).mp evaluated
    obtain ⟨workspace, stored, kept⟩ := (Option.any_eq_true _ _).mp row
    exact ⟨next, before, after, workspace, answer, last, success, issues, claims, live, stored,
      (of_decide_eq_true kept).trans epoch.symm⟩
  · cases evaluated

/-- The claim after the refused stop rests on the receipt of epoch 2. -/
theorem refusedStop_needs_receipt :
    ∃ next, applyEvent Env.plain .plain (.work (seconds 400) 1 .go)
        (runFleet Env.plain .plain Fleet.empty claimedStop) = .ok (.done, next) ∧
      ∀ now workspace,
        (runFleet Env.plain .plain next refusedStop).store.db.workspaces.lookup 0 =
          some workspace →
        isRuntimeReady Env.plain now workspace = true →
        AcceptedReceipt Env.plain .plain next refusedStop 0 workspace.machineGeneration
          workspace.runtimeStartEpoch := by
  obtain ⟨next, before, after, success, known, stored, _, issues⟩ := claimedStop_prepared
  have fences := runFleet_epoch_fences Env.plain .plain claimedStop refusedStop
    (.work (seconds 400) 1 .go) .done next 0 before after success known stored issues
  exact ⟨next, success, fun now workspace found ready => (fences.2.1 now workspace found ready).2⟩

end Foundry
