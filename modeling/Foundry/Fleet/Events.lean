import Foundry.Fleet.Wakes

/-!
# Every event moves rows

The calls of the system are `RowMove`s: a lifecycle worker's are given one by one, and every
other call only wakes (`quiet_moves`).  `applyEvent_moves` says it of every event.
-/

set_option autoImplicit false

namespace Foundry

open Raise

variable {D : Type}

/-! ## Lifecycle workers -/

section Lifecycle

variable {actor : Actor D}

theorem provisioningClaim_dresses (workspace : Workspace) (token : Uuid) (expiry : Instant)
    (inFlight : workspace.provisioningPhase.isInFlight = true) :
    workspace.Dresses { workspace with
      provisioningClaimToken := some token
      provisioningClaimExpiresAt := some expiry } :=
  ⟨rfl, rfl, Nat.le_refl _, id, rfl, rfl, rfl, rfl, rfl, rfl, fun _ => .inr inFlight, rfl, rfl, rfl,
    rfl, .inl rfl⟩

theorem joinOperation_dresses (now : Instant) (id token : Uuid) (request : LifecycleRequest)
    (workspace : Workspace) (reply : LifecycleReply) (db next : Db D)
    (inFlight : workspace.provisioningPhase.isInFlight = true)
    (success : joinOperation now id token request workspace db = .ok (reply, next)) :
    next = db ∨ ∃ later, next = db.putWorkspace id later ∧ workspace.Dresses later := by
  simp only [joinOperation] at success
  split at success
  · simp only [return_eq_ok] at success
    exact .inl success.2.symm
  · split at success
    · split at success
      · simp only [return_eq_ok] at success
        exact .inl success.2.symm
      · simp only [bind_eq_ok, return_eq_ok] at success
        obtain ⟨_, _, _, rfl⟩ := success
        exact .inr ⟨_, rfl, provisioningClaim_dresses workspace token _ inFlight⟩
    · simp only [bind_eq_ok] at success
      obtain ⟨_, _, success⟩ := success
      split at success
      · simp only [return_eq_ok] at success
        exact .inl success.2.symm
      · simp only [bind_eq_ok, return_eq_ok] at success
        obtain ⟨_, _, _, rfl⟩ := success
        exact .inr ⟨_, rfl, provisioningClaim_dresses workspace token _ inFlight⟩

theorem openOperation_frame (request : LifecycleRequest) (operationId : Uuid) (target : Nat)
    (phase : WorkspaceProvisioningPhase) (workspace opened : Workspace)
    (success : openOperation request operationId target phase workspace = .ok opened) :
    opened.provisioningPhase = phase ∧
      opened.runtimeOperationId = workspace.runtimeOperationId ∧
      opened.runtimeOperationState = workspace.runtimeOperationState := by
  simp only [openOperation, bind_eq_ok] at success
  obtain ⟨advanced, advances, success⟩ := success
  rw [advanceRuntimeStartEpochLocked_eq_ok] at advances
  obtain ⟨_, rfl⟩ := advances
  split at success <;> simp only [pure_eq_ok] at success <;> subst success <;>
    exact ⟨rfl, rfl, rfl⟩

section

variable (operation : Operation D) (now : Instant) (id : Uuid) (request : LifecycleRequest)

theorem openAndJoin_moves
    (phase : WorkspaceProvisioningPhase) (workspace opened : Workspace) (reply : LifecycleReply)
    (store : PowerDb D) (db : Db D) (numbered : store.db.WorkspacesNumbered)
    (stored : store.db.workspaces.lookup id = some workspace)
    (idle : workspace.provisioningPhase = .idle) (inFlight : phase.isInFlight = true)
    (written : openOperation request store.db.supply (workspace.machineGeneration + 1) phase
      workspace = .ok opened)
    (success : joinOperation now id (store.db.supply + 1) request opened
      ((store.db.draw.draw.forgetMaterializations id).putWorkspace id opened) = .ok (reply, db)) :
    store.Moves (.caller operation) { store with db := db } := by
  obtain ⟨atPhase, sameOperation, state⟩ :=
    openOperation_frame request store.db.supply _ phase workspace opened written
  have tracks : ∀ later : Workspace, opened.Dresses later → ∀ intent,
      workspace.Tracks intent → later.Tracks intent := by
    rintro later dressing intent ⟨coalesced, named, waking⟩
    refine Workspace.Tracks.dressed ⟨?_, ?_, ?_⟩ dressing
    · rw [sameOperation]
      exact coalesced
    · rw [sameOperation]
      exact named
    · rw [state]
      exact waking
  have supply : store.db.supply ≤ store.db.supply + 1 + 1 := by omega
  rcases joinOperation_dresses now id _ request opened reply _ db (by rw [atPhase]; exact inFlight)
      success with rfl | ⟨later, rfl, dressing⟩
  · exact .of_row (.inl ⟨operation, rfl⟩) numbered id workspace opened stored rfl supply
      (.opens request store.db.supply phase opened (.first _) idle inFlight written
        (.refl opened)) (.kept (tracks opened (.refl opened)))
  · refine .of_row (.inl ⟨operation, rfl⟩) numbered id workspace later stored ?_ supply
      (.opens request store.db.supply phase opened (.first _) idle inFlight written dressing)
      (.kept (tracks later dressing))
    rw [Db.putWorkspace_again]
    rfl

theorem claimOrWait_moves
    (proofHolds : Bool) (reply : LifecycleReply) (store : PowerDb D) (db : Db D)
    (numbered : store.db.WorkspacesNumbered)
    (success : claimOrWait now id request proofHolds store.db = .ok (reply, db)) :
    store.Moves (.caller operation) { store with db := db } := by
  simp only [claimOrWait, bind_eq_ok, orRaise_eq_ok, require_eq_ok] at success
  obtain ⟨workspace, stored, _, notFailed, success⟩ := success
  have supply : store.db.supply ≤ store.db.supply + 1 + 1 := by omega
  split at success
  · next active =>
    have inFlight : workspace.provisioningPhase.isInFlight = true := by
      revert notFailed active
      cases workspace.provisioningPhase <;> simp [WorkspaceProvisioningPhase.isInFlight]
    rcases joinOperation_dresses now id _ request workspace reply _ db inFlight success with
      rfl | ⟨later, rfl, dressing⟩
    · exact .of_same numbered rfl supply fun _ _ stored _ => stored
    · exact .of_put numbered id workspace later stored rfl supply (.dressed dressing)
        (.dressed dressing)
  · next isIdle =>
    have idle : workspace.provisioningPhase = .idle := not_not.mp isIdle
    split at success
    · split at success
      · cases success
        exact .refl numbered
      · simp only [bind_eq_ok] at success
        obtain ⟨opened, opens, success⟩ := success
        have none : workspace.machineGeneration = 0 := by omega
        exact openAndJoin_moves operation now id .ensure .appReady workspace opened reply store db numbered
          stored idle rfl (by rw [none]; exact opens) success
    · split at success
      · simp only [bind_eq_ok, return_eq_ok] at success
        obtain ⟨_, _, _, rfl⟩ := success
        exact .refl numbered
      · simp only [bind_eq_ok] at success
        obtain ⟨_, _, opened, opens, success⟩ := success
        exact openAndJoin_moves operation now id (.replace _) .oldMachineStopped workspace opened reply store
          db numbered stored idle rfl opens success

end

theorem casPhase_moves (id operation token : Uuid) (phase : WorkspaceProvisioningPhase)
    (updates : PhaseUpdates) (answer : Unit) (store : PowerDb D) (db : Db D)
    (numbered : store.db.WorkspacesNumbered)
    (isFleetCall : (phase.isInFlight && updates.areNonempty) = true)
    (success : casPhase id operation token phase updates store.db = .ok (answer, db)) :
    store.Moves actor { store with db := db } := by
  simp only [casPhase, bind_eq_ok, return_eq_ok] at success
  obtain ⟨workspace, claimed, _, rfl⟩ := success
  obtain ⟨stored, _, holds⟩ :=
    claimedWorkspace_lookup store.db claimed
  obtain ⟨inFlight, nonempty⟩ := (Bool.and_eq_true _ _).mp isFleetCall
  exact .of_put numbered id workspace _ stored rfl (Nat.le_refl _)
    (.movesPhase phase updates inFlight nonempty (by rw [holds]; rfl) rfl)
    (.kept (by
      rintro _ ⟨coalesced, named, waking⟩
      exact ⟨coalesced, named, waking⟩))

theorem bindIdle_moves (now : Instant) (id operation token : Uuid) (machineRef : String)
    (images : Images) (answer : Unit) (store : PowerDb D) (db : Db D)
    (numbered : store.db.WorkspacesNumbered) (nonempty : machineRef ≠ "")
    (success : bindIdle now id operation token machineRef images store.db = .ok (answer, db)) :
    store.Moves actor { store with db := db } := by
  simp only [bindIdle, bind_eq_ok, require_eq_ok, return_eq_ok] at success
  obtain ⟨workspace, claimed, _, complete, _, rfl⟩ := success
  obtain ⟨stored, _, holds⟩ :=
    claimedWorkspace_lookup store.db claimed
  refine .of_put numbered id workspace _ stored rfl (Nat.le_succ _)
    (.binds now store.db.supply machineRef images (.only _) nonempty (by rw [holds]; rfl)
      complete rfl) (.kept ?_)
  rintro intent ⟨coalesced, named, _⟩
  obtain ⟨current, isCurrent⟩ := Option.isSome_iff_exists.mp named
  refine ⟨?_, rfl, rfl⟩
  rw [coalesced, isCurrent]
  simp

theorem handleFailure_moves (id operation token : Uuid) (retryable : Bool) (answer : Unit)
    (store : PowerDb D) (db : Db D) (numbered : store.db.WorkspacesNumbered)
    (success : handleFailure id operation token retryable store.db = .ok (answer, db)) :
    store.Moves (.caller (.handleFailure id operation token retryable))
      { store with db := db } := by
  simp only [handleFailure, bind_eq_ok, orRaise_eq_ok] at success
  obtain ⟨workspace, stored, success⟩ := success
  split at success
  · next owns =>
    cases success
    exact .of_put numbered id workspace _ stored rfl (Nat.le_refl _)
      (.givesUp operation token retryable rfl (by rw [owns.2]; rfl) rfl)
      (.kept (by
        rintro _ ⟨coalesced, named, waking⟩
        exact ⟨coalesced, named, waking⟩))
  · cases success
    exact .refl numbered

end Lifecycle

/-! ## Calls of the system -/

/-- The calls that rewrite a Workspace row only to advance its activity or to wake it. -/
def Operation.isRowQuiet : Operation D → Bool
  | .claimOrWait _ _ _ | .casPhase _ _ _ _ _ | .bindIdle _ _ _ _ _ | .handleFailure _ _ _ _
  | .maintainWorkspace _ _ | .acceptRuntimeReadiness _ _ _ _ => false
  | _ => true

variable {start : Db D}

theorem WorkspaceStep.woken {env : Env D} {call : Call D} {db : Db D} {id : Uuid}
    {workspace later : Workspace} (quiet : call.operation.isRowQuiet = true)
    (step : WorkspaceStep env call start db id workspace later) :
    workspace.Woken start.supply db.supply later := by
  cases step with
  | activity =>
    exact .dressed ⟨rfl, rfl, Nat.le_refl _, fun known => known, rfl, rfl, rfl, rfl, rfl, rfl,
      .inl, rfl, rfl, rfl, rfl, .inl rfl⟩
  | wake operationId _ drawn wakes =>
    exact requestExecutionWakeLocked_woken env call.now start.supply db.supply operationId
      workspace later drawn wakes
  | joins _ _ _ asked | opens _ _ _ _ _ asked | phase _ _ _ _ asked | binds _ _ _ _ _ asked
  | gaveUp _ _ _ asked | ready _ _ _ _ asked | maintain _ _ asked =>
    rw [asked] at quiet
    cases quiet

section Calls

variable [DecidableEq D] {env : Env D} {call : Call D} {actor : Actor D}

theorem Write.workspaceOrigin {db next : Db D} (write : Write env call start db next)
    (Related : Workspace → Workspace → Prop)
    (reflexive : ∀ workspace, Related workspace workspace)
    (step : ∀ id workspace later, WorkspaceStep env call start db id workspace later →
      Related workspace later)
    (id : Uuid) (later : Workspace) (stored : next.workspaces.lookup id = some later) :
    (∃ workspace, db.workspaces.lookup id = some workspace ∧ Related workspace later) ∨
      ∃ tenantRef, Related (Workspace.registered tenantRef) later := by
  have written : ∀ target workspace written, db.workspaces.lookup target = some workspace →
      Related workspace written →
      (db.workspaces.insert target written).lookup id = some later →
      ∃ workspace, db.workspaces.lookup id = some workspace ∧ Related workspace later := by
    intro target workspace written known related found
    rw [Table.lookup_insert_eq] at found
    split at found
    · next same =>
      rw [Option.some.injEq] at found
      subst same found
      exact ⟨workspace, known, related⟩
    · exact ⟨later, found, reflexive later⟩
  cases write with
  | registerWorkspace tenantRef =>
    simp only [Db.putWorkspace, Db.draw] at stored
    rw [Table.lookup_insert_eq] at stored
    split at stored
    · rw [Option.some.injEq] at stored
      subst stored
      exact .inr ⟨tenantRef, reflexive _⟩
    · exact .inl ⟨later, stored, reflexive later⟩
  | workspace target workspace moved known steps =>
    exact .inl (written target workspace moved known (step target workspace moved steps) stored)
  | decideApproval _ _ _ _ decides =>
    obtain ⟨_, rfl⟩ := recordApprovalDecision_frame decides
    exact .inl ⟨later, stored, reflexive later⟩
  | compareAndSet _ _ _ _ _ _ _ sets =>
    obtain ⟨_, rfl⟩ := compareAndSetSession_frame sets
    exact .inl ⟨later, stored, reflexive later⟩
  | purge workspaceId _ workspace _ _ service known _ _ _ purges =>
    simp only [purgeProfile, bind_eq_ok, pure_eq_ok] at purges
    obtain ⟨_, _, _, _, rfl⟩ := purges
    exact .inl (written workspaceId workspace _ known
      (step workspaceId workspace _ (.activity (by rw [service]; rfl))) stored)
  | _ => exact .inl ⟨later, stored, reflexive later⟩

theorem Workspace.Woken.dresses_registered {supply limit : Nat} {tenantRef : String}
    {later : Workspace} (woken : (Workspace.registered tenantRef).Woken supply limit later) :
    (Workspace.registered tenantRef).Dresses later := by
  cases woken with
  | dressed dressing => exact dressing
  | requested _ _ _ _ requestable =>
    exfalso
    rcases requestable.bound with positive | stopping | ⟨_, volume⟩
    · exact absurd positive (by simp [Workspace.registered])
    · cases stopping
    · cases volume

/-- What the writes of a quiet call make of the rows, and of those it registers. -/
structure RowsWoken (db next : Db D) : Prop where
  numbered : next.WorkspacesNumbered
  supply : db.supply ≤ next.supply
  row : ∀ id workspace, db.workspaces.lookup id = some workspace →
    ∃ later, next.workspaces.lookup id = some later ∧
      workspace.Woken db.supply next.supply later
  new : ∀ id later, next.workspaces.lookup id = some later → db.workspaces.lookup id = none →
    ∃ tenantRef, (Workspace.registered tenantRef).Woken db.supply next.supply later

theorem Evolution.rowsWoken {next : Db D} (quiet : call.operation.isRowQuiet = true)
    (numbered : start.WorkspacesNumbered) (evolution : Evolution env call start start next) :
    RowsWoken start next := by
  induction evolution with
  | refl =>
    refine ⟨numbered, Nat.le_refl _, ?_, ?_⟩
    · intro id workspace stored
      exact ⟨workspace, stored, .dressed (.refl workspace)⟩
    · intro id later stored unknown
      rw [unknown] at stored
      cases stored
  | @tail middle last _ write ih =>
    have grows : middle.supply ≤ last.supply := write.units.supply
    have steps : ∀ id workspace later,
        WorkspaceStep env call start middle id workspace later →
        workspace.Woken start.supply last.supply later :=
      fun _ _ _ step => (step.woken quiet).mono grows
    obtain ⟨numberedAfter, continues⟩ := write.workspacesContinue
      (Workspace.Woken start.supply last.supply) (fun workspace => .dressed (.refl workspace))
      steps ih.numbered
    refine ⟨numberedAfter, Nat.le_trans ih.supply grows, ?_, ?_⟩
    · intro id workspace stored
      obtain ⟨between, found, earlier⟩ := ih.row id workspace stored
      obtain ⟨later, present, wakes⟩ := continues id between found
      exact ⟨later, present, (earlier.mono grows).trans wakes⟩
    · intro id later stored unknown
      rcases write.workspaceOrigin (Workspace.Woken start.supply last.supply)
          (fun workspace => .dressed (.refl workspace)) steps id later stored with
        ⟨between, found, wakes⟩ | registered
      · obtain ⟨tenantRef, earlier⟩ := ih.new id between found unknown
        exact ⟨tenantRef, (earlier.mono grows).trans wakes⟩
      · exact registered

section

variable (call : Call D) (reply : Reply D) (store : PowerDb D) (db : Db D)
  (numbered : store.db.WorkspacesNumbered)

include numbered

theorem quiet_moves (quiet : call.operation.isRowQuiet = true)
    (success : apply env call store.db = .ok (reply, db)) :
    store.Moves (.caller call.operation) { store with db := db } := by
  have evolution := apply_evolution env call store.db db reply success
  have woken := evolution.rowsWoken quiet numbered
  refine ⟨.inl ⟨call.operation, rfl⟩, woken.supply, woken.numbered, ?_, ?_, ?_⟩
  · intro id workspace stored
    obtain ⟨later, found, wakes⟩ := woken.row id workspace stored
    exact ⟨later, found, .woken wakes⟩
  · intro id later stored unknown
    obtain ⟨tenantRef, registered⟩ := woken.new id later stored unknown
    exact ⟨tenantRef, registered.dresses_registered⟩
  · intro key intent stored _
    refine .inl ⟨stored, ?_⟩
    intro workspace found tracks
    obtain ⟨later, present, wakes⟩ := woken.row key.1 workspace found
    exact ⟨later, present, wakes.tracks intent tracks⟩

theorem service_moves (isFleetCall : call.operation.isFleetCall = true)
    (success : apply env call store.db = .ok (reply, db)) :
    store.Moves (.caller call.operation) { store with db := db } := by
  by_cases quiet : call.operation.isRowQuiet = true
  · exact quiet_moves call reply store db numbered quiet success
  · obtain ⟨now, operation⟩ := call
    cases operation <;> first | exact absurd rfl quiet | skip
    all_goals
      simp only [apply] at success
      obtain ⟨value, success, _⟩ := (reply_eq_ok _ _ _ _).mp success
    case claimOrWait => exact claimOrWait_moves _ now _ _ _ value store db numbered success
    case casPhase => exact casPhase_moves _ _ _ _ _ value store db numbered isFleetCall success
    case bindIdle =>
      exact bindIdle_moves now _ _ _ _ _ value store db numbered (of_decide_eq_true isFleetCall)
        success
    case handleFailure => exact handleFailure_moves _ _ _ _ value store db numbered success
    case maintainWorkspace => cases isFleetCall
    case acceptRuntimeReadiness => cases isFleetCall

end

end Calls

/-! ## Workers -/

section Work

variable {store next : PowerDb D}

theorem PowerDb.Moves.of_answer {actor : Actor D} {point later : Option Point}
    (numbered : store.db.WorkspacesNumbered) (success : some (point, store) = some (later, next)) :
    store.Moves actor next := by
  obtain ⟨_, rfl⟩ := Prod.mk.inj (Option.some.inj success)
  exact .refl numbered

theorem advance_moves (env : Env D) (settings : PowerSettings) (clock : Instant)
    (input : PowerInput) (worker : PowerWorker) (point : Option Point)
    (numbered : store.db.WorkspacesNumbered)
    (success : worker.advance env settings clock input store = some (point, next)) :
    store.Moves (.worker worker.point) next := by
  obtain ⟨now, at_⟩ := worker
  cases at_ <;> cases input <;> simp only [PowerWorker.advance] at success
  all_goals first | cases success; done | skip
  case claimRequested.go id =>
    obtain ⟨_, rfl⟩ := Prod.mk.inj (Option.some.inj success)
    exact claimRequestedOperation_moves env now id numbered
  case claimIdle.go id =>
    obtain ⟨_, rfl⟩ := Prod.mk.inj (Option.some.inj success)
    exact claimIdleOperation_moves settings now id numbered
  case clearExpired.go id selected =>
    obtain ⟨_, rfl⟩ := Prod.mk.inj (Option.some.inj success)
    exact clearExpiredOperation_moves env now id numbered
  case recoverStartAsAwaiting.go claim =>
    obtain ⟨_, rfl⟩ := Prod.mk.inj (Option.some.inj success)
    exact recoverStartAsAwaiting_moves claim numbered
  case recoverStartAsRequested.go claim =>
    obtain ⟨_, rfl⟩ := Prod.mk.inj (Option.some.inj success)
    exact recoverStartAsRequested_moves claim numbered
  case recoverStopAsClaimed.go claim =>
    obtain ⟨_, rfl⟩ := Prod.mk.inj (Option.some.inj success)
    exact recoverStopAsClaimed_moves now claim numbered
  case expireReadiness.go id =>
    obtain ⟨_, rfl⟩ := Prod.mk.inj (Option.some.inj success)
    exact expireUnacknowledgedReadiness_moves env settings now id numbered
  case markFailed.go claim retryExecution clearKeepWarm =>
    obtain ⟨_, rfl⟩ := Prod.mk.inj (Option.some.inj success)
    exact markOperationFailed_moves env now retryExecution clearKeepWarm claim numbered
  case recordCurrent.go id wake machine images =>
    obtain ⟨_, rfl⟩ := Prod.mk.inj (Option.some.inj success)
    exact recordAppliedImages_moves id machine images numbered
  case releaseClaim.go id wake token raised =>
    obtain ⟨_, rfl⟩ := Prod.mk.inj (Option.some.inj success)
    exact releaseActivationClaim_moves id token numbered (.inr ⟨wake, raised, rfl⟩)
  case activating.go id token =>
    obtain ⟨_, rfl⟩ := Prod.mk.inj (Option.some.inj success)
    exact releaseActivationClaim_moves id token numbered (.inl rfl)
  case releaseOnWake.go frame =>
    split at success
    · exact .of_answer numbered success
    · next images _ =>
      obtain ⟨_, rfl⟩ := Prod.mk.inj (Option.some.inj success)
      exact recordAppliedImages_moves frame.claim.workspace frame.machine images numbered
  case prepareStart.go frame =>
    split at success
    · exact .of_answer numbered success
    · next prepares =>
      obtain ⟨_, rfl⟩ := Prod.mk.inj (Option.some.inj success)
      exact prepareStart_moves now frame numbered prepares
  case markAwaiting.go claim =>
    split at success
    · exact .of_answer numbered success
    · next marks =>
      obtain ⟨_, rfl⟩ := Prod.mk.inj (Option.some.inj success)
      exact markAwaitingReadiness_moves claim numbered marks
  case prepareStop.go claim workspace isStopped =>
    split at success
    · exact .of_answer numbered success
    · next prepares =>
      obtain ⟨_, rfl⟩ := Prod.mk.inj (Option.some.inj success)
      exact prepareStop_moves settings now claim numbered prepares
  case finalizeStop.go claim =>
    split at success
    · exact .of_answer numbered success
    · next finalizes =>
      obtain ⟨_, rfl⟩ := Prod.mk.inj (Option.some.inj success)
      exact finalizeStop_moves claim numbered finalizes
  case recoverStopAsFinished.go claim =>
    split at success
    · exact .of_answer numbered success
    · next finishes =>
      obtain ⟨_, rfl⟩ := Prod.mk.inj (Option.some.inj success)
      exact recoverStopAsFinished_moves claim numbered finishes
  case claimRelease.go id wake machine images =>
    split at success
    · exact .of_answer numbered success
    · exact .of_answer numbered success
    · next claims =>
      obtain ⟨_, rfl⟩ := Prod.mk.inj (Option.some.inj success)
      exact claimRelease_moves settings clock id machine images _ _ numbered claims
  case claimActivation.go id =>
    split at success
    · exact .of_answer numbered success
    · next claims =>
      obtain ⟨_, rfl⟩ := Prod.mk.inj (Option.some.inj success)
      exact claimActivation_moves clock id _ numbered claims
  case activating.observed id token binding =>
    split at success
    · exact .of_answer numbered success
    · next wakes =>
      obtain ⟨_, rfl⟩ := Prod.mk.inj (Option.some.inj success)
      exact requestActivationRecoveryWake_moves env clock id token binding _ numbered wakes
  -- The other points read, or call the provider.
  all_goals
    repeat' split at success
    all_goals exact .of_answer numbered success

end Work

/-! ## Events -/

section Fleets

def FleetEvent.actor (fleet : Fleet D) : FleetEvent D → Actor D
  | .service call => .caller call.operation
  | .readiness _ context bootId generation startEpoch =>
    .runtime context bootId generation startEpoch
  | .work _ worker _ =>
    match fleet.workers.lookup worker with
    | some current => .worker current.point
    | none => .other
  | _ => .other

variable {event : FleetEvent D} {fleet : Fleet D}

theorem FleetEvent.actor_eq_worker {point : Point}
    (acts : event.actor fleet = .worker point) :
    ∃ clock number input worker, event = .work clock number input ∧
      fleet.workers.lookup number = some worker ∧ worker.point = point := by
  cases event with
  | work clock number input =>
    simp only [FleetEvent.actor] at acts
    split at acts
    · next current known =>
      cases acts
      exact ⟨clock, number, input, current, rfl, known, rfl⟩
    · cases acts
  | _ => cases acts

theorem FleetEvent.actor_eq_caller
    {operation : Operation D} (acts : event.actor fleet = .caller operation) :
    ∃ call, event = .service call ∧ call.operation = operation := by
  cases event with
  | service call =>
    cases acts
    exact ⟨call, rfl, rfl⟩
  | work =>
    simp only [FleetEvent.actor] at acts
    split at acts <;> cases acts
  | _ => cases acts

/-- Where a worker that is at work after an event comes from. -/
inductive WorkerOrigin (env : Env D) (settings : PowerSettings) (event : FleetEvent D)
    (fleet : Fleet D) (store : PowerDb D) (number : Nat) (worker : PowerWorker) : Prop
  | kept (known : fleet.workers.lookup number = some worker)
      (idle : ∀ clock input, event ≠ .work clock number input)
  | selected (now : Instant) (task : Task) (id : Uuid) (workspace : Workspace)
      (happens : event = .select now number task id) (same : store = fleet.store)
      (free : fleet.workers.lookup number = none)
      (stored : fleet.store.db.workspaces.lookup id = some workspace)
      (selects : task.selects settings now id workspace fleet.store.db = true)
      (started : worker = ⟨now, task.start id workspace⟩)
  | advanced (clock : Instant) (input : PowerInput) (current : PowerWorker)
      (happens : event = .work clock number input)
      (known : fleet.workers.lookup number = some current)
      (advances : current.advance env settings clock input fleet.store =
        some (some worker.point, store))
      (now : worker.now = current.now)

structure Fleet.Steps (env : Env D) (settings : PowerSettings) (event : FleetEvent D)
    (fleet next : Fleet D) : Prop where
  moves : fleet.store.Moves (event.actor fleet) next.store
  commits : next = fleet.commit next.store next.workers
  worker : ∀ number worker, next.workers.lookup number = some worker →
    WorkerOrigin env settings event fleet next.store number worker

theorem selectWorkspace_steps (env : Env D) (settings : PowerSettings) (now : Instant)
    (number : Nat) (task : Task) (id : Uuid) (fleet next : Fleet D)
    (numbered : fleet.store.db.WorkspacesNumbered)
    (success : selectWorkspace settings now number task id fleet = .ok next) :
    fleet.Steps env settings (.select now number task id) next := by
  simp only [selectWorkspace, bind_eq_ok, orRaise_eq_ok, require_eq_ok, pure_eq_ok] at success
  obtain ⟨workspace, stored, _, free, _, selects, rfl⟩ := success
  refine ⟨.refl numbered, rfl, ?_⟩
  intro other worker found
  simp only [Fleet.commit] at found
  rw [Table.lookup_insert_eq] at found
  split at found
  · next same =>
    rw [Option.some.injEq] at found
    subst same
    exact .selected now task id workspace rfl rfl free stored selects found.symm
  · exact .kept found (by rintro _ _ ⟨⟩)

theorem workStep_steps (env : Env D) (settings : PowerSettings) (clock : Instant) (number : Nat)
    (input : PowerInput) (fleet next : Fleet D) (numbered : fleet.store.db.WorkspacesNumbered)
    (success : workStep env settings clock number input fleet = .ok next) :
    fleet.Steps env settings (.work clock number input) next := by
  simp only [workStep, bind_eq_ok, orRaise_eq_ok] at success
  obtain ⟨current, known, ⟨point, store⟩, advances, success⟩ := success
  have moves := advance_moves env settings clock input current point numbered advances
  have acts : FleetEvent.actor fleet (.work clock number input) = .worker current.point := by
    simp only [FleetEvent.actor, known]
  have idle : ∀ other, other ≠ number → ∀ clock' input',
      (FleetEvent.work clock number input : FleetEvent D) ≠ .work clock' other input' := by
    intro other different clock' input' same
    cases same
    exact different rfl
  cases point with
  | some =>
    cases success
    refine ⟨by rw [acts]; exact moves, rfl, ?_⟩
    intro other worker found
    simp only [Fleet.commit] at found
    rw [Table.lookup_insert_eq] at found
    split at found
    · next same =>
      rw [Option.some.injEq] at found
      subst same found
      exact .advanced clock input current rfl known advances rfl
    · next different => exact .kept found (idle other different)
  | none =>
    cases success
    refine ⟨by rw [acts]; exact moves, rfl, ?_⟩
    intro other worker found
    simp only [Fleet.commit] at found
    by_cases same : other = number
    · subst same
      rw [AList.lookup_erase] at found
      cases found
    · rw [AList.lookup_erase_ne same] at found
      exact .kept found (idle other same)

variable [DecidableEq D]

section

variable (env : Env D) (settings : PowerSettings) (event : FleetEvent D)

theorem commitEvent_moves
    (fleet : Fleet D) (reply : FleetReply D) (next : PowerDb D)
    (numbered : fleet.store.db.WorkspacesNumbered)
    (working : ∀ clock number input, event ≠ .work clock number input)
    (success : commitEvent env settings event fleet.store = .ok (reply, next)) :
    fleet.store.Moves (event.actor fleet) next := by
  cases event with
  | service call =>
    simp only [commitEvent, bind_eq_ok, require_eq_ok, return_eq_ok] at success
    obtain ⟨_, isFleetCall, ⟨answer, db⟩, applied, _, rfl⟩ := success
    exact service_moves call answer fleet.store db numbered isFleetCall applied
  | readiness now context bootId generation startEpoch =>
    simp only [commitEvent, bind_eq_ok, return_eq_ok] at success
    obtain ⟨_, settles, _, rfl⟩ := success
    exact settleRuntimeReadiness_moves now context bootId generation startEpoch numbered settles
  | intent now workspace key intentType receivedAt =>
    simp only [commitEvent, bind_eq_ok, return_eq_ok] at success
    obtain ⟨⟨receipt, _⟩, requests, _, rfl⟩ := success
    exact requestRuntimeIntent_moves env settings now workspace key intentType receivedAt receipt
      numbered requests
  | cleanupIntents now limit =>
    simp only [commitEvent, return_eq_ok] at success
    obtain ⟨_, rfl⟩ := success
    exact cleanupRuntimeIntents_moves now limit numbered
  | publicationWake now workspace =>
    simp only [commitEvent, bind_eq_ok, return_eq_ok] at success
    obtain ⟨_, wakes, _, rfl⟩ := success
    exact wakePublicationWorkspace_moves env now workspace numbered wakes
  | assign now workspace tenantRef sleeping bundleIsEligible =>
    simp only [commitEvent, bind_eq_ok, return_eq_ok] at success
    obtain ⟨_, assigns, _, rfl⟩ := success
    exact assignReadyWorkspace_moves env now workspace tenantRef sleeping bundleIsEligible numbered
      assigns
  | enableRoutineAdmission now workspace releaseDigest generation startEpoch =>
    simp only [commitEvent, bind_eq_ok, return_eq_ok] at success
    obtain ⟨_, enables, _, rfl⟩ := success
    exact enableRoutineAdmission_moves env now workspace releaseDigest generation startEpoch
      numbered enables
  | disableRoutineAdmission workspace =>
    simp only [commitEvent, bind_eq_ok, return_eq_ok] at success
    obtain ⟨_, disables, _, rfl⟩ := success
    exact disableRoutineAdmission_moves workspace numbered disables
  | select =>
    simp only [commitEvent, return_eq_ok] at success
    obtain ⟨_, rfl⟩ := success
    exact .refl numbered
  | work clock worker input => exact absurd rfl (working clock worker input)

theorem applyEvent_steps
    (fleet next : Fleet D) (reply : FleetReply D) (numbered : fleet.store.db.WorkspacesNumbered)
    (success : applyEvent env settings event fleet = .ok (reply, next)) :
    fleet.Steps env settings event next := by
  have committed : (∀ clock number input, event ≠ .work clock number input) →
      (∃ store, commitEvent env settings event fleet.store = .ok (reply, store) ∧
        fleet.commit store fleet.workers = next) → fleet.Steps env settings event next := by
    rintro working ⟨store, commits, rfl⟩
    refine ⟨commitEvent_moves env settings event fleet reply store numbered working commits, rfl, ?_⟩
    intro number worker found
    exact .kept found fun clock input => working clock number input
  cases event with
  | select now number task id =>
    simp only [applyEvent, bind_eq_ok, return_eq_ok] at success
    obtain ⟨_, selects, _, rfl⟩ := success
    exact selectWorkspace_steps env settings now number task id fleet _ numbered selects
  | work clock number input =>
    simp only [applyEvent, bind_eq_ok, return_eq_ok] at success
    obtain ⟨_, works, _, rfl⟩ := success
    exact workStep_steps env settings clock number input fleet _ numbered works
  | _ =>
    simp only [applyEvent, bind_eq_ok, return_eq_ok] at success
    obtain ⟨⟨_, store⟩, commits, rfl, rfl⟩ := success
    exact committed (by rintro _ _ _ ⟨⟩) ⟨store, commits, rfl⟩

end

end Fleets

end Foundry
