import Foundry.Fleet.Claims
import Foundry.Properties.EpochFencing

/-!
# Claims of power workers

A step that a worker takes with a claim is a compare-and-set on the operation and the token of
the row, so a claim that was superseded writes nothing.  A wake that finds a stop in progress
requests a start under a new operation, which supersedes the stop; what is left of that stop
then changes nothing, unless a recovery that was selected for it takes up the row as it finds
it later.
-/

set_option autoImplicit false

namespace Foundry

open Raise

variable {D : Type}

/-! ## Stale claims -/

/-- The claim of the wake that a release attempt on the Workspace serves. -/
def WakeFrame.claimOn (id : Uuid) (wake : Option WakeFrame) : Option OperationClaim :=
  (wake.map WakeFrame.claim).filter fun claim => claim.workspace = id

/-- The claim with which a worker takes its step.  A release attempt that serves a wake is
under the claim of the wake until it has a claim of its own. -/
def Point.claim : Point → Option OperationClaim
  | .readForWake claim | .inspectForWake claim _ | .startMachine claim _
  | .inspectStarted claim _ | .markAwaiting claim | .readForStop claim | .inspectForStop claim _
  | .prepareStop claim _ _ | .stopMachine claim _ | .inspectStopped claim _
  | .finalizeStop claim | .inspectExpired claim _ | .recoverStartAsAwaiting claim
  | .recoverStartAsRequested claim | .recoverStopAsFinished claim | .recoverStopAsClaimed claim
  | .markFailed claim _ _ => some claim
  | .releaseOnWake frame | .prepareStart frame => some frame.claim
  | .readForRelease id wake | .inspectForRelease id wake _ _ | .recordCurrent id wake _ _
  | .claimRelease id wake _ _ => WakeFrame.claimOn id wake
  | .claimRequested _ | .claimIdle _ | .readExpired _ _ | .clearExpired _ _ | .expireReadiness _
  | .replaceMachine _ _ _ | .releaseClaim _ _ _ _ | .claimActivation _ | .activating _ _ => none

def OperationClaim.IsStale (claim : OperationClaim) (store : PowerDb D) : Prop :=
  ∀ workspace, store.db.workspaces.lookup claim.workspace = some workspace →
    claim.isCurrent workspace = false

variable {id : Uuid}

section Work

variable {store next : PowerDb D} {claim : OperationClaim}

section

variable (state : RuntimeOperationState) (stale : claim.IsStale store)

include stale

theorem ownedOperation_stale
    (workspace : Workspace) : ownedOperation claim state store ≠ .ok workspace := by
  intro owned
  obtain ⟨stored, current, _⟩ := (ownedOperation_eq_ok claim state store workspace).mp owned
  rw [stale workspace stored] at current
  cases current

theorem sameExpiredClaim_stale :
    sameExpiredClaim claim state store = none := by
  rw [sameExpiredClaim, Option.filter_eq_none_iff]
  intro workspace stored same
  have current := (of_decide_eq_true same).1
  rw [stale workspace stored] at current
  cases current

end

theorem markOperationFailed_stale (env : Env D) (now : Instant)
    (retryExecution clearKeepWarm : Bool) (stale : claim.IsStale store) :
    markOperationFailed env now claim retryExecution clearKeepWarm store = store := by
  unfold markOperationFailed
  split
  · next workspace found =>
    obtain ⟨stored, current⟩ := Option.filter_eq_some_iff.mp found
    rw [stale workspace stored] at current
    cases current
  · rfl

section

variable (stale : claim.IsStale store)

include stale

theorem recoverStartAsAwaiting_stale :
    recoverStartAsAwaiting claim store = store := by
  rw [recoverStartAsAwaiting, sameExpiredClaim_stale _ stale]

theorem recoverStartAsRequested_stale :
    recoverStartAsRequested claim store = store := by
  rw [recoverStartAsRequested, sameExpiredClaim_stale _ stale]

theorem recoverStopAsFinished_stale :
    recoverStopAsFinished claim store = .ok store := by
  rw [recoverStopAsFinished, sameExpiredClaim_stale _ stale]
  rfl

end

theorem recoverStopAsClaimed_stale (now : Instant) (stale : claim.IsStale store) :
    recoverStopAsClaimed now claim store = (none, store) := by
  rw [recoverStopAsClaimed, sameExpiredClaim_stale _ stale]

def PowerDb.KeepsPower (store next : PowerDb D) : Prop :=
  ∀ id workspace, store.db.workspaces.lookup id = some workspace →
    ∃ later, next.db.workspaces.lookup id = some later ∧ later.power = workspace.power

theorem PowerDb.KeepsPower.refl (store : PowerDb D) : store.KeepsPower store :=
  fun _ workspace stored => ⟨workspace, stored, rfl⟩

theorem recordAppliedImages_keepsPower (id : Uuid) (machine : MachineRecord) (images : Images) :
    store.KeepsPower (recordAppliedImages id machine images store) := by
  unfold recordAppliedImages
  split
  · next found =>
    obtain ⟨stored, _⟩ := Option.filter_eq_some_iff.mp found
    intro other row known
    simp only [PowerDb.putWorkspace, Db.putWorkspace, Table.lookup_insert_eq]
    split
    · next same =>
      rw [same, stored, Option.some.injEq] at known
      subst known
      exact ⟨_, rfl, rfl⟩
    · exact ⟨row, known, rfl⟩
  · exact .refl store

theorem claimRelease_stale (settings : PowerSettings) (now : Instant) (id : Uuid)
    (machine : Option MachineRecord) (images : Images) (wake : Option WakeFrame)
    (answer : Option Uuid × PowerDb D) (held : WakeFrame.claimOn id wake = some claim)
    (stale : claim.IsStale store) :
    claimRelease settings now id machine images (wake.map WakeFrame.claim) store ≠ .ok answer := by
  intro claims
  obtain ⟨serves, isNamed⟩ := Option.filter_eq_some_iff.mp held
  have named := of_decide_eq_true isNamed
  simp only [claimRelease, bind_eq_ok, orRaise_eq_ok, require_eq_ok] at claims
  obtain ⟨workspace, stored, _, _, _, owned, _⟩ := claims
  rw [serves, Option.all_some] at owned
  have current := (of_decide_eq_true owned).1
  rw [stale workspace (by rw [named]; exact stored)] at current
  cases current

/-! ## Points -/

variable {wake : Option WakeFrame}

theorem Point.claim_afterRelease (isCurrent : Bool)
    (point : Point) (held : WakeFrame.claimOn id wake = some claim)
    (reached : Point.afterRelease wake isCurrent = some point) : point.claim = some claim := by
  obtain ⟨serves, _⟩ := Option.filter_eq_some_iff.mp held
  cases wake with
  | none => cases serves
  | some => cases isCurrent <;> cases reached <;> exact serves

theorem Point.claim_afterReleaseRaised (raised : Raised)
    (point : Point) (held : WakeFrame.claimOn id wake = some claim)
    (reached : Point.afterReleaseRaised wake raised = some point) : point.claim = some claim := by
  obtain ⟨serves, _⟩ := Option.filter_eq_some_iff.mp held
  cases wake with
  | none => cases serves
  | some =>
    cases reached
    exact serves

theorem Point.claim_afterReleaseRead (env : Env D)
    (workspace : Workspace) (point : Point) (held : WakeFrame.claimOn id wake = some claim)
    (reached : Point.afterReleaseRead env id wake workspace = some point) :
    point.claim = some claim := by
  unfold afterReleaseRead at reached
  repeat' split at reached
  all_goals
    first
      | exact claim_afterReleaseRaised _ point held reached
      | cases reached; exact held

section

variable (claim : OperationClaim) (workspace : Workspace) (machine : MachineRecord)

theorem Point.claim_afterInspectedStop :
    (Point.afterInspectedStop claim workspace machine).claim = some claim := by
  unfold afterInspectedStop
  split <;> rfl

theorem Point.claim_afterInspectedExpired :
    (Point.afterInspectedExpired claim workspace machine).claim = some claim := by
  unfold afterInspectedExpired
  split <;> rfl

end

theorem Point.claim_afterWakeObserved (env : Env D) (settings : PowerSettings)
    (frame : WakeFrame) :
    (Point.afterWakeObserved env settings frame).1.claim = some frame.claim := by
  unfold afterWakeObserved
  repeat' split
  all_goals first | rfl | simp [Point.claim, WakeFrame.claimOn]

theorem advance_stale (env : Env D) (settings : PowerSettings) (clock : Instant)
    (input : PowerInput) (worker : PowerWorker) (point : Option Point)
    (held : worker.point.claim = some claim) (stale : claim.IsStale store)
    (success : worker.advance env settings clock input store = some (point, next)) :
    store.KeepsPower next ∧ ∀ reached, point = some reached → reached.claim = some claim := by
  obtain ⟨now, at_⟩ := worker
  cases at_ <;> cases input <;> simp only [PowerWorker.advance] at success
  all_goals first | cases success; done | skip
  all_goals first | cases held; done | skip
  case releaseOnWake.go frame =>
    cases held
    have kept := Point.claim_afterWakeObserved env settings frame
    split at success
    · next observed =>
      obtain ⟨rfl, rfl⟩ := Prod.mk.inj (Option.some.inj success)
      rw [observed] at kept
      refine ⟨.refl store, ?_⟩
      rintro reached ⟨rfl⟩
      exact kept
    · next observed =>
      obtain ⟨rfl, rfl⟩ := Prod.mk.inj (Option.some.inj success)
      rw [observed] at kept
      refine ⟨recordAppliedImages_keepsPower _ _ _, ?_⟩
      rintro reached ⟨rfl⟩
      exact kept
  case recordCurrent.go id wake machine images =>
    obtain ⟨rfl, rfl⟩ := Prod.mk.inj (Option.some.inj success)
    exact ⟨recordAppliedImages_keepsPower id machine images,
      fun reached => Point.claim_afterRelease true reached held⟩
  case claimRelease.go id wake machine images =>
    split at success
    · next raised _ =>
      obtain ⟨rfl, rfl⟩ := Prod.mk.inj (Option.some.inj success)
      exact ⟨.refl store, fun reached => Point.claim_afterReleaseRaised raised reached held⟩
    all_goals
      next claims =>
        exact absurd claims (claimRelease_stale settings clock id machine images wake _ held stale)
  case readForRelease.go id wake =>
    split at success <;> obtain ⟨rfl, rfl⟩ := Prod.mk.inj (Option.some.inj success)
    · exact ⟨.refl store, fun reached => Point.claim_afterReleaseRaised .other reached held⟩
    · next workspace _ =>
      exact ⟨.refl store, fun reached => Point.claim_afterReleaseRead env workspace reached held⟩
  case inspectForRelease.inspected id wake workspace images answer =>
    split at success
    · next raised _ =>
      obtain ⟨rfl, rfl⟩ := Prod.mk.inj (Option.some.inj success)
      exact ⟨.refl store, fun reached => Point.claim_afterReleaseRaised raised reached held⟩
    · split at success <;> obtain ⟨rfl, rfl⟩ := Prod.mk.inj (Option.some.inj success)
      all_goals
        refine ⟨.refl store, ?_⟩
        rintro reached ⟨rfl⟩
        exact held
  case recoverStopAsClaimed.go =>
    cases held
    rw [recoverStopAsClaimed_stale now stale, Option.map_none] at success
    obtain ⟨rfl, rfl⟩ := Prod.mk.inj (Option.some.inj success)
    refine ⟨.refl store, ?_⟩
    rintro reached ⟨⟩
  case recoverStartAsAwaiting.go | recoverStartAsRequested.go | recoverStopAsFinished.go =>
    cases held
    simp only [recoverStartAsAwaiting_stale stale, recoverStartAsRequested_stale stale,
      recoverStopAsFinished_stale stale] at success
    obtain ⟨rfl, rfl⟩ := Prod.mk.inj (Option.some.inj success)
    refine ⟨.refl store, ?_⟩
    rintro reached ⟨⟩
  case markFailed.go retryExecution clearKeepWarm =>
    cases held
    rw [markOperationFailed_stale env now retryExecution clearKeepWarm stale] at success
    obtain ⟨rfl, rfl⟩ := Prod.mk.inj (Option.some.inj success)
    refine ⟨.refl store, ?_⟩
    rintro reached ⟨⟩
  case prepareStart.go | markAwaiting.go | prepareStop.go | finalizeStop.go =>
    cases held
    split at success
    · obtain ⟨rfl, rfl⟩ := Prod.mk.inj (Option.some.inj success)
      refine ⟨.refl store, ?_⟩
      rintro reached ⟨rfl⟩
      rfl
    · next finishes =>
      simp only [prepareStart, markAwaitingReadiness, prepareStop, finalizeStop, bind_eq_ok] at finishes
      obtain ⟨workspace, owns, _⟩ := finishes
      exact absurd owns (ownedOperation_stale _ stale workspace)
  -- The other points read the row, or call the provider.
  all_goals
    cases held
    repeat' split at success
    all_goals
      obtain ⟨rfl, rfl⟩ := Prod.mk.inj (Option.some.inj success)
      refine ⟨.refl store, ?_⟩
      rintro reached ⟨rfl⟩
      first
        | rfl
        | exact Point.claim_afterInspectedStop _ _ _
        | exact Point.claim_afterInspectedExpired _ _ _

theorem clearExpiredOperation_unclaimed (env : Env D) (now : Instant) (id : Uuid)
    (unclaimed : ∀ workspace, store.db.workspaces.lookup id = some workspace →
      workspace.runtimeOperationState.isClaimed = false) :
    clearExpiredOperation env now id store = store := by
  unfold clearExpiredOperation
  split
  · next workspace found =>
    obtain ⟨stored, holds⟩ := Option.filter_eq_some_iff.mp found
    have state := unclaimed workspace stored
    rcases (of_decide_eq_true holds).2 with claimed | claimed <;> rw [claimed] at state <;>
      cases state
  · rfl

end Work

/-! ## Superseded operations -/

/-- The operation a worker serves: the one of its claim or, for a recovery that has no claim
yet, the one it was selected for. -/
def Point.operation : Point → Option (Uuid × Uuid)
  | .readExpired id selected | .clearExpired id selected =>
    selected.map fun operationId => (id, operationId)
  | point => point.claim.map fun claim => (claim.workspace, claim.operationId)

variable {point : Point}

theorem Point.operation_of_claim {claim : OperationClaim}
    (held : point.claim = some claim) :
    point.operation = some (claim.workspace, claim.operationId) := by
  cases point <;> first | cases held; done | simp only [Point.operation, held, Option.map_some]

theorem Point.operation_cases {operationId : Uuid}
    (serves : point.operation = some (id, operationId)) :
    (∃ claim, point.claim = some claim ∧ claim.workspace = id ∧
      claim.operationId = operationId) ∨
    point = .readExpired id (some operationId) ∨ point = .clearExpired id (some operationId) := by
  have expired : ∀ {target : Uuid} {selected : Option Uuid},
      selected.map (fun operationId => (target, operationId)) = some (id, operationId) →
      target = id ∧ selected = some operationId := by
    intro target selected same
    obtain ⟨found, isFound, pair⟩ := Option.map_eq_some_iff.mp same
    obtain ⟨rfl, rfl⟩ := Prod.mk.inj pair
    exact ⟨rfl, isFound⟩
  cases held : point.claim with
  | some claim =>
    rw [Point.operation_of_claim held, Option.some.injEq, Prod.mk.injEq] at serves
    exact .inl ⟨claim, rfl, serves⟩
  | none =>
    cases point with
    | readExpired =>
      obtain ⟨rfl, rfl⟩ := expired serves
      exact .inr (.inl rfl)
    | clearExpired =>
      obtain ⟨rfl, rfl⟩ := expired serves
      exact .inr (.inr rfl)
    | _ =>
      simp only [Point.operation, held, Option.map_none] at serves
      cases serves

/-- A recovery finds the row under the operation it was selected for: one that reads the row
finds that operation or no claim to take up, and one that clears it finds that operation or
no start or stop in progress. -/
structure RecoversSelected (fleet : Fleet D) (event : FleetEvent D) : Prop where
  reads : ∀ clock number input worker id selected workspace, event = .work clock number input →
    fleet.workers.lookup number = some worker → worker.point = .readExpired id selected →
    fleet.store.db.workspaces.lookup id = some workspace →
    workspace.runtimeOperationId = selected ∨ workspace.expiredClaim id = none
  clears : ∀ clock number input worker id selected workspace, event = .work clock number input →
    fleet.workers.lookup number = some worker → worker.point = .clearExpired id selected →
    fleet.store.db.workspaces.lookup id = some workspace →
    workspace.runtimeOperationId = selected ∨ workspace.runtimeOperationState.isClaimed = false

/-- The worker serves an operation of the Workspace that the row does not name any more. -/
structure Fleet.Superseded (fleet : Fleet D) (number : Nat) (id operationId : Uuid) : Prop where
  drawn : operationId < fleet.store.db.supply
  row : ∃ workspace, fleet.store.db.workspaces.lookup id = some workspace ∧
    workspace.runtimeOperationId ≠ some operationId
  worker : ∃ worker, fleet.workers.lookup number = some worker ∧
    worker.point.operation = some (id, operationId)

section Work

variable {store next : PowerDb D}

theorem advance_superseded (env : Env D) (settings : PowerSettings) (clock : Instant)
    (input : PowerInput) (worker : PowerWorker) (point : Option Point) (id operationId : Uuid)
    (workspace : Workspace) (stored : store.db.workspaces.lookup id = some workspace)
    (superseded : workspace.runtimeOperationId ≠ some operationId)
    (serves : worker.point.operation = some (id, operationId))
    (reads : worker.point = .readExpired id (some operationId) →
      workspace.expiredClaim id = none)
    (clears : worker.point = .clearExpired id (some operationId) →
      workspace.runtimeOperationState.isClaimed = false)
    (success : worker.advance env settings clock input store = some (point, next)) :
    store.KeepsPower next ∧
      ∀ reached, point = some reached → reached.operation = some (id, operationId) := by
  rcases Point.operation_cases serves with ⟨claim, held, named, isOperation⟩ | reading | clearing
  · have stale : claim.IsStale store := by
      intro row found
      rw [named, stored, Option.some.injEq] at found
      subst found
      refine decide_eq_false fun current => superseded ?_
      rw [← isOperation]
      exact current.1
    obtain ⟨keeps, reaches⟩ :=
      advance_stale env settings clock input worker point held stale success
    refine ⟨keeps, ?_⟩
    intro reached same
    rw [Point.operation_of_claim (reaches reached same), named, isOperation]
  · have unclaimed := reads reading
    obtain ⟨now, at_⟩ := worker
    simp only at reading
    subst reading
    cases input with
    | go =>
      simp only [PowerWorker.advance, stored, unclaimed] at success
      obtain ⟨rfl, rfl⟩ := Prod.mk.inj (Option.some.inj success)
      refine ⟨.refl store, ?_⟩
      rintro reached ⟨rfl⟩
      rfl
    | _ => cases success
  · have unclaimed := clears clearing
    obtain ⟨now, at_⟩ := worker
    simp only at clearing
    subst clearing
    cases input with
    | go =>
      simp only [PowerWorker.advance] at success
      obtain ⟨rfl, rfl⟩ := Prod.mk.inj (Option.some.inj success)
      refine ⟨?_, ?_⟩
      · rw [clearExpiredOperation_unclaimed env now id]
        · exact .refl store
        · intro row found
          cases stored.symm.trans found
          exact unclaimed
      · rintro reached ⟨⟩
    | _ => cases success

end Work

variable {reply : FleetReply D}

section Fleets

variable {env : Env D} {settings : PowerSettings} {event : FleetEvent D} {fleet next : Fleet D}
  {number : Nat} {id operationId : Uuid}

theorem Fleet.Superseded.advanced (superseded : fleet.Superseded number id operationId)
    (clock : Instant) (input : PowerInput) (worker : PowerWorker) (point : Option Point)
    (store : PowerDb D) (known : fleet.workers.lookup number = some worker)
    (admitted : RecoversSelected fleet (.work clock number input))
    (success : worker.advance env settings clock input fleet.store = some (point, store)) :
    fleet.store.KeepsPower store ∧
      ∀ reached, point = some reached → reached.operation = some (id, operationId) := by
  obtain ⟨workspace, stored, other⟩ := superseded.row
  obtain ⟨current, found, serves⟩ := superseded.worker
  cases known.symm.trans found
  refine advance_superseded env settings clock input worker point id operationId workspace stored
    other serves ?_ ?_ success
  · intro reading
    exact (admitted.reads clock number input worker id (some operationId) workspace rfl known
      reading stored).resolve_left other
  · intro clearing
    exact (admitted.clears clock number input worker id (some operationId) workspace rfl known
      clearing stored).resolve_left other

theorem Fleet.Superseded.steps (superseded : fleet.Superseded number id operationId)
    (admitted : RecoversSelected fleet event) (steps : fleet.Steps env settings event next)
    (working : (next.workers.lookup number).isSome = true) :
    next.Superseded number id operationId := by
  obtain ⟨workspace, stored, other⟩ := superseded.row
  obtain ⟨later, found, move⟩ := steps.moves.row id workspace stored
  refine ⟨Nat.lt_of_lt_of_le superseded.drawn steps.moves.supply, ⟨later, found, ?_⟩, ?_⟩
  · intro named
    rcases move.operation_cases named with fresh | same
    · exact absurd superseded.drawn (Nat.not_lt.mpr fresh)
    · exact other same
  · obtain ⟨worker, known⟩ := Option.isSome_iff_exists.mp working
    refine ⟨worker, known, ?_⟩
    obtain ⟨current, before, serves⟩ := superseded.worker
    cases steps.worker number worker known with
    | kept kept =>
      cases before.symm.trans kept
      exact serves
    | selected _ _ _ _ _ _ free =>
      rw [before] at free
      cases free
    | advanced clock input former happens was advances =>
      subst happens
      exact (superseded.advanced clock input former (some worker.point) next.store was admitted
        advances).2 worker.point rfl

variable [DecidableEq D]

def AtWork (env : Env D) (settings : PowerSettings) (fleet : Fleet D)
    (events : List (FleetEvent D)) (number : Nat) : Prop :=
  ∀ earlier later, events = earlier ++ later →
    ((runFleet env settings fleet earlier).workers.lookup number).isSome = true

theorem Fleet.Superseded.run (events : List (FleetEvent D)) (sound : fleet.Sound)
    (superseded : fleet.Superseded number id operationId)
    (meets : Run.Meets (applyEvent env settings) RecoversSelected fleet events)
    (working : AtWork env settings fleet events number) :
    (runFleet env settings fleet events).Superseded number id operationId := by
  induction events generalizing fleet with
  | nil => exact superseded
  | cons event rest ih =>
    rw [runFleet, Run.run_cons]
    have still : AtWork env settings (Run.step (applyEvent env settings) fleet event) rest
        number := by
      intro earlier later same
      exact working (event :: earlier) later (by rw [same, List.cons_append])
    refine ih ?_ ?_ meets.2 still
    · exact runFleet_sound env settings fleet [event] sound
    · rcases Run.step_cases (applyEvent env settings) fleet event with
        ⟨reply, next, success, same⟩ | same
      · have steps := applyEvent_steps env settings event fleet next reply sound.numbered success
        have present := still [] rest rfl
        rw [same] at present ⊢
        exact superseded.steps meets.1 steps present
      · rw [same]
        exact superseded

theorem workEvent_advances {clock : Instant} {input : PowerInput}
    (success : applyEvent env settings (.work clock number input) fleet = .ok (reply, next)) :
    ∃ worker point, fleet.workers.lookup number = some worker ∧
      worker.advance env settings clock input fleet.store = some (point, next.store) := by
  simp only [applyEvent, workStep, bind_eq_ok, orRaise_eq_ok, return_eq_ok] at success
  obtain ⟨after, ⟨worker, known, ⟨point, store⟩, advances, commits⟩, _, rfl⟩ := success
  refine ⟨worker, point, known, ?_⟩
  cases point <;> simp only [pure_eq_ok] at commits <;> subst commits <;> exact advances

theorem Fleet.Superseded.keepsPower (superseded : fleet.Superseded number id operationId)
    (clock : Instant) (input : PowerInput)
    (admitted : RecoversSelected fleet (.work clock number input)) :
    fleet.store.KeepsPower
      (Run.step (applyEvent env settings) fleet (.work clock number input)).store := by
  rcases Run.step_cases (applyEvent env settings) fleet (.work clock number input) with
    ⟨reply, next, success, same⟩ | same
  · obtain ⟨worker, point, known, advances⟩ := workEvent_advances success
    rw [same]
    exact (superseded.advanced clock input worker point next.store known admitted advances).1
  · rw [same]
    exact .refl fleet.store

end Fleets

/-! ## Wakes -/

/-- The event accepts a wake of the Workspace: an intent that is told to wait for it, or one
of the two wakes of a transaction, which stores what they make of the row as the transaction
has it. -/
inductive AcceptsWake (env : Env D) (event : FleetEvent D) (reply : FleetReply D) (id : Uuid)
    (before after : Workspace) : Prop
  | intent (now : Instant) (key : Uuid) (intentType : RuntimeIntentType) (receivedAt : Instant)
      (receipt : RuntimeIntentReceipt) (happens : event = .intent now id key intentType receivedAt)
      (answers : reply = .intent receipt) (waking : receipt.status = .waking)
      (isNew : receipt.replayed = false)
  | execution (now : Instant) (operationId : Uuid) (row : Workspace)
      (state : row.runtimeOperationState = before.runtimeOperationState)
      (unready : isRuntimeReady env now row = false)
      (wakes : requestExecutionWakeLocked env now operationId row = .ok after)
  | onboarding (now : Instant) (operationId : Uuid) (row : Workspace) (store : PowerDb D)
      (state : row.runtimeOperationState = before.runtimeOperationState)
      (assigned : ((store.bundles.lookup id).any fun safeErrorCode =>
        !row.isPooled && safeErrorCode ≠ some "onboarding_wake_exhausted") = true)
      (wakes : after = requestOnboardingWakeLocked env now id operationId row store)

structure Workspace.AwaitsWorker (workspace : Workspace) : Prop where
  state : workspace.runtimeOperationState = .requested
  token : workspace.activationClaimToken = none

section Wakes

variable {store next : PowerDb D} {before after : Workspace} {id : Uuid}

theorem createIntent_stores {key : Uuid} {intent : RuntimeIntent} {receipt : RuntimeIntentReceipt}
    (creates : createIntent id key intent store = .ok (receipt, next)) :
    receipt.status = intent.outcome ∧ next.db = store.db := by
  simp only [createIntent, bind_eq_ok, return_eq_ok] at creates
  obtain ⟨_, _, rfl, rfl⟩ := creates
  exact ⟨rfl, rfl⟩

theorem wakeForIntent_stopping (env : Env D) (settings : PowerSettings) (now : Instant)
    (key : Uuid) (intentType : RuntimeIntentType) (received : Instant)
    (receipt : RuntimeIntentReceipt) (stopping : before.runtimeOperationState = .stopping)
    (success : wakeForIntent env settings now id key intentType received before store =
      .ok (receipt, next)) (waking : receipt.status = .waking)
    (written : next.db.workspaces.lookup id = some after) : after.AwaitsWorker := by
  simp only [wakeForIntent, stopping] at success
  repeat' split at success
  all_goals
    obtain ⟨status, same⟩ := createIntent_stores success
    rw [status] at waking
  case isFalse.isFalse.isFalse =>
    rw [same] at written
    cases Option.some.inj ((AList.lookup_insert _).symm.trans written)
    exact ⟨rfl, rfl⟩
  all_goals cases waking

section

variable (env : Env D) (now : Instant) (operationId : Uuid)
  (stopping : before.runtimeOperationState = .stopping)

include stopping

theorem requestExecutionWakeLocked_stopping
    (unready : isRuntimeReady env now before = false)
    (wakes : requestExecutionWakeLocked env now operationId before = .ok after) :
    after.AwaitsWorker := by
  have warm : isRuntimeReady env now (extendKeepWarm env now before) = false := unready
  have state : (extendKeepWarm env now before).runtimeOperationState = .stopping := stopping
  simp only [requestExecutionWakeLocked, warm, state, Bool.false_eq_true, if_false,
    pure_eq_ok] at wakes
  subst wakes
  exact ⟨rfl, rfl⟩

theorem requestOnboardingWakeLocked_stopping
    (assigned : ((store.bundles.lookup id).any fun safeErrorCode =>
      !before.isPooled && safeErrorCode ≠ some "onboarding_wake_exhausted") = true) :
    (requestOnboardingWakeLocked env now id operationId before store).AwaitsWorker := by
  simp only [requestOnboardingWakeLocked, assigned, Bool.true_eq_false, if_false, stopping]
  exact ⟨rfl, rfl⟩

end

theorem RowMove.requested_of_stopping {supply limit : Nat} {actor : Actor D}
    (move : RowMove supply limit id actor before after)
    (stopping : before.runtimeOperationState = .stopping)
    (requested : after.runtimeOperationState = .requested) :
    ∃ operationId, after.runtimeOperationId = some operationId ∧ supply ≤ operationId := by
  have differs : before.runtimeOperationState ≠ .requested := by
    rw [stopping]
    nofun
  cases move with
  | woken woken =>
    cases woken with
    | dressed dressing => exact absurd (dressing.state ▸ requested) differs
    | requested _ operationId _ fresh _ dressing =>
      refine ⟨operationId, ?_, fresh.1⟩
      rw [dressing.operation]
      unfold Workspace.requestedFrom
      split <;> rfl
  | preparesStart _ _ _ _ _ starting | marksAwaiting _ _ _ _ starting
  | recoversAwaiting _ _ _ _ starting | recoversRequested starting =>
    rw [stopping] at starting; cases starting
  | claimsStop _ _ _ _ _ idle => rw [stopping] at idle; cases idle
  | preparesStop _ _ _ _ advances written =>
    obtain ⟨_, rfl⟩ := advanceRuntimeStartEpochLocked_eq_ok.mp advances
    subst written
    exact absurd requested differs
  | retries _ operationId fresh _ _ written =>
    subst written
    exact ⟨operationId, rfl, fresh.1⟩
  | opens _ _ _ _ _ _ _ written dressing =>
    have same := (openOperation_power written).1
    rw [dressing.state, same] at requested
    exact absurd requested differs
  | ready _ _ _ _ _ _ _ _ written =>
    subst written
    simp only [Workspace.readied] at requested
    split at requested
    · cases requested
    · exact absurd requested differs
  | claimsActivation _ _ _ _ written | clearsClaim _ _ _ written | movesPhase _ _ _ _ _ written
  | givesUp _ _ _ _ _ written =>
    subst written
    exact absurd requested differs
  | claimsStart _ _ _ _ written | reclaimsStop _ _ _ _ _ _ written | stops _ written
  | finishesStop _ _ _ written | abandons _ written | resumesRelease _ _ _ _ _ _ _ written
  | pinsRelease _ _ _ _ _ _ _ _ _ _ _ written | binds _ _ _ _ _ _ _ _ written =>
    subst written
    cases requested

variable [DecidableEq D] {env : Env D} {settings : PowerSettings} {event : FleetEvent D}
  {fleet woken : Fleet D} {reply : FleetReply D}

theorem AcceptsWake.awaitsWorker (accepts : AcceptsWake env event reply id before after)
    (success : applyEvent env settings event fleet = .ok (reply, woken))
    (known : fleet.store.db.workspaces.lookup id = some before)
    (stored : woken.store.db.workspaces.lookup id = some after)
    (stopping : before.runtimeOperationState = .stopping) : after.AwaitsWorker := by
  cases accepts with
  | intent now key intentType receivedAt _ happens answers waking isNew =>
    subst happens answers
    simp only [applyEvent, commitEvent, requestRuntimeIntent, bind_eq_ok, orRaise_eq_ok,
      return_eq_ok] at success
    obtain ⟨⟨_, store⟩, ⟨⟨_, _⟩, ⟨row, found, requests⟩, rfl, rfl⟩, isReceipt, rfl⟩ := success
    cases isReceipt
    cases known.symm.trans found
    split at requests
    · simp only [bind_eq_ok, return_eq_ok] at requests
      obtain ⟨_, _, rfl, _⟩ := requests
      cases isNew
    · repeat' split at requests
      case isFalse.isFalse.isFalse =>
        exact wakeForIntent_stopping env settings now key intentType receivedAt _ stopping
          requests waking stored
      all_goals
        rw [(createIntent_stores requests).1] at waking
        cases waking
  | execution now operationId _ state unready wakes =>
    exact requestExecutionWakeLocked_stopping env now operationId (state.trans stopping) unready
      wakes
  | onboarding now operationId _ _ state assigned wakes =>
    rw [wakes]
    exact requestOnboardingWakeLocked_stopping env now operationId (state.trans stopping) assigned

end Wakes

/-! ## Runs -/

section Runs

variable [DecidableEq D]

/-- In every run in which a recovery finds the row under the operation it was selected for, a
step that a worker takes with a claim that is not the one of its Workspace writes no power
field; and a wake that is accepted while a stop is in progress requests a start under a new
operation, after which no step of a worker that served the stop writes a power field. -/
theorem runFleet_fences_claims (env : Env D) (settings : PowerSettings)
    (events : List (FleetEvent D))
    (meets : Run.Meets (applyEvent env settings) RecoversSelected Fleet.empty events) :
    (∀ clock number input worker claim reply next,
      (runFleet env settings Fleet.empty events).workers.lookup number = some worker →
      worker.point.claim = some claim →
      claim.IsStale (runFleet env settings Fleet.empty events).store →
      applyEvent env settings (.work clock number input)
        (runFleet env settings Fleet.empty events) = .ok (reply, next) →
      (runFleet env settings Fleet.empty events).store.KeepsPower next.store) ∧
    (∀ first wake rest reply woken id before after operationId,
      events = first ++ wake :: rest →
      applyEvent env settings wake (runFleet env settings Fleet.empty first) =
        .ok (reply, woken) →
      (runFleet env settings Fleet.empty first).store.db.workspaces.lookup id = some before →
      woken.store.db.workspaces.lookup id = some after →
      before.runtimeOperationState = .stopping →
      before.runtimeOperationId = some operationId →
      AcceptsWake env wake reply id before after →
      after.AwaitsWorker ∧ after.runtimeOperationId.isSome = true ∧
      after.runtimeOperationId ≠ some operationId ∧
      ∀ middle clock number input worker, rest = middle ++ [.work clock number input] →
        woken.workers.lookup number = some worker →
        worker.point.operation = some (id, operationId) →
        AtWork env settings woken middle number →
        (runFleet env settings woken middle).store.KeepsPower
          (runFleet env settings woken rest).store) := by
  constructor
  · intro clock number input worker claim reply next known held stale success
    obtain ⟨current, point, found, advances⟩ := workEvent_advances success
    cases known.symm.trans found
    exact (advance_stale env settings clock input worker point held stale advances).1
  · rintro first wake rest reply woken id before after operationId rfl success known stored stopping
      isStop accepts
    have sound := runFleet_sound env settings Fleet.empty first .empty
    have steps := applyEvent_steps env settings wake _ woken reply sound.numbered success
    have awaits := accepts.awaitsWorker success known stored stopping
    have drawn := (sound.row id before known).operationDrawn operationId isStop
    obtain ⟨moved, found, move⟩ := steps.moves.row id before known
    cases stored.symm.trans found
    obtain ⟨fresh, named, above⟩ := move.requested_of_stopping stopping awaits.state
    have other : after.runtimeOperationId ≠ some operationId := by
      rw [named, ne_eq, Option.some.injEq]
      exact fun same => absurd drawn (Nat.not_lt.mpr (same ▸ above))
    refine ⟨awaits, by rw [named]; rfl, other, ?_⟩
    rintro middle clock number input worker rfl working serves still
    have superseded : woken.Superseded number id operationId :=
      ⟨Nat.lt_of_lt_of_le drawn steps.moves.supply, ⟨after, stored, other⟩, worker, working, serves⟩
    have remaining := meets.append_right.2
    have reached : Run.step (applyEvent env settings)
        (Run.run (applyEvent env settings) Fleet.empty first) wake = woken :=
      Run.step_of_ok _ woken wake reply success
    rw [reached] at remaining
    have last := superseded.run middle (sound.steps steps) remaining.append_left still
    rw [runFleet, runFleet, Run.run_append]
    exact last.keepsPower clock input remaining.append_right.1

end Runs

/-! ## A wake during the recovery of a stop -/

/-- `RecoversSelected`, evaluated. -/
def FleetEvent.recoversSelected (fleet : Fleet D) : FleetEvent D → Bool
  | .work _ number _ =>
    (fleet.workers.lookup number).all fun worker =>
      match worker.point with
      | .readExpired id selected =>
        (fleet.store.db.workspaces.lookup id).all fun workspace =>
          workspace.runtimeOperationId = selected ∨ workspace.expiredClaim id = none
      | .clearExpired id selected =>
        (fleet.store.db.workspaces.lookup id).all fun workspace =>
          workspace.runtimeOperationId = selected ∨
            workspace.runtimeOperationState.isClaimed = false
      | _ => true
  | _ => true

theorem FleetEvent.recoversSelected_admitted (fleet : Fleet D) (event : FleetEvent D)
    (evaluated : event.recoversSelected fleet = true) : RecoversSelected fleet event := by
  constructor
  · rintro clock number input worker id selected workspace rfl known point stored
    simp only [FleetEvent.recoversSelected, known, Option.all_some, point, stored] at evaluated
    exact of_decide_eq_true evaluated
  · rintro clock number input worker id selected workspace rfl known point stored
    simp only [FleetEvent.recoversSelected, known, Option.all_some, point, stored] at evaluated
    exact of_decide_eq_true evaluated

/-- The idle stop of Workspace 0 is claimed as operation 13, its worker dies, and the expired
claim is selected for recovery. -/
def selectedStop : List (FleetEvent PlainDigest) :=
  claimedStop ++ [.select (seconds 461) 2 .expiredClaim 0]

def composingIntent : FleetEvent PlainDigest :=
  .intent (seconds 462) 0 61 .composingStarted (seconds 462)

/-- The recovery reads the row, and another worker claims the start before it goes on. -/
def claimedWake : List (FleetEvent PlainDigest) :=
  [.work (seconds 463) 2 .go,
    .select (seconds 463) 3 .requestedStart 0,
    .work (seconds 463) 3 .go]

/-- The intent wakes the Workspace from the stop, and the recovery that serves the stop is at
work after each of the events. -/
def wakesDuringRecovery (fleet : Fleet PlainDigest) (middle : List (FleetEvent PlainDigest)) :
    Bool :=
  match applyEvent Env.plain .plain composingIntent fleet with
  | .ok (.intent receipt, woken) =>
    receipt.status = .waking && !receipt.replayed &&
    ((fleet.store.db.workspaces.lookup 0).any fun before =>
      before.runtimeOperationState = .stopping ∧ before.runtimeOperationId = some 13) &&
    (woken.store.db.workspaces.lookup 0).isSome &&
    ((woken.workers.lookup 2).any fun worker => worker.point.operation = some (0, 13)) &&
    (List.range (middle.length + 1)).all fun count =>
      ((runFleet Env.plain .plain woken (middle.take count)).workers.lookup 2).isSome
  | _ => false

section

variable [DecidableEq D] {env : Env D} {settings : PowerSettings}

theorem AtWork.of_take {fleet : Fleet D}
    {events : List (FleetEvent D)} {number : Nat}
    (evaluated : (List.range (events.length + 1)).all (fun count =>
      ((runFleet env settings fleet (events.take count)).workers.lookup number).isSome) = true) :
    AtWork env settings fleet events number := by
  rintro earlier later rfl
  have inRange : earlier.length ∈ List.range ((earlier ++ later).length + 1) := by
    rw [List.mem_range, List.length_append]
    omega
  have holds := List.all_eq_true.mp evaluated earlier.length inRange
  rw [List.take_left] at holds
  exact holds

theorem runFleet_append_of_ok
    {fleet next : Fleet D} (first : List (FleetEvent D))
    (event : FleetEvent D)
    (success : applyEvent env settings event (runFleet env settings fleet first) =
      .ok (reply, next)) (rest : List (FleetEvent D)) :
    runFleet env settings fleet (first ++ event :: rest) = runFleet env settings next rest := by
  have reached : Run.step (applyEvent env settings)
      (Run.run (applyEvent env settings) fleet first) event = next :=
    Run.step_of_ok _ next event reply success
  rw [runFleet, Run.run_append, Run.run_cons, reached]
  rfl

end

theorem wakesDuringRecovery_eq_true {fleet : Fleet PlainDigest}
    {middle : List (FleetEvent PlainDigest)} (evaluated : wakesDuringRecovery fleet middle = true) :
    ∃ reply woken before after worker,
      applyEvent Env.plain .plain composingIntent fleet = .ok (reply, woken) ∧
      fleet.store.db.workspaces.lookup 0 = some before ∧
      woken.store.db.workspaces.lookup 0 = some after ∧
      before.runtimeOperationState = .stopping ∧ before.runtimeOperationId = some 13 ∧
      AcceptsWake Env.plain composingIntent reply 0 before after ∧
      woken.workers.lookup 2 = some worker ∧ worker.point.operation = some (0, 13) ∧
      AtWork Env.plain .plain woken middle 2 := by
  unfold wakesDuringRecovery at evaluated
  split at evaluated
  · next receipt woken success =>
    simp only [Bool.and_eq_true, Bool.not_eq_true', decide_eq_true_eq, Option.any_eq_true,
      Option.isSome_iff_exists] at evaluated
    obtain ⟨⟨⟨⟨⟨waking, isNew⟩, before, known, stopping, isStop⟩, after, stored⟩, worker, working,
      serves⟩, still⟩ := evaluated
    exact ⟨_, woken, before, after, worker, success, known, stored, stopping, isStop,
      .intent _ _ _ _ receipt rfl rfl waking isNew, working, serves, .of_take still⟩
  · cases evaluated

/-- The recovery of the superseded stop then clears the row, whatever is on it: the start is
given up, and the wake is lost. -/
theorem claimedWake_undone :
    ∃ reply woken before after worker row later,
      applyEvent Env.plain .plain composingIntent
        (runFleet Env.plain .plain Fleet.empty selectedStop) = .ok (reply, woken) ∧
      (runFleet Env.plain .plain Fleet.empty selectedStop).store.db.workspaces.lookup 0 =
        some before ∧
      woken.store.db.workspaces.lookup 0 = some after ∧
      before.runtimeOperationState = .stopping ∧ before.runtimeOperationId = some 13 ∧
      AcceptsWake Env.plain composingIntent reply 0 before after ∧
      woken.workers.lookup 2 = some worker ∧ worker.point.operation = some (0, 13) ∧
      AtWork Env.plain .plain woken claimedWake 2 ∧
      (runFleet Env.plain .plain woken claimedWake).store.db.workspaces.lookup 0 = some row ∧
      row.runtimeOperationState = .starting ∧
      (runFleet Env.plain .plain woken
        (claimedWake ++ [.work (seconds 463) 2 .go])).store.db.workspaces.lookup 0 = some later ∧
      later.runtimeOperationState = .idle := by
  have evaluated : wakesDuringRecovery (runFleet Env.plain .plain Fleet.empty selectedStop)
      claimedWake = true := by
    decide +kernel
  have claimed : ((runFleet Env.plain .plain Fleet.empty
      (selectedStop ++ composingIntent :: claimedWake)).store.db.workspaces.lookup 0).any
      (fun row => decide (row.runtimeOperationState = .starting)) = true := by
    decide +kernel
  have cleared : ((runFleet Env.plain .plain Fleet.empty
      (selectedStop ++ composingIntent :: (claimedWake ++
        [.work (seconds 463) 2 .go]))).store.db.workspaces.lookup 0).any
      (fun row => decide (row.runtimeOperationState = .idle)) = true := by
    decide +kernel
  obtain ⟨reply, woken, before, after, worker, success, known, stored, stopping, isStop, accepts,
    working, serves, still⟩ := wakesDuringRecovery_eq_true evaluated
  have reached : ∀ rest, runFleet Env.plain .plain Fleet.empty
      (selectedStop ++ composingIntent :: rest) = runFleet Env.plain .plain woken rest :=
    runFleet_append_of_ok selectedStop composingIntent success
  rw [reached] at claimed cleared
  obtain ⟨row, found, starting⟩ := (Option.any_eq_true _ _).mp claimed
  obtain ⟨later, last, idle⟩ := (Option.any_eq_true _ _).mp cleared
  exact ⟨reply, woken, before, after, worker, row, later, success, known, stored, stopping, isStop,
    accepts, working, serves, still, found, of_decide_eq_true starting, last, of_decide_eq_true idle⟩

/-- Without another worker the same recovery changes nothing. -/
theorem selectedStop_fenced :
    ∃ reply woken,
      applyEvent Env.plain .plain composingIntent
        (runFleet Env.plain .plain Fleet.empty selectedStop) = .ok (reply, woken) ∧
      (runFleet Env.plain .plain woken [.work (seconds 463) 2 .go]).store.KeepsPower
        (runFleet Env.plain .plain woken
          [.work (seconds 463) 2 .go, .work (seconds 463) 2 .go]).store := by
  have evaluated : wakesDuringRecovery (runFleet Env.plain .plain Fleet.empty selectedStop)
      [.work (seconds 463) 2 .go] = true := by
    decide +kernel
  have admitted : Run.Meets (applyEvent Env.plain .plain)
      (fun fleet event => event.recoversSelected fleet = true) Fleet.empty
      (selectedStop ++ composingIntent :: [.work (seconds 463) 2 .go, .work (seconds 463) 2 .go]) := by
    decide +kernel
  obtain ⟨reply, woken, before, after, worker, success, known, stored, stopping, isStop, accepts,
    working, serves, still⟩ := wakesDuringRecovery_eq_true evaluated
  have fences := runFleet_fences_claims Env.plain .plain _
    (admitted.imp fun fleet event holds => event.recoversSelected_admitted fleet holds)
  obtain ⟨_, _, _, inert⟩ := fences.2 selectedStop composingIntent _ reply woken 0 before after 13
    rfl success known stored stopping isStop accepts
  exact ⟨reply, woken, success,
    inert [.work (seconds 463) 2 .go] (seconds 463) 2 .go worker rfl working serves still⟩

end Foundry
