import Foundry.Properties.EpochFencing

/-!
# Idle stops and live work

A worker prepares an idle stop in a transaction that finds no unresolved lease, and calls the
provider after it.  A lease can come in between only by a claim of the runtime, and the
preparation has fenced the runtime: it has to report again, under a later start.
-/

set_option autoImplicit false

namespace Foundry

open Raise

variable {D : Type}

/-- The Workspace whose Machine the worker is about to stop. -/
def Point.stopsMachineOf : Point → Option Uuid
  | .stopMachine claim _ => some claim.workspace
  | _ => none

/-- While a worker is about to stop the Machine of a Workspace, the runtime of that Workspace
claims only when it is not ready. -/
def ClaimsUnreadyWhileStopping (env : Env D) (fleet : Fleet D) (event : FleetEvent D) : Prop :=
  ∀ number worker id call workspace, fleet.workers.lookup number = some worker →
    worker.point.stopsMachineOf = some id → event = .service call →
    call.operation.claimsFor id → fleet.store.db.workspaces.lookup id = some workspace →
    isRuntimeReady env call.now workspace = false

/-! ## Points -/

section Points

@[simp] theorem Point.stopsMachineOf_afterPreparedStart (frame : WakeFrame) :
    (Point.afterPreparedStart frame).stopsMachineOf = none := by
  unfold afterPreparedStart
  split <;> rfl

@[simp] theorem Point.stopsMachineOf_afterInspectedStop (claim : OperationClaim)
    (workspace : Workspace) (machine : MachineRecord) :
    (Point.afterInspectedStop claim workspace machine).stopsMachineOf = none := by
  unfold afterInspectedStop
  split <;> rfl

@[simp] theorem Point.stopsMachineOf_afterInspectedExpired (claim : OperationClaim)
    (workspace : Workspace) (machine : MachineRecord) :
    (Point.afterInspectedExpired claim workspace machine).stopsMachineOf = none := by
  unfold afterInspectedExpired
  split <;> rfl

@[simp] theorem Point.stopsMachineOf_afterRelease (wake : Option WakeFrame) (isCurrent : Bool) :
    (Point.afterRelease wake isCurrent).bind Point.stopsMachineOf = none := by
  cases wake <;> cases isCurrent <;> rfl

@[simp] theorem Point.stopsMachineOf_afterReleaseRaised (wake : Option WakeFrame)
    (raised : Raised) : (Point.afterReleaseRaised wake raised).bind Point.stopsMachineOf = none := by
  cases wake <;> rfl

@[simp] theorem Point.stopsMachineOf_afterReleaseRead (env : Env D) (id : Uuid)
    (wake : Option WakeFrame) (workspace : Workspace) :
    (Point.afterReleaseRead env id wake workspace).bind Point.stopsMachineOf = none := by
  unfold afterReleaseRead
  repeat' split
  all_goals first | exact stopsMachineOf_afterReleaseRaised _ _ | rfl

theorem Point.stopsMachineOf_afterWakeObserved (env : Env D) (settings : PowerSettings)
    (frame : WakeFrame) :
    (Point.afterWakeObserved env settings frame).1.stopsMachineOf = none := by
  unfold afterWakeObserved
  repeat' split
  all_goals rfl

theorem Task.start_stopsMachineOf (task : Task) (id : Uuid) (workspace : Workspace) :
    (task.start id workspace).stopsMachineOf = none := by
  cases task <;> rfl

variable {store next : PowerDb D}

theorem advance_stopsMachineOf (env : Env D) (settings : PowerSettings) (clock : Instant)
    (input : PowerInput) (worker : PowerWorker) (point : Option Point) (id : Uuid)
    (success : worker.advance env settings clock input store = some (point, next))
    (stops : point.bind Point.stopsMachineOf = some id) :
    ∃ claim, claim.workspace = id ∧
      prepareStop settings worker.now claim store = .ok next := by
  obtain ⟨_, at_⟩ := worker
  cases at_ <;> cases input <;> simp only [PowerWorker.advance] at success
  all_goals first | cases success; done | skip
  case prepareStop.go claim workspace isStopped =>
    split at success
    · obtain ⟨rfl, rfl⟩ := Prod.mk.inj (Option.some.inj success)
      cases stops
    · next prepares =>
      obtain ⟨rfl, rfl⟩ := Prod.mk.inj (Option.some.inj success)
      cases isStopped with
      | true => cases stops
      | false => exact ⟨claim, Option.some.inj stops, prepares⟩
  case releaseOnWake.go frame =>
    have none := Point.stopsMachineOf_afterWakeObserved env settings frame
    split at success
    all_goals
      next observed =>
        obtain ⟨rfl, rfl⟩ := Prod.mk.inj (Option.some.inj success)
        rw [observed] at none
        simp [none] at stops
  all_goals
    repeat' split at success
    all_goals
      obtain ⟨rfl, rfl⟩ := Prod.mk.inj (Option.some.inj success)
      first
        | cases stops
        | simp at stops
        | simp [Option.bind_map, Function.comp_def, Point.stopsMachineOf] at stops

theorem prepareStop_noLiveLease (settings : PowerSettings) (now : Instant)
    (claim : OperationClaim) (prepares : prepareStop settings now claim store = .ok next) :
    next.db.hasLiveLease claim.workspace = false := by
  simp only [prepareStop, bind_eq_ok, require_eq_ok, pure_eq_ok] at prepares
  obtain ⟨_, _, _, idle, _, _, rfl⟩ := prepares
  exact (of_decide_eq_true idle).2.2.2.2.2.2.2.2.2

end Points

/-! ## Runs -/

structure Fleet.StopsIdle (fleet : Fleet D) : Prop where
  work : fleet.store.db.WorkSound
  worker : ∀ number worker id, fleet.workers.lookup number = some worker →
    worker.point.stopsMachineOf = some id → fleet.store.db.hasLiveLease id = false

theorem Fleet.StopsIdle.empty : (Fleet.empty : Fleet D).StopsIdle := by
  refine ⟨⟨Db.intact_empty, claimsHeld_empty⟩, ?_⟩
  intro number worker id known
  have none : (Fleet.empty : Fleet D).workers.lookup number = none := AList.lookup_empty number
  rw [none] at known
  cases known

section Runs

variable [DecidableEq D] {env : Env D} {settings : PowerSettings} {event : FleetEvent D}
  {fleet next : Fleet D} {reply : FleetReply D}

section

variable (sound : fleet.StopsIdle) (admitted : ClaimsUnreadyWhileStopping env fleet event)
  (steps : fleet.Steps env settings event next)
  (success : applyEvent env settings event fleet = .ok (reply, next))

include sound admitted steps success

theorem Fleet.StopsIdle.waiting (number : Nat)
    (worker : PowerWorker) (id : Uuid) (known : fleet.workers.lookup number = some worker)
    (stops : worker.point.stopsMachineOf = some id) :
    next.store.db.hasLiveLease id = false := by
  have before := sound.worker number worker id known stops
  have nextSound := Fleet.workSound_event steps success sound.work
  by_contra live
  rw [Bool.not_eq_false, Db.hasLiveLease_iff nextSound.intact nextSound.held] at live
  have unclaimed : ∀ call, event = .service call → ¬ call.operation.claimsFor id := by
    rintro call rfl claims
    obtain ⟨context, claimId, slots, asked, home⟩ := claims
    obtain ⟨workspace, stored, ready⟩ := claimEvent_ready fleet next call context claimId slots
      reply asked success
    have unready := admitted number worker id call workspace known stops rfl
      ⟨context, claimId, slots, asked, home⟩ (by rw [← home]; exact stored)
    rw [ready] at unready
    cases unready
  have was := Fleet.liveIn_event steps success sound.work id unclaimed live
  rw [← Db.hasLiveLease_iff sound.work.intact sound.work.held, before] at was
  cases was

theorem Fleet.StopsIdle.applied : next.StopsIdle := by
  refine ⟨Fleet.workSound_event steps success sound.work, ?_⟩
  intro number worker id known stops
  cases steps.worker number worker known with
  | kept before => exact sound.waiting admitted steps success number worker id before stops
  | selected _ _ _ _ _ _ _ _ _ started =>
    subst started
    rw [Task.start_stopsMachineOf] at stops
    cases stops
  | advanced clock input current _ _ advances =>
    obtain ⟨claim, rfl, prepares⟩ := advance_stopsMachineOf env settings clock input current
      (some worker.point) id advances stops
    exact prepareStop_noLiveLease settings current.now claim prepares

end

/-- In every run in which the runtime of a Workspace claims, while a worker is about to stop
its Machine, only when it is not ready, no Machine is stopped with live work: whenever a
worker calls the provider to stop it, its Workspace has no lease in ACTIVE or STOPPING. -/
theorem runFleet_stops_idle (env : Env D) (settings : PowerSettings) (events : List (FleetEvent D))
    (meets : Run.Meets (applyEvent env settings) (ClaimsUnreadyWhileStopping env) Fleet.empty
      events)
    (number : Nat) (now : Instant) (claim : OperationClaim) (workspace : Workspace)
    (working : (runFleet env settings Fleet.empty events).workers.lookup number =
      some ⟨now, .stopMachine claim workspace⟩) :
    (runFleet env settings Fleet.empty events).store.db.hasLiveLease claim.workspace = false := by
  have sound := runFleet_invariant (ClaimsUnreadyWhileStopping env) Fleet.StopsIdle .empty
    (fun _ _ _ _ admitted _ sound success steps => sound.applied admitted steps success) events meets
  exact sound.worker number _ claim.workspace working rfl

end Runs

def FleetEvent.isClaim : FleetEvent D → Bool
  | .service call =>
    match call.operation with
    | .claimNextExecution _ _ _ => true
    | _ => false
  | _ => false

theorem FleetEvent.isClaim_admitted (env : Env D) (event : FleetEvent D)
    (quiet : event.isClaim = false) (fleet : Fleet D) :
    ClaimsUnreadyWhileStopping env fleet event := by
  rintro _ _ _ ⟨_, _⟩ _ _ _ rfl ⟨_, _, _, rfl, _⟩
  cases quiet

def Fleet.stopsMachine (fleet : Fleet D) (number : Nat) (id : Uuid) : Bool :=
  (fleet.workers.lookup number).any fun worker => worker.point.stopsMachineOf = some id

theorem Fleet.stopsMachine_eq_true {fleet : Fleet D} {number : Nat} {id : Uuid}
    (stops : fleet.stopsMachine number id = true) :
    ∃ now claim workspace,
      fleet.workers.lookup number = some ⟨now, .stopMachine claim workspace⟩ ∧
      claim.workspace = id := by
  obtain ⟨⟨now, point⟩, known, isStop⟩ := (Option.any_eq_true _ _).mp stops
  have named := of_decide_eq_true isStop
  cases point with
  | stopMachine claim workspace => exact ⟨now, claim, workspace, known, Option.some.inj named⟩
  | _ => cases named

def preparedIdleStop : List (FleetEvent PlainDigest) :=
  claimedStop ++ [.work (seconds 400) 1 .go]

/-- It is a stop without live work. -/
theorem preparedIdleStop_stops_idle :
    ∃ now claim workspace,
      (runFleet Env.plain .plain Fleet.empty preparedIdleStop).workers.lookup 1 =
        some ⟨now, .stopMachine claim workspace⟩ ∧
      (runFleet Env.plain .plain Fleet.empty preparedIdleStop).store.db.hasLiveLease
        claim.workspace = false := by
  have stops : (runFleet Env.plain .plain Fleet.empty preparedIdleStop).stopsMachine 1 0 = true := by
    decide +kernel
  have quiet : preparedIdleStop.all (fun event => event.isClaim = false) = true := by
    decide +kernel
  obtain ⟨now, claim, workspace, working, _⟩ := Fleet.stopsMachine_eq_true stops
  refine ⟨now, claim, workspace, working,
    runFleet_stops_idle Env.plain .plain preparedIdleStop ?_ 1 now claim workspace working⟩
  exact Run.meets_of_mem _ _ fun event member fleet =>
    event.isClaim_admitted Env.plain
      (of_decide_eq_true (List.all_eq_true.mp quiet event member)) fleet

/-! ## A wake between the two -/

/-- After the idle stop is prepared work arrives, another worker serves the wake and finds the
Machine still started, and the runtime reports the epoch of that start and claims. -/
def wokenStop : List (FleetEvent PlainDigest) :=
  preparedIdleStop ++
    [.service ⟨seconds 401, .createExecution 0 50 "key" (.obj [])⟩,
      .select (seconds 401) 2 .requestedStart 0,
      .work (seconds 401) 2 .go,
      .work (seconds 401) 2 .go,
      .work (seconds 401) 2 (.inspected (.ok (some (plainMachine .started)))),
      .work (seconds 401) 2 .go,
      .work (seconds 401) 2 .go,
      .work (seconds 401) 2 .go,
      .readiness (seconds 402) ⟨0, 1⟩ 7 1 3,
      .service ⟨seconds 402, .claimNextExecution ⟨0, 1⟩ 61 1⟩]

/-- The worker is about to stop the Machine that serves the claim. -/
theorem wokenStop_live :
    ∃ number now claim workspace,
      (runFleet Env.plain .plain Fleet.empty wokenStop).workers.lookup number =
        some ⟨now, .stopMachine claim workspace⟩ ∧
      (runFleet Env.plain .plain Fleet.empty wokenStop).store.db.hasLiveLease claim.workspace =
        true := by
  have stops : (runFleet Env.plain .plain Fleet.empty wokenStop).stopsMachine 1 0 = true := by
    decide +kernel
  have live : (runFleet Env.plain .plain Fleet.empty wokenStop).store.db.hasLiveLease 0 = true := by
    decide +kernel
  obtain ⟨now, claim, workspace, known, named⟩ := Fleet.stopsMachine_eq_true stops
  exact ⟨1, now, claim, workspace, known, by rw [named]; exact live⟩

end Foundry
