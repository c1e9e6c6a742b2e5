import Foundry.Properties.AwaitedReadiness
import Foundry.Fleet.Leases
import Foundry.Properties.Refusals
import Foundry.Worker.Answers

/-!
# What ends the worker loop

An answer of the claim or of the readiness receipt ends the loop of a worker whose
generation is current exactly when it is one of a few refusals: a known claim id that
expiry, a retirement or the profile took, a routine that waits behind a stale release, an
expiry that raises, and the receipt of another boot in an awaited start.
-/

set_option autoImplicit false

namespace Foundry

open Raise

variable {D : Type}

/-! ## The loop -/

variable {force : Bool}

namespace WorkerLoop

variable {config : LoopConfig} {draw : LoopDraw} {loop next : WorkerLoop}

/-- The loop does not begin to stop, and no exception escapes it. -/
structure GoesOn (loop next : WorkerLoop) : Prop where
  running : loop.stopping = false → next.stopping = false
  caught : ∀ error, next.point ≠ .escaped error

theorem afterClaims_goesOn : loop.GoesOn (loop.afterClaims config) := by
  unfold afterClaims
  repeat' split
  all_goals
    constructor
    · intro running
      exact running
    · simp

@[simp] theorem afterClaims_stopping : (loop.afterClaims config).stopping = loop.stopping := by
  unfold afterClaims
  repeat' split
  all_goals rfl

theorem claims_goesOn : loop.GoesOn (loop.claims config draw) := by
  unfold claims
  split
  · constructor
    · intro running
      exact running
    · simp
  · exact afterClaims_goesOn

theorem round_goesOn : loop.GoesOn (loop.round config draw) := by
  obtain ⟨running, caught⟩ := @claims_goesOn config draw
    ({ loop with
      ambiguousClaims := loop.ambiguousClaims.filter fun claim =>
        draw.now - claim.2 < config.leaseSeconds })
  exact ⟨running, caught⟩

theorem top_goesOn : loop.GoesOn (loop.top config draw) := by
  unfold top
  split
  · split
    all_goals
      constructor
      · intro running
        exact running
      · simp
  split
  · obtain ⟨running, caught⟩ := @round_goesOn config draw
      ({ loop with reconciliationRetries := 0 })
    exact ⟨running, caught⟩
  · constructor
    · intro running
      exact running
    · simp

theorem resume_reported (reporting : loop.point = .reporting force) :
    loop.resume config draw .reported =
      some (reconciled config draw { loop with lastReadinessReport := some draw.now } force) := by
  simp only [resume, reporting]

theorem start_goesOn (waitEnabled : Bool) :
    (start config draw waitEnabled).stopping = false ∧
      ∀ error, (start config draw waitEnabled).point ≠ .escaped error := by
  unfold start initialization
  split
  · obtain ⟨running, caught⟩ := @top_goesOn config draw _
    exact ⟨running rfl, caught⟩
  split
  · obtain ⟨running, caught⟩ := @top_goesOn config draw _
    exact ⟨running rfl, caught⟩
  · simp

theorem reconciled_goesOn (force : Bool) : loop.GoesOn (loop.reconciled config draw force) := by
  unfold reconciled
  split
  · obtain ⟨running, caught⟩ := @top_goesOn config draw
      ({ loop with reconciliationRetries := 0 })
    exact ⟨running, caught⟩
  · obtain ⟨running, caught⟩ := @round_goesOn config draw
      ({ loop with reconciliationRetries := 0 })
    exact ⟨running, caught⟩

theorem claimRetried_goesOn : loop.GoesOn (loop.claimRetried config draw) := by
  obtain ⟨running, caught⟩ := @afterClaims_goesOn config
    ({ loop.backedOff config draw with retryPending := true })
  exact ⟨running, caught⟩

theorem claimEmpty_goesOn (claimId : Uuid) :
    loop.GoesOn (loop.claimEmpty config draw claimId) := by
  simp only [claimEmpty]
  split
  · obtain ⟨running, caught⟩ := @afterClaims_goesOn config
      (delaysReset config
        { loop.answeredClaim config claimId with
          empty := (loop.answeredClaim config claimId).empty + 1
          fastPolls := (loop.answeredClaim config claimId).fastPolls - 1 })
    exact ⟨running, caught⟩
  · obtain ⟨running, caught⟩ := @afterClaims_goesOn config
      (backedOff config draw
        { loop.answeredClaim config claimId with
          empty := (loop.answeredClaim config claimId).empty + 1 })
    exact ⟨running, caught⟩

theorem claimed_goesOn (claimId : Uuid) : loop.GoesOn (loop.claimed config draw claimId) := by
  obtain ⟨running, caught⟩ := @claims_goesOn config draw
    (delaysReset config
      { loop.answeredClaim config claimId with
        fastPolls := 0
        active := (loop.answeredClaim config claimId).active + 1 })
  exact ⟨running, caught⟩

def claimRetriesOn : FoundryErrorClass → Bool
  | .responseLoss | .notReady | .rateLimited | .serviceUnavailable => true
  | _ => false

theorem claimFailed_goesOn (claimId : Uuid) (error : FoundryError)
    (retries : claimRetriesOn error.errorClass = true) :
    loop.GoesOn (loop.claimFailed config draw claimId error) := by
  obtain ⟨errorClass, _⟩ := error
  cases errorClass <;> simp only [claimRetriesOn, Bool.false_eq_true] at retries
  all_goals
    obtain ⟨running, caught⟩ := @claimRetried_goesOn config draw _
    exact ⟨running, caught⟩

variable {error : FoundryError}

theorem claimRetriesOn_of_goesOn {claimId : Uuid} (running : loop.stopping = false)
    (goesOn : loop.GoesOn (loop.claimFailed config draw claimId error)) :
    claimRetriesOn error.errorClass = true := by
  obtain ⟨errorClass, _⟩ := error
  cases errorClass
  case notReady | rateLimited | serviceUnavailable | responseLoss => rfl
  case fenced | invalidCredential =>
    have stopped := goesOn.running running
    rw [claimFailed, afterClaims_stopping] at stopped
    cases stopped
  all_goals exact absurd rfl (goesOn.caught _)

def receiptRetriesOn (errorClass : FoundryErrorClass) : Bool :=
  errorClass = .fenced || reconciliationRetriesOn errorClass

theorem reportFailed_goesOn (force : Bool) (error : FoundryError)
    (retries : receiptRetriesOn error.errorClass = true) :
    loop.GoesOn (loop.reportFailed force error) := by
  obtain ⟨errorClass, _⟩ := error
  cases errorClass <;> simp [receiptRetriesOn, reconciliationRetriesOn] at retries
  all_goals
    constructor
    · intro running
      exact running
    · simp [reportFailed, reconciliationFailed, reconciliationRetriesOn]

theorem receiptRetriesOn_of_goesOn (goesOn : loop.GoesOn (loop.reportFailed force error)) :
    receiptRetriesOn error.errorClass = true := by
  obtain ⟨errorClass, _⟩ := error
  cases errorClass
  case fenced | notReady | rateLimited | serviceUnavailable | responseLoss => rfl
  all_goals exact absurd rfl (goesOn.caught _)

end WorkerLoop

/-! ## Errors -/

theorem claimRetriesOn_received (error : RuntimeError) :
    WorkerLoop.claimRetriesOn error.received.errorClass = error.kind.isWaitedOut := by
  obtain ⟨kind, _⟩ := error
  cases kind <;> rfl

theorem receiptRetriesOn_received (error : RuntimeError) :
    WorkerLoop.receiptRetriesOn error.received.errorClass = true ↔ error.ReceiptWaitedOut := by
  obtain ⟨kind, _⟩ := error
  cases kind <;> simp [RuntimeError.ReceiptWaitedOut, RuntimeError.WaitedOut, ErrorKind.isWaitedOut,
    RuntimeError.received, ErrorKind.response, errorFor, conflictClass, FoundryErrorClass.raised,
    WorkerLoop.receiptRetriesOn, WorkerLoop.reconciliationRetriesOn]

/-! ## Answers -/

section Answers

variable [DecidableEq D] {env : Env D} {settings : PowerSettings} {identity : LoopIdentity}
  {config : LoopConfig}

theorem claimAnswer_applyEvent (loop : WorkerLoop) (claimId : Uuid) (now : Instant)
    (fleet : Fleet D) :
    claimAnswer (applyEvent env settings (identity.claim config loop claimId now) fleet) =
      match claimNextExecution env now identity.context claimId (loop.availableSlots config)
        fleet.store.db with
      | .ok (claim, _) => if claim.isSome then .claimed else .claimEmpty
      | .error raised => .claimFailed raised.received := by
  simp only [LoopIdentity.claim, applyEvent, commitEvent, apply, reply, Operation.isFleetCall,
    require_of _ _ trivial, ok_bind]
  cases claimNextExecution env now identity.context claimId (loop.availableSlots config)
    fleet.store.db with
  | error raised => rfl
  | ok answer =>
    obtain ⟨claim, _⟩ := answer
    cases claim <;> rfl

theorem receiptAnswer_applyEvent (snapshot : ReconciliationSnapshot) (now : Instant)
    (fleet : Fleet D) :
    receiptAnswer (applyEvent env settings (identity.receipt snapshot now) fleet) =
      match settleRuntimeReadiness now identity.context identity.bootId snapshot.machineGeneration
        snapshot.runtimeStartEpoch fleet.store with
      | .ok _ => .reported
      | .error raised => .reportFailed raised.received := by
  simp only [LoopIdentity.receipt, applyEvent, commitEvent]
  cases settleRuntimeReadiness now identity.context identity.bootId snapshot.machineGeneration
    snapshot.runtimeStartEpoch fleet.store with
  | error raised => rfl
  | ok store => rfl

end Answers

/-! ## Worlds -/

/-- The credential is of the current generation of its Workspace. -/
def Db.IsCurrent (db : Db D) (context : RuntimeContext) (workspace : Workspace) : Prop :=
  db.workspaces.lookup context.workspace = some workspace ∧
    workspace.machineGeneration = context.machineGeneration

/-- An answer to a claim or to a receipt, or the loss of one. -/
def LoopHappening.isAnswer : LoopHappening D → Bool
  | .claims _ _ | .reports _ _ => true
  | _ => false

namespace LoopWorld

variable [DecidableEq D] {env : Env D} {settings : PowerSettings} {identity : LoopIdentity}
  {config : LoopConfig} {world next : LoopWorld D}

/-- What every world keeps: a fleet in order, and a snapshot of a Workspace with a Machine. -/
structure Sound (world : LoopWorld D) : Prop where
  fleet : world.fleet.Sound
  work : world.fleet.store.db.WorkSound
  snapshot : ∀ snapshot, world.snapshot = some snapshot → 0 < snapshot.machineGeneration

theorem Sound.event (sound : world.Sound) (event : FleetEvent D) (loop : WorkerLoop) :
    ({ world with
        fleet := Run.step (applyEvent env settings) world.fleet event
        loop := loop } : LoopWorld D).Sound := by
  rcases Run.step_cases (applyEvent env settings) world.fleet event with
    ⟨reply, fleet, success, same⟩ | same
  · have steps := applyEvent_steps env settings event _ fleet reply sound.fleet.numbered success
    rw [same]
    exact ⟨sound.fleet.steps steps, Fleet.workSound_event steps success sound.work, sound.snapshot⟩
  · rw [same]
    exact ⟨sound.fleet, sound.work, sound.snapshot⟩

omit [DecidableEq D] in
theorem Sound.started (draw : LoopDraw) (waitEnabled : Bool) :
    (LoopWorld.started config draw waitEnabled : LoopWorld D).Sound where
  fleet := Fleet.Sound.empty
  work := ⟨Db.intact_empty, claimsHeld_empty⟩
  snapshot := by
    intro snapshot known
    cases known

theorem Sound.exchanges (sound : world.Sound) (request : Instant → FleetEvent D)
    (answer : Except RuntimeError (FleetReply D × Fleet D) → LoopInput) (lost : LoopInput)
    (draw : LoopDraw) (exchange : Exchange)
    (steps : world.exchanges env settings config request answer lost draw exchange = some next) :
    next.Sound := by
  cases exchange with
  | answered now =>
    simp only [LoopWorld.exchanges, Option.map_eq_some_iff] at steps
    obtain ⟨loop, _, rfl⟩ := steps
    exact sound.event (request now) loop
  | lost handled =>
    simp only [LoopWorld.exchanges, Option.map_eq_some_iff] at steps
    obtain ⟨loop, _, rfl⟩ := steps
    cases handled with
    | none => exact ⟨sound.fleet, sound.work, sound.snapshot⟩
    | some now => exact sound.event (request now) loop

theorem Sound.step (sound : world.Sound) (happening : LoopHappening D)
    (steps : world.step env settings identity config happening = some next) : next.Sound := by
  cases happening with
  | foundry event =>
    simp only [LoopWorld.step, Option.some.injEq] at steps
    subst steps
    exact sound.event event world.loop
  | fetchSnapshot =>
    simp only [LoopWorld.step, Option.map_eq_some_iff, Option.filter_eq_some_iff,
      decide_eq_true_eq] at steps
    obtain ⟨_, ⟨_, current, serving⟩, rfl⟩ := steps
    refine ⟨sound.fleet, sound.work, ?_⟩
    rintro _ ⟨⟩
    simp only [Workspace.isServing, Workspace.hasExistingBinding, Bool.and_eq_true,
      decide_eq_true_eq] at serving
    exact current ▸ serving.2.1
  | profilesDone =>
    simp only [LoopWorld.step, Option.map_eq_some_iff] at steps
    obtain ⟨_, _, rfl⟩ := steps
    exact ⟨sound.fleet, sound.work, sound.snapshot⟩
  | claims draw exchange | reports draw exchange =>
    simp only [LoopWorld.step] at steps
    split at steps
    · exact sound.exchanges _ _ _ draw exchange steps
    · cases steps
  | answers =>
    simp only [LoopWorld.step] at steps
    split at steps
    · cases steps
    · simp only [Option.map_eq_some_iff] at steps
      obtain ⟨_, _, rfl⟩ := steps
      exact ⟨sound.fleet, sound.work, sound.snapshot⟩
  | taskDone | stop =>
    simp only [LoopWorld.step, Option.some.injEq] at steps
    subst steps
    exact ⟨sound.fleet, sound.work, sound.snapshot⟩

theorem Sound.after (sound : world.Sound) (happenings : List (LoopHappening D)) :
    (world.after env settings identity config happenings).Sound := by
  refine Run.invariant LoopWorld.Sound ?_ world happenings sound
  intro world happening _ next holds success
  simp only [LoopWorld.apply] at success
  split at success
  · next steps =>
    simp only [Except.ok.injEq, Prod.mk.injEq, true_and] at success
    subst success
    exact holds.step happening steps
  · cases success

/-! ## What an answer does to the loop -/

variable (env identity) in
/-- Foundry answers the claim without refusing it for good, and an awaited start has no other
boot recorded. -/
def Admits (world : LoopWorld D) : LoopHappening D → Prop
  | .claims _ (.answered now) => ∀ claimId workspace, world.loop.point = .claiming claimId →
      world.fleet.store.db.IsCurrent identity.context workspace →
      isRuntimeReady env now workspace = true →
      world.fleet.store.db.ClaimGoesOn env now identity.context.workspace workspace claimId
  | .reports _ (.answered _) => ∀ snapshot workspace, world.snapshot = some snapshot →
      world.fleet.store.db.IsCurrent identity.context workspace →
      ¬ workspace.ReplacesBoot identity.bootId snapshot.machineGeneration
        snapshot.runtimeStartEpoch
  | _ => True

theorem availableSlots_counted (loop : WorkerLoop) :
    1 ≤ loop.availableSlots config ∧ loop.availableSlots config ≤ maxAvailableSlots := by
  have bounded := config.slotsBounded
  simp only [WorkerLoop.availableSlots, maxAvailableSlots]
  omega

variable {draw : LoopDraw} {claimId : Uuid} {workspace : Workspace}

theorem claims_goesOn_iff (sound : world.Sound) (now : Instant)
    (claiming : world.loop.point = .claiming claimId)
    (current : world.fleet.store.db.IsCurrent identity.context workspace)
    (steps : world.step env settings identity config (.claims draw (.answered now)) = some next) :
    ((isRuntimeReady env now workspace = true →
        world.fleet.store.db.ClaimGoesOn env now identity.context.workspace workspace claimId) →
      world.loop.GoesOn next.loop) ∧
    (world.loop.stopping = false → world.loop.GoesOn next.loop →
      isRuntimeReady env now workspace = true →
        world.fleet.store.db.ClaimGoesOn env now identity.context.workspace workspace claimId) := by
  rw [← claimNextExecution_raisesOnly sound.work.held current.1 current.2
    (@availableSlots_counted config world.loop)]
  simp only [LoopWorld.step, claiming, LoopWorld.exchanges, claimAnswer_applyEvent,
    Option.map_eq_some_iff] at steps
  obtain ⟨_, resumes, rfl⟩ := steps
  cases answer : claimNextExecution env now identity.context claimId
      (world.loop.availableSlots config) world.fleet.store.db with
  | ok claimed =>
    refine ⟨fun _ => ?_, fun _ _ => raisesOnly_ok _⟩
    rw [answer] at resumes
    simp only at resumes
    split at resumes
    · simp only [WorkerLoop.resume, claiming, Option.some.injEq] at resumes
      subst resumes
      exact WorkerLoop.claimed_goesOn claimId
    · simp only [WorkerLoop.resume, claiming, Option.some.injEq] at resumes
      subst resumes
      exact WorkerLoop.claimEmpty_goesOn claimId
  | error raised =>
    rw [answer] at resumes
    simp only at resumes
    simp only [WorkerLoop.resume, claiming, Option.some.injEq] at resumes
    subst resumes
    rw [raisesOnly_error]
    constructor
    · intro waited
      exact WorkerLoop.claimFailed_goesOn claimId raised.received
        ((claimRetriesOn_received raised).trans waited)
    · intro running goesOn
      exact (claimRetriesOn_received raised).symm.trans
        (WorkerLoop.claimRetriesOn_of_goesOn running goesOn)

theorem reports_goesOn_iff (sound : world.Sound) (now : Instant)
    {snapshot : ReconciliationSnapshot} (reporting : world.loop.point = .reporting force)
    (known : world.snapshot = some snapshot)
    (current : world.fleet.store.db.IsCurrent identity.context workspace)
    (steps : world.step env settings identity config (.reports draw (.answered now)) = some next) :
    world.loop.GoesOn next.loop ↔
      ¬ workspace.ReplacesBoot identity.bootId snapshot.machineGeneration
        snapshot.runtimeStartEpoch := by
  rw [← settleRuntimeReadiness_raisesOnly now identity.context identity.bootId
    snapshot.machineGeneration snapshot.runtimeStartEpoch current.1 current.2
    (sound.snapshot snapshot known)]
  simp only [LoopWorld.step, reporting, known, LoopWorld.exchanges, receiptAnswer_applyEvent,
    Option.map_eq_some_iff] at steps
  obtain ⟨_, resumes, rfl⟩ := steps
  cases answer : settleRuntimeReadiness now identity.context identity.bootId
      snapshot.machineGeneration snapshot.runtimeStartEpoch world.fleet.store with
  | ok store =>
    refine iff_of_true ?_ (raisesOnly_ok _)
    rw [answer] at resumes
    simp only at resumes
    rw [WorkerLoop.resume_reported reporting, Option.some.injEq] at resumes
    subst resumes
    obtain ⟨running, caught⟩ := @WorkerLoop.reconciled_goesOn config draw
      ({ world.loop with lastReadinessReport := some draw.now }) force
    exact ⟨running, caught⟩
  | error raised =>
    rw [answer] at resumes
    simp only at resumes
    simp only [WorkerLoop.resume, reporting, Option.some.injEq] at resumes
    subst resumes
    rw [raisesOnly_error, ← receiptRetriesOn_received]
    constructor
    · exact WorkerLoop.receiptRetriesOn_of_goesOn
    · exact WorkerLoop.reportFailed_goesOn force raised.received

theorem lost_goesOn (happening : LoopHappening D) (draw : LoopDraw) (handled : Option Instant)
    (asked : happening = .claims draw (.lost handled) ∨ happening = .reports draw (.lost handled))
    (steps : world.step env settings identity config happening = some next) :
    world.loop.GoesOn next.loop := by
  rcases asked with rfl | rfl
  · simp only [LoopWorld.step] at steps
    split at steps
    · next claimId claiming =>
      simp only [LoopWorld.exchanges, WorkerLoop.resume, claiming, Option.map_some,
        Option.some.injEq] at steps
      subst steps
      exact WorkerLoop.claimFailed_goesOn claimId lostResponse rfl
    · cases steps
  · simp only [LoopWorld.step] at steps
    split at steps
    · next force _ reporting _ =>
      simp only [LoopWorld.exchanges, WorkerLoop.resume, reporting, Option.map_some,
        Option.some.injEq] at steps
      subst steps
      exact WorkerLoop.reportFailed_goesOn force lostResponse rfl
    · cases steps

theorem answer_goesOn_iff (sound : world.Sound) (happening : LoopHappening D)
    (answers : happening.isAnswer = true)
    (current : world.fleet.store.db.IsCurrent identity.context workspace)
    (steps : world.step env settings identity config happening = some next) :
    (world.Admits env identity happening → world.loop.GoesOn next.loop) ∧
      (world.loop.stopping = false → world.loop.GoesOn next.loop →
        world.Admits env identity happening) := by
  cases happening with
  | claims draw exchange =>
    cases exchange with
    | lost handled =>
      have goesOn := lost_goesOn _ draw handled (.inl rfl) steps
      exact ⟨fun _ => goesOn, fun _ _ => trivial⟩
    | answered now =>
      cases claiming : world.loop.point with
      | claiming claimId =>
        obtain ⟨goes, admits⟩ := claims_goesOn_iff sound now claiming current steps
        constructor
        · intro admitted
          exact goes fun ready => admitted claimId workspace claiming current ready
        · intro running goesOn other row isOther isRow ready
          rw [claiming, LoopPoint.claiming.injEq] at isOther
          subst isOther
          have same : row = workspace := Option.some.inj (isRow.1.symm.trans current.1)
          subst same
          exact admits running goesOn ready
      | _ =>
        simp only [LoopWorld.step, claiming, reduceCtorEq] at steps
  | reports draw exchange =>
    cases exchange with
    | lost handled =>
      have goesOn := lost_goesOn _ draw handled (.inr rfl) steps
      exact ⟨fun _ => goesOn, fun _ _ => trivial⟩
    | answered now =>
      cases known : world.snapshot with
      | none =>
        simp only [LoopWorld.step, known] at steps
        split at steps
        · next isKnown => cases isKnown
        · cases steps
      | some snapshot =>
        cases reporting : world.loop.point with
        | reporting =>
          have iff := reports_goesOn_iff sound now reporting known current steps
          constructor
          · intro admitted
            exact iff.mpr (admitted snapshot workspace known current)
          · intro _ goesOn other row isOther isRow
            cases known.symm.trans isOther
            have same : row = workspace := Option.some.inj (isRow.1.symm.trans current.1)
            subst same
            exact iff.mp goesOn
        | _ =>
          simp only [LoopWorld.step, reporting, reduceCtorEq] at steps
  | _ => cases answers

variable (env settings identity config) in
/-- An answer comes to a current credential and is admitted, and nothing else ends the loop. -/
def Keeps (world : LoopWorld D) (happening : LoopHappening D) : Prop :=
  if happening.isAnswer then
    (∃ workspace, world.fleet.store.db.IsCurrent identity.context workspace) ∧
      world.Admits env identity happening
  else ∀ next, world.step env settings identity config happening = some next →
    world.loop.GoesOn next.loop

def Runs (world : LoopWorld D) : Prop :=
  world.loop.stopping = false ∧ ∀ error, world.loop.point ≠ .escaped error

theorem Keeps.runs (sound : world.Sound) (runs : world.Runs) {happening : LoopHappening D}
    (keeps : world.Keeps env settings identity config happening)
    (steps : world.step env settings identity config happening = some next) : next.Runs := by
  have goesOn : world.loop.GoesOn next.loop := by
    unfold Keeps at keeps
    split at keeps
    · next answers =>
      obtain ⟨⟨_, current⟩, admitted⟩ := keeps
      exact (answer_goesOn_iff sound happening answers current steps).1 admitted
    · exact keeps next steps
  exact ⟨goesOn.running runs.1, goesOn.caught⟩

theorem runs_of_meets (sound : world.Sound) (runs : world.Runs)
    (happenings : List (LoopHappening D))
    (meets : Run.Meets (LoopWorld.apply env settings identity config)
      (LoopWorld.Keeps env settings identity config) world happenings) :
    (world.after env settings identity config happenings).Runs := by
  refine (Run.invariant_where (LoopWorld.Keeps env settings identity config)
    (fun world => world.Sound ∧ world.Runs) ?_ world happenings ⟨sound, runs⟩ meets).2
  rintro _ happening _ next keeps ⟨holds, running⟩ success
  simp only [LoopWorld.apply] at success
  split at success
  · next steps =>
    simp only [Except.ok.injEq, Prod.mk.injEq, true_and] at success
    subst success
    exact ⟨holds.step happening steps, keeps.runs holds running steps⟩
  · cases success

end LoopWorld

/-- Along every run of a worker: an answer to a claim or to a receipt under a current
credential leaves the loop going exactly when Foundry admits it, and a run of admitted
answers ends with the loop going unless something else ended it. -/
theorem current_worker_goes_on [DecidableEq D] (env : Env D) (settings : PowerSettings)
    (identity : LoopIdentity) (config : LoopConfig) (draw : LoopDraw) (waitEnabled : Bool)
    (happenings : List (LoopHappening D)) :
    let started : LoopWorld D := LoopWorld.started config draw waitEnabled
    let world := started.after env settings identity config happenings
    (∀ happening workspace next, happening.isAnswer = true →
      world.fleet.store.db.IsCurrent identity.context workspace →
      world.step env settings identity config happening = some next →
      (world.Admits env identity happening → world.loop.GoesOn next.loop) ∧
        (world.loop.stopping = false → world.loop.GoesOn next.loop →
          world.Admits env identity happening)) ∧
    (Run.Meets (LoopWorld.apply env settings identity config)
        (LoopWorld.Keeps env settings identity config) started happenings → world.Runs) := by
  intro started world
  have begins : started.Sound := LoopWorld.Sound.started draw waitEnabled
  constructor
  · intro happening workspace next answers current steps
    exact LoopWorld.answer_goesOn_iff (begins.after happenings) happening answers current steps
  · intro meets
    exact LoopWorld.runs_of_meets begins (WorkerLoop.start_goesOn waitEnabled) happenings meets

/-! ## Workers that end -/

def workerConfig : LoopConfig where
  slots := 2
  slotsBounded := by decide
  maxTurns := none
  idleCycles := none
  idleDelay := 0
  leaseSeconds := seconds 60
  hasReconciler := true
  reconcileInterval := seconds 60
  heartbeatInterval := seconds 15

def drawAt (now : Instant) : LoopDraw := ⟨now, 0, 60⟩

/-- The world of the runtime that booted so, after these happenings. -/
def workerWorld (bootId : Uuid) (happenings : List (LoopHappening PlainDigest)) :
    LoopWorld PlainDigest :=
  (LoopWorld.started workerConfig (drawAt 0) true).after Env.plain .plain ⟨⟨0, 1⟩, bootId⟩
    workerConfig happenings

/-- One call in the provisioned fleet; then the worker initializes, up to its first claim. -/
def claimingAfter (call : Call PlainDigest) : List (LoopHappening PlainDigest) :=
  provisionedFleet.map .foundry ++
    [.foundry (.service call), .fetchSnapshot, .profilesDone (drawAt 0) false,
      .reports (drawAt 0) (.answered 0)]

/-- The answer of a claim is lost, and the profile is given up before the claim is made
again. -/
def profileGivenUp : List (LoopHappening PlainDigest) :=
  claimingAfter ⟨0, .createExecution 0 50 "key" (.obj [])⟩ ++
    [.claims (drawAt (seconds 1)) (.lost (some 0)), .answers (drawAt (seconds 2)) .woke,
      .foundry (.service ⟨seconds 2, .requestProfileCleanup 0 50 95 "digest" none⟩)]

/-- The claim of a routine is lost twice, and its lease expires before the third. -/
def routineExpired : List (LoopHappening PlainDigest) :=
  claimingAfter ⟨0, .acceptRoutineDispatch routineDispatch⟩ ++
    [.claims (drawAt (seconds 30)) (.lost (some 0)), .answers (drawAt (seconds 31)) .woke,
      .claims (drawAt (seconds 57)) (.lost none), .answers (drawAt (seconds 58)) .woke]

/-- A start nobody prepared is awaited, and a new boot reports. -/
def bootReplaced : List (LoopHappening PlainDigest) :=
  unpreparedStart.map .foundry ++ [.fetchSnapshot, .profilesDone (drawAt (seconds 500)) false]

/-- The loop runs under a current credential, and this answer ends it. -/
def LoopWorld.endsBy (bootId : Uuid) (world : LoopWorld PlainDigest)
    (happening : LoopHappening PlainDigest) : Bool :=
  world.loop.stopping = false ∧
    ((world.fleet.store.db.workspaces.lookup 0).any fun workspace =>
      workspace.machineGeneration = 1) ∧
    (world.step Env.plain .plain ⟨⟨0, 1⟩, bootId⟩ workerConfig happening).any fun next =>
      match next.loop.point with
      | .escaped _ => true
      | _ => next.loop.stopping

theorem LoopWorld.ends_of_endsBy {bootId : Uuid} {happenings : List (LoopHappening PlainDigest)}
    {happening : LoopHappening PlainDigest}
    (ends : (workerWorld bootId happenings).endsBy bootId happening = true) :
    ∃ workspace next, (workerWorld bootId happenings).fleet.store.db.IsCurrent ⟨0, 1⟩ workspace ∧
      (workerWorld bootId happenings).step Env.plain .plain ⟨⟨0, 1⟩, bootId⟩ workerConfig
        happening = some next ∧
      (workerWorld bootId happenings).loop.stopping = false ∧
      ¬ (workerWorld bootId happenings).loop.GoesOn next.loop := by
  simp only [LoopWorld.endsBy, decide_eq_true_eq, Option.any_eq_true] at ends
  obtain ⟨running, ⟨workspace, stored, current⟩, next, steps, ended⟩ := ends
  refine ⟨workspace, next, ⟨stored, current⟩, steps, running, ?_⟩
  intro goesOn
  split at ended
  · next error escaped => exact goesOn.caught error escaped
  · rw [goesOn.running running] at ended
    cases ended

/-- A profile that was given up, a routine whose lease expired, and a boot that replaces
another each end a worker of the current generation. -/
theorem current_workers_end :
    (∃ workspace next, (workerWorld 7 profileGivenUp).fleet.store.db.IsCurrent ⟨0, 1⟩ workspace ∧
      (workerWorld 7 profileGivenUp).step Env.plain .plain ⟨⟨0, 1⟩, 7⟩ workerConfig
        (.claims (drawAt (seconds 3)) (.answered (seconds 3))) = some next ∧
      (workerWorld 7 profileGivenUp).loop.stopping = false ∧
      ¬ (workerWorld 7 profileGivenUp).loop.GoesOn next.loop) ∧
    (∃ workspace next, (workerWorld 7 routineExpired).fleet.store.db.IsCurrent ⟨0, 1⟩ workspace ∧
      (workerWorld 7 routineExpired).step Env.plain .plain ⟨⟨0, 1⟩, 7⟩ workerConfig
        (.claims (drawAt (seconds 61)) (.answered (seconds 61))) = some next ∧
      (workerWorld 7 routineExpired).loop.stopping = false ∧
      ¬ (workerWorld 7 routineExpired).loop.GoesOn next.loop) ∧
    ∃ workspace next, (workerWorld 8 bootReplaced).fleet.store.db.IsCurrent ⟨0, 1⟩ workspace ∧
      (workerWorld 8 bootReplaced).step Env.plain .plain ⟨⟨0, 1⟩, 8⟩ workerConfig
        (.reports (drawAt (seconds 501)) (.answered (seconds 501))) = some next ∧
      (workerWorld 8 bootReplaced).loop.stopping = false ∧
      ¬ (workerWorld 8 bootReplaced).loop.GoesOn next.loop := by
  refine ⟨LoopWorld.ends_of_endsBy ?_, LoopWorld.ends_of_endsBy ?_, LoopWorld.ends_of_endsBy ?_⟩
  · decide +kernel
  · decide +kernel
  · decide +kernel

/-- The worker that has just initialized: its claim is admitted, and its loop goes on. -/
theorem initialized_worker_is_admitted :
    (workerWorld 7 (claimingAfter ⟨0, .createExecution 0 50 "key" (.obj [])⟩)).Admits Env.plain
      ⟨⟨0, 1⟩, 7⟩ (.claims (drawAt 0) (.answered 0)) := by
  have evaluated :
      ((workerWorld 7 (claimingAfter ⟨0, .createExecution 0 50 "key" (.obj [])⟩)).step Env.plain
        .plain ⟨⟨0, 1⟩, 7⟩ workerConfig (.claims (drawAt 0) (.answered 0))).any (fun next =>
          decide (next.loop.stopping = false ∧ next.loop.point = .claiming 60)) = true ∧
      ((workerWorld 7 (claimingAfter
        ⟨0, .createExecution 0 50 "key" (.obj [])⟩)).fleet.store.db.workspaces.lookup 0).any
          (fun workspace => decide (workspace.machineGeneration = 1)) = true ∧
      (workerWorld 7 (claimingAfter ⟨0, .createExecution 0 50 "key" (.obj [])⟩)).loop.stopping =
        false := by
    refine ⟨by decide +kernel, by decide +kernel, by decide +kernel⟩
  obtain ⟨goes, known, running⟩ := evaluated
  obtain ⟨next, steps, ends⟩ := (Option.any_eq_true _ _).mp goes
  obtain ⟨open_loop, point⟩ := of_decide_eq_true ends
  obtain ⟨workspace, stored, current⟩ := (Option.any_eq_true _ _).mp known
  have goesOn : (workerWorld 7 (claimingAfter
      ⟨0, .createExecution 0 50 "key" (.obj [])⟩)).loop.GoesOn next.loop := by
    refine ⟨fun _ => open_loop, ?_⟩
    intro error escaped
    rw [point] at escaped
    cases escaped
  have isCurrent : (workerWorld 7 (claimingAfter
      ⟨0, .createExecution 0 50 "key" (.obj [])⟩)).fleet.store.db.IsCurrent ⟨0, 1⟩ workspace :=
    ⟨stored, of_decide_eq_true current⟩
  have answers : (LoopHappening.claims (drawAt 0) (.answered 0) :
      LoopHappening PlainDigest).isAnswer = true := rfl
  unfold workerWorld at isCurrent steps running goesOn ⊢
  exact ((current_worker_goes_on Env.plain .plain ⟨⟨0, 1⟩, 7⟩ workerConfig (drawAt 0) true
    (claimingAfter ⟨0, .createExecution 0 50 "key" (.obj [])⟩)).1 (.claims (drawAt 0) (.answered 0))
      workspace next answers isCurrent steps).2 running goesOn

end Foundry
