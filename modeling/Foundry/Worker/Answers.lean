import Foundry.Fleet.System
import Foundry.Worker.Loop

/-!
# The worker loop against Foundry

The claims and the readiness receipts of the loop, handled by the services of the fleet.
A request or its answer may be lost; the loop then makes the claim again under its id.
-/

set_option autoImplicit false

namespace Foundry

structure LoopIdentity where
  context : RuntimeContext
  bootId : Uuid
deriving DecidableEq, Repr

/-- `RuntimeReconciliationSnapshot`, as far as the loop reads it; Foundry always names the
start epoch. -/
structure ReconciliationSnapshot where
  machineGeneration : Nat
  runtimeStartEpoch : Nat
  activityRevision : Nat
deriving DecidableEq, Repr

structure LoopWorld (D : Type) where
  fleet : Fleet D
  loop : WorkerLoop
  /-- `last_reconciliation_snapshot`. -/
  snapshot : Option ReconciliationSnapshot

/-- What becomes of a request: it is handled at an instant and its answer is read, or one
of the two is lost. -/
inductive Exchange where
  | answered (now : Instant)
  | lost (handled : Option Instant)
deriving DecidableEq, Repr

inductive LoopHappening (D : Type) where
  /-- Anything in Foundry, of anybody. -/
  | foundry (event : FleetEvent D)
  /-- The client reads the snapshot of the Workspace. -/
  | fetchSnapshot
  | profilesDone (draw : LoopDraw) (materialized : Bool)
  | claims (draw : LoopDraw) (exchange : Exchange)
  | reports (draw : LoopDraw) (exchange : Exchange)
  /-- An answer that is neither to a claim nor to a receipt. -/
  | answers (draw : LoopDraw) (input : LoopInput)
  | taskDone
  | stop

def LoopInput.isService : LoopInput → Bool
  | .profilesDone _ _ | .reported | .reportFailed _ | .claimEmpty | .claimed
  | .claimFailed _ => true
  | .profilesFailed _ | .joined _ | .waited _ _ | .waitFailed _ | .woke => false

def lostResponse : FoundryError := ⟨.responseLoss, 0, FoundryErrorClass.responseLoss.code⟩

def WorkerLoop.availableSlots (config : LoopConfig) (loop : WorkerLoop) : Nat :=
  max 1 (config.slots - loop.active - loop.ambiguousClaims.length)

section Requests

variable {D : Type}

def LoopIdentity.claim (identity : LoopIdentity) (config : LoopConfig) (loop : WorkerLoop)
    (claimId : Uuid) (now : Instant) : FleetEvent D :=
  .service ⟨now, .claimNextExecution identity.context claimId (loop.availableSlots config)⟩

def LoopIdentity.receipt (identity : LoopIdentity) (snapshot : ReconciliationSnapshot)
    (now : Instant) : FleetEvent D :=
  .readiness now identity.context identity.bootId snapshot.machineGeneration
    snapshot.runtimeStartEpoch

def claimAnswer : Except RuntimeError (FleetReply D × Fleet D) → LoopInput
  | .ok (.service (.claim (some _)), _) => .claimed
  | .ok _ => .claimEmpty
  | .error raised => .claimFailed raised.received

def receiptAnswer : Except RuntimeError (FleetReply D × Fleet D) → LoopInput
  | .ok _ => .reported
  | .error raised => .reportFailed raised.received

end Requests

namespace LoopWorld

variable {D : Type} [DecidableEq D] (env : Env D) (settings : PowerSettings)
  (identity : LoopIdentity) (config : LoopConfig)

/-- A request that may be lost on the way or on the way back. -/
def exchanges (world : LoopWorld D) (request : Instant → FleetEvent D)
    (answer : Except RuntimeError (FleetReply D × Fleet D) → LoopInput) (lost : LoopInput)
    (draw : LoopDraw) : Exchange → Option (LoopWorld D)
  | .answered now =>
    (world.loop.resume config draw (answer (applyEvent env settings (request now) world.fleet))).map
      fun loop => { world with
        fleet := Run.step (applyEvent env settings) world.fleet (request now)
        loop := loop }
  | .lost handled =>
    (world.loop.resume config draw lost).map fun loop => { world with
      fleet :=
        match handled with
        | none => world.fleet
        | some now => Run.step (applyEvent env settings) world.fleet (request now)
      loop := loop }

def step (world : LoopWorld D) : LoopHappening D → Option (LoopWorld D)
  | .foundry event =>
    some { world with fleet := Run.step (applyEvent env settings) world.fleet event }
  | .fetchSnapshot =>
    ((world.fleet.store.db.workspaces.lookup identity.context.workspace).filter
      fun workspace => workspace.machineGeneration = identity.context.machineGeneration ∧
        workspace.isServing).map fun workspace =>
      { world with
        snapshot := some ⟨identity.context.machineGeneration, workspace.runtimeStartEpoch,
          workspace.activityRevision⟩ }
  | .profilesDone draw materialized =>
    (world.loop.resume config draw (.profilesDone materialized
      (world.snapshot.map fun snapshot => ⟨snapshot.activityRevision, true⟩))).map
        fun loop => { world with loop := loop }
  | .claims draw exchange =>
    match world.loop.point with
    | .claiming claimId =>
      world.exchanges env settings config (identity.claim config world.loop claimId)
        claimAnswer (.claimFailed lostResponse) draw exchange
    | _ => none
  | .reports draw exchange =>
    match world.loop.point, world.snapshot with
    | .reporting _, some snapshot =>
      world.exchanges env settings config (identity.receipt snapshot) receiptAnswer
        (.reportFailed lostResponse) draw exchange
    | _, _ => none
  | .answers draw input =>
    if input.isService then none
    else (world.loop.resume config draw input).map fun loop => { world with loop := loop }
  | .taskDone => some { world with loop := world.loop.taskDone }
  | .stop => some { world with loop := world.loop.stop }

def apply (happening : LoopHappening D) (world : LoopWorld D) :
    Except Unit (Unit × LoopWorld D) :=
  match world.step env settings identity config happening with
  | some next => .ok ((), next)
  | none => .error ()

omit [DecidableEq D] in
/-- The worker starts, over a Foundry where nothing has happened. -/
def started (draw : LoopDraw) (waitEnabled : Bool) : LoopWorld D where
  fleet := Fleet.empty
  loop := WorkerLoop.start config draw waitEnabled
  snapshot := none

def after (world : LoopWorld D) (happenings : List (LoopHappening D)) : LoopWorld D :=
  Run.run (apply env settings identity config) world happenings

end LoopWorld

end Foundry
