import Foundry.Worker.Errors

/-!
# The worker loop

`_run_loop`, `_reconcile_profiles_or_wait`, `_reconcile_profiles` and `_wait_for_activity`
of `foundry.py`, cut at the places where they wait: `LoopPoint` is where the loop stands,
and `resume` runs it from there to the next such place.
-/

set_option autoImplicit false

namespace Foundry

/-! ## State -/

/-- The arguments of the worker and of its loop, as `__init__` and `_run_loop` accept them. -/
structure LoopConfig where
  slots : Nat
  slotsBounded : 2 ≤ slots ∧ slots ≤ 8
  maxTurns : Option Nat
  idleCycles : Option Nat
  idleDelay : Instant
  leaseSeconds : Instant
  hasReconciler : Bool
  reconcileInterval : Instant
  heartbeatInterval : Instant
deriving DecidableEq, Repr

def minIdleBackoff : Instant := seconds 1

def maxIdleBackoff : Instant := seconds 10

def postMaterializationFastPolls : Nat := 8

def LoopConfig.initialIdleDelay (config : LoopConfig) : Instant :=
  if config.idleDelay = 0 then minIdleBackoff
  else min maxIdleBackoff (max config.idleDelay 10000)

inductive LoopPoint where
  /-- Profiles are being reconciled, since the clock showed `started`. -/
  | reconciling (force : Bool) (started : Instant)
  /-- The readiness receipt is being reported. -/
  | reporting (force : Bool)
  /-- The sleep of `_reconcile_profiles_or_wait` after a failure. -/
  | retrying (force : Bool)
  | claiming (claimId : Uuid)
  | joining
  | waiting
  | sleeping
  | draining
  | ended
  /-- The exception escaped `_run_loop`. -/
  | escaped (error : FoundryError)
deriving DecidableEq, Repr

structure WorkerLoop where
  point : LoopPoint
  stopping : Bool
  results : Nat
  /-- The claim tasks that run. -/
  active : Nat
  empty : Nat
  idleBackoff : Instant
  pollDelay : Instant
  retryPending : Bool
  fastPolls : Nat
  ambiguousClaims : List (Uuid × Instant)
  profilesReconciled : Bool
  lastReconciliation : Option Instant
  reconciliationRetries : Nat
  lastReadinessReport : Option Instant
  activityRevision : Nat
  activityWaitEnabled : Bool
deriving DecidableEq, Repr

/-- What the loop draws while it runs: the clock, a `random.random()` in millionths, and a
fresh claim id. -/
structure LoopDraw where
  now : Instant
  jitter : Nat
  claimId : Uuid
deriving DecidableEq, Repr

structure LoopSnapshot where
  activityRevision : Nat
  hasStartEpoch : Bool
deriving DecidableEq, Repr

/-- `_jittered_idle_delay`. -/
def jitteredIdleDelay (jitter : Nat) (base minimum : Instant) : Instant :=
  max minimum (min maxIdleBackoff (max minimum base) -
    min maxIdleBackoff (max minimum base) * min jitter 999999 / 4000000)

namespace WorkerLoop

variable (config : LoopConfig) (draw : LoopDraw) (loop : WorkerLoop)

/-! ## Between two places -/

def backedOff : WorkerLoop :=
  { loop with
    pollDelay := jitteredIdleDelay draw.jitter loop.idleBackoff config.initialIdleDelay
    idleBackoff := min maxIdleBackoff (loop.idleBackoff * 2) }

def delaysReset : WorkerLoop :=
  { loop with
    idleBackoff := config.initialIdleDelay
    pollDelay := config.initialIdleDelay }

def afterClaims : WorkerLoop :=
  if loop.active ≠ 0 then { loop with point := .joining }
  else if loop.ambiguousClaims ≠ [] then { loop with point := .sleeping }
  else if config.idleCycles.any (· ≤ loop.empty) ∨ loop.stopping = true then
    { loop with point := .ended }
  else if loop.activityWaitEnabled = true ∧ loop.retryPending = false ∧
      seconds 1 < loop.pollDelay then
    { loop with point := .waiting }
  else { loop with point := .sleeping }

/-- The next claim of the round, of an ambiguous claim first. -/
def claims : WorkerLoop :=
  if loop.stopping = false ∧ loop.active + loop.ambiguousClaims.length < config.slots ∧
      config.maxTurns.all (loop.results + loop.active < ·) then
    { loop with
      point := .claiming ((loop.ambiguousClaims.head?.map Prod.fst).getD draw.claimId) }
  else loop.afterClaims config

def round : WorkerLoop :=
  claims config draw
    { loop with
      ambiguousClaims := loop.ambiguousClaims.filter fun claim =>
        draw.now - claim.2 < config.leaseSeconds }

def isReconciled : Bool :=
  config.hasReconciler = false ∨
    (loop.profilesReconciled = true ∧
      loop.lastReconciliation.any (draw.now - · < config.reconcileInterval))

def top : WorkerLoop :=
  if loop.stopping = true ∨ config.maxTurns.any (· ≤ loop.results) then
    if loop.active ≠ 0 then { loop with point := .draining } else { loop with point := .ended }
  else if loop.isReconciled config draw then
    round config draw { loop with reconciliationRetries := 0 }
  else { loop with point := .reconciling false draw.now }

/-- The initialization, until one forced reconciliation succeeds. -/
def initialization : WorkerLoop :=
  if loop.stopping = true then loop.top config draw
  else if config.hasReconciler = false then
    top config draw { loop with reconciliationRetries := 0 }
  else { loop with point := .reconciling true draw.now }

def start (waitEnabled : Bool) : WorkerLoop :=
  initialization config draw
    { point := .ended
      stopping := false
      results := 0
      active := 0
      empty := 0
      idleBackoff := config.initialIdleDelay
      pollDelay := config.initialIdleDelay
      retryPending := false
      fastPolls := 0
      ambiguousClaims := []
      profilesReconciled := !config.hasReconciler
      lastReconciliation := none
      reconciliationRetries := 0
      lastReadinessReport := none
      activityRevision := 0
      activityWaitEnabled := waitEnabled }

/-- `_reconcile_profiles_or_wait` returns true. -/
def reconciled (force : Bool) : WorkerLoop :=
  if force then top config draw { loop with reconciliationRetries := 0 }
  else round config draw { loop with reconciliationRetries := 0 }

/-! ## Answers -/

def reconciliationRetriesOn : FoundryErrorClass → Bool
  | .notReady | .responseLoss | .rateLimited | .serviceUnavailable => true
  | _ => false

def reconciliationFailed (force : Bool) (error : FoundryError) : WorkerLoop :=
  if reconciliationRetriesOn error.errorClass then
    { loop with
      profilesReconciled := false
      reconciliationRetries := loop.reconciliationRetries + 1
      point := .retrying force }
  else { loop with point := .escaped error }

def reportFailed (force : Bool) (error : FoundryError) : WorkerLoop :=
  if error.errorClass = .fenced then
    reconciliationFailed { loop with profilesReconciled := false } force
      ⟨.notReady, error.status, "NOT_READY"⟩
  else loop.reconciliationFailed force error

/-- The profiles are reconciled: the snapshot, and whether the receipt is due. -/
def profilesDone (force : Bool) (started : Instant) (materialized : Bool)
    (snapshot : Option LoopSnapshot) : WorkerLoop :=
  let known :=
    { loop with
      fastPolls := if materialized then postMaterializationFastPolls else loop.fastPolls
      profilesReconciled := true
      lastReconciliation := some draw.now
      activityRevision := max loop.activityRevision
        ((snapshot.map LoopSnapshot.activityRevision).getD 0) }
  if snapshot.any LoopSnapshot.hasStartEpoch ∧ (force = true ∨
      known.lastReadinessReport.all (config.heartbeatInterval ≤ started - ·)) then
    { known with point := .reporting force }
  else known.reconciled config draw force

/-- The request of `claimId` was answered. -/
def answeredClaim (claimId : Uuid) : WorkerLoop :=
  { loop with
    ambiguousClaims := loop.ambiguousClaims.filter fun claim => claim.1 ≠ claimId
    idleBackoff := if loop.retryPending then config.initialIdleDelay else loop.idleBackoff
    retryPending := false }

def claimEmpty (claimId : Uuid) : WorkerLoop :=
  let answered := loop.answeredClaim config claimId
  let counted := { answered with empty := answered.empty + 1 }
  if counted.fastPolls ≠ 0 then
    afterClaims config (delaysReset config { counted with fastPolls := counted.fastPolls - 1 })
  else afterClaims config (counted.backedOff config draw)

def claimed (claimId : Uuid) : WorkerLoop :=
  let answered := loop.answeredClaim config claimId
  claims config draw
    (delaysReset config { answered with fastPolls := 0, active := answered.active + 1 })

def claimRetried : WorkerLoop :=
  afterClaims config { loop.backedOff config draw with retryPending := true }

def claimFailed (claimId : Uuid) (error : FoundryError) : WorkerLoop :=
  match error.errorClass with
  | .responseLoss =>
    claimRetried config draw
      { loop with
        ambiguousClaims :=
          if loop.ambiguousClaims.any fun claim => claim.1 = claimId then loop.ambiguousClaims
          else loop.ambiguousClaims ++ [(claimId, draw.now)] }
  | .fenced | .invalidCredential => afterClaims config { loop with stopping := true }
  | .notReady => claimRetried config draw { loop with profilesReconciled := false }
  | .rateLimited | .serviceUnavailable => loop.claimRetried config draw
  | .foundry | .leaseConflict | .idempotencyConflict | .repairRequired | .invalidRequest =>
    { loop with point := .escaped error }

def joined (done : Nat) : WorkerLoop :=
  if done = 0 then loop.top config draw
  else
    top config draw (delaysReset config
      { loop with
        results := loop.results + min done loop.active
        active := loop.active - done
        empty := 0 })

def waited (changed : Bool) (revision : Nat) : WorkerLoop :=
  let known := { loop with activityRevision := max loop.activityRevision revision }
  if changed then
    top config draw (delaysReset config { known with profilesReconciled := false, empty := 0 })
  else { known with point := .sleeping }

/-- `_wait_for_activity` raises, or gives the waits up. -/
def waitFailed (error : FoundryError) : WorkerLoop :=
  if error.status = 422 then { loop with activityWaitEnabled := false, point := .sleeping }
  else if error.status = 404 ∨ error.code = "MALFORMED_RESPONSE" then
    { loop.backedOff config draw with point := .sleeping }
  else
    match error.errorClass with
    | .fenced | .invalidCredential => top config draw { loop with stopping := true }
    | .notReady =>
      { loop.backedOff config draw with profilesReconciled := false, point := .sleeping }
    | .responseLoss | .rateLimited | .serviceUnavailable =>
      { loop.backedOff config draw with point := .sleeping }
    | .foundry | .leaseConflict | .idempotencyConflict | .repairRequired | .invalidRequest =>
      { loop with point := .escaped error }

end WorkerLoop

/-! ## Steps -/

inductive LoopInput where
  | profilesDone (materialized : Bool) (snapshot : Option LoopSnapshot)
  | profilesFailed (error : FoundryError)
  | reported
  | reportFailed (error : FoundryError)
  | claimEmpty
  | claimed
  | claimFailed (error : FoundryError)
  | joined (done : Nat)
  | waited (changed : Bool) (revision : Nat)
  | waitFailed (error : FoundryError)
  | woke
deriving DecidableEq, Repr

namespace WorkerLoop

/-- The loop from an answer to the next place it waits, if it is the answer of this place. -/
def resume (config : LoopConfig) (draw : LoopDraw) (input : LoopInput) (loop : WorkerLoop) :
    Option WorkerLoop :=
  match input, loop.point with
  | .profilesDone materialized snapshot, .reconciling force started =>
    some (loop.profilesDone config draw force started materialized snapshot)
  | .profilesFailed error, .reconciling force _ =>
    some (loop.reconciliationFailed force error)
  | .reported, .reporting force =>
    some (reconciled config draw { loop with lastReadinessReport := some draw.now } force)
  | .reportFailed error, .reporting force => some (loop.reportFailed force error)
  | .claimEmpty, .claiming claimId => some (loop.claimEmpty config draw claimId)
  | .claimed, .claiming claimId => some (loop.claimed config draw claimId)
  | .claimFailed error, .claiming claimId => some (loop.claimFailed config draw claimId error)
  | .joined done, .joining => some (loop.joined config draw done)
  | .joined _, .draining => some { loop with active := 0, point := .ended }
  | .waited changed revision, .waiting => some (loop.waited config draw changed revision)
  | .waitFailed error, .waiting => some (loop.waitFailed config draw error)
  | .woke, .sleeping => some (loop.top config draw)
  | .woke, .retrying true => some (loop.initialization config draw)
  | .woke, .retrying false => some (loop.top config draw)
  | _, _ => none

/-- A claim task ends; while the loop joins the tasks, that is one it joins. -/
def taskDone (loop : WorkerLoop) : WorkerLoop :=
  if loop.point = .joining ∨ loop.point = .draining then loop
  else { loop with active := loop.active - 1 }

/-- `stop`, with the tasks it cancels. -/
def stop (loop : WorkerLoop) : WorkerLoop :=
  { loop with stopping := true, fastPolls := 0, active := 0 }

end WorkerLoop

end Foundry
