import Foundry.Pool.Records

/-!
# Maintenance workers

`_run_claim` of `ready_pool_maintenance.py`, cut before every transaction, every read and every
call of the provider adapter.  A `PoolPoint` is the place a worker has reached, with the local
variables the rest of its program reads; a Workspace it holds is the copy it read.  The
adapter's answers and every exception are inputs.
-/

set_option autoImplicit false

namespace Foundry

open Raise

variable {D : Type}

/-! ## The adapter -/

inductive PoolCall where
  | activate
  | inspect
  | recordFreshVolume
  | park
  | cleanup
deriving DecidableEq, Repr

/-- The identifiers of an owner are `none` when they are no UUIDs. -/
structure PoolProviderSnapshot where
  appRef : String
  volumeRef : String
  machineRef : String
  region : String
  machineState : String
  healthContainers : List (String × String)
  ownershipWorkspaceId : Option Uuid
  ownershipOperationId : Option Uuid
  ownershipGeneration : Nat
  volumeAttachedMachineRef : Option String
  images : Images
  configFingerprint : String
  cpuKind : Option String
  cpus : Option Nat
  memoryMb : Option Nat
  volumeSizeGb : Option Nat
  blank : Bool
deriving DecidableEq, Repr

inductive PoolAnswer where
  | nothing
  | flag (value : Bool)
  | text (reference : String)
  | snapshot (found : PoolProviderSnapshot)
deriving DecidableEq, Repr

def PoolAnswer.machineState : PoolAnswer → Option String
  | PoolAnswer.snapshot found => some found.machineState.toLower
  | _ => none

def PoolAnswer.volumeRef : PoolAnswer → Option String
  | PoolAnswer.snapshot found => some found.volumeRef
  | _ => none

def PoolAnswer.reference : PoolAnswer → Option String
  | .text reference => some reference
  | _ => none

/-- An exception, as `_is_retryable`, `_readiness_pending` and `_safe_code` read it;
`isPending` tells a `PoolReadinessPending`. -/
structure PoolRaised where
  isPending : Bool
  retryable : Bool
  readinessPending : Bool
  code : Option String
deriving DecidableEq, Repr

/-- `PoolReadinessPending`. -/
def PoolRaised.pending : PoolRaised := ⟨true, true, true, some "readiness_pending"⟩

/-- `PoolValidationError`. -/
def PoolRaised.invalid (code : String) : PoolRaised := ⟨false, false, false, some code⟩

/-- What a transaction of the worker itself raised; the codes of these classes are not safe. -/
def PoolRaised.database : PoolRaised := ⟨false, false, false, none⟩

/-- `_safe_code`. -/
def PoolRaised.safeCode (exc : PoolRaised) (fallback : String) : String :=
  safeCodeValue exc.code fallback

/-- What the workers take from outside; `recordsFreshVolume` says that the adapter has the
optional method. -/
structure PoolEnv (D : Type) where
  foundry : Env D
  poolConfigFingerprint : String → Images → String
  isImmutableImage : String → Bool
  recordsFreshVolume : Bool

/-! ## Validation -/

/-- `set(names) == {"hermes", "allies-runtime"}`. -/
def namesRequired (entries : List (String × String)) : Bool :=
  (entries.all fun entry => entry.1 = "hermes" ∨ entry.1 = "allies-runtime") &&
    (entries.any fun entry => entry.1 = "hermes") &&
    entries.any fun entry => entry.1 = "allies-runtime"

/-- `_blank_volume_proven`. -/
def PoolStore.blankVolumeProven (workspaceId : Uuid) (volumeRef : Option String)
    (store : PoolStore D) : Bool :=
  isPresent volumeRef && store.bundles.rows.any fun row =>
    row.2.workspace = workspaceId ∧ row.2.blankVolumeRef = volumeRef

/-- `_validate_ready` of a snapshot that is one. -/
def checkSnapshot (env : PoolEnv D) (settings : PoolSettings) (config : PoolConfig)
    (sleeping : Bool) (workspaceId : Uuid) (workspace : Workspace) (proven : Bool)
    (snapshot : PoolProviderSnapshot) : Except PoolRaised Unit := do
  require (snapshot.blank = true) (.invalid "volume_not_blank")
  require (proven = true) (.invalid "blank_volume_proof_missing")
  require (snapshot.machineState.toLower = if sleeping then "stopped" else "started") .pending
  require (sleeping = false → namesRequired snapshot.healthContainers = true ∧
      (snapshot.healthContainers.all fun container =>
        container.2.toLower ∈ ["started", "healthy", "passing"]) = true) .pending
  require (isPresent workspace.flyAppRef = true ∧ workspace.flyAppRef = some snapshot.appRef)
    (.invalid "provider_app_ref_mismatch")
  require (isPresent workspace.volumeRef = true ∧ workspace.volumeRef = some snapshot.volumeRef)
    (.invalid "provider_volume_ref_mismatch")
  require (isPresent workspace.machineRef = true ∧ workspace.machineRef = some snapshot.machineRef)
    (.invalid "provider_machine_ref_mismatch")
  require (config.region ≠ "" ∧ snapshot.region = config.region)
    (.invalid "provider_region_mismatch")
  require (snapshot.volumeAttachedMachineRef = workspace.machineRef ∨
      sleeping = true ∧ snapshot.volumeAttachedMachineRef = none)
    (.invalid "volume_attachment_mismatch")
  require (snapshot.ownershipWorkspaceId = some workspaceId)
    (.invalid "provider_workspace_ownership_mismatch")
  require (snapshot.ownershipGeneration = workspace.machineGeneration)
    (.invalid "provider_generation_mismatch")
  require (workspace.provisioningId = none ∨
      snapshot.ownershipOperationId = workspace.provisioningId)
    (.invalid "provider_operation_ownership_mismatch")
  require (namesRequired snapshot.images = true) (.invalid "provider_topology_mismatch")
  require ((snapshot.images.all fun image => env.isImmutableImage image.2) = true)
    (.invalid "provider_images_unpinned")
  require (snapshot.configFingerprint = env.poolConfigFingerprint config.region snapshot.images)
    (.invalid "provider_config_fingerprint_invalid")
  require (snapshot.configFingerprint = config.releaseFingerprint)
    (.invalid "provider_config_fingerprint_mismatch")
  require (snapshot.cpuKind = some settings.cpuKind) (.invalid "provider_cpu_kind_mismatch")
  require (snapshot.cpus = some settings.cpus) (.invalid "provider_cpus_mismatch")
  require (snapshot.memoryMb = some settings.memoryMb) (.invalid "provider_memory_mismatch")
  require ((snapshot.volumeSizeGb.any fun size => decide (settings.volumeSizeGb ≤ size)) = true)
    (.invalid "provider_volume_size_mismatch")

/-- `_validate_ready`. -/
def validateReady (env : PoolEnv D) (settings : PoolSettings) (config : PoolConfig)
    (now : Instant) (requireBlankProof sleeping : Bool) (workspaceId : Uuid)
    (workspace : Workspace) (answer : PoolAnswer) (store : PoolStore D) :
    Except PoolRaised Unit := do
  require (store.dbBlankReady env.foundry now workspaceId workspace (!sleeping) = true)
    (.invalid "workspace_not_blank")
  match answer with
  | .nothing | .flag false => throw .pending
  | .flag true => throw (.invalid "provider_snapshot_missing")
  | .text _ => throw (.invalid "volume_not_blank")
  | .snapshot snapshot =>
    checkSnapshot env settings config sleeping workspaceId workspace
      (!requireBlankProof || store.blankVolumeProven workspaceId workspace.volumeRef) snapshot

/-! ## Points -/

inductive Refresh where
  | inspect
  | freshVolume
  /-- The exception that ended a preparation, and the instant it was caught. -/
  | failure (exc : PoolRaised) (caughtAt : Instant)
  | park
  | cleanup
deriving DecidableEq, Repr

inductive PoolRecord where
  | ready
  | health
  | sleep
  | sleeping
  | evicted
  | pending
  | retry (code : String)
  | phaseRetry (code : String)
  | terminalFailure (code : String)
  /-- `assigned_cleanup_refused`. -/
  | refused
deriving DecidableEq, Repr

inductive PoolOutcome where
  | refreshed
  | evicted
  | failed
  | skipped
  /-- An exception left the pass. -/
  | raised
deriving DecidableEq, Repr

inductive PoolPoint where
  | checking
  | loading
  | calling (call : PoolCall) (workspace : Workspace) (issued : Bool)
  | refreshing (purpose : Refresh)
  | validating (workspace : Workspace) (answer : PoolAnswer) (observedAt : Instant)
  | recordingBlank (answer : PoolAnswer) (observedAt : Instant)
  | recordingFresh (volumeRef : Option String) (observedAt : Instant)
  | toParking (observedAt : Instant)
  | toEvicting (code : String) (observedAt : Instant)
  | parkChecking (workspace : Workspace)
  | parkAllowing (workspace : Workspace)
  | cleanupChecking (workspace : Workspace)
  | cleanupAllowing (workspace : Workspace)
  | recording (record : PoolRecord) (observedAt : Instant)
  | done (outcome : PoolOutcome)
deriving DecidableEq, Repr

/-- A worker under its claim.  `guarded` says that it is inside the `try` of
`_run_sleep_check`. -/
structure PoolWorker where
  claim : PoolClaim
  settings : PoolSettings
  config : PoolConfig
  claimedAt : Instant
  point : PoolPoint
  guarded : Bool
deriving DecidableEq

inductive PoolInput where
  /-- The next transaction or read, or the adapter is called. -/
  | goesOn
  | answered (answer : PoolAnswer)
  | raised (exc : PoolRaised)
deriving DecidableEq

namespace PoolRecord

def write (env : PoolEnv D) (config : PoolConfig) (now : Instant) (claim : PoolClaim)
    (store : PoolStore D) : PoolRecord → Except RuntimeError (Bool × PoolStore D)
  | .ready => claim.markReady env.foundry config now store
  | .health => claim.refreshHealth env.foundry config now store
  | .sleep => claim.refreshSleep config now store
  | .sleeping => claim.markSleeping env.foundry config now store
  | .evicted => claim.markEvicted now store
  | .pending => claim.recordPending now store
  | .retry code => claim.recordRetry config now store code
  | .phaseRetry code => claim.recordPhaseRetry config now store code
  | .terminalFailure code => claim.recordTerminalFailure config now store code
  | .refused => claim.recordTerminalFailure config now store "assigned_cleanup_refused"

/-- The result of the pass; `failed` says that the bundle is FAILED afterwards. -/
def outcome (wrote failed : Bool) : PoolRecord → PoolOutcome
  | .ready | .health | .sleep | .sleeping => if wrote then .refreshed else .skipped
  | .evicted => if wrote then .evicted else .skipped
  | .pending | .phaseRetry _ => .skipped
  | .retry _ => if wrote && failed then .failed else .skipped
  | .terminalFailure _ => if wrote then .failed else .skipped
  | .refused => .failed

end PoolRecord

namespace PoolWorker

def moveTo (point : PoolPoint) (worker : PoolWorker) : PoolWorker := { worker with point := point }

/-! ## Exceptions -/

/-- The handler of `_run_prepare`. -/
def prepareFailed (env : PoolEnv D) (exc : PoolRaised) (now : Instant) (worker : PoolWorker) :
    PoolWorker :=
  if exc.isPending ∨ exc.readinessPending then
    if env.recordsFreshVolume then worker.moveTo (.refreshing .freshVolume)
    else worker.moveTo (.recording .pending now)
  else if exc.retryable then
    worker.moveTo (.recording (.retry (exc.safeCode "provider_retryable")) now)
  else worker.moveTo (.refreshing (.failure exc now))

/-- The handler of `_run_park`. -/
def parkFailed (exc : PoolRaised) (now : Instant) (worker : PoolWorker) : PoolWorker :=
  if exc.isPending then worker.moveTo (.recording .pending now)
  else if exc.retryable then
    worker.moveTo (.recording (.phaseRetry (exc.safeCode "park_pending")) now)
  else worker.moveTo (.toEvicting (exc.safeCode "park_failed") now)

/-- The handler of `_run_sleep_check`. -/
def sleepFailed (exc : PoolRaised) (now : Instant) (worker : PoolWorker) : PoolWorker :=
  let left := { worker with guarded := false }
  if exc.retryable ∨ exc.readinessPending then
    left.moveTo (.recording (.phaseRetry (exc.safeCode "sleep_inspection_failed")) now)
  else left.moveTo (.toEvicting (exc.safeCode "sleep_validation_failed") now)

/-- The handler of `_run_health_check`. -/
def healthFailed (exc : PoolRaised) (now : Instant) (worker : PoolWorker) : PoolWorker :=
  if exc.retryable = true ∧ exc.readinessPending = false then
    worker.moveTo (.recording (.retry (exc.safeCode "health_check_failed")) now)
  else
    let fallback := if exc.readinessPending then "provider_not_ready" else "stale_bundle"
    worker.moveTo (.toEvicting (exc.safeCode fallback) now)

/-- The handler of `_run_cleanup`. -/
def cleanupFailed (exc : PoolRaised) (now : Instant) (worker : PoolWorker) : PoolWorker :=
  if exc.isPending ∨ exc.retryable then
    worker.moveTo (.recording (.retry (exc.safeCode "cleanup_pending")) now)
  else if exc.safeCode "" = "provider_not_found" then worker.moveTo (.recording .evicted now)
  else worker.moveTo (.recording (.retry (exc.safeCode "cleanup_failed")) now)

def escapes (exc : PoolRaised) (now : Instant) (worker : PoolWorker) : PoolWorker :=
  if worker.guarded then worker.sleepFailed exc now else worker.moveTo (.done .raised)

/-- The handler of an inspection and of what follows it in its `try`. -/
def inspectionFailed (env : PoolEnv D) (exc : PoolRaised) (now : Instant) (worker : PoolWorker) :
    PoolWorker :=
  match worker.claim.action with
  | .prepare => worker.prepareFailed env exc now
  | .sleep => worker.sleepFailed exc now
  | .health => worker.healthFailed exc now
  | .park | .cleanup => worker.escapes exc now

def raises (env : PoolEnv D) (exc : PoolRaised) (now : Instant) (worker : PoolWorker) :
    PoolWorker :=
  match worker.point with
  | .calling .activate _ _ | .refreshing .inspect | .recordingBlank _ _ =>
    worker.prepareFailed env exc now
  | .calling .inspect _ _ | .validating _ _ _ => worker.inspectionFailed env exc now
  | .calling .recordFreshVolume _ _ | .refreshing .freshVolume =>
    worker.moveTo (.recording .pending now)
  | .calling .park _ _ | .parkAllowing _ => worker.parkFailed exc now
  | .calling .cleanup _ _ | .cleanupAllowing _ => worker.cleanupFailed exc now
  | .checking | .loading | .refreshing _ | .recordingFresh _ _ | .toParking _ | .toEvicting _ _
  | .parkChecking _ | .cleanupChecking _ | .recording _ _ => worker.escapes exc now
  | .done _ => worker

/-! ## Steps -/

def begins (workspace : Workspace) (worker : PoolWorker) : PoolWorker :=
  match worker.claim.action with
  | .cleanup => worker.moveTo (.cleanupChecking workspace)
  | .park => worker.moveTo (.parkChecking workspace)
  | .sleep => { worker with guarded := true, point := .calling .inspect workspace false }
  | .health => worker.moveTo (.calling .inspect workspace false)
  | .prepare => worker.moveTo (.calling .activate workspace false)

def refreshed (purpose : Refresh) (workspace : Workspace) (store : PoolStore D)
    (worker : PoolWorker) : PoolWorker :=
  match purpose with
  | .inspect => worker.moveTo (.calling .inspect workspace false)
  | .freshVolume => worker.moveTo (.calling .recordFreshVolume workspace false)
  | .park => worker.moveTo (.parkChecking workspace)
  | .cleanup => worker.moveTo (.cleanupChecking workspace)
  | .failure exc caughtAt =>
    if store.hasOwnedResources worker.claim.workspace workspace then
      worker.moveTo (.toEvicting (exc.safeCode "bundle_validation_failed") caughtAt)
    else
      worker.moveTo (.recording (.terminalFailure (exc.safeCode "bundle_prepare_failed"))
        caughtAt)

/-- After `_validate_ready` passed. -/
def validated (answer : PoolAnswer) (observedAt : Instant) (worker : PoolWorker) : PoolWorker :=
  match worker.claim.action with
  | .prepare => worker.moveTo (.recordingBlank answer observedAt)
  | .sleep => { worker with guarded := false, point := .recording .sleep observedAt }
  | .health | .park | .cleanup => worker.moveTo (.recording .health observedAt)

/-- After a transaction: the point it leads to, or the handler of what it raised. -/
def afterWrite (env : PoolEnv D) (now : Instant) (wrote refused : PoolPoint)
    (result : Except RuntimeError (Bool × PoolStore D)) (store : PoolStore D)
    (worker : PoolWorker) : PoolWorker × PoolStore D :=
  match result with
  | .ok (written, next) => (worker.moveTo (if written then wrote else refused), next)
  | .error _ => (worker.raises env .database now, store)

def answered (env : PoolEnv D) (now : Instant) (answer : PoolAnswer) (worker : PoolWorker) :
    PoolWorker :=
  match worker.point with
  | .calling .activate _ true => worker.moveTo (.refreshing .inspect)
  | .calling .inspect workspace true =>
    if worker.claim.action = .sleep ∧ answer.machineState = some "started" then
      worker.moveTo (.toParking now)
    else worker.moveTo (.validating workspace answer now)
  | .calling .recordFreshVolume _ true => worker.moveTo (.recordingFresh answer.reference now)
  | .calling .park _ true =>
    if answer = .flag true then worker.moveTo (.recording .sleeping now)
    else worker.raises env .pending now
  | .calling .cleanup _ true =>
    if answer = .flag false then worker.raises env .pending now
    else worker.moveTo (.recording .evicted now)
  | _ => worker

/-- The next transaction or read of the worker, or its call. -/
def goesOn (env : PoolEnv D) (now : Instant) (worker : PoolWorker) (store : PoolStore D) :
    PoolWorker × PoolStore D :=
  let skip : PoolPoint := .done .skipped
  match worker.point with
  | .checking =>
    -- The instant is the one of the claim, not the present.
    let live := worker.claim.isLive worker.claimedAt store
    (worker.moveTo (if live then .loading else skip), store)
  | .loading =>
    match worker.claim.claimedWorkspace store with
    | some workspace => (worker.begins workspace, store)
    | none => (worker.moveTo (.recording (.terminalFailure "workspace_missing") now), store)
  | .calling call workspace false => (worker.moveTo (.calling call workspace true), store)
  | .calling _ _ true => (worker, store)
  | .refreshing purpose =>
    match worker.claim.claimedWorkspace store, purpose with
    | some workspace, purpose => (worker.refreshed purpose workspace store, store)
    | none, .failure _ _ =>
      (worker.moveTo (.recording (.terminalFailure "workspace_missing") worker.claimedAt),
        store)
    | none, _ => (worker.raises env .database now, store)
  | .validating workspace answer observedAt =>
    match validateReady env worker.settings worker.config observedAt
        (decide (worker.claim.action ≠ .prepare)) (decide (worker.claim.action = .sleep))
        worker.claim.workspace workspace answer store with
    | .ok _ => (worker.validated answer observedAt, store)
    | .error exc => (worker.raises env exc now, store)
  | .recordingBlank answer observedAt =>
    worker.afterWrite env now (.recording .ready observedAt) skip
      (worker.claim.recordBlankVolume env.foundry observedAt store answer.volumeRef) store
  | .recordingFresh volumeRef observedAt =>
    worker.afterWrite env now (.recording .pending now) (.recording .pending now)
      (worker.claim.recordFreshBlankVolume observedAt store volumeRef) store
  | .toParking observedAt =>
    worker.afterWrite env now (.refreshing .park) skip
      (worker.claim.transitionToParking observedAt store) store
  | .toEvicting code observedAt =>
    worker.afterWrite env now (.refreshing .cleanup) skip
      (worker.claim.transitionToEvicting observedAt store code) store
  | .parkChecking workspace =>
    let live := worker.claim.isLive now store
    (worker.moveTo (if live then .parkAllowing workspace else skip), store)
  | .parkAllowing workspace =>
    let allowed := worker.claim.parkSideEffectAllowed now store
    (worker.moveTo (if allowed then .calling .park workspace false else skip), store)
  | .cleanupChecking workspace =>
    let allowed := store.cleanupAllowed worker.claim.workspace workspace now
    (worker.moveTo (if allowed then .cleanupAllowing workspace else .recording .refused now),
      store)
  | .cleanupAllowing workspace =>
    let allowed := worker.claim.cleanupSideEffectAllowed now store
    (worker.moveTo (if allowed then .calling .cleanup workspace false else skip), store)
  | .recording record observedAt =>
    match record.write env worker.config observedAt worker.claim store with
    | .ok (wrote, next) =>
      let failed := (next.bundles.lookup worker.claim.bundle).any fun bundle =>
        bundle.state = .failed
      (worker.moveTo (.done (record.outcome wrote failed)), next)
    | .error _ => (worker.raises env .database now, store)
  | .done _ => (worker, store)

def step (env : PoolEnv D) (now : Instant) (input : PoolInput) (worker : PoolWorker)
    (store : PoolStore D) : PoolWorker × PoolStore D :=
  match input with
  | .goesOn => worker.goesOn env now store
  | .answered answer => (worker.answered env now answer, store)
  | .raised exc => (worker.raises env exc now, store)

/-! ## A worker keeps its claim -/

section Claim

variable {env : PoolEnv D} {exc : PoolRaised} {now : Instant} {worker : PoolWorker}

@[simp] theorem moveTo_claim (point : PoolPoint) : (worker.moveTo point).claim = worker.claim :=
  rfl

@[simp] theorem sleepFailed_claim : (worker.sleepFailed exc now).claim = worker.claim := by
  rw [sleepFailed]
  split <;> rfl

@[simp] theorem prepareFailed_claim :
    (worker.prepareFailed env exc now).claim = worker.claim := by
  rw [prepareFailed]
  split
  · split <;> rfl
  · split <;> rfl

@[simp] theorem parkFailed_claim : (worker.parkFailed exc now).claim = worker.claim := by
  rw [parkFailed]
  split
  · rfl
  · split <;> rfl

@[simp] theorem healthFailed_claim : (worker.healthFailed exc now).claim = worker.claim := by
  rw [healthFailed]
  split <;> rfl

@[simp] theorem cleanupFailed_claim : (worker.cleanupFailed exc now).claim = worker.claim := by
  rw [cleanupFailed]
  split
  · rfl
  · split <;> rfl

@[simp] theorem escapes_claim : (worker.escapes exc now).claim = worker.claim := by
  rw [escapes]
  split
  · exact sleepFailed_claim
  · rfl

@[simp] theorem inspectionFailed_claim :
    (worker.inspectionFailed env exc now).claim = worker.claim := by
  rw [inspectionFailed]
  split <;> simp

@[simp] theorem raises_claim : (worker.raises env exc now).claim = worker.claim := by
  rw [raises]
  split <;> simp

@[simp] theorem begins_claim (workspace : Workspace) :
    (worker.begins workspace).claim = worker.claim := by
  rw [begins]
  split <;> rfl

@[simp] theorem refreshed_claim (purpose : Refresh) (workspace : Workspace)
    (store : PoolStore D) : (worker.refreshed purpose workspace store).claim = worker.claim := by
  cases purpose with
  | failure =>
    simp only [refreshed]
    split <;> rfl
  | _ => rfl

@[simp] theorem validated_claim (answer : PoolAnswer) (observedAt : Instant) :
    (worker.validated answer observedAt).claim = worker.claim := by
  rw [validated]
  split <;> rfl

@[simp] theorem afterWrite_claim (yes no : PoolPoint)
    (result : Except RuntimeError (Bool × PoolStore D)) (store : PoolStore D) :
    (worker.afterWrite env now yes no result store).1.claim = worker.claim := by
  cases result with
  | ok => rfl
  | error => exact raises_claim

@[simp] theorem step_claim (input : PoolInput) (store : PoolStore D) :
    (worker.step env now input store).1.claim = worker.claim := by
  cases input with
  | raised => exact raises_claim
  | answered =>
    simp only [step, answered]
    split
    · rfl
    · split <;> rfl
    · rfl
    · split
      · rfl
      · exact raises_claim
    · split
      · exact raises_claim
      · rfl
    · rfl
  | goesOn =>
    simp only [step, goesOn]
    split
    case h_2 | h_5 | h_6 | h_15 => split <;> simp
    all_goals simp

end Claim

end PoolWorker

end Foundry
