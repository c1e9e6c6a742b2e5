import Foundry.Pool.Maintenance

/-!
# What a maintenance worker records

The checks and writes of a worker under its claim.  `held` is the row that every one of them
asks for: the claim's owner holds the bundle, and the claim has not lapsed.
-/

set_option autoImplicit false

namespace Foundry

open Raise

variable {D : Type}

/-- `_cleanup_allowed`, on the Workspace the caller has. -/
def PoolStore.cleanupAllowed (workspaceId : Uuid) (workspace : Workspace) (now : Instant)
    (store : PoolStore D) : Bool :=
  workspace.isPooled && !workspace.claimLive now && !store.isOccupied workspaceId

namespace PoolClaim

variable (env : Env D) (config : PoolConfig) (now : Instant) (claim : PoolClaim)
  (store : PoolStore D)

/-- The claimed bundle, while the claim is the row's and has not lapsed. -/
def held : Option ReadyWorkspaceBundle :=
  (store.bundles.lookup claim.bundle).filter fun bundle =>
    bundle.phaseClaimOwner = some claim.owner ∧
      (bundle.phaseClaimUntil.any fun lapse => decide (now < lapse)) = true

def claimedWorkspace : Option Workspace :=
  store.db.workspaces.lookup claim.workspace

/-- `_claim_is_live`. -/
def isLive : Bool :=
  (claim.held now store).any fun bundle => bundle.workspace = claim.workspace

/-- A transaction that rewrites the claimed bundle, where it applies; its result says
whether it wrote. -/
def record (rewrite : ReadyWorkspaceBundle → Option BundleColumns) :
    Except RuntimeError (Bool × PoolStore D) :=
  match (claim.held now store).bind rewrite with
  | none => return (false, store)
  | some columns => do
      let next ← store.saveBundle claim.bundle columns
      return (true, next)

def recordWith (rewrite : ReadyWorkspaceBundle → Workspace → Option BundleColumns) :
    Except RuntimeError (Bool × PoolStore D) :=
  claim.record now store fun bundle => (claim.claimedWorkspace store).bind (rewrite bundle)

end PoolClaim

/-- A proof was renewed: nobody holds the bundle, and it is due again after the freshness of
its health. -/
def BundleColumns.renewed (config : PoolConfig) (now : Instant) (columns : BundleColumns) :
    BundleColumns :=
  { columns with
    expiresAt := some (now + seconds config.readyTtlSeconds)
    lastHealthAt := some now
    nextAttemptAt := now + seconds config.healthFreshnessSeconds
    attemptCount := 0
    safeErrorCode := none
    phaseClaimOwner := none
    phaseClaimUntil := none }

def BundleColumns.released (columns : BundleColumns) : BundleColumns :=
  { columns with
    phaseClaimOwner := none
    phaseClaimUntil := none }

def BundleColumns.retried (config : PoolConfig) (now : Instant) (code : String)
    (columns : BundleColumns) : BundleColumns :=
  let attempts := min (columns.attemptCount + 1) config.maxAttempts
  { columns.released with
    attemptCount := attempts
    safeErrorCode := some (safeCodeValue (some code) "provider_retryable")
    nextAttemptAt := now + seconds (min 60 (2 ^ (attempts - 1))) }

namespace PoolClaim

variable (env : Env D) (config : PoolConfig) (now : Instant) (claim : PoolClaim)
  (store : PoolStore D)

/-- `_record_blank_volume`. -/
def recordBlankVolume (volumeRef : Option String) : Except RuntimeError (Bool × PoolStore D) :=
  match volumeRef.filter (· ≠ "") with
  | none => return (false, store)
  | some volume =>
    claim.recordWith now store fun bundle workspace =>
      if bundle.workspace = claim.workspace ∧ bundle.state = .preparing ∧
          (bundle.blankVolumeRef = none ∨ bundle.blankVolumeRef = some volume) ∧
          workspace.volumeRef = some volume ∧
          store.dbBlankReady env now claim.workspace workspace true = true then
        some { bundle.toBundleColumns with blankVolumeRef := some volume }
      else none

/-- `_record_fresh_blank_volume`. -/
def recordFreshBlankVolume (volumeRef : Option String) :
    Except RuntimeError (Bool × PoolStore D) :=
  match volumeRef.filter (· ≠ "") with
  | none => return (false, store)
  | some volume =>
    claim.recordWith now store fun bundle workspace =>
      if bundle.workspace = claim.workspace ∧ bundle.state = .preparing ∧
          (bundle.blankVolumeRef = none ∨ bundle.blankVolumeRef = some volume) ∧
          workspace.isPooled = true ∧ workspace.provisioningPhase = .idle ∧
          (workspace.runtimeOperationState = .idle ∨
            workspace.runtimeOperationState = .awaitingReadiness) ∧
          workspace.releaseTarget.pin = none ∧ workspace.isUnclaimed = true ∧
          isPresent workspace.flyAppRef = true ∧ workspace.volumeRef = some volume ∧
          isPresent workspace.machineRef = true ∧ 0 < workspace.machineGeneration ∧
          store.activeCredentials claim.workspace workspace = 1 ∧
          store.isOccupied claim.workspace = false then
        some { bundle.toBundleColumns with blankVolumeRef := some volume }
      else none

/-- `_mark_ready`. -/
def markReady : Except RuntimeError (Bool × PoolStore D) :=
  claim.recordWith now store fun bundle workspace =>
    if bundle.workspace = claim.workspace ∧ bundle.state = .preparing ∧
        bundle.blankVolumeRef = workspace.volumeRef ∧
        store.dbBlankReady env now claim.workspace workspace true = true then
      some { bundle.toBundleColumns.renewed config now with
        state := .ready
        readyAt := some now }
    else none

/-- `_refresh_health`. -/
def refreshHealth : Except RuntimeError (Bool × PoolStore D) :=
  claim.recordWith now store fun bundle workspace =>
    if bundle.state = .ready ∧ bundle.blankVolumeRef = workspace.volumeRef ∧
        store.dbBlankReady env now claim.workspace workspace true = true then
      some (bundle.toBundleColumns.renewed config now)
    else none

/-- `_park_side_effect_allowed`. -/
def parkSideEffectAllowed : Bool :=
  ((claim.held now store).any fun bundle =>
    bundle.workspace = claim.workspace ∧ bundle.state = .parking) &&
  (claim.claimedWorkspace store).any fun workspace =>
    workspace.isPooled && !workspace.claimLive now

/-- `_mark_sleeping`. -/
def markSleeping : Except RuntimeError (Bool × PoolStore D) :=
  claim.recordWith now store fun bundle workspace =>
    if bundle.workspace = claim.workspace ∧ bundle.state = .parking ∧
        workspace.isPooled = true ∧ bundle.blankVolumeRef = workspace.volumeRef ∧
        store.dbBlankReady env now claim.workspace workspace false = true then
      some { bundle.toBundleColumns.renewed config now with
        state := .sleeping
        readyAt := some (bundle.readyAt.getD now) }
    else none

/-- `_refresh_sleep`. -/
def refreshSleep : Except RuntimeError (Bool × PoolStore D) :=
  claim.recordWith now store fun bundle workspace =>
    if bundle.state = .sleeping ∧ workspace.isPooled = true ∧
        bundle.blankVolumeRef = workspace.volumeRef then
      some (bundle.toBundleColumns.renewed config now)
    else none

/-- `_transition_to_parking`. -/
def transitionToParking : Except RuntimeError (Bool × PoolStore D) :=
  claim.record now store fun bundle =>
    if bundle.state = .sleeping then
      some { bundle.toBundleColumns with
        state := .parking
        nextAttemptAt := now
        safeErrorCode := none }
    else none

/-- `_transition_to_evicting`. -/
def transitionToEvicting (code : String) : Except RuntimeError (Bool × PoolStore D) :=
  claim.record now store fun bundle =>
    if bundle.state ≠ .assigned then
      some { bundle.toBundleColumns with
        state := .evicting
        nextAttemptAt := now
        safeErrorCode := some (safeCodeValue (some code) "stale_bundle") }
    else none

/-- `_mark_evicted`. -/
def markEvicted : Except RuntimeError (Bool × PoolStore D) :=
  claim.recordWith now store fun bundle workspace =>
    if bundle.state ≠ .assigned ∧
        store.cleanupAllowed claim.workspace workspace now = true then
      some { bundle.toBundleColumns.released with
        state := .evicted
        nextAttemptAt := now }
    else none

/-- `_record_pending`. -/
def recordPending : Except RuntimeError (Bool × PoolStore D) :=
  claim.record now store fun bundle =>
    some { bundle.toBundleColumns.released with
      nextAttemptAt := now + seconds 1
      safeErrorCode := some "readiness_pending" }

/-- `_record_retry`: the last attempt fails the bundle. -/
def recordRetry (code : String) : Except RuntimeError (Bool × PoolStore D) :=
  claim.record now store fun bundle =>
    let retried := bundle.toBundleColumns.retried config now code
    some (if config.maxAttempts ≤ retried.attemptCount then { retried with state := .failed }
      else retried)

/-- `_record_phase_retry`. -/
def recordPhaseRetry (code : String) : Except RuntimeError (Bool × PoolStore D) :=
  claim.record now store fun bundle =>
    some (bundle.toBundleColumns.retried config now code)

/-- `_record_terminal_failure`. -/
def recordTerminalFailure (code : String) : Except RuntimeError (Bool × PoolStore D) :=
  claim.record now store fun bundle =>
    if bundle.state ≠ .assigned then
      some { bundle.toBundleColumns.released with
        state := .failed
        attemptCount := min (bundle.attemptCount + 1) config.maxAttempts
        safeErrorCode := some (safeCodeValue (some code) "bundle_failed")
        nextAttemptAt := now + seconds 60 }
    else none

/-- `_cleanup_side_effect_allowed`. -/
def cleanupSideEffectAllowed : Bool :=
  ((claim.held now store).any fun bundle =>
    bundle.workspace = claim.workspace ∧ bundle.state = .evicting) &&
  (claim.claimedWorkspace store).any fun workspace =>
    store.cleanupAllowed claim.workspace workspace now

end PoolClaim

end Foundry
