import Foundry.Pool.Assignment

/-!
# Maintenance of the ready pool

The transactions of `ready_pool_maintenance.py`: the claim that picks a bundle or reserves a
new one, the checks before a side effect, and the writes that record what a worker found.
Every write after the claim asks for the claim's owner and for a claim that has not lapsed.
-/

set_option autoImplicit false

namespace Foundry

open Raise

variable {D : Type}

/-- `_PoolConfig`; the pool prepares one bundle at a time. -/
structure PoolConfig where
  target : Nat
  region : String
  releaseFingerprint : String
  configVersion : Nat
  maxPreparing : Nat
  onePreparing : maxPreparing = 1
  maxAttempts : Nat
  readyTtlSeconds : Nat
  healthFreshnessSeconds : Nat
  phaseClaimSeconds : Nat
  sleepEnabled : Bool
deriving DecidableEq

/-- `_pool_config`. -/
def poolConfig (settings : PoolSettings) : Except RuntimeError PoolConfig := do
  require (settings.target ≤ maxMaintenanceLimit)
    (validationError "pool target is outside the bounded range")
  let region := stripped settings.region
  let release := stripped settings.releaseFingerprint
  require (settings.target ≠ 0 → region ≠ "" ∧ release ≠ "")
    (validationError "pool region and release fingerprint are required when enabled")
  if onePreparing : settings.maxPreparing = 1 then do
    require (1 ≤ settings.maxAttempts ∧ settings.maxAttempts ≤ readyPoolMaxAttempts)
      (validationError "pool attempts are outside the bounded range")
    require (0 < settings.readyTtlSeconds ∧ 0 < settings.healthFreshnessSeconds)
      (validationError "pool timing settings must be positive")
    return {
      target := settings.target
      region := region
      releaseFingerprint := release
      configVersion := settings.configVersion
      maxPreparing := settings.maxPreparing
      onePreparing := onePreparing
      maxAttempts := settings.maxAttempts
      readyTtlSeconds := settings.readyTtlSeconds
      healthFreshnessSeconds := settings.healthFreshnessSeconds
      phaseClaimSeconds := max activationClaimSeconds settings.phaseClaimSeconds
      sleepEnabled := settings.sleepEnabled }
  else throw (validationError "pool preparing capacity must be one")

inductive PoolAction where
  | prepare
  | park
  | sleep
  | health
  | cleanup
deriving DecidableEq, Repr

/-- `_Claim`. -/
structure PoolClaim where
  bundle : Uuid
  workspace : Uuid
  owner : Uuid
  action : PoolAction
  created : Bool
deriving DecidableEq, Repr

/-- `_safe_code_value`. -/
def safeCodeValue (code : Option String) (fallback : String) : String :=
  match code.filter isSafeCode with
  | some safe => safe
  | none => fallback

/-! ## Candidates -/

/-- `state`, `next_attempt_at`, `created_at`, `id`. -/
def dueOrder (left right : Uuid × ReadyWorkspaceBundle) : Prop :=
  left.2.state.text < right.2.state.text ∨
    left.2.state.text = right.2.state.text ∧
      (left.2.nextAttemptAt < right.2.nextAttemptAt ∨
        left.2.nextAttemptAt = right.2.nextAttemptAt ∧
          (left.2.createdAt < right.2.createdAt ∨
            left.2.createdAt = right.2.createdAt ∧ left.1 ≤ right.1))

instance (left right : Uuid × ReadyWorkspaceBundle) : Decidable (dueOrder left right) :=
  inferInstanceAs (Decidable (_ ∨ _ ∧ (_ ∨ _ ∧ (_ ∨ _ ∧ _))))

/-- `last_health_at`, then as `readyOrder`. -/
def healthOrder (left right : Uuid × ReadyWorkspaceBundle) : Prop :=
  left.2.lastHealthAt.getD 0 < right.2.lastHealthAt.getD 0 ∨
    left.2.lastHealthAt.getD 0 = right.2.lastHealthAt.getD 0 ∧ readyOrder left right

instance (left right : Uuid × ReadyWorkspaceBundle) : Decidable (healthOrder left right) :=
  inferInstanceAs (Decidable (_ ∨ _ ∧ _))

def ReadyWorkspaceBundle.isAvailable (bundle : ReadyWorkspaceBundle) (now : Instant) : Bool :=
  bundle.phaseClaimOwner = none ∨ bundle.phaseClaimUntil.any fun lapse => lapse ≤ now

def ReadyWorkspaceBundle.matchesConfig (bundle : ReadyWorkspaceBundle) (config : PoolConfig) :
    Bool :=
  bundle.region = config.region ∧ bundle.releaseFingerprint = config.releaseFingerprint ∧
    bundle.configVersion = config.configVersion

namespace PoolStore

/-- A bundle that a claim takes: the columns it writes besides the claim, and its action. -/
structure Selection where
  id : Uuid
  columns : BundleColumns
  action : PoolAction

variable (env : Env D) (config : PoolConfig) (now : Instant) (locked : List Uuid)
  (store : PoolStore D)

/-- `_db_blank_ready`. -/
def dbBlankReady (workspaceId : Uuid) (workspace : Workspace) (requireRuntimeReady : Bool) : Bool :=
  workspace.isPooled ∧ workspace.provisioningPhase = .idle ∧
    workspace.runtimeOperationState = .idle ∧ workspace.releaseTarget.pin = none ∧
    workspace.isUnclaimed = true ∧
    (requireRuntimeReady = true → isRuntimeReady env now workspace = true) ∧
    store.activeCredentials workspaceId workspace = 1 ∧ store.isOccupied workspaceId = false

/-- `_db_ready_evidence`. -/
def dbReadyEvidence (bundle : ReadyWorkspaceBundle) (workspace : Workspace)
    (requireFreshHealth : Bool) : Bool :=
  bundle.state = .ready ∧ bundle.matchesConfig config = true ∧
    bundle.blankVolumeRef = workspace.volumeRef ∧ bundle.readyAt.isSome = true ∧
    (bundle.expiresAt.any fun expiry => decide (now < expiry)) = true ∧
    (requireFreshHealth = true → (bundle.lastHealthAt.any fun health =>
      decide (now ≤ health + seconds config.healthFreshnessSeconds)) = true) ∧
    store.dbBlankReady env now bundle.workspace workspace true = true

/-- `_stale_code`. -/
def staleCode (bundle : ReadyWorkspaceBundle) (workspace : Workspace) : String :=
  if workspace.isPooled = false then "assigned_cleanup_refused"
  else if bundle.expiresAt.all fun expiry => expiry ≤ now then "bundle_expired"
  else if bundle.lastHealthAt.all fun health =>
      health + seconds config.healthFreshnessSeconds < now then "bundle_health_stale"
  else if bundle.region ≠ config.region then "bundle_region_mismatch"
  else if bundle.releaseFingerprint ≠ config.releaseFingerprint then "bundle_release_mismatch"
  else if bundle.configVersion ≠ config.configVersion then "bundle_config_mismatch"
  else "bundle_not_blank"

/-- The first row of a query whose Workspace no lifecycle worker claims and that `choose`
accepts. -/
def firstUnclaimed (rows : List (Uuid × ReadyWorkspaceBundle))
    (choose : ReadyWorkspaceBundle → Workspace → Option (BundleColumns × PoolAction)) :
    Option Selection :=
  rows.findSome? fun row =>
    ((store.db.workspaces.lookup row.2.workspace).filter fun workspace =>
      !workspace.claimLive now).bind fun workspace =>
        (choose row.2 workspace).map fun chosen => ⟨row.1, chosen.1, chosen.2⟩

def dueAction (bundle : ReadyWorkspaceBundle) (workspace : Workspace) : Option PoolAction :=
  let exhausted := config.maxAttempts ≤ bundle.attemptCount
  if workspace.isPooled = false ∧ bundle.state ≠ .evicting then none
  else if bundle.state = .failed ∧ exhausted ∧
      store.hasOwnedResources bundle.workspace workspace = false then none
  else if bundle.state = .evicting ∨ bundle.state = .failed ∧ exhausted then some .cleanup
  else if bundle.state = .parking then some .park
  else some .prepare

/-- The first query of `_claim_or_reserve`. -/
def dueBundle : Option Selection :=
  store.firstUnclaimed now
    (store.firstBundles maxMaintenanceLimit dueOrder fun id bundle =>
      store.isPooledBundle bundle &&
        decide (bundle.state = .evicting ∨ bundle.state = .parking ∨ bundle.state = .preparing ∨
          bundle.state = .failed) &&
        bundle.isAvailable now && decide (bundle.nextAttemptAt ≤ now) && decide (id ∉ locked))
    fun bundle workspace =>
      (store.dueAction config bundle workspace).map fun action => (bundle.toBundleColumns, action)

/-- `_drain_ready_bundle`, with what its caller writes. -/
def drainReadyBundle : Option Selection :=
  store.firstUnclaimed now
    (store.firstBundles maxMaintenanceLimit readyOrder fun id bundle =>
      decide (bundle.state = .ready ∨ bundle.state = .parking ∨ bundle.state = .sleeping) &&
        store.isPooledBundle bundle && bundle.isAvailable now && decide (id ∉ locked))
    fun bundle workspace =>
      if workspace.isPooled then
        some ({ bundle.toBundleColumns with
          state := .evicting
          nextAttemptAt := now
          safeErrorCode := some "pool_disabled" }, .cleanup)
      else none

/-- `_stale_ready_bundle`, with what its caller writes. -/
def staleReadyBundle : Option Selection :=
  store.firstUnclaimed now
    (store.firstBundles maxMaintenanceLimit readyOrder fun id bundle =>
      decide (bundle.state = .ready) && store.isPooledBundle bundle && bundle.isAvailable now &&
        decide (id ∉ locked))
    fun bundle workspace =>
      if workspace.isPooled ∧
          (store.dbReadyEvidence env config now bundle workspace false &&
            bundle.lastHealthAt.isSome) = false then
        some ({ bundle.toBundleColumns with
          state := .evicting
          nextAttemptAt := now
          safeErrorCode := some (staleCode config now bundle workspace) }, .cleanup)
      else none

/-- `_parking_candidate`, with what its caller writes. -/
def parkingCandidate : Option Selection :=
  store.firstUnclaimed now
    (store.firstBundles maxMaintenanceLimit readyOrder fun id bundle =>
      decide (bundle.state = .ready) && store.isPooledBundle bundle &&
        bundle.matchesConfig config && bundle.isAvailable now && decide (id ∉ locked))
    fun bundle workspace =>
      if bundle.blankVolumeRef = workspace.volumeRef ∧
          store.dbReadyEvidence env config now bundle workspace true = true then
        some ({ bundle.toBundleColumns with state := .parking }, .park)
      else none

/-- `_sleeping_candidate` and `_health_candidate`: the bundles of one state. -/
def candidateIn (state : ReadyWorkspaceBundleState) (action : PoolAction) : Option Selection :=
  store.firstUnclaimed now
    (store.firstBundles maxMaintenanceLimit healthOrder fun id bundle =>
      decide (bundle.state = state) && store.isPooledBundle bundle &&
        bundle.matchesConfig config && decide (bundle.nextAttemptAt ≤ now) &&
        bundle.isAvailable now && decide (id ∉ locked))
    fun bundle workspace =>
      if workspace.isPooled then some (bundle.toBundleColumns, action) else none

def sleepingCandidate : Option Selection := store.candidateIn config now locked .sleeping .sleep

def healthCandidate : Option Selection := store.candidateIn config now locked .ready .health

/-- The bundle that `_claim_or_reserve` claims before it thinks of reserving one. -/
def claimable (drain : Bool) : Option Selection :=
  store.dueBundle config now locked
    <|> (if drain = true ∧ config.target = 0 then store.drainReadyBundle now locked else none)
    <|> store.staleReadyBundle env config now locked
    <|> (if config.sleepEnabled then
      store.parkingCandidate env config now locked
        <|> store.sleepingCandidate config now locked
      else none)
    <|> (if 0 < config.target then store.healthCandidate config now locked else none)

/-! ## Capacity -/

def countBundles (test : ReadyWorkspaceBundle → Bool) : Nat :=
  (store.bundles.rows.filter fun row => store.isPooledBundle row.2 && test row.2).length

/-- `_fresh_ready_count`. -/
def freshReadyCount : Nat :=
  store.countBundles fun bundle =>
    bundle.state.isSpare && bundle.matchesConfig config && bundle.readyAt.isSome &&
      (bundle.expiresAt.any fun expiry => decide (now < expiry)) &&
      bundle.lastHealthAt.any fun health =>
        decide (now ≤ health + seconds config.healthFreshnessSeconds)

/-- A reference of the Workspace that is not null, or a credential that is not revoked. -/
def holdsResources (workspaceId : Uuid) : Bool :=
  ((store.db.workspaces.lookup workspaceId).any fun workspace =>
    workspace.flyAppRef.isSome || workspace.volumeRef.isSome || workspace.machineRef.isSome) ||
  store.credentials.rows.any fun row => row.2.workspace = workspaceId ∧ row.2.revokedAt = none

/-- `_occupied_count`. -/
def occupiedCount : Nat :=
  store.countBundles fun bundle =>
    match bundle.state with
    | .preparing | .ready | .parking | .sleeping | .evicting => true
    | .failed => store.holdsResources bundle.workspace
    | .assigned | .evicted => false

def preparingCount : Nat :=
  store.countBundles fun bundle => bundle.state = .preparing

def reservedColumns (workspaceId owner : Uuid) : BundleColumns where
  workspace := workspaceId
  state := .preparing
  region := config.region
  releaseFingerprint := config.releaseFingerprint
  blankVolumeRef := none
  configVersion := config.configVersion
  attemptCount := 0
  nextAttemptAt := now
  phaseClaimOwner := some owner
  phaseClaimUntil := some (now + seconds config.phaseClaimSeconds)
  readyAt := none
  expiresAt := none
  lastHealthAt := none
  assignedAt := none
  safeErrorCode := none
  createdAt := now

/-- The reservation at the end of `_claim_or_reserve`: a Workspace and its bundle, under the
next identifiers. -/
def reserve (owner : Uuid) : Except RuntimeError (Option PoolClaim × PoolStore D) := do
  if config.target ≤ store.freshReadyCount config now then return (none, store)
  if config.target + config.maxPreparing ≤ store.occupiedCount then return (none, store)
  if config.maxPreparing ≤ store.preparingCount then return (none, store)
  let tenantRef := "pool:" ++ env.uuidText store.db.supply
  require (store.db.workspaceByTenant tenantRef = none) (integrityError "tenant_ref")
  let workspaceId := store.db.supply + 1
  let bundleId := store.db.supply + 2
  let created := store.draw.draw.draw.putWorkspace workspaceId (Workspace.registered tenantRef)
  let reserved ← created.saveBundle bundleId (reservedColumns config now workspaceId owner)
  return (some ⟨bundleId, workspaceId, owner, .prepare, true⟩, reserved)

/-- `_claim_or_reserve`. -/
def claimOrReserve (allowCreate drain : Bool) :
    Except RuntimeError (Option PoolClaim × PoolStore D) := do
  let owner := store.db.supply
  let drawn := store.draw
  match drawn.claimable env config now locked drain with
  | some selection => do
      let claimed ← drawn.saveBundle selection.id { selection.columns with
        phaseClaimOwner := some owner
        phaseClaimUntil := some (now + seconds config.phaseClaimSeconds) }
      return (some ⟨selection.id, selection.columns.workspace, owner, selection.action, false⟩,
        claimed)
  | none => if allowCreate then drawn.reserve env config now owner else return (none, drawn)

end PoolStore

end Foundry
