import Foundry.Pool.Bundles
import Foundry.Services.Intents

/-!
# Assignment from the ready pool

`ready_pool.py`, and `register_workspace` of `workspaces.py`, which tries the pool before it
registers a Workspace of its own.  Each function is one transaction; `locked` names the
bundles that other transactions hold and `SKIP LOCKED` passes over.
-/

set_option autoImplicit false

namespace Foundry

open Raise

variable {D : Type}

def maxAssignmentCandidates : Nat := 8
def maxMaintenanceLimit : Nat := 8

structure PoolSettings where
  target : Nat
  region : String
  releaseFingerprint : String
  configVersion : Nat
  maxPreparing : Nat
  maxAttempts : Nat
  readyTtlSeconds : Nat
  healthFreshnessSeconds : Nat
  phaseClaimSeconds : Nat
  sleepEnabled : Bool
  cpuKind : String
  cpus : Nat
  memoryMb : Nat
  volumeSizeGb : Nat
deriving DecidableEq, Repr

/-- A UUID as `str` writes it. -/
def isCanonicalCloudWorkspaceRef (value : String) : Bool :=
  value.toList.length = 36 ∧
    value.toList.zipIdx.all fun place =>
      if place.2 ∈ [8, 13, 18, 23] then place.1 = '-'
      else place.1 ∈ "0123456789abcdef".toList

/-- `ready_at`, then the identifier; a spare bundle has a `ready_at`. -/
def readyOrder (left right : Uuid × ReadyWorkspaceBundle) : Prop :=
  left.2.readyAt.getD 0 < right.2.readyAt.getD 0 ∨
    left.2.readyAt.getD 0 = right.2.readyAt.getD 0 ∧ left.1 ≤ right.1

instance (left right : Uuid × ReadyWorkspaceBundle) : Decidable (readyOrder left right) :=
  inferInstanceAs (Decidable (_ ∨ _ ∧ _))

namespace PoolStore

def firstBundles (limit : Nat)
    (order : Uuid × ReadyWorkspaceBundle → Uuid × ReadyWorkspaceBundle → Prop)
    [DecidableRel order] (test : Uuid → ReadyWorkspaceBundle → Bool) (store : PoolStore D) :
    List (Uuid × ReadyWorkspaceBundle) :=
  ((store.bundles.rows.filter fun row => test row.1 row.2).insertionSort order).take limit

/-- `_eligible`. -/
def eligible (env : Env D) (settings : PoolSettings) (now : Instant)
    (requireSleepingFreshness : Bool) (bundle : ReadyWorkspaceBundle) (workspace : Workspace)
    (store : PoolStore D) : Bool :=
  let fresh := bundle.state ≠ .sleeping ∨ requireSleepingFreshness = true
  bundle.state.isSpare = true ∧ bundle.region = settings.region ∧
    bundle.releaseFingerprint = settings.releaseFingerprint ∧
    bundle.configVersion = settings.configVersion ∧ isPresent workspace.volumeRef = true ∧
    bundle.blankVolumeRef = workspace.volumeRef ∧ bundle.readyAt.isSome = true ∧
    (bundle.expiresAt.any fun expiry => decide (fresh → now < expiry)) = true ∧
    (bundle.lastHealthAt.any fun health =>
      decide (fresh → now ≤ health + seconds settings.healthFreshnessSeconds)) = true ∧
    bundle.phaseClaimOwner = none ∧ bundle.phaseClaimUntil = none ∧
    workspace.isPooled = true ∧ workspace.provisioningPhase = .idle ∧
    workspace.runtimeOperationState = .idle ∧ workspace.isUnclaimed = true ∧
    workspace.releaseTarget.pin = none ∧
    (bundle.state = .ready → isRuntimeReady env now workspace = true) ∧
    store.activeCredentials bundle.workspace workspace = 1 ∧
    store.isOccupied bundle.workspace = false

/-- `_mark_candidate_evicting`. -/
def markCandidateEvicting (id : Uuid) (bundle : ReadyWorkspaceBundle) (now : Instant)
    (safeErrorCode : String) (store : PoolStore D) : Except RuntimeError (PoolStore D) :=
  store.saveBundle id { bundle.toBundleColumns with
    state := .evicting
    nextAttemptAt := now
    safeErrorCode := some safeErrorCode }

/-- `_try_mark_candidate_evicting`: what the savepoint leaves. -/
def tryMarkCandidateEvicting (id : Uuid) (bundle : ReadyWorkspaceBundle) (now : Instant)
    (safeErrorCode : String) (store : PoolStore D) : PoolStore D :=
  match store.markCandidateEvicting id bundle now safeErrorCode with
  | .ok next => next
  | .error _ => store

/-- `mark_ready_bundle_evicting`. -/
def markReadyBundleEvicting (id : Uuid) (safeErrorCode : String) (now : Instant)
    (store : PoolStore D) : Except RuntimeError (PoolStore D) := do
  require (safeErrorCode ≠ "" ∧ safeErrorCode.length ≤ 64)
    (validationError "pool bundle error code is invalid")
  match (store.bundles.lookup id).filter fun bundle => bundle.state.isSpare with
  | none => return store
  | some bundle => return store.tryMarkCandidateEvicting id bundle now safeErrorCode

/-- The Workspace with its new tenant and, when it sleeps, its first wake. -/
def assignedWorkspace (env : Env D) (now : Instant) (tenantRef : String) (sleeping : Bool)
    (workspaceId : Uuid) (workspace : Workspace) (store : PoolStore D) : Workspace :=
  let assigned := { workspace with tenantRef := tenantRef }
  if sleeping then
    requestOnboardingWakeLocked env now workspaceId store.db.supply assigned
      ⟨store.db, ∅, AList.singleton workspaceId none⟩
  else assigned

def transfer (env : Env D) (now : Instant) (tenantRef : String) (id : Uuid)
    (candidate : ReadyWorkspaceBundle) (workspace : Workspace) (store : PoolStore D) :
    Except RuntimeError (PoolStore D) := do
  require (store.db.workspaceByTenant tenantRef = none) (integrityError "tenant_ref")
  let sleeping := decide (candidate.state = .sleeping)
  let renamed := store.draw.putWorkspace candidate.workspace
    (store.assignedWorkspace env now tenantRef sleeping candidate.workspace workspace)
  renamed.saveBundle id { candidate.toBundleColumns with
    state := .assigned
    assignedAt := some now
    safeErrorCode := none }

/-- The first candidate that can be transferred; a stale one is marked on the way. -/
def assignFirst (env : Env D) (settings : PoolSettings) (now : Instant) (tenantRef : String)
    (locked : List Uuid) :
    List Uuid → PoolStore D → Except RuntimeError (Option Uuid × PoolStore D)
  | [], store => return (none, store)
  | id :: rest, store =>
    match (store.bundles.lookup id).filter fun bundle =>
        bundle.isAssignable && decide (id ∉ locked) with
    | none => assignFirst env settings now tenantRef locked rest store
    | some candidate =>
      match store.db.workspaces.lookup candidate.workspace with
      | none => assignFirst env settings now tenantRef locked rest
          (store.tryMarkCandidateEvicting id candidate now "workspace_missing")
      | some workspace =>
        if store.eligible env settings now true candidate workspace then do
          let next ← store.transfer env now tenantRef id candidate workspace
          return (some candidate.workspace, next)
        else if candidate.state = .sleeping ∧
            store.eligible env settings now false candidate workspace = true then
          -- Age alone must never recycle a stopped spare.
          assignFirst env settings now tenantRef locked rest store
        else assignFirst env settings now tenantRef locked rest
          (store.tryMarkCandidateEvicting id candidate now "stale_candidate")

/-- `_assign_ready_workspace_once`. -/
def assignReadyWorkspaceOnce (env : Env D) (settings : PoolSettings) (now : Instant)
    (tenantRef : String) (locked : List Uuid) (store : PoolStore D) :
    Except RuntimeError (Option Uuid × PoolStore D) :=
  match store.db.workspaceByTenant tenantRef with
  | some existing => return (some existing.1, store)
  | none =>
    let candidates := store.firstBundles maxAssignmentCandidates readyOrder
      fun _ bundle => bundle.isAssignable
    assignFirst env settings now tenantRef locked (candidates.map Prod.fst) store

def assignReadyWorkspace (env : Env D) (settings : PoolSettings) (now : Instant)
    (tenantRef : String) (locked : List Uuid) (store : PoolStore D) :
    Except RuntimeError (Option Uuid × PoolStore D) :=
  if isCanonicalCloudWorkspaceRef tenantRef = false ∨ settings.target = 0 then
    .ok (none, store)
  else
    match store.assignReadyWorkspaceOnce env settings now tenantRef locked with
    | .ok assigned => .ok assigned
    | .error error =>
      -- The savepoint is rolled back before the reread.
      if error.kind = .integrity then
        .ok ((store.db.workspaceByTenant tenantRef).map Prod.fst, store)
      else .error error

/-- `register_workspace`. -/
def registerFromPool (env : Env D) (settings : PoolSettings) (now : Instant)
    (tenantRef : String) (locked : List Uuid) (store : PoolStore D) :
    Except RuntimeError (Uuid × PoolStore D) := do
  require (tenantRef ≠ "" ∧ tenantRef.length ≤ 255) (validationError "workspace_id is invalid")
  match store.db.workspaceByTenant tenantRef with
  | some existing => return (existing.1, store)
  | none =>
    let (assigned, next) ← store.assignReadyWorkspace env settings now tenantRef locked
    match assigned with
    | some workspaceId => return (workspaceId, next)
    | none =>
      let (workspaceId, db) ← registerWorkspace tenantRef next.db
      return (workspaceId, { next with db := db })

end PoolStore

end Foundry
